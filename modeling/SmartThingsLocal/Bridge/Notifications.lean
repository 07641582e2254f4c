import SmartThingsLocal.Ocf.StateCache
import SmartThingsLocal.Session.RefetchWorker

/-!
# Notifications at the bridge

What the session delivers on an Observe relation reaches the cache through `_on_notification`,
directly or by way of a fetchback. The bridge knows the shape of a payload only by the
registration flag of its delivery.
-/

namespace SmartThingsLocal

/-- The bridge with its cache and the generations of its fetchbacks. -/
structure Bridge (V S : Type) where
  cache : StateCache V S
  fetchGen : OrderedDict String ℕ := .empty

/-- `cbor2.loads`, with nothing where it raises, and the descriptor's observation hook. -/
structure BridgeContext (V S : Type) where
  loads : ByteString → Option (Decoded V)
  hook : ObservationHook V S

/-- What came of a notification. -/
inductive Notified (V : Type)
  | ignored
  | applied (rep : Rep V)
  | scheduled (gen : ℕ)
  deriving DecidableEq

namespace Bridge

variable {V S : Type} [DecidableEq V]

def generation (bridge : Bridge V S) (href : String) : ℕ := (bridge.fetchGen.get? href).getD 0

/-- The block of `_schedule_fetchback` under the lock. -/
def scheduleFetchback (bridge : Bridge V S) (href : String) : Bridge V S × Notified V :=
  let gen := bridge.generation href + 1
  ({ bridge with fetchGen := bridge.fetchGen.set href gen }, .scheduled gen)

def onNotification (context : BridgeContext V S) (bridge : Bridge V S) (href : String)
    (payload : ByteString) (source : String) (now : ℕ) : Bridge V S × Notified V :=
  if payload = [] then bridge.scheduleFetchback href
  else
    match context.loads payload with
    | none => bridge.scheduleFetchback href
    | some .other => (bridge, .ignored)
    | some (.dict rep) =>
        let cache := (bridge.cache.applyRep context.hook href (.dict rep) source
          (source = "observe") now).1
        ({ bridge with cache }, .applied rep)

def onObserveDelivery (context : BridgeContext V S) (bridge : Bridge V S)
    (delivery : ObserveDelivery) (now : ℕ) : Bridge V S × Notified V :=
  bridge.onNotification context delivery.href delivery.payload
    (if delivery.registration then "observe-register" else "observe") now

/-- The end of `_fetch_back`, after its generation was confirmed. -/
def applyFetched (context : BridgeContext V S) (bridge : Bridge V S) (href : String)
    (code : ℕ) (payload : ByteString) (source : String) (now : ℕ) : Bridge V S × Notified V :=
  if code ≠ 0x45 then (bridge, .ignored)
  else
    match if payload = [] then some (.dict .empty) else context.loads payload with
    | some (.dict rep) =>
        let cache := (bridge.cache.applyRep context.hook href (.dict rep) source false now).1
        ({ bridge with cache }, .applied rep)
    | _ => (bridge, .ignored)

end Bridge

/-! ### What is applied -/

namespace BridgeContext

variable {V S : Type}

/-- The representation that a notification carries. -/
def notified? (context : BridgeContext V S) (payload : ByteString) : Option (Rep V) :=
  if payload = [] then none
  else
    match context.loads payload with
    | some (.dict rep) => some rep
    | _ => none

/-- The representation that the answer to a fetchback carries. -/
def fetched? (context : BridgeContext V S) (code : ℕ) (payload : ByteString) : Option (Rep V) :=
  if code ≠ 0x45 then none
  else
    match if payload = [] then some (.dict .empty) else context.loads payload with
    | some (.dict rep) => some rep
    | _ => none

end BridgeContext

namespace Bridge

variable {V S : Type} [DecidableEq V] {context : BridgeContext V S} {bridge : Bridge V S}
  {href source : String} {payload : ByteString} {code now : ℕ} {rep : Rep V}

/-- A notification is applied, ignored, or leads to a fetchback of a new generation. -/
theorem onNotification_cases (context : BridgeContext V S) (bridge : Bridge V S) (href : String)
    (payload : ByteString) (source : String) (now : ℕ) :
    (∃ rep, context.notified? payload = some rep ∧
      bridge.onNotification context href payload source now =
        ({ bridge with
          cache := (bridge.cache.applyRep context.hook href (.dict rep) source
            (source = "observe") now).1 }, .applied rep)) ∨
    (context.notified? payload = none ∧
      (bridge.onNotification context href payload source now = (bridge, .ignored) ∨
        bridge.onNotification context href payload source now =
          bridge.scheduleFetchback href)) := by
  rw [onNotification, BridgeContext.notified?]
  by_cases empty : payload = []
  · rw [if_pos empty, if_pos empty]
    exact .inr ⟨rfl, .inr rfl⟩
  · rw [if_neg empty, if_neg empty]
    rcases context.loads payload with _ | rep | _
    · exact .inr ⟨rfl, .inr rfl⟩
    · exact .inl ⟨rep, rfl, rfl⟩
    · exact .inr ⟨rfl, .inl rfl⟩

/-- The answer to a fetchback is applied as a whole, or ignored. -/
theorem applyFetched_cases (context : BridgeContext V S) (bridge : Bridge V S) (href : String)
    (code : ℕ) (payload : ByteString) (source : String) (now : ℕ) :
    (∃ rep, context.fetched? code payload = some rep ∧
      bridge.applyFetched context href code payload source now =
        ({ bridge with
          cache := (bridge.cache.applyRep context.hook href (.dict rep) source false now).1 },
          .applied rep)) ∨
    (context.fetched? code payload = none ∧
      bridge.applyFetched context href code payload source now = (bridge, .ignored)) := by
  rw [applyFetched, BridgeContext.fetched?]
  by_cases failed : code ≠ 0x45
  · rw [if_pos failed, if_pos failed]
    exact .inr ⟨rfl, rfl⟩
  · rw [if_neg failed, if_neg failed]
    generalize (if payload = [] then some (.dict .empty) else context.loads payload) = content
    rcases content with _ | rep | _
    · exact .inr ⟨rfl, rfl⟩
    · exact .inl ⟨rep, rfl, rfl⟩
    · exact .inr ⟨rfl, rfl⟩

end Bridge

/-! ### Complete and partial representations -/

/--
What arrives at the bridge: a message that was delivered as it came, the result of a Block2
re-read, or the answer to a fetchback.
-/
inductive BridgeArrival
  | message (delivery : ObserveDelivery)
  | reread (delivery : ObserveDelivery)
  | fetched (href : String) (code : ℕ) (payload : ByteString) (source : String)
  deriving DecidableEq, Repr

namespace BridgeArrival

variable {V S : Type} [DecidableEq V]

def href : BridgeArrival → String
  | message delivery | reread delivery => delivery.href
  | fetched href _ _ _ => href

/-- Everything but a message that was pushed holds a representation as a whole. -/
def complete : BridgeArrival → Bool
  | message delivery => delivery.registration
  | _ => true

/-- The arrival at the bridge, and what came of it. -/
def handle (context : BridgeContext V S) (bridge : Bridge V S) (now : ℕ) :
    BridgeArrival → Bridge V S × Notified V
  | message delivery | reread delivery => bridge.onObserveDelivery context delivery now
  | fetched href code payload source => bridge.applyFetched context href code payload source now

/-- An arrival at a time. -/
def perform (context : BridgeContext V S) (action : ℕ × BridgeArrival) (bridge : Bridge V S) :
    Bridge V S :=
  (action.2.handle context bridge action.1).1

/--
A complete representation that is applied is what is cached afterwards; a pushed one is folded
into what was held.
-/
def Faithful (context : BridgeContext V S) (bridge : Bridge V S) (action : ℕ × BridgeArrival) :
    Prop :=
  ∀ rep, (action.2.handle context bridge action.1).2 = .applied rep →
    sameRep ((perform context action bridge).cache.get action.2.href)
      (some (if action.2.complete then rep
        else StateCache.resulting (bridge.cache.get action.2.href) rep true)) = true

/-- The representation that a payload decodes to, if it is taken at all. -/
def rep? (context : BridgeContext V S) : BridgeArrival → Option (Rep V)
  | message delivery | reread delivery => context.notified? delivery.payload
  | fetched _ code payload _ => context.fetched? code payload

/-- A re-read for a pushed notification mentions every key that is held. -/
def RereadCovers (context : BridgeContext V S) (bridge : Bridge V S) (action : ℕ × BridgeArrival) :
    Prop :=
  ∀ delivery rep, action.2 = reread delivery → delivery.registration = false →
    action.2.rep? context = some rep →
      ∀ key, rep.get? key = none →
        ((bridge.cache.get action.2.href).getD .empty).get? key = none

/-- Whether the bridge folds a representation into the one it holds. -/
def merges : BridgeArrival → Bool
  | message delivery | reread delivery => !delivery.registration
  | fetched _ _ _ _ => false

variable {context : BridgeContext V S} {bridge : Bridge V S} {now : ℕ} {arrival : BridgeArrival}
  {rep : Rep V}

theorem merge_source (registration : Bool) :
    decide ((if registration then "observe-register" else "observe") = "observe") =
      !registration := by
  cases registration <;> decide

theorem onObserveDelivery_cases (context : BridgeContext V S) (bridge : Bridge V S)
    (delivery : ObserveDelivery) (now : ℕ) :
    (∃ rep, context.notified? delivery.payload = some rep ∧
      (bridge.onObserveDelivery context delivery now).2 = .applied rep ∧
      (bridge.onObserveDelivery context delivery now).1.cache.get delivery.href =
        some (StateCache.resulting (bridge.cache.get delivery.href) rep
          (!delivery.registration))) ∨
    (context.notified? delivery.payload = none ∧
      ∀ rep, (bridge.onObserveDelivery context delivery now).2 ≠ .applied rep) := by
  rw [Bridge.onObserveDelivery]
  rcases bridge.onNotification_cases context delivery.href delivery.payload
    (if delivery.registration then "observe-register" else "observe") now with
    ⟨rep, decoded, step⟩ | ⟨undecoded, step | step⟩
  · refine .inl ⟨rep, decoded, by rw [step], ?_⟩
    rw [step, merge_source]
    exact StateCache.get_applyRep
  · exact .inr ⟨undecoded, by rw [step]; nofun⟩
  · exact .inr ⟨undecoded, by rw [step]; nofun⟩

/-- An arrival that carries a representation has it applied. -/
theorem handle_cases (context : BridgeContext V S) (bridge : Bridge V S) (now : ℕ)
    (arrival : BridgeArrival) :
    (∃ rep, arrival.rep? context = some rep ∧
      (arrival.handle context bridge now).2 = .applied rep ∧
      (arrival.handle context bridge now).1.cache.get arrival.href =
        some (StateCache.resulting (bridge.cache.get arrival.href) rep arrival.merges)) ∨
    (arrival.rep? context = none ∧
      ∀ rep, (arrival.handle context bridge now).2 ≠ .applied rep) := by
  cases arrival with
  | message delivery => exact onObserveDelivery_cases context bridge delivery now
  | reread delivery => exact onObserveDelivery_cases context bridge delivery now
  | fetched href code payload source =>
      rcases bridge.applyFetched_cases context href code payload source now with
        ⟨rep, decoded, step⟩ | ⟨undecoded, step⟩
      · refine .inl ⟨rep, decoded, by rw [handle, step], ?_⟩
        rw [handle, step]
        exact StateCache.get_applyRep
      · exact .inr ⟨undecoded, by rw [handle, step]; nofun⟩

/-- Folding a representation in leaves it alone exactly when it mentions every key. -/
theorem sameRep_resulting_merge (held : Option (Rep V)) (rep : Rep V) :
    sameRep (some (StateCache.resulting held rep true)) (some rep) = true ↔
      ∀ key, rep.get? key = none → (held.getD .empty).get? key = none := by
  rw [StateCache.sameRep_some]
  refine forall_congr' fun key => ?_
  rw [StateCache.get?_resulting_merge]
  rcases rep.get? key with _ | value
  · simp
  · simp

theorem faithful_iff (action : ℕ × BridgeArrival) :
    Faithful context bridge action ↔ RereadCovers context bridge action := by
  rcases action with ⟨now, arrival⟩
  rw [Faithful, RereadCovers]
  dsimp only [perform]
  rcases handle_cases context bridge now arrival with ⟨rep, decoded, applied, cached⟩ |
    ⟨undecoded, ignored⟩
  · rw [applied, cached, decoded]
    cases arrival with
    | message delivery =>
        refine iff_of_true (fun rep' same => ?_) (by simp)
        cases same
        rw [merges, complete]
        rcases delivery.registration with _ | _
        · exact StateCache.sameRep_refl _
        · rw [Bool.not_true, StateCache.resulting_replace]
          exact StateCache.sameRep_refl _
    | reread delivery =>
        simp only [merges, complete, if_true]
        rcases pushed : delivery.registration with _ | _
        · constructor
          · intro faithful delivery' rep' _ _ same
            cases same
            exact (sameRep_resulting_merge _ rep).mp (faithful rep rfl)
          · intro covers rep' same
            cases same
            exact (sameRep_resulting_merge _ rep).mpr (covers delivery rep rfl pushed rfl)
        · refine iff_of_true (fun rep' same => ?_) ?_
          · cases same
            rw [Bool.not_true, StateCache.resulting_replace]
            exact StateCache.sameRep_refl _
          · rintro delivery' rep' same registration
            cases same
            rw [pushed] at registration
            cases registration
    | fetched href code payload source =>
        refine iff_of_true (fun rep' same => ?_) (by simp)
        cases same
        simp only [merges, complete, if_true, StateCache.resulting_replace]
        exact StateCache.sameRep_refl _
  · refine iff_of_true (fun rep applied => absurd applied (ignored rep)) ?_
    intro delivery rep _ _ decoded
    rw [undecoded] at decoded
    cases decoded

/--
From any cached state, every arrival that is applied replaces what is held or is folded into it as
its shape demands, exactly when each re-read for a pushed notification mentions all keys held.
-/
theorem faithful_run_iff (context : BridgeContext V S) (bridge : Bridge V S)
    (arrivals : List (ℕ × BridgeArrival)) :
    Machine.Meets (perform context) (Faithful context) arrivals bridge ↔
      Machine.Meets (perform context) (RereadCovers context) arrivals bridge := by
  induction arrivals generalizing bridge with
  | nil => exact Iff.rfl
  | cons action arrivals ih => exact and_congr (faithful_iff action) (ih _)

/-- A re-read for a pushed notification keeps a key that the resource no longer has. -/
theorem reread_keeps_old_key :
    ¬∀ (context : BridgeContext ℕ Unit) (bridge : Bridge ℕ Unit)
        (arrivals : List (ℕ × BridgeArrival)),
      Machine.Meets (perform context) (Faithful context) arrivals bridge := by
  intro always
  have kept := always
    ⟨fun _ => some (.dict (OrderedDict.empty.set "x" 1)), none⟩
    { cache := (StateCache.new ()).storeRep "/a"
        ((OrderedDict.empty.set "x" 1).set "y" 2) "seed" false 0 }
    [(0, .reread ⟨"/a", [1], [], false, none, false⟩)]
  have same := kept.1 (OrderedDict.empty.set "x" 1) rfl
  revert same
  decide

end BridgeArrival

end SmartThingsLocal
