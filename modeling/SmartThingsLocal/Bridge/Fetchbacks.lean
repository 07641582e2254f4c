import SmartThingsLocal.Bridge.Notifications
import SmartThingsLocal.Foundation.Logs
import SmartThingsLocal.Foundation.Machine

/-!
# Fetchbacks

A notification that does not decode is read again by a thread of its own, under a generation that
the thread checks before and after the read. Notifications that decode are applied at once and
take no generation.
-/

namespace SmartThingsLocal

/-- Where `_fetch_back` is between two steps. -/
inductive FetchPoint
  | started
  | reading
  | answered (code : ℕ) (payload : ByteString)
  | confirmed (code : ℕ) (payload : ByteString)
  | finished
  deriving DecidableEq, Repr

/-- One thread of `_fetch_back`. -/
structure Fetchback where
  href : String
  gen : ℕ
  source : String
  point : FetchPoint
  deriving DecidableEq, Repr

inductive BridgeEvent
  | taken (href : String) (gen : ℕ)
  | pushed (href : String)
  | fetched (href : String) (gen : ℕ)
  deriving DecidableEq, Repr

/-- The bridge with its fetchbacks, and what has happened so far. -/
structure BridgeSystem (V S : Type) where
  bridge : Bridge V S
  fetchbacks : List Fetchback
  log : List BridgeEvent

/-- A notification comes in, or a fetchback moves on; there is no answer when the GET fails. -/
inductive BridgeAction
  | notify (href : String) (payload : ByteString) (source : String) (now : ℕ)
  | fetch (index : ℕ) (answer : Option (ℕ × ByteString)) (now : ℕ)
  deriving DecidableEq, Repr

namespace Fetchback

variable {V S : Type} [DecidableEq V]

/-- One step of `_fetch_back`, which is started without a delay. -/
def step (context : BridgeContext V S) (bridge : Bridge V S) (fetchback : Fetchback)
    (answer : Option (ℕ × ByteString)) (now : ℕ) : Bridge V S × FetchPoint × Notified V :=
  match fetchback.point with
  | .started =>
      (bridge, if bridge.generation fetchback.href = fetchback.gen then .reading else .finished,
        .ignored)
  | .reading =>
      match answer with
      | none => (bridge, .finished, .ignored)
      | some (code, payload) => (bridge, .answered code payload, .ignored)
  | .answered code payload =>
      (bridge, if bridge.generation fetchback.href = fetchback.gen then .confirmed code payload
        else .finished, .ignored)
  | .confirmed code payload =>
      let (bridge, notified) :=
        bridge.applyFetched context fetchback.href code payload fetchback.source now
      (bridge, .finished, notified)
  | .finished => (bridge, .finished, .ignored)

omit [DecidableEq V] in
/-- The next step applies a representation. -/
def applies (context : BridgeContext V S) (fetchback : Fetchback) : Bool :=
  match fetchback.point with
  | .confirmed code payload => (context.fetched? code payload).isSome
  | _ => false

end Fetchback

namespace BridgeSystem

variable {V S : Type} [DecidableEq V]

def perform (context : BridgeContext V S) (action : BridgeAction) (state : BridgeSystem V S) :
    BridgeSystem V S :=
  match action with
  | .notify href payload source now =>
      match state.bridge.onNotification context href payload source now with
      | (bridge, .ignored) => { state with bridge }
      | (bridge, .applied _) => { state with bridge, log := state.log ++ [.pushed href] }
      | (bridge, .scheduled gen) =>
          { bridge
            fetchbacks := state.fetchbacks ++ [⟨href, gen, source, .started⟩]
            log := state.log ++ [.taken href gen] }
  | .fetch index answer now =>
      match state.fetchbacks[index]? with
      | none => state
      | some fetchback =>
          let (bridge, point, notified) := fetchback.step context state.bridge answer now
          { bridge
            fetchbacks := state.fetchbacks.set index { fetchback with point }
            log := match notified with
              | .applied _ => state.log ++ [.fetched fetchback.href fetchback.gen]
              | _ => state.log }

end BridgeSystem

/-! ### Fresh results -/

/-- A representation of a resource is applied. -/
def BridgeEvent.AppliesTo (href : String) : BridgeEvent → Prop
  | .taken _ _ => False
  | .pushed other | .fetched other _ => other = href

/-- No representation of the resource was applied since a generation was taken. -/
def Latest (log : List BridgeEvent) (href : String) (gen : ℕ) : Prop :=
  ∃ earlier later, log = earlier ++ .taken href gen :: later ∧
    ∀ event ∈ later, ¬event.AppliesTo href

/-- A fetchback was only applied while its generation was the latest word on its resource. -/
def FreshFetches (log : List BridgeEvent) : Prop :=
  ∀ before href gen after, log = before ++ .fetched href gen :: after → Latest before href gen

/--
A notification is applied when the fetchback of the latest generation has ended, and a fetchback
when no generation was taken since it checked its own.
-/
def FetchesApart {V S : Type} (context : BridgeContext V S) (state : BridgeSystem V S) :
    BridgeAction → Prop
  | .notify href payload _ _ =>
      (context.notified? payload).isSome = true →
        ∀ fetchback ∈ state.fetchbacks, fetchback.href = href →
          fetchback.gen = state.bridge.generation href → fetchback.point = .finished
  | .fetch index _ _ =>
      ∀ fetchback ∈ state.fetchbacks[index]?, fetchback.applies context = true →
        fetchback.gen = state.bridge.generation fetchback.href

instance decidableFetchesApart {V S : Type} (context : BridgeContext V S)
    (state : BridgeSystem V S) :
    ∀ action : BridgeAction, Decidable (FetchesApart context state action)
  | .notify href payload _ _ => inferInstanceAs (Decidable
      ((context.notified? payload).isSome = true →
        ∀ fetchback ∈ state.fetchbacks, fetchback.href = href →
          fetchback.gen = state.bridge.generation href → fetchback.point = .finished))
  | .fetch index _ _ => inferInstanceAs (Decidable
      (∀ fetchback ∈ state.fetchbacks[index]?, fetchback.applies context = true →
        fetchback.gen = state.bridge.generation fetchback.href))

theorem Latest.append {log : List BridgeEvent} {href : String} {gen : ℕ} {event : BridgeEvent}
    (latest : Latest log href gen) (silent : ¬event.AppliesTo href) :
    Latest (log ++ [event]) href gen := by
  rcases latest with ⟨earlier, later, rfl, quiet⟩
  refine ⟨earlier, later ++ [event], ?_, ?_⟩
  · rw [List.append_assoc, List.cons_append]
  · exact List.forall_mem_append.mpr ⟨quiet, List.forall_mem_singleton.mpr silent⟩

theorem latest_taken (log : List BridgeEvent) (href : String) (gen : ℕ) :
    Latest (log ++ [.taken href gen]) href gen :=
  ⟨log, [], rfl, List.forall_mem_nil _⟩

theorem FreshFetches.append {log : List BridgeEvent} {event : BridgeEvent}
    (fresh : FreshFetches log)
    (last : ∀ href gen, event = .fetched href gen → Latest log href gen) :
    FreshFetches (log ++ [event]) := by
  intro before href gen after split
  rcases List.eq_append_cons_of_concat split with ⟨rfl, same, -⟩ | ⟨earlier, -, logged⟩
  · exact last href gen same
  · exact fresh before href gen earlier logged

/-! ### Runs -/

/-- Fetchbacks have generations of their own, and the latest has nothing to fear. -/
structure FetchInvariant {V S : Type} (state : BridgeSystem V S) : Prop where
  issued : ∀ fetchback ∈ state.fetchbacks,
    fetchback.gen ≤ state.bridge.generation fetchback.href
  distinct : ∀ (i j : ℕ) (fetchback other : Fetchback), state.fetchbacks[i]? = some fetchback →
    state.fetchbacks[j]? = some other → fetchback.href = other.href →
      fetchback.gen = other.gen → i = j
  latest : ∀ fetchback ∈ state.fetchbacks, fetchback.point ≠ .finished →
    fetchback.gen = state.bridge.generation fetchback.href →
      Latest state.log fetchback.href fetchback.gen
  fresh : FreshFetches state.log

theorem getElem?_started {fetchbacks : List Fetchback} {i : ℕ} {fetchback last : Fetchback}
    (isFound : (fetchbacks ++ [last])[i]? = some fetchback) :
    fetchbacks[i]? = some fetchback ∨ i = fetchbacks.length ∧ fetchback = last := by
  rw [List.getElem?_append] at isFound
  split_ifs at isFound with within
  · exact .inl isFound
  · rcases List.getElem?_eq_some_iff.mp isFound with ⟨single, same⟩
    rw [List.length_singleton] at single
    rw [List.getElem_singleton] at same
    exact .inr ⟨by omega, same.symm⟩

/-- A fetchback keeps its resource and its generation when it moves on. -/
theorem getElem?_moved {fetchbacks : List Fetchback} {i j : ℕ} {fetchback other : Fetchback}
    {point : FetchPoint} (isFound : (fetchbacks.set i { fetchback with point })[j]? = some other) :
    (j = i ∧ other = { fetchback with point }) ∨ (j ≠ i ∧ fetchbacks[j]? = some other) := by
  rw [List.getElem?_set] at isFound
  split_ifs at isFound with same within
  · exact .inl ⟨same.symm, (Option.some.inj isFound).symm⟩
  · exact .inr ⟨Ne.symm same, isFound⟩

variable {V S : Type} {bridge : Bridge V S} {fetchbacks : List Fetchback}
  {log : List BridgeEvent}

namespace FetchInvariant

/-- A notification that decodes, while nothing current is in flight for its resource. -/
theorem pushed (invariant : FetchInvariant (⟨bridge, fetchbacks, log⟩ : BridgeSystem V S))
    {cache : StateCache V S} {href : String}
    (ended : ∀ fetchback ∈ fetchbacks, fetchback.href = href →
      fetchback.gen = bridge.generation href → fetchback.point = .finished) :
    FetchInvariant (⟨{ bridge with cache }, fetchbacks, log ++ [.pushed href]⟩ :
      BridgeSystem V S) := by
  refine ⟨invariant.issued, invariant.distinct, ?_, invariant.fresh.append nofun⟩
  intro fetchback fetchbackMem unfinished current
  apply (invariant.latest fetchback fetchbackMem unfinished current).append
  intro same
  have own : href = fetchback.href := same
  exact unfinished (ended fetchback fetchbackMem own.symm (own ▸ current))

theorem generation_set (bridge : Bridge V S) (href other : String) (gen : ℕ) :
    Bridge.generation { bridge with fetchGen := bridge.fetchGen.set href gen } other =
      if other = href then gen else bridge.generation other := by
  rw [Bridge.generation, OrderedDict.get?_set]
  split_ifs <;> rfl

/-- A notification that does not decode. -/
theorem taken (invariant : FetchInvariant (⟨bridge, fetchbacks, log⟩ : BridgeSystem V S))
    (href source : String) :
    FetchInvariant (⟨{ bridge with
        fetchGen := bridge.fetchGen.set href (bridge.generation href + 1) },
      fetchbacks ++ [⟨href, bridge.generation href + 1, source, .started⟩],
      log ++ [.taken href (bridge.generation href + 1)]⟩ : BridgeSystem V S) := by
  refine ⟨?_, ?_, ?_, invariant.fresh.append nofun⟩
  · intro fetchback fetchbackMem
    rw [generation_set]
    rcases List.mem_append.mp fetchbackMem with earlier | new
    · have issued := invariant.issued fetchback earlier
      split_ifs with same
      · rw [same] at issued
        exact issued.trans (Nat.le_succ _)
      · exact issued
    · rw [List.mem_singleton.mp new, if_pos rfl]
  · intro i j fetchback other found foundOther sameHref sameGen
    have bounded {k : ℕ} {entry : Fetchback} (isFound : fetchbacks[k]? = some entry)
        (own : entry.href = href) : entry.gen ≤ bridge.generation href := by
      have issued := invariant.issued entry (List.mem_of_getElem? isFound)
      rw [own] at issued
      exact issued
    rcases getElem?_started found with earlier | ⟨isLast, rfl⟩ <;>
      rcases getElem?_started foundOther with earlierOther | ⟨isLastOther, rfl⟩
    · exact invariant.distinct i j _ _ earlier earlierOther sameHref sameGen
    · have issued := bounded earlier sameHref
      dsimp only at sameGen
      omega
    · have issued := bounded earlierOther sameHref.symm
      dsimp only at sameGen
      omega
    · omega
  · intro fetchback fetchbackMem unfinished current
    rw [generation_set] at current
    rcases List.mem_append.mp fetchbackMem with earlier | new
    · have issued := invariant.issued fetchback earlier
      split_ifs at current with same
      · rw [same] at issued
        dsimp only at issued
        omega
      · exact (invariant.latest fetchback earlier unfinished current).append id
    · rw [List.mem_singleton.mp new]
      exact latest_taken _ _ _

theorem distinct_moved (invariant : FetchInvariant (⟨bridge, fetchbacks, log⟩ : BridgeSystem V S))
    {index i j : ℕ} {fetchback left right : Fetchback} {point : FetchPoint}
    (found : fetchbacks[index]? = some fetchback)
    (isLeft : (fetchbacks.set index { fetchback with point })[i]? = some left)
    (isRight : (fetchbacks.set index { fetchback with point })[j]? = some right)
    (sameHref : left.href = right.href) (sameGen : left.gen = right.gen) : i = j := by
  rcases getElem?_moved isLeft with ⟨rfl, rfl⟩ | ⟨_, atLeft⟩ <;>
    rcases getElem?_moved isRight with ⟨rfl, rfl⟩ | ⟨_, atRight⟩
  · rfl
  · exact invariant.distinct _ _ _ _ found atRight sameHref sameGen
  · exact invariant.distinct _ _ _ _ atLeft found sameHref sameGen
  · exact invariant.distinct _ _ _ _ atLeft atRight sameHref sameGen

theorem issued_moved (invariant : FetchInvariant (⟨bridge, fetchbacks, log⟩ : BridgeSystem V S))
    {index : ℕ} {fetchback other : Fetchback} {point : FetchPoint}
    (found : fetchbacks[index]? = some fetchback)
    (otherMem : other ∈ fetchbacks.set index { fetchback with point }) :
    other.gen ≤ bridge.generation other.href := by
  rcases List.mem_or_eq_of_mem_set otherMem with earlier | rfl
  · exact invariant.issued other earlier
  · exact invariant.issued fetchback (List.mem_of_getElem? found)

/-- A fetchback moves on without applying anything. -/
theorem moved (invariant : FetchInvariant (⟨bridge, fetchbacks, log⟩ : BridgeSystem V S))
    {index : ℕ} {fetchback : Fetchback} {point : FetchPoint}
    (found : fetchbacks[index]? = some fetchback)
    (unfinished : point ≠ .finished → fetchback.point ≠ .finished) :
    FetchInvariant (⟨bridge, fetchbacks.set index { fetchback with point }, log⟩ :
      BridgeSystem V S) := by
  refine ⟨fun other => invariant.issued_moved found, fun i j left right =>
    invariant.distinct_moved found, ?_, invariant.fresh⟩
  intro other otherMem otherUnfinished current
  rcases List.mem_or_eq_of_mem_set otherMem with earlier | rfl
  · exact invariant.latest other earlier otherUnfinished current
  · exact invariant.latest fetchback (List.mem_of_getElem? found) (unfinished otherUnfinished)
      current

/-- The fetchback of the latest generation is applied. -/
theorem fetched (invariant : FetchInvariant (⟨bridge, fetchbacks, log⟩ : BridgeSystem V S))
    {index : ℕ} {fetchback : Fetchback} {cache : StateCache V S}
    (found : fetchbacks[index]? = some fetchback)
    (unfinished : fetchback.point ≠ .finished)
    (current : fetchback.gen = bridge.generation fetchback.href) :
    FetchInvariant (⟨{ bridge with cache },
      fetchbacks.set index { fetchback with point := .finished },
      log ++ [.fetched fetchback.href fetchback.gen]⟩ : BridgeSystem V S) := by
  have latest := invariant.latest fetchback (List.mem_of_getElem? found) unfinished current
  refine ⟨fun other => invariant.issued_moved found, fun i j left right =>
    invariant.distinct_moved found, ?_, invariant.fresh.append ?_⟩
  · intro other otherMem otherUnfinished otherCurrent
    rcases List.mem_iff_getElem?.mp otherMem with ⟨j, isOther⟩
    rcases getElem?_moved isOther with ⟨_, rfl⟩ | ⟨apart, atOther⟩
    · exact absurd rfl otherUnfinished
    · apply (invariant.latest other (List.mem_of_getElem? atOther) otherUnfinished
        otherCurrent).append
      intro same
      have own : fetchback.href = other.href := same
      apply apart
      apply invariant.distinct _ _ _ _ atOther found own.symm
      rw [current, own]
      exact otherCurrent
  · intro href gen isEvent
    cases isEvent
    exact latest

end FetchInvariant

variable [DecidableEq V] {context : BridgeContext V S}

/-- A step of a fetchback applies its result and ends it, or leaves the bridge as it is. -/
theorem Fetchback.step_cases (context : BridgeContext V S) (bridge : Bridge V S)
    (fetchback : Fetchback) (answer : Option (ℕ × ByteString)) (now : ℕ) :
    (∃ cache rep, fetchback.applies context = true ∧ fetchback.point ≠ .finished ∧
      fetchback.step context bridge answer now = ({ bridge with cache }, .finished, .applied rep)) ∨
    ∃ point, (point ≠ .finished → fetchback.point ≠ .finished) ∧
      fetchback.step context bridge answer now = (bridge, point, .ignored) := by
  rcases fetchback with ⟨href, gen, source, point⟩
  cases point with
  | started => exact .inr ⟨_, fun _ => nofun, rfl⟩
  | reading =>
      rcases answer with _ | ⟨code, payload⟩
      · exact .inr ⟨_, fun _ => nofun, rfl⟩
      · exact .inr ⟨_, fun _ => nofun, rfl⟩
  | answered code payload => exact .inr ⟨_, fun _ => nofun, rfl⟩
  | confirmed code payload =>
      rcases bridge.applyFetched_cases context href code payload source now with
        ⟨rep, decoded, applied⟩ | ⟨_, ignored⟩
      · refine .inl ⟨(bridge.cache.applyRep context.hook href (.dict rep) source false now).1, rep,
          ?_, nofun, ?_⟩
        · simp only [applies]
          rw [decoded, Option.isSome_some]
        · simp only [step]
          rw [applied]
      · refine .inr ⟨.finished, fun _ => nofun, ?_⟩
        simp only [step]
        rw [ignored]
  | finished => exact .inr ⟨_, id, rfl⟩

/-- An action that keeps its distance keeps the invariant. -/
theorem FetchInvariant.perform {state : BridgeSystem V S} (invariant : FetchInvariant state)
    (action : BridgeAction) (apart : FetchesApart context state action) :
    FetchInvariant (state.perform context action) := by
  rcases state with ⟨bridge, fetchbacks, log⟩
  cases action with
  | notify href payload source now =>
      rw [BridgeSystem.perform]
      rcases bridge.onNotification_cases context href payload source now with
        ⟨rep, decoded, applied⟩ | ⟨_, ignored | scheduled⟩
      · rw [applied]
        exact invariant.pushed (apart (decoded ▸ rfl))
      · rw [ignored]
        exact invariant
      · rw [scheduled]
        exact invariant.taken href source
  | fetch index answer now =>
      rw [BridgeSystem.perform]
      rcases found : fetchbacks[index]? with _ | fetchback
      · exact invariant
      · dsimp only
        rcases fetchback.step_cases context bridge answer now with
          ⟨cache, rep, applies, unfinished, step⟩ | ⟨point, unfinished, step⟩
        · rw [step]
          exact invariant.fetched found unfinished (apart fetchback found applies)
        · rw [step]
          exact invariant.moved found unfinished

/--
In every interleaving in which notifications and fetchbacks of one resource keep apart, a fetchback
is applied only if nothing else was applied to its resource since its generation was taken.
-/
theorem fetchbacks_never_stale (context : BridgeContext V S) (bridge : Bridge V S)
    {actions : List BridgeAction}
    (apart : Machine.Meets (BridgeSystem.perform context) (FetchesApart context) actions
      ⟨bridge, [], []⟩) :
    FreshFetches (Machine.run (BridgeSystem.perform context) actions ⟨bridge, [], []⟩).log := by
  have initial : FetchInvariant (⟨bridge, [], []⟩ : BridgeSystem V S) := by
    refine ⟨List.forall_mem_nil _, nofun, List.forall_mem_nil _, ?_⟩
    intro before href gen after impossible
    simp at impossible
  exact (Machine.invariant_run (fun state action invariant => invariant.perform action) apart
    initial).fresh

/-- Two notifications, the first one without a payload, each applied before the next comes in. -/
theorem fetchbacks_never_stale_example :
    FreshFetches (Machine.run
      (BridgeSystem.perform ⟨fun _ => some (.dict (OrderedDict.empty.set "x" 1)), none⟩)
      [.notify "/a" [] "observe" 0, .fetch 0 none 1, .fetch 0 (some (0x45, [1])) 2,
        .fetch 0 none 3, .fetch 0 none 4, .notify "/a" [1] "observe" 5]
      (⟨{ cache := .new () }, [], []⟩ : BridgeSystem ℕ Unit)).log := by
  apply fetchbacks_never_stale
  decide

/-- A notification that is applied while a fetchback reads is overwritten by it. -/
theorem fetchback_overwrites_notification :
    ¬∀ (context : BridgeContext ℕ Unit) (bridge : Bridge ℕ Unit) (actions : List BridgeAction),
      FreshFetches (Machine.run (BridgeSystem.perform context) actions ⟨bridge, [], []⟩).log := by
  intro always
  have fresh := always ⟨fun _ => some (.dict (OrderedDict.empty.set "x" 1)), none⟩
    { cache := .new () }
    [.notify "/a" [] "observe" 0, .fetch 0 none 1, .notify "/a" [1] "observe" 2,
      .fetch 0 (some (0x45, [1])) 3, .fetch 0 none 4, .fetch 0 none 5]
    [.taken "/a" 1, .pushed "/a"] "/a" 1 [] (by decide)
  rcases fresh with ⟨earlier, later, split, quiet⟩
  rcases earlier with _ | ⟨first, _ | ⟨second, rest⟩⟩
  · rw [List.nil_append, List.cons.injEq] at split
    rw [← split.2] at quiet
    exact quiet (.pushed "/a") List.mem_cons_self rfl
  · cases split
  · simp at split

end SmartThingsLocal
