import SmartThingsLocal.Session.Reader

/-!
# The two indices of pending requests

A request is registered under its token and under its Message ID. Whatever the
threads of the requests and the reader do, in any order, the two indices hold the
same requests, each under one key: an exchange is added to both at once, leaves
both at once, and its keys are taken by nobody else while it is in them.
-/

namespace SmartThingsLocal

open Session

/-- What `_register_pending_request` returns to its caller, with the token it was given. -/
structure IssuedExchange where
  tok : ByteString
  mid : ℕ
  request : RequestId
  deriving DecidableEq, Repr

namespace Registry

/-- The two indices and the allocation of records are the same. -/
structure SameIndices (before after : Registry) : Prop where
  pending : after.pending = before.pending
  pendingMids : after.pendingMids = before.pendingMids
  nextRequest : after.nextRequest = before.nextRequest

/-- Both indices hold the same requests, each under one key. -/
structure Bijection (registry : Registry) : Prop where
  tokens : registry.pending.keys.Nodup
  mids : registry.pendingMids.keys.Nodup
  same : ∀ request, (∃ tok, registry.pending.get? tok = some request) ↔
    ∃ mid, registry.pendingMids.get? mid = some request
  oneToken : ∀ tok other request, registry.pending.get? tok = some request →
    registry.pending.get? other = some request → tok = other
  oneMid : ∀ mid other request, registry.pendingMids.get? mid = some request →
    registry.pendingMids.get? other = some request → mid = other

/-- Exactly one exchange is gone from the indices. -/
structure RemovesOnly (exchange : IssuedExchange) (before after : Registry) : Prop where
  pending : ∀ tok request, after.pending.get? tok = some request ↔
    before.pending.get? tok = some request ∧ request ≠ exchange.request
  pendingMids : ∀ mid request, after.pendingMids.get? mid = some request ↔
    before.pendingMids.get? mid = some request ∧ request ≠ exchange.request

/-- The indices are empty, and every request that was in them has a response or an error. -/
structure ClosesAll (before after : Registry) : Prop where
  pending : after.pending = .empty
  pendingMids : after.pendingMids = .empty
  answered : ∀ request,
    ((∃ tok, before.pending.get? tok = some request) ∨
      ∃ mid, before.pendingMids.get? mid = some request) →
    (after.requests request).message ≠ none ∨ (after.requests request).err ≠ none

/-- Every request of an index was issued, and an issued exchange is in both indices or neither. -/
structure Coupled (registry : Registry) (issued : List IssuedExchange) : Prop where
  below : ∀ exchange ∈ issued, exchange.request < registry.nextRequest
  distinct : ∀ exchange ∈ issued, ∀ other ∈ issued,
    exchange.request = other.request → exchange = other
  paired : ∀ exchange ∈ issued, registry.pending.get? exchange.tok = some exchange.request ↔
    registry.pendingMids.get? exchange.mid = some exchange.request
  byToken : ∀ tok request, registry.pending.get? tok = some request →
    ∃ mid, ⟨tok, mid, request⟩ ∈ issued
  byMid : ∀ mid request, registry.pendingMids.get? mid = some request →
    ∃ tok, ⟨tok, mid, request⟩ ∈ issued

variable {registry after : Registry} {issued : List IssuedExchange} {tok : ByteString} {mid : ℕ}
  {request : RequestId} {fresh : PendingRequest}

theorem SameIndices.refl (registry : Registry) : SameIndices registry registry := ⟨rfl, rfl, rfl⟩

/-- A dispatch step only writes to records. -/
theorem dispatchStep_sameIndices (session : Session) (now : ℚ) (point : DispatchPoint) :
    SameIndices session.registry (dispatchStep session now point).1.registry := by
  have writes := dispatchStep_writes session now point
  generalize (dispatchStep session now point).1.registry = after at writes ⊢
  cases writes <;> exact ⟨rfl, rfl, rfl⟩

/-! ### Allocating a Message ID -/

theorem probeMid_free {live : OrderedDict ℕ RequestId} {probes start : ℕ}
    (probed : probeMid live probes start = some mid) : live.get? mid = none := by
  induction probes generalizing start with
  | zero => cases probed
  | succ probes ih =>
      simp only [probeMid] at probed
      split_ifs at probed with taken
      · exact ih probed
      · cases probed
        simpa [OrderedDict.contains] using taken

theorem nextAvailableMid_free {allocated : Registry}
    (probed : registry.nextAvailableMid = (.ok mid, allocated)) :
    registry.pendingMids.get? mid = none := by
  simp only [nextAvailableMid] at probed
  split at probed
  · rename_i found
    cases probed
    exact probeMid_free found
  · cases probed

/-- A registration: both keys were free, and both lead to the new request afterwards. -/
theorem registerPendingRequest_indices
    (registered : registry.registerPendingRequest tok fresh = (.ok (mid, request), after)) :
    request = registry.nextRequest ∧ after.nextRequest = registry.nextRequest + 1 ∧
      registry.pending.get? tok = none ∧ registry.pendingMids.get? mid = none ∧
      after.pending = registry.pending.set tok request ∧
      after.pendingMids = registry.pendingMids.set mid request := by
  simp only [registerPendingRequest] at registered
  split_ifs at registered with taken
  · cases registered
  generalize probed : registry.nextAvailableMid = outcome at registered
  rcases outcome with ⟨error | mid, allocated⟩
  · cases registered
  · have free := nextAvailableMid_free probed
    rcases nextAvailableMid_eq probed with ⟨_, rfl⟩
    cases registered
    exact ⟨rfl, rfl, by simpa [OrderedDict.contains] using taken, free, rfl, rfl⟩

/-- A registration that fails changes neither index. -/
theorem registerPendingRequest_sameIndices {error : SmartThingsLocalError}
    (failed : registry.registerPendingRequest tok fresh = (.error error, after)) :
    SameIndices registry after := by
  simp only [registerPendingRequest] at failed
  split_ifs at failed
  · cases failed
    exact .refl _
  generalize probed : registry.nextAvailableMid = outcome at failed
  rcases outcome with ⟨error | mid, allocated⟩
  · rcases nextAvailableMid_eq probed with ⟨_, rfl⟩
    cases failed
    exact ⟨rfl, rfl, rfl⟩
  · cases failed

/-! ### The coupling -/

theorem Coupled.same (coupled : Coupled registry issued) (same : SameIndices registry after) :
    Coupled after issued := by
  rcases same with ⟨pending, pendingMids, nextRequest⟩
  refine ⟨?_, coupled.distinct, ?_, ?_, ?_⟩
  · simpa only [nextRequest] using coupled.below
  · simpa only [pending, pendingMids] using coupled.paired
  · simpa only [pending] using coupled.byToken
  · simpa only [pendingMids] using coupled.byMid

/-- An exchange that has just been registered was never issued before. -/
theorem Coupled.register (coupled : Coupled registry issued)
    (registered : registry.registerPendingRequest tok fresh = (.ok (mid, request), after)) :
    Coupled after (issued ++ [⟨tok, mid, request⟩]) := by
  rcases registerPendingRequest_indices registered with
    ⟨rfl, nextRequest, freeTok, freeMid, pending, pendingMids⟩
  have older : ∀ exchange ∈ issued, exchange.request ≠ registry.nextRequest := by
    intro exchange exchangeMem
    exact (coupled.below exchange exchangeMem).ne
  refine ⟨?_, ?_, ?_, ?_, ?_⟩
  · intro exchange exchangeMem
    rw [nextRequest]
    rcases List.mem_append.mp exchangeMem with earlier | new
    · exact Nat.lt_succ_of_lt (coupled.below exchange earlier)
    · rw [List.mem_singleton.mp new]
      exact Nat.lt_succ_self _
  · intro exchange exchangeMem other otherMem same
    rcases List.mem_append.mp exchangeMem with earlier | new <;>
      rcases List.mem_append.mp otherMem with otherEarlier | otherNew
    · exact coupled.distinct exchange earlier other otherEarlier same
    · rw [List.mem_singleton.mp otherNew] at same
      exact absurd same (older exchange earlier)
    · rw [List.mem_singleton.mp new] at same
      exact absurd same.symm (older other otherEarlier)
    · rw [List.mem_singleton.mp new, List.mem_singleton.mp otherNew]
  · intro exchange exchangeMem
    simp only [pending, pendingMids, OrderedDict.get?_set]
    rcases List.mem_append.mp exchangeMem with earlier | new
    · -- an earlier exchange is in neither index under a key that was free
      have distinct := older exchange earlier
      have paired := coupled.paired exchange earlier
      split_ifs with sameTok sameMid sameMid
      · simp [distinct.symm]
      · rw [sameTok, freeTok] at paired
        simpa [distinct.symm] using paired
      · rw [sameMid, freeMid] at paired
        simpa [distinct.symm] using paired
      · exact paired
    · simp [List.mem_singleton.mp new]
  · intro other found pends
    rw [pending, OrderedDict.get?_set] at pends
    split_ifs at pends with same
    · cases pends
      exact ⟨mid, by simp [same]⟩
    · rcases coupled.byToken other found pends with ⟨otherMid, issuedMem⟩
      exact ⟨otherMid, List.mem_append_left _ issuedMem⟩
  · intro other found pends
    rw [pendingMids, OrderedDict.get?_set] at pends
    split_ifs at pends with same
    · cases pends
      exact ⟨tok, by simp [same]⟩
    · rcases coupled.byMid other found pends with ⟨otherTok, issuedMem⟩
      exact ⟨otherTok, List.mem_append_left _ issuedMem⟩

/-- An issued exchange is found under its own keys only. -/
theorem Coupled.ownToken (coupled : Coupled registry issued) {exchange : IssuedExchange}
    (isIssued : exchange ∈ issued) (pends : registry.pending.get? tok = some exchange.request) :
    tok = exchange.tok := by
  rcases coupled.byToken tok _ pends with ⟨mid, found⟩
  rw [← coupled.distinct _ found _ isIssued rfl]

theorem Coupled.ownMid (coupled : Coupled registry issued) {exchange : IssuedExchange}
    (isIssued : exchange ∈ issued)
    (pends : registry.pendingMids.get? mid = some exchange.request) : mid = exchange.mid := by
  rcases coupled.byMid mid _ pends with ⟨tok, found⟩
  rw [← coupled.distinct _ found _ isIssued rfl]

theorem Coupled.removesOnly (coupled : Coupled registry issued) {exchange : IssuedExchange}
    (isIssued : exchange ∈ issued) :
    RemovesOnly exchange registry
      (registry.unregisterPendingRequest exchange.tok exchange.mid exchange.request) := by
  refine ⟨?_, ?_⟩
  · apply OrderedDict.get?_eraseValue
    intro tok
    exact coupled.ownToken isIssued
  · apply OrderedDict.get?_eraseValue
    intro mid
    exact coupled.ownMid isIssued

theorem Coupled.removed (coupled : Coupled registry issued) {exchange : IssuedExchange}
    (removes : RemovesOnly exchange registry after)
    (nextRequest : after.nextRequest = registry.nextRequest) : Coupled after issued := by
  refine ⟨?_, coupled.distinct, ?_, ?_, ?_⟩
  · rw [nextRequest]
    exact coupled.below
  · intro other otherMem
    rw [removes.pending, removes.pendingMids]
    exact and_congr_left fun _ => coupled.paired other otherMem
  · intro tok request pends
    exact coupled.byToken tok request ((removes.pending tok request).mp pends).1
  · intro mid request pends
    exact coupled.byMid mid request ((removes.pendingMids mid request).mp pends).1

/-- Emptying both indices. -/
theorem Coupled.emptied (coupled : Coupled registry issued) (pending : after.pending = .empty)
    (pendingMids : after.pendingMids = .empty)
    (nextRequest : after.nextRequest = registry.nextRequest) : Coupled after issued := by
  refine ⟨?_, coupled.distinct, ?_, ?_, ?_⟩
  · rw [nextRequest]
    exact coupled.below
  · simp [pending, pendingMids]
  · simp [pending]
  · simp [pendingMids]

theorem Coupled.bijection (coupled : Coupled registry issued) : Bijection registry := by
  refine ⟨registry.pending.nodup, registry.pendingMids.nodup, ?_, ?_, ?_⟩
  · intro request
    refine ⟨?_, ?_⟩
    · rintro ⟨tok, pends⟩
      rcases coupled.byToken tok request pends with ⟨mid, isIssued⟩
      exact ⟨mid, (coupled.paired _ isIssued).mp pends⟩
    · rintro ⟨mid, pends⟩
      rcases coupled.byMid mid request pends with ⟨tok, isIssued⟩
      exact ⟨tok, (coupled.paired _ isIssued).mpr pends⟩
  · intro tok other request pends otherPends
    rcases coupled.byToken tok request pends with ⟨mid, isIssued⟩
    exact (coupled.ownToken isIssued otherPends).symm
  · intro mid other request pends otherPends
    rcases coupled.byMid mid request pends with ⟨tok, isIssued⟩
    exact (coupled.ownMid isIssued otherPends).symm

/-- A teardown leaves no request without an outcome. -/
theorem closePendingRequests_closesAll (registry : Registry) :
    ClosesAll registry registry.closePendingRequests := by
  refine ⟨rfl, rfl, ?_⟩
  intro request registered
  have live : request ∈ registry.pending.entries.map Prod.snd ++
      registry.pendingMids.entries.map Prod.snd := by
    rcases registered with ⟨tok, pends⟩ | ⟨mid, pends⟩
    · apply List.mem_append_left
      exact List.mem_map.mpr ⟨_, OrderedDict.mem_entries_iff.mpr pends, rfl⟩
    · apply List.mem_append_right
      exact List.mem_map.mpr ⟨_, OrderedDict.mem_entries_iff.mpr pends, rfl⟩
  simp only [closePendingRequests, if_pos live, failUnanswered]
  split_ifs with unanswered
  · right
    cases (registry.requests request).err <;> simp
  · exact .inl unanswered

end Registry

/-! ### Runs -/

/-- The session, where its reader is, and the exchanges that were issued so far. -/
structure RegistryState where
  session : Session
  reader : DispatchPoint
  issued : List IssuedExchange

/--
One of the requests, the reader or the teardown moves. A request looks into its
container and may drop a response it cannot use; `others` is anything outside the
registries.
-/
inductive RegistryAction
  | register (tok : ByteString) (expectedBlock1 : Option Block1Expectation)
  | unregister (exchange : IssuedExchange)
  | look (request : RequestId) (drop : Bool)
  | receive (datagram : ByteString)
  | advance (now : ℚ)
  | close
  | others (session : Session)

namespace RegistryState

def start (callbacks : Callbacks) (mid tokCounter : ℕ) : RegistryState :=
  ⟨Session.started callbacks mid tokCounter, .idle, []⟩

/-- A request can only unregister an exchange that was issued to it, as often as it likes. -/
def perform (action : RegistryAction) (state : RegistryState) : RegistryState :=
  let registry := state.session.registry
  match action with
  | .register tok expectedBlock1 =>
      match registry.registerPendingRequest tok { expectedBlock1 } with
      | (.error _, after) => { state with session := { state.session with registry := after } }
      | (.ok (mid, request), after) =>
          { state with
            session := { state.session with registry := after }
            issued := state.issued ++ [⟨tok, mid, request⟩] }
  | .unregister exchange =>
      if exchange ∈ state.issued then
        { state with session := { state.session with
            registry := registry.unregisterPendingRequest exchange.tok exchange.mid
              exchange.request } }
      else state
  | .look request drop =>
      { state with session := { state.session with
          registry := registry.modifyRequest request fun record => { record with
            event := false
            message := if drop then none else record.message } } }
  | .receive datagram =>
      if state.reader = .idle then
        { state with reader := (Session.receive state.session datagram).1 }
      else state
  | .advance now =>
      let (session, reader, _) := dispatchStep state.session now state.reader
      { state with session, reader }
  | .close =>
      { state with session := { state.session with registry := registry.closePendingRequests } }
  | .others session =>
      { state with session := { session with
          registry := { registry with
            mid := session.registry.mid
            tokCounter := session.registry.tokCounter } } }

/-- What holds of the indices, and what each operation on them does. -/
structure Sound (state : RegistryState) : Prop where
  bijection : state.session.registry.Bijection
  failing : ∀ tok fresh error after,
    state.session.registry.registerPendingRequest tok fresh = (.error error, after) →
      after.pending = state.session.registry.pending ∧
        after.pendingMids = state.session.registry.pendingMids
  unregister : ∀ exchange ∈ state.issued, Registry.RemovesOnly exchange state.session.registry
    (state.session.registry.unregisterPendingRequest exchange.tok exchange.mid exchange.request)
  close : Registry.ClosesAll state.session.registry state.session.registry.closePendingRequests

/-- The indices go with the exchanges that were issued. -/
def Coupled (state : RegistryState) : Prop := state.session.registry.Coupled state.issued

theorem coupled_start (callbacks : Callbacks) (mid tokCounter : ℕ) :
    (start callbacks mid tokCounter).Coupled := by
  refine ⟨?_, ?_, ?_, ?_, ?_⟩ <;> simp [start, Session.started]

theorem coupled_perform (state : RegistryState) (action : RegistryAction)
    (coupled : state.Coupled) : (perform action state).Coupled := by
  cases action with
  | register tok expectedBlock1 =>
      simp only [perform]
      generalize registered :
        state.session.registry.registerPendingRequest tok { expectedBlock1 } = outcome
      rcases outcome with ⟨error | ⟨mid, request⟩, after⟩
      · exact Registry.Coupled.same coupled (Registry.registerPendingRequest_sameIndices registered)
      · exact Registry.Coupled.register coupled registered
  | unregister exchange =>
      simp only [perform]
      split_ifs with isIssued
      · have removes := Registry.Coupled.removesOnly coupled isIssued
        exact Registry.Coupled.removed coupled removes rfl
      · exact coupled
  | look request drop => exact Registry.Coupled.same coupled ⟨rfl, rfl, rfl⟩
  | receive datagram =>
      simp only [perform]
      split_ifs <;> exact coupled
  | advance now =>
      have same := Registry.dispatchStep_sameIndices state.session now state.reader
      exact Registry.Coupled.same coupled same
  | close => exact Registry.Coupled.emptied coupled rfl rfl rfl
  | others session => exact Registry.Coupled.same coupled ⟨rfl, rfl, rfl⟩

end RegistryState

/--
In every run, the two indices hold the same requests, each under one key; a failing
registration changes neither, unregistering removes only the caller's exchange, and the
teardown empties both and leaves no request without an outcome.
-/
theorem registries_in_bijection (callbacks : Callbacks) (mid tokCounter : ℕ)
    (actions : List RegistryAction) :
    (Machine.run RegistryState.perform actions (.start callbacks mid tokCounter)).Sound := by
  have coupled : (Machine.run RegistryState.perform actions
      (.start callbacks mid tokCounter)).Coupled := by
    apply Machine.invariant_run_all RegistryState.coupled_perform
    exact RegistryState.coupled_start callbacks mid tokCounter
  refine ⟨Registry.Coupled.bijection coupled, ?_, ?_, ?_⟩
  · intro tok fresh error after failed
    have same := Registry.registerPendingRequest_sameIndices failed
    exact ⟨same.pending, same.pendingMids⟩
  · intro exchange isIssued
    exact Registry.Coupled.removesOnly coupled isIssued
  · exact Registry.closePendingRequests_closesAll _

end SmartThingsLocal
