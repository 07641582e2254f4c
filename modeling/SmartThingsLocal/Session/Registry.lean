import SmartThingsLocal.Session.State

/-!
# Pending requests

The blocks of `DtlsCoapSession` that run under the state lock and touch the
registries: allocating identifiers, registering, resolving and unregistering a
request, and failing them all at teardown. A registration makes a new record, so
no two exchanges share one.
-/

namespace SmartThingsLocal

namespace Registry

/-- The probes of `_next_available_mid_locked`: the first free Message ID, or `none`. -/
def probeMid (live : OrderedDict ℕ RequestId) : ℕ → ℕ → Option ℕ
  | 0, _ => none
  | probes + 1, mid =>
      let next := (mid + 1) &&& 0xFFFF
      if live.contains next then probeMid live probes next else some next

/-- Allocate a Message ID; the counter is left at the last identifier probed. -/
def nextAvailableMid (registry : Registry) :
    Except SmartThingsLocalError ℕ × Registry :=
  let probes := min (registry.pendingMids.size + 1) 0x10000
  match probeMid registry.pendingMids probes registry.mid with
  | some mid => (.ok mid, { registry with mid := mid })
  | none =>
      (.error .sessionIdentifierError, { registry with mid := (registry.mid + probes) &&& 0xFFFF })

/-- `_next_tok`: a fresh four-byte token. -/
def nextTok (registry : Registry) : ByteString × Registry :=
  let counter := (registry.tokCounter + 1) &&& 0xFFFFFFFF
  (ByteString.ofNat 4 counter, { registry with tokCounter := counter })

/-- Change one request record. -/
def modifyRequest (registry : Registry) (request : RequestId)
    (change : PendingRequest → PendingRequest) : Registry :=
  { registry with
    requests := Function.update registry.requests request (change (registry.requests request)) }

/-- `_register_pending_request` for a fresh event and container. -/
def registerPendingRequest (registry : Registry) (tok : ByteString) (fresh : PendingRequest) :
    Except SmartThingsLocalError (ℕ × RequestId) × Registry :=
  if registry.pending.contains tok then (.error .sessionIdentifierError, registry)
  else
    match registry.nextAvailableMid with
    | (.error error, allocated) => (.error error, allocated)
    | (.ok mid, allocated) =>
        let request := allocated.nextRequest
        (.ok (mid, request), { allocated with
          pending := allocated.pending.set tok request
          pendingMids := allocated.pendingMids.set mid request
          requests := Function.update allocated.requests request fresh
          nextRequest := request + 1 })

/-- `_unregister_pending_request`: remove exactly this request from both registries. -/
def unregisterPendingRequest (registry : Registry) (tok : ByteString) (mid : ℕ)
    (request : RequestId) : Registry :=
  { registry with
    pending :=
      if registry.pending.get? tok = some request then registry.pending.erase tok
      else registry.pending
    pendingMids :=
      if registry.pendingMids.get? mid = some request then registry.pendingMids.erase mid
      else registry.pendingMids }

/-- Fail a request that has no answer yet. -/
def failUnanswered (record : PendingRequest) : PendingRequest :=
  if record.message = none then
    { record with err := record.err <|> some .sessionClosedError }
  else record

/-- `_close_pending_requests`: fail, unregister and wake every pending request. -/
def closePendingRequests (registry : Registry) : Registry :=
  let live := registry.pending.entries.map Prod.snd ++ registry.pendingMids.entries.map Prod.snd
  { registry with
    pending := .empty
    pendingMids := .empty
    requests := fun request =>
      if request ∈ live then { failUnanswered (registry.requests request) with event := true }
      else registry.requests request }

/-- An empty ACK: mark the exchange with this Message ID as acknowledged. -/
def acknowledge (registry : Registry) (mid : ℕ) : Option RequestId × Registry :=
  match registry.pendingMids.get? mid with
  | none => (none, registry)
  | some request =>
      (some request, registry.modifyRequest request fun record =>
        { record with acknowledged := true })

/-- A reset: fail the unanswered exchange with this Message ID. -/
def reset (registry : Registry) (mid : ℕ) : Option RequestId × Registry :=
  match registry.pendingMids.get? mid with
  | none => (none, registry)
  | some request =>
      (some request, registry.modifyRequest request fun record =>
        if record.message = none ∧ record.err = none then
          { record with err := some .sessionResetError }
        else record)

/-- `_block1_response_matches`: whether a response can answer the pending Block1 chunk. -/
def block1ResponseMatches (message : CoapMessage) (expected : Option Block1Expectation) : Bool :=
  match expected with
  | none => true
  | some chunk =>
      if message.code >>> 5 ≠ 2 then true
      else
        match optionValues message.options Coap.block1 with
        | [] => true
        | [value] =>
            let (responseNum, _, responseSzx) := blockFields value
            if value.length > 3 ∨ responseSzx > Coap.blockSzx then false
            else
              let responseSize := 1 <<< (responseSzx + 4)
              let responseStart := responseNum * responseSize
              let responseEnd := responseStart + responseSize
              if chunk.more then responseEnd = chunk.stop
              else responseStart ≤ chunk.start ∧ chunk.start < responseEnd ∧
                chunk.stop ≤ responseEnd
        | _ => false

/-- Resolve the request pending on a response's token, if the response can answer it. -/
def resolve (registry : Registry) (message : CoapMessage) : Option RequestId × Registry :=
  match registry.pending.get? message.token with
  | none => (none, registry)
  | some request =>
      if block1ResponseMatches message (registry.requests request).expectedBlock1 then
        (some request, registry.modifyRequest request fun record =>
          { record with message := some message })
      else (none, registry)

theorem acknowledge_some {registry after : Registry} {mid : ℕ} {request : RequestId}
    (acknowledged : registry.acknowledge mid = (some request, after)) :
    after = registry.modifyRequest request fun record => { record with acknowledged := true } := by
  unfold acknowledge at acknowledged
  split at acknowledged <;> cases acknowledged
  rfl

theorem reset_some {registry after : Registry} {mid : ℕ} {request : RequestId}
    (wasReset : registry.reset mid = (some request, after)) :
    after = registry.modifyRequest request fun record =>
      if record.message = none ∧ record.err = none then
        { record with err := some .sessionResetError }
      else record := by
  unfold reset at wasReset
  split at wasReset <;> cases wasReset
  rfl

theorem resolve_some {registry after : Registry} {message : CoapMessage} {request : RequestId}
    (resolved : registry.resolve message = (some request, after)) :
    after =
      registry.modifyRequest request fun record => { record with message := some message } := by
  unfold resolve at resolved
  split at resolved
  · cases resolved
  · split_ifs at resolved
    · cases resolved
      rfl
    · cases resolved

/-- `ev.set()`. -/
def wake (registry : Registry) (request : RequestId) : Registry :=
  registry.modifyRequest request fun record => { record with event := true }

/-! ### Requests of different threads -/

/-- Every pending request has been allocated. -/
def Bounded (registry : Registry) : Prop :=
  ∀ tok request, registry.pending.get? tok = some request → request < registry.nextRequest

/-- A change that gives a request no response and no further token. -/
structure Leaves (request : RequestId) (before after : Registry) : Prop where
  bounded : before.Bounded → after.Bounded
  allocated : before.nextRequest ≤ after.nextRequest
  tokens : ∀ tok, after.pending.get? tok = some request → before.pending.get? tok = some request
  message : (after.requests request).message = (before.requests request).message

variable {registry allocated : Registry} {request other : RequestId} {tok : ByteString} {mid : ℕ}

theorem Leaves.refl (request : RequestId) (registry : Registry) :
    Leaves request registry registry :=
  ⟨id, le_rfl, fun _ => id, rfl⟩

theorem modifyRequest_leaves {change : PendingRequest → PendingRequest}
    (keeps : other = request → ∀ record, (change record).message = record.message) :
    Leaves request registry (registry.modifyRequest other change) := by
  refine ⟨id, le_rfl, fun _ => id, ?_⟩
  by_cases same : other = request
  · subst same
    simp [modifyRequest, keeps rfl]
  · simp [modifyRequest, Ne.symm same]

theorem wake_leaves (registry : Registry) (request found : RequestId) :
    Leaves request registry (registry.wake found) := by
  apply modifyRequest_leaves
  intro _ record
  rfl

theorem nextAvailableMid_eq {result : Except SmartThingsLocalError ℕ}
    (probed : registry.nextAvailableMid = (result, allocated)) :
    ∃ mid, allocated = { registry with mid := mid } := by
  unfold nextAvailableMid at probed
  dsimp only at probed
  split at probed <;> cases probed <;> exact ⟨_, rfl⟩

/-- Message IDs have 16 bits. -/
theorem probeMid_lt {live : OrderedDict ℕ RequestId} {probes start : ℕ}
    (probed : probeMid live probes start = some mid) : mid < 2 ^ 16 := by
  induction probes generalizing start with
  | zero => cases probed
  | succ probes ih =>
      simp only [probeMid] at probed
      split_ifs at probed
      · exact ih probed
      · cases probed
        exact Nat.and_lt_two_pow _ (by decide)

theorem registerPendingRequest_mid_lt {fresh : PendingRequest}
    (registered : registry.registerPendingRequest tok fresh = (.ok (mid, request), allocated)) :
    mid < 2 ^ 16 := by
  unfold registerPendingRequest nextAvailableMid at registered
  split_ifs at registered
  · cases registered
  · dsimp only at registered
    split at registered
    · cases registered
    · rename_i found
      split at found
      · rename_i probed
        cases found
        cases registered
        exact probeMid_lt probed
      · cases found

/-- A registration allocates a new request and maps only the given token to it. -/
theorem registerPendingRequest_eq {fresh : PendingRequest}
    (registered : registry.registerPendingRequest tok fresh = (.ok (mid, request), allocated)) :
    request = registry.nextRequest ∧ allocated.nextRequest = registry.nextRequest + 1 ∧
      allocated.pending = registry.pending.set tok request ∧
      allocated.requests = Function.update registry.requests request fresh := by
  unfold registerPendingRequest at registered
  split_ifs at registered
  · cases registered
  generalize probed : registry.nextAvailableMid = outcome at registered
  rcases outcome with ⟨error | mid, probedRegistry⟩
  · cases registered
  · rcases nextAvailableMid_eq probed with ⟨_, rfl⟩
    cases registered
    exact ⟨rfl, rfl, rfl, rfl⟩

theorem registerPendingRequest_error {fresh : PendingRequest} {error : SmartThingsLocalError}
    (failed : registry.registerPendingRequest tok fresh = (.error error, allocated)) :
    allocated.pending = registry.pending ∧ allocated.requests = registry.requests ∧
      allocated.nextRequest = registry.nextRequest := by
  unfold registerPendingRequest at failed
  split_ifs at failed
  · cases failed
    exact ⟨rfl, rfl, rfl⟩
  generalize probed : registry.nextAvailableMid = outcome at failed
  rcases outcome with ⟨error | mid, probedRegistry⟩
  · rcases nextAvailableMid_eq probed with ⟨_, rfl⟩
    cases failed
    exact ⟨rfl, rfl, rfl⟩
  · cases failed

theorem Bounded.register {fresh : PendingRequest} (bounded : registry.Bounded)
    (registered : registry.registerPendingRequest tok fresh = (.ok (mid, request), allocated)) :
    allocated.Bounded := by
  rcases registerPendingRequest_eq registered with ⟨rfl, next, pending, _⟩
  intro other found pends
  rw [pending, OrderedDict.get?_set] at pends
  rw [next]
  split_ifs at pends
  · cases pends
    exact Nat.lt_succ_self _
  · exact Nat.lt_succ_of_lt (bounded other found pends)

/-- A thread that leaves its exchange. -/
theorem unregister_leaves (request other : RequestId) (tok : ByteString) (mid : ℕ) :
    Leaves request registry (registry.unregisterPendingRequest tok mid other) := by
  have fewer : ∀ key found,
      (registry.unregisterPendingRequest tok mid other).pending.get? key = some found →
        registry.pending.get? key = some found := by
    intro key found pends
    simp only [unregisterPendingRequest] at pends
    split_ifs at pends
    · rw [OrderedDict.get?_erase] at pends
      split_ifs at pends
      exact pends
    · exact pends
  exact ⟨fun bounded key found pends => bounded key found (fewer key found pends), le_rfl,
    fun key => fewer key request, rfl⟩

/-- The teardown. -/
theorem close_leaves (request : RequestId) :
    Leaves request registry registry.closePendingRequests := by
  refine ⟨?_, le_rfl, ?_, ?_⟩
  · intro _ key found pends
    simp [closePendingRequests] at pends
  · intro key pends
    simp [closePendingRequests] at pends
  · simp only [closePendingRequests]
    split_ifs
    · unfold failUnanswered
      split_ifs <;> rfl
    · rfl

end Registry

namespace Liveness

/-- `_check_live`. -/
def checkLive (liveness : Liveness) : Except SmartThingsLocalError Unit :=
  if liveness.lifecycleCancelled ∨ liveness.connected = false then .error .sessionClosedError
  else if liveness.readerStarted ∧ liveness.readerRunning = false then .error .sessionClosedError
  else .ok ()

/-- `_send_dgram` by an application thread; `delivered` says whether the socket takes it. -/
def sendDgram (liveness : Liveness) (delivered : Bool) : Except SmartThingsLocalError Unit :=
  if liveness.lifecycleCancelled ∨ liveness.connected = false then .error .sessionClosedError
  else if delivered then .ok ()
  else .error .endpointError

/-- `_refetch_alive`. -/
def refetchAlive (liveness : Liveness) : Bool :=
  !liveness.stop && (!liveness.readerStarted || liveness.readerRunning)

end Liveness

end SmartThingsLocal
