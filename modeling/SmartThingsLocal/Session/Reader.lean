import SmartThingsLocal.Session.Dispatch
import SmartThingsLocal.Foundation.Machine

/-!
# The reader thread

Everything one step of a dispatch can do, and the reader as a machine: it takes
a datagram when it is idle, advances one step at a time, and between two of its
steps other threads may change the session.
-/

namespace SmartThingsLocal

open Session

/-- What a notification of a relation is delivered as. -/
def observation (message : CoapMessage) (href : String) (query : Query) (registration : Bool)
    (sequence : Option ℕ) (legacy : Bool) : ObserveDelivery :=
  { href, payload := message.payload, query, registration, sequence, legacy }

/-- The message a point still has to resolve or order. -/
def DispatchPoint.message? : DispatchPoint → Option CoapMessage
  | .resolve message | .identify message | .order message _ _ | .probation message _ _ _ =>
      some message
  | _ => none

/-- The message a point is about to order. -/
def DispatchPoint.ordering? : DispatchPoint → Option CoapMessage
  | .order message _ _ => some message
  | _ => none

/-- The response the reader is about to look up. -/
def DispatchPoint.resolving? : DispatchPoint → Option CoapMessage
  | .resolve message => some message
  | _ => none

/-- The Message ID of the reset the reader is about to look up. -/
def DispatchPoint.resetting? : DispatchPoint → Option ℕ
  | .reset mid => some mid
  | _ => none

/-- A point that holds no notification of a relation yet. -/
def DispatchPoint.Unordered : DispatchPoint → Prop
  | .order _ _ _ | .probation _ _ _ _ | .settled _ _ => False
  | _ => True

/-- Everything one step of a dispatch can do. -/
inductive Advances (session : Session) (now : ℚ) :
    DispatchPoint → Session → DispatchPoint → List Effect → Prop
  | registry {point next : DispatchPoint} (registry : Registry) (before : point.Unordered)
      (after : next.Unordered) (carried : next.message? = none ∨ next.message? = point.message?) :
      Advances session now point { session with registry } next []
  | identified {message : CoapMessage} {href : String}
      (live : session.relations.tokens.get? message.token = some href) :
      Advances session now (.identify message) session
        (.order message href (session.relations.query message.token)) []
  | retired {message : CoapMessage} {href : String} {query : Query}
      (failure : message.code ≠ 0x45) :
      Advances session now (.order message href query)
        { session with relations := session.relations.retire message.token } .idle
        (if session.callbacks.onObserveError then [.observeError href message.code] else [])
  | ignored {message : CoapMessage} {href : String} {query : Query}
      (success : message.code = 0x45) :
      Advances session now (.order message href query) session .idle []
  | sequenced {message : CoapMessage} {href : String} {query : Query} {blockwise : Bool} {value : ℕ}
      (success : message.code = 0x45)
      (blocks : blockwiseRefetch message.options = some blockwise)
      (observed : observeValue message.options = .sequence value)
      (fresh : ObserveRelations.sequenceIsFresh
        (session.relations.sequences.get? message.token) value now = true) :
      Advances session now (.order message href query)
        { session with
          relations := (session.relations.acceptSequence message.token value now).2 }
        (.settled (observation message href query
          (session.relations.sequences.get? message.token).isNone (some value) false) blockwise)
        [.accepted message.token (some value) now]
  | promoted {message : CoapMessage} {href : String} {query : Query} {blockwise : Bool}
      {relations : ObserveRelations} (success : message.code = 0x45)
      (blocks : blockwiseRefetch message.options = some blockwise)
      (observed : observeValue message.options = .absent)
      (taken : session.relations.acceptPlain message.token message.mid = (.legacy, relations)) :
      Advances session now (.order message href query) { session with relations }
        (.settled (observation message href query false none true) blockwise)
        [.accepted message.token none now]
  | onProbation {message : CoapMessage} {href : String} {query : Query} {blockwise : Bool}
      {relations : ObserveRelations} (success : message.code = 0x45)
      (blocks : blockwiseRefetch message.options = some blockwise)
      (observed : observeValue message.options = .absent)
      (taken : session.relations.acceptPlain message.token message.mid = (.probation, relations)) :
      Advances session now (.order message href query) { session with relations }
        (.probation message href query blockwise) [.accepted message.token none now]
  | confirmed {message : CoapMessage} {href : String} {query : Query} {blockwise : Bool}
      (still : session.relations.onProbation message.token href query message.mid = true) :
      Advances session now (.probation message href query blockwise) session
        (.settled (observation message href query true none false) blockwise)
        (if session.callbacks.onObservePending then [.observePending href] else [])
  | lapsed {message : CoapMessage} {href : String} {query : Query} {blockwise : Bool}
      (gone : session.relations.onProbation message.token href query message.mid = false) :
      Advances session now (.probation message href query blockwise) session .idle
        (if session.callbacks.onObservePending then [.observePending href] else [])
  | queued {delivery : ObserveDelivery} :
      Advances session now (.settled delivery true)
        { session with refetch := (queueRefetch session.refetch
          ⟨delivery.href, delivery.query, delivery.legacy⟩ delivery.registration).1 } .idle
        (queueRefetch session.refetch
          ⟨delivery.href, delivery.query, delivery.legacy⟩ delivery.registration).2
  | delivered {delivery : ObserveDelivery} :
      Advances session now (.settled delivery false) session .idle
        (deliver session.callbacks delivery)

theorem orderNotification_advances (session : Session) {message : CoapMessage} (href : String)
    (query : Query) {blockwise : Bool} (now : ℚ) (success : message.code = 0x45)
    (blocks : blockwiseRefetch message.options = some blockwise) :
    Advances session now (.order message href query)
      (orderNotification session message href query blockwise now).1
      (orderNotification session message href query blockwise now).2.1
      (orderNotification session message href query blockwise now).2.2 := by
  unfold orderNotification
  cases observed : observeValue message.options with
  | malformed => exact .ignored success
  | sequence value =>
      simp only [ObserveRelations.acceptSequence]
      by_cases fresh : ObserveRelations.sequenceIsFresh
          (session.relations.sequences.get? message.token) value now = true
      · have step : Advances session now (.order message href query) _ _ _ :=
          .sequenced success blocks observed fresh
        simpa only [ObserveRelations.acceptSequence, observation, fresh, if_true] using step
      · simpa only [fresh] using .ignored success
  | absent =>
      dsimp only
      generalize taken : session.relations.acceptPlain message.token message.mid = outcome
      rcases outcome with ⟨_ | _ | _, relations⟩
      · exact .ignored success
      · exact .onProbation success blocks observed taken
      · exact .promoted success blocks observed taken

/-- The step function does nothing else. -/
theorem dispatchStep_advances (session : Session) (now : ℚ) (point : DispatchPoint) :
    Advances session now point (dispatchStep session now point).1
      (dispatchStep session now point).2.1 (dispatchStep session now point).2.2 := by
  cases point with
  | idle => exact .registry session.registry trivial trivial (.inl rfl)
  | acknowledge mid =>
      simp only [dispatchStep]
      split <;> exact .registry _ trivial trivial (.inl rfl)
  | reset mid =>
      simp only [dispatchStep]
      split <;> exact .registry _ trivial trivial (.inl rfl)
  | resolve message =>
      simp only [dispatchStep]
      split
      · exact .registry session.registry trivial trivial (.inr rfl)
      · exact .registry _ trivial trivial (.inl rfl)
  | wake request => exact .registry _ trivial trivial (.inl rfl)
  | identify message =>
      simp only [dispatchStep]
      split
      · exact .registry session.registry trivial trivial (.inl rfl)
      · exact .identified ‹_›
  | order message href query =>
      simp only [dispatchStep]
      by_cases failure : message.code ≠ 0x45
      · rw [if_pos failure]
        exact .retired failure
      · have success := not_not.mp failure
        rw [if_neg failure]
        cases blocks : blockwiseRefetch message.options with
        | none => exact .ignored success
        | some blockwise => exact orderNotification_advances session href query now success blocks
  | probation message href query blockwise =>
      simp only [dispatchStep]
      cases still : session.relations.onProbation message.token href query message.mid with
      | true => exact .confirmed still
      | false => exact .lapsed still
  | settled delivery blockwise =>
      cases blockwise with
      | false => exact .delivered
      | true => exact .queued

/-- A step holds on to the message it was at, or drops it. -/
theorem Advances.message {session next : Session} {now : ℚ} {point nextPoint : DispatchPoint}
    {effects : List Effect} (step : Advances session now point next nextPoint effects)
    {message : CoapMessage} (held : nextPoint.message? = some message) :
    point.message? = some message := by
  cases step with
  | registry _ _ _ carried =>
      rcases carried with nothing | same
      · rw [nothing] at held
        cases held
      · rwa [← same]
  | identified | onProbation => exact held
  | _ => cases held

/-- Ordering and delivering a notification does not touch the registries. -/
theorem Advances.registry_eq {session next : Session} {now : ℚ} {point nextPoint : DispatchPoint}
    {effects : List Effect} (step : Advances session now point next nextPoint effects)
    (ordered : ¬point.Unordered) : next.registry = session.registry := by
  cases step with
  | registry _ before => exact absurd before ordered
  | _ => rfl

/-- What a step of the reader writes to the registries: one record at most. -/
inductive RegistryWrite (registry : Registry) : DispatchPoint → Registry → Prop
  | nothing (point : DispatchPoint) : RegistryWrite registry point registry
  | acknowledges {mid : ℕ} {request : RequestId}
      (found : registry.pendingMids.get? mid = some request) :
      RegistryWrite registry (.acknowledge mid)
        (registry.modifyRequest request fun record => { record with acknowledged := true })
  | rejects {mid : ℕ} {request : RequestId}
      (found : registry.pendingMids.get? mid = some request) :
      RegistryWrite registry (.reset mid) (registry.modifyRequest request fun record =>
        if record.message = none ∧ record.err = none then
          { record with err := some .sessionResetError }
        else record)
  | answers {message : CoapMessage} {request : RequestId}
      (found : registry.pending.get? message.token = some request)
      (accepts : Registry.block1ResponseMatches message
        (registry.requests request).expectedBlock1 = true) :
      RegistryWrite registry (.resolve message)
        (registry.modifyRequest request fun record => { record with message := some message })
  | wakes (request : RequestId) : RegistryWrite registry (.wake request) (registry.wake request)

theorem dispatchStep_writes (session : Session) (now : ℚ) (point : DispatchPoint) :
    RegistryWrite session.registry point (dispatchStep session now point).1.registry := by
  cases point with
  | acknowledge mid =>
      simp only [dispatchStep, Registry.acknowledge]
      cases found : session.registry.pendingMids.get? mid with
      | none => exact .nothing _
      | some request => exact .acknowledges found
  | reset mid =>
      simp only [dispatchStep, Registry.reset]
      cases found : session.registry.pendingMids.get? mid with
      | none => exact .nothing _
      | some request => exact .rejects found
  | resolve message =>
      simp only [dispatchStep, Registry.resolve]
      cases found : session.registry.pending.get? message.token with
      | none => exact .nothing _
      | some request =>
          dsimp only
          by_cases accepts : Registry.block1ResponseMatches message
              (session.registry.requests request).expectedBlock1 = true
          · rw [if_pos accepts]
            exact .answers found accepts
          · rw [if_neg accepts]
            exact .nothing _
  | wake request => exact .wakes request
  | idle => exact .nothing _
  | identify message =>
      simp only [dispatchStep]
      split <;> exact .nothing _
  | order message href query =>
      rw [(dispatchStep_advances session now (.order message href query)).registry_eq id]
      exact .nothing _
  | probation message href query blockwise =>
      rw [(dispatchStep_advances session now (.probation message href query blockwise)).registry_eq
        id]
      exact .nothing _
  | settled delivery blockwise =>
      rw [(dispatchStep_advances session now (.settled delivery blockwise)).registry_eq id]
      exact .nothing _

/-- A step of the reader gives at most one request a response: the one it is resolving. -/
theorem dispatchStep_registry (session : Session) (now : ℚ) (point : DispatchPoint) :
    (∀ request, Registry.Leaves request session.registry
      (dispatchStep session now point).1.registry) ∨
    ∃ message request, point = .resolve message ∧
      session.registry.pending.get? message.token = some request ∧
      Registry.block1ResponseMatches message
        (session.registry.requests request).expectedBlock1 = true ∧
      (dispatchStep session now point).1.registry =
        session.registry.modifyRequest request fun record =>
          { record with message := some message } := by
  have writes := dispatchStep_writes session now point
  generalize (dispatchStep session now point).1.registry = after at writes ⊢
  cases writes with
  | nothing => exact .inl fun request => .refl _ _
  | acknowledges found => exact .inl fun request => Registry.modifyRequest_leaves fun _ _ => rfl
  | rejects found =>
      refine .inl fun request => Registry.modifyRequest_leaves fun _ record => ?_
      split_ifs <;> rfl
  | answers found accepts => exact .inr ⟨_, _, rfl, found, accepts, rfl⟩
  | wakes woken => exact .inl fun request => Registry.wake_leaves session.registry request woken

/-- What a step of the reader does to one request. -/
inductive RecordStep (request : RequestId) (session : Session) (point : DispatchPoint)
    (next : Session) (nextPoint : DispatchPoint) : Prop
  | apart
      (unanswered : ∀ message, point = .resolve message →
        (session.registry.resolve message).1 ≠ some request)
      (unrejected : ∀ mid, point = .reset mid → (session.registry.reset mid).1 ≠ some request)
      (message : (next.registry.requests request).message =
        (session.registry.requests request).message)
      (err : (next.registry.requests request).err = (session.registry.requests request).err)
      (woken : (session.registry.requests request).event = true ∨ point = .wake request →
        (next.registry.requests request).event = true)
  | answered (message : CoapMessage) (resolving : point = .resolve message)
      (own : (session.registry.resolve message).1 = some request)
      (record : next.registry.requests request =
        { session.registry.requests request with message := some message })
      (wakes : nextPoint = .wake request)
  | rejected (mid : ℕ) (resetting : point = .reset mid)
      (own : (session.registry.reset mid).1 = some request)
      (record : next.registry.requests request =
        if (session.registry.requests request).message = none ∧
            (session.registry.requests request).err = none then
          { session.registry.requests request with err := some .sessionResetError }
        else session.registry.requests request)
      (wakes : nextPoint = .wake request)

theorem RecordStep.of_same {request : RequestId} {session next : Session}
    {point nextPoint : DispatchPoint}
    (unanswered : ∀ message, point = .resolve message →
      (session.registry.resolve message).1 ≠ some request)
    (unrejected : ∀ mid, point = .reset mid → (session.registry.reset mid).1 ≠ some request)
    (awake : point ≠ .wake request)
    (same : next.registry.requests request = session.registry.requests request) :
    RecordStep request session point next nextPoint := by
  refine .apart unanswered unrejected (by rw [same]) (by rw [same]) ?_
  rintro (already | waking)
  · rwa [same]
  · exact absurd waking awake

theorem dispatchStep_record (request : RequestId) (session : Session) (now : ℚ)
    (point : DispatchPoint) :
    RecordStep request session point (dispatchStep session now point).1
      (dispatchStep session now point).2.1 := by
  cases point with
  | resolve message =>
      simp only [dispatchStep]
      generalize resolved : session.registry.resolve message = outcome
      rcases outcome with ⟨_ | found, registry⟩
      · exact .of_same (by simp [resolved]) (by simp) (by simp) rfl
      · cases Registry.resolve_some resolved
        by_cases own : found = request
        · subst own
          exact .answered message rfl (by rw [resolved]) (by simp [Registry.modifyRequest]) rfl
        · exact .of_same (by simp [resolved, own]) (by simp) (by simp)
            (by simp [Registry.modifyRequest, Ne.symm own])
  | reset mid =>
      simp only [dispatchStep]
      generalize resolved : session.registry.reset mid = outcome
      rcases outcome with ⟨_ | found, registry⟩
      · exact .of_same (by simp) (by simp [resolved]) (by simp) rfl
      · cases Registry.reset_some resolved
        by_cases own : found = request
        · subst own
          exact .rejected mid rfl (by rw [resolved]) (by simp [Registry.modifyRequest]) rfl
        · exact .of_same (by simp) (by simp [resolved, own]) (by simp)
            (by simp [Registry.modifyRequest, Ne.symm own])
  | acknowledge mid =>
      simp only [dispatchStep]
      generalize resolved : session.registry.acknowledge mid = outcome
      rcases outcome with ⟨_ | found, registry⟩
      · exact .of_same (by simp) (by simp) (by simp) rfl
      · cases Registry.acknowledge_some resolved
        by_cases own : found = request
        · subst own
          exact .apart (by simp) (by simp) (by simp [Registry.modifyRequest])
            (by simp [Registry.modifyRequest]) (by simp [Registry.modifyRequest])
        · exact .of_same (by simp) (by simp) (by simp)
            (by simp [Registry.modifyRequest, Ne.symm own])
  | wake found =>
      by_cases own : found = request
      · subst own
        exact .apart (by simp) (by simp)
          (by simp [dispatchStep, Registry.wake, Registry.modifyRequest])
          (by simp [dispatchStep, Registry.wake, Registry.modifyRequest])
          (by simp [dispatchStep, Registry.wake, Registry.modifyRequest])
      · exact .of_same (by simp) (by simp) (by simp [own])
          (by simp [dispatchStep, Registry.wake, Registry.modifyRequest, Ne.symm own])
  | identify message =>
      refine .of_same (by simp) (by simp) (by simp) ?_
      simp only [dispatchStep]
      split <;> rfl
  | idle => exact .of_same (by simp) (by simp) (by simp) rfl
  | order message href query =>
      refine .of_same (by simp) (by simp) (by simp) ?_
      rw [(dispatchStep_advances session now (.order message href query)).registry_eq id]
  | probation message href query blockwise =>
      refine .of_same (by simp) (by simp) (by simp) ?_
      rw [(dispatchStep_advances session now
        (.probation message href query blockwise)).registry_eq id]
  | settled delivery blockwise =>
      refine .of_same (by simp) (by simp) (by simp) ?_
      rw [(dispatchStep_advances session now (.settled delivery blockwise)).registry_eq id]

/-! ### The reader as a machine -/

/-- The session, where its reader is, and what the reader has done so far. -/
structure ReaderState where
  session : Session
  point : DispatchPoint
  trace : List Effect

/-- A datagram arrives, the reader moves on, or another thread changes the session. -/
inductive ReaderAction
  | receive (datagram : ByteString)
  | advance (now : ℚ)
  | others (session : Session)

/-- A busy reader does not take a datagram. -/
def ReaderState.perform (action : ReaderAction) (state : ReaderState) : ReaderState :=
  match action with
  | .receive datagram =>
      if state.point = .idle then
        let (point, effects) := receive state.session datagram
        { state with point, trace := state.trace ++ effects }
      else state
  | .advance now =>
      let (session, point, effects) := dispatchStep state.session now state.point
      { session, point, trace := state.trace ++ effects }
  | .others session => { state with session }

/-- A datagram that is taken and dispatched to the end at one time. -/
def dispatched (datagram : ByteString) (now : ℚ) : List ReaderAction :=
  .receive datagram :: List.replicate 5 (.advance now)

/-- What taking a datagram can do. -/
theorem receive_cases (session : Session) (datagram : ByteString) :
    (receive session datagram).1.Unordered ∧
      (∀ effect ∈ (receive session datagram).2, ∃ sent, effect = .sent sent) ∧
      ∀ message, (receive session datagram).1.message? = some message →
        ∃ acknowledgement, classifyCoapResponse datagram none none =
          .ok ⟨.response, message, acknowledgement⟩ := by
  unfold receive
  cases classified : classifyCoapResponse datagram none none with
  | error error => exact ⟨trivial, by simp, fun message taken => by cases taken⟩
  | ok classification =>
      rcases classification with ⟨kind, message, acknowledgement⟩
      dsimp only
      have acksOnly : ∀ effect ∈ session.acknowledge acknowledgement,
          ∃ sent, effect = .sent sent := by
        intro effect effectMem
        unfold acknowledge at effectMem
        split at effectMem
        · exact ⟨_, List.mem_singleton.mp effectMem⟩
        · cases effectMem
      cases kind with
      | emptyAck => exact ⟨trivial, acksOnly, fun message taken => by cases taken⟩
      | reset => exact ⟨trivial, acksOnly, fun message taken => by cases taken⟩
      | ignore => exact ⟨trivial, acksOnly, fun message taken => by cases taken⟩
      | response =>
          refine ⟨trivial, acksOnly, ?_⟩
          intro taken isTaken
          cases isTaken
          exact ⟨acknowledgement, rfl⟩

end SmartThingsLocal
