import SmartThingsLocal.Foundation.Retransmission
import SmartThingsLocal.Session.RegistryBijection

/-!
# Calls that repeat their request

A blocking call registers an exchange, repeats its datagram until the exchange is settled and
unregisters it. Between two of its steps the reader, the teardown and all other calls move. The
call keeps to the steps of a retransmission, and the exchange that it has left is in neither
index, whatever the others do.
-/

namespace SmartThingsLocal

open Session Retransmission

/-- The exchange has a response, an error or an ACK. -/
def PendingRequest.Settled (record : PendingRequest) : Prop :=
  record.message ≠ none ∨ record.err ≠ none ∨ record.acknowledged = true

namespace Registry

/-- What was settled stays settled. -/
def StaysSettled (before after : Registry) : Prop :=
  ∀ request, (before.requests request).Settled → (after.requests request).Settled

/-- No key of either index leads to the exchange. -/
structure Released (registry : Registry) (exchange : IssuedExchange) : Prop where
  pending : ∀ tok, registry.pending.get? tok ≠ some exchange.request
  pendingMids : ∀ mid, registry.pendingMids.get? mid ≠ some exchange.request

variable {registry after : Registry} {exchange : IssuedExchange} {issued : List IssuedExchange}

theorem StaysSettled.refl (registry : Registry) : StaysSettled registry registry := fun _ => id

theorem modifyRequest_staysSettled {request : RequestId} {change : PendingRequest → PendingRequest}
    (keeps : ∀ record, record.Settled → (change record).Settled) :
    StaysSettled registry (registry.modifyRequest request change) := by
  intro other settled
  by_cases own : other = request
  · subst own
    simpa [modifyRequest] using keeps _ settled
  · simpa [modifyRequest, own] using settled

/-- The reader never takes back an answer, an error or an ACK. -/
theorem dispatchStep_staysSettled (session : Session) (now : ℚ) (point : DispatchPoint) :
    StaysSettled session.registry (dispatchStep session now point).1.registry := by
  have writes := dispatchStep_writes session now point
  generalize (dispatchStep session now point).1.registry = after at writes ⊢
  cases writes with
  | nothing => exact .refl _
  | acknowledges found =>
      apply modifyRequest_staysSettled
      simp [PendingRequest.Settled]
  | rejects found =>
      apply modifyRequest_staysSettled
      intro record settled
      split_ifs
      · exact .inr (.inl (by simp))
      · exact settled
  | answers found accepts =>
      apply modifyRequest_staysSettled
      simp [PendingRequest.Settled]
  | wakes request =>
      simp only [wake]
      apply modifyRequest_staysSettled
      exact fun _ => id

theorem closePendingRequests_staysSettled (registry : Registry) :
    StaysSettled registry registry.closePendingRequests := by
  intro request settled
  simp only [closePendingRequests, failUnanswered]
  split_ifs with live unanswered
  · rcases settled with answered | failed | acknowledged
    · exact absurd unanswered answered
    · exact .inr (.inl (by simp))
    · exact .inr (.inr acknowledged)
  · exact settled
  · exact settled

theorem Released.same (released : registry.Released exchange)
    (same : SameIndices registry after) : after.Released exchange := by
  refine ⟨?_, ?_⟩
  · rw [same.pending]
    exact released.pending
  · rw [same.pendingMids]
    exact released.pendingMids

/-- A registration takes a request that was never issued. -/
theorem Released.register {tok : ByteString} {mid : ℕ} {request : RequestId}
    {fresh : PendingRequest} (released : registry.Released exchange)
    (older : exchange.request < registry.nextRequest)
    (registered : registry.registerPendingRequest tok fresh = (.ok (mid, request), after)) :
    after.Released exchange := by
  rcases registerPendingRequest_indices registered with ⟨rfl, _, _, _, pending, pendingMids⟩
  refine ⟨fun key => ?_, fun key => ?_⟩
  · rw [pending, OrderedDict.get?_set]
    split_ifs
    · exact fun same => older.ne (Option.some.inj same).symm
    · exact released.pending key
  · rw [pendingMids, OrderedDict.get?_set]
    split_ifs
    · exact fun same => older.ne (Option.some.inj same).symm
    · exact released.pendingMids key

theorem Released.removed {other : IssuedExchange} (released : registry.Released exchange)
    (removes : RemovesOnly other registry after) : after.Released exchange := by
  refine ⟨fun tok pends => ?_, fun mid pends => ?_⟩
  · exact released.pending tok ((removes.pending tok _).mp pends).1
  · exact released.pendingMids mid ((removes.pendingMids mid _).mp pends).1

theorem RemovesOnly.released (removes : RemovesOnly exchange registry after) :
    after.Released exchange := by
  refine ⟨fun tok pends => ?_, fun mid pends => ?_⟩
  · exact ((removes.pending tok _).mp pends).2 rfl
  · exact ((removes.pendingMids mid _).mp pends).2 rfl

end Registry

/-! ### What the others do -/

/-- The action takes a response out of the container of a request. -/
def RegistryAction.Drops (request : RequestId) : RegistryAction → Prop
  | .look other drop => other = request ∧ drop = true
  | _ => False

instance (request : RequestId) : DecidablePred (RegistryAction.Drops request)
  | .look other drop => inferInstanceAs (Decidable (other = request ∧ drop = true))
  | .register .. | .unregister _ | .receive _ | .advance _ | .close | .others _ =>
      inferInstanceAs (Decidable False)

namespace RegistryState

variable {state : RegistryState} {action : RegistryAction} {exchange : IssuedExchange}

theorem issued_perform (isIssued : exchange ∈ state.issued) :
    exchange ∈ (perform action state).issued := by
  cases action with
  | register tok expectedBlock1 =>
      simp only [perform]
      split
      · exact isIssued
      · exact List.mem_append_left _ isIssued
  | unregister other =>
      simp only [perform]
      split_ifs <;> exact isIssued
  | receive datagram =>
      simp only [perform]
      split_ifs <;> exact isIssued
  | look | advance | close | others => exact isIssued

/-- A released exchange never comes back. -/
theorem released_perform (coupled : state.Coupled) (isIssued : exchange ∈ state.issued)
    (released : state.session.registry.Released exchange) :
    (perform action state).session.registry.Released exchange := by
  cases action with
  | register tok expectedBlock1 =>
      simp only [perform]
      generalize registered :
        state.session.registry.registerPendingRequest tok { expectedBlock1 } = outcome
      rcases outcome with ⟨error | ⟨mid, request⟩, after⟩
      · exact released.same (Registry.registerPendingRequest_sameIndices registered)
      · exact released.register (coupled.below exchange isIssued) registered
  | unregister other =>
      simp only [perform]
      split_ifs with otherIssued
      · exact released.removed (Registry.Coupled.removesOnly coupled otherIssued)
      · exact released
  | receive datagram =>
      simp only [perform]
      split_ifs <;> exact released
  | advance now =>
      exact released.same (Registry.dispatchStep_sameIndices state.session now state.reader)
  | close => exact ⟨by simp [perform, Registry.closePendingRequests],
      by simp [perform, Registry.closePendingRequests]⟩
  | look | others => exact released.same ⟨rfl, rfl, rfl⟩

/-- Only its own call takes something out of a container. -/
theorem settled_perform (coupled : state.Coupled) (isIssued : exchange ∈ state.issued)
    (keeps : ¬ action.Drops exchange.request)
    (settled : (state.session.registry.requests exchange.request).Settled) :
    ((perform action state).session.registry.requests exchange.request).Settled := by
  cases action with
  | register tok expectedBlock1 =>
      simp only [perform]
      generalize registered :
        state.session.registry.registerPendingRequest tok { expectedBlock1 } = outcome
      rcases outcome with ⟨error | ⟨mid, request⟩, after⟩
      · dsimp only
        rwa [(Registry.registerPendingRequest_error registered).2.1]
      · rcases Registry.registerPendingRequest_eq registered with ⟨rfl, _, _, requests⟩
        dsimp only
        rwa [requests, Function.update_of_ne (coupled.below exchange isIssued).ne]
  | unregister other =>
      simp only [perform]
      split_ifs <;> exact settled
  | look request drop =>
      by_cases own : request = exchange.request
      · subst own
        cases drop with
        | true => exact absurd ⟨rfl, rfl⟩ keeps
        | false => simpa [perform, Registry.modifyRequest, PendingRequest.Settled] using settled
      · simpa [perform, Registry.modifyRequest, Ne.symm own] using settled
  | receive datagram =>
      simp only [perform]
      split_ifs <;> exact settled
  | advance now =>
      exact Registry.dispatchStep_staysSettled state.session now state.reader _ settled
  | close => exact Registry.closePendingRequests_staysSettled _ _ settled
  | others session => exact settled

end RegistryState

/-! ### The call -/

/-- What a call holds of the exchange that it repeats. -/
structure Attempting where
  exchange : IssuedExchange
  datagram : ByteString
  stage : Stage

/-- The datagram is a POST with the identifiers of its exchange. -/
def Attempting.Built (attempting : Attempting) : Prop :=
  ∃ options payload, buildCoap Coap.typeCon Coap.methodPost attempting.exchange.mid
    attempting.exchange.tok options payload = .ok attempting.datagram

/-- A blocking call: its steps, its exchange, and the points at which it looks at the container. -/
structure Caller (σ : Type) where
  step : Session → ℚ → Bool → σ → Session × σ × List Effect
  attempting? : σ → Option Attempting
  looks : σ → Bool

/-- The datagrams among the effects of a step. -/
def Effect.sentDatagram? : Effect → Option ByteString
  | .sent datagram => some datagram
  | _ => none

/-- An exchange of a call and what the call has done for it. -/
structure Transcript where
  exchange : IssuedExchange
  log : List (Retransmission.Event PendingRequest ByteString)

/-- The shared state, where the call is, its exchanges, the newest first, and what it has sent. -/
structure CallState (σ : Type) where
  shared : RegistryState
  point : σ
  transcripts : List Transcript
  sent : List ByteString

/-- The call moves, or one of the others does. -/
inductive CallAction
  | call (now : ℚ) (delivered : Bool)
  | other (action : RegistryAction)

variable {σ : Type}

namespace Caller

/-- What a step of a call does for its exchange. -/
def events (caller : Caller σ) (session : Session) (attempting : Attempting) (point : σ)
    (effects : List Effect) : List (Retransmission.Event PendingRequest ByteString) :=
  (if caller.looks point then
      [.looked (session.registry.requests attempting.exchange.request)]
    else []) ++ (effects.filterMap Effect.sentDatagram?).map .sent

/-- A call adds what it does to the newest of its transcripts. -/
def record (events : List (Retransmission.Event PendingRequest ByteString)) :
    List Transcript → List Transcript
  | [] => []
  | current :: earlier => { current with log := current.log ++ events } :: earlier

/-- A call whose `attempting?` becomes `some` has registered an exchange. -/
def perform (caller : Caller σ) (action : CallAction) (state : CallState σ) : CallState σ :=
  match action with
  | .call now delivered =>
      let (session, point, effects) :=
        caller.step state.shared.session now delivered state.point
      let sent := state.sent ++ effects.filterMap Effect.sentDatagram?
      match caller.attempting? state.point, caller.attempting? point with
      | none, none =>
          { shared := { state.shared with session }, point
            transcripts := state.transcripts, sent }
      | none, some attempting =>
          { shared := { state.shared with
              session, issued := state.shared.issued ++ [attempting.exchange] }
            point, transcripts := ⟨attempting.exchange, []⟩ :: state.transcripts, sent }
      | some attempting, _ =>
          let events := caller.events state.shared.session attempting state.point effects
          { shared := { state.shared with session }, point
            transcripts := record events state.transcripts, sent }
  | .other action =>
      let own := (caller.attempting? state.point).map fun attempting =>
        attempting.exchange.request
      -- no other call reads this container
      if ∃ request, own = some request ∧ action.Drops request then state
      else { state with shared := RegistryState.perform action state.shared }

theorem point_call (caller : Caller σ) (state : CallState σ) (now : ℚ) (delivered : Bool) :
    (caller.perform (.call now delivered) state).point =
      (caller.step state.shared.session now delivered state.point).2.1 := by
  simp only [perform]
  split <;> rfl

/-- A step adds a transcript when it registers an exchange, and only then. -/
theorem length_call (caller : Caller σ) (state : CallState σ) (now : ℚ) (delivered : Bool) :
    (caller.perform (.call now delivered) state).transcripts.length = state.transcripts.length ∨
      caller.attempting? state.point = none ∧
        caller.attempting? (caller.perform (.call now delivered) state).point ≠ none ∧
        (caller.perform (.call now delivered) state).transcripts.length =
          state.transcripts.length + 1 := by
  simp only [perform]
  split
  · exact .inl rfl
  · rename_i attempting before after
    exact .inr ⟨before, by simp [after], rfl⟩
  · left
    cases state.transcripts <;> rfl

/-- The events of a step hold the datagrams that it sends. -/
theorem sends_events (caller : Caller σ) (session : Session) (attempting : Attempting) (point : σ)
    (effects : List Effect) :
    sends (caller.events session attempting point effects) =
      effects.filterMap Effect.sentDatagram? := by
  simp only [events, sends_append]
  split_ifs <;> simp [sends, List.filterMap_map, Function.comp_def, Retransmission.Event.sent?]

/-- What a step of a call can do to the registry, to its exchange and for it. -/
inductive Moves (caller : Caller σ) (limit : ℕ) (session : Session) (point : σ) :
    Session × σ × List Effect → Prop
  | outside {next : Session} {nextPoint : σ} (before : caller.attempting? point = none)
      (after : caller.attempting? nextPoint = none)
      (indices : Registry.SameIndices session.registry next.registry) :
      Moves caller limit session point (next, nextPoint, [])
  | registers {next : Session} {nextPoint : σ} {attempting : Attempting} {fresh : PendingRequest}
      (before : caller.attempting? point = none)
      (after : caller.attempting? nextPoint = some attempting)
      (registered : session.registry.registerPendingRequest attempting.exchange.tok fresh =
        (.ok (attempting.exchange.mid, attempting.exchange.request), next.registry))
      (starts : attempting.stage = .unsent 0 ∧ attempting.Built ∨ attempting.stage = .over) :
      Moves caller limit session point (next, nextPoint, [])
  | attempts {next : Session} {nextPoint : σ} {effects : List Effect} {attempting : Attempting}
      {stage : Stage} (before : caller.attempting? point = some attempting)
      (after : caller.attempting? nextPoint = some { attempting with stage })
      (indices : Registry.SameIndices session.registry next.registry)
      (settled : Registry.StaysSettled session.registry next.registry)
      (step : Step limit PendingRequest.Settled
        (session.registry.requests attempting.exchange.request) attempting.datagram
        attempting.stage (caller.events session attempting point effects) stage) :
      Moves caller limit session point (next, nextPoint, effects)
  | leaves {next : Session} {nextPoint : σ} {attempting : Attempting}
      (before : caller.attempting? point = some attempting)
      (after : caller.attempting? nextPoint = none) (silent : caller.looks point = false)
      (registry : next.registry = session.registry.unregisterPendingRequest
        attempting.exchange.tok attempting.exchange.mid attempting.exchange.request) :
      Moves caller limit session point (next, nextPoint, [])

/-- From every point that the call can reach, its steps move as they should. -/
structure Keeps (caller : Caller σ) (limit : ℕ) (Proper : σ → Prop) : Prop where
  positive : 0 < limit
  proper : ∀ session now delivered point, Proper point →
    Proper (caller.step session now delivered point).2.1
  moves : ∀ session now delivered point, Proper point →
    caller.Moves limit session point (caller.step session now delivered point)

end Caller

/-- Every datagram of the exchange is the same POST under the identifiers of the exchange. -/
def Transcript.Built (transcript : Transcript) : Prop :=
  ∃ options payload, ∀ sent ∈ sends transcript.log, buildCoap Coap.typeCon Coap.methodPost
    transcript.exchange.mid transcript.exchange.tok options payload = .ok sent

namespace CallState

variable {caller : Caller σ} {limit : ℕ} {Proper : σ → Prop} {state : CallState σ}

/-- The call stands at an exchange. -/
def Holds (caller : Caller σ) (state : CallState σ) (exchange : IssuedExchange) : Prop :=
  ∃ attempting, caller.attempting? state.point = some attempting ∧
    attempting.exchange = exchange

/-- What a call has done for its exchanges, and which of them the registries may still hold. -/
structure Faithful (caller : Caller σ) (limit : ℕ) (state : CallState σ) : Prop where
  sent : state.sent = state.transcripts.reverse.flatMap fun transcript => sends transcript.log
  repeats : ∀ transcript ∈ state.transcripts,
    Repeats limit PendingRequest.Settled transcript.log
  built : ∀ transcript ∈ state.transcripts, transcript.Built
  released : ∀ transcript ∈ state.transcripts, ¬ state.Holds caller transcript.exchange →
    state.shared.session.registry.Released transcript.exchange

/-- The log of the exchange that the call stands at. -/
structure Current (limit : ℕ) (registry : Registry) (attempting : Attempting)
    (transcript : Transcript) : Prop where
  exchange : transcript.exchange = attempting.exchange
  keeps : Retransmission.Keeps limit PendingRequest.Settled
    (registry.requests attempting.exchange.request) attempting.datagram attempting.stage
    transcript.log
  built : attempting.Built ∨ attempting.stage = .over ∧ sends transcript.log = []

/-- What every action keeps. -/
structure Kept (caller : Caller σ) (limit : ℕ) (Proper : σ → Prop) (state : CallState σ) :
    Prop where
  coupled : state.shared.Coupled
  proper : Proper state.point
  faithful : state.Faithful caller limit
  issued : ∀ transcript ∈ state.transcripts, transcript.exchange ∈ state.shared.issued
  current : ∀ attempting, caller.attempting? state.point = some attempting →
    ∃ transcript earlier, state.transcripts = transcript :: earlier ∧
      Current limit state.shared.session.registry attempting transcript

def start (callbacks : Callbacks) (mid tokCounter : ℕ) (point : σ) : CallState σ :=
  ⟨.start callbacks mid tokCounter, point, [], []⟩

theorem kept_start (callbacks : Callbacks) (mid tokCounter : ℕ) {point : σ} (proper : Proper point)
    (outside : caller.attempting? point = none) :
    (start callbacks mid tokCounter point).Kept caller limit Proper := by
  refine ⟨RegistryState.coupled_start callbacks mid tokCounter, proper, ⟨rfl, ?_, ?_, ?_⟩, ?_, ?_⟩
  · simp [start]
  · simp [start]
  · simp [start]
  · simp [start]
  · simp [start, outside]

theorem Current.log_built {registry : Registry} {attempting : Attempting}
    {transcript : Transcript} (current : Current limit registry attempting transcript) :
    transcript.Built := by
  rcases current.built with ⟨options, payload, built⟩ | ⟨-, unsent⟩
  · refine ⟨options, payload, fun sent sentMem => ?_⟩
    rw [current.exchange, current.keeps.same sent sentMem]
    exact built
  · refine ⟨[], [], fun sent sentMem => ?_⟩
    rw [unsent] at sentMem
    cases sentMem

/-- The exchange goes on while its request stays settled. -/
theorem Current.advance {registry next : Registry} {attempting : Attempting}
    {transcript : Transcript} {stage : Stage}
    {events : List (Retransmission.Event PendingRequest ByteString)}
    (current : Current limit registry attempting transcript)
    (settled : Registry.StaysSettled registry next)
    (step : Step limit PendingRequest.Settled (registry.requests attempting.exchange.request)
      attempting.datagram attempting.stage events stage) :
    Current limit next { attempting with stage }
      { transcript with log := transcript.log ++ events } := by
  refine ⟨current.exchange, (current.keeps.step step).observe (settled _), ?_⟩
  rcases current.built with built | ⟨done, unsent⟩
  · exact .inl built
  · rw [done] at step
    rcases step.of_over with ⟨stays, silent⟩
    exact .inr ⟨stays, by rw [sends_append, unsent, silent]; rfl⟩

theorem not_holds_outside {exchange : IssuedExchange}
    (outside : caller.attempting? state.point = none) : ¬ state.Holds caller exchange := by
  simp [Holds, outside]

theorem not_holds_other {attempting : Attempting} {exchange : IssuedExchange}
    (attempts : caller.attempting? state.point = some attempting)
    (other : attempting.exchange ≠ exchange) : ¬ state.Holds caller exchange := by
  rintro ⟨same, holds, isOther⟩
  cases attempts.symm.trans holds
  exact other isOther

/-- The call has registered the exchange that it stands at. -/
theorem Kept.isIssued {attempting : Attempting} (kept : state.Kept caller limit Proper)
    (attempts : caller.attempting? state.point = some attempting) :
    attempting.exchange ∈ state.shared.issued := by
  rcases kept.current attempting attempts with ⟨transcript, earlier, transcripts, current⟩
  rw [← current.exchange]
  exact kept.issued transcript (transcripts ▸ List.mem_cons_self)

theorem Kept.other (kept : state.Kept caller limit Proper) (action : RegistryAction) :
    (caller.perform (.other action) state).Kept caller limit Proper := by
  simp only [Caller.perform]
  split_ifs with drops
  · exact kept
  refine ⟨RegistryState.coupled_perform _ _ kept.coupled, kept.proper,
    ⟨kept.faithful.sent, kept.faithful.repeats, kept.faithful.built, ?_⟩, ?_, ?_⟩
  · intro transcript transcriptMem left
    exact RegistryState.released_perform kept.coupled (kept.issued transcript transcriptMem)
      (kept.faithful.released transcript transcriptMem left)
  · intro transcript transcriptMem
    exact RegistryState.issued_perform (kept.issued transcript transcriptMem)
  · intro attempting attempts
    rcases kept.current attempting attempts with ⟨transcript, earlier, transcripts, current⟩
    refine ⟨transcript, earlier, transcripts, current.exchange, ?_, current.built⟩
    apply current.keeps.observe
    apply RegistryState.settled_perform kept.coupled (kept.isIssued attempts)
    intro dropped
    exact drops ⟨_, by rw [attempts]; rfl, dropped⟩

variable {session next : Session} {now : ℚ} {delivered : Bool} {nextPoint : σ}
  {effects : List Effect} {attempting : Attempting} {stage : Stage}

/-- A step outside of the exchanges. -/
theorem Kept.outside (kept : state.Kept caller limit Proper) (proper : Proper nextPoint)
    (before : caller.attempting? state.point = none) (after : caller.attempting? nextPoint = none)
    (indices : Registry.SameIndices state.shared.session.registry next.registry) :
    Kept caller limit Proper
      { state with shared := { state.shared with session := next }, point := nextPoint } := by
  refine ⟨Registry.Coupled.same kept.coupled indices, proper,
    ⟨kept.faithful.sent, kept.faithful.repeats, kept.faithful.built, ?_⟩, kept.issued, ?_⟩
  · intro transcript transcriptMem _
    have released := kept.faithful.released transcript transcriptMem (not_holds_outside before)
    exact released.same indices
  · intro attempting attempts
    cases after.symm.trans attempts

/-- A step that registers an exchange. -/
theorem Kept.registers {fresh : PendingRequest} (positive : 0 < limit)
    (kept : state.Kept caller limit Proper) (proper : Proper nextPoint)
    (before : caller.attempting? state.point = none)
    (after : caller.attempting? nextPoint = some attempting)
    (registered : state.shared.session.registry.registerPendingRequest attempting.exchange.tok
      fresh = (.ok (attempting.exchange.mid, attempting.exchange.request), next.registry))
    (starts : attempting.stage = .unsent 0 ∧ attempting.Built ∨ attempting.stage = .over) :
    Kept caller limit Proper { state with
      shared := { state.shared with
        session := next, issued := state.shared.issued ++ [attempting.exchange] }
      point := nextPoint
      transcripts := ⟨attempting.exchange, []⟩ :: state.transcripts } := by
  have current : Current limit next.registry attempting ⟨attempting.exchange, []⟩ := by
    rcases starts with ⟨unsent, built⟩ | done
    · refine ⟨rfl, ?_, .inl built⟩
      rw [unsent]
      exact .start positive _ _
    · refine ⟨rfl, ?_, .inr ⟨done, rfl⟩⟩
      rw [done]
      exact .never _ _
  refine ⟨Registry.Coupled.register kept.coupled registered, proper, ⟨?_, ?_, ?_, ?_⟩, ?_, ?_⟩
  · simpa using kept.faithful.sent
  · exact List.forall_mem_cons.mpr ⟨current.keeps.repeats, kept.faithful.repeats⟩
  · exact List.forall_mem_cons.mpr ⟨current.log_built, kept.faithful.built⟩
  · refine List.forall_mem_cons.mpr ⟨fun left => absurd ⟨attempting, after, rfl⟩ left, ?_⟩
    intro transcript transcriptMem _
    have released := kept.faithful.released transcript transcriptMem (not_holds_outside before)
    exact released.register (kept.coupled.below _ (kept.issued transcript transcriptMem)) registered
  · refine List.forall_mem_cons.mpr ⟨List.mem_append_right _ (List.mem_singleton.mpr rfl), ?_⟩
    intro transcript transcriptMem
    exact List.mem_append_left _ (kept.issued transcript transcriptMem)
  · intro other attempts
    cases after.symm.trans attempts
    exact ⟨_, _, rfl, current⟩

/-- A step of the retransmission. -/
theorem Kept.attempts (kept : state.Kept caller limit Proper) (proper : Proper nextPoint)
    (before : caller.attempting? state.point = some attempting)
    (after : caller.attempting? nextPoint = some { attempting with stage })
    (indices : Registry.SameIndices state.shared.session.registry next.registry)
    (settled : Registry.StaysSettled state.shared.session.registry next.registry)
    (step : Step limit PendingRequest.Settled
      (state.shared.session.registry.requests attempting.exchange.request) attempting.datagram
      attempting.stage (caller.events state.shared.session attempting state.point effects)
      stage) :
    Kept caller limit Proper {
      shared := { state.shared with session := next }
      point := nextPoint
      transcripts := Caller.record
        (caller.events state.shared.session attempting state.point effects) state.transcripts
      sent := state.sent ++ effects.filterMap Effect.sentDatagram? } := by
  rcases kept.current attempting before with ⟨transcript, earlier, transcripts, current⟩
  have issued := kept.issued
  have faithful := kept.faithful
  have sendsEvents := caller.sends_events state.shared.session attempting state.point effects
  generalize caller.events state.shared.session attempting state.point effects = events at *
  have advanced : Current limit next.registry { attempting with stage }
      { transcript with log := transcript.log ++ events } := current.advance settled step
  rw [transcripts] at issued
  refine ⟨Registry.Coupled.same kept.coupled indices, proper, ⟨?_, ?_, ?_, ?_⟩, ?_, ?_⟩
  · simp only [transcripts, Caller.record, faithful.sent, List.reverse_cons, List.flatMap_append,
      List.flatMap_singleton, sends_append, sendsEvents, List.append_assoc]
  · simp only [transcripts, Caller.record]
    refine List.forall_mem_cons.mpr ⟨advanced.keeps.repeats, fun other otherMem => ?_⟩
    exact faithful.repeats other (transcripts ▸ List.mem_cons_of_mem _ otherMem)
  · simp only [transcripts, Caller.record]
    refine List.forall_mem_cons.mpr ⟨advanced.log_built, fun other otherMem => ?_⟩
    exact faithful.built other (transcripts ▸ List.mem_cons_of_mem _ otherMem)
  · simp only [transcripts, Caller.record]
    refine List.forall_mem_cons.mpr ⟨fun left => absurd ⟨_, after, advanced.exchange.symm⟩ left, ?_⟩
    intro other otherMem left
    have stillLeft : ¬ state.Holds caller other.exchange :=
      not_holds_other before fun isOther => left ⟨_, after, isOther⟩
    exact (faithful.released other (transcripts ▸ List.mem_cons_of_mem _ otherMem) stillLeft).same
      indices
  · simp only [transcripts, Caller.record]
    exact List.forall_mem_cons.mpr ⟨issued transcript List.mem_cons_self, fun other otherMem =>
      issued other (List.mem_cons_of_mem _ otherMem)⟩
  · intro other attempts
    cases after.symm.trans attempts
    exact ⟨_, earlier, by rw [transcripts]; rfl, advanced⟩

/-- A step that leaves the exchange, by return or by an exception. -/
theorem Kept.leaves (kept : state.Kept caller limit Proper) (proper : Proper nextPoint)
    (before : caller.attempting? state.point = some attempting)
    (after : caller.attempting? nextPoint = none)
    (registry : next.registry = state.shared.session.registry.unregisterPendingRequest
      attempting.exchange.tok attempting.exchange.mid attempting.exchange.request) :
    Kept caller limit Proper
      { state with shared := { state.shared with session := next }, point := nextPoint } := by
  have removes := Registry.Coupled.removesOnly kept.coupled (kept.isIssued before)
  rw [← registry] at removes
  refine ⟨?_, proper, ⟨kept.faithful.sent, kept.faithful.repeats, kept.faithful.built, ?_⟩,
    kept.issued, ?_⟩
  · exact Registry.Coupled.removed kept.coupled removes (by rw [registry]; rfl)
  · intro other otherMem _
    by_cases own : attempting.exchange = other.exchange
    · rw [← own]
      exact removes.released
    · have released := kept.faithful.released other otherMem (not_holds_other before own)
      exact released.removed removes
  · intro other attempts
    cases after.symm.trans attempts

theorem kept_perform (keeps : caller.Keeps limit Proper) (state : CallState σ)
    (action : CallAction) (kept : state.Kept caller limit Proper) :
    (caller.perform action state).Kept caller limit Proper := by
  cases action with
  | other action => exact kept.other action
  | call now delivered =>
      have proper := keeps.proper state.shared.session now delivered _ kept.proper
      have moves := keeps.moves state.shared.session now delivered _ kept.proper
      generalize stepped : caller.step state.shared.session now delivered state.point = outcome
        at proper moves
      cases moves with
      | outside before after indices =>
          simp only [Caller.perform, stepped, before, after, List.filterMap_nil, List.append_nil]
          exact kept.outside proper before after indices
      | registers before after registered starts =>
          simp only [Caller.perform, stepped, before, after, List.filterMap_nil, List.append_nil]
          exact kept.registers keeps.positive proper before after registered starts
      | attempts before after indices settled step =>
          simp only [Caller.perform, stepped, before]
          exact kept.attempts proper before after indices settled step
      | leaves before after silent registry =>
          have unchanged : Caller.record [] state.transcripts = state.transcripts := by
            cases state.transcripts <;> simp [Caller.record]
          simpa [Caller.perform, stepped, before, Caller.events, silent, unchanged] using
            kept.leaves proper before after registry

end CallState

end SmartThingsLocal
