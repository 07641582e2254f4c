import SmartThingsLocal.Session.RegistryBijection

/-!
# Piggybacked responses

A response of type ACK acknowledges one request, by its Message ID. The reader
looks the response up by its token alone, so it resolves the exchange that was
acknowledged as long as the Message-ID index leads to the same exchange.
-/

namespace SmartThingsLocal

open Session

/-- A response of type ACK is only held by the exchange that it acknowledges. -/
def RegistryState.AcksMatched (state : RegistryState) : Prop :=
  ∀ exchange ∈ state.issued,
    ∀ message ∈ (state.session.registry.requests exchange.request).message,
      message.mtype = Coap.typeAck → message.token = exchange.tok ∧ message.mid = exchange.mid

/--
A response of type ACK that its token's request would take also leads to this request
by its Message ID.
-/
def AckLeadsBack (state : RegistryState) : RegistryAction → Prop
  | .advance _ => ∀ message ∈ state.reader.resolving?, message.mtype = Coap.typeAck →
      ∀ request ∈ state.session.registry.pending.get? message.token,
        Registry.block1ResponseMatches message
            (state.session.registry.requests request).expectedBlock1 = true →
          state.session.registry.pendingMids.get? message.mid = some request
  | _ => True

instance (state : RegistryState) : ∀ action, Decidable (AckLeadsBack state action)
  | .advance _ => inferInstanceAs (Decidable (∀ message ∈ state.reader.resolving?, _))
  | .register _ _ | .unregister _ | .look _ _ | .receive _ | .close | .others _ =>
      inferInstanceAs (Decidable True)

namespace RegistryState

variable {state : RegistryState} {session : Session}

/-- A change of the session that gives no request a response. -/
theorem AcksMatched.of_messages (matched : state.AcksMatched)
    (messages : ∀ request message, message ∈ (session.registry.requests request).message →
      message ∈ (state.session.registry.requests request).message) (reader : DispatchPoint) :
    AcksMatched { state with session, reader } := by
  intro exchange isIssued message held
  exact matched exchange isIssued message (messages _ message held)

theorem acksMatched_advance (coupled : state.Coupled) (matched : state.AcksMatched) {now : ℚ}
    (leadsBack : AckLeadsBack state (.advance now)) :
    (perform (.advance now) state).AcksMatched := by
  rcases dispatchStep_registry state.session now state.reader with
    leaves | ⟨message, request, resolving, pends, accepts, resolved⟩
  · have kept : ∀ request message,
        message ∈ ((dispatchStep state.session now state.reader).1.registry.requests
          request).message →
          message ∈ (state.session.registry.requests request).message := by
      intro request message held
      rwa [(leaves request).message] at held
    exact matched.of_messages kept _
  · intro exchange isIssued held isHeld isAck
    simp only [perform, resolved] at isHeld
    by_cases same : exchange.request = request
    · -- the exchange that takes the response is the one on its token
      subst same
      simp only [Registry.modifyRequest, Function.update_self, Option.mem_some_iff] at isHeld
      subst isHeld
      refine ⟨Registry.Coupled.ownToken coupled isIssued pends, ?_⟩
      apply Registry.Coupled.ownMid coupled isIssued
      exact leadsBack message (by simp [resolving, DispatchPoint.resolving?]) isAck _ pends accepts
    · simp only [Registry.modifyRequest, Function.update_of_ne same] at isHeld
      exact matched exchange isIssued held isHeld isAck

/-- A new exchange holds no response. -/
theorem acksMatched_register (coupled : state.Coupled) (matched : state.AcksMatched)
    (tok : ByteString) (expectedBlock1 : Option Block1Expectation) :
    (perform (.register tok expectedBlock1) state).AcksMatched := by
  simp only [perform]
  generalize registered :
    state.session.registry.registerPendingRequest tok { expectedBlock1 } = outcome
  rcases outcome with ⟨error | ⟨mid, request⟩, after⟩
  · have requests := (Registry.registerPendingRequest_error registered).2.1
    apply matched.of_messages
    intro request message held
    rwa [requests] at held
  · rcases Registry.registerPendingRequest_eq registered with ⟨rfl, _, _, requests⟩
    intro exchange isIssued message held isAck
    simp only [requests] at held
    rcases List.mem_append.mp isIssued with earlier | new
    · have older := (Registry.Coupled.below coupled exchange earlier).ne
      rw [Function.update_of_ne older] at held
      exact matched exchange earlier message held isAck
    · rw [List.mem_singleton.mp new] at held
      simp at held

theorem acksMatched_perform (state : RegistryState) (action : RegistryAction)
    (invariant : state.Coupled ∧ state.AcksMatched) (leadsBack : AckLeadsBack state action) :
    (perform action state).Coupled ∧ (perform action state).AcksMatched := by
  rcases invariant with ⟨coupled, matched⟩
  refine ⟨coupled_perform state action coupled, ?_⟩
  cases action with
  | register tok expectedBlock1 => exact acksMatched_register coupled matched tok expectedBlock1
  | unregister exchange =>
      simp only [perform]
      split_ifs <;> exact matched
  | look request drop =>
      apply matched.of_messages
      intro other message held
      by_cases same : other = request
      · subst same
        cases drop with
        | false => simpa [Registry.modifyRequest] using held
        | true => simp [Registry.modifyRequest] at held
      · simpa [Registry.modifyRequest, same] using held
  | receive datagram =>
      simp only [perform]
      split_ifs <;> exact matched
  | advance now => exact acksMatched_advance coupled matched leadsBack
  | close =>
      apply matched.of_messages
      intro request message held
      rwa [(Registry.close_leaves request).message] at held
  | others session => exact matched

end RegistryState

/--
A response of type ACK completes only the exchange whose token and Message ID it carries,
in every run in which the Message-ID index leads to the request that the token leads to.
-/
theorem ack_completes_own_exchange (callbacks : Callbacks) (mid tokCounter : ℕ)
    {actions : List RegistryAction}
    (meets : Machine.Meets RegistryState.perform AckLeadsBack actions
      (.start callbacks mid tokCounter)) :
    (Machine.run RegistryState.perform actions
      (.start callbacks mid tokCounter)).AcksMatched := by
  have initial : (RegistryState.start callbacks mid tokCounter).Coupled ∧
      (RegistryState.start callbacks mid tokCounter).AcksMatched := by
    refine ⟨RegistryState.coupled_start callbacks mid tokCounter, ?_⟩
    intro exchange isIssued
    cases isIssued
  exact (Machine.invariant_run RegistryState.acksMatched_perform meets initial).2

/-- The first exchange on a token, up to its answer, and the next one on the same token. -/
def reusedToken (answer : ByteString) : List RegistryAction :=
  [.register [7] none, .receive answer, .advance 0, .advance 0, .unregister ⟨[7], 1, 0⟩,
    .register [7] none]

/-- Two blocks under one token, each answered by an ACK with its own Message ID. -/
theorem ack_completes_own_exchange_example :
    let actions := reusedToken [0x61, 0x45, 0, 1, 7, 0xFF, 1] ++
      [.receive [0x61, 0x45, 0, 2, 7, 0xFF, 2], .advance 0]
    let final := Machine.run RegistryState.perform actions
      (.start ⟨false, false, false, false, false⟩ 0 0)
    final.issued.map (fun exchange =>
        (final.session.registry.requests exchange.request).message.map CoapMessage.mid) =
      [some 1, some 2] ∧ final.AcksMatched :=
  ⟨by decide +kernel, ack_completes_own_exchange _ 0 0 (by decide +kernel)⟩

/-- A second ACK to the first block completes the next one: here it refuses the first request. -/
theorem ack_completes_other_exchange :
    let actions := reusedToken [0x61, 0x45, 0, 1, 7, 0xFF, 1] ++
      [.receive [0x61, 0xA3, 0, 1, 7], .advance 0]
    ¬(Machine.run RegistryState.perform actions
      (.start ⟨false, false, false, false, false⟩ 0 0)).AcksMatched := by
  intro actions matched
  have own := matched ⟨[7], 2, 1⟩ (by decide +kernel) ⟨2, 0xA3, 1, [7], [], []⟩
    (by decide +kernel) rfl
  revert own
  decide

end SmartThingsLocal
