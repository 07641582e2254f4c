import SmartThingsLocal.Foundation.Contracts
import SmartThingsLocal.Session.RelationOperations

/-!
# The datagrams of a relation operation

What a deregistration or a registration hands to `_send_dgram`, as a function of the state in
which it begins and of what its surroundings decide, and that the operations hand over
exactly that.
-/

namespace SmartThingsLocal

open Session Stateful Fallible

namespace OperationState

/-- What a GET with the Observe option hands to `_send_dgram`, and what that raises: nothing where
no Message ID is free or the request cannot be built. -/
def observeSend (surroundings : OperationSurroundings) (observe tok : ByteString)
    (path : List String) (query : Query) (state : OperationState) : Option SendAttempt :=
  match state.registry.nextAvailableMid.1 with
  | .error _ => none
  | .ok mid =>
      match observeRequest observe mid tok path query with
      | .error _ => none
      | .ok datagram =>
          match (surroundings.liveness state.checks).sendDgram
            (surroundings.delivered state.sends.length) with
          | .error error => some ⟨datagram, some error⟩
          | .ok () => some ⟨datagram, none⟩

/-- The first of some draws that no relation has. -/
def freeDraw (surroundings : OperationSurroundings) (tokens : OrderedDict ByteString String) :
    ℕ → ℕ → Option ByteString
  | 0, _ => none
  | attempts + 1, draw =>
      if tokens.contains (surroundings.urandom draw) then
        freeDraw surroundings tokens attempts (draw + 1)
      else some (surroundings.urandom draw)

/-- What a registration hands to `_send_dgram`, with the token that it has drawn: nothing where
a liveness check fails, a value is not accepted, or no token or Message ID is free. -/
def registrationSend (surroundings : OperationSurroundings) (registration : Registration)
    (state : OperationState) : Option (ByteString × SendAttempt) := do
  let _ ← (surroundings.liveness state.checks).checkLive.toOption
  let _ ← (validatedTextOptions registration.path "path_segs" false).toOption
  let _ ← (validatedTextOptions registration.query "query" false).toOption
  let _ ← (surroundings.liveness (state.checks + 1)).checkLive.toOption
  let tok ← freeDraw surroundings state.relations.tokens observeTokenAllocAttempts state.draws
  let send ← observeSend surroundings Coap.observeRegister tok registration.path registration.query
    { state with checks := state.checks + 2 }
  return (tok, send)

variable {surroundings : OperationSurroundings} {before between after : OperationState}
  {observe tok : ByteString} {path : List String} {query : Query}

/-- The datagram of such a GET is under a Message ID. -/
theorem request_of_observeSend {send : SendAttempt}
    (sends : observeSend surroundings observe tok path query before = some send) :
    ∃ mid, observeRequest observe mid tok path query = .ok send.datagram := by
  unfold observeSend at sends
  split at sends
  · cases sends
  · rename_i mid _
    split at sends
    · cases sends
    · rename_i built
      split at sends <;> cases sends <;> exact ⟨mid, built⟩

theorem freeDraw_eq_some {tokens : OrderedDict ByteString String} {attempts draw : ℕ}
    (free : freeDraw surroundings tokens attempts draw = some tok) :
    tokens.contains tok = false ∧
      ∃ own, draw ≤ own ∧ own < draw + attempts ∧ tok = surroundings.urandom own := by
  induction attempts generalizing draw with
  | zero => cases free
  | succ attempts ih =>
      rw [freeDraw] at free
      split_ifs at free with taken
      · rcases ih free with ⟨unknown, own, later, before, drawn⟩
        exact ⟨unknown, own, by omega, by omega, drawn⟩
      · cases free
        exact ⟨by simpa using taken, draw, le_rfl, by omega, rfl⟩

/-- A registration that is handed over has drawn a token that no relation has. -/
theorem registrationSend_eq_some {registration : Registration} {send : SendAttempt}
    (sends : registrationSend surroundings registration before = some (tok, send)) :
    (before.relations.tokens.contains tok = false ∧ ∃ draw, before.draws ≤ draw ∧
      draw < before.draws + observeTokenAllocAttempts ∧ tok = surroundings.urandom draw) ∧
    ∃ mid, observeRequest Coap.observeRegister mid tok registration.path registration.query =
      .ok send.datagram := by
  simp only [registrationSend, Option.bind_eq_bind, Option.bind_eq_some_iff, Option.pure_def,
    Option.some.injEq, Prod.mk.injEq] at sends
  rcases sends with ⟨_, -, _, -, _, -, _, -, _, free, _, sent, rfl, rfl⟩
  exact ⟨freeDraw_eq_some free, request_of_observeSend sent⟩

/-! ### What an operation sees and changes -/

/-- The relations, the re-reads and the datagrams are as they were. -/
structure Unseen (before after : OperationState) : Prop where
  relations : after.relations = before.relations
  refetch : after.refetch = before.refetch
  sends : after.sends = before.sends

section Statements

variable {α : Type} {next : Unit → RelationOperation α} {returns : α → OperationState → Prop}
  {fails : GetFailure → OperationState → Prop}

theorem ensures_nextLiveness_bind {next : Liveness → RelationOperation α}
    (rest : Ensures returns fails (next (surroundings.liveness before.checks))
      { before with checks := before.checks + 1 }) :
    Ensures returns fails (nextLiveness surroundings >>= next) before :=
  rest

/-- A liveness check asks its surroundings once. -/
theorem ensures_checkLive_bind
    (failing : ∀ error, (surroundings.liveness before.checks).checkLive = .error error →
      fails (.session error) { before with checks := before.checks + 1 })
    (rest : (surroundings.liveness before.checks).checkLive = .ok () →
      Ensures returns fails (next ()) { before with checks := before.checks + 1 }) :
    Ensures returns fails (checkLive surroundings >>= next) before := by
  refine ensures_bind (ensures_nextLiveness_bind ?_)
  cases live : (surroundings.liveness before.checks).checkLive with
  | error error => exact failing error live
  | ok _ => exact rest live

end Statements

/-- A token that is returned is the first draw that no relation has. -/
theorem ensures_nextAvailableObserveTok (attempts : ℕ) (state : OperationState) :
    Ensures
      (fun tok after => freeDraw surroundings state.relations.tokens attempts state.draws =
        some tok ∧ ∃ draws, after = { state with draws := draws })
      (fun _ after => freeDraw surroundings state.relations.tokens attempts state.draws = none ∧
        ∃ draws, after = { state with draws := draws })
      (nextAvailableObserveTok surroundings attempts) state := by
  induction attempts generalizing state with
  | zero => exact ensures_throw ⟨rfl, state.draws, rfl⟩
  | succ attempts ih =>
      refine ensures_get_bind (ensures_set_bind (ensures_ite (fun taken => ?_) fun free => ?_))
      · rw [freeDraw, if_pos taken]
        refine (ih _).mono ?_ ?_
        · rintro tok after ⟨drawn, draws, rfl⟩
          exact ⟨drawn, draws, rfl⟩
        · rintro error after ⟨drawn, draws, rfl⟩
          exact ⟨drawn, draws, rfl⟩
      · rw [freeDraw, if_neg free]
        exact ensures_pure ⟨rfl, state.draws + 1, rfl⟩

theorem ensures_nextMid (state : OperationState) :
    Ensures
      (fun mid after => state.registry.nextAvailableMid.1 = .ok mid ∧
        after = { state with registry := state.registry.nextAvailableMid.2 })
      (fun _ after => (∃ error, state.registry.nextAvailableMid.1 = .error error) ∧
        after = { state with registry := state.registry.nextAvailableMid.2 })
      nextMid state := by
  have step : exec nextMid state = (state.registry.nextAvailableMid.1.mapError GetFailure.session,
      { state with registry := state.registry.nextAvailableMid.2 }) := rfl
  unfold Ensures
  rw [step]
  cases allocated : state.registry.nextAvailableMid.1 with
  | error error => exact ⟨⟨error, rfl⟩, rfl⟩
  | ok mid => exact ⟨rfl, rfl⟩

/-- A GET hands over its one datagram, if it is built, and changes no relation. -/
structure Sends (surroundings : OperationSurroundings) (observe tok : ByteString)
    (path : List String) (query : Query) (before after : OperationState) : Prop where
  relations : after.relations = before.relations
  refetch : after.refetch = before.refetch
  sends : after.sends =
    before.sends ++ (observeSend surroundings observe tok path query before).toList

/-- It returns exactly when its datagram is handed over and taken. -/
theorem ensures_sendObserve (observe tok : ByteString) (path : List String) (query : Query)
    (state : OperationState) :
    Ensures (fun _ after => (∃ datagram, observeSend surroundings observe tok path query state =
        some ⟨datagram, none⟩) ∧ Sends surroundings observe tok path query state after)
      (fun _ after => (∀ datagram, observeSend surroundings observe tok path query state ≠
        some ⟨datagram, none⟩) ∧ Sends surroundings observe tok path query state after)
      (sendObserve surroundings observe tok path query) state := by
  refine (ensures_nextMid state).bind ?_ ?_
  · rintro mid after ⟨allocated, rfl⟩
    refine ensures_readOnly_bind ?_ ?_
    · intro error refused
      cases built : observeRequest observe mid tok path query with
      | ok datagram =>
          rw [built] at refused
          cases refused
      | error _ =>
          have quiet : observeSend surroundings observe tok path query state = none := by
            simp only [observeSend, allocated, built]
          exact ⟨by simp [quiet], rfl, rfl, by simp [quiet]⟩
    · intro datagram accepted
      have built := eq_ok_of_mapError accepted
      refine ensures_nextLiveness_bind (ensures_get_bind ?_)
      dsimp only
      cases taken : (surroundings.liveness state.checks).sendDgram
        (surroundings.delivered state.sends.length) with
      | error error =>
          have sent : observeSend surroundings observe tok path query state =
              some ⟨datagram, some error⟩ := by
            simp only [observeSend, allocated, built, taken]
          exact ensures_set_bind (ensures_throw ⟨by simp [sent], rfl, rfl, by simp [sent]⟩)
      | ok _ =>
          have sent : observeSend surroundings observe tok path query state =
              some ⟨datagram, none⟩ := by
            simp only [observeSend, allocated, built, taken]
          exact ⟨⟨datagram, sent⟩, rfl, rfl, by simp [sent]⟩
  · rintro error after ⟨⟨mid, refused⟩, rfl⟩
    have quiet : observeSend surroundings observe tok path query state = none := by
      simp only [observeSend, refused]
    exact ⟨by simp [quiet], rfl, rfl, by simp [quiet]⟩

end OperationState

end SmartThingsLocal
