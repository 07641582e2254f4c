import SmartThingsLocal.Dtls.PskClient

/-!
# The phases of a PSK handshake

What a PSK handshake is for a client: the states it passes, what it has settled in each of
them, and the steps between them. The steps leave open how records and messages bring them
about. They only go forward, and the last one takes a server Finished that verifies.
-/

namespace SmartThingsLocal

open Dtls

namespace HandshakeState

/-- The place of a state in the handshake. -/
def rank : HandshakeState → ℕ
  | .start => 0
  | .sentHello => 1
  | .sentCookieHello => 2
  | .gotServerHello => 3
  | .gotServerParams => 4
  | .sentClientFlight => 5
  | .established => 6

/-- The states that may follow a state; a server may ask for a cookie more than once. -/
def Precedes : HandshakeState → HandshakeState → Prop
  | .start, next => next = .sentHello
  | .sentHello, next => next = .sentCookieHello ∨ next = .gotServerHello
  | .sentCookieHello, next => next = .sentCookieHello ∨ next = .gotServerHello
  | .gotServerHello, next => next = .gotServerParams
  | .gotServerParams, next => next = .sentClientFlight
  | .sentClientFlight, next => next = .established
  | .established, _ => False

/-- A ClientHello has been sent and not been answered. -/
def AwaitsServerHello (state : HandshakeState) : Prop :=
  state = .sentHello ∨ state = .sentCookieHello

theorem eq_established_of_rank {state : HandshakeState}
    (reached : HandshakeState.established.rank ≤ state.rank) : state = .established := by
  cases state <;> simp [rank] at reached
  rfl

end HandshakeState

namespace PhaseEvent

/-- The state that an event enters. -/
def state? : PhaseEvent → Option HandshakeState
  | .entered state _ _ _ => some state
  | _ => none

/-- Only a server Finished that verifies in an active read epoch lets the next event establish. -/
def Authorizes (primitives : Primitives) (event next : PhaseEvent) : Prop :=
  next.state? = some .established → ∃ verifyData masterSecret transcript,
    event = .serverFinished verifyData masterSecret transcript true ∧
      verifyData.length = verifyDataLen ∧
      verifyData = prf primitives masterSecret (ascii "server finished")
        (primitives.sha256 transcript) verifyDataLen

end PhaseEvent

/-- What a client knows of its handshake; `windowed` says that the read epoch has a window. -/
structure Handshake where
  state : HandshakeState
  serverRandom : ByteString
  peerPoint : ByteString
  privateKey : Option ℕ
  masterSecret : ByteString
  transform : Option Transform
  readActive : Bool
  windowed : Bool
  phases : List PhaseEvent

namespace Handshake

def note (handshake : Handshake) (event : PhaseEvent) : Handshake :=
  { handshake with phases := handshake.phases ++ [event] }

def enter (handshake : Handshake) (state : HandshakeState) : Handshake :=
  { handshake with state }.note
    (.entered state handshake.serverRandom handshake.peerPoint handshake.privateKey)

/-- An active read epoch has its keys and its window. -/
def Readable (handshake : Handshake) : Prop :=
  handshake.readActive = true → handshake.transform.isSome = true ∧ handshake.windowed = true

/-- A step of a handshake. The keys come with the client flight, whole or in part. -/
inductive Step (primitives : Primitives) (handshake : Handshake) : Handshake → Prop
  | hello (before : handshake.state = .start) :
      Step primitives handshake (handshake.enter .sentHello)
  | cookieHello (before : handshake.state.AwaitsServerHello) :
      Step primitives handshake (handshake.enter .sentCookieHello)
  | serverRandom (random : ByteString) (before : handshake.state.AwaitsServerHello) :
      Step primitives handshake { handshake with serverRandom := random }
  | serverHello (before : handshake.state.AwaitsServerHello) :
      Step primitives handshake (handshake.enter .gotServerHello)
  | serverParams (point : ByteString) (key : Option ℕ)
      (before : handshake.state = .gotServerHello) :
      Step primitives handshake
        ({ handshake with peerPoint := point, privateKey := key }.enter .gotServerParams)
  | clientFlight (masterSecret : ByteString) (transform : Option Transform)
      (before : handshake.state = .gotServerParams) :
      Step primitives handshake
        { (handshake.enter .sentClientFlight).note .clientFlight with masterSecret, transform }
  | window : Step primitives handshake { handshake with windowed := true }
  | changeCipherSpec (before : handshake.state = .sentClientFlight) :
      Step primitives handshake { handshake with readActive := true, windowed := false }
  | refused (verifyData transcript : ByteString) (before : handshake.state = .sentClientFlight) :
      Step primitives handshake (handshake.note
        (.serverFinished verifyData handshake.masterSecret transcript handshake.readActive))
  | finished (verifyData transcript : ByteString) (before : handshake.state = .sentClientFlight)
      (active : handshake.readActive = true) (keyed : handshake.transform.isSome = true)
      (windowed : handshake.windowed = true) (complete : verifyData.length = verifyDataLen)
      (verifies : verifyData = prf primitives handshake.masterSecret (ascii "server finished")
        (primitives.sha256 transcript) verifyDataLen) :
      Step primitives handshake ((handshake.note
        (.serverFinished verifyData handshake.masterSecret transcript handshake.readActive)).enter
          .established)

/-! ### What stays -/

/-- What later steps leave as it is. -/
structure Forward (before after : Handshake) : Prop where
  phases : before.phases <+: after.phases
  rank : before.state.rank ≤ after.state.rank
  serverRandom : HandshakeState.gotServerHello.rank ≤ before.state.rank →
    after.serverRandom = before.serverRandom
  exchange : HandshakeState.gotServerParams.rank ≤ before.state.rank →
    after.peerPoint = before.peerPoint ∧ after.privateKey = before.privateKey
  keys : HandshakeState.sentClientFlight.rank ≤ before.state.rank →
    after.masterSecret = before.masterSecret ∧ after.transform = before.transform

theorem Forward.refl (handshake : Handshake) : Forward handshake handshake :=
  ⟨List.prefix_refl _, le_rfl, fun _ => rfl, fun _ => ⟨rfl, rfl⟩, fun _ => ⟨rfl, rfl⟩⟩

theorem Forward.trans {first second third : Handshake} (before : Forward first second)
    (after : Forward second third) : Forward first third where
  phases := before.phases.trans after.phases
  rank := before.rank.trans after.rank
  serverRandom reached :=
    (after.serverRandom (reached.trans before.rank)).trans (before.serverRandom reached)
  exchange reached := by
    rcases before.exchange reached with ⟨point, key⟩
    rcases after.exchange (reached.trans before.rank) with ⟨samePoint, sameKey⟩
    exact ⟨samePoint.trans point, sameKey.trans key⟩
  keys reached := by
    rcases before.keys reached with ⟨secret, transform⟩
    rcases after.keys (reached.trans before.rank) with ⟨sameSecret, sameTransform⟩
    exact ⟨sameSecret.trans secret, sameTransform.trans transform⟩

variable {primitives : Primitives} {before after : Handshake}

theorem step_forward (step : Step primitives before after) : Forward before after := by
  cases step with
  | hello start => constructor <;> simp [enter, note, start, HandshakeState.rank]
  | cookieHello awaits =>
      rcases awaits with hello | hello <;>
        constructor <;> simp [enter, note, hello, HandshakeState.rank]
  | serverRandom random awaits =>
      rcases awaits with hello | hello <;> constructor <;> simp [hello, HandshakeState.rank]
  | serverHello awaits =>
      rcases awaits with hello | hello <;>
        constructor <;> simp [enter, note, hello, HandshakeState.rank]
  | serverParams point key hello =>
      constructor <;> simp [enter, note, hello, HandshakeState.rank]
  | clientFlight masterSecret transform params =>
      constructor <;> simp [enter, note, params, HandshakeState.rank]
  | window => constructor <;> simp
  | changeCipherSpec flight => constructor <;> simp
  | refused verifyData transcript flight => constructor <;> simp [note]
  | finished verifyData transcript flight =>
      constructor <;> simp [enter, note, flight, HandshakeState.rank]

/-! ### What has happened -/

/-- An event is in keeping with what is settled after it. -/
def Agrees (handshake : Handshake) : PhaseEvent → Prop
  | .entered state serverRandom peerPoint privateKey =>
      state.rank ≤ handshake.state.rank ∧
      (HandshakeState.gotServerHello.rank ≤ state.rank → handshake.serverRandom = serverRandom) ∧
      (HandshakeState.gotServerParams.rank ≤ state.rank →
        handshake.peerPoint = peerPoint ∧ handshake.privateKey = privateKey)
  | .serverFinished _ masterSecret _ _ =>
      HandshakeState.sentClientFlight.rank ≤ handshake.state.rank ∧
        handshake.masterSecret = masterSecret
  | .clientFlight => True

/-- The states a handshake has been in. -/
def visited (handshake : Handshake) : List HandshakeState :=
  .start :: handshake.phases.filterMap PhaseEvent.state?

/-- The handshake has come to its state in the order of the states, and its events are in order. -/
structure Traced (primitives : Primitives) (handshake : Handshake) : Prop where
  path : handshake.visited.IsChain HandshakeState.Precedes
  arrived : handshake.visited.getLast? = some handshake.state
  authorized : (PhaseEvent.entered .start [] [] none :: handshake.phases).IsChain
    (PhaseEvent.Authorizes primitives)
  agrees : ∀ event ∈ handshake.phases, handshake.Agrees event

/-- The client flight has been made once if it has been made, and an established client can read. -/
structure Sound (primitives : Primitives) (handshake : Handshake) : Prop
    extends Traced primitives handshake where
  flights : handshake.phases.count .clientFlight =
    if HandshakeState.sentClientFlight.rank ≤ handshake.state.rank then 1 else 0
  keyed : handshake.state = .established →
    handshake.readActive = true ∧ handshake.transform.isSome = true ∧ handshake.windowed = true

theorem Agrees.forward {event : PhaseEvent} (agrees : before.Agrees event)
    (forward : Forward before after) : after.Agrees event := by
  cases event with
  | entered state serverRandom peerPoint privateKey =>
      rcases agrees with ⟨earlier, random, exchange⟩
      refine ⟨earlier.trans forward.rank, fun reached => ?_, fun reached => ?_⟩
      · exact (forward.serverRandom (reached.trans earlier)).trans (random reached)
      · rcases forward.exchange (reached.trans earlier) with ⟨point, key⟩
        rcases exchange reached with ⟨samePoint, sameKey⟩
        exact ⟨point.trans samePoint, key.trans sameKey⟩
  | serverFinished verifyData masterSecret transcript readActive =>
      rcases agrees with ⟨earlier, secret⟩
      exact ⟨earlier.trans forward.rank, (forward.keys earlier).1.trans secret⟩
  | clientFlight => exact trivial

theorem Traced.silent (traced : Traced primitives before) (forward : Forward before after)
    (state : after.state = before.state) (phases : after.phases = before.phases) :
    Traced primitives after where
  path := by simpa [visited, phases] using traced.path
  arrived := by simpa [visited, phases, state] using traced.arrived
  authorized := by simpa [phases] using traced.authorized
  agrees event member := (traced.agrees event (phases ▸ member)).forward forward

/-- A chain goes on after its last element. -/
theorem isChain_concat {α : Type} {relation : α → α → Prop} {elements : List α} (next : α)
    (chain : elements.IsChain relation) (related : ∀ last ∈ elements.getLast?, relation last next) :
    (elements ++ [next]).IsChain relation := by
  refine chain.append (List.isChain_singleton next) fun last isLast first isFirst => ?_
  cases Option.mem_some_iff.mp isFirst
  exact related last isLast

theorem getLast?_cons_concat {α : Type} (first last : α) (elements : List α) :
    (first :: (elements ++ [last])).getLast? = some last := by
  rw [← List.cons_append]
  exact List.getLast?_concat

theorem Traced.note (traced : Traced primitives before) (event : PhaseEvent)
    (entersNone : event.state? = none) (agrees : before.Agrees event) :
    Traced primitives (before.note event) where
  path := by simpa [visited, Handshake.note, entersNone] using traced.path
  arrived := by simpa [visited, Handshake.note, entersNone] using traced.arrived
  authorized := by
    apply isChain_concat _ traced.authorized
    intro last isLast establishes
    simp [entersNone] at establishes
  agrees other member := by
    rcases List.mem_append.mp member with old | new
    · exact traced.agrees other old
    · cases List.mem_singleton.mp new
      exact agrees

theorem Traced.enter (traced : Traced primitives before) (state : HandshakeState)
    (precedes : before.state.Precedes state) (forward : Forward before (before.enter state))
    (authorized : state = .established →
      ∀ last ∈ (PhaseEvent.entered .start [] [] none :: before.phases).getLast?,
        last.Authorizes primitives
          (.entered state before.serverRandom before.peerPoint before.privateKey)) :
    Traced primitives (before.enter state) where
  path := by
    have path := isChain_concat state traced.path fun last isLast => by
      rw [traced.arrived] at isLast
      cases Option.mem_some_iff.mp isLast
      exact precedes
    simpa [visited, Handshake.enter, Handshake.note, PhaseEvent.state?] using path
  arrived := by
    simpa [visited, Handshake.enter, Handshake.note, PhaseEvent.state?] using
      getLast?_cons_concat HandshakeState.start state _
  authorized := by
    apply isChain_concat _ traced.authorized
    intro last isLast establishes
    exact authorized (Option.some.inj establishes) last isLast establishes
  agrees other member := by
    rcases List.mem_append.mp member with old | new
    · exact (traced.agrees other old).forward forward
    · cases List.mem_singleton.mp new
      exact ⟨le_rfl, fun _ => rfl, fun _ => ⟨rfl, rfl⟩⟩

theorem step_traced (step : Step primitives before after) (traced : Traced primitives before) :
    Traced primitives after := by
  have forward := step_forward step
  cases step with
  | hello start => exact traced.enter _ (by simp [start, HandshakeState.Precedes]) forward nofun
  | cookieHello awaits =>
      refine traced.enter _ ?_ forward nofun
      rcases awaits with hello | hello <;> simp [hello, HandshakeState.Precedes]
  | serverRandom random awaits => exact traced.silent forward rfl rfl
  | serverHello awaits =>
      refine traced.enter _ ?_ forward nofun
      rcases awaits with hello | hello <;> simp [hello, HandshakeState.Precedes]
  | serverParams point key hello =>
      have settled : Forward before { before with peerPoint := point, privateKey := key } := by
        constructor <;> simp [hello, HandshakeState.rank]
      refine (traced.silent settled rfl rfl).enter _ ?_ ?_ nofun
      · simp [hello, HandshakeState.Precedes]
      · constructor <;> simp [enter, Handshake.note, hello, HandshakeState.rank]
  | clientFlight masterSecret transform params =>
      have settled : Forward before { before with masterSecret, transform } := by
        constructor <;> simp [params, HandshakeState.rank]
      have entered := (traced.silent settled rfl rfl).enter .sentClientFlight
        (by simp [params, HandshakeState.Precedes])
        (by constructor <;> simp [enter, Handshake.note, params, HandshakeState.rank]) nofun
      exact entered.note .clientFlight rfl trivial
  | window => exact traced.silent forward rfl rfl
  | changeCipherSpec flight => exact traced.silent forward rfl rfl
  | refused verifyData transcript flight =>
      exact traced.note _ rfl ⟨by simp [flight], rfl⟩
  | finished verifyData transcript flight active keyed windowed complete verifies =>
      rw [active] at forward ⊢
      have noted : Traced primitives (before.note
          (.serverFinished verifyData before.masterSecret transcript true)) :=
        traced.note _ rfl ⟨by simp [flight], rfl⟩
      refine noted.enter _ ?_ ?_ fun _ last isLast _ => ?_
      · simp [Handshake.note, flight, HandshakeState.Precedes]
      · constructor <;> simp [enter, Handshake.note, flight, HandshakeState.rank]
      · have last : last = .serverFinished verifyData before.masterSecret transcript true := by
          exact Option.some.inj (isLast.symm.trans (getLast?_cons_concat _ _ before.phases))
        exact ⟨verifyData, before.masterSecret, transcript, last, complete, verifies⟩

theorem step_flights (step : Step primitives before after)
    (flights : before.phases.count .clientFlight =
      if HandshakeState.sentClientFlight.rank ≤ before.state.rank then 1 else 0) :
    after.phases.count .clientFlight =
      if HandshakeState.sentClientFlight.rank ≤ after.state.rank then 1 else 0 := by
  cases step with
  | hello start => simpa [enter, note, start, HandshakeState.rank] using flights
  | cookieHello awaits =>
      rcases awaits with hello | hello <;>
        simpa [enter, note, hello, HandshakeState.rank] using flights
  | serverRandom random awaits => exact flights
  | serverHello awaits =>
      rcases awaits with hello | hello <;>
        simpa [enter, note, hello, HandshakeState.rank] using flights
  | serverParams point key hello => simpa [enter, note, hello, HandshakeState.rank] using flights
  | clientFlight masterSecret transform params =>
      simpa [enter, note, params, HandshakeState.rank] using flights
  | window => exact flights
  | changeCipherSpec flight => exact flights
  | refused verifyData transcript flight =>
      simpa [note, flight, HandshakeState.rank] using flights
  | finished verifyData transcript flight =>
      simpa [enter, note, flight, HandshakeState.rank] using flights

theorem step_sound (step : Step primitives before after) (sound : Sound primitives before) :
    Sound primitives after where
  toTraced := step_traced step sound.toTraced
  flights := step_flights step sound.flights
  keyed established := by
    cases step with
    | window => exact ⟨(sound.keyed established).1, (sound.keyed established).2.1, rfl⟩
    | changeCipherSpec flight => simp [flight] at established
    | refused verifyData transcript flight => simp [note, flight] at established
    | finished verifyData transcript flight active keyed windowed =>
        exact ⟨active, keyed, windowed⟩
    | serverRandom random awaits => exact sound.keyed established
    | hello | cookieHello | serverHello | serverParams | clientFlight =>
        simp [enter, note] at established

/-! ### Runs -/

/-- Steps of a handshake, one after the other. -/
abbrev Path (primitives : Primitives) : Handshake → Handshake → Prop :=
  Relation.ReflTransGen (Step primitives)

theorem path_forward (path : Path primitives before after) : Forward before after := by
  induction path with
  | refl => exact Forward.refl before
  | tail _ step ih => exact ih.trans (step_forward step)

theorem path_sound (path : Path primitives before after) (sound : Sound primitives before) :
    Sound primitives after := by
  induction path with
  | refl => exact sound
  | tail _ step ih => exact step_sound step ih

end Handshake

end SmartThingsLocal
