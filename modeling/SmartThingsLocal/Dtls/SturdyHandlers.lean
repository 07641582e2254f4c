import SmartThingsLocal.Dtls.EngineRoom
import SmartThingsLocal.Dtls.Reassembly

/-!
# Handlers that no input breaks

Whatever a message, a fragment or a record holds, its handler returns, and keeps the bounds of the
tables, the room for the client's own records and the keys that its last flight takes.
-/

namespace SmartThingsLocal

open Dtls Stateful

namespace DtlsPskClient

/-- How many records there may still be to send. -/
def recordsLeft (state : HandshakeState) (helloVerifyCount : ℕ) : ℕ :=
  match state with
  | .start => 10
  | .sentHello => 9
  | .sentCookieHello => maxHelloVerify - helloVerifyCount + 3
  | .gotServerHello | .gotServerParams => 3
  | .sentClientFlight | .established => 0

/-- The tables are bounded, and what they hold can be put together and delivered. -/
structure Tables (appdata : List ByteString) (pending : OrderedDict ℕ PendingMessage)
    (ready : OrderedDict ℕ (UInt8 × ByteString)) : Prop where
  appdata_le : appdata.length ≤ maxAppdata
  pending_le : pending.size ≤ maxPendingMessages
  ready_le : ready.size ≤ maxPendingMessages
  wellFormed : ∀ msgSeq entry, pending.get? msgSeq = some entry → entry.WellFormed
  deliverable : ∀ msgSeq message, ready.get? msgSeq = some message →
    msgSeq ≤ 0xFFFF ∧ message.2.length ≤ maxHandshakeMessage

/-- What keeps a client from raising, with what waits in its inbox. -/
structure Sturdy (primitives : Primitives) (inbox : List ByteString) (client : DtlsPskClient) :
    Prop where
  inbox : client.inbox = inbox
  identity : client.identity.length = 16
  psk : client.psk.length ≤ 0xFFFF
  random : client.clientRandom.length ≤ 32
  tables : Tables client.appdata client.pending client.ready
  plain : client.state ∉ [HandshakeState.sentClientFlight, .established] → client.sendEpoch = 0
  keyed : client.state = .gotServerParams →
    Keyed primitives client.privateKey client.peerPoint
  room : Room (recordsLeft client.state client.helloVerifyCount)
    (recordsLeft client.state client.helloVerifyCount) client.nextMsgSeq client.sendSeq
    client.outbox

/-- There is nothing to deliver, or the client has failed. -/
def Settled (client : DtlsPskClient) : Prop :=
  client.ready.get? client.nextRecvMsgSeq = none ∨ client.failed.isSome = true

variable {primitives : Primitives} {inbox : List ByteString} {client : DtlsPskClient}

theorem Room.mono {messages records fewerMessages fewerRecords nextMsgSeq sendSeq : ℕ}
    {outbox : ByteString} (room : Room messages records nextMsgSeq sendSeq outbox)
    (messages_le : fewerMessages ≤ messages) (records_le : fewerRecords ≤ records) :
    Room fewerMessages fewerRecords nextMsgSeq sendSeq outbox := by
  rcases room with ⟨messagesFit, recordsFit, outboxFits⟩
  exact ⟨by omega, by omega, by omega⟩

section Tables

variable {appdata : List ByteString} {pending : OrderedDict ℕ PendingMessage}
  {ready : OrderedDict ℕ (UInt8 × ByteString)} {msgSeq : ℕ}

theorem Tables.erase_ready (tables : Tables appdata pending ready) (msgSeq : ℕ) :
    Tables appdata pending (ready.erase msgSeq) :=
  { tables with
    ready_le := (ready.size_erase_le msgSeq).trans tables.ready_le
    deliverable := fun other message found => by
      rw [OrderedDict.get?_erase] at found
      split_ifs at found
      exact tables.deliverable other message found }

theorem Tables.erase_pending (tables : Tables appdata pending ready) (msgSeq : ℕ) :
    Tables appdata (pending.erase msgSeq) ready :=
  { tables with
    pending_le := (pending.size_erase_le msgSeq).trans tables.pending_le
    wellFormed := fun other entry found => by
      rw [OrderedDict.get?_erase] at found
      split_ifs at found
      exact tables.wellFormed other entry found }

/-- An entry is replaced, or there is place for a new one. -/
theorem Tables.set_pending (tables : Tables appdata pending ready) {entry : PendingMessage}
    (wellFormed : entry.WellFormed)
    (place : pending.get? msgSeq = none → pending.size < maxPendingMessages) :
    Tables appdata (pending.set msgSeq entry) ready :=
  { tables with
    pending_le := by
      rw [OrderedDict.size_set]
      split_ifs with present
      · exact tables.pending_le
      · apply place
        simpa [OrderedDict.contains] using present
    wellFormed := fun other found stored => by
      rw [OrderedDict.get?_set] at stored
      split_ifs at stored
      · cases stored
        exact wellFormed
      · exact tables.wellFormed other found stored }

theorem Tables.set_ready (tables : Tables appdata pending ready) {message : UInt8 × ByteString}
    (deliverable : msgSeq ≤ 0xFFFF ∧ message.2.length ≤ maxHandshakeMessage)
    (place : ready.size < maxPendingMessages) : Tables appdata pending (ready.set msgSeq message) :=
  { tables with
    ready_le := by
      rw [OrderedDict.size_set]
      split_ifs
      · exact tables.ready_le
      · exact place
    deliverable := fun other found stored => by
      rw [OrderedDict.get?_set] at stored
      split_ifs at stored with same
      · cases stored
        rw [same]
        exact deliverable
      · exact tables.deliverable other found stored }

end Tables

/-- There is a reason after `_fail`. -/
theorem isSome_orElse (failed : Option String) (reason : String) :
    (failed <|> some reason).isSome = true := by
  cases failed <;> rfl

/-! ### Messages -/

theorem returns_fail (sturdy : Sturdy primitives inbox client) (reason : String) :
    Returns (fun _ after => Sturdy primitives inbox after) (fail reason) client :=
  ensures_modify { sturdy with }

/-- Enter a state with as much room as it takes. -/
theorem returns_enter (sturdy : Sturdy primitives inbox client) {state : HandshakeState}
    (plain : state ∉ [HandshakeState.sentClientFlight, .established] → client.sendEpoch = 0)
    (keyed : state = .gotServerParams → Keyed primitives client.privateKey client.peerPoint)
    (fewer : recordsLeft state client.helloVerifyCount ≤
      recordsLeft client.state client.helloVerifyCount) :
    Returns (fun _ after => Sturdy primitives inbox after) (enter state) client :=
  ensures_modify { sturdy with plain, keyed, room := sturdy.room.mono fewer fewer }

theorem returns_handleServerHello (sturdy : Sturdy primitives inbox client) (body : ByteString) :
    Returns (fun _ after => Sturdy primitives inbox after) (handleServerHello body) client := by
  apply ensures_get_bind
  refine ensures_ite (fun _ => ensures_pure sturdy) fun awaits => ?_
  refine ensures_ite (fun _ => returns_fail sturdy _) fun long => ?_
  refine ensures_ite (fun _ => returns_fail sturdy _) fun _ => ?_
  have known : Sturdy primitives inbox { client with serverRandom := (body.drop 2).take 32 } :=
    { sturdy with }
  refine ensures_set_bind (ensures_python_bind (octetAt_ok (by omega)) ?_)
  refine ensures_ite (fun _ => returns_fail known _) fun within => ?_
  refine ensures_ite (fun _ => returns_fail known _) fun _ => ?_
  refine ensures_python_bind (octetAt_ok (by omega)) ?_
  refine ensures_ite (fun _ => returns_fail known _) fun _ => ?_
  have waiting : client.state = .sentHello ∨ client.state = .sentCookieHello := by
    have waiting := not_not.mp awaits
    simpa using waiting
  apply returns_enter known
  · intro _
    apply sturdy.plain
    rcases waiting with state | state <;> rw [state] <;> decide
  · intro impossible
    cases impossible
  · rcases waiting with state | state <;> simp [recordsLeft, state]

theorem returns_handleServerKeyExchange (sturdy : Sturdy primitives inbox client)
    (body : ByteString) :
    Returns (fun _ after => Sturdy primitives inbox after)
      (handleServerKeyExchange primitives body) client := by
  apply ensures_get_bind
  dsimp only
  refine ensures_ite (fun _ => ensures_pure sturdy) fun awaits => ?_
  refine ensures_ite (fun _ => returns_fail sturdy _) fun _ => ?_
  refine ensures_ite (fun _ => returns_fail sturdy _) fun within => ?_
  refine ensures_python_bind (octetAt_ok (by omega)) ?_
  refine ensures_ite (fun _ => returns_fail sturdy _) fun _ => ?_
  refine ensures_ite (fun _ => returns_fail sturdy _) fun _ => ?_
  refine ensures_python_bind (octetAt_ok (by omega)) ?_
  refine ensures_ite (fun _ => returns_fail sturdy _) fun _ => ?_
  refine ensures_ite (fun _ => returns_fail sturdy _) fun encoded => ?_
  have state : client.state = .gotServerHello := not_not.mp awaits
  have exchanged (draws : ℕ) (peerPoint : ByteString) (privateKey : Option ℕ) :
      Sturdy primitives inbox { client with draws, peerPoint, privateKey } :=
    { sturdy with keyed := fun impossible => by rw [state] at impossible; cases impossible }
  refine ensures_draw_bind (ensures_modify_bind (returns_enter (exchanged _ _ _) ?_ ?_ ?_))
  · exact fun _ => sturdy.plain (by rw [state]; decide)
  · exact fun _ => ⟨⟨_, rfl⟩, by simpa using encoded⟩
  · dsimp only
    rw [state]
    exact le_rfl

/-- A client that has sent its last flight. -/
theorem Sturdy.of_flight {before after : DtlsPskClient} (sturdy : Sturdy primitives inbox before)
    (reacts : Reacts before after) (state : after.state = .sentClientFlight)
    (random : after.clientRandom = before.clientRandom)
    (room : Room 0 0 after.nextMsgSeq after.sendSeq after.outbox) :
    Sturdy primitives inbox after := by
  have same := reacts.same (fun client => (client.inbox, client.identity, client.psk,
    client.appdata, client.pending, client.ready)) fun _ => rfl
  simp only [Prod.mk.injEq] at same
  rcases same with ⟨inboxEq, identityEq, pskEq, appdataEq, pendingEq, readyEq⟩
  refine ⟨inboxEq.trans sturdy.inbox, identityEq ▸ sturdy.identity, pskEq ▸ sturdy.psk,
    random ▸ sturdy.random, ?_, ?_, ?_, ?_⟩
  · rw [appdataEq, pendingEq, readyEq]
    exact sturdy.tables
  · rw [state]
    exact fun before => absurd List.mem_cons_self before
  · rw [state]
    exact nofun
  · rw [state]
    exact room

theorem returns_handleServerHelloDone (sturdy : Sturdy primitives inbox client) :
    Returns (fun _ after => Sturdy primitives inbox after)
      (handleServerHelloDone primitives) client := by
  by_cases state : client.state = .gotServerParams
  · have epoch := sturdy.plain (by rw [state]; decide)
    have room := sturdy.room
    rw [state] at room
    suffices flown : Returns (fun _ after => after.state = .sentClientFlight ∧
        after.clientRandom = client.clientRandom ∧
        Room 0 0 after.nextMsgSeq after.sendSeq after.outbox)
        (handleServerHelloDone primitives) client from
      (flown.and_keeps (reacts_handleServerHelloDone primitives)).mono
        fun _ after ⟨⟨entered, random, left⟩, reacts⟩ => sturdy.of_flight reacts entered random left
    apply ensures_get_bind
    rw [if_pos state]
    exact ensures_modify_bind
      (returns_sendClientFlight room (sturdy.keyed state) sturdy.identity sturdy.psk epoch)
  · apply ensures_get_bind
    rw [if_neg state]
    exact ensures_pure sturdy

theorem returns_handleServerFinished (sturdy : Sturdy primitives inbox client)
    (body : ByteString) :
    Returns (fun _ after => Sturdy primitives inbox after)
      (handleServerFinished primitives body) client := by
  have final : HandshakeState.established ∈ [HandshakeState.sentClientFlight, .established] := by
    simp
  apply ensures_get_bind
  refine ensures_ite (fun _ => ensures_pure sturdy) fun _ => ?_
  refine ensures_set_bind ?_
  refine ensures_ite (fun _ => ensures_modify { sturdy with }) fun _ => ?_
  refine ensures_modify_bind (ensures_modify ?_)
  exact { sturdy with
    plain := fun before => absurd final before
    keyed := nofun
    room := sturdy.room.mono (Nat.zero_le _) (Nat.zero_le _) }

theorem returns_handleMessage (sturdy : Sturdy primitives inbox client) {msgType : UInt8}
    {msgSeq : ℕ} {body : ByteString} (seqFits : msgSeq ≤ 0xFFFF)
    (fits : body.length ≤ maxHandshakeMessage) :
    Returns (fun _ after => Sturdy primitives inbox after)
      (handleMessage primitives msgType msgSeq body) client := by
  rcases handshakeMessage_ok msgType seqFits
    (lt_of_le_of_lt fits (by norm_num [maxHandshakeMessage])) with ⟨message, built, -⟩
  have recorded : Sturdy primitives inbox
      { client with transcript := client.transcript ++ message } := { sturdy with }
  refine ensures_python_bind built ?_
  refine ensures_ite (fun _ => ensures_modify_bind (returns_handleServerHello recorded body))
    fun _ => ?_
  refine ensures_ite
    (fun _ => ensures_modify_bind (returns_handleServerKeyExchange recorded body)) fun _ => ?_
  refine ensures_ite (fun _ => ensures_modify_bind (returns_handleServerHelloDone recorded))
    fun _ => ?_
  exact ensures_ite (fun _ => returns_handleServerFinished sturdy body) fun _ =>
    ensures_pure sturdy

theorem returns_deliverHandshake (sturdy : Sturdy primitives inbox client) {msgType : UInt8}
    {msgSeq : ℕ} {body : ByteString} (seqFits : msgSeq ≤ 0xFFFF)
    (fits : body.length ≤ maxHandshakeMessage) :
    Returns (fun _ after => Sturdy primitives inbox after ∧ after.ready = client.ready)
      (deliverHandshake primitives msgType msgSeq body) client := by
  have taken : Sturdy primitives inbox (client.taking msgType msgSeq body) := { sturdy with }
  rw [deliverHandshake_eq]
  refine ensures_modify_bind (Returns.mono (Returns.and_keeps
    (returns_handleMessage taken seqFits fits) (reacts_handleMessage primitives _ _ _)) ?_)
  intro _ after ⟨kept, reacts⟩
  have sameReady := reacts.same (·.ready) fun _ => rfl
  exact ⟨kept, sameReady⟩

/-- What is ready is delivered, as far as it goes on or until the client fails. -/
theorem returns_deliverReady {count : ℕ} (sturdy : Sturdy primitives inbox client)
    (enough : client.ready.size ≤ count) :
    Returns (fun _ after => Sturdy primitives inbox after ∧ after.Settled)
      (deliverReady primitives count) client := by
  have removed {message : UInt8 × ByteString}
      (found : client.ready.get? client.nextRecvMsgSeq = some message) :
      (client.ready.erase client.nextRecvMsgSeq).size < client.ready.size :=
    OrderedDict.size_erase_lt (OrderedDict.contains_iff.mpr ⟨message, found⟩)
  induction count generalizing client with
  | zero =>
      refine ensures_pure ⟨sturdy, .inl ?_⟩
      rcases found : client.ready.get? client.nextRecvMsgSeq with _ | message
      · rfl
      · have := removed found
        omega
  | succ count ih =>
      apply ensures_get_bind
      rcases found : client.ready.get? client.nextRecvMsgSeq with _ | ⟨msgType, body⟩
      · exact ensures_pure ⟨sturdy, .inl found⟩
      · have fewer := removed found
        have deliverable := sturdy.tables.deliverable _ _ found
        have erased : Sturdy primitives inbox
            { client with ready := client.ready.erase client.nextRecvMsgSeq } :=
          { sturdy with tables := sturdy.tables.erase_ready _ }
        refine ensures_set_bind (Returns.bind
          (returns_deliverHandshake erased deliverable.1 deliverable.2) ?_)
        rintro _ delivered ⟨kept, sameReady⟩
        apply ensures_get_bind
        refine ensures_ite (fun failed => ensures_pure ⟨kept, .inr failed⟩) fun _ => ?_
        apply ih kept
        · rw [sameReady]
          exact Nat.le_of_lt_succ (fewer.trans_le enough)
        · exact fun found => OrderedDict.size_erase_lt (OrderedDict.contains_iff.mpr ⟨_, found⟩)

/-! ### Fragments -/

/-- A ClientHello is sent and its state entered: it takes the room for one record. -/
theorem returns_sendHello {next : HandshakeState} {cookie : ByteString}
    (sturdy : Sturdy primitives inbox client) (short : cookie.length ≤ 255)
    (epoch : client.sendEpoch = 0)
    (room : Room (recordsLeft next client.helloVerifyCount + 1)
      (recordsLeft next client.helloVerifyCount + 1) client.nextMsgSeq client.sendSeq
      client.outbox)
    (greets : next ≠ .gotServerParams) :
    Returns (fun _ after => Sturdy primitives inbox after ∧ after.ready = client.ready ∧
        after.nextRecvMsgSeq = client.nextRecvMsgSeq)
      (do sendClientHello primitives cookie; enter next) client := by
  have sending : Returns _ (sendClientHello primitives cookie) client :=
    returns_sendClientHello short sturdy.random epoch room
  refine (sending.and_keeps (sends_sendClientHello primitives cookie)).bind ?_
  rintro _ sent ⟨⟨random, room⟩, sends⟩
  have same := sends.same (fun client => (client.inbox, client.identity, client.psk,
    client.appdata, client.pending, client.ready, client.sendEpoch, client.helloVerifyCount,
    client.nextRecvMsgSeq)) fun _ => rfl
  simp only [Prod.mk.injEq] at same
  rcases same with ⟨inboxEq, identityEq, pskEq, appdataEq, pendingEq, readyEq, epochEq, countEq,
    nextEq⟩
  refine ensures_modify ⟨⟨inboxEq.trans sturdy.inbox, identityEq ▸ sturdy.identity,
    pskEq ▸ sturdy.psk, random, ?_, fun _ => epochEq.trans epoch, fun same => absurd same greets,
    ?_⟩, readyEq, nextEq⟩
  · dsimp only
    rw [appdataEq, pendingEq, readyEq]
    exact sturdy.tables
  · dsimp only
    rw [countEq]
    exact room

theorem returns_answer {cookie : ByteString} (sturdy : Sturdy primitives inbox client)
    (short : cookie.length ≤ 255) (epoch : client.sendEpoch = 0)
    (room : Room (recordsLeft .sentCookieHello client.helloVerifyCount + 1)
      (recordsLeft .sentCookieHello client.helloVerifyCount + 1) client.nextMsgSeq client.sendSeq
      client.outbox) (msgSeq : ℕ) :
    Returns (fun _ after => Sturdy primitives inbox after ∧ after.Settled)
      (handleHelloVerifyRequest.answer primitives msgSeq cookie) client := by
  refine ensures_modify_bind ?_
  generalize startedEq : ({ client with
      cookie, transcript := [], nextRecvMsgSeq := msgSeq + 1, ready := .empty
      history := { client.history with
        messages := client.history.messages ++ [.answered msgSeq client.pending] } } :
      DtlsPskClient) = started
  have restarted : Sturdy primitives inbox started := by
    rw [← startedEq]
    exact { sturdy with
      tables := { sturdy.tables with
        ready_le := Nat.zero_le _
        deliverable := fun _ _ found => by rw [OrderedDict.get?_empty] at found; cases found } }
  have ready : started.ready = .empty := by rw [← startedEq]
  refine Returns.mono (returns_sendHello restarted short (by rw [← startedEq]; exact epoch)
    (by rw [← startedEq]; exact room) nofun) fun _ after ⟨kept, sameReady, _⟩ =>
    ⟨kept, .inl ?_⟩
  rw [sameReady, ready]
  rfl

/-- A HelloVerifyRequest leaves the messages that wait alone, or gives them up. -/
theorem returns_handleHelloVerifyRequest (sturdy : Sturdy primitives inbox client)
    (settled : client.Settled) (body : ByteString) (msgSeq : ℕ) :
    Returns (fun _ after => Sturdy primitives inbox after ∧ after.Settled)
      (handleHelloVerifyRequest primitives body msgSeq) client := by
  have unchanged : Sturdy primitives inbox client ∧ client.Settled := ⟨sturdy, settled⟩
  apply ensures_get_bind
  refine ensures_ite (fun _ => ensures_pure unchanged) fun awaits => ?_
  refine ensures_ite (fun _ => ensures_pure unchanged) fun long => ?_
  refine ensures_python_bind (octetAt_ok (by omega)) ?_
  refine ensures_ite (fun _ => ensures_pure unchanged) fun _ => ?_
  have short : ((body.drop 3).take body[2].toNat).length ≤ 255 := by
    have below := body[2].toNat_lt
    rw [List.length_take]
    omega
  generalize (body.drop 3).take body[2].toNat = cookie at short
  have waiting : client.state = .sentHello ∨ client.state = .sentCookieHello := by
    have waiting := not_not.mp awaits
    simpa using waiting
  have epoch : client.sendEpoch = 0 := by
    apply sturdy.plain
    rcases waiting with state | state <;> rw [state] <;> decide
  dsimp only
  refine ensures_ite (fun state => ?_) fun other => ?_
  · have room := sturdy.room
    rw [state] at room
    have fewer : recordsLeft client.state (client.helloVerifyCount + 1) ≤
        recordsLeft .sentCookieHello client.helloVerifyCount := by
      rw [state]
      simp only [recordsLeft]
      omega
    have counted : Sturdy primitives inbox
        { client with helloVerifyCount := client.helloVerifyCount + 1 } :=
      { sturdy with room := room.mono fewer fewer }
    refine ensures_set_bind ?_
    refine ensures_ite (fun _ => ?_) fun few => ?_
    · exact ensures_modify ⟨{ counted with }, .inr (isSome_orElse _ _)⟩
    refine ensures_ite (fun _ => ensures_pure ⟨counted, settled⟩) fun _ => ?_
    have left : recordsLeft .sentCookieHello (client.helloVerifyCount + 1) + 1 ≤
        recordsLeft .sentCookieHello client.helloVerifyCount := by
      simp only [recordsLeft]
      omega
    exact returns_answer counted short epoch (room.mono left left) msgSeq
  · have state : client.state = .sentHello := waiting.resolve_right other
    have room := sturdy.room
    rw [state] at room
    have left : recordsLeft .sentCookieHello client.helloVerifyCount + 1 ≤
        recordsLeft .sentHello client.helloVerifyCount := by
      simp only [recordsLeft, maxHelloVerify]
      omega
    exact returns_answer sturdy short epoch (room.mono left left) msgSeq

/-- What reassembly leaves: a message that is put together is as long as it says. -/
theorem returns_reassemble {msgSeq length fragOff : ℕ} {body : ByteString}
    (sturdy : Sturdy primitives inbox client) (settled : client.Settled)
    (fits : fragOff + body.length ≤ length) :
    Returns (fun complete after => Sturdy primitives inbox after ∧ after.Settled ∧
        ∀ message, complete = some message → message.length = length)
      (reassemble msgSeq length fragOff body) client := by
  have entryOk : (client.entryFor msgSeq length).WellFormed := by
    rcases client.entryFor_cases msgSeq length with ⟨found, -⟩ | new
    · exact sturdy.tables.wellFormed _ _ found
    · rw [new]
      exact PendingMessage.fresh_wellFormed length
  have entryLength := length_entryFor client msgSeq length
  have written := PendingMessage.write_wellFormed entryOk (fits.trans entryLength.ge)
  unfold Returns Ensures
  rw [exec_reassemble]
  dsimp only
  split_ifs with whole full complete
  · refine ⟨{ sturdy with }, settled, fun message same => ?_⟩
    cases same
    exact whole.2
  · exact ⟨{ sturdy with }, .inr (isSome_orElse _ _), by simp⟩
  · refine ⟨{ sturdy with tables := sturdy.tables.erase_pending msgSeq }, settled,
      fun message same => ?_⟩
    cases same
    exact written.buffer.trans entryLength
  · refine ⟨{ sturdy with tables := sturdy.tables.set_pending written fun absent => ?_ }, settled,
      by simp⟩
    exact lt_of_not_ge fun many => full ⟨absent, many⟩

/-- A header of numbers that fit, with a fragment that lies within its message. -/
structure FragmentHeader.Bounded (header : FragmentHeader) (body : ByteString) : Prop where
  msgSeq : header.msgSeq ≤ 0xFFFF
  length : header.length ≤ maxHandshakeMessage
  within : header.fragOff + body.length ≤ header.length

theorem returns_handleFragment {header : FragmentHeader} {body : ByteString}
    (sturdy : Sturdy primitives inbox client) (settled : client.Settled)
    (bounded : header.Bounded body) :
    Returns (fun _ after => Sturdy primitives inbox after ∧ after.Settled)
      (handleFragment primitives header body) client := by
  refine ensures_ite (fun _ => ?_) fun _ => ?_
  · exact Returns.bind (returns_handleHelloVerifyRequest sturdy settled body header.msgSeq)
      fun _ after kept => ensures_pure kept
  apply ensures_get_bind
  refine ensures_ite (fun _ => ensures_pure ⟨sturdy, settled⟩) fun _ => ?_
  refine Returns.bind (returns_reassemble sturdy settled bounded.within) ?_
  rintro (_ | complete) taken ⟨kept, settledStill, whole⟩
  · exact ensures_get_bind (ensures_pure ⟨kept, settledStill⟩)
  apply ensures_get_bind
  refine ensures_ite (fun _ => ?_) fun place => ?_
  · exact ensures_modify_bind (ensures_pure ⟨{ kept with }, .inr (isSome_orElse _ _)⟩)
  have deliverable : header.msgSeq ≤ 0xFFFF ∧ complete.length ≤ maxHandshakeMessage :=
    ⟨bounded.msgSeq, (whole complete rfl).trans_le bounded.length⟩
  have stored : Sturdy primitives inbox
      { taken with ready := taken.ready.set header.msgSeq (header.msgType, complete) } :=
    { kept with tables := kept.tables.set_ready deliverable (lt_of_not_ge place) }
  have enough : (taken.ready.set header.msgSeq (header.msgType, complete)).size ≤
      taken.ready.size + 1 := by
    rw [OrderedDict.size_set]
    split_ifs <;> omega
  refine ensures_set_bind (Returns.bind (returns_deliverReady stored enough) ?_)
  exact fun _ after delivered => ensures_get_bind (ensures_pure delivered)

/-- Every payload is walked to its end. -/
theorem returns_handleFragments (sturdy : Sturdy primitives inbox client)
    (settled : client.Settled) (helloVerifyOnly : Bool) (payload : ByteString) :
    Returns (fun _ after => Sturdy primitives inbox after ∧ after.Settled)
      (handleFragments primitives helloVerifyOnly payload) client := by
  induction size : payload.length using Nat.strong_induction_on generalizing payload client with
  | _ size ih =>
      rw [handleFragments]
      refine ensures_ite (fun _ => ensures_pure ⟨sturdy, settled⟩) fun long => ?_
      have positive : 0 < payload.length := by
        unfold handshakeHeader at long
        omega
      have read : FragmentHeader.read payload = .ok {
          msgType := payload[0]
          length := ByteString.toNat ((payload.drop 1).take 3)
          msgSeq := ByteString.toNat ((payload.drop 4).take 2)
          fragOff := ByteString.toNat ((payload.drop 6).take 3)
          fragLen := ByteString.toNat ((payload.drop 9).take 3) } := by
        rw [FragmentHeader.read, octetAt_ok positive]
        rfl
      have seqFits : ByteString.toNat ((payload.drop 4).take 2) < 256 ^ 2 :=
        (ByteString.toNat_lt _).trans_le
          (Nat.pow_le_pow_right (by decide) (List.length_take_le 2 (payload.drop 4)))
      refine ensures_python_bind read ?_
      dsimp only
      refine ensures_ite (fun _ => ensures_pure ⟨sturdy, settled⟩) fun _ => ?_
      refine ensures_ite (fun _ => ensures_pure ⟨sturdy, settled⟩) fun fits => ?_
      refine ensures_ite (fun _ => ensures_modify ⟨{ sturdy with }, .inr (isSome_orElse _ _)⟩)
        fun small => ?_
      refine Returns.bind (returns_handleFragment sturdy settled ⟨?_, ?_, ?_⟩) ?_
      · dsimp only
        omega
      · exact Nat.le_of_not_gt small
      · rw [List.length_take]
        dsimp only
        omega
      rintro goesOn handled ⟨kept, settledStill⟩
      refine ensures_ite (fun _ => ?_) fun _ => ensures_pure ⟨kept, settledStill⟩
      refine ih _ ?_ kept settledStill _ rfl
      simp only [List.length_drop, handshakeHeader] at long ⊢
      omega

theorem returns_handleHandshakeFragment (sturdy : Sturdy primitives inbox client)
    (settled : client.Settled) (payload : ByteString) (authenticated helloVerifyOnly : Bool) :
    Returns (fun _ after => Sturdy primitives inbox after ∧ after.Settled)
      (handleHandshakeFragment primitives payload authenticated helloVerifyOnly) client := by
  apply ensures_get_bind
  exact ensures_ite (fun _ => ensures_pure ⟨sturdy, settled⟩) fun _ =>
    returns_handleFragments sturdy settled helloVerifyOnly payload

end DtlsPskClient

end SmartThingsLocal
