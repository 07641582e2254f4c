import SmartThingsLocal.Dtls.MethodFrames
import SmartThingsLocal.Dtls.RecordProtectionExact
import SmartThingsLocal.Foundation.Contracts

/-!
# Room for the client's own records

A client sends at most ten records of at most 400 octets before its handshake is over, so no field
of their headers overflows and the outbound buffer does not fill up. The methods that send never
raise while there is room.
-/

namespace SmartThingsLocal

open Dtls Stateful

namespace DtlsPskClient

/-- Room for some handshake messages and some records more. -/
structure Room (messages records : ℕ) (nextMsgSeq sendSeq : ℕ) (outbox : ByteString) : Prop where
  messages : nextMsgSeq + messages ≤ 10
  sequence : sendSeq + records ≤ 10
  outbox : outbox.length + 400 * records ≤ 4000

variable {primitives : Primitives} {client : DtlsPskClient} {messages records : ℕ}

theorem ensures_python_bind {α β : Type} {result : Except PythonError α} {value : α}
    {next : α → Psk β} {returns : β → DtlsPskClient → Prop}
    {fails : DtlsFailure → DtlsPskClient → Prop} (ran : result = .ok value)
    (rest : Ensures returns fails (next value) client) :
    Ensures returns fails (python result >>= next) client := by
  rw [ran]
  exact rest

theorem ensures_python {α : Type} {result : Except PythonError α} {value : α}
    {returns : α → DtlsPskClient → Prop} {fails : DtlsFailure → DtlsPskClient → Prop}
    (ran : result = .ok value) (holds : returns value client) :
    Ensures returns fails (python result) client := by
  rw [ran]
  exact holds

theorem ensures_draw_bind {β : Type} {next : ℕ → Psk β} {returns : β → DtlsPskClient → Prop}
    {fails : DtlsFailure → DtlsPskClient → Prop}
    (rest : Ensures returns fails (next client.draws) { client with draws := client.draws + 1 }) :
    Ensures returns fails (draw >>= next) client :=
  rest

/-- A payload is lengthened by the IV, the MAC and the padding. -/
theorem length_of_protect (transform : Transform) {iv payload : ByteString} {seq : ℕ}
    (contentType : UInt8) (seqFits : seq < 2 ^ 48) (ivLength : iv.length = block)
    (fits : payload.length ≤ 0xFFFF) :
    ∃ fragment, transform.protect primitives iv 1 seq contentType payload = .ok fragment ∧
      fragment.length ≤ payload.length + 304 := by
  rcases Transform.protect_ok primitives transform (by norm_num : 1 < 2 ^ 16) seqFits contentType
    ivLength fits with ⟨fragment, ran, aligned, pad, parts⟩
  have total := congrArg List.length parts
  have below := pad.toNat_lt
  rw [Transform.length_decrypted aligned, List.length_append, List.length_append,
    primitives.length_hmacSha256, List.length_replicate] at total
  unfold macLen block at total
  exact ⟨fragment, ran, by omega⟩

/-- A payload leaves in a short record, protected or not. -/
def Fits (client : DtlsPskClient) (payload : ByteString) : Prop :=
  client.sendEpoch = 0 ∧ payload.length ≤ 340 ∨ client.sendEpoch = 1 ∧ payload.length ≤ 80

/-- What the room is counted from, and the random of the client, stay the same. -/
def SameRoom (before after : DtlsPskClient) : Prop :=
  (after.nextMsgSeq, after.sendSeq, after.outbox, after.clientRandom) =
    (before.nextMsgSeq, before.sendSeq, before.outbox, before.clientRandom)

instance : Std.Refl SameRoom := ⟨fun _ => rfl⟩

instance : IsTrans DtlsPskClient SameRoom := ⟨fun _ _ _ before after => after.trans before⟩

theorem sameRoom_protectFragment (contentType : UInt8) (payload : ByteString) :
    Keeps SameRoom (protectFragment primitives contentType payload) := by
  have drawn : Keeps SameRoom draw := fun _ => rfl
  exact keeps_protectFragment primitives drawn contentType payload

theorem returns_protectFragment {contentType : UInt8} {payload : ByteString}
    (fits : client.Fits payload) (seqFits : client.sendSeq ≤ maxSeq) :
    Returns (fun fragment _ => fragment.length ≤ 384)
      (protectFragment primitives contentType payload) client := by
  have short : payload.length ≤ 384 := by
    rcases fits with ⟨-, short⟩ | ⟨-, short⟩ <;> omega
  apply ensures_get_bind
  cases client.transform with
  | none => exact ensures_pure short
  | some transform =>
      refine ensures_ite (fun _ => ensures_pure short) fun protectedEpoch => ?_
      rcases fits with ⟨unprotected, -⟩ | ⟨epoch, payloadShort⟩
      · exact absurd unprotected protectedEpoch
      · have seq : client.sendSeq < 2 ^ 48 := by
          unfold maxSeq at seqFits
          omega
        rcases length_of_protect transform contentType seq
          (primitives.length_urandom client.draws block) (by omega : payload.length ≤ 0xFFFF) with
          ⟨fragment, ran, length_le⟩
        rw [← epoch] at ran
        exact ensures_draw_bind (ensures_python ran (by omega))

/-- What sending one record leaves: the room for it is taken. -/
structure Sent (messages records : ℕ) (before after : DtlsPskClient) : Prop where
  sends : Sends before after
  random : after.clientRandom = before.clientRandom
  room : Room messages records after.nextMsgSeq after.sendSeq after.outbox

theorem returns_emitRecord {contentType : UInt8} {payload : ByteString}
    (room : Room messages (records + 1) client.nextMsgSeq client.sendSeq client.outbox)
    (fits : client.Fits payload) :
    Returns (fun _ after => Sent messages records client after)
      (emitRecord primitives contentType payload) client := by
  have seqFits : client.sendSeq ≤ 9 := by
    have := room.sequence
    omega
  have epochFits : client.sendEpoch ≤ 0xFFFF := by
    rcases fits with ⟨epoch, -⟩ | ⟨epoch, -⟩ <;> omega
  suffices runs : Returns (fun _ after => after.clientRandom = client.clientRandom ∧
      Room messages records after.nextMsgSeq after.sendSeq after.outbox)
      (emitRecord primitives contentType payload) client from
    (runs.and_keeps (sends_emitRecord primitives contentType payload)).mono
      fun _ after both => ⟨both.2, both.1.1, both.1.2⟩
  apply ensures_get_bind
  refine ensures_ite (fun exhausted => ?_) fun _ => ?_
  · unfold maxSeq at exhausted
    omega
  refine ((returns_protectFragment fits (by unfold maxSeq; omega)).and_keeps
    (sameRoom_protectFragment contentType payload)).bind ?_
  rintro fragment drawn ⟨short, same⟩
  simp only [SameRoom, Prod.mk.injEq] at same
  rcases same with ⟨sameMessages, sameSequence, sameOutbox, sameRandom⟩
  refine ensures_python_bind (packH_ok epochFits) ?_
  refine ensures_python_bind (toBytes_ok (by omega)) ?_
  refine ensures_python_bind (packH_ok (by omega)) ?_
  dsimp only
  generalize recordEq : contentType :: version ++ ByteString.ofNat 2 client.sendEpoch ++
    ByteString.ofNat 6 client.sendSeq ++ ByteString.ofNat 2 fragment.length ++ fragment = record
  have recordLength : record.length ≤ 397 := by
    rw [← recordEq]
    simp only [List.cons_append, List.length_cons, List.length_append, ByteString.length_ofNat,
      version, List.length_nil]
    omega
  refine ensures_modify_bind ?_
  have outbox := room.outbox
  refine ensures_ite (fun overflow => ?_) fun _ => ?_
  · unfold maxOutbox at overflow
    omega
  have left : Room messages records drawn.nextMsgSeq (drawn.sendSeq + 1)
      (drawn.outbox ++ record) := by
    constructor
    · rw [sameMessages]
      exact room.messages
    · rw [sameSequence]
      have := room.sequence
      omega
    · rw [sameOutbox, List.length_append]
      omega
  refine ensures_modify_bind ?_
  refine ensures_ite (fun _ => ?_) fun _ => ?_
  · exact ensures_draw_bind (ensures_modify ⟨sameRandom, left⟩)
  · exact ensures_pure ⟨sameRandom, left⟩

theorem handshakeMessage_ok (msgType : UInt8) {msgSeq : ℕ} {body : ByteString}
    (seqFits : msgSeq ≤ 0xFFFF) (fits : body.length < 256 ^ 3) :
    ∃ message, handshakeMessage msgType msgSeq body = .ok message ∧
      message.length = body.length + 12 := by
  refine ⟨_, by
    rw [handshakeMessage, toBytes_ok fits, Fallible.ok_bind, packH_ok seqFits, Fallible.ok_bind]
    rfl, ?_⟩
  simp only [List.cons_append, List.length_cons, List.length_append, ByteString.length_ofNat]
  omega

theorem returns_emitHandshake {msgType : UInt8} {body : ByteString}
    (room : Room (messages + 1) (records + 1) client.nextMsgSeq client.sendSeq client.outbox)
    (fits : client.sendEpoch = 0 ∧ body.length ≤ 328 ∨ client.sendEpoch = 1 ∧ body.length ≤ 68) :
    Returns (fun _ after => Sent messages records client after)
      (emitHandshake primitives msgType body) client := by
  have seqFits := room.messages
  rcases handshakeMessage_ok msgType (by omega : client.nextMsgSeq ≤ 0xFFFF)
    (by omega : body.length < 256 ^ 3) with ⟨message, built, length_eq⟩
  apply ensures_get_bind
  refine ensures_python_bind built (ensures_modify_bind ?_)
  have taken : Room messages (records + 1) (client.nextMsgSeq + 1) client.sendSeq client.outbox :=
    ⟨by omega, room.sequence, room.outbox⟩
  refine (returns_emitRecord taken ?_).mono fun _ after sent => ?_
  · rcases fits with ⟨epoch, short⟩ | ⟨epoch, short⟩
    · exact .inl ⟨epoch, by omega⟩
    · exact .inr ⟨epoch, by omega⟩
  · exact ⟨sent.sends, sent.random, sent.room⟩

/-- A ClientHello is short, whatever the cookie. -/
theorem returns_sendClientHello {cookie : ByteString} (short : cookie.length ≤ 255)
    (random : client.clientRandom.length ≤ 32) (epoch : client.sendEpoch = 0)
    (room : Room (messages + 1) (records + 1) client.nextMsgSeq client.sendSeq client.outbox) :
    Returns (fun _ after => after.clientRandom.length ≤ 32 ∧
        Room messages records after.nextMsgSeq after.sendSeq after.outbox)
      (sendClientHello primitives cookie) client := by
  have rest {started : DtlsPskClient} (random : started.clientRandom.length ≤ 32)
      (epoch : started.sendEpoch = 0)
      (room : Room (messages + 1) (records + 1) started.nextMsgSeq started.sendSeq
        started.outbox) :
      Returns (fun _ after => after.clientRandom.length ≤ 32 ∧
        Room messages records after.nextMsgSeq after.sendSeq after.outbox) (do
          let client ← get
          let cookieLength ← python (octetOf cookie.length)
          let body := version ++ client.clientRandom ++ [0, cookieLength] ++ cookie ++
            ByteString.ofNat 2 2 ++ ByteString.ofNat 2 suite ++ [1, 0] ++
            ByteString.ofNat 2 helloExtensions.length ++ helloExtensions
          startFlight
          emitHandshake primitives htClientHello body) started := by
    apply ensures_get_bind
    refine ensures_python_bind (if_pos (by omega)) ?_
    refine ensures_modify_bind ?_
    have started : Room (messages + 1) (records + 1) started.nextMsgSeq started.sendSeq
        started.outbox := room
    refine Returns.mono (returns_emitHandshake started ?_) fun _ after sent => ?_
    · refine .inl ⟨epoch, ?_⟩
      simp only [List.length_append, List.length_cons, List.length_nil, ByteString.length_ofNat,
        version, helloExtensions]
      omega
    · exact ⟨sent.random ▸ random, sent.room⟩
  refine ensures_bind (ensures_ite (fun _ => ?_) fun _ => ?_)
  · exact ensures_draw_bind (ensures_modify (rest (primitives.length_urandom _ _).le epoch room))
  · exact ensures_pure (rest random epoch room)

theorem length_prf_le (secret label seed : ByteString) (length : ℕ) :
    (prf primitives secret label seed length).length ≤ length := by
  rw [prf]
  exact List.length_take_le _ _

/-- The keys that the last flight takes. -/
structure Keyed (primitives : Primitives) (privateKey : Option ℕ) (peerPoint : ByteString) :
    Prop where
  ownKey : ∃ key, privateKey = some key
  onCurve : primitives.isEncodedPoint peerPoint = true

theorem returns_sendClientFlight (room : Room 3 3 client.nextMsgSeq client.sendSeq client.outbox)
    (keyed : Keyed primitives client.privateKey client.peerPoint)
    (identity : client.identity.length = 16) (psk : client.psk.length ≤ 0xFFFF)
    (epoch : client.sendEpoch = 0) :
    Returns (fun _ after => after.state = client.state ∧
        after.clientRandom = client.clientRandom ∧
        Room 0 0 after.nextMsgSeq after.sendSeq after.outbox)
      (sendClientFlight primitives) client := by
  rcases keyed.ownKey with ⟨key, isKey⟩
  have owned : client.ownKey = .ok key := by rw [ownKey, isKey]
  have publicLength := primitives.length_publicBytes key
  have sharedLength := primitives.length_exchange key client.peerPoint keyed.onCurve
  refine ensures_modify_bind (ensures_modify_bind (ensures_get_bind ?_))
  refine ensures_python_bind owned ?_
  refine ensures_python_bind (packH_ok (by dsimp only; omega)) ?_
  refine ensures_python_bind (if_pos (by simp [publicLength])) ?_
  refine Returns.bind (returns_emitHandshake room (.inl ⟨epoch, ?_⟩)) ?_
  · simp [publicLength, identity]
  rintro _ exchanged sent
  have exchangedEpoch : exchanged.sendEpoch = 0 :=
    (sent.sends.same (·.sendEpoch) fun _ => rfl).trans epoch
  refine ensures_python_bind (if_pos keyed.onCurve) ?_
  have derived : ∃ masterSecret, deriveMasterSecret primitives client
      (primitives.exchange key client.peerPoint) = .ok masterSecret := by
    rw [deriveMasterSecret, packH_ok (by omega), Fallible.ok_bind, packH_ok psk, Fallible.ok_bind]
    exact ⟨_, rfl⟩
  rcases derived with ⟨masterSecret, derived⟩
  refine ensures_python_bind derived (ensures_modify_bind ?_)
  refine Returns.bind (returns_emitRecord sent.room (.inl ⟨exchangedEpoch, by simp⟩)) ?_
  rintro _ changed changeSent
  have changedRoom : Room (1 + 1) (0 + 1) changed.nextMsgSeq 0 changed.outbox := by
    rcases changeSent.room with ⟨messagesFit, -, outboxFits⟩
    exact ⟨messagesFit, by norm_num, outboxFits⟩
  refine ensures_modify_bind (ensures_get_bind ?_)
  refine Returns.mono (returns_emitHandshake changedRoom (.inr ⟨rfl, ?_⟩)) ?_
  · exact (length_prf_le _ _ _ _).trans (by norm_num [verifyDataLen])
  · intro _ after finishedSent
    have sameFinished := finishedSent.sends.same (·.state) fun _ => rfl
    have sameChanged := changeSent.sends.same (·.state) fun _ => rfl
    have sameExchanged := sent.sends.same (·.state) fun _ => rfl
    refine ⟨?_, ?_, ?_⟩
    · exact sameFinished.trans (sameChanged.trans sameExchanged)
    · exact finishedSent.random.trans (changeSent.random.trans sent.random)
    · have finishedRoom := finishedSent.room
      exact ⟨by have := finishedRoom.messages; omega, finishedRoom.sequence, finishedRoom.outbox⟩

end DtlsPskClient

end SmartThingsLocal
