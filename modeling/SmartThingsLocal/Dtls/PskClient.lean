import SmartThingsLocal.Dtls.RecordProtection
import SmartThingsLocal.Dtls.ReplayWindow
import SmartThingsLocal.Foundation.OrderedDict

/-!
# The DTLS PSK client

`DtlsPskClient`: a DTLS 1.2 client for TLS_ECDHE_PSK_WITH_AES_128_CBC_SHA256 behind a
memory BIO. A method that raises leaves the client as its assignments so far have made it.
The client also remembers what has happened to it; no method reads that.
-/

namespace SmartThingsLocal

/-- The exceptions the engine raises; the last ones are the interpreter's own. -/
inductive DtlsFailure
  | wantRead
  | zeroReturn
  | dtlsError (reason : String)
  | python (error : PythonError)
  deriving DecidableEq, Repr

inductive HandshakeState
  | start
  | sentHello
  | sentCookieHello
  | gotServerHello
  | gotServerParams
  | sentClientFlight
  | established
  deriving DecidableEq, Repr

/-- What happens to the handshake. A state is entered with the exchange that has been settled. -/
inductive PhaseEvent
  | entered (state : HandshakeState) (serverRandom peerPoint : ByteString) (privateKey : Option ℕ)
  | serverFinished (verifyData masterSecret transcript : ByteString) (readActive : Bool)
  | clientFlight
  deriving DecidableEq, Repr

/-- A message that is being reassembled: its length, its octets and which of them have been seen. -/
structure PendingMessage where
  length : ℕ
  buffer : ByteString
  seen : ByteString
  deriving DecidableEq, Repr

/--
What happens to handshake messages: a fragment comes to reassembly, a HelloVerifyRequest is
answered while some messages are incomplete, a message is handed to its handler.
-/
inductive MessageEvent
  | received (msgSeq fragOff : ℕ) (body : ByteString)
  | answered (msgSeq : ℕ) (pending : OrderedDict ℕ PendingMessage)
  | delivered (msgType : UInt8) (msgSeq : ℕ) (body : ByteString)
  deriving DecidableEq

/-- A record that passes its protection, with the keys it is read by and the state it comes in. -/
structure OpenedRecord where
  contentType : UInt8
  epoch : ℕ
  seq : ℕ
  fragment : ByteString
  transform : Transform
  payload : ByteString
  state : HandshakeState
  deriving DecidableEq, Repr

/-- Application data that is queued, with the record it came in and the state of the handshake. -/
structure QueuedPayload where
  payload : ByteString
  epoch : ℕ
  seq : ℕ
  state : HandshakeState
  deriving DecidableEq, Repr

/-- What has happened to a client. -/
structure PskHistory where
  phases : List PhaseEvent := []
  emitted : List ByteString := []
  messages : List MessageEvent := []
  opened : List OpenedRecord := []
  queued : List QueuedPayload := []
  returned : List ByteString := []
  deriving DecidableEq

structure DtlsPskClient where
  identity : ByteString
  psk : ByteString
  inbox : List ByteString := []
  outbox : ByteString := []
  appdata : List ByteString := []
  state : HandshakeState := .start
  transcript : ByteString := []
  sendEpoch : ℕ := 0
  sendSeq : ℕ := 0
  nextMsgSeq : ℕ := 0
  recvWindows : OrderedDict ℕ ReplayWindow := .empty
  transform : Option Transform := none
  readActive : Bool := false
  clientRandom : ByteString := []
  serverRandom : ByteString := []
  cookie : ByteString := []
  masterSecret : ByteString := []
  privateKey : Option ℕ := none
  peerPoint : ByteString := []
  pending : OrderedDict ℕ PendingMessage := .empty
  ready : OrderedDict ℕ (UInt8 × ByteString) := .empty
  nextRecvMsgSeq : ℕ := 0
  flight : List ByteString := []
  rto : ℚ := 1
  flightDeadline : Option ℚ := none
  peerClosed : Bool := false
  helloVerifyCount : ℕ := 0
  failed : Option String := none
  /-- How many random draws and clock readings there have been. -/
  draws : ℕ := 0
  history : PskHistory := {}
  deriving DecidableEq

namespace Dtls

def ctChangeCipherSpec : UInt8 := 20
def ctAlert : UInt8 := 21
def ctHandshake : UInt8 := 22
def ctApplicationData : UInt8 := 23

def htClientHello : UInt8 := 1
def htServerHello : UInt8 := 2
def htHelloVerifyRequest : UInt8 := 3
def htServerKeyExchange : UInt8 := 12
def htServerHelloDone : UInt8 := 14
def htClientKeyExchange : UInt8 := 16
def htFinished : UInt8 := 20

def suite : ℕ := 0xC037
def namedCurveSecp256r1 : ℕ := 0x0017
def eccurvetypeNamed : UInt8 := 3

def recordHeader : ℕ := 13
def handshakeHeader : ℕ := 12
def verifyDataLen : ℕ := 12
def maxSeq : ℕ := 2 ^ 48 - 1
def maxHandshakeMessage : ℕ := 16384
def maxOutbox : ℕ := 262144
def maxPendingMessages : ℕ := 16
def maxInbox : ℕ := 64
def maxAppdata : ℕ := 256
def maxHelloVerify : ℕ := 5

def alertCloseNotify : UInt8 := 0
def alertFatal : UInt8 := 2
def alertWarning : UInt8 := 1

/-- Four or more lowercase hexadecimal digits. -/
def hex4 (value : ℕ) : String :=
  let digits := Nat.toDigits 16 value
  String.ofList (List.replicate (4 - digits.length) '0' ++ digits)

end Dtls

/-- A method of the client. -/
abbrev Psk := Stateful DtlsFailure DtlsPskClient

namespace DtlsPskClient

open Dtls Stateful

/-- The constructor; the MTU is only checked. -/
def create (identity key : ByteString) (mtu : ℕ) : Except PythonError DtlsPskClient :=
  if ¬(1 ≤ identity.length ∧ identity.length ≤ 0xFFFF) then
    .error (.valueError "identity must be 1 to 65535 bytes")
  else if key.length ∉ [16, 32] then .error (.valueError "key must be 16 or 32 bytes")
  else if ¬(256 ≤ mtu ∧ mtu ≤ 65535) then
    .error (.valueError "mtu must be between 256 and 65535")
  else .ok { identity, psk := key }

theorem create_eq_ok {identity key : ByteString} {mtu : ℕ} {fresh : DtlsPskClient} :
    create identity key mtu = .ok fresh ↔
      (1 ≤ identity.length ∧ identity.length ≤ 0xFFFF) ∧ key.length ∈ [16, 32] ∧
        (256 ≤ mtu ∧ mtu ≤ 65535) ∧ fresh = { identity, psk := key } := by
  unfold create
  split_ifs with identityLength keyLength mtuBounds
  · constructor
    · intro made
      exact ⟨identityLength, keyLength, mtuBounds, (Except.ok.inj made).symm⟩
    · rintro ⟨-, -, -, rfl⟩
      rfl
  · exact ⟨nofun, fun accepted => absurd accepted.2.2.1 mtuBounds⟩
  · exact ⟨nofun, fun accepted => absurd accepted.2.1 keyLength⟩
  · exact ⟨nofun, fun accepted => absurd accepted.1 identityLength⟩

variable (primitives : Primitives)

/-- A step of the interpreter's own libraries. -/
def python {α : Type} (result : Except PythonError α) : Psk α :=
  readOnly (result.mapError DtlsFailure.python)

/-- A numbered random draw or clock reading. -/
def draw : Psk ℕ := do
  let client ← get
  set { client with draws := client.draws + 1 }
  return client.draws

/-- `_fail`: the first reason stays. -/
def fail (reason : String) : Psk Unit :=
  modify fun client => { client with failed := client.failed <|> some reason }

/-- `raise DtlsError(self._failed)`. -/
def raiseFailed {α : Type} : Psk α := do
  let client ← get
  throw (.dtlsError (client.failed.getD ""))

/-- Assign `_state`. -/
def enter (state : HandshakeState) : Psk Unit :=
  modify fun client => { client with
    state
    history := { client.history with
      phases := client.history.phases ++
        [.entered state client.serverRandom client.peerPoint client.privateKey] } }

/-! ### Emission -/

def startFlight : Psk Unit := modify fun client => { client with flight := [], rto := 1 }

/-- The fragment of a record: protected when the epoch has keys. -/
def protectFragment (contentType : UInt8) (payload : ByteString) : Psk ByteString := do
  let client ← get
  match client.transform with
  | none => return payload
  | some transform =>
      if client.sendEpoch = 0 then return payload
      else do
        let index ← draw
        python (transform.protect primitives (primitives.urandom index block) client.sendEpoch
          client.sendSeq contentType payload)

/-- Append a record to the outbound buffer. -/
def append (record : ByteString) : Psk Unit :=
  modify fun client => { client with
    outbox := client.outbox ++ record
    history := { client.history with emitted := client.history.emitted ++ [record] } }

def emitRecord (contentType : UInt8) (payload : ByteString) : Psk Unit := do
  let client ← get
  if client.sendSeq > maxSeq then
    fail "DTLS sequence number space exhausted"
    raiseFailed
  else
    let fragment ← protectFragment primitives contentType payload
    let epoch ← python (packH client.sendEpoch)
    let seq ← python (toBytes 6 client.sendSeq)
    let length ← python (packH fragment.length)
    let record := contentType :: version ++ epoch ++ seq ++ length ++ fragment
    modify fun client => { client with sendSeq := client.sendSeq + 1 }
    if client.outbox.length + record.length > maxOutbox then
      fail "DTLS outbound buffer overflow"
      raiseFailed
    else
      append record
      -- application records are the caller's to retry
      if contentType = ctHandshake ∨ contentType = ctChangeCipherSpec then
        let index ← draw
        modify fun client => { client with
          flight := client.flight ++ [record]
          flightDeadline := some (primitives.now index + client.rto) }
      else pure ()

/-- A message in one fragment. -/
def handshakeMessage (msgType : UInt8) (msgSeq : ℕ) (body : ByteString) :
    Except PythonError ByteString := do
  let length ← toBytes 3 body.length
  let msgSeq ← packH msgSeq
  return msgType :: length ++ msgSeq ++ ByteString.ofNat 3 0 ++ length ++ body

/-- `_emit_handshake`; every caller adds the message to the transcript. -/
def emitHandshake (msgType : UInt8) (body : ByteString) : Psk Unit := do
  let client ← get
  let message ← python (handshakeMessage msgType client.nextMsgSeq body)
  modify fun client => { client with
    nextMsgSeq := client.nextMsgSeq + 1
    transcript := client.transcript ++ message }
  emitRecord primitives ctHandshake message

/-- The extensions of the ClientHello: one curve and one point format. -/
def helloExtensions : ByteString :=
  ByteString.ofNat 2 0x000A ++ ByteString.ofNat 2 4 ++ ByteString.ofNat 2 2 ++
    ByteString.ofNat 2 namedCurveSecp256r1 ++ ByteString.ofNat 2 0x000B ++ ByteString.ofNat 2 2 ++
    [1, 0]

def sendClientHello (cookie : ByteString) : Psk Unit := do
  when (cookie = []) do
    let index ← draw
    modify fun client => { client with clientRandom := primitives.urandom index 32 }
  let client ← get
  let cookieLength ← python (octetOf cookie.length)
  let body := version ++ client.clientRandom ++ [0, cookieLength] ++ cookie ++
    ByteString.ofNat 2 2 ++ ByteString.ofNat 2 suite ++ [1, 0] ++
    ByteString.ofNat 2 helloExtensions.length ++ helloExtensions
  startFlight
  emitHandshake primitives htClientHello body

/-- The master secret of an exchange, from the ECDHE-PSK premaster secret. -/
def deriveMasterSecret (client : DtlsPskClient) (shared : ByteString) :
    Except PythonError ByteString := do
  let sharedLength ← packH shared.length
  let pskLength ← packH client.psk.length
  return prf primitives (sharedLength ++ shared ++ pskLength ++ client.psk)
    (ascii "master secret") (client.clientRandom ++ client.serverRandom) 48

/-- `_private_key`, of which an attribute is wanted. -/
def ownKey (client : DtlsPskClient) : Except PythonError ℕ :=
  match client.privateKey with
  | some privateKey => .ok privateKey
  | none => .error (.attributeError "'NoneType' object has no attribute 'public_key'")

/-- `EllipticCurvePublicKey.from_encoded_point`, which raises nothing but `ValueError`. -/
def fromEncodedPoint (point : ByteString) : Except PythonError ByteString :=
  if primitives.isEncodedPoint point then .ok point else .error (.valueError "Invalid EC key.")

/-- ClientKeyExchange, ChangeCipherSpec and Finished. -/
def sendClientFlight : Psk Unit := do
  modify fun client => { client with
    history := { client.history with phases := client.history.phases ++ [.clientFlight] } }
  startFlight
  let client ← get
  let privateKey ← python client.ownKey
  let publicBytes := primitives.publicBytes privateKey
  let identityLength ← python (packH client.identity.length)
  let publicLength ← python (bytesOf [publicBytes.length])
  emitHandshake primitives htClientKeyExchange
    (identityLength ++ client.identity ++ publicLength ++ publicBytes)
  let peer ← python (fromEncodedPoint primitives client.peerPoint)
  let masterSecret ← python (deriveMasterSecret primitives client
    (primitives.exchange privateKey peer))
  modify fun client => { client with masterSecret }
  let keyBlock := prf primitives masterSecret (ascii "key expansion")
    (client.serverRandom ++ client.clientRandom) (macLen * 2 + keyLen * 2)
  emitRecord primitives ctChangeCipherSpec [1]
  modify fun client => { client with
    transform := some (Transform.ofKeyBlock keyBlock), sendEpoch := 1, sendSeq := 0 }
  let client ← get
  emitHandshake primitives htFinished (prf primitives client.masterSecret (ascii "client finished")
    (primitives.sha256 client.transcript) verifyDataLen)

/-! ### Handshake messages -/

/-- `_handle_hello_verify_request`: every challenge is answered, up to a limit. -/
def handleHelloVerifyRequest (body : ByteString) (msgSeq : ℕ) : Psk Unit := do
  let client ← get
  if client.state ∉ [HandshakeState.sentHello, .sentCookieHello] then pure ()
  else if body.length < 3 then pure ()
  else
    let cookieLen ← python (octetAt body 2)
    if 3 + cookieLen.toNat > body.length then pure ()
    else
      let cookie := (body.drop 3).take cookieLen.toNat
      if client.state = .sentCookieHello then
        set { client with helloVerifyCount := client.helloVerifyCount + 1 }
        if client.helloVerifyCount + 1 > maxHelloVerify then
          fail "server kept re-issuing HelloVerifyRequest"
        else if cookie = client.cookie then pure ()
        else answer cookie
      else answer cookie
where
  /-- A new ClientHello with the cookie; the transcript starts at it. -/
  answer (cookie : ByteString) : Psk Unit := do
    modify fun client => { client with
      cookie, transcript := [], nextRecvMsgSeq := msgSeq + 1, ready := .empty
      history := { client.history with
        messages := client.history.messages ++ [.answered msgSeq client.pending] } }
    sendClientHello primitives cookie
    enter .sentCookieHello

def handleServerHello (body : ByteString) : Psk Unit := do
  let client ← get
  if client.state ∉ [HandshakeState.sentHello, .sentCookieHello] then pure ()
  else if body.length < 35 then fail "short ServerHello"
  else if body.take 2 ≠ version then fail "server selected a version other than DTLS 1.2"
  else
    set { client with serverRandom := (body.drop 2).take 32 }
    let sessionLen ← python (octetAt body 34)
    let offset := 35 + sessionLen.toNat
    let selected := ByteString.toNat ((body.drop offset).take 2)
    if offset + 3 > body.length then fail "malformed ServerHello"
    else if selected ≠ suite then
      fail ("server selected unexpected ciphersuite 0x" ++ hex4 selected)
    else
      let compression ← python (octetAt body (offset + 2))
      if compression ≠ 0 then fail "server selected a compression method"
      else enter .gotServerHello

def handleServerKeyExchange (body : ByteString) : Psk Unit := do
  let client ← get
  let offset := 2 + ByteString.toNat (body.take 2)
  if client.state ≠ .gotServerHello then pure ()
  else if body.length < 2 then fail "short ServerKeyExchange"
  else if offset + 4 > body.length then fail "malformed ServerKeyExchange"
  else
    let curveType ← python (octetAt body offset)
    let curve := ByteString.toNat ((body.drop (offset + 1)).take 2)
    if curveType ≠ eccurvetypeNamed then fail "server offered a non-named curve"
    else if curve ≠ namedCurveSecp256r1 then
      fail ("server offered unexpected curve 0x" ++ hex4 curve)
    else
      let pointLen ← python (octetAt body (offset + 3))
      let point := (body.drop (offset + 4)).take pointLen.toNat
      if point.length ≠ pointLen.toNat ∨ pointLen = 0 then fail "malformed server ECDH point"
      else if primitives.isEncodedPoint point = false then
        fail "server ECDH point is not on secp256r1"
      else
        let index ← draw
        modify fun client => { client with
          peerPoint := point, privateKey := some (primitives.generatePrivateKey index) }
        enter .gotServerParams

def handleServerHelloDone : Psk Unit := do
  let client ← get
  if client.state = .gotServerParams then
    enter .sentClientFlight
    sendClientFlight primitives
  else pure ()

def handleServerFinished (body : ByteString) : Psk Unit := do
  let client ← get
  if client.readActive = false ∨ client.state ≠ .sentClientFlight then pure ()
  else
    set { client with history := { client.history with
      phases := client.history.phases ++
        [PhaseEvent.serverFinished body client.masterSecret client.transcript client.readActive] } }
    let expected := prf primitives client.masterSecret (ascii "server finished")
      (primitives.sha256 client.transcript) verifyDataLen
    if body.length ≠ verifyDataLen ∨ body ≠ expected then fail "server Finished did not verify"
    else
      enter .established
      modify fun client => { client with flight := [], flightDeadline := none }

/-- Add a received message to the transcript. -/
def record (message : ByteString) : Psk Unit :=
  modify fun client => { client with transcript := client.transcript ++ message }

/-- `_deliver_handshake`; the message is rebuilt as it would be without fragmentation. -/
def deliverHandshake (msgType : UInt8) (msgSeq : ℕ) (body : ByteString) : Psk Unit := do
  modify fun client => { client with
    nextRecvMsgSeq := msgSeq + 1
    history := { client.history with
      messages := client.history.messages ++ [.delivered msgType msgSeq body] } }
  let message ← python (handshakeMessage msgType msgSeq body)
  if msgType = htServerHello then
    record message
    handleServerHello body
  else if msgType = htServerKeyExchange then
    record message
    handleServerKeyExchange primitives body
  else if msgType = htServerHelloDone then
    record message
    handleServerHelloDone primitives
  else if msgType = htFinished then handleServerFinished primitives body
  else pure ()

/-- `_deliver_ready` for at most `count` messages; each one leaves the table. -/
def deliverReady : ℕ → Psk Unit
  | 0 => pure ()
  | count + 1 => do
      let client ← get
      match client.ready.get? client.nextRecvMsgSeq with
      | none => pure ()
      | some (msgType, body) =>
          set { client with ready := client.ready.erase client.nextRecvMsgSeq }
          deliverHandshake primitives msgType client.nextRecvMsgSeq body
          let client ← get
          if client.failed.isSome then pure () else deliverReady count

/-- Write a slice of a buffer; it lies within the buffer. -/
def overwrite (buffer : ByteString) (offset : ℕ) (slice : ByteString) : ByteString :=
  buffer.take offset ++ slice ++ buffer.drop (offset + slice.length)

/-- `_reassemble`: the whole body once every octet of it has been seen. -/
def reassemble (msgSeq length fragOff : ℕ) (body : ByteString) : Psk (Option ByteString) := do
  modify fun client => { client with history := { client.history with
    messages := client.history.messages ++ [.received msgSeq fragOff body] } }
  let client ← get
  let entry := client.pending.get? msgSeq
  let fresh : PendingMessage := ⟨length, List.replicate length 0, List.replicate length 0⟩
  if fragOff = 0 ∧ body.length = length then return some body
  else if entry = none ∧ client.pending.size ≥ maxPendingMessages then
    fail "too many incomplete handshake messages"
    return none
  else
    let current := (entry.filter (·.length = length)).getD fresh
    let buffer := overwrite current.buffer fragOff body
    let seen := overwrite current.seen fragOff (List.replicate body.length 1)
    if seen.all (· ≠ 0) then
      set { client with pending := client.pending.erase msgSeq }
      return some buffer
    else
      set { client with pending := client.pending.set msgSeq ⟨length, buffer, seen⟩ }
      return none

/-- The header of a handshake message fragment. -/
structure FragmentHeader where
  msgType : UInt8
  length : ℕ
  msgSeq : ℕ
  fragOff : ℕ
  fragLen : ℕ

def FragmentHeader.read (payload : ByteString) : Except PythonError FragmentHeader := do
  let msgType ← octetAt payload 0
  return {
    msgType
    length := ByteString.toNat ((payload.drop 1).take 3)
    msgSeq := ByteString.toNat ((payload.drop 4).take 2)
    fragOff := ByteString.toNat ((payload.drop 6).take 3)
    fragLen := ByteString.toNat ((payload.drop 9).take 3) }

/-- One pass of the loop of `_handle_handshake_fragment`: whether it goes on. -/
def handleFragment (header : FragmentHeader) (body : ByteString) : Psk Bool := do
  if header.msgType = htHelloVerifyRequest ∧ header.fragOff = 0 then
    handleHelloVerifyRequest primitives body header.msgSeq
    return true
  else
    let client ← get
    if header.msgSeq < client.nextRecvMsgSeq then return true
    else
      match ← reassemble header.msgSeq header.length header.fragOff body with
      | none =>
          let client ← get
          return client.failed.isNone
      | some complete =>
          let client ← get
          if client.ready.size ≥ maxPendingMessages then
            fail "too many out-of-order handshake messages"
            return false
          else
            set { client with ready := client.ready.set header.msgSeq (header.msgType, complete) }
            deliverReady primitives (client.ready.size + 1)
            let client ← get
            return client.failed.isNone

/-- The loop of `_handle_handshake_fragment` over what is left of a record's payload. -/
def handleFragments (helloVerifyOnly : Bool) (payload : ByteString) : Psk Unit :=
  if payload.length < handshakeHeader then pure ()
  else do
    let header ← python (FragmentHeader.read payload)
    if helloVerifyOnly ∧ header.msgType ≠ htHelloVerifyRequest then pure ()
    else if handshakeHeader + header.fragLen > payload.length ∨
        header.fragOff + header.fragLen > header.length then pure ()
    else if header.length > maxHandshakeMessage then fail "handshake message too large"
    else do
      let goesOn ← handleFragment primitives header
        ((payload.drop handshakeHeader).take header.fragLen)
      if goesOn then
        handleFragments helloVerifyOnly (payload.drop (handshakeHeader + header.fragLen))
      else pure ()
termination_by payload.length
decreasing_by
  simp only [List.length_drop, handshakeHeader] at *
  omega

def handleHandshakeFragment (payload : ByteString) (authenticated helloVerifyOnly : Bool) :
    Psk Unit := do
  let client ← get
  -- renegotiation is not supported
  if client.state = .established ∧ authenticated then pure ()
  else handleFragments primitives helloVerifyOnly payload

/-! ### Records -/

def handleAlert (payload : ByteString) (authenticated : Bool) : Psk Unit :=
  match payload with
  | level :: description :: _ =>
      if description = alertCloseNotify then
        if authenticated then modify fun client => { client with peerClosed := true } else pure ()
      else if level = alertFatal then
        fail ("peer sent fatal alert " ++ toString description.toNat)
      else pure ()
  | _ => pure ()

/-- A ChangeCipherSpec. -/
def handleChangeCipherSpec (payload : ByteString) : Psk Unit :=
  modify fun client =>
    if payload = [1] ∧ client.state = .sentClientFlight then
      { client with readActive := true, recvWindows := client.recvWindows.erase 1 }
    else client

/-- Application data; a full queue drops its oldest payload. -/
def queueApplicationData (epoch seq : ℕ) (payload : ByteString) : Psk Unit :=
  modify fun client =>
    if epoch = 0 ∨ payload = [] then client
    else
      { client with
        appdata :=
          (if client.appdata.length ≥ maxAppdata then client.appdata.drop 1 else client.appdata) ++
            [payload]
        history := { client.history with
          queued := client.history.queued ++ [⟨payload, epoch, seq, client.state⟩] } }

def handlePayload (contentType : UInt8) (epoch seq : ℕ) (helloVerifyOnly : Bool)
    (payload : ByteString) : Psk Unit :=
  if contentType = ctHandshake then
    handleHandshakeFragment primitives payload (epoch > 0) helloVerifyOnly
  else if contentType = ctChangeCipherSpec then handleChangeCipherSpec payload
  else if contentType = ctAlert then handleAlert payload (epoch > 0)
  else if contentType = ctApplicationData then queueApplicationData epoch seq payload
  else pure ()

/-- The header of a record, and the rest of it. -/
structure RecordParts where
  contentType : UInt8
  version : ByteString
  epoch : ℕ
  seq : ℕ
  fragment : ByteString

def RecordParts.read (record : ByteString) : Except PythonError RecordParts := do
  let contentType ← octetAt record 0
  return {
    contentType
    version := (record.drop 1).take 2
    epoch := ByteString.toNat ((record.drop 3).take 2)
    seq := ByteString.toNat ((record.drop 5).take 6)
    fragment := record.drop recordHeader }

/-- The one record that is admitted in another version: a HelloVerifyRequest in DTLS 1.0 framing. -/
def acceptsVersion (state : HandshakeState) (parts : RecordParts) : Bool :=
  parts.version = [0xFE, 0xFF] ∧ parts.epoch = 0 ∧ parts.contentType = ctHandshake ∧
    state ∈ [HandshakeState.sentHello, .sentCookieHello] ∧
    parts.fragment.take 1 = [htHelloVerifyRequest]

/-- A record of a protected epoch; the window moves only when the record is authentic. -/
def handleProtected (transform : Transform) (parts : RecordParts) (helloVerifyOnly : Bool) :
    Psk Unit := do
  let client ← get
  let window := (client.recvWindows.get? parts.epoch).getD {}
  set { client with recvWindows := client.recvWindows.set parts.epoch window }
  if window.isReplay parts.seq then pure ()
  else
    match ← python (transform.unprotect primitives parts.epoch parts.seq parts.contentType
      parts.fragment) with
    | none => pure ()
    | some payload =>
        modify fun client => { client with
          recvWindows := client.recvWindows.set parts.epoch (window.accept parts.seq)
          history := { client.history with
            opened := client.history.opened ++ [⟨parts.contentType, parts.epoch, parts.seq,
              parts.fragment, transform, payload, client.state⟩] } }
        handlePayload primitives parts.contentType parts.epoch parts.seq helloVerifyOnly payload

def handleRecord (record : ByteString) : Psk Unit := do
  let client ← get
  let parts ← python (RecordParts.read record)
  let helloVerifyOnly : Bool := parts.version ≠ version
  if helloVerifyOnly ∧ acceptsVersion client.state parts = false then pure ()
  else if parts.epoch ≠ (if client.readActive then 1 else 0) then pure ()
  else if parts.epoch > 0 then
    match client.transform with
    | none => pure ()
    | some transform => handleProtected primitives transform parts helloVerifyOnly
  else
    handlePayload primitives parts.contentType parts.epoch parts.seq helloVerifyOnly parts.fragment

/-- The complete records of a datagram, as the loop of `_drain_inbox` cuts them off. -/
def recordsOf (datagram : ByteString) : List ByteString :=
  if datagram.length < recordHeader then []
  else
    let stop := recordHeader + ByteString.toNat ((datagram.drop 11).take 2)
    if stop > datagram.length then []
    else datagram.take stop :: recordsOf (datagram.drop stop)
termination_by datagram.length
decreasing_by
  simp only [List.length_drop, recordHeader] at *
  omega

/-- Handle records until the session fails: whether it has not. -/
def handleRecords : List ByteString → Psk Bool
  | [] => return true
  | record :: rest => do
      handleRecord primitives record
      let client ← get
      if client.failed.isSome then return false else handleRecords rest

/-- `_drain_inbox` for at most `count` datagrams. -/
def drainInbox : ℕ → Psk Unit
  | 0 => pure ()
  | count + 1 => do
      let client ← get
      match client.inbox with
      | [] => pure ()
      | datagram :: rest =>
          set { client with inbox := rest }
          let goesOn ← handleRecords primitives (recordsOf datagram)
          if goesOn then drainInbox count else pure ()

/-! ### The interface -/

/-- Hand over one datagram; a full queue drops it. -/
def bioWrite (datagram : ByteString) : Psk ℕ := do
  let client ← get
  if client.inbox.length ≥ maxInbox then return 0
  else
    set { client with inbox := client.inbox ++ [datagram] }
    return datagram.length

/-- Take up to `capacity` octets of the outbound records. -/
def bioRead (capacity : ℕ) : Psk ByteString := do
  let client ← get
  if client.outbox = [] then throw .wantRead
  else
    set { client with outbox := client.outbox.drop capacity }
    return client.outbox.take capacity

/-- The queue holds as many datagrams as it is long. -/
def drain : Psk Unit := do
  let client ← get
  drainInbox primitives client.inbox.length

def doHandshake : Psk Unit := do
  let client ← get
  if client.failed.isSome then raiseFailed
  else if client.state = .established then pure ()
  else
    when (client.state = .start) do
      sendClientHello primitives []
      enter .sentHello
    drain primitives
    let client ← get
    if client.failed.isSome then raiseFailed
    else if client.state ≠ .established then throw .wantRead
    else pure ()

def send (data : ByteString) : Psk ℕ := do
  let client ← get
  if client.state ≠ .established then throw (.dtlsError "session is not established")
  else if client.failed.isSome then raiseFailed
  else
    emitRecord primitives ctApplicationData data
    return data.length

/-- The end of `recv`: buffered data comes before any failure or close. -/
def returnQueued (capacity : ℕ) : Psk ByteString := do
  let client ← get
  match client.appdata with
  | payload :: rest =>
      if payload.length > capacity then
        set { client with
          appdata := payload.drop capacity :: rest
          history := { client.history with
            returned := client.history.returned ++ [payload.take capacity] } }
        return payload.take capacity
      else
        set { client with
          appdata := rest
          history := { client.history with returned := client.history.returned ++ [payload] } }
        return payload
  | [] =>
      if client.failed.isSome then raiseFailed
      else if client.peerClosed then throw .zeroReturn
      else throw .wantRead

def recv (capacity : ℕ) : Psk ByteString := do
  let client ← get
  when (client.appdata = []) (drain primitives)
  returnQueued capacity

def shutdown : Psk Unit := do
  let client ← get
  if client.state = .established ∧ client.failed = none then
    emitRecord primitives ctAlert [alertWarning, alertCloseNotify]
  else pure ()

/-- Seconds until the flight is to be sent again. -/
def getTimeout : Psk (Option ℚ) := do
  let client ← get
  match client.flightDeadline, client.flight with
  | some deadline, _ :: _ =>
      let index ← draw
      return some (max 0 (deadline - primitives.now index))
  | _, _ => return none

/-- Append every record of the last flight again, and back off. -/
def handleTimeout : Psk Unit := do
  let client ← get
  if client.flight = [] ∨ client.flightDeadline = none then pure ()
  else
    client.flight.forM append
    let index ← draw
    modify fun client =>
      let rto := min (client.rto * 2) 60
      { client with rto, flightDeadline := some (primitives.now index + rto) }

end DtlsPskClient

/-- A call of the interface. -/
inductive PskCall
  | bioWrite (datagram : ByteString)
  | bioRead (capacity : ℕ)
  | doHandshake
  | send (data : ByteString)
  | recv (capacity : ℕ)
  | shutdown
  | getTimeout
  | handleTimeout
  deriving DecidableEq, Repr

namespace PskCall

open DtlsPskClient

variable (primitives : Primitives)

/-- A call, without what it returns. -/
def method : PskCall → Psk Unit
  | bioWrite datagram => discard (DtlsPskClient.bioWrite datagram)
  | bioRead capacity => discard (DtlsPskClient.bioRead capacity)
  | doHandshake => DtlsPskClient.doHandshake primitives
  | send data => discard (DtlsPskClient.send primitives data)
  | recv capacity => discard (DtlsPskClient.recv primitives capacity)
  | shutdown => DtlsPskClient.shutdown primitives
  | getTimeout => discard (DtlsPskClient.getTimeout primitives)
  | handleTimeout => DtlsPskClient.handleTimeout primitives

/-- The client after a call, whether it returned or raised. -/
def perform (call : PskCall) (client : DtlsPskClient) : DtlsPskClient :=
  (Stateful.exec (call.method primitives) client).2

end PskCall

end SmartThingsLocal
