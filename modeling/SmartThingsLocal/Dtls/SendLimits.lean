import SmartThingsLocal.Dtls.EngineRoom
import SmartThingsLocal.Dtls.ForgedDatagrams

/-!
# What `send` does with large data

The MAC, the padding and the IV lengthen a record, so its 16-bit length field overflows before the
data do. Between that limit and the cap of the outbound buffer, `send` raises what `struct` raises.
-/

namespace SmartThingsLocal

open Dtls Stateful

namespace Transform

variable {primitives : Primitives} {transform : Transform} {iv payload fragment : ByteString}
  {epoch seq : ℕ} {contentType : UInt8}

/-- The octets of a fragment: the IV and the blocks of the payload, the MAC and the padding. -/
theorem length_protect (ivLength : iv.length = block)
    (ran : transform.protect primitives iv epoch seq contentType payload = .ok fragment) :
    fragment.length = block * ((payload.length + 48) / block) + block := by
  rw [protect] at ran
  rcases Fallible.bind_eq_ok.mp ran with ⟨input, -, ran⟩
  extract_lets content padding pad at ran
  have padBound : pad < block ∧ block ∣ content.length + (pad + 1) := padding_fills content.length
  have small : pad < 256 := padBound.1.trans (by decide)
  rw [bytesOf_replicate (pad + 1) small, Fallible.ok_bind] at ran
  cases ran
  have aligned : block ∣ (content ++ List.replicate (pad + 1) (UInt8.ofNat pad)).length := by
    rw [List.length_append, List.length_replicate]
    exact padBound.2
  have contentLength : content.length = payload.length + 32 := by
    rw [List.length_append, primitives.length_hmacSha256]
    rfl
  rw [List.length_append, ivLength, primitives.length_aesCbcEncrypt _ _ _ aligned,
    List.length_append, List.length_replicate]
  have filled := padBound.2
  unfold block at *
  omega

variable (primitives transform iv contentType) in
/-- Larger payloads are refused by the length field of the MAC. -/
theorem protect_error (fits : epoch ≤ 0xFFFF) (seqFits : seq < 256 ^ 6)
    (large : 0xFFFF < payload.length) :
    ∃ error, transform.protect primitives iv epoch seq contentType payload = .error error := by
  have refused : packH payload.length =
      .error (.structError "'H' format requires 0 <= number <= 65535") :=
    if_neg (by omega)
  refine ⟨.structError "'H' format requires 0 <= number <= 65535", ?_⟩
  rw [protect, macInput, packH_ok fits, toBytes_ok seqFits, refused]
  rfl

end Transform

namespace DtlsPskClient

/-- The largest payload whose fragment has a length of 16 bits. -/
def maxSendPayload : ℕ := 65471

/-- One record is put after the others. -/
def AppendsRecord (before after : ByteString) : Prop :=
  ∃ record, after = before ++ record ∧ IsRecord record

variable (primitives : Primitives)

/-- `send` is classified: it appends a record, or raises `DtlsError` and appends nothing. -/
def SendClassified (client : DtlsPskClient) (data : ByteString) : Prop :=
  Ensures (fun sent after => sent = data.length ∧ AppendsRecord client.outbox after.outbox)
    (fun error after => (∃ reason, error = .dtlsError reason) ∧ after.outbox = client.outbox)
    (send primitives data) client

/-! ### The epoch of the keys -/

/-- Where there are record keys, the epoch is theirs. -/
def EpochOfKeys (before after : DtlsPskClient) : Prop :=
  (before.transform.isSome → before.sendEpoch = 1) → after.transform.isSome → after.sendEpoch = 1

instance : Std.Refl EpochOfKeys := ⟨fun _ keyed => keyed⟩

instance : IsTrans DtlsPskClient EpochOfKeys := ⟨fun _ _ _ before after => after ∘ before⟩

theorem epochOfKeys_of_same {before after : DtlsPskClient}
    (transform : after.transform = before.transform) (epoch : after.sendEpoch = before.sendEpoch) :
    EpochOfKeys before after := by
  unfold EpochOfKeys
  rw [transform, epoch]
  exact id

theorem epochOfKeys_of_sends {α : Type} {computation : Psk α} (sends : Keeps Sends computation) :
    Keeps EpochOfKeys computation :=
  sends.mono fun _ _ sent =>
    epochOfKeys_of_same (sent.same (·.transform) fun _ => rfl)
      (sent.same (·.sendEpoch) fun _ => rfl)

theorem epochOfKeys_fail (reason : String) : Keeps EpochOfKeys (fail reason) := fun _ => id

theorem epochOfKeys_enter (state : HandshakeState) : Keeps EpochOfKeys (enter state) := fun _ => id

theorem epochOfKeys_answer (cookie : ByteString) (msgSeq : ℕ) :
    Keeps EpochOfKeys (handleHelloVerifyRequest.answer primitives msgSeq cookie) := by
  refine keeps_bind (keeps_modify fun _ => id) fun _ => ?_
  exact keeps_bind (epochOfKeys_of_sends (sends_sendClientHello primitives cookie))
    fun _ => epochOfKeys_enter _

/-- The keys come with their epoch. -/
theorem epochOfKeys_exchange : ExchangeRelation primitives EpochOfKeys where
  refused := epochOfKeys_fail
  entered := epochOfKeys_enter
  recorded message := epochOfKeys_of_sends (sends_record message)
  drawn := epochOfKeys_of_sends sends_draw
  serverRandom _ _ := id
  serverParams _ _ _ := id
  clientFlight := leads_sendClientFlight primitives
    (fun _ _ sent => epochOfKeys_of_same (sent.same (·.transform) fun _ => rfl)
      (sent.same (·.sendEpoch) fun _ => rfl)) (fun _ _ => id) fun _ _ _ _ => rfl
  finished _ _ _ _ _ := id
  settled _ := id

theorem epochOfKeys_deliverHandshake (msgType : UInt8) (msgSeq : ℕ) (body : ByteString) :
    Keeps EpochOfKeys (deliverHandshake primitives msgType msgSeq body) := by
  rw [deliverHandshake_eq]
  refine keeps_bind (keeps_modify fun _ => id) fun _ => ?_
  exact (epochOfKeys_exchange primitives).keeps_handleMessage msgType msgSeq body

theorem epochOfKeys_lift : Lifts primitives EpochOfKeys where
  reads _ _ reads :=
    epochOfKeys_of_same (reads.same (·.transform) fun _ => rfl)
      (reads.same (·.sendEpoch) fun _ => rfl)
  payload := MessageRelation.keeps_handleHandshakeFragment {
    refused := epochOfKeys_fail
    stored := fun _ _ => id
    helloVerify := keeps_handleHelloVerifyRequest primitives (fun _ _ => id) epochOfKeys_fail
      (epochOfKeys_answer primitives)
    reassembled := fun _ _ _ _ => (collects_reassemble _ _ _ _).mono fun _ _ collects =>
      epochOfKeys_of_same (collects.same (·.transform) fun _ => rfl)
        (collects.same (·.sendEpoch) fun _ => rfl)
    delivered := epochOfKeys_deliverHandshake primitives }
  hello client _ :=
    keeps_bind (epochOfKeys_of_sends (sends_sendClientHello primitives []))
      (fun _ => epochOfKeys_enter _) client

theorem epochOfKeys_perform (call : PskCall) (client : DtlsPskClient) :
    EpochOfKeys client (call.perform primitives client) := by
  refine (epochOfKeys_lift primitives).records.perform fun sends => ?_
  have sent : Sends client (call.perform primitives client) := sends_perform sends client
  exact epochOfKeys_of_same (sent.same (·.transform) fun _ => rfl)
    (sent.same (·.sendEpoch) fun _ => rfl)

theorem epochOfKeys_run (calls : List PskCall) (client : DtlsPskClient) :
    EpochOfKeys client (Machine.run (PskCall.perform primitives) calls client) := by
  induction calls generalizing client with
  | nil => exact id
  | cons call calls ih =>
      exact trans_of EpochOfKeys (epochOfKeys_perform primitives call client) (ih _)

/-! ### Sending data -/

/-- A client whose session is established, with its keys and their epoch. -/
structure Sending (client : DtlsPskClient) : Prop where
  established : client.state = .established
  keyed : client.transform.isSome
  epoch : client.sendEpoch = 1

theorem sending_of_reached {identity key : ByteString} {mtu : ℕ} {fresh : DtlsPskClient}
    (created : create identity key mtu = .ok fresh) (calls : List PskCall) {client : DtlsPskClient}
    (reached : client = Machine.run (PskCall.perform primitives) calls fresh)
    (established : client.state = .established) : Sending client := by
  rcases session_of_reached created calls reached established with ⟨transform, session⟩
  have keyed : client.transform.isSome := by simp [session.keyed]
  have kept : EpochOfKeys fresh client := by
    rw [reached]
    exact epochOfKeys_run primitives calls fresh
  refine ⟨established, keyed, kept ?_ keyed⟩
  intro keyedFresh
  rcases create_eq_ok.mp created with ⟨-, -, -, rfl⟩
  cases keyedFresh

variable {primitives} {client : DtlsPskClient} {data : ByteString}

theorem header_length (contentType : UInt8) {epoch seq length : ByteString} (fragment : ByteString)
    (epochLength : epoch.length = 2) (seqLength : seq.length = 6)
    (lengthLength : length.length = 2) :
    let record := contentType :: version ++ epoch ++ seq ++ length ++ fragment
    record.length = recordHeader + fragment.length ∧ (record.drop 11).take 2 = length := by
  intro record
  refine ⟨?_, ?_⟩
  · simp only [record, List.length_append, List.length_cons, List.length_nil, version, recordHeader,
      epochLength, seqLength, lengthLength]
  · simp [record, version, List.drop_append, List.take_append, epochLength, seqLength, lengthLength]

/-- Before the record is made: a client that has failed, or has used all its numbers. -/
theorem sendClassified_of_refused (established : client.state = .established)
    (refused : client.failed.isSome ∨ client.sendSeq > maxSeq) :
    SendClassified primitives client data := by
  apply ensures_get_bind
  rw [if_neg (not_not.mpr established)]
  by_cases failed : client.failed.isSome = true
  · rw [if_pos failed]
    exact ⟨⟨_, rfl⟩, rfl⟩
  · rw [if_neg failed]
    have exhausted : client.sendSeq > maxSeq := refused.resolve_left failed
    refine ensures_bind (ensures_get_bind ?_)
    rw [if_pos exhausted]
    exact ⟨⟨_, rfl⟩, rfl⟩

theorem ensures_python_error {α : Type} {result : Except PythonError α} {error : PythonError}
    {returns : α → DtlsPskClient → Prop} {fails : DtlsFailure → DtlsPskClient → Prop}
    (ran : result = .error error) (holds : fails (.python error) client) :
    Ensures returns fails (python result) client := by
  rw [ran]
  exact holds

theorem ensures_send {returns : ℕ → DtlsPskClient → Prop}
    {fails : DtlsFailure → DtlsPskClient → Prop} (established : client.state = .established)
    (failed : client.failed = none)
    (emitted : Ensures (fun _ after => returns data.length after) fails
      (emitRecord primitives ctApplicationData data) client) :
    Ensures returns fails (send primitives data) client := by
  apply ensures_get_bind
  rw [if_neg (not_not.mpr established), failed]
  exact emitted.bind (fun _ _ returned => returned) fun _ _ failing => failing

theorem returns_protectFragment_of_keyed {transform : Transform} {fragment : ByteString}
    (keyed : client.transform = some transform) (epoch : client.sendEpoch = 1)
    (made : transform.protect primitives (primitives.urandom client.draws block) 1 client.sendSeq
      ctApplicationData data = .ok fragment) :
    Returns (fun made after => made = fragment ∧ after = { client with draws := client.draws + 1 })
      (protectFragment primitives ctApplicationData data) client := by
  apply ensures_get_bind
  rw [keyed]
  dsimp only
  rw [if_neg (by omega)]
  rw [← epoch] at made
  exact ensures_draw_bind (ensures_python made ⟨rfl, by rw [keyed]⟩)

/-- The record of a short payload is made; whether it is sent depends on the buffer. -/
theorem ensures_emitRecord_of_protect {transform : Transform} {fragment : ByteString}
    (keyed : client.transform = some transform) (epoch : client.sendEpoch = 1)
    (seqFits : client.sendSeq ≤ maxSeq) (fits : fragment.length ≤ 0xFFFF)
    (made : transform.protect primitives (primitives.urandom client.draws block) 1 client.sendSeq
      ctApplicationData data = .ok fragment) :
    Ensures (fun _ after => AppendsRecord client.outbox after.outbox)
      (fun error after => (∃ reason, error = .dtlsError reason) ∧ after.outbox = client.outbox)
      (emitRecord primitives ctApplicationData data) client := by
  apply ensures_get_bind
  rw [if_neg (by omega)]
  refine (returns_protectFragment_of_keyed keyed epoch made).bind ?_
  rintro fragment _ ⟨rfl, rfl⟩
  have seqBytes : client.sendSeq < 256 ^ 6 := by
    unfold maxSeq at seqFits
    omega
  refine ensures_python_bind (packH_ok (by omega)) (ensures_python_bind (toBytes_ok seqBytes) ?_)
  refine ensures_python_bind (packH_ok fits) (ensures_modify_bind ?_)
  rcases header_length ctApplicationData fragment (ByteString.length_ofNat 2 client.sendEpoch)
    (ByteString.length_ofNat 6 client.sendSeq) (ByteString.length_ofNat 2 fragment.length) with
    ⟨recordLength, lengthField⟩
  refine ensures_ite (fun _ => ⟨⟨_, rfl⟩, rfl⟩) fun _ => ?_
  refine ⟨_, rfl, ?_, ?_⟩
  · omega
  · rw [lengthField, recordLength, ByteString.toNat_ofNat (by omega)]
    omega

theorem sendClassified_of_fits (sending : Sending client)
    (fits : data.length ≤ maxSendPayload) : SendClassified primitives client data := by
  by_cases refused : client.failed.isSome = true ∨ client.sendSeq > maxSeq
  · exact sendClassified_of_refused sending.established refused
  rw [not_or, Bool.not_eq_true, Option.isSome_eq_false_iff, Option.isNone_iff_eq_none, not_lt]
    at refused
  rcases refused with ⟨failed, seqFits⟩
  rcases Option.isSome_iff_exists.mp sending.keyed with ⟨transform, keyed⟩
  have ivLength := primitives.length_urandom client.draws block
  unfold maxSendPayload at fits
  rcases transform.protect_ok primitives (by omega : 1 < 2 ^ 16)
    (by unfold maxSeq at seqFits; omega : client.sendSeq < 2 ^ 48) ctApplicationData ivLength
    (by omega : data.length ≤ 0xFFFF) with ⟨fragment, made, -⟩
  have fragmentFits : fragment.length ≤ 0xFFFF := by
    rw [Transform.length_protect ivLength made]
    unfold block
    omega
  refine ensures_send sending.established failed ?_
  refine (ensures_emitRecord_of_protect keyed sending.epoch seqFits fragmentFits made).mono ?_ ?_
  · exact fun _ _ appends => ⟨rfl, appends⟩
  · exact fun _ _ failing => failing

/-- What exceeds the length fields raises the error of the interpreter's library. -/
theorem raises_of_large (sending : Sending client) (failed : client.failed = none)
    (seqFits : client.sendSeq ≤ maxSeq) (large : maxSendPayload < data.length) :
    Ensures (fun _ _ => False) (fun error _ => ∃ reason, error = .python reason)
      (send primitives data) client := by
  rcases Option.isSome_iff_exists.mp sending.keyed with ⟨transform, keyed⟩
  have ivLength := primitives.length_urandom client.draws block
  have seqBytes : client.sendSeq < 256 ^ 6 := by
    unfold maxSeq at seqFits
    omega
  refine ensures_send sending.established failed (ensures_get_bind ?_)
  rw [if_neg (by omega)]
  unfold maxSendPayload at large
  by_cases longer : 0xFFFF < data.length
  · refine ensures_bind (ensures_get_bind ?_)
    rw [keyed]
    dsimp only
    rw [if_neg (by rw [sending.epoch]; omega)]
    rcases transform.protect_error primitives (primitives.urandom client.draws block)
      ctApplicationData (by omega : 1 ≤ 0xFFFF) seqBytes longer with ⟨error, refused⟩
    rw [← sending.epoch] at refused
    exact ensures_draw_bind (ensures_python_error refused ⟨error, rfl⟩)
  · rcases transform.protect_ok primitives (by omega : 1 < 2 ^ 16)
      (by omega : client.sendSeq < 2 ^ 48) ctApplicationData ivLength
      (by omega : data.length ≤ 0xFFFF) with ⟨fragment, made, -⟩
    have fragmentLarge : 0xFFFF < fragment.length := by
      rw [Transform.length_protect ivLength made]
      unfold block
      omega
    refine (returns_protectFragment_of_keyed keyed sending.epoch made).bind ?_
    rintro _ _ ⟨rfl, rfl⟩
    refine ensures_python_bind (packH_ok (by rw [sending.epoch]; omega)) ?_
    refine ensures_python_bind (toBytes_ok seqBytes) ?_
    refine ensures_bind (ensures_python_error (if_neg (by omega)) ⟨_, rfl⟩)

theorem sendClassified_iff (sending : Sending client) :
    SendClassified primitives client data ↔
      client.failed.isSome ∨ client.sendSeq > maxSeq ∨ data.length ≤ maxSendPayload := by
  refine ⟨fun classified => ?_, ?_⟩
  · by_contra none
    rw [not_or, not_or, Bool.not_eq_true, Option.isSome_eq_false_iff, Option.isNone_iff_eq_none,
      not_lt, not_le] at none
    rcases none with ⟨failed, seqFits, large⟩
    have raises : Ensures (fun _ _ => False) (fun error _ => ∃ reason, error = .python reason)
        (send primitives data) client := raises_of_large sending failed seqFits large
    unfold SendClassified Ensures at classified
    unfold Ensures at raises
    generalize exec (send primitives data) client = outcome at classified raises
    rcases outcome with ⟨error | sent, after⟩
    · rcases classified with ⟨⟨reason, classified⟩, -⟩
      rcases raises with ⟨error', raises⟩
      rw [classified] at raises
      cases raises
    · exact raises
  · rintro (failed | exhausted | fits)
    · exact sendClassified_of_refused sending.established (.inl failed)
    · exact sendClassified_of_refused sending.established (.inr exhausted)
    · exact sendClassified_of_fits sending fits

end DtlsPskClient

/--
With any counter and outbox, `send` of an established client appends one record or raises
`DtlsError`, just when the data fit a record or something has refused them before.
-/
theorem send_classified_iff (primitives : Primitives) {identity key : ByteString} {mtu : ℕ}
    {fresh : DtlsPskClient} (created : DtlsPskClient.create identity key mtu = .ok fresh)
    (calls : List PskCall) {client : DtlsPskClient}
    (reached : client = Machine.run (PskCall.perform primitives) calls fresh)
    (established : client.state = .established) (sendSeq : ℕ) (outbox data : ByteString) :
    DtlsPskClient.SendClassified primitives { client with sendSeq, outbox } data ↔
      client.failed.isSome ∨ sendSeq > maxSeq ∨ data.length ≤ DtlsPskClient.maxSendPayload := by
  have sending := DtlsPskClient.sending_of_reached primitives created calls reached established
  have withCounters : DtlsPskClient.Sending { client with sendSeq, outbox } :=
    ⟨sending.established, sending.keyed, sending.epoch⟩
  exact DtlsPskClient.sendClassified_iff withCounters

open Recording in
/-- What the recorded handshake leaves: its Finished is the one record under the new keys. -/
private theorem recorded_client {client : DtlsPskClient}
    (reached : client = Machine.run (PskCall.perform sample.primitives)
      [.doHandshake, .bioWrite (Sample.record ctHandshake 0 0 Sample.serverMessages), .doHandshake,
        .bioWrite (Sample.record ctChangeCipherSpec 0 1 [1] ++
          Sample.protectedRecord ctHandshake 0 1), .doHandshake]
      { identity := Sample.identity, psk := Sample.psk }) :
    client.state = .established ∧ client.failed = none ∧ client.sendSeq = 1 := by
  rw [reached]
  decide +kernel

open Recording in
/-- The client of a recorded handshake, with a buffer that is nearly full. -/
theorem send_classified_iff_example :
    let primitives := sample.primitives
    let fresh : DtlsPskClient := { identity := Sample.identity, psk := Sample.psk }
    let calls : List PskCall :=
      [.doHandshake, .bioWrite (Sample.record ctHandshake 0 0 Sample.serverMessages), .doHandshake,
        .bioWrite (Sample.record ctChangeCipherSpec 0 1 [1] ++
          Sample.protectedRecord ctHandshake 0 1), .doHandshake]
    let client := Machine.run (PskCall.perform primitives) calls fresh
    let outbox := List.replicate 262100 0
    client.state = .established ∧
      DtlsPskClient.SendClassified primitives { client with sendSeq := 7, outbox } [5, 6] := by
  intro primitives fresh calls client outbox
  have created : DtlsPskClient.create Sample.identity Sample.psk 1400 = .ok fresh := rfl
  have reached : client = Machine.run (PskCall.perform primitives) calls fresh := rfl
  clear_value client outbox
  have established : client.state = .established := (recorded_client reached).1
  refine ⟨established, ?_⟩
  apply (send_classified_iff primitives created calls reached established 7 outbox [5, 6]).mpr
  exact .inr (.inr (by simp [DtlsPskClient.maxSendPayload]))

open Recording in
/-- 65472 octets of data raise something else. -/
theorem send_raises_struct_error :
    let primitives := sample.primitives
    let fresh : DtlsPskClient := { identity := Sample.identity, psk := Sample.psk }
    let calls : List PskCall :=
      [.doHandshake, .bioWrite (Sample.record ctHandshake 0 0 Sample.serverMessages), .doHandshake,
        .bioWrite (Sample.record ctChangeCipherSpec 0 1 [1] ++
          Sample.protectedRecord ctHandshake 0 1), .doHandshake]
    let client := Machine.run (PskCall.perform primitives) calls fresh
    DtlsPskClient.create Sample.identity Sample.psk 1400 = .ok fresh ∧
      client.state = .established ∧
      ¬DtlsPskClient.SendClassified primitives client (List.replicate 65472 0) := by
  intro primitives fresh calls client
  have created : DtlsPskClient.create Sample.identity Sample.psk 1400 = .ok fresh := rfl
  have reached : client = Machine.run (PskCall.perform primitives) calls fresh := rfl
  clear_value client
  rcases recorded_client reached with ⟨established, failed, sendSeq⟩
  refine ⟨created, established, fun classified => ?_⟩
  have sending := DtlsPskClient.sending_of_reached primitives created calls reached established
  rcases (DtlsPskClient.sendClassified_iff sending).mp classified with refused | exhausted | fits
  · simp [failed] at refused
  · rw [sendSeq] at exhausted
    simp [maxSeq] at exhausted
  · rw [List.length_replicate, DtlsPskClient.maxSendPayload] at fits
    omega

end SmartThingsLocal
