import SmartThingsLocal.Dtls.PskClient
import SmartThingsLocal.Foundation.Logs

/-!
# The cleanup alert after HelloVerifyRequests only

`_HvrPeerCleanupTranscript` keeps bounded metadata of a handshake and builds an alert when
nothing but complete ClientHellos was sent and nothing but complete HelloVerifyRequests was
received. The two strict parsers accept exactly the written forms of records and messages, so
what the transcript retains is known from the messages themselves.
-/

namespace SmartThingsLocal

namespace Dtls

def dtlsVersions : List ByteString := [[0xFE, 0xFF], [0xFE, 0xFD]]

def epochZero : ByteString := [0, 0]

def alertHandshakeFailure : UInt8 := 40

def maxCleanupTranscriptRecords : ℕ := 32

/-- The loop of `_complete_epoch_zero_handshake_types` over what is left of the payload. -/
def handshakeTypes (payload : ByteString) : Option (List UInt8) :=
  match payload with
  | [] => some []
  | messageType :: rest =>
      let payload := messageType :: rest
      if payload.length < handshakeHeader then none
      else
        let messageLength := ByteString.toNat ((payload.drop 1).take 3)
        let fragmentOffset := ByteString.toNat ((payload.drop 6).take 3)
        let fragmentLength := ByteString.toNat ((payload.drop 9).take 3)
        let stop := handshakeHeader + fragmentLength
        if fragmentOffset ≠ 0 ∨ fragmentLength ≠ messageLength ∨ stop > payload.length then none
        else (handshakeTypes (payload.drop stop)).map (messageType :: ·)
termination_by payload.length
decreasing_by
  simp only [List.length_drop, List.length_cons, handshakeHeader]
  omega

/-- The types of the complete messages of one strict record. -/
def completeEpochZeroHandshakeTypes (record : ByteString) : Option (List UInt8) :=
  if record.length < recordHeader ∨ record[0]? ≠ some ctHandshake ∨
      (record.drop 1).take 2 ∉ dtlsVersions ∨ (record.drop 3).take 2 ≠ epochZero ∨
      ByteString.toNat ((record.drop 11).take 2) ≠ record.length - recordHeader then none
  else (handshakeTypes (record.drop recordHeader)).filter (· ≠ [])

/-- The loop of `_strict_dtls_records`, after some records. -/
def splitRecords (records : List ByteString) (datagram : ByteString) : Option (List ByteString) :=
  if datagram = [] then if records = [] then none else some records
  else if datagram.length < recordHeader then none
  else
    let stop := recordHeader + ByteString.toNat ((datagram.drop 11).take 2)
    if stop > datagram.length then none
    else if (records ++ [datagram.take stop]).length > maxCleanupTranscriptRecords then none
    else splitRecords (records ++ [datagram.take stop]) (datagram.drop stop)
termination_by datagram.length
decreasing_by
  simp only [List.length_drop, recordHeader] at *
  omega

/-- Split a complete datagram, or reject all of it. -/
def strictDtlsRecords (datagram : ByteString) : Option (List ByteString) :=
  splitRecords [] datagram

end Dtls

open Dtls

/-- `_HvrPeerCleanupTranscript`. -/
structure HvrPeerCleanupTranscript where
  invalid : Bool := false
  lastClientHelloHeader : Option ByteString := none
  receivedDatagrams : ℕ := 0
  receivedRecords : ℕ := 0
  sentClientHelloAfterHvr : Bool := false
  sentClientHellos : ℕ := 0
  deriving DecidableEq, Repr

namespace HvrPeerCleanupTranscript

/-- The sequence number of a record header, as octets. -/
def sequenceOf (header : ByteString) : ByteString := (header.drop 5).take 6

def recordSent (transcript : HvrPeerCleanupTranscript) (record : ByteString) :
    HvrPeerCleanupTranscript :=
  if completeEpochZeroHandshakeTypes record ≠ some [htClientHello] then
    { transcript with invalid := true }
  else
    let counted := { transcript with sentClientHellos := transcript.sentClientHellos + 1 }
    if counted.sentClientHellos > maxCleanupTranscriptRecords then { counted with invalid := true }
    else
      let flagged :=
        if counted.receivedRecords ≠ 0 then { counted with sentClientHelloAfterHvr := true }
        else counted
      let header := record.take recordHeader
      match flagged.lastClientHelloHeader with
      | none => { flagged with lastClientHelloHeader := some header }
      | some previous =>
          if sequenceOf previous ≤ sequenceOf header then
            { flagged with lastClientHelloHeader := some header }
          else flagged

/-- The records of a datagram are counted until one is no HelloVerifyRequest. -/
def countRecords (transcript : HvrPeerCleanupTranscript) :
    List ByteString → HvrPeerCleanupTranscript
  | [] => transcript
  | record :: records =>
      match completeEpochZeroHandshakeTypes record with
      | none => { transcript with invalid := true }
      | some types =>
          if types.any (· ≠ htHelloVerifyRequest) then { transcript with invalid := true }
          else countRecords { transcript with receivedRecords := transcript.receivedRecords + 1 }
            records

def recordReceived (transcript : HvrPeerCleanupTranscript) (datagram : ByteString) :
    HvrPeerCleanupTranscript :=
  let counted := { transcript with receivedDatagrams := transcript.receivedDatagrams + 1 }
  if counted.receivedDatagrams > maxCleanupTranscriptRecords then { counted with invalid := true }
  else
    match strictDtlsRecords datagram with
    | none => { counted with invalid := true }
    | some records =>
        if counted.receivedRecords + records.length > maxCleanupTranscriptRecords then
          { counted with invalid := true }
        else counted.countRecords records

/-- One alert in epoch zero, after a handshake of HelloVerifyRequests only. -/
def cleanupAlert (transcript : HvrPeerCleanupTranscript) : Option ByteString :=
  match transcript.lastClientHelloHeader with
  | none => none
  | some header =>
      if transcript.invalid ∨ transcript.sentClientHellos < 2 ∨
          transcript.sentClientHelloAfterHvr = false ∨ transcript.receivedDatagrams < 1 ∨
          transcript.receivedRecords < 1 then none
      else
        let sequence := ByteString.toNat (sequenceOf header)
        if sequence ≥ 2 ^ 48 - 1 then none
        else some (ctAlert :: (header.drop 1).take 2 ++ epochZero ++
          ByteString.ofNat 6 (sequence + 1) ++ [0, 2] ++ [alertFatal, alertHandshakeFailure])

end HvrPeerCleanupTranscript

/-! ### Complete messages and records -/

/-- A handshake message in one fragment. -/
structure CompleteHandshake where
  msgType : UInt8
  msgSeq : ℕ
  body : ByteString
  msgSeq_lt : msgSeq < 256 ^ 2
  body_lt : body.length < 256 ^ 3

/-- The written form of a message. -/
def CompleteHandshake.bytes (message : CompleteHandshake) : ByteString :=
  message.msgType :: (ByteString.ofNat 3 message.body.length ++
    (ByteString.ofNat 2 message.msgSeq ++ (ByteString.ofNat 3 0 ++
      (ByteString.ofNat 3 message.body.length ++ message.body))))

/-- A handshake record in epoch zero that holds complete messages. -/
structure EpochZeroRecord where
  version : ByteString
  seq : ℕ
  messages : List CompleteHandshake
  version_mem : version ∈ dtlsVersions
  seq_lt : seq < 256 ^ 6
  nonempty : messages ≠ []
  fits : (messages.flatMap CompleteHandshake.bytes).length < 256 ^ 2

namespace EpochZeroRecord

def payload (record : EpochZeroRecord) : ByteString :=
  record.messages.flatMap CompleteHandshake.bytes

def header (record : EpochZeroRecord) : ByteString :=
  ctHandshake :: (record.version ++ (epochZero ++ (ByteString.ofNat 6 record.seq ++
    ByteString.ofNat 2 record.payload.length)))

/-- The written form of a record. -/
def bytes (record : EpochZeroRecord) : ByteString := record.header ++ record.payload

def types (record : EpochZeroRecord) : List UInt8 := record.messages.map (·.msgType)

theorem length_version (record : EpochZeroRecord) : record.version.length = 2 := by
  have versionMem := record.version_mem
  simp only [dtlsVersions, List.mem_cons, List.not_mem_nil, or_false] at versionMem
  rcases versionMem with same | same <;> rw [same] <;> rfl

theorem length_header (record : EpochZeroRecord) : record.header.length = recordHeader := by
  simp [header, record.length_version, epochZero, recordHeader]

end EpochZeroRecord

namespace Dtls

/-- The next octets, and what is left after them. -/
theorem drop_eq_take_append (data : ByteString) (start count : ℕ) :
    data.drop start = (data.drop start).take count ++ data.drop (start + count) := by
  rw [← List.drop_drop, List.take_append_drop]

theorem handshakeTypes_append (message : CompleteHandshake) (rest : ByteString) :
    handshakeTypes (message.bytes ++ rest) =
      (handshakeTypes rest).map (message.msgType :: ·) := by
  have lengthField : ((message.bytes ++ rest).drop 1).take 3 =
      ByteString.ofNat 3 message.body.length := by
    simp [CompleteHandshake.bytes]
  have offsetField : ((message.bytes ++ rest).drop 6).take 3 = ByteString.ofNat 3 0 := by
    simp [CompleteHandshake.bytes, List.drop_append, List.drop_eq_nil_of_le]
  have countField : ((message.bytes ++ rest).drop 9).take 3 =
      ByteString.ofNat 3 message.body.length := by
    simp [CompleteHandshake.bytes, List.drop_append, List.drop_eq_nil_of_le]
  have size : handshakeHeader + message.body.length = message.bytes.length := by
    simp only [CompleteHandshake.bytes, handshakeHeader, List.length_cons, List.length_append,
      ByteString.length_ofNat]
    omega
  have left : (message.bytes ++ rest).drop (handshakeHeader + message.body.length) = rest := by
    rw [size, List.drop_left]
  have total : (message.bytes ++ rest).length = handshakeHeader + message.body.length +
      rest.length := by
    rw [List.length_append, size]
  have unfolded : message.bytes ++ rest = message.msgType :: (message.bytes ++ rest).tail := rfl
  rw [unfolded, handshakeTypes, ← unfolded]
  simp only [lengthField, offsetField, countField, ByteString.toNat_ofNat message.body_lt, left]
  rw [if_neg (by omega), if_neg]
  rintro (started | differs | beyond)
  · exact started rfl
  · exact differs rfl
  · omega

theorem length_slice (octets : ByteString) (start width : ℕ)
    (inside : start + width ≤ octets.length) :
    ((octets.drop start).take width).length = width := by
  rw [List.length_take, List.length_drop]
  omega

theorem exists_completeHandshake {payload : ByteString} (long : ¬payload.length < handshakeHeader)
    (start : ByteString.toNat ((payload.drop 6).take 3) = 0)
    (whole : ByteString.toNat ((payload.drop 9).take 3) =
      ByteString.toNat ((payload.drop 1).take 3))
    (within : handshakeHeader + ByteString.toNat ((payload.drop 9).take 3) ≤ payload.length) :
    ∃ message : CompleteHandshake, payload = message.bytes ++
      payload.drop (handshakeHeader + ByteString.toNat ((payload.drop 9).take 3)) := by
  rcases payload with _ | ⟨messageType, rest⟩
  · exact absurd (by decide) long
  generalize count : ByteString.toNat (((messageType :: rest).drop 9).take 3) = size at *
  simp only [handshakeHeader, List.length_cons, not_lt] at long within
  have body := length_slice rest 11 size (by omega)
  have countLength := length_slice rest 8 3 (by omega)
  refine ⟨⟨messageType, ByteString.toNat ((rest.drop 3).take 2), (rest.drop 11).take size, ?_, ?_⟩,
    ?_⟩
  · have bound := ByteString.toNat_lt ((rest.drop 3).take 2)
    rw [length_slice rest 3 2 (by omega)] at bound
    exact bound
  · have bound := ByteString.toNat_lt ((rest.drop 8).take 3)
    rw [countLength] at bound
    rw [body, ← count]
    exact bound
  · have lengthField : ByteString.ofNat 3 size = rest.take 3 := by
      rw [whole]
      exact (ByteString.eq_ofNat (length_slice rest 0 3 (by omega))).symm
    have offsetField : ByteString.ofNat 3 0 = (rest.drop 5).take 3 := by
      rw [← start]
      exact (ByteString.eq_ofNat (length_slice rest 5 3 (by omega))).symm
    have countField : ByteString.ofNat 3 size = (rest.drop 8).take 3 := by
      rw [← count]
      exact (ByteString.eq_ofNat countLength).symm
    have msgSeqField := ByteString.eq_ofNat (length_slice rest 3 2 (by omega))
    have split : rest = rest.take 3 ++ ((rest.drop 3).take 2 ++ ((rest.drop 5).take 3 ++
        ((rest.drop 8).take 3 ++ ((rest.drop 11).take size ++ rest.drop (11 + size))))) := by
      conv_lhs => rw [← List.take_append_drop 3 rest, drop_eq_take_append rest 3 2,
        drop_eq_take_append rest (3 + 2) 3, drop_eq_take_append rest (3 + 2 + 3) 3,
        drop_eq_take_append rest (3 + 2 + 3 + 3) size]
    rw [← lengthField, ← offsetField, ← countField, msgSeqField] at split
    have left : (messageType :: rest).drop (handshakeHeader + size) = rest.drop (11 + size) := by
      rw [handshakeHeader, show 12 + size = 11 + size + 1 by omega, List.drop_succ_cons]
    simp only [CompleteHandshake.bytes, body, left, List.cons_append, List.append_assoc]
    exact congrArg (messageType :: ·) split

theorem handshakeTypes_eq_some_iff {payload : ByteString} {types : List UInt8} :
    handshakeTypes payload = some types ↔ ∃ messages : List CompleteHandshake,
      payload = messages.flatMap CompleteHandshake.bytes ∧ types = messages.map (·.msgType) := by
  constructor
  · intro accepted
    induction size : payload.length using Nat.strong_induction_on generalizing payload types with
    | _ limit ih =>
        rcases payload with _ | ⟨messageType, rest⟩
        · rw [handshakeTypes, Option.some.injEq] at accepted
          exact ⟨[], rfl, accepted.symm⟩
        · rw [handshakeTypes] at accepted
          simp only at accepted
          split_ifs at accepted with short refused
          rcases not_or.mp refused with ⟨start, refused⟩
          rcases not_or.mp refused with ⟨whole, beyond⟩
          rcases Option.map_eq_some_iff.mp accepted with ⟨later, read, rfl⟩
          rcases exists_completeHandshake short (not_not.mp start) (not_not.mp whole)
            (not_lt.mp beyond) with ⟨message, shape⟩
          have smaller : ((messageType :: rest).drop (handshakeHeader +
              ByteString.toNat (((messageType :: rest).drop 9).take 3))).length < limit := by
            rw [← size, List.length_drop, handshakeHeader, List.length_cons]
            omega
          rcases ih _ smaller read rfl with ⟨messages, left, rfl⟩
          refine ⟨message :: messages, ?_, ?_⟩
          · rw [List.flatMap_cons, ← left, ← shape]
          · rw [List.map_cons]
            exact congrArg (· :: _) (List.cons.inj shape).1
  · rintro ⟨messages, rfl, rfl⟩
    induction messages with
    | nil => rw [List.flatMap_nil, handshakeTypes, List.map_nil]
    | cons message messages ih =>
        rw [List.flatMap_cons, handshakeTypes_append, ih]
        rfl

theorem types_of_bytes (record : EpochZeroRecord) :
    completeEpochZeroHandshakeTypes record.bytes = some record.types := by
  have version := record.length_version
  have payload : record.bytes.drop recordHeader = record.payload := by
    rw [EpochZeroRecord.bytes, ← record.length_header, List.drop_left]
  have length : record.bytes.length = recordHeader + record.payload.length := by
    rw [EpochZeroRecord.bytes, List.length_append, record.length_header]
  have versionField : (record.bytes.drop 1).take 2 = record.version := by
    simp [EpochZeroRecord.bytes, EpochZeroRecord.header, version]
  have epochField : (record.bytes.drop 3).take 2 = epochZero := by
    simp [EpochZeroRecord.bytes, EpochZeroRecord.header, version, epochZero]
  have lengthField : (record.bytes.drop 11).take 2 = ByteString.ofNat 2 record.payload.length := by
    simp [EpochZeroRecord.bytes, EpochZeroRecord.header, List.drop_append, version, epochZero,
      List.drop_eq_nil_of_le]
  have read : handshakeTypes record.payload = some record.types :=
    handshakeTypes_eq_some_iff.mpr ⟨record.messages, rfl, rfl⟩
  have nonempty : record.types ≠ [] := by
    rw [EpochZeroRecord.types, ne_eq, List.map_eq_nil_iff]
    exact record.nonempty
  rw [completeEpochZeroHandshakeTypes, versionField, epochField, lengthField,
    ByteString.toNat_ofNat (show record.payload.length < 256 ^ 2 from record.fits), payload, read,
    if_neg]
  · rw [Option.filter_some, if_pos (by simpa using nonempty)]
  · rintro (short | other | unknown | later | differs)
    · omega
    · exact other rfl
    · exact unknown record.version_mem
    · exact later rfl
    · omega

theorem completeEpochZeroHandshakeTypes_eq_some_iff {bytes : ByteString} {types : List UInt8} :
    completeEpochZeroHandshakeTypes bytes = some types ↔
      ∃ record : EpochZeroRecord, bytes = record.bytes ∧ types = record.types := by
  refine ⟨fun accepted => ?_, ?_⟩
  · rw [completeEpochZeroHandshakeTypes] at accepted
    split_ifs at accepted with refused
    simp only [not_or, not_not, not_lt] at refused
    rcases refused with ⟨long, handshake, versionMem, epoch, length⟩
    rcases Option.filter_eq_some_iff.mp accepted with ⟨read, nonempty⟩
    rcases handshakeTypes_eq_some_iff.mp read with ⟨messages, payload, rfl⟩
    rcases bytes with _ | ⟨contentType, rest⟩
    · cases handshake
    cases handshake
    simp only [recordHeader, List.length_cons] at long length
    have payloadLength : (messages.flatMap CompleteHandshake.bytes).length = rest.length - 12 := by
      rw [← payload, recordHeader, List.length_drop, List.length_cons]
      omega
    refine ⟨⟨rest.take 2, ByteString.toNat ((rest.drop 4).take 6), messages, versionMem, ?_, ?_,
      ?_⟩, ?_, rfl⟩
    · have bound := ByteString.toNat_lt ((rest.drop 4).take 6)
      rw [length_slice rest 4 6 (by omega)] at bound
      exact bound
    · simpa using nonempty
    · have bound := ByteString.toNat_lt ((rest.drop 10).take 2)
      rw [length_slice rest 10 2 (by omega)] at bound
      have announced : ByteString.toNat ((rest.drop 10).take 2) = _ := length
      omega
    · have seqField := ByteString.eq_ofNat (length_slice rest 4 6 (by omega))
      have lengthField : ByteString.ofNat 2 (rest.length - 12) = (rest.drop 10).take 2 := by
        rw [show rest.length - 12 = rest.length + 1 - 13 by omega, ← length]
        exact (ByteString.eq_ofNat (length_slice rest 10 2 (by omega))).symm
      have epochField : epochZero = (rest.drop 2).take 2 := epoch.symm
      have split : rest = rest.take 2 ++ ((rest.drop 2).take 2 ++ ((rest.drop 4).take 6 ++
          ((rest.drop 10).take 2 ++ rest.drop 12))) := by
        conv_lhs => rw [← List.take_append_drop 2 rest, drop_eq_take_append rest 2 2,
          drop_eq_take_append rest (2 + 2) 6, drop_eq_take_append rest (2 + 2 + 6) 2]
      have left : rest.drop 12 = messages.flatMap CompleteHandshake.bytes := payload
      rw [← epochField, ← lengthField, seqField, left] at split
      simp only [EpochZeroRecord.bytes, EpochZeroRecord.header, EpochZeroRecord.payload,
        payloadLength, List.cons_append, List.append_assoc]
      exact congrArg (ctHandshake :: ·) split
  · rintro ⟨record, rfl, rfl⟩
    exact types_of_bytes record

/-- The written form of the records of a datagram. -/
def datagramBytes (records : List EpochZeroRecord) : ByteString :=
  records.flatMap EpochZeroRecord.bytes

theorem splitRecords_append (records : List ByteString) (record : EpochZeroRecord)
    (rest : ByteString) (few : records.length < maxCleanupTranscriptRecords) :
    splitRecords records (record.bytes ++ rest) =
      splitRecords (records ++ [record.bytes]) rest := by
  have version := record.length_version
  have length : record.bytes.length = recordHeader + record.payload.length := by
    rw [EpochZeroRecord.bytes, List.length_append, record.length_header]
  have lengthField : ((record.bytes ++ rest).drop 11).take 2 =
      ByteString.ofNat 2 record.payload.length := by
    simp [EpochZeroRecord.bytes, EpochZeroRecord.header, List.drop_append, version, epochZero,
      List.drop_eq_nil_of_le]
  have total : (record.bytes ++ rest).length =
      recordHeader + record.payload.length + rest.length := by
    rw [List.length_append, length]
  have nonempty : record.bytes ++ rest ≠ [] := by
    rintro empty
    rw [empty, recordHeader] at total
    simp only [List.length_nil] at total
    omega
  rw [splitRecords, if_neg nonempty, if_neg (by omega)]
  simp only [lengthField, ByteString.toNat_ofNat (show record.payload.length < 256 ^ 2 from
    record.fits), ← length, List.take_left, List.drop_left]
  rw [if_neg (by rw [List.length_append]; omega), if_neg (by
    rw [List.length_append, List.length_singleton]
    omega)]

theorem splitRecords_datagramBytes (records : List ByteString) (datagram : List EpochZeroRecord)
    (few : records.length + datagram.length ≤ maxCleanupTranscriptRecords)
    (nonempty : records ++ datagram.map EpochZeroRecord.bytes ≠ []) :
    splitRecords records (datagramBytes datagram) =
      some (records ++ datagram.map EpochZeroRecord.bytes) := by
  induction datagram generalizing records with
  | nil =>
      rw [List.map_nil, List.append_nil] at nonempty ⊢
      rw [datagramBytes, List.flatMap_nil, splitRecords, if_pos rfl, if_neg nonempty]
  | cons record datagram ih =>
      rw [List.length_cons] at few
      rw [datagramBytes, List.flatMap_cons, splitRecords_append records record _ (by omega),
        ← datagramBytes, ih, List.map_cons, List.append_assoc, List.singleton_append]
      · rw [List.length_append, List.length_singleton]
        omega
      · simp

/-- The records that a datagram is split into make it up again. -/
theorem of_splitRecords {records result : List ByteString} {datagram : ByteString}
    (split : splitRecords records datagram = some result) :
    result ≠ [] ∧ ∃ tail, result = records ++ tail ∧ datagram = tail.flatten := by
  induction size : datagram.length using Nat.strong_induction_on generalizing records datagram with
  | _ limit ih =>
      rw [splitRecords] at split
      by_cases empty : datagram = []
      · rw [if_pos empty] at split
        split_ifs at split with none
        cases split
        exact ⟨none, [], (List.append_nil _).symm, empty⟩
      rw [if_neg empty] at split
      dsimp only at split
      split_ifs at split with short
      have smaller : (datagram.drop (recordHeader +
          ByteString.toNat ((datagram.drop 11).take 2))).length < limit := by
        rw [← size, List.length_drop, recordHeader]
        rw [recordHeader] at short
        omega
      rcases ih _ smaller split rfl with ⟨nonempty, tail, rfl, left⟩
      refine ⟨nonempty, _ :: tail, List.append_assoc _ _ _, ?_⟩
      rw [List.flatten_cons, ← left, List.take_append_drop]

end Dtls

namespace HvrPeerCleanupTranscript

/-- The records of a datagram are counted when all of them hold HelloVerifyRequests only. -/
theorem countRecords_bytes (transcript : HvrPeerCleanupTranscript)
    (datagram : List EpochZeroRecord)
    (challenges : ∀ record ∈ datagram, ∀ msgType ∈ record.types, msgType = htHelloVerifyRequest) :
    transcript.countRecords (datagram.map EpochZeroRecord.bytes) =
      { transcript with receivedRecords := transcript.receivedRecords + datagram.length } := by
  induction datagram generalizing transcript with
  | nil => rfl
  | cons record datagram ih =>
      rcases List.forall_mem_cons.mp challenges with ⟨first, rest⟩
      have plain : ¬(record.types.any (· ≠ htHelloVerifyRequest)) = true := by
        simpa using first
      rw [List.map_cons, countRecords, types_of_bytes]
      dsimp only
      rw [if_neg plain, ih _ rest, List.length_cons]
      dsimp only
      congr 1
      omega

theorem of_countRecords {transcript : HvrPeerCleanupTranscript} {records : List ByteString}
    (valid : (transcript.countRecords records).invalid = false) :
    ∃ datagram : List EpochZeroRecord, records = datagram.map EpochZeroRecord.bytes ∧
      ∀ record ∈ datagram, ∀ msgType ∈ record.types, msgType = htHelloVerifyRequest := by
  induction records generalizing transcript with
  | nil => exact ⟨[], rfl, List.forall_mem_nil _⟩
  | cons record records ih =>
      rw [countRecords] at valid
      rcases read : completeEpochZeroHandshakeTypes record with _ | types
      · rw [read] at valid
        cases valid
      · rw [read] at valid
        dsimp only at valid
        split_ifs at valid with other
        rcases completeEpochZeroHandshakeTypes_eq_some_iff.mp read with ⟨first, rfl, rfl⟩
        rcases ih valid with ⟨datagram, rfl, rest⟩
        refine ⟨first :: datagram, rfl, List.forall_mem_cons.mpr ⟨?_, rest⟩⟩
        simpa using other

end HvrPeerCleanupTranscript

/-! ### Transcripts -/

/-- What a transcript is told. -/
inductive TranscriptEvent
  | sent (record : ByteString)
  | received (datagram : ByteString)
  deriving DecidableEq, Repr

namespace TranscriptEvent

def apply (transcript : HvrPeerCleanupTranscript) : TranscriptEvent → HvrPeerCleanupTranscript
  | sent record => transcript.recordSent record
  | received datagram => transcript.recordReceived datagram

def sentRecord : TranscriptEvent → Option ByteString
  | sent record => some record
  | received _ => none

def receivedDatagram : TranscriptEvent → Option ByteString
  | sent _ => none
  | received datagram => some datagram

end TranscriptEvent

open TranscriptEvent

/-- The transcript of a sequence of events. -/
def transcriptOf (events : List TranscriptEvent) : HvrPeerCleanupTranscript :=
  events.foldl TranscriptEvent.apply {}

/--
Nothing but ClientHellos has been sent, one to a record, and nothing but HelloVerifyRequests has
been received, within the bounds.
-/
structure HellosOnly (events : List TranscriptEvent) (hellos : List EpochZeroRecord)
    (challenges : List (List EpochZeroRecord)) : Prop where
  sent : events.filterMap sentRecord = hellos.map EpochZeroRecord.bytes
  received : events.filterMap receivedDatagram = challenges.map datagramBytes
  hello : ∀ record ∈ hellos, record.types = [htClientHello]
  nonempty : ∀ datagram ∈ challenges, datagram ≠ []
  challenge : ∀ datagram ∈ challenges, ∀ record ∈ datagram, ∀ msgType ∈ record.types,
    msgType = htHelloVerifyRequest
  hellos_le : hellos.length ≤ maxCleanupTranscriptRecords
  datagrams_le : challenges.length ≤ maxCleanupTranscriptRecords
  records_le : challenges.flatten.length ≤ maxCleanupTranscriptRecords

/-- A record has been sent after something was received. -/
def SentAfterReceived (events : List TranscriptEvent) : Prop :=
  ∃ before record after, events = before ++ .sent record :: after ∧
    before.filterMap receivedDatagram ≠ []

/-- The last of the records with the largest sequence number. -/
def IsLastMaximum (hellos : List EpochZeroRecord) (hello : EpochZeroRecord) : Prop :=
  ∃ before after, hellos = before ++ hello :: after ∧
    (∀ other ∈ before, other.seq ≤ hello.seq) ∧ ∀ other ∈ after, other.seq < hello.seq

/-- What a transcript retains of an exchange of such messages. -/
structure Retains (events : List TranscriptEvent) (hellos : List EpochZeroRecord)
    (challenges : List (List EpochZeroRecord)) (transcript : HvrPeerCleanupTranscript) :
    Prop where
  valid : transcript.invalid = false
  sentClientHellos : transcript.sentClientHellos = hellos.length
  receivedDatagrams : transcript.receivedDatagrams = challenges.length
  receivedRecords : transcript.receivedRecords = challenges.flatten.length
  afterHvr : transcript.sentClientHelloAfterHvr = true ↔ SentAfterReceived events
  header : (hellos = [] ∧ transcript.lastClientHelloHeader = none) ∨
    ∃ hello, IsLastMaximum hellos hello ∧ transcript.lastClientHelloHeader = some hello.header

theorem transcriptOf_append (events : List TranscriptEvent) (event : TranscriptEvent) :
    transcriptOf (events ++ [event]) = event.apply (transcriptOf events) := by
  rw [transcriptOf, List.foldl_append]
  rfl

theorem IsLastMaximum.append {hellos : List EpochZeroRecord} {hello : EpochZeroRecord}
    (last : IsLastMaximum hellos hello) (next : EpochZeroRecord) :
    IsLastMaximum (hellos ++ [next]) (if hello.seq ≤ next.seq then next else hello) := by
  rcases last with ⟨before, after, rfl, below, above⟩
  split_ifs with larger
  · refine ⟨before ++ hello :: after, [], rfl, fun other otherMem => ?_, List.forall_mem_nil _⟩
    rcases List.mem_append.mp otherMem with earlier | later
    · exact (below other earlier).trans larger
    · rcases List.mem_cons.mp later with rfl | later
      · exact larger
      · exact (above other later).le.trans larger
  · refine ⟨before, after ++ [next], ?_, below, fun other otherMem => ?_⟩
    · rw [List.append_assoc, List.cons_append]
    · rcases List.mem_append.mp otherMem with later | last
      · exact above other later
      · rw [List.mem_singleton.mp last]
        exact not_le.mp larger

theorem sequenceOf_header (record : EpochZeroRecord) :
    HvrPeerCleanupTranscript.sequenceOf record.header = ByteString.ofNat 6 record.seq := by
  simp [HvrPeerCleanupTranscript.sequenceOf, EpochZeroRecord.header, List.drop_append,
    List.drop_eq_nil_of_le, record.length_version, epochZero]

/-- Sequence numbers are compared as octets. -/
theorem sequenceOf_le_iff (previous next : EpochZeroRecord) :
    HvrPeerCleanupTranscript.sequenceOf previous.header ≤
      HvrPeerCleanupTranscript.sequenceOf next.header ↔ previous.seq ≤ next.seq := by
  have compared := ByteString.lt_iff_toNat_lt
    (show (ByteString.ofNat 6 next.seq).length = (ByteString.ofNat 6 previous.seq).length by
      rw [ByteString.length_ofNat, ByteString.length_ofNat])
  rw [ByteString.toNat_ofNat previous.seq_lt, ByteString.toNat_ofNat next.seq_lt] at compared
  rw [sequenceOf_header, sequenceOf_header, ← List.not_lt, compared, not_lt]

theorem sentAfterReceived_append (events : List TranscriptEvent) (event : TranscriptEvent) :
    SentAfterReceived (events ++ [event]) ↔ SentAfterReceived events ∨
      (∃ record, event = .sent record) ∧ events.filterMap receivedDatagram ≠ [] := by
  constructor
  · rintro ⟨before, record, after, split, some⟩
    rcases List.eq_append_cons_of_concat split with ⟨rfl, same, -⟩ | ⟨earlier, -, logged⟩
    · exact .inr ⟨⟨record, same⟩, some⟩
    · exact .inl ⟨before, record, earlier, logged, some⟩
  · rintro (⟨before, record, after, rfl, some⟩ | ⟨⟨record, rfl⟩, some⟩)
    · exact ⟨before, record, after ++ [event], by rw [List.append_assoc, List.cons_append], some⟩
    · exact ⟨events, record, [], rfl, some⟩

/-! ### One event -/

theorem EpochZeroRecord.take_bytes (record : EpochZeroRecord) :
    record.bytes.take recordHeader = record.header := by
  rw [EpochZeroRecord.bytes, List.take_left' record.length_header]

namespace HvrPeerCleanupTranscript

theorem of_recordSent {transcript : HvrPeerCleanupTranscript} {record : ByteString}
    (valid : (transcript.recordSent record).invalid = false) :
    transcript.invalid = false ∧ transcript.sentClientHellos < maxCleanupTranscriptRecords ∧
      ∃ hello : EpochZeroRecord, record = hello.bytes ∧ hello.types = [htClientHello] := by
  rw [recordSent] at valid
  dsimp only at valid
  by_cases read : completeEpochZeroHandshakeTypes record = some [htClientHello]
  · rw [if_neg (not_not.mpr read)] at valid
    rcases completeEpochZeroHandshakeTypes_eq_some_iff.mp read with ⟨hello, same, types⟩
    by_cases many : transcript.sentClientHellos + 1 > maxCleanupTranscriptRecords
    · rw [if_pos many] at valid
      cases valid
    · rw [if_neg many] at valid
      refine ⟨?_, by omega, hello, same, types.symm⟩
      split_ifs at valid <;> split at valid <;> try split_ifs at valid
      all_goals exact valid
  · rw [if_pos read] at valid
    cases valid

theorem recordSent_bytes {transcript : HvrPeerCleanupTranscript} {hello : EpochZeroRecord}
    (types : hello.types = [htClientHello])
    (few : transcript.sentClientHellos < maxCleanupTranscriptRecords) :
    transcript.recordSent hello.bytes =
      { transcript with
        sentClientHellos := transcript.sentClientHellos + 1
        sentClientHelloAfterHvr :=
          decide (transcript.receivedRecords ≠ 0) || transcript.sentClientHelloAfterHvr
        lastClientHelloHeader := some (transcript.lastClientHelloHeader.elim hello.header
          fun previous => if sequenceOf previous ≤ sequenceOf hello.header then hello.header
            else previous) } := by
  rw [recordSent, types_of_bytes, types, if_neg (not_not.mpr rfl), hello.take_bytes]
  dsimp only
  rw [if_neg (by omega)]
  rcases transcript.lastClientHelloHeader with _ | previous
  · by_cases some : transcript.receivedRecords ≠ 0 <;> simp [some]
  · by_cases some : transcript.receivedRecords ≠ 0 <;>
      by_cases later : sequenceOf previous ≤ sequenceOf hello.header <;>
      simp [some, later]

theorem of_recordReceived {transcript : HvrPeerCleanupTranscript} {datagram : ByteString}
    (valid : (transcript.recordReceived datagram).invalid = false) :
    transcript.receivedDatagrams < maxCleanupTranscriptRecords ∧
      ∃ records : List EpochZeroRecord, datagram = datagramBytes records ∧ records ≠ [] ∧
        transcript.receivedRecords + records.length ≤ maxCleanupTranscriptRecords ∧
        (∀ record ∈ records, ∀ msgType ∈ record.types, msgType = htHelloVerifyRequest) ∧
        transcript.invalid = false := by
  rw [recordReceived] at valid
  dsimp only at valid
  by_cases many : transcript.receivedDatagrams + 1 > maxCleanupTranscriptRecords
  · rw [if_pos many] at valid
    cases valid
  rw [if_neg many] at valid
  rcases split : strictDtlsRecords datagram with _ | pieces
  · rw [split] at valid
    cases valid
  rw [split] at valid
  dsimp only at valid
  by_cases beyond : transcript.receivedRecords + pieces.length > maxCleanupTranscriptRecords
  · rw [if_pos beyond] at valid
    cases valid
  rw [if_neg beyond] at valid
  rcases of_countRecords valid with ⟨records, rfl, challenges⟩
  rw [countRecords_bytes _ _ challenges] at valid
  rcases of_splitRecords split with ⟨nonempty, tail, same, joined⟩
  rw [List.nil_append] at same
  subst same
  rw [List.length_map] at beyond
  refine ⟨by omega, records, joined, ?_, by omega, challenges, valid⟩
  rintro rfl
  exact nonempty rfl

theorem recordReceived_datagramBytes {transcript : HvrPeerCleanupTranscript}
    {records : List EpochZeroRecord} (nonempty : records ≠ [])
    (few : transcript.receivedDatagrams < maxCleanupTranscriptRecords)
    (within : transcript.receivedRecords + records.length ≤ maxCleanupTranscriptRecords)
    (challenges : ∀ record ∈ records, ∀ msgType ∈ record.types,
      msgType = htHelloVerifyRequest) :
    transcript.recordReceived (datagramBytes records) =
      { transcript with
        receivedDatagrams := transcript.receivedDatagrams + 1
        receivedRecords := transcript.receivedRecords + records.length } := by
  have split : strictDtlsRecords (datagramBytes records) =
      some (records.map EpochZeroRecord.bytes) := by
    rw [strictDtlsRecords, splitRecords_datagramBytes, List.nil_append]
    · rw [List.length_nil]
      omega
    · simpa using nonempty
  rw [recordReceived]
  dsimp only
  rw [if_neg (by omega), split]
  dsimp only
  rw [List.length_map, if_neg (by omega), countRecords_bytes _ _ challenges]

end HvrPeerCleanupTranscript

namespace HellosOnly

variable {events : List TranscriptEvent} {hellos : List EpochZeroRecord}
  {challenges : List (List EpochZeroRecord)}

/-- A datagram was received exactly when a record was. -/
theorem received_iff (only : HellosOnly events hellos challenges) :
    events.filterMap receivedDatagram ≠ [] ↔ challenges.flatten.length ≠ 0 := by
  rw [only.received, ne_eq, ne_eq, List.map_eq_nil_iff, List.length_eq_zero_iff,
    List.flatten_eq_nil_iff, not_iff_not]
  refine ⟨?_, fun empty => ?_⟩
  · rintro rfl
    exact List.forall_mem_nil _
  · rcases challenges with _ | ⟨datagram, rest⟩
    · rfl
    · exact absurd (empty _ List.mem_cons_self) (only.nonempty _ List.mem_cons_self)

end HellosOnly

namespace Retains

variable {events : List TranscriptEvent} {hellos : List EpochZeroRecord}
  {challenges : List (List EpochZeroRecord)} {transcript : HvrPeerCleanupTranscript}

theorem recordSent (retains : Retains events hellos challenges transcript)
    (only : HellosOnly events hellos challenges) {hello : EpochZeroRecord}
    (types : hello.types = [htClientHello])
    (few : hellos.length < maxCleanupTranscriptRecords) :
    Retains (events ++ [.sent hello.bytes]) (hellos ++ [hello]) challenges
      (transcript.recordSent hello.bytes) := by
  have sentAfter : SentAfterReceived (events ++ [.sent hello.bytes]) ↔
      SentAfterReceived events ∨ transcript.receivedRecords ≠ 0 := by
    rw [sentAfterReceived_append, only.received_iff, retains.receivedRecords]
    exact or_congr_right ⟨fun both => both.2, fun some => ⟨⟨_, rfl⟩, some⟩⟩
  rw [HvrPeerCleanupTranscript.recordSent_bytes types (by rw [retains.sentClientHellos]; omega)]
  refine ⟨retains.valid, ?_, retains.receivedDatagrams, retains.receivedRecords, ?_, .inr ?_⟩
  · dsimp only
    rw [retains.sentClientHellos, List.length_append, List.length_singleton]
  · rw [sentAfter, ← retains.afterHvr, or_comm]
    simp
  · rcases retains.header with ⟨rfl, none⟩ | ⟨previous, last, some⟩
    · refine ⟨hello, ⟨[], [], rfl, List.forall_mem_nil _, List.forall_mem_nil _⟩, ?_⟩
      rw [none, Option.elim_none]
    · refine ⟨_, last.append hello, ?_⟩
      rw [some, Option.elim_some]
      simp only [sequenceOf_le_iff]
      split_ifs <;> rfl

theorem recordReceived (retains : Retains events hellos challenges transcript)
    {records : List EpochZeroRecord} (nonempty : records ≠ [])
    (few : challenges.length < maxCleanupTranscriptRecords)
    (within : challenges.flatten.length + records.length ≤ maxCleanupTranscriptRecords)
    (verify : ∀ record ∈ records, ∀ msgType ∈ record.types, msgType = htHelloVerifyRequest) :
    Retains (events ++ [.received (datagramBytes records)]) hellos (challenges ++ [records])
      (transcript.recordReceived (datagramBytes records)) := by
  rw [HvrPeerCleanupTranscript.recordReceived_datagramBytes nonempty
    (by rw [retains.receivedDatagrams]; exact few)
    (by rw [retains.receivedRecords]; exact within) verify]
  refine ⟨retains.valid, retains.sentClientHellos, ?_, ?_, ?_, retains.header⟩
  · dsimp only
    rw [retains.receivedDatagrams, List.length_append, List.length_singleton]
  · dsimp only
    rw [retains.receivedRecords, List.flatten_append, List.length_append, List.flatten_singleton]
  · rw [retains.afterHvr, sentAfterReceived_append]
    refine ⟨.inl, fun either => either.resolve_right ?_⟩
    rintro ⟨⟨record, impossible⟩, -⟩
    cases impossible

end Retains

theorem HellosOnly.retains {events : List TranscriptEvent} {hellos : List EpochZeroRecord}
    {challenges : List (List EpochZeroRecord)} (only : HellosOnly events hellos challenges) :
    Retains events hellos challenges (transcriptOf events) := by
  induction events using List.reverseRecOn generalizing hellos challenges with
  | nil =>
      have noHello := List.map_eq_nil_iff.mp only.sent.symm
      have noChallenge := List.map_eq_nil_iff.mp only.received.symm
      subst noHello noChallenge
      refine ⟨rfl, rfl, rfl, rfl, ⟨nofun, ?_⟩, .inl ⟨rfl, rfl⟩⟩
      rintro ⟨before, record, after, split, -⟩
      exact absurd split.symm (by simp)
  | append_singleton events event ih =>
      rw [transcriptOf_append]
      cases event with
      | sent record =>
          have sent := only.sent
          rw [List.filterMap_append, eq_comm, List.map_eq_append_iff] at sent
          rcases sent with ⟨earlier, last, rfl, earlierBytes, lastBytes⟩
          rcases List.map_eq_singleton_iff.mp lastBytes with ⟨hello, rfl, rfl⟩
          have received := only.received
          rw [List.filterMap_append, List.filterMap_cons_none rfl, List.filterMap_nil,
            List.append_nil] at received
          have bound := only.hellos_le
          rw [List.length_append, List.length_singleton] at bound
          have before : HellosOnly events earlier challenges :=
            ⟨earlierBytes.symm, received, fun other otherMem =>
              only.hello other (List.mem_append_left _ otherMem), only.nonempty, only.challenge,
              by omega, only.datagrams_le, only.records_le⟩
          exact (ih before).recordSent before (only.hello hello (List.mem_append_right _
            List.mem_cons_self)) bound
      | received datagram =>
          have received := only.received
          rw [List.filterMap_append, eq_comm, List.map_eq_append_iff] at received
          rcases received with ⟨earlier, last, rfl, earlierBytes, lastBytes⟩
          rcases List.map_eq_singleton_iff.mp lastBytes with ⟨records, rfl, rfl⟩
          have sent := only.sent
          rw [List.filterMap_append, List.filterMap_cons_none rfl, List.filterMap_nil,
            List.append_nil] at sent
          have datagrams := only.datagrams_le
          have within := only.records_le
          rw [List.length_append, List.length_singleton] at datagrams
          rw [List.flatten_append, List.length_append, List.flatten_singleton] at within
          have before : HellosOnly events hellos earlier :=
            ⟨sent, earlierBytes.symm, only.hello, fun other otherMem =>
              only.nonempty other (List.mem_append_left _ otherMem), fun other otherMem =>
              only.challenge other (List.mem_append_left _ otherMem), only.hellos_le, by omega,
              by omega⟩
          have lastMem : records ∈ earlier ++ [records] :=
            List.mem_append_right _ List.mem_cons_self
          exact (ih before).recordReceived (only.nonempty _ lastMem) datagrams within
            (only.challenge _ lastMem)

/-- A transcript that is still valid has seen such messages only. -/
theorem hellosOnly_of_valid {events : List TranscriptEvent}
    (valid : (transcriptOf events).invalid = false) :
    ∃ hellos challenges, HellosOnly events hellos challenges := by
  induction events using List.reverseRecOn with
  | nil =>
      exact ⟨[], [], rfl, rfl, List.forall_mem_nil _, List.forall_mem_nil _,
        List.forall_mem_nil _, Nat.zero_le _, Nat.zero_le _, Nat.zero_le _⟩
  | append_singleton events event ih =>
      rw [transcriptOf_append] at valid
      cases event with
      | sent record =>
          rcases HvrPeerCleanupTranscript.of_recordSent valid with ⟨earlier, few, hello, rfl, types⟩
          rcases ih earlier with ⟨hellos, challenges, only⟩
          rw [only.retains.sentClientHellos] at few
          refine ⟨hellos ++ [hello], challenges, ?_, ?_, ?_, only.nonempty, only.challenge, ?_,
            only.datagrams_le, only.records_le⟩
          · rw [List.filterMap_append, only.sent, List.map_append]
            rfl
          · rw [List.filterMap_append, only.received]
            exact List.append_nil _
          · exact List.forall_mem_append.mpr ⟨only.hello, List.forall_mem_singleton.mpr types⟩
          · rw [List.length_append, List.length_singleton]
            exact few
      | received datagram =>
          rcases HvrPeerCleanupTranscript.of_recordReceived valid with
            ⟨few, records, rfl, nonempty, within, verify, earlier⟩
          rcases ih earlier with ⟨hellos, challenges, only⟩
          rw [only.retains.receivedDatagrams] at few
          rw [only.retains.receivedRecords] at within
          refine ⟨hellos, challenges ++ [records], ?_, ?_, only.hello, ?_, ?_, only.hellos_le, ?_,
            ?_⟩
          · rw [List.filterMap_append, only.sent]
            exact List.append_nil _
          · rw [List.filterMap_append, only.received, List.map_append]
            rfl
          · exact List.forall_mem_append.mpr ⟨only.nonempty, List.forall_mem_singleton.mpr nonempty⟩
          · exact List.forall_mem_append.mpr ⟨only.challenge, List.forall_mem_singleton.mpr verify⟩
          · rw [List.length_append, List.length_singleton]
            exact few
          · rw [List.flatten_append, List.length_append, List.flatten_singleton]
            exact within

/-- Splitting the same records at two last maxima gives the same record. -/
theorem IsLastMaximum.not_later {before after mid after' : List EpochZeroRecord}
    {hello hello' : EpochZeroRecord} (split : hello :: after = mid ++ hello' :: after')
    (above : ∀ other ∈ after, other.seq < hello.seq)
    (below : ∀ other ∈ before ++ mid, other.seq ≤ hello'.seq) : hello = hello' := by
  rcases mid with _ | ⟨first, mid⟩
  · exact (List.cons.inj split).1
  · rcases List.cons.inj split with ⟨rfl, rfl⟩
    have smaller := above hello' (List.mem_append_right _ List.mem_cons_self)
    have larger := below hello (List.mem_append_right _ List.mem_cons_self)
    omega

theorem IsLastMaximum.unique {hellos : List EpochZeroRecord} {hello hello' : EpochZeroRecord}
    (last : IsLastMaximum hellos hello) (last' : IsLastMaximum hellos hello') :
    hello = hello' := by
  rcases last with ⟨before, after, rfl, below, above⟩
  rcases last' with ⟨before', after', split, below', above'⟩
  rcases List.append_eq_append_iff.mp split with ⟨mid, rfl, rest⟩ | ⟨mid, rfl, rest⟩
  · exact not_later rest above below'
  · exact (not_later rest above' below).symm

theorem EpochZeroRecord.version_header (record : EpochZeroRecord) :
    (record.header.drop 1).take 2 = record.version := by
  rw [EpochZeroRecord.header, List.drop_succ_cons, List.drop_zero,
    List.take_left' record.length_version]

/--
The cleanup alert is built exactly after two or more ClientHellos, one of them sent after the
first HelloVerifyRequest, and nothing else in either direction. It continues the largest sequence
number in the version of the last ClientHello that carried it.
-/
theorem cleanupAlert_eq_some_iff (events : List TranscriptEvent) (alert : ByteString) :
    (transcriptOf events).cleanupAlert = some alert ↔
      ∃ hellos challenges hello, HellosOnly events hellos challenges ∧ 2 ≤ hellos.length ∧
        1 ≤ challenges.length ∧ 1 ≤ challenges.flatten.length ∧ SentAfterReceived events ∧
        IsLastMaximum hellos hello ∧ hello.seq < 2 ^ 48 - 1 ∧
        alert = ctAlert :: (hello.version ++ epochZero ++ ByteString.ofNat 6 (hello.seq + 1) ++
          ByteString.ofNat 2 2 ++ [alertFatal, alertHandshakeFailure]) := by
  constructor
  · intro built
    rw [HvrPeerCleanupTranscript.cleanupAlert] at built
    rcases found : (transcriptOf events).lastClientHelloHeader with _ | header
    · rw [found] at built
      cases built
    rw [found] at built
    dsimp only at built
    split_ifs at built with refused exhausted
    simp only [not_or, not_lt, Bool.not_eq_true, Bool.not_eq_false] at refused
    rcases refused with ⟨valid, sent, after, datagrams, records⟩
    rcases hellosOnly_of_valid valid with ⟨hellos, challenges, only⟩
    have retains := only.retains
    rcases retains.header with ⟨-, none⟩ | ⟨hello, last, some⟩
    · rw [none] at found
      cases found
    rw [found, Option.some.injEq] at some
    subst some
    rw [sequenceOf_header, ByteString.toNat_ofNat hello.seq_lt] at exhausted
    rw [sequenceOf_header, ByteString.toNat_ofNat hello.seq_lt, hello.version_header,
      Option.some.injEq] at built
    rw [retains.sentClientHellos] at sent
    rw [retains.receivedDatagrams] at datagrams
    rw [retains.receivedRecords] at records
    exact ⟨hellos, challenges, hello, only, sent, datagrams, records, retains.afterHvr.mp after,
      last, not_le.mp exhausted, built.symm⟩
  · rintro ⟨hellos, challenges, hello, only, sent, datagrams, records, after, last, below, rfl⟩
    have retains := only.retains
    rcases retains.header with ⟨rfl, -⟩ | ⟨hello', last', some⟩
    · cases sent
    rw [last'.unique last] at some
    rw [HvrPeerCleanupTranscript.cleanupAlert, some]
    dsimp only
    rw [if_neg, sequenceOf_header, ByteString.toNat_ofNat hello.seq_lt, if_neg (not_le.mpr below),
      hello.version_header]
    · rfl
    · rw [retains.valid, retains.sentClientHellos, retains.afterHvr.mpr after,
        retains.receivedDatagrams, retains.receivedRecords]
      rintro (invalid | few | before | noDatagram | noRecord)
      · cases invalid
      · omega
      · cases before
      · omega
      · omega

end SmartThingsLocal
