import SmartThingsLocal.Ble.Framing
import SmartThingsLocal.Foundation.Fallible
import SmartThingsLocal.Foundation.PrefixCode

/-!
# The reassembler accepts what the fragmenter writes

A frame that a reassembler accepts has the one form that its state leaves open: a start
frame that is filled, or a continuation frame that is filled or ends the PDU. Walking
along the frames, the collected part of the PDU grows by what the fragmenter puts there.
-/

namespace SmartThingsLocal

open Ble Fallible

namespace Ble

/-! ### Headers -/

theorem flagOctet_flag (flag : Bool) {port : ℤ} (fits : 0 ≤ port ∧ port ≤ maxPort) :
    decide ((flagOctet flag port).toNat &&& 0x80 ≠ 0) = flag := by
  have all : ∀ flag : Bool, ∀ port : Fin 128,
      decide ((UInt8.ofNat ((if flag then 0x80 else 0) ||| port.val)).toNat &&& 0x80 ≠ 0) =
        flag := by
    decide +kernel
  exact all flag ⟨port.toNat, by unfold maxPort at fits; omega⟩

theorem flagOctet_port (flag : Bool) {port : ℤ} (fits : 0 ≤ port ∧ port ≤ maxPort) :
    (((flagOctet flag port).toNat &&& 0x7F : ℕ) : ℤ) = port := by
  have all : ∀ flag : Bool, ∀ port : Fin 128,
      (UInt8.ofNat ((if flag then 0x80 else 0) ||| port.val)).toNat &&& 0x7F = port.val := by
    decide +kernel
  have octet := all flag ⟨port.toNat, by unfold maxPort at fits; omega⟩
  exact (congrArg Int.ofNat octet).trans (Int.toNat_of_nonneg fits.1)

theorem flagOctet_parts (octet : UInt8) :
    flagOctet (octet.toNat &&& 0x80 ≠ 0) (octet.toNat &&& 0x7F : ℕ) = octet := by
  have all : ∀ value : Fin 256, UInt8.ofNat
      ((if decide (value.val &&& 0x80 ≠ 0) then 0x80 else 0) ||| (value.val &&& 0x7F)) =
        UInt8.ofNat value.val := by
    decide +kernel
  exact (all ⟨octet.toNat, octet.toNat_lt⟩).trans (UInt8.ofNat_toNat)

end Ble

namespace BleOcfHeader

/-- The ports are in range. -/
def Valid (header : BleOcfHeader) : Prop :=
  (minSourcePort ≤ header.sourcePort ∧ header.sourcePort ≤ maxPort) ∧
    multicastPort ≤ header.destinationPort ∧ header.destinationPort ≤ maxPort

/-- The header of the frames that continue a PDU. -/
def continuation (header : BleOcfHeader) : BleOcfHeader := { header with start := false }

@[simp]
theorem continuation_start (header : BleOcfHeader) : header.continuation.start = false := rfl

theorem Valid.continuation {header : BleOcfHeader} (valid : header.Valid) :
    header.continuation.Valid := valid

def octets (header : BleOcfHeader) : ByteString :=
  [flagOctet header.start header.sourcePort, flagOctet header.secure header.destinationPort]

@[simp]
theorem length_octets (header : BleOcfHeader) : header.octets.length = headerSize := rfl

end BleOcfHeader

namespace Ble

theorem encodeHeader_eq_ok {header : BleOcfHeader} {octets : ByteString} :
    encodeHeader header = .ok octets ↔ header.Valid ∧ octets = header.octets := by
  unfold encodeHeader BleOcfHeader.Valid
  simp only [bind_eq_ok]
  constructor
  · rintro ⟨source, sourceValid, destination, destinationValid, written⟩
    rcases ite_error_eq_ok.mp sourceValid with ⟨sourceFits, sourceSame⟩
    rcases ite_error_eq_ok.mp destinationValid with ⟨destinationFits, destinationSame⟩
    cases sourceSame
    cases destinationSame
    cases written
    exact ⟨⟨not_not.mp sourceFits, not_not.mp destinationFits⟩, rfl⟩
  · rintro ⟨⟨sourceFits, destinationFits⟩, rfl⟩
    exact ⟨_, if_neg (not_not.mpr sourceFits), _, if_neg (not_not.mpr destinationFits), rfl⟩

/-- A header is read from a frame exactly when the frame starts with its octets. -/
theorem decodeHeader_eq_ok {frame : ByteString} {header : BleOcfHeader} :
    decodeHeader frame = .ok header ↔ header.Valid ∧ ∃ rest, frame = header.octets ++ rest := by
  constructor
  · intro decoded
    rcases frame with _ | ⟨first, _ | ⟨second, rest⟩⟩
    · cases decoded
    · cases decoded
    · rcases ite_error_eq_ok.mp decoded with ⟨source, same⟩
      cases same
      have firstLe : first.toNat &&& 0x7F ≤ 127 := Nat.and_le_right
      have secondLe : second.toNat &&& 0x7F ≤ 127 := Nat.and_le_right
      refine ⟨⟨⟨not_lt.mp source, ?_⟩, ?_, ?_⟩, rest, ?_⟩
      · exact Int.ofNat_le.mpr firstLe
      · exact Int.natCast_nonneg _
      · exact Int.ofNat_le.mpr secondLe
      · simp only [BleOcfHeader.octets, flagOctet_parts, List.cons_append, List.nil_append]
  · rintro ⟨⟨⟨sourceLower, sourceUpper⟩, destination⟩, rest, rfl⟩
    have source : 0 ≤ header.sourcePort ∧ header.sourcePort ≤ maxPort :=
      ⟨(by decide : (0 : ℤ) ≤ minSourcePort).trans sourceLower, sourceUpper⟩
    simp only [decodeHeader, BleOcfHeader.octets, List.cons_append, List.nil_append,
      flagOctet_port _ source, flagOctet_port _ destination, flagOctet_flag _ source,
      flagOctet_flag _ destination, if_neg (not_lt.mpr sourceLower)]

/-! ### Fragments -/

/-- The frames of a PDU under a header. -/
def fragments (mtu : BleMtu) (header : BleOcfHeader) (pdu : ByteString) : List ByteString :=
  let firstLength := min pdu.length mtu.firstCapacity
  (header.octets ++
      ByteString.ofNat lengthHeaderSize pdu.length ++ pdu.take firstLength) ::
    continuationFrames mtu header.continuation.octets pdu firstLength

theorem continuationFrames_nil {mtu : BleMtu} {header data : ByteString} {offset : ℕ}
    (done : data.length ≤ offset) : continuationFrames mtu header data offset = [] := by
  rw [continuationFrames, dif_neg (not_lt.mpr done)]

/-- The next frame takes what it can hold of the rest. -/
theorem continuationFrames_append (mtu : BleMtu) (header sent : ByteString) {rest : ByteString}
    (more : rest ≠ []) :
    continuationFrames mtu header (sent ++ rest) sent.length =
      (header ++ rest.take mtu.continuationCapacity) ::
        continuationFrames mtu header (sent ++ rest)
          (sent ++ rest.take mtu.continuationCapacity).length := by
  have positive := List.length_pos_iff.mpr more
  have stop : min (sent.length + mtu.continuationCapacity) (sent ++ rest).length =
      sent.length + min mtu.continuationCapacity rest.length := by
    rw [List.length_append, Nat.add_min_add_left]
  have slice : ((sent ++ rest).take (sent.length + min mtu.continuationCapacity rest.length)).drop
      sent.length = rest.take mtu.continuationCapacity := by
    rw [List.take_length_add_append, List.drop_left, ← List.take_eq_take_min]
  rw [continuationFrames, dif_pos (by rw [List.length_append]; omega), stop]
  simp only [slice, List.length_append, List.length_take]

theorem fragments_of_fits {mtu : BleMtu} (header : BleOcfHeader) {pdu : ByteString}
    (fits : pdu.length ≤ mtu.firstCapacity) :
    fragments mtu header pdu =
      [header.octets ++ ByteString.ofNat lengthHeaderSize pdu.length ++ pdu] := by
  simp only [fragments, min_eq_left fits, List.take_length, continuationFrames_nil le_rfl]

theorem fragments_of_exceeds {mtu : BleMtu} (header : BleOcfHeader) {payload : ByteString}
    (fills : payload.length = mtu.firstCapacity) (rest : ByteString) :
    fragments mtu header (payload ++ rest) =
      (header.octets ++ ByteString.ofNat lengthHeaderSize (payload ++ rest).length ++ payload) ::
        continuationFrames mtu header.continuation.octets (payload ++ rest) payload.length := by
  have first : min (payload ++ rest).length mtu.firstCapacity = payload.length := by
    rw [← fills, List.length_append, min_eq_right (Nat.le_add_right _ _)]
  simp only [fragments, first, List.take_left]

theorem validateMaxPduSize_lt {maxPduSize : ℤ} {maximum : ℕ}
    (valid : validateMaxPduSize maxPduSize = .ok maximum) :
    maximum < 256 ^ lengthHeaderSize := by
  rcases ite_error_eq_ok.mp valid with ⟨within, same⟩
  cases same
  have upper := (not_not.mp within).2
  unfold wireMaxPduSize at upper
  unfold lengthHeaderSize
  omega

/-- A non-empty PDU within the bound is fragmented when its ports are in range. -/
theorem fragmentPdu_eq_ok {mtu maxPduSize sourcePort destinationPort : ℤ} {size : BleMtu}
    {maximum : ℕ} (sized : validateMtu mtu = .ok size)
    (bounded : validateMaxPduSize maxPduSize = .ok maximum) {pdu : ByteString} {secure : Bool}
    {frames : List ByteString} :
    fragmentPdu pdu mtu sourcePort destinationPort secure maxPduSize = .ok frames ↔
      BleOcfHeader.Valid ⟨true, sourcePort, secure, destinationPort⟩ ∧ pdu ≠ [] ∧
        pdu.length ≤ maximum ∧
        frames = fragments size ⟨true, sourcePort, secure, destinationPort⟩ pdu := by
  unfold fragmentPdu
  rw [sized, bounded, ok_bind, ok_bind]
  simp only [bind_eq_ok]
  constructor
  · rintro ⟨source, sourceValid, destination, destinationValid, data, coerced, written⟩
    cases (ite_error_eq_ok.mp sourceValid).2
    cases (ite_error_eq_ok.mp destinationValid).2
    rcases ite_error_eq_ok.mp coerced with ⟨fits, same⟩
    cases same
    rcases ite_error_eq_ok.mp written with ⟨nonempty, written⟩
    rcases bind_eq_ok.mp written with ⟨first, firstEncoded, written⟩
    rcases bind_eq_ok.mp written with ⟨later, laterEncoded, written⟩
    rcases encodeHeader_eq_ok.mp firstEncoded with ⟨valid, rfl⟩
    rcases encodeHeader_eq_ok.mp laterEncoded with ⟨-, rfl⟩
    cases written
    exact ⟨valid, nonempty, not_lt.mp fits, rfl⟩
  · rintro ⟨valid, nonempty, fits, rfl⟩
    refine ⟨sourcePort, if_neg (not_not.mpr valid.1), destinationPort,
      if_neg (not_not.mpr valid.2), pdu, if_neg (not_lt.mpr fits), ?_⟩
    have encoded (start : Bool) : encodeHeader ⟨start, sourcePort, secure, destinationPort⟩ =
        .ok (BleOcfHeader.octets ⟨start, sourcePort, secure, destinationPort⟩) :=
      encodeHeader_eq_ok.mpr ⟨valid, rfl⟩
    rw [if_neg nonempty, encoded, ok_bind, encoded]
    rfl

end Ble

/-- The header of the first frame of a message. -/
def ReassembledBleOcfPdu.header (message : ReassembledBleOcfPdu) : BleOcfHeader :=
  ⟨true, message.sourcePort, message.secure, message.destinationPort⟩

namespace BleOcfReassembler

/-- What holds of a reassembler between two calls. -/
structure Consistent (reassembler : BleOcfReassembler) : Prop where
  max_lt : reassembler.maxPduSize < 256 ^ lengthHeaderSize
  idle : reassembler.header = none → reassembler.expectedLength = 0 ∧ reassembler.buffer = []
  active : ∀ header, reassembler.header = some header →
    (header.Valid ∧ header.start = true) ∧ 0 < reassembler.buffer.length ∧
      reassembler.buffer.length < reassembler.expectedLength ∧
      reassembler.expectedLength ≤ reassembler.maxPduSize

/-- The frames a reassembler accepts, with what it returns and where they take it. -/
inductive Accepts (reassembler : BleOcfReassembler) :
    ByteString → Option ReassembledBleOcfPdu → BleOcfReassembler → Prop
  | whole {header : BleOcfHeader} {pdu : ByteString} (idle : reassembler.header = none)
      (valid : header.Valid) (starts : header.start = true) (nonempty : pdu ≠ [])
      (length_le : pdu.length ≤ reassembler.maxPduSize)
      (fits : pdu.length ≤ reassembler.mtu.firstCapacity) :
      Accepts reassembler
        (header.octets ++ ByteString.ofNat lengthHeaderSize pdu.length ++ pdu)
        (some ⟨pdu, header.sourcePort, header.destinationPort, header.secure⟩) reassembler
  | start {header : BleOcfHeader} {payload : ByteString} {length : ℕ}
      (idle : reassembler.header = none) (valid : header.Valid) (starts : header.start = true)
      (length_lt : payload.length < length) (length_le : length ≤ reassembler.maxPduSize)
      (fills : payload.length = reassembler.mtu.firstCapacity) :
      Accepts reassembler
        (header.octets ++ ByteString.ofNat lengthHeaderSize length ++ payload) none
        { reassembler with header := some header, expectedLength := length, buffer := payload }
  | more {active : BleOcfHeader} {payload : ByteString}
      (collecting : reassembler.header = some active)
      (fills : payload.length = reassembler.mtu.continuationCapacity)
      (length_lt : reassembler.buffer.length + payload.length < reassembler.expectedLength) :
      Accepts reassembler (active.continuation.octets ++ payload) none
        { reassembler with buffer := reassembler.buffer ++ payload }
  | last {active : BleOcfHeader} {payload : ByteString}
      (collecting : reassembler.header = some active)
      (fits : payload.length ≤ reassembler.mtu.continuationCapacity)
      (ends : reassembler.buffer.length + payload.length = reassembler.expectedLength) :
      Accepts reassembler (active.continuation.octets ++ payload)
        (some ⟨reassembler.buffer ++ payload, active.sourcePort, active.destinationPort,
          active.secure⟩) reassembler.reset

variable {reassembler after : BleOcfReassembler} {frame rest payload : ByteString}
  {header active : BleOcfHeader} {output : Option ReassembledBleOcfPdu}

/-- A frame with a header goes to the start or the continuation of a PDU. -/
theorem feedFrame_octets (valid : header.Valid)
    (fits : (header.octets ++ rest).length ≤ reassembler.mtu.size) :
    reassembler.feedFrame (header.octets ++ rest) =
      if header.start then
        if reassembler.inProgress then .error .interleavedStart
        else reassembler.startPdu (header.octets ++ rest) header
      else reassembler.continuePdu (header.octets ++ rest) header := by
  unfold feedFrame coerceBytes
  rw [if_neg (not_lt.mpr fits), ok_bind, decodeHeader_eq_ok.mpr ⟨valid, rest, rfl⟩, ok_bind]

theorem exists_octets_of_feedFrame {result : Option ReassembledBleOcfPdu × BleOcfReassembler}
    (accepted : reassembler.feedFrame frame = .ok result) :
    frame.length ≤ reassembler.mtu.size ∧ ∃ header : BleOcfHeader, header.Valid ∧
      ∃ rest, frame = header.octets ++ rest := by
  rcases bind_eq_ok.mp accepted with ⟨data, coerced, accepted⟩
  rcases ite_error_eq_ok.mp coerced with ⟨fits, same⟩
  cases same
  rcases bind_eq_ok.mp accepted with ⟨header, decoded, -⟩
  exact ⟨not_lt.mp fits, header, decodeHeader_eq_ok.mp decoded⟩

theorem startPdu_octets {length : ℕ} (length_lt : length < 256 ^ lengthHeaderSize) :
    reassembler.startPdu
        (header.octets ++ (ByteString.ofNat lengthHeaderSize length ++ payload)) header =
      if length = 0 then .error .zeroLength
      else if length > reassembler.maxPduSize then
        .error (.declaredExceeds length reassembler.maxPduSize)
      else if payload.length ≠ min length reassembler.mtu.firstCapacity then .error .startPayload
      else if payload.length = length then
        .ok (some ⟨payload, header.sourcePort, header.destinationPort, header.secure⟩,
          reassembler)
      else
        .ok (none, { reassembler with
          header := some header, expectedLength := length
          buffer := reassembler.buffer ++ payload }) := by
  have announced : ((header.octets ++ (ByteString.ofNat lengthHeaderSize length ++
      payload)).take firstFrameOverhead).drop headerSize =
        ByteString.ofNat lengthHeaderSize length := rfl
  have payloadStart : (header.octets ++ (ByteString.ofNat lengthHeaderSize length ++ payload)).drop
      firstFrameOverhead = payload := rfl
  unfold startPdu
  rw [if_neg (by simp [firstFrameOverhead])]
  simp only [announced, payloadStart, ByteString.toNat_ofNat length_lt]

theorem accepts_of_startPdu (consistent : reassembler.Consistent)
    (idle : reassembler.header = none) (valid : header.Valid) (starts : header.start = true)
    (started : reassembler.startPdu (header.octets ++ rest) header = .ok (output, after)) :
    reassembler.Accepts (header.octets ++ rest) output after := by
  have long : lengthHeaderSize ≤ rest.length := by
    have long := (ite_error_eq_ok.mp started).1
    simp only [List.length_append, BleOcfHeader.length_octets, firstFrameOverhead] at long
    omega
  have prefixLength : (rest.take lengthHeaderSize).length = lengthHeaderSize := by
    rw [List.length_take, Nat.min_eq_left long]
  have announced := ByteString.toNat_lt (rest.take lengthHeaderSize)
  rw [prefixLength] at announced
  rw [← List.take_append_drop lengthHeaderSize rest, ByteString.eq_ofNat prefixLength] at started ⊢
  generalize ByteString.toNat (rest.take lengthHeaderSize) = length at announced started
  generalize rest.drop lengthHeaderSize = payload at started
  rw [startPdu_octets announced] at started
  rw [← List.append_assoc]
  rcases ite_error_eq_ok.mp started with ⟨nonzero, started⟩
  rcases ite_error_eq_ok.mp started with ⟨fits, started⟩
  rcases ite_error_eq_ok.mp started with ⟨filled, started⟩
  rw [not_not] at filled
  split_ifs at started with whole
  · cases started
    subst whole
    refine .whole idle valid starts (List.length_pos_iff.mp (by omega)) (not_lt.mp fits) ?_
    omega
  · cases started
    rw [(consistent.idle idle).2, List.nil_append]
    exact .start idle valid starts (by omega) (not_lt.mp fits) (by omega)

theorem continuePdu_octets (collecting : reassembler.header = some active) :
    reassembler.continuePdu (header.octets ++ payload) header =
      if header.start ∨ header.sourcePort ≠ active.sourcePort ∨ header.secure ≠ active.secure ∨
          header.destinationPort ≠ active.destinationPort then
        .error .interleavedMetadata
      else if payload.length ≠ min (reassembler.expectedLength - reassembler.buffer.length)
          reassembler.mtu.continuationCapacity then
        .error .continuationPayload
      else if (reassembler.buffer ++ payload).length < reassembler.expectedLength then
        .ok (none, { reassembler with buffer := reassembler.buffer ++ payload })
      else
        .ok (some ⟨reassembler.buffer ++ payload, active.sourcePort, active.destinationPort,
          active.secure⟩, reassembler.reset) := by
  unfold continuePdu
  rw [collecting]
  rfl

theorem accepts_of_continuePdu (consistent : reassembler.Consistent)
    (continued : reassembler.continuePdu (header.octets ++ payload) header =
      .ok (output, after)) :
    reassembler.Accepts (header.octets ++ payload) output after := by
  rcases collecting : reassembler.header with _ | active
  · unfold continuePdu at continued
    rw [collecting] at continued
    cases continued
  · have incomplete := (consistent.active active collecting).2.2.1
    rw [continuePdu_octets collecting] at continued
    rcases ite_error_eq_ok.mp continued with ⟨matching, continued⟩
    rcases ite_error_eq_ok.mp continued with ⟨filled, continued⟩
    rw [not_not] at filled
    have same : header = active.continuation := by
      rcases header with ⟨start, sourcePort, secure, destinationPort⟩
      unfold BleOcfHeader.continuation
      simpa using matching
    rw [same]
    rw [List.length_append] at continued
    split_ifs at continued with more
    · cases continued
      exact .more collecting (by omega) more
    · cases continued
      exact .last collecting (by omega) (by omega)

/-- What a call accepts. -/
theorem feedFrame_eq_ok (consistent : reassembler.Consistent) :
    reassembler.feedFrame frame = .ok (output, after) ↔
      reassembler.Accepts frame output after := by
  constructor
  · intro accepted
    rcases exists_octets_of_feedFrame accepted with ⟨fits, header, valid, rest, rfl⟩
    rw [feedFrame_octets valid fits] at accepted
    split_ifs at accepted with starts collecting
    · have idle := Option.not_isSome_iff_eq_none.mp collecting
      exact accepts_of_startPdu consistent idle valid starts accepted
    · exact accepts_of_continuePdu consistent accepted
  · intro accepts
    have firstSize := reassembler.mtu.firstCapacity_add
    have continuationSize := reassembler.mtu.continuationCapacity_add
    have maximum := consistent.max_lt
    cases accepts with
    | @whole header pdu idle valid starts nonempty length_le fits =>
        have positive := List.length_pos_iff.mpr nonempty
        rw [List.append_assoc, feedFrame_octets valid (by simp; omega), if_pos starts,
          if_neg (by simp [inProgress, idle]), startPdu_octets (by omega), if_neg (by omega),
          if_neg (by omega), if_neg (by omega), if_pos rfl]
    | @start header payload length idle valid starts length_lt length_le fills =>
        rw [List.append_assoc, feedFrame_octets valid (by simp; omega), if_pos starts,
          if_neg (by simp [inProgress, idle]), startPdu_octets (by omega), if_neg (by omega),
          if_neg (by omega), if_neg (by omega), if_neg (by omega), (consistent.idle idle).2,
          List.nil_append]
    | @more active payload collecting fills length_lt =>
        have valid := (consistent.active active collecting).1.1.continuation
        rw [feedFrame_octets valid (by simp; omega), if_neg (by simp),
          continuePdu_octets collecting, if_neg (by simp [BleOcfHeader.continuation]),
          if_neg (by omega), List.length_append,
          if_pos length_lt]
    | @last active payload collecting fits ends =>
        have valid := (consistent.active active collecting).1.1.continuation
        rw [feedFrame_octets valid (by simp; omega), if_neg (by simp),
          continuePdu_octets collecting, if_neg (by simp [BleOcfHeader.continuation]),
          if_neg (by omega), List.length_append,
          if_neg (by omega)]

theorem consistent_reset (consistent : reassembler.Consistent) : reassembler.reset.Consistent where
  max_lt := consistent.max_lt
  idle _ := ⟨rfl, rfl⟩
  active _ := nofun

theorem Accepts.consistent (accepts : reassembler.Accepts frame output after)
    (consistent : reassembler.Consistent) : after.Consistent := by
  cases accepts with
  | whole => exact consistent
  | start idle valid starts length_lt length_le fills =>
      refine ⟨consistent.max_lt, nofun, fun _ same => ?_⟩
      cases same
      exact ⟨⟨valid, starts⟩, fills ▸ reassembler.mtu.firstCapacity_pos, length_lt, length_le⟩
  | @more active payload collecting fills length_lt =>
      have before := consistent.active active collecting
      refine ⟨consistent.max_lt, fun idle => ?_, fun _ same => ?_⟩
      · cases collecting.symm.trans idle
      · cases collecting.symm.trans same
        rw [List.length_append]
        exact ⟨before.1, Nat.lt_add_right _ before.2.1, length_lt, before.2.2.2⟩
  | last => exact consistent_reset consistent

theorem consistent_feed (consistent : reassembler.Consistent) (frame : ByteString) :
    (reassembler.feed frame).2.Consistent := by
  unfold feed
  rcases fed : reassembler.feedFrame frame with error | ⟨output, after⟩
  · exact consistent_reset consistent
  · exact ((feedFrame_eq_ok consistent).mp fed).consistent consistent

theorem consistent_feedAll (consistent : reassembler.Consistent) (frames : List ByteString) :
    (reassembler.feedAll frames).Consistent := by
  induction frames generalizing reassembler with
  | nil => exact consistent
  | cons frame frames ih => exact ih (consistent_feed consistent frame)

/-! ### Whole PDUs -/

/-- All calls but the last answer nothing, and the last answers the message. -/
def Returns (reassembler : BleOcfReassembler) (frames : List ByteString)
    (message : ReassembledBleOcfPdu) : Prop :=
  reassembler.answers frames =
    List.replicate (frames.length - 1) (.ok none) ++ [.ok (some message)]

theorem feed_eq_iff (consistent : reassembler.Consistent) :
    reassembler.feed frame = (.ok output, after) ↔ reassembler.Accepts frame output after := by
  rw [← feedFrame_eq_ok consistent]
  unfold feed
  rcases reassembler.feedFrame frame with error | ⟨answer, next⟩ <;> simp

theorem returns_cons {frames : List ByteString} {message : ReassembledBleOcfPdu}
    (consistent : reassembler.Consistent) :
    reassembler.Returns (frame :: frames) message ↔
      (frames = [] ∧ ∃ after, reassembler.Accepts frame (some message) after) ∨
        ∃ after, reassembler.Accepts frame none after ∧ after.Returns frames message := by
  simp only [← feed_eq_iff consistent]
  rcases fed : reassembler.feed frame with ⟨answer, next⟩
  rcases frames with _ | ⟨second, frames⟩
  · simp [Returns, answers, fed]
  · simp [Returns, answers, fed, List.replicate_succ]

/-- The frames that the rest of a message goes into, for a reassembler that collects it. -/
def Awaits (reassembler : BleOcfReassembler) (active : BleOcfHeader)
    (message : ReassembledBleOcfPdu) (frames : List ByteString) : Prop :=
  message.header = active ∧ message.pdu.length = reassembler.expectedLength ∧
    ∃ rest, message.pdu = reassembler.buffer ++ rest ∧
      frames = continuationFrames reassembler.mtu active.continuation.octets message.pdu
        reassembler.buffer.length

variable {message : ReassembledBleOcfPdu} {frames : List ByteString}

/-- A frame of the rest is accepted, and the rest of the frames is awaited after it. -/
theorem Awaits.accepts (collecting : reassembler.header = some active)
    (consistent : reassembler.Consistent)
    (awaits : reassembler.Awaits active message (frame :: frames)) :
    (frames = [] ∧ ∃ after, reassembler.Accepts frame (some message) after) ∨
      ∃ after, reassembler.Accepts frame none after ∧ after.header = some active ∧
        after.Awaits active message frames := by
  rcases message with ⟨pdu, sourcePort, destinationPort, secure⟩
  rcases awaits with ⟨rfl, whole, rest, rfl, cut⟩
  have incomplete := (consistent.active _ collecting).2.2.1
  rw [List.length_append] at whole
  rw [continuationFrames_append _ _ _ (List.length_pos_iff.mp (by omega))] at cut
  cases cut
  by_cases fits : rest.length ≤ reassembler.mtu.continuationCapacity
  · rw [List.take_of_length_le fits]
    exact .inl ⟨continuationFrames_nil le_rfl, _, .last collecting fits whole⟩
  · have filled : (rest.take reassembler.mtu.continuationCapacity).length =
        reassembler.mtu.continuationCapacity := List.length_take_of_le (not_le.mp fits).le
    refine .inr ⟨_, .more collecting filled (by omega), collecting, rfl, ?_⟩
    refine ⟨by rw [List.length_append, whole],
      rest.drop reassembler.mtu.continuationCapacity, ?_, rfl⟩
    rw [List.append_assoc, List.take_append_drop]

/-- The last frame of a message. -/
theorem Accepts.awaits_last {after : BleOcfReassembler}
    (collecting : reassembler.header = some active) (consistent : reassembler.Consistent)
    (accepts : reassembler.Accepts frame (some message) after) :
    reassembler.Awaits active message [frame] := by
  have known := consistent.active active collecting
  cases accepts with
  | whole idle => cases collecting.symm.trans idle
  | @last _ payload same fits ends =>
      cases collecting.symm.trans same
      refine ⟨?_, by rw [List.length_append, ends], payload, rfl, ?_⟩
      · rcases active
        cases known.1.2
        rfl
      · rw [continuationFrames_append _ _ _ (List.length_pos_iff.mp (by omega)),
          List.take_of_length_le fits, continuationFrames_nil le_rfl]

/-- A frame before the last one. -/
theorem Accepts.awaits {after : BleOcfReassembler}
    (collecting : reassembler.header = some active)
    (accepts : reassembler.Accepts frame none after) :
    after.header = some active ∧
      (after.Awaits active message frames →
        reassembler.Awaits active message (frame :: frames)) := by
  cases accepts with
  | start idle => cases collecting.symm.trans idle
  | @more _ payload same fills length_lt =>
      cases collecting.symm.trans same
      refine ⟨collecting, ?_⟩
      rintro ⟨carries, whole, rest, split, cut⟩
      refine ⟨carries, whole, payload ++ rest, by rw [split, List.append_assoc], ?_⟩
      have positive := reassembler.mtu.continuationCapacity_pos
      rw [cut, split, List.append_assoc, continuationFrames_append _ _ _ (by
        apply List.length_pos_iff.mp
        rw [List.length_append]
        omega), List.take_append_of_le_length fills.ge, List.take_of_length_le fills.le]

/-- Between two frames of a PDU: the rest of its fragments is what is returned for. -/
theorem returns_iff_of_collecting (consistent : reassembler.Consistent)
    (collecting : reassembler.header = some active) :
    reassembler.Returns frames message ↔ reassembler.Awaits active message frames := by
  induction frames generalizing reassembler with
  | nil =>
      constructor
      · intro returns
        cases (returns : [] = _)
      · rintro ⟨-, whole, rest, split, cut⟩
        have incomplete := (consistent.active _ collecting).2.2.1
        rw [split, List.length_append] at whole
        rw [split, continuationFrames_append _ _ _ (List.length_pos_iff.mp (by omega))] at cut
        cases cut
  | cons frame frames ih =>
      rw [returns_cons consistent]
      constructor
      · rintro (⟨rfl, after, accepts⟩ | ⟨after, accepts, returns⟩)
        · exact accepts.awaits_last collecting consistent
        · rcases accepts.awaits collecting with ⟨goesOn, awaits⟩
          exact awaits ((ih (accepts.consistent consistent) goesOn).mp returns)
      · intro awaits
        rcases awaits.accepts collecting consistent with last | ⟨after, accepts, goesOn, awaits⟩
        · exact .inl last
        · exact .inr ⟨after, accepts, (ih (accepts.consistent consistent) goesOn).mpr awaits⟩

/-- Between two PDUs: a message is returned for exactly its fragments. -/
theorem returns_iff_of_idle (consistent : reassembler.Consistent)
    (idle : reassembler.header = none) :
    reassembler.Returns frames message ↔
      message.header.Valid ∧ message.pdu ≠ [] ∧ message.pdu.length ≤ reassembler.maxPduSize ∧
        frames = fragments reassembler.mtu message.header message.pdu := by
  rcases message with ⟨pdu, sourcePort, destinationPort, secure⟩
  constructor
  · intro returns
    rcases frames with _ | ⟨frame, frames⟩
    · cases (returns : [] = _)
    rcases (returns_cons consistent).mp returns with ⟨rfl, after, accepts⟩ | ⟨after, accepts, later⟩
    · cases accepts with
      | last collecting => cases idle.symm.trans collecting
      | @whole header _ _ valid starts nonempty length_le fits =>
          rcases header
          cases starts
          exact ⟨valid, nonempty, length_le, (fragments_of_fits _ fits).symm⟩
    · have next := accepts.consistent consistent
      cases accepts with
      | more collecting => cases idle.symm.trans collecting
      | @start header payload length _ valid starts length_lt length_le fills =>
          rcases (returns_iff_of_collecting next rfl).mp later with ⟨rfl, whole, rest, split, rfl⟩
          change pdu.length = length at whole
          change pdu = payload ++ rest at split
          subst split
          subst whole
          refine ⟨valid, List.length_pos_iff.mp (Nat.zero_lt_of_lt length_lt), length_le, ?_⟩
          exact (fragments_of_exceeds _ fills rest).symm
  · rintro ⟨valid, nonempty, length_le, rfl⟩
    by_cases fits : pdu.length ≤ reassembler.mtu.firstCapacity
    · rw [fragments_of_fits _ fits]
      exact (returns_cons consistent).mpr
        (.inl ⟨rfl, _, .whole idle valid rfl nonempty length_le fits⟩)
    · have filled : (pdu.take reassembler.mtu.firstCapacity).length =
          reassembler.mtu.firstCapacity := List.length_take_of_le (not_le.mp fits).le
      have split := List.take_append_drop reassembler.mtu.firstCapacity pdu
      have cut := fragments_of_exceeds
        (ReassembledBleOcfPdu.header ⟨pdu, sourcePort, destinationPort, secure⟩) filled
        (pdu.drop reassembler.mtu.firstCapacity)
      have started := Accepts.start idle valid rfl (filled.trans_lt (not_le.mp fits)) length_le
        filled
      rw [split] at cut
      refine cut ▸ (returns_cons consistent).mpr (.inr ⟨_, started, ?_⟩)
      exact (returns_iff_of_collecting (started.consistent consistent) rfl).mpr
        ⟨rfl, rfl, _, split.symm, rfl⟩

theorem of_created {mtu maxPduSize : ℤ} {fresh : BleOcfReassembler}
    (created : create mtu maxPduSize = .ok fresh) :
    validateMtu mtu = .ok fresh.mtu ∧ validateMaxPduSize maxPduSize = .ok fresh.maxPduSize ∧
      fresh.Consistent := by
  rcases bind_eq_ok.mp created with ⟨size, sized, created⟩
  rcases bind_eq_ok.mp created with ⟨maximum, bounded, created⟩
  cases created
  exact ⟨sized, bounded, validateMaxPduSize_lt bounded, fun _ => ⟨rfl, rfl⟩, nofun⟩

theorem feed_configuration (consistent : reassembler.Consistent) (frame : ByteString) :
    (reassembler.feed frame).2.mtu = reassembler.mtu ∧
      (reassembler.feed frame).2.maxPduSize = reassembler.maxPduSize := by
  unfold feed
  rcases fed : reassembler.feedFrame frame with error | ⟨output, after⟩
  · exact ⟨rfl, rfl⟩
  · cases (feedFrame_eq_ok consistent).mp fed <;> exact ⟨rfl, rfl⟩

theorem feedAll_configuration (consistent : reassembler.Consistent) (frames : List ByteString) :
    (reassembler.feedAll frames).mtu = reassembler.mtu ∧
      (reassembler.feedAll frames).maxPduSize = reassembler.maxPduSize := by
  induction frames generalizing reassembler with
  | nil => exact ⟨rfl, rfl⟩
  | cons frame frames ih =>
      rcases feed_configuration consistent frame with ⟨mtu, maximum⟩
      rcases ih (consistent_feed consistent frame) with ⟨laterMtu, laterMaximum⟩
      exact ⟨laterMtu.trans mtu, laterMaximum.trans maximum⟩

end BleOcfReassembler

/--
An idle reassembler returns a message on the last of some frames, and nothing before it,
exactly when the frames are what its PDU is fragmented to.
-/
theorem reassembler_accepts_exactly_fragments {mtu maxPduSize : ℤ} {fresh : BleOcfReassembler}
    (created : BleOcfReassembler.create mtu maxPduSize = .ok fresh) (earlier : List ByteString)
    (idle : (fresh.feedAll earlier).inProgress = false) (frames : List ByteString)
    (pdu : ByteString) (sourcePort destinationPort : ℤ) (secure : Bool) :
    (fresh.feedAll earlier).answers frames = List.replicate (frames.length - 1) (.ok none) ++
        [.ok (some ⟨pdu, sourcePort, destinationPort, secure⟩)] ↔
      fragmentPdu pdu mtu sourcePort destinationPort secure maxPduSize = .ok frames := by
  rcases BleOcfReassembler.of_created created with ⟨sized, bounded, consistent⟩
  rcases BleOcfReassembler.feedAll_configuration consistent earlier with ⟨sameMtu, sameMaximum⟩
  have between : (fresh.feedAll earlier).header = none :=
    Option.isNone_iff_eq_none.mp (Option.isSome_eq_false_iff.mp idle)
  have returns : (fresh.feedAll earlier).Returns frames
      ⟨pdu, sourcePort, destinationPort, secure⟩ ↔ _ :=
    BleOcfReassembler.returns_iff_of_idle
      (BleOcfReassembler.consistent_feedAll consistent earlier) between
  rw [sameMtu, sameMaximum] at returns
  exact returns.trans (fragmentPdu_eq_ok sized bounded).symm

/-- A PDU of two frames, after a frame that was refused. -/
theorem reassembler_accepts_exactly_fragments_example :
    let fresh : BleOcfReassembler := ⟨⟨10, by decide, by decide⟩, 100, none, 0, []⟩
    let frames : List ByteString := [[0x81, 0x02, 0, 0, 0, 5, 1, 2, 3, 4], [0x01, 0x02, 5]]
    fragmentPdu [1, 2, 3, 4, 5] 10 1 2 false 100 = .ok frames ∧
      ((fresh.feedAll [[0x01, 0x02, 5]]).answers frames = [.ok none] ++
          [.ok (some ⟨[1, 2, 3, 4, 5], 1, 2, false⟩)] ↔
        fragmentPdu [1, 2, 3, 4, 5] 10 1 2 false 100 = .ok frames) := by
  refine ⟨by decide +kernel, ?_⟩
  have created : BleOcfReassembler.create 10 100 =
      .ok ⟨⟨10, by decide, by decide⟩, 100, none, 0, []⟩ := rfl
  exact reassembler_accepts_exactly_fragments created _ (by decide) _ _ _ _ _

end SmartThingsLocal
