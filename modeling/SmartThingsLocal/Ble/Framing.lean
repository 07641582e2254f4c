import SmartThingsLocal.Foundation.ByteString

/-!
# BLE framing of OCF PDUs

The codec of `protocol/ble_ocf.py` and the state machine of its `BleOcfReassembler`. A PDU
goes out in a start frame that announces its length and in continuation frames. Arguments
of the wrong Python type are outside the model.
-/

namespace SmartThingsLocal

namespace Ble

def headerSize : ℕ := 2
def lengthHeaderSize : ℕ := 4
def firstFrameOverhead : ℕ := headerSize + lengthHeaderSize
def minSourcePort : ℤ := 1
def maxPort : ℤ := 127
def multicastPort : ℤ := 0
def maxMtu : ℤ := 0xFFFF
def wireMaxPduSize : ℤ := 0xFFFFFFFF

end Ble

open Ble

/-- The ways a frame or an argument of the codec is invalid. -/
inductive BleOcfCodecError
  | lengthExceeds (name : String) (length : ℕ) (limitName : String) (maximum : ℕ)
  | outOfRange (name : String) (minimum maximum : ℤ)
  | emptyPdu
  | shortHeader
  | zeroSourcePort
  | missingLength
  | zeroLength
  | declaredExceeds (length maximum : ℕ)
  | startPayload
  | continuationWithoutStart
  | continuationPayload
  | interleavedStart
  | interleavedMetadata
  deriving DecidableEq, Repr

namespace BleOcfCodecError

/-- The text each failure is raised with. -/
def message : BleOcfCodecError → String
  | .lengthExceeds name length limitName maximum =>
      s!"{name} length {length} exceeds {limitName} {maximum}"
  | .outOfRange name minimum maximum => s!"{name} must be in the range {minimum}..{maximum}"
  | .emptyPdu => "OCF PDU must not be empty"
  | .shortHeader => "BLE OCF frame is shorter than its two-byte header"
  | .zeroSourcePort => "BLE OCF source port 0 is invalid"
  | .missingLength => "BLE OCF start frame is missing its four-byte length header"
  | .zeroLength => "BLE OCF PDU length must not be zero"
  | .declaredExceeds length maximum =>
      s!"declared OCF PDU length {length} exceeds maximum {maximum}"
  | .startPayload => "BLE OCF start frame payload length does not match IoTivity fragmentation"
  | .continuationWithoutStart => "received a continuation frame without a start frame"
  | .continuationPayload =>
      "BLE OCF continuation payload length does not match IoTivity fragmentation"
  | .interleavedStart => "received a new start frame while another PDU is incomplete"
  | .interleavedMetadata => "continuation frame metadata does not match the active PDU"

/-- The failures of the class `BleOcfInterleavedFrameError`. -/
def interleaved : BleOcfCodecError → Bool
  | .interleavedStart | .interleavedMetadata => true
  | _ => false

end BleOcfCodecError

/-- The two-byte header of a frame. -/
structure BleOcfHeader where
  start : Bool
  sourcePort : ℤ
  secure : Bool
  destinationPort : ℤ
  deriving DecidableEq, Repr

/-- A complete PDU and the transport metadata that carried it. -/
structure ReassembledBleOcfPdu where
  pdu : ByteString
  sourcePort : ℤ
  destinationPort : ℤ
  secure : Bool
  deriving DecidableEq, Repr

/-- A frame size that leaves room for a payload in every frame. -/
structure BleMtu where
  size : ℕ
  overhead_lt : firstFrameOverhead < size
  size_le : size ≤ maxMtu.toNat
  deriving DecidableEq

namespace BleMtu

/-- What the first frame of a PDU holds of it. -/
def firstCapacity (mtu : BleMtu) : ℕ := mtu.size - firstFrameOverhead

/-- What every later frame holds. -/
def continuationCapacity (mtu : BleMtu) : ℕ := mtu.size - headerSize

theorem firstCapacity_pos (mtu : BleMtu) : 0 < mtu.firstCapacity :=
  Nat.sub_pos_of_lt mtu.overhead_lt

theorem continuationCapacity_pos (mtu : BleMtu) : 0 < mtu.continuationCapacity :=
  Nat.sub_pos_of_lt ((by decide : headerSize < firstFrameOverhead).trans mtu.overhead_lt)

theorem firstCapacity_add (mtu : BleMtu) :
    headerSize + lengthHeaderSize + mtu.firstCapacity = mtu.size :=
  Nat.add_sub_of_le mtu.overhead_lt.le

theorem continuationCapacity_add (mtu : BleMtu) :
    headerSize + mtu.continuationCapacity = mtu.size :=
  Nat.add_sub_of_le ((by decide : headerSize ≤ firstFrameOverhead).trans mtu.overhead_lt.le)

end BleMtu

namespace Ble

def coerceBytes (value : ByteString) (name : String) (maxLength : ℕ) (limitName : String) :
    Except BleOcfCodecError ByteString :=
  if value.length > maxLength then .error (.lengthExceeds name value.length limitName maxLength)
  else .ok value

def validatePort (port : ℤ) (source : Bool) : Except BleOcfCodecError ℤ :=
  let label := if source then "source_port" else "destination_port"
  let minimum := if source then minSourcePort else multicastPort
  if ¬(minimum ≤ port ∧ port ≤ maxPort) then .error (.outOfRange label minimum maxPort)
  else .ok port

def validateMtu (mtu : ℤ) : Except BleOcfCodecError BleMtu :=
  if within : (firstFrameOverhead : ℤ) < mtu ∧ mtu ≤ maxMtu then
    .ok ⟨mtu.toNat, by omega, Int.toNat_le_toNat within.2⟩
  else .error (.outOfRange "mtu" (firstFrameOverhead + 1) maxMtu)

def validateMaxPduSize (maxPduSize : ℤ) : Except BleOcfCodecError ℕ :=
  if ¬(1 ≤ maxPduSize ∧ maxPduSize ≤ wireMaxPduSize) then
    .error (.outOfRange "max_pdu_size" 1 wireMaxPduSize)
  else .ok maxPduSize.toNat

/-! ### Frames -/

/-- A flag in bit 7 and a port below it. -/
def flagOctet (flag : Bool) (port : ℤ) : UInt8 :=
  UInt8.ofNat ((if flag then 0x80 else 0) ||| port.toNat)

def encodeHeader (header : BleOcfHeader) : Except BleOcfCodecError ByteString := do
  let sourcePort ← validatePort header.sourcePort true
  let destinationPort ← validatePort header.destinationPort false
  return [flagOctet header.start sourcePort, flagOctet header.secure destinationPort]

def decodeHeader (frame : ByteString) : Except BleOcfCodecError BleOcfHeader :=
  match frame with
  | first :: second :: _ =>
      let sourcePort : ℤ := (first.toNat &&& 0x7F : ℕ)
      if sourcePort < minSourcePort then .error .zeroSourcePort
      else .ok {
        start := first.toNat &&& 0x80 ≠ 0
        sourcePort
        secure := second.toNat &&& 0x80 ≠ 0
        destinationPort := (second.toNat &&& 0x7F : ℕ) }
  | _ => .error .shortHeader

/-- The loop of `fragment_pdu`: the continuation frames from an offset on. -/
def continuationFrames (mtu : BleMtu) (header data : ByteString) (offset : ℕ) : List ByteString :=
  if _more : offset < data.length then
    let stop := min (offset + mtu.continuationCapacity) data.length
    (header ++ (data.take stop).drop offset) :: continuationFrames mtu header data stop
  else []
termination_by data.length - offset
decreasing_by
  have := mtu.continuationCapacity_pos
  omega

def fragmentPdu (pdu : ByteString) (mtu sourcePort destinationPort : ℤ) (secure : Bool)
    (maxPduSize : ℤ) : Except BleOcfCodecError (List ByteString) := do
  let mtu ← validateMtu mtu
  let maxPduSize ← validateMaxPduSize maxPduSize
  let sourcePort ← validatePort sourcePort true
  let destinationPort ← validatePort destinationPort false
  let data ← coerceBytes pdu "OCF PDU" maxPduSize "maximum"
  if data = [] then .error .emptyPdu
  else
    let firstLength := min data.length mtu.firstCapacity
    let header ← encodeHeader ⟨true, sourcePort, secure, destinationPort⟩
    -- the length fits: it is at most `maxPduSize`, and that is at most `wireMaxPduSize`
    let first := header ++ ByteString.ofNat lengthHeaderSize data.length ++ data.take firstLength
    let continuationHeader ← encodeHeader ⟨false, sourcePort, secure, destinationPort⟩
    return first :: continuationFrames mtu continuationHeader data firstLength

end Ble

/-! ### Reassembly -/

/-- The configuration of a reassembler and the PDU it is collecting. -/
structure BleOcfReassembler where
  mtu : BleMtu
  maxPduSize : ℕ
  header : Option BleOcfHeader := none
  expectedLength : ℕ := 0
  buffer : ByteString := []
  deriving DecidableEq

namespace BleOcfReassembler

def create (mtu maxPduSize : ℤ) : Except BleOcfCodecError BleOcfReassembler := do
  let mtu ← validateMtu mtu
  let maxPduSize ← validateMaxPduSize maxPduSize
  return { mtu, maxPduSize }

def inProgress (reassembler : BleOcfReassembler) : Bool := reassembler.header.isSome

def bufferedBytes (reassembler : BleOcfReassembler) : ℕ := reassembler.buffer.length

def reset (reassembler : BleOcfReassembler) : BleOcfReassembler :=
  { reassembler with header := none, expectedLength := 0, buffer := [] }

/-- What a call returns when it does not raise, and the reassembler after it. -/
abbrev Answer := Except BleOcfCodecError (Option ReassembledBleOcfPdu × BleOcfReassembler)

def startPdu (reassembler : BleOcfReassembler) (data : ByteString) (header : BleOcfHeader) :
    Answer :=
  if data.length < firstFrameOverhead then .error .missingLength
  else
    let expectedLength := ByteString.toNat ((data.take firstFrameOverhead).drop headerSize)
    if expectedLength = 0 then .error .zeroLength
    else if expectedLength > reassembler.maxPduSize then
      .error (.declaredExceeds expectedLength reassembler.maxPduSize)
    else
      let payload := data.drop firstFrameOverhead
      if payload.length ≠ min expectedLength reassembler.mtu.firstCapacity then
        .error .startPayload
      else if payload.length = expectedLength then
        .ok (some ⟨payload, header.sourcePort, header.destinationPort, header.secure⟩,
          reassembler)
      else
        .ok (none, { reassembler with
          header := some header, expectedLength, buffer := reassembler.buffer ++ payload })

def continuePdu (reassembler : BleOcfReassembler) (data : ByteString) (header : BleOcfHeader) :
    Answer :=
  match reassembler.header with
  | none => .error .continuationWithoutStart
  | some active =>
      if header.start ∨ header.sourcePort ≠ active.sourcePort ∨ header.secure ≠ active.secure ∨
          header.destinationPort ≠ active.destinationPort then
        .error .interleavedMetadata
      else
        let payload := data.drop headerSize
        let remaining := reassembler.expectedLength - reassembler.buffer.length
        if payload.length ≠ min remaining reassembler.mtu.continuationCapacity then
          .error .continuationPayload
        else
          let buffer := reassembler.buffer ++ payload
          if buffer.length < reassembler.expectedLength then
            .ok (none, { reassembler with buffer })
          else
            .ok (some ⟨buffer, active.sourcePort, active.destinationPort, active.secure⟩,
              reassembler.reset)

/-- The body of `feed`; a call that raises has not changed the reassembler. -/
def feedFrame (reassembler : BleOcfReassembler) (frame : ByteString) : Answer := do
  let data ← coerceBytes frame "BLE OCF frame" reassembler.mtu.size "MTU"
  let header ← decodeHeader data
  if header.start then
    if reassembler.inProgress then .error .interleavedStart
    else reassembler.startPdu data header
  else reassembler.continuePdu data header

/-- A call of `feed`: its answer, and the reassembler, which a failure resets. -/
def feed (reassembler : BleOcfReassembler) (frame : ByteString) :
    Except BleOcfCodecError (Option ReassembledBleOcfPdu) × BleOcfReassembler :=
  match reassembler.feedFrame frame with
  | .ok (pdu, after) => (.ok pdu, after)
  | .error error => (.error error, reassembler.reset)

/-- What the calls answer for one frame after the other. -/
def answers (reassembler : BleOcfReassembler) :
    List ByteString → List (Except BleOcfCodecError (Option ReassembledBleOcfPdu))
  | [] => []
  | frame :: frames =>
      (reassembler.feed frame).1 :: (reassembler.feed frame).2.answers frames

/-- The reassembler after some frames. -/
def feedAll (reassembler : BleOcfReassembler) (frames : List ByteString) : BleOcfReassembler :=
  frames.foldl (fun reassembler frame => (reassembler.feed frame).2) reassembler

end BleOcfReassembler

end SmartThingsLocal
