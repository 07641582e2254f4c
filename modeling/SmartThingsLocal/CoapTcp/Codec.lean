import SmartThingsLocal.Coap.Datagram

/-!
# CoAP over TCP: the message codec

`protocol/coap_tcp.py` without its stream decoder. The variable-length header
counts only the encoded options, the payload marker and the payload; code and
token follow the length field but are not part of it. Arguments of the wrong
Python type are outside the model.
-/

namespace SmartThingsLocal

namespace CoapTcp

open PrefixCode

def shortLengthLimit : ℕ := 13
def length8BitBase : ℕ := 13
def length16BitBase : ℕ := 269
def length32BitBase : ℕ := 65805
def maxDeclaredLength : ℕ := 0xFFFFFFFF + length32BitBase
def maxTokenLength : ℕ := 8
def coapTcpMaxMessageSize : ℕ := maxDeclaredLength + 5 + 1 + maxTokenLength
def maxOptionNumber : ℕ := 0xFFFF
def maxOptionValueLength : ℕ := 65804

/-- The ways a message is invalid or unsupported. -/
inductive CoapTcpCodecError
  | lengthExceeds (name : String) (length maximum : ℕ)
  | outOfRange (name : String) (minimum maximum : ℕ)
  | optionHeaderTooLarge (name : String)
  | lengthExceedsField
  | messageExceeds (size maximum : ℕ)
  | empty
  | tokenTooLong
  | truncatedLength
  | declaredExceeds (size maximum : ℕ)
  | reservedNibble
  | truncatedExtension
  | markerWithoutPayload
  | optionNumberTooLarge
  | truncatedValue
  | truncatedBody
  | trailingBytes
  | truncatedStream
  deriving DecidableEq, Repr

/-- The text each failure is raised with. -/
def CoapTcpCodecError.message : CoapTcpCodecError → String
  | .lengthExceeds name length maximum => s!"{name} length {length} exceeds maximum {maximum}"
  | .outOfRange name minimum maximum => s!"{name} must be in the range {minimum}..{maximum}"
  | .optionHeaderTooLarge name => s!"{name} is too large for a CoAP option header"
  | .lengthExceedsField => "declared CoAP-over-TCP length exceeds its wire field"
  | .messageExceeds size maximum =>
      s!"CoAP-over-TCP message length {size} exceeds maximum {maximum}"
  | .empty => "CoAP-over-TCP message is empty"
  | .tokenTooLong => "CoAP token length exceeds 8 bytes"
  | .truncatedLength => "truncated CoAP-over-TCP length field"
  | .declaredExceeds size maximum =>
      s!"declared CoAP-over-TCP message length {size} exceeds maximum {maximum}"
  | .reservedNibble => "reserved CoAP option nibble 15"
  | .truncatedExtension => "truncated CoAP option extension"
  | .markerWithoutPayload => "CoAP payload marker has no payload"
  | .optionNumberTooLarge => "decoded CoAP option number exceeds 65535"
  | .truncatedValue => "truncated CoAP option value"
  | .truncatedBody => "truncated CoAP-over-TCP message body"
  | .trailingBytes => "trailing bytes after CoAP-over-TCP message"
  | .truncatedStream => "truncated CoAP-over-TCP message at end of stream"

/-- One decoded CoAP-over-TCP message. -/
structure CoapTcpMessage where
  code : ℕ
  token : ByteString
  options : List CoapOption
  payload : ByteString
  deriving DecidableEq, Repr

def coerceBytes (value : ByteString) (name : String) (maxLength : ℕ) :
    Except CoapTcpCodecError ByteString :=
  if value.length > maxLength then .error (.lengthExceeds name value.length maxLength)
  else .ok value

def validateInt (value : ℕ) (name : String) (minimum maximum : ℕ) :
    Except CoapTcpCodecError ℕ :=
  if ¬(minimum ≤ value ∧ value ≤ maximum) then .error (.outOfRange name minimum maximum)
  else .ok value

def validateMaxMessageSize (value : ℕ) : Except CoapTcpCodecError ℕ :=
  validateInt value "max_message_size" 2 coapTcpMaxMessageSize

/-- The sizes `_validate_max_message_size` lets through. -/
def MaxAccepted (maxMessageSize : ℕ) : Prop :=
  2 ≤ maxMessageSize ∧ maxMessageSize ≤ coapTcpMaxMessageSize

instance (maxMessageSize : ℕ) : Decidable (MaxAccepted maxMessageSize) :=
  inferInstanceAs (Decidable (_ ∧ _))

/-! ### Encoding -/

def encodeExtended (value : ℕ) (name : String) : Except CoapTcpCodecError (ℕ × ByteString) :=
  if value < 13 then .ok (value, [])
  else if value < 269 then .ok (13, [UInt8.ofNat (value - 13)])
  else if value ≤ maxOptionValueLength then .ok (14, ByteString.ofNat 2 (value - 269))
  else .error (.optionHeaderTooLarge name)

/-- The validation loop of `_normalize_options`, which names each option by its index. -/
def normalizeFrom : ℕ → List CoapOption → Except CoapTcpCodecError (List CoapOption)
  | _, [] => .ok []
  | index, item :: rest => do
      let number ← validateInt item.1 s!"option {index} number" 0 maxOptionNumber
      let value ← coerceBytes item.2 s!"option {index} value" maxOptionValueLength
      let normalized ← normalizeFrom (index + 1) rest
      return (number, value) :: normalized

def normalizeOptions (options : List CoapOption) : Except CoapTcpCodecError (List CoapOption) :=
  (normalizeFrom 0 options).map sortByNumber

/-- The loop of `_encode_options` from a previous option number. -/
def encodeOptions : ℕ → List CoapOption → Except CoapTcpCodecError ByteString
  | _, [] => .ok []
  | previous, (number, value) :: rest => do
      let (deltaNibble, deltaExtra) ← encodeExtended (number - previous) "option delta"
      let (lengthNibble, lengthExtra) ← encodeExtended value.length "option length"
      let encoded ← encodeOptions number rest
      return UInt8.ofNat ((deltaNibble <<< 4) ||| lengthNibble) ::
        (deltaExtra ++ lengthExtra ++ value ++ encoded)

def encodeLength (optionPayloadLength tokenLength : ℕ) : Except CoapTcpCodecError ByteString :=
  if optionPayloadLength < shortLengthLimit then
    .ok [UInt8.ofNat ((optionPayloadLength <<< 4) ||| tokenLength)]
  else if optionPayloadLength < length16BitBase then
    .ok [UInt8.ofNat ((13 <<< 4) ||| tokenLength),
      UInt8.ofNat (optionPayloadLength - length8BitBase)]
  else if optionPayloadLength < length32BitBase then
    .ok (UInt8.ofNat ((14 <<< 4) ||| tokenLength) ::
      ByteString.ofNat 2 (optionPayloadLength - length16BitBase))
  else if optionPayloadLength ≤ maxDeclaredLength then
    .ok (UInt8.ofNat ((15 <<< 4) ||| tokenLength) ::
      ByteString.ofNat 4 (optionPayloadLength - length32BitBase))
  else .error .lengthExceedsField

/-- Build one bounded message. -/
def buildCoapTcpMessage (code : ℕ) (token : ByteString) (options : List CoapOption)
    (payload : ByteString) (maxMessageSize : ℕ) : Except CoapTcpCodecError ByteString := do
  let maximum ← validateMaxMessageSize maxMessageSize
  let code ← validateInt code "code" 0 0xFF
  let tokenBytes ← coerceBytes token "token" maxTokenLength
  let payloadBytes ← coerceBytes payload "payload" maximum
  let encodedOptions ← encodeOptions 0 (← normalizeOptions options)
  let optionPayloadLength :=
    if payloadBytes ≠ [] then encodedOptions.length + (1 + payloadBytes.length)
    else encodedOptions.length
  let lengthPrefix ← encodeLength optionPayloadLength tokenBytes.length
  let wireSize := lengthPrefix.length + 1 + tokenBytes.length + optionPayloadLength
  if wireSize > maximum then .error (.messageExceeds wireSize maximum)
  else
    let wire := lengthPrefix ++ [UInt8.ofNat code] ++ tokenBytes ++ encodedOptions
    return if payloadBytes ≠ [] then wire ++ 0xFF :: payloadBytes else wire

/-! ### Decoding -/

/-- Number of extension octets a length nibble announces. -/
def extensionSize (lengthNibble : ℕ) : ℕ :=
  if lengthNibble < 13 then 0
  else if lengthNibble = 13 then 1
  else if lengthNibble = 14 then 2
  else 4

/-- Smallest length each extended form stands for. -/
def lengthBase (lengthNibble : ℕ) : ℕ :=
  if lengthNibble = 13 then length8BitBase
  else if lengthNibble = 14 then length16BitBase
  else length32BitBase

/-- The declared length, the token length and the size of the length field with its first octet. -/
def decodeLength (data : ByteString) : Except CoapTcpCodecError (ℕ × ℕ × ℕ) :=
  match data with
  | [] => .error .empty
  | first :: _ =>
      let lengthNibble := first.toNat >>> 4
      let tokenLength := first.toNat &&& 0x0F
      if tokenLength > maxTokenLength then .error .tokenTooLong
      else if lengthNibble < 13 then .ok (lengthNibble, tokenLength, 1)
      else
        let prefixSize := 1 + extensionSize lengthNibble
        if data.length < prefixSize then .error .truncatedLength
        else
          let extension := ByteString.toNat ((data.take prefixSize).drop 1)
          .ok (lengthBase lengthNibble + extension, tokenLength, prefixSize)

/-- The size of the frame that starts here, or `none` until its length field is complete. -/
def frameSizeFromPrefix (maximum : ℕ) (data : ByteString) :
    Except CoapTcpCodecError (Option ℕ) :=
  match data with
  | [] => .ok none
  | first :: _ =>
      let tokenLength := first.toNat &&& 0x0F
      if tokenLength > maxTokenLength then .error .tokenTooLong
      else
        let prefixSize := 1 + extensionSize (first.toNat >>> 4)
        if data.length < prefixSize then .ok none
        else
          match decodeLength (data.take prefixSize) with
          | .error error => .error error
          | .ok (optionPayloadLength, _, _) =>
              let frameSize := prefixSize + 1 + tokenLength + optionPayloadLength
              if frameSize > maximum then .error (.declaredExceeds frameSize maximum)
              else .ok (some frameSize)

def decodeExtended (nibble : ℕ) (data : ByteString) :
    Except CoapTcpCodecError (ℕ × ByteString) :=
  if nibble < 13 then .ok (nibble, data)
  else if nibble = 15 then .error .reservedNibble
  else
    let extensionSize := if nibble = 13 then 1 else 2
    if extensionSize > data.length then .error .truncatedExtension
    else
      let base := if nibble = 13 then 13 else 269
      .ok (base + ByteString.toNat (data.take extensionSize), data.drop extensionSize)

theorem decodeExtended_length_le {nibble value : ℕ} {data rest : ByteString}
    (accepted : decodeExtended nibble data = .ok (value, rest)) : rest.length ≤ data.length := by
  unfold decodeExtended at accepted
  dsimp only at accepted
  split_ifs at accepted <;> cases accepted <;> simp

/-- The loop of `_decode_options` from a previous option number. -/
def decodeOptions (previous : ℕ) (data : ByteString) :
    Except CoapTcpCodecError (List CoapOption × ByteString) :=
  match data with
  | [] => .ok ([], [])
  | first :: afterFirst =>
      if first = 0xFF then
        if afterFirst = [] then .error .markerWithoutPayload else .ok ([], afterFirst)
      else
        match _deltaRead : decodeExtended (first.toNat >>> 4) afterFirst with
        | .error error => .error error
        | .ok (delta, afterDelta) =>
            match _lengthRead : decodeExtended (first.toNat &&& 0x0F) afterDelta with
            | .error error => .error error
            | .ok (length, afterLength) =>
                let number := previous + delta
                if number > maxOptionNumber then .error .optionNumberTooLarge
                else if length > afterLength.length then .error .truncatedValue
                else
                  (decodeOptions number (afterLength.drop length)).map fun decoded =>
                    ((number, afterLength.take length) :: decoded.1, decoded.2)
termination_by data.length
decreasing_by
  have deltaLength := decodeExtended_length_le _deltaRead
  have lengthLength := decodeExtended_length_le _lengthRead
  simp only [List.length_cons, List.length_drop]
  omega

/--
Parse exactly one complete bounded message. The size checks put the code octet
inside the message, so the default of its lookup is never used.
-/
def parseCoapTcpMessage (data : ByteString) (maxMessageSize : ℕ) :
    Except CoapTcpCodecError CoapTcpMessage := do
  let maximum ← validateMaxMessageSize maxMessageSize
  let wire ← coerceBytes data "data" maximum
  let (optionPayloadLength, tokenLength, prefixSize) ← decodeLength wire
  let expectedSize := prefixSize + 1 + tokenLength + optionPayloadLength
  if expectedSize > maximum then .error (.declaredExceeds expectedSize maximum)
  else if wire.length < expectedSize then .error .truncatedBody
  else if wire.length > expectedSize then .error .trailingBytes
  else
    let codeOffset := prefixSize
    let tokenOffset := codeOffset + 1
    let optionOffset := tokenOffset + tokenLength
    let (options, payload) ← decodeOptions 0 (wire.drop optionOffset)
    return {
      code := (wire.getD codeOffset 0).toNat
      token := (wire.take optionOffset).drop tokenOffset
      options := options
      payload := payload }

end CoapTcp

end SmartThingsLocal
