import SmartThingsLocal.Errors
import SmartThingsLocal.Foundation.ByteString

/-!
# CoAP messages and option values

The constants and the decoded message of `protocol/coap.py`, and the helpers
that read option values out of it: `option_values`, `decode_uint_option` and the
two directions of a Block option value.
-/

namespace SmartThingsLocal

/-- An option number and its value. -/
abbrev CoapOption := ℕ × ByteString

namespace Coap

def uriPath : ℕ := 11
def uriQuery : ℕ := 15
def observe : ℕ := 6
def etag : ℕ := 4
def contentFormat : ℕ := 12
def accept : ℕ := 17
def block2 : ℕ := 23
def block1 : ℕ := 27
def size2 : ℕ := 28
def size1 : ℕ := 60

def typeCon : ℕ := 0
def typeNon : ℕ := 1
def typeAck : ℕ := 2
def typeRst : ℕ := 3

def methodGet : ℕ := 0x01
def methodPost : ℕ := 0x02

/-- The Content-Format value of `application/cbor`. -/
def cfCbor : ByteString := [0x3c]

/-- SZX of the block size every request asks for: 1024 bytes. -/
def blockSzx : ℕ := 6

def maxBlock2PayloadBytes : ℕ := 64 * 1024
def maxBlock2Blocks : ℕ := maxBlock2PayloadBytes / (1 <<< (blockSzx + 4))

theorem maxBlock2PayloadBytes_pos : 0 < maxBlock2PayloadBytes := by decide

theorem maxBlock2Blocks_pos : 0 < maxBlock2Blocks := by decide

end Coap

/-- One decoded CoAP datagram. -/
structure CoapMessage where
  mtype : ℕ
  code : ℕ
  mid : ℕ
  token : ByteString
  options : List CoapOption
  payload : ByteString
  deriving DecidableEq, Repr

/-- All values of one option number, in wire order. -/
def optionValues (options : List CoapOption) (number : ℕ) : List ByteString :=
  (options.filter fun option => option.1 == number).map Prod.snd

theorem optionValues_append (first second : List CoapOption) (number : ℕ) :
    optionValues (first ++ second) number =
      optionValues first number ++ optionValues second number := by
  simp only [optionValues, List.filter_append, List.map_append]

/--
One optional uint option: absent is `none`, a repeated or an overlong one is
malformed, and an empty value is zero.
-/
def decodeUintOption (options : List CoapOption) (number maxLength : ℕ) :
    Except SmartThingsLocalError (Option ℕ) :=
  match optionValues options number with
  | [] => .ok none
  | [value] =>
      if value.length > maxLength then .error .malformedMessageError
      else .ok (some (ByteString.toNat value))
  | _ => .error .malformedMessageError

/-- `bytes([…])`: each integer must be an octet. -/
def bytesOf (values : List ℕ) : Except PythonError ByteString :=
  if values.all (· < 256) then .ok (values.map UInt8.ofNat)
  else .error (.valueError "bytes must be in range(0, 256)")

/-- The octet that `bytearray.append(value)` adds. -/
def octetOf (value : ℕ) : Except PythonError UInt8 :=
  if value < 256 then .ok (UInt8.ofNat value)
  else .error (.valueError "byte must be in range(0, 256)")

/-- `struct.pack('>H', value)`. -/
def packH (value : ℕ) : Except PythonError ByteString :=
  if value ≤ 0xFFFF then .ok (ByteString.ofNat 2 value)
  else .error (.structError "'H' format requires 0 <= number <= 65535")

/-- `struct.pack('>I', value)`. -/
def packI (value : ℕ) : Except PythonError ByteString :=
  if value ≤ 0xFFFFFFFF then .ok (ByteString.ofNat 4 value)
  else .error (.structError "'I' format requires 0 <= number <= 4294967295")

/-- `value.to_bytes(width, 'big')`. -/
def toBytes (width value : ℕ) : Except PythonError ByteString :=
  if value < 256 ^ width then .ok (ByteString.ofNat width value)
  else .error (.overflowError "int too big to convert")

/-- `bytes[index]`. -/
def octetAt (bytes : ByteString) (index : ℕ) : Except PythonError UInt8 :=
  match bytes[index]? with
  | some octet => .ok octet
  | none => .error (.indexError "index out of range")

theorem packH_ok {value : ℕ} (fits : value ≤ 0xFFFF) :
    packH value = .ok (ByteString.ofNat 2 value) :=
  if_pos fits

theorem packH_eq_ok {value : ℕ} {bytes : ByteString} :
    packH value = .ok bytes ↔ value ≤ 0xFFFF ∧ ByteString.ofNat 2 value = bytes := by
  unfold packH
  split_ifs with fits <;> simp [fits]

theorem toBytes_eq_ok {width value : ℕ} {bytes : ByteString} :
    toBytes width value = .ok bytes ↔
      value < 256 ^ width ∧ ByteString.ofNat width value = bytes := by
  unfold toBytes
  split_ifs with fits <;> simp [fits]

theorem toBytes_ok {width value : ℕ} (fits : value < 256 ^ width) :
    toBytes width value = .ok (ByteString.ofNat width value) :=
  if_pos fits

theorem octetAt_eq_ok {bytes : ByteString} {index : ℕ} {octet : UInt8} :
    octetAt bytes index = .ok octet ↔ bytes[index]? = some octet := by
  unfold octetAt
  cases bytes[index]? <;> simp

theorem octetAt_ok {bytes : ByteString} {index : ℕ} (within : index < bytes.length) :
    octetAt bytes index = .ok bytes[index] := by
  rw [octetAt_eq_ok, List.getElem?_eq_getElem within]

/-- Encode a Block option value. -/
def blockValue (num more szx : ℕ) : Except PythonError ByteString :=
  let value := (num <<< 4) ||| ((more &&& 1) <<< 3) ||| (szx &&& 7)
  if value ≤ 0xFF then bytesOf [value]
  else if value ≤ 0xFFFF then packH value
  else (packI value).map (·.drop 1)

/-- Decode a Block option value into its number, more bit and SZX. -/
def blockFields (value : ByteString) : ℕ × ℕ × ℕ :=
  let v := ByteString.toNat value
  (v >>> 4, (v >>> 3) &&& 1, v &&& 0x07)

end SmartThingsLocal
