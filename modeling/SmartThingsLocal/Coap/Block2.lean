import SmartThingsLocal.Coap.Message
import SmartThingsLocal.Foundation.Stateful

/-!
# The Block2 accumulator

`Block2Accumulator` of `protocol/coap.py`: one bounded representation, assembled
from the blocks of one token. `addResponse` follows the source's order of checks;
its fields are only assigned once every check has passed.
-/

namespace SmartThingsLocal

open Stateful

inductive Block2Status
  | duplicate
  | continued
  | complete
  deriving DecidableEq, Repr

/-- An accumulator with its token, its limits and what it has assembled so far. -/
structure Block2Accumulator where
  token : ByteString
  maxBlocks : ℕ
  maxPayloadBytes : ℕ
  acceptedContentFormats : Option (List ℕ)
  tokenFits : token.length ≤ 8
  maxBlocksPos : 0 < maxBlocks
  maxPayloadBytesPos : 0 < maxPayloadBytes
  expectedNumber : ℕ
  negotiatedSzx : Option ℕ
  etag : Option ByteString
  contentFormat : Option ℕ
  size2 : Option ℕ
  payload : ByteString
  blocksReceived : ℕ
  code : Option ℕ
  complete : Bool
  deriving DecidableEq, Repr

namespace Block2Accumulator

/-- A fresh accumulator. -/
def create (token : ByteString) (maxBlocks maxPayloadBytes : ℕ)
    (acceptedContentFormats : Option (List ℕ)) : Except PythonError Block2Accumulator :=
  if tokenFits : token.length ≤ 8 then
    if maxBlocksPos : 0 < maxBlocks then
      if maxPayloadBytesPos : 0 < maxPayloadBytes then
        .ok {
          token, maxBlocks, maxPayloadBytes, acceptedContentFormats
          tokenFits, maxBlocksPos, maxPayloadBytesPos
          expectedNumber := 0
          negotiatedSzx := none
          etag := none
          contentFormat := none
          size2 := none
          payload := []
          blocksReceived := 0
          code := none
          complete := false }
      else .error (.valueError "max_payload_bytes must be a positive integer")
    else .error (.valueError "max_blocks must be a positive integer")
  else .error (.valueError "token must contain at most 8 bytes")

/-- SZX for the next request. -/
def szx (acc : Block2Accumulator) : ℕ := acc.negotiatedSzx.getD Coap.blockSzx

def singleEtag (options : List CoapOption) :
    Except SmartThingsLocalError (Option ByteString) :=
  match optionValues options Coap.etag with
  | [] => .ok none
  | [value] =>
      if ¬(1 ≤ value.length ∧ value.length ≤ 8) then .error .blockwiseError
      else .ok (some value)
  | _ => .error .blockwiseError

def uintOption (options : List CoapOption) (number maxLength : ℕ) :
    Except SmartThingsLocalError (Option ℕ) :=
  match decodeUintOption options number maxLength with
  | .error _ => .error .blockwiseError
  | .ok value => .ok value

/-- Number, more flag and SZX of the Block2 option; block 0 without an SZX when it is absent. -/
def blockOption (acc : Block2Accumulator) (options : List CoapOption) :
    Except SmartThingsLocalError (ℕ × Bool × Option ℕ) :=
  match optionValues options Coap.block2 with
  | [] => if acc.expectedNumber > 0 then .error .blockwiseError else .ok (0, false, none)
  | [encoded] =>
      if encoded.length > 3 then .error .blockwiseError
      else
        let (number, more, responseSzx) := blockFields encoded
        if responseSzx > Coap.blockSzx then .error .blockwiseError
        else .ok (number, more != 0, some responseSzx)
  | _ => .error .blockwiseError

/--
The offset after this block, or `none` for a retransmitted earlier one. A block
that advertises a smaller SZX than the request's may still carry a payload of the
requested size.
-/
def blockOffset (acc : Block2Accumulator) (number : ℕ) (more : Bool) (responseSzx : ℕ)
    (payload : ByteString) : Except SmartThingsLocalError (Option ℕ) :=
  let blockSize := 1 <<< (responseSzx + 4)
  let responseOffset := number * blockSize
  let expectedOffset := acc.payload.length
  if responseOffset < expectedOffset then .ok none
  else if responseOffset ≠ expectedOffset then .error .blockwiseError
  else if acc.negotiatedSzx.any
      fun negotiated => responseSzx != negotiated && negotiated < responseSzx then
    .error .blockwiseError
  else
    let requestSzx := acc.szx
    let downshifted := responseSzx < requestSzx
    let payloadLimitSzx := if downshifted then requestSzx else responseSzx
    if payload.length > 1 <<< (payloadLimitSzx + 4) then .error .blockwiseError
    else
      let nextOffset := expectedOffset + payload.length
      if more ∧ (payload = [] ∨ nextOffset % blockSize ≠ 0 ∨
          ¬downshifted ∧ payload.length ≠ blockSize) then
        .error .blockwiseError
      else .ok (some nextOffset)

/-- The representation's metadata after a response: ETag, Content-Format, Size2 and code. -/
structure Metadata where
  etag : Option ByteString
  contentFormat : Option ℕ
  size2 : Option ℕ
  code : Option ℕ
  deriving DecidableEq, Repr

/-- Two values that are both present and differ. -/
def conflicts {α : Type} [DecidableEq α] : Option α → Option α → Bool
  | some value, some known => value != known
  | _, _ => false

def nextMetadata (acc : Block2Accumulator) (message : CoapMessage) :
    Except SmartThingsLocalError Metadata := do
  let etag ← singleEtag message.options
  let contentFormat ← uintOption message.options Coap.contentFormat 2
  let size2 ← uintOption message.options Coap.size2 4
  if acc.acceptedContentFormats.any fun accepted =>
      contentFormat.any fun format => !accepted.contains format then
    .error .blockwiseError
  else if acc.blocksReceived = 0 then
    return { etag, contentFormat, size2, code := some message.code }
  else if some message.code ≠ acc.code then .error .blockwiseError
  else if conflicts etag acc.etag then .error .blockwiseError
  else if conflicts contentFormat acc.contentFormat then .error .blockwiseError
  else
    return {
      etag := etag <|> acc.etag
      contentFormat := contentFormat <|> acc.contentFormat
      size2 := size2 <|> acc.size2
      code := acc.code }

/--
The fields once a 2.xx block is taken in. Only a Block2 option sets `more`, so
there is an SZX where one is needed.
-/
def afterBlock (acc : Block2Accumulator) (message : CoapMessage) (metadata : Metadata)
    (more : Bool) (responseSzx : Option ℕ) (nextOffset : ℕ) : Block2Accumulator :=
  let extended := { acc with
    etag := metadata.etag
    contentFormat := metadata.contentFormat
    size2 := metadata.size2
    negotiatedSzx := responseSzx
    code := metadata.code
    payload := acc.payload ++ message.payload
    blocksReceived := acc.blocksReceived + 1 }
  if more then { extended with expectedNumber := nextOffset / (1 <<< (responseSzx.getD 0 + 4)) }
  else { extended with complete := true }

/-- Take in a 2.xx block that lands at the expected offset. -/
def extend (message : CoapMessage) (more : Bool) (responseSzx : Option ℕ) (nextOffset : ℕ) :
    Stateful SmartThingsLocalError Block2Accumulator Block2Status := do
  let acc ← get
  let metadata ← readOnly (nextMetadata acc message)
  refuseIf .blockwiseError (acc.payload.length + message.payload.length > acc.maxPayloadBytes)
  refuseIf .blockwiseError (acc.blocksReceived ≥ acc.maxBlocks)
  refuseIf .blockwiseError (more ∧ acc.blocksReceived + 1 ≥ acc.maxBlocks)
  set (afterBlock acc message metadata more responseSzx nextOffset)
  return if more then .continued else .complete

/-- The fields once a non-success response has replaced what was assembled. -/
def afterDiagnostic (acc : Block2Accumulator) (message : CoapMessage) : Block2Accumulator :=
  { acc with
    code := some message.code
    payload := message.payload
    blocksReceived := acc.blocksReceived + 1
    complete := true }

/-- Add one correlated response. -/
def addResponse (message : CoapMessage) :
    Stateful SmartThingsLocalError Block2Accumulator Block2Status := do
  let acc ← get
  refuseIf .blockwiseError (acc.complete = true)
  refuseIf .blockwiseError (message.token ≠ acc.token)
  refuseIf .blockwiseError (message.mtype ∉ [Coap.typeCon, Coap.typeNon, Coap.typeAck])
  refuseIf .blockwiseError (message.code = 0)
  if message.code >>> 5 ≠ 2 then
    refuseIf .blockwiseError (message.payload.length > acc.maxPayloadBytes)
    set (afterDiagnostic acc message)
    return .complete
  else
    let (number, more, responseSzx) ← readOnly (blockOption acc message.options)
    match responseSzx with
    | none => extend message more none message.payload.length
    | some szx =>
        match ← readOnly (blockOffset acc number more szx message.payload) with
        | none => return .duplicate
        | some nextOffset => extend message more (some szx) nextOffset

/-- `add_response` on an accumulator: what it returned or raised, and its fields afterwards. -/
def respond (acc : Block2Accumulator) (message : CoapMessage) :
    Except SmartThingsLocalError Block2Status × Block2Accumulator :=
  exec (addResponse message) acc

/-- Successive responses: what each call returned or raised, and the accumulator afterwards. -/
def respondAll (acc : Block2Accumulator) :
    List CoapMessage → List (Except SmartThingsLocalError Block2Status) × Block2Accumulator
  | [] => ([], acc)
  | message :: messages =>
      let (outcome, next) := acc.respond message
      let (outcomes, last) := next.respondAll messages
      (outcome :: outcomes, last)

end Block2Accumulator

end SmartThingsLocal
