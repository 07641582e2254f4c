import SmartThingsLocal.Coap.DatagramCodec

/-!
# Requests and response classification

The GET builder of `protocol/coap.py` and the socket-independent classification
of a received datagram: `build_get_request`, `build_empty_ack` and
`classify_coap_response`.
-/

namespace SmartThingsLocal

/-- The bare ACK of a confirmable response. -/
def buildEmptyAck (mid : ℕ) : Except PythonError ByteString :=
  buildCoap Coap.typeAck 0 mid [] [] []

/-- Text option values are sent in UTF-8. -/
def optionBytesOf (value : String) : ByteString := value.toUTF8.toList

/-- Build a GET with optional query, Block2 and extension options. -/
def buildGetRequest (mtype mid : ℕ) (token : ByteString) (pathSegs query : List String)
    (accept : Option ByteString) (blockNumber : Option ℕ) (blockSzx : ℕ)
    (extraOptions : List CoapOption) : Except PythonError ByteString := do
  let options := pathSegs.map (fun segment => (Coap.uriPath, optionBytesOf segment)) ++
    query.map (fun value => (Coap.uriQuery, optionBytesOf value)) ++
    accept.toList.map (fun value => (Coap.accept, value))
  let block ←
    match blockNumber with
    | none => pure []
    | some number =>
        if blockSzx > Coap.blockSzx then
          .error (.valueError "block_szx must be between 0 and 6")
        else (blockValue number 0 blockSzx).map fun value => [(Coap.block2, value)]
  buildCoap mtype Coap.methodGet mid token (options ++ block ++ extraOptions) []

/-- The outcomes of `classify_coap_response`. -/
inductive ResponseKind
  | ignore
  | emptyAck
  | reset
  | response
  deriving DecidableEq, Repr

structure CoapResponseClassification where
  kind : ResponseKind
  message : CoapMessage
  acknowledgement : Option ByteString
  deriving DecidableEq, Repr

/-- Classify a received datagram; a decoded Message ID always has a bare ACK. -/
def classifyCoapResponse (datagram : ByteString) (token : Option ByteString)
    (requestMid : Option ℕ) : Except SmartThingsLocalError CoapResponseClassification :=
  match parseCoap datagram with
  | .error error => .error error
  | .ok message =>
      if message.mtype ∈ [Coap.typeAck, Coap.typeRst] ∧ message.code = 0 then
        if message.token ≠ [] ∨ message.options ≠ [] ∨ message.payload ≠ [] then
          .error .malformedMessageError
        else if requestMid.any (· != message.mid) then .ok ⟨.ignore, message, none⟩
        else if message.mtype = Coap.typeAck then .ok ⟨.emptyAck, message, none⟩
        else .ok ⟨.reset, message, none⟩
      else if message.mtype = Coap.typeRst then .error .malformedMessageError
      else
        let acknowledgement :=
          if message.mtype = Coap.typeCon then (buildEmptyAck message.mid).toOption else none
        if message.mtype ∉ [Coap.typeCon, Coap.typeNon, Coap.typeAck] then
          .ok ⟨.ignore, message, acknowledgement⟩
        else if message.code = 0 then .ok ⟨.ignore, message, acknowledgement⟩
        else if token.any (· != message.token) then .ok ⟨.ignore, message, acknowledgement⟩
        else if message.mtype = Coap.typeAck ∧ requestMid.any (· != message.mid) then
          .ok ⟨.ignore, message, none⟩
        else .ok ⟨.response, message, acknowledgement⟩

/-- A response carries the token that was asked for. -/
theorem token_of_response {datagram token : ByteString} {requestMid : Option ℕ}
    {classification : CoapResponseClassification}
    (classified : classifyCoapResponse datagram (some token) requestMid = .ok classification)
    (isResponse : classification.kind = .response) : classification.message.token = token := by
  unfold classifyCoapResponse at classified
  split at classified
  · cases classified
  · rename_i message _
    by_cases same : message.token = token
    · split_ifs at classified <;> cases classified <;> exact same
    · have mismatch : (some token).any (· != message.token) = true := by
        simpa using Ne.symm same
      simp only [mismatch, if_true] at classified
      split_ifs at classified <;> cases classified <;> cases isResponse

end SmartThingsLocal
