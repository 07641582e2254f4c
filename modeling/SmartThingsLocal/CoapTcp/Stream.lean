import SmartThingsLocal.CoapTcp.CodecExact
import SmartThingsLocal.Foundation.Framing

/-!
# CoAP over TCP: the stream decoder

`CoapTcpStreamDecoder` of `protocol/coap_tcp.py`, and what one `feed` call does:
it scans the bytes kept from earlier calls together with the new chunk. There is
one exception. The octet that completes a bad length field is not examined while
it is the last of its chunk, so that failure surfaces at the next call.
-/

namespace SmartThingsLocal

namespace CoapTcp

open Fallible

/-! ### The size announced by a frame prefix -/

/-- Size of the length field that starts with a given octet. -/
def headerSize (first : UInt8) : ℕ := 1 + extensionSize (first.toNat >>> 4)

/-- What a complete length field announces. -/
def announcedSize (maximum : ℕ) (header : ByteString) (tokenLength : ℕ) :
    Except CoapTcpCodecError (Option ℕ) :=
  decodeLength header >>= fun length =>
    let frameSize := header.length + 1 + tokenLength + length.1
    if frameSize > maximum then .error (.declaredExceeds frameSize maximum)
    else .ok (some frameSize)

theorem headerSize_pos (first : UInt8) : 0 < headerSize first := by
  unfold headerSize
  omega

theorem headerSize_le (first : UInt8) : headerSize first ≤ 5 := by
  unfold headerSize extensionSize
  split_ifs <;> omega

/-- Only the length field decides what is announced. -/
theorem frameSizeFromPrefix_cons (maximum : ℕ) (first : UInt8) (rest : ByteString) :
    frameSizeFromPrefix maximum (first :: rest) =
      if first.toNat &&& 0x0F > maxTokenLength then .error .tokenTooLong
      else if (first :: rest).length < headerSize first then .ok none
      else announcedSize maximum ((first :: rest).take (headerSize first))
        (first.toNat &&& 0x0F) := by
  have header : 1 + extensionSize (first.toNat >>> 4) = headerSize first := rfl
  simp only [frameSizeFromPrefix, announcedSize, header]
  split_ifs with _ short
  · rfl
  · rfl
  · have size : ((first :: rest).take (headerSize first)).length = headerSize first := by
      rw [List.length_take]
      omega
    rw [size]
    cases decodeLength ((first :: rest).take (headerSize first)) <;> rfl

theorem announcedSize_eq_some {maximum tokenLength announced : ℕ} {header : ByteString}
    (sized : announcedSize maximum header tokenLength = .ok (some announced)) :
    header.length < announced ∧ announced ≤ maximum := by
  rcases bind_eq_ok.mp sized with ⟨length, _, bounded⟩
  rcases ite_error_eq_ok.mp bounded with ⟨fits, same⟩
  cases same
  omega

theorem announcedSize_ne_none {maximum tokenLength : ℕ} {header : ByteString} :
    announcedSize maximum header tokenLength ≠ .ok none := by
  intro sized
  rcases bind_eq_ok.mp sized with ⟨length, _, bounded⟩
  cases (ite_error_eq_ok.mp bounded).2

theorem frameSizeFromPrefix_eq_none {maximum : ℕ} {first : UInt8} {rest : ByteString}
    (waiting : frameSizeFromPrefix maximum (first :: rest) = .ok none) :
    (first :: rest).length < headerSize first := by
  rw [frameSizeFromPrefix_cons] at waiting
  split_ifs at waiting with _ short
  · exact short
  · exact absurd waiting announcedSize_ne_none

theorem frameSizeFromPrefix_eq_some {maximum announced : ℕ} {first : UInt8} {rest : ByteString}
    (sized : frameSizeFromPrefix maximum (first :: rest) = .ok (some announced)) :
    headerSize first < announced ∧ announced ≤ maximum := by
  rw [frameSizeFromPrefix_cons] at sized
  split_ifs at sized with _ short
  · cases sized
  · rcases announcedSize_eq_some sized with ⟨beyond, fits⟩
    rw [List.length_take, Nat.min_eq_left (not_lt.mp short)] at beyond
    exact ⟨beyond, fits⟩

theorem frameSizeFromPrefix_append {maximum : ℕ} {buffer : ByteString}
    (known : frameSizeFromPrefix maximum buffer ≠ .ok none) (more : ByteString) :
    frameSizeFromPrefix maximum (buffer ++ more) = frameSizeFromPrefix maximum buffer := by
  cases buffer with
  | nil => exact absurd rfl known
  | cons first rest =>
      rw [List.cons_append, frameSizeFromPrefix_cons]
      rw [frameSizeFromPrefix_cons] at known ⊢
      by_cases tooLong : first.toNat &&& 0x0F > maxTokenLength
      · rw [if_pos tooLong, if_pos tooLong]
      · by_cases short : (first :: rest).length < headerSize first
        · rw [if_neg tooLong, if_pos short] at known
          exact absurd rfl known
        · have longer : ¬(first :: (rest ++ more)).length < headerSize first := by
            simp only [List.length_cons, List.length_append] at short ⊢
            omega
          rw [if_neg tooLong, if_neg tooLong, if_neg short, if_neg longer, ← List.cons_append,
            List.take_append_of_le_length (not_lt.mp short)]

/-- The frames of a stream under one message size. -/
def frameCode (maximum : ℕ) : FrameCode CoapTcpCodecError CoapTcpMessage where
  size := frameSizeFromPrefix maximum
  decode frame := parseCoapTcpMessage frame maximum
  size_nil := rfl
  size_append := frameSizeFromPrefix_append
  header_lt := by
    intro buffer byte announced waiting sized
    cases buffer with
    | nil =>
        have := frameSizeFromPrefix_eq_some sized
        have := headerSize_pos byte
        simp only [List.length_nil]
        omega
    | cons first rest =>
        have := frameSizeFromPrefix_eq_none waiting
        have := frameSizeFromPrefix_eq_some sized
        omega

/-- A message the parser accepts is one frame of the stream. -/
theorem isFrame_of_parse {maximum : ℕ} {frame : ByteString} {message : CoapTcpMessage}
    (parsed : parseCoapTcpMessage frame maximum = .ok message) :
    (frameCode maximum).IsFrame frame message := by
  refine ⟨?_, parsed⟩
  rcases parseCoapTcpMessage_iff.mp parsed with ⟨_, wellFormed, rfl, fits⟩
  have tokenFits := wellFormed.token_length_le
  have lowFits : message.token.length < 16 := tokenFits.trans_lt (by decide)
  have token := ByteString.ofNibbles_and (lengthNibble_lt message.body.length) lowFits
  have header : headerSize (ByteString.ofNibbles (lengthNibble message.body.length)
      message.token.length) = (lengthField message.body.length message.token.length).length := by
    rw [headerSize, ByteString.ofNibbles_shiftRight (lengthNibble_lt _) lowFits,
      ← length_lengthExtension, lengthField, List.length_cons, Nat.add_comm]
  have decoded := decodeLength_lengthField wellFormed.body_length_le tokenFits []
  rw [List.append_nil] at decoded
  have size : message.wireBytes.length =
      (lengthField message.body.length message.token.length).length + 1 +
        message.token.length + message.body.length := length_wireBytes message
  have taken : message.wireBytes.take
      (lengthField message.body.length message.token.length).length =
        lengthField message.body.length message.token.length := List.take_left
  change frameSizeFromPrefix maximum (_ :: _) = _
  rw [frameSizeFromPrefix_cons, token, if_neg (not_lt.mpr tokenFits), header]
  change (if message.wireBytes.length < _ then _ else
    announcedSize maximum (message.wireBytes.take _) _) = _
  rw [if_neg (by omega), taken, announcedSize, decoded, ok_bind, if_neg (by omega), size]

/-! ### The decoder -/

/-- The decoder's configuration and the bytes it keeps of one incomplete frame. -/
structure CoapTcpStreamDecoder where
  maxMessageSize : ℕ
  maxAccepted : MaxAccepted maxMessageSize
  buffer : ByteString

/--
The loop of `feed`: the messages it returns or the error it raises, and the buffer
it leaves. An announced size always exceeds a buffered prefix, so the subtraction
below is exact.
-/
def feedLoop (maximum : ℕ) (messages : List CoapTcpMessage) (buffer chunk : ByteString) :
    Except CoapTcpCodecError (List CoapTcpMessage) × ByteString :=
  match chunk with
  | [] => (.ok messages, buffer)
  | byte :: afterByte =>
      if buffer ≠ [] then
        match frameSizeFromPrefix maximum buffer with
        | .error error => (.error error, [])
        | .ok none => feedLoop maximum messages (buffer ++ [byte]) afterByte
        | .ok (some frameSize) =>
            let take := min (frameSize - buffer.length) (byte :: afterByte).length
            let extended := buffer ++ (byte :: afterByte).take take
            if extended.length < frameSize then (.ok messages, extended)
            else
              match parseCoapTcpMessage extended maximum with
              | .error error => (.error error, [])
              | .ok message =>
                  feedLoop maximum (messages ++ [message]) [] ((byte :: afterByte).drop take)
      else
        match _sized : frameSizeFromPrefix maximum (byte :: afterByte) with
        | .error error => (.error error, [])
        | .ok none => (.ok messages, byte :: afterByte)
        | .ok (some frameSize) =>
            if (byte :: afterByte).length < frameSize then (.ok messages, byte :: afterByte)
            else
              match parseCoapTcpMessage ((byte :: afterByte).take frameSize) maximum with
              | .error error => (.error error, [])
              | .ok message =>
                  feedLoop maximum (messages ++ [message]) [] ((byte :: afterByte).drop frameSize)
termination_by 2 * chunk.length + (if buffer = [] then 0 else 1)
decreasing_by
  · simp only [List.length_cons]
    split_ifs <;> omega
  · simp_all only [List.length_drop, List.length_cons, if_true, if_false]
    omega
  · have := (frameSizeFromPrefix_eq_some _sized).1
    simp_all only [List.length_drop, List.length_cons, if_true]
    omega

namespace CoapTcpStreamDecoder

theorem maxAccepted_of_validate {value maximum : ℕ}
    (validated : validateMaxMessageSize value = .ok maximum) : MaxAccepted maximum := by
  rcases validateInt_eq_ok.mp validated with ⟨accepted, rfl⟩
  exact accepted

/-- A fresh decoder for a message size that is accepted. -/
def create (maxMessageSize : ℕ) : Except CoapTcpCodecError CoapTcpStreamDecoder :=
  match validated : validateMaxMessageSize maxMessageSize with
  | .error error => .error error
  | .ok maximum => .ok ⟨maximum, maxAccepted_of_validate validated, []⟩

def bufferedBytes (decoder : CoapTcpStreamDecoder) : ℕ := decoder.buffer.length

/-- Discard an incomplete frame. -/
def reset (decoder : CoapTcpStreamDecoder) : CoapTcpStreamDecoder :=
  { decoder with buffer := [] }

/-- Consume a stream chunk. -/
def feed (decoder : CoapTcpStreamDecoder) (data : ByteString) :
    Except CoapTcpCodecError (List CoapTcpMessage) × CoapTcpStreamDecoder :=
  let (outcome, buffer) := feedLoop decoder.maxMessageSize [] decoder.buffer data
  (outcome, { decoder with buffer := buffer })

/-- Accept end-of-stream only when no partial message remains. -/
def finish (decoder : CoapTcpStreamDecoder) :
    Except CoapTcpCodecError Unit × CoapTcpStreamDecoder :=
  if decoder.buffer ≠ [] then (.error .truncatedStream, decoder.reset)
  else (.ok (), decoder)

/-- Successive `feed` calls: what each returned or raised, and the decoder afterwards. -/
def feedAll (decoder : CoapTcpStreamDecoder) :
    List ByteString → List (Except CoapTcpCodecError (List CoapTcpMessage)) × CoapTcpStreamDecoder
  | [] => ([], decoder)
  | chunk :: rest =>
      let (outcome, next) := decoder.feed chunk
      let (outcomes, last) := next.feedAll rest
      (outcome :: outcomes, last)

end CoapTcpStreamDecoder

end CoapTcp

end SmartThingsLocal
