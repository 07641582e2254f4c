import SmartThingsLocal.CoapTcp.Stream

/-!
# Stream framing is exact

One `feed` call scans what earlier calls left together with its chunk, so a run
of calls scans the whole stream, however it was cut. On a stream of valid frames
nothing is rejected, which leaves the frames' messages in order and the bytes of
the unfinished frame.
-/

namespace SmartThingsLocal

namespace CoapTcp

open FrameCode

variable {maximum : ℕ} {messages : List CoapTcpMessage} {buffer chunk : ByteString}

/-! ### One call -/

/-- What a call returns and keeps after scanning its stream. -/
def afterScan (messages : List CoapTcpMessage) :
    List CoapTcpMessage × Except CoapTcpCodecError ByteString →
      Except CoapTcpCodecError (List CoapTcpMessage) × ByteString
  | (found, .ok rest) => (.ok (messages ++ found), rest)
  | (_, .error error) => (.error error, [])

theorem afterScan_cons (messages : List CoapTcpMessage) (message : CoapTcpMessage)
    (scanned : List CoapTcpMessage × Except CoapTcpCodecError ByteString) :
    afterScan messages (message :: scanned.1, scanned.2) =
      afterScan (messages ++ [message]) scanned := by
  rcases scanned with ⟨found, _ | rest⟩ <;> simp [afterScan]

theorem feedLoop_nil (maximum : ℕ) (messages : List CoapTcpMessage) (buffer : ByteString) :
    feedLoop maximum messages buffer [] = (.ok messages, buffer) := by
  rw [feedLoop]

/-- With nothing buffered a call scans its chunk. -/
theorem feedLoop_direct (maximum : ℕ) (messages : List CoapTcpMessage) (chunk : ByteString) :
    feedLoop maximum messages [] chunk =
      afterScan messages ((frameCode maximum).scan chunk) := by
  induction remaining : chunk.length using Nat.strongRecOn generalizing chunk messages with
  | ind length ih =>
      cases chunk with
      | nil =>
          rw [feedLoop_nil, scan_of_pending pending_nil]
          simp [afterScan]
      | cons byte afterByte =>
          rw [feedLoop, if_neg (by simp)]
          rcases (frameCode maximum).stream_cases (byte :: afterByte) with
            pending | ⟨error, rejected⟩ | ⟨frame, tail, message, shape, sized, decoded⟩
          · rw [scan_of_pending pending]
            rcases pending with waiting | ⟨announced, sized, short⟩
            · simp only [frameCode] at waiting
              split <;> simp_all [afterScan]
            · simp only [frameCode] at sized
              split <;> simp_all [afterScan]
          · rw [scan_of_rejected rejected]
            rcases rejected with failed | ⟨announced, sized, complete, failed⟩
            · simp only [frameCode] at failed
              split <;> simp_all [afterScan]
            · simp only [frameCode] at sized failed
              split
              · simp_all
              · simp_all
              · rename_i other otherSized
                rw [sized] at otherSized
                cases otherSized
                rw [if_neg (not_lt.mpr complete), failed]
                rfl
          · have positive := size_pos sized
            rw [scan_of_frame sized shape decoded, afterScan_cons]
            simp only [frameCode] at sized decoded
            split
            · simp_all
            · simp_all
            · rename_i other otherSized
              rw [sized] at otherSized
              cases otherSized
              have frameFits : ¬(byte :: afterByte).length < frame.length := by
                rw [shape, List.length_append]
                omega
              rw [if_neg frameFits, shape, List.take_left, List.drop_left, decoded]
              refine ih tail.length ?_ (messages ++ [message]) tail rfl
              rw [← remaining, shape, List.length_append]
              omega

/-- A buffered length field that is already known to be bad fails the next call. -/
theorem feedLoop_of_bad_buffer {error : CoapTcpCodecError} (nonempty : buffer ≠ [])
    (bad : frameSizeFromPrefix maximum buffer = .error error) (more : chunk ≠ []) :
    feedLoop maximum messages buffer chunk = (.error error, []) := by
  rcases List.exists_cons_of_ne_nil more with ⟨byte, afterByte, rfl⟩
  rw [feedLoop, if_pos nonempty, bad]

/-- The bytes a call takes from its chunk complete the frame or are all there is. -/
theorem buffered_extension (buffer chunk : ByteString) (frameSize : ℕ)
    (short : buffer.length < frameSize) :
    buffer ++ chunk.take (min (frameSize - buffer.length) chunk.length) =
      (buffer ++ chunk).take frameSize := by
  rw [List.take_append, List.take_of_length_le short.le]
  congr 1
  by_cases enough : frameSize - buffer.length ≤ chunk.length
  · rw [Nat.min_eq_left enough]
  · rw [Nat.min_eq_right (by omega), List.take_length, List.take_of_length_le (by omega)]

/-- A bad length field whose last octet was the last one of a chunk. -/
def LateHeader (maximum : ℕ) (buffer : ByteString) : Prop :=
  (∃ error, frameSizeFromPrefix maximum buffer = .error error) ∧
    frameSizeFromPrefix maximum buffer.dropLast = .ok none

/-- Once the size of the frame is known, the rest of the frame is taken from the chunk. -/
theorem feedLoop_of_sized {announced : ℕ} (messages : List CoapTcpMessage) (byte : UInt8)
    (afterByte : ByteString) (nonempty : buffer ≠ [])
    (sized : frameSizeFromPrefix maximum buffer = .ok (some announced))
    (short : buffer.length < announced) :
    feedLoop maximum messages buffer (byte :: afterByte) =
      afterScan messages ((frameCode maximum).scan (buffer ++ byte :: afterByte)) := by
  have sizedMore : (frameCode maximum).size (buffer ++ byte :: afterByte) =
      .ok (some announced) := by
    rw [(frameCode maximum).size_append (by simp [frameCode, sized]), ← sized]
    rfl
  rw [feedLoop, if_pos nonempty, sized]
  dsimp only
  rw [buffered_extension buffer (byte :: afterByte) announced short, List.length_take]
  by_cases incomplete : (buffer ++ byte :: afterByte).length < announced
  · rw [if_pos (by omega), List.take_of_length_le incomplete.le,
      scan_of_pending (.inr ⟨announced, sizedMore, incomplete⟩)]
    simp [afterScan]
  · have complete := not_lt.mp incomplete
    have enough : announced - buffer.length ≤ (byte :: afterByte).length := by
      rw [List.length_append] at complete
      omega
    have dropped : (byte :: afterByte).drop
        (min (announced - buffer.length) (byte :: afterByte).length) =
          (buffer ++ byte :: afterByte).drop announced := by
      rw [Nat.min_eq_left enough, List.drop_append, List.drop_of_length_le short.le,
        List.nil_append]
    rw [if_neg (by omega), dropped]
    cases decoded : parseCoapTcpMessage ((buffer ++ byte :: afterByte).take announced)
      maximum with
    | error error =>
        rw [scan_of_rejected (.inr ⟨announced, sizedMore, complete, decoded⟩)]
        rfl
    | ok message =>
        have takenLength : ((buffer ++ byte :: afterByte).take announced).length =
            announced := by
          rw [List.length_take, Nat.min_eq_left complete]
        rw [← takenLength] at sizedMore
        rw [scan_of_frame sizedMore (List.take_append_drop _ _).symm decoded,
          afterScan_cons]
        exact feedLoop_direct maximum (messages ++ [message]) _

/-- A call scans its buffer and its chunk, unless the chunk ends in a bad length field. -/
theorem feedLoop_buffered (messages : List CoapTcpMessage) (chunk : ByteString)
    (pending : (frameCode maximum).Pending buffer) :
    feedLoop maximum messages buffer chunk =
        afterScan messages ((frameCode maximum).scan (buffer ++ chunk)) ∨
      LateHeader maximum (buffer ++ chunk) ∧ buffer ≠ [] ∧
        feedLoop maximum messages buffer chunk = (.ok messages, buffer ++ chunk) := by
  induction chunk generalizing buffer with
  | nil =>
      left
      rw [feedLoop_nil, List.append_nil, scan_of_pending pending]
      simp [afterScan]
  | cons byte afterByte ih =>
      by_cases nonempty : buffer = []
      · subst nonempty
        exact .inl (feedLoop_direct maximum messages _)
      · have whole : buffer ++ byte :: afterByte = (buffer ++ [byte]) ++ afterByte := by simp
        rcases pending with waiting | ⟨announced, sized, short⟩
        · have unfolded : feedLoop maximum messages buffer (byte :: afterByte) =
              feedLoop maximum messages (buffer ++ [byte]) afterByte := by
            simp only [frameCode] at waiting
            rw [feedLoop, if_pos nonempty, waiting]
          rw [unfolded, whole]
          have extendedNonempty : buffer ++ [byte] ≠ [] := by simp
          cases extended : frameSizeFromPrefix maximum (buffer ++ [byte]) with
          | ok size =>
              have stillPending : (frameCode maximum).Pending (buffer ++ [byte]) := by
                cases size with
                | none => exact .inl extended
                | some announced =>
                    refine .inr ⟨announced, extended, ?_⟩
                    have := (frameCode maximum).header_lt waiting extended
                    simpa using this
              exact (ih stillPending).imp_right fun late => ⟨late.1, nonempty, late.2.2⟩
          | error error =>
              by_cases more : afterByte = []
              · subst more
                refine .inr ⟨⟨⟨error, by simpa using extended⟩, ?_⟩, nonempty, ?_⟩
                · rw [List.append_nil, List.dropLast_concat]
                  exact waiting
                · rw [feedLoop_nil, List.append_nil]
              · left
                have rejected : (frameCode maximum).Rejected (buffer ++ [byte]) error :=
                  .inl extended
                rw [feedLoop_of_bad_buffer extendedNonempty extended more,
                  scan_of_rejected (rejected_append rejected afterByte)]
                rfl
        · exact .inl (feedLoop_of_sized messages byte afterByte nonempty sized short)

/-! ### What is kept between calls -/

/-- The buffers a decoder can hold between calls. -/
def Held (maximum : ℕ) (buffer : ByteString) : Prop :=
  (frameCode maximum).Pending buffer ∨ LateHeader maximum buffer

theorem feedLoop_held (held : Held maximum buffer) :
    Held maximum (feedLoop maximum messages buffer chunk).2 := by
  rcases held with pending | late
  · rcases feedLoop_buffered messages chunk pending with scanned | late
    · rw [scanned]
      generalize result : (frameCode maximum).scan (buffer ++ chunk) = outcome
      rcases outcome with ⟨found, _ | rest⟩
      · exact .inl pending_nil
      · exact .inl (pending_of_scan result)
    · rw [late.2.2]
      exact .inr late.1
  · by_cases empty : chunk = []
    · rw [empty, feedLoop_nil]
      exact .inr late
    · rcases late with ⟨⟨error, bad⟩, _⟩
      have nonempty : buffer ≠ [] := by
        rintro rfl
        cases bad
      rw [feedLoop_of_bad_buffer nonempty bad empty]
      exact .inl pending_nil

theorem length_of_waiting (waiting : frameSizeFromPrefix maximum buffer = .ok none) :
    buffer.length < 5 := by
  cases buffer with
  | nil => simp
  | cons first rest =>
      exact (frameSizeFromPrefix_eq_none waiting).trans_le (headerSize_le first)

theorem length_of_held (held : Held maximum buffer) : buffer.length ≤ max (maximum - 1) 5 := by
  rcases held with (waiting | ⟨announced, sized, short⟩) | ⟨_, waiting⟩
  · have := length_of_waiting waiting
    omega
  · have fits : announced ≤ maximum := by
      cases buffer with
      | nil => cases sized
      | cons first rest => exact (frameSizeFromPrefix_eq_some sized).2
    omega
  · have := length_of_waiting waiting
    rw [List.length_dropLast] at this
    omega

/-! ### Successive calls -/

namespace CoapTcpStreamDecoder

variable {decoder : CoapTcpStreamDecoder} {chunks : List ByteString}

theorem feedAll_cons (decoder : CoapTcpStreamDecoder) (chunk : ByteString)
    (chunks : List ByteString) :
    decoder.feedAll (chunk :: chunks) =
      ((decoder.feed chunk).1 :: ((decoder.feed chunk).2.feedAll chunks).1,
        ((decoder.feed chunk).2.feedAll chunks).2) := rfl

theorem feedAll_held (held : Held decoder.maxMessageSize decoder.buffer)
    (chunks : List ByteString) :
    Held decoder.maxMessageSize (decoder.feedAll chunks).2.buffer := by
  induction chunks generalizing decoder with
  | nil => exact held
  | cons chunk chunks ih =>
      rw [feedAll_cons]
      exact @ih (decoder.feed chunk).2 (feedLoop_held held)

theorem feed_of_accepted {chunk rest : ByteString} {found : List CoapTcpMessage}
    (pending : (frameCode decoder.maxMessageSize).Pending decoder.buffer)
    (scanned : (frameCode decoder.maxMessageSize).scan (decoder.buffer ++ chunk) =
      (found, .ok rest)) :
    decoder.feed chunk = (.ok found, { decoder with buffer := rest }) := by
  rcases feedLoop_buffered [] chunk pending with direct | late
  · rw [feed, direct, scanned]
    simp [afterScan]
  · rcases late.1 with ⟨⟨error, bad⟩, _⟩
    rw [scan_of_rejected (.inl bad)] at scanned
    cases scanned

/-- Calls over a stream without a rejected frame scan it as a whole. -/
theorem feedAll_of_accepted {rest : ByteString} {found : List CoapTcpMessage}
    (pending : (frameCode decoder.maxMessageSize).Pending decoder.buffer)
    (scanned : (frameCode decoder.maxMessageSize).scan (decoder.buffer ++ chunks.flatten) =
      (found, .ok rest)) :
    ∃ returned : List (List CoapTcpMessage),
      decoder.feedAll chunks = (returned.map .ok, { decoder with buffer := rest }) ∧
        returned.flatten = found := by
  induction chunks generalizing decoder found with
  | nil =>
      rw [List.flatten_nil, List.append_nil, scan_of_pending pending] at scanned
      cases scanned
      exact ⟨[], rfl, rfl⟩
  | cons chunk chunks ih =>
      rw [List.flatten_cons, ← List.append_assoc, scan_append] at scanned
      generalize first : (frameCode decoder.maxMessageSize).scan (decoder.buffer ++ chunk) =
        outcome at scanned
      rcases outcome with ⟨firstFound, _ | kept⟩
      · cases scanned
      · rcases Prod.mk.inj scanned with ⟨foundSplit, restKept⟩
        rcases @ih { decoder with buffer := kept } _
          (pending_of_scan first) (Prod.ext rfl restKept) with
          ⟨returned, run, collected⟩
        refine ⟨firstFound :: returned, ?_, ?_⟩
        · rw [feedAll_cons, feed_of_accepted pending first, run]
          rfl
        · rw [List.flatten_cons, collected]
          exact foundSplit

theorem create_eq_ok {maxMessageSize : ℕ} (created : create maxMessageSize = .ok decoder) :
    decoder.maxMessageSize = maxMessageSize ∧ decoder.buffer = [] := by
  unfold create at created
  split at created
  · cases created
  · rename_i maximum validated
    rcases validateInt_eq_ok.mp validated with ⟨_, rfl⟩
    cases created
    exact ⟨rfl, rfl⟩

/--
However a stream of valid frames and an unfinished one is cut into chunks, the
calls return the frames' messages in order and keep exactly the unfinished bytes.
-/
theorem feedAll_segmentation_independent {maxMessageSize : ℕ}
    (created : create maxMessageSize = .ok decoder)
    {frames : List ByteString} {messages : List CoapTcpMessage}
    (parsed : List.Forall₂
      (fun frame message => parseCoapTcpMessage frame maxMessageSize = .ok message) frames messages)
    {unfinished next : ByteString} {nextMessage : CoapTcpMessage}
    (nextParsed : parseCoapTcpMessage next maxMessageSize = .ok nextMessage)
    (isPrefix : unfinished <+: next) (proper : unfinished ≠ next)
    (cut : chunks.flatten = frames.flatten ++ unfinished) :
    (∃ returned : List (List CoapTcpMessage),
      (decoder.feedAll chunks).1 = returned.map .ok ∧ returned.flatten = messages) ∧
    (decoder.feedAll chunks).2.bufferedBytes = unfinished.length ∧
    ((∃ error, (decoder.feedAll chunks).2.finish.1 = .error error) ↔ unfinished ≠ []) ∧
    ∀ calls, (decoder.feedAll (chunks.take calls)).2.bufferedBytes ≤
      max (maxMessageSize - 1) 5 := by
  rcases create_eq_ok created with ⟨rfl, fresh⟩
  have scanned : (frameCode decoder.maxMessageSize).scan (decoder.buffer ++ chunks.flatten) =
      (messages, .ok unfinished) := by
    rw [fresh, List.nil_append, cut,
      scan_frames (parsed.imp fun _ _ frameParsed => isFrame_of_parse frameParsed),
      scan_of_pending (pending_of_isPrefix (isFrame_of_parse nextParsed) isPrefix proper)]
    simp
  have pending : (frameCode decoder.maxMessageSize).Pending decoder.buffer := by
    rw [fresh]
    exact pending_nil
  rcases feedAll_of_accepted pending scanned with ⟨returned, run, collected⟩
  refine ⟨⟨returned, by rw [run], collected⟩, by rw [run]; rfl, ?_, fun calls => ?_⟩
  · rw [run, finish]
    by_cases empty : unfinished = [] <;> simp [empty]
  · exact length_of_held (feedAll_held (.inl pending) (chunks.take calls))

/-- Two frames and a third one's length octet, cut inside the second frame. -/
theorem feedAll_segmentation_independent_example :
    ∃ decoder, create 16 = .ok decoder ∧
      (decoder.feedAll [[0x00, 0x45, 0x10], [], [0x45, 0x60, 0x20]]).2.bufferedBytes = 1 := by
  refine ⟨⟨16, by decide, []⟩, rfl, ?_⟩
  have parsed : List.Forall₂
      (fun frame message => parseCoapTcpMessage frame 16 = .ok message)
      [[0x00, 0x45], [0x10, 0x45, 0x60]] [⟨0x45, [], [], []⟩, ⟨0x45, [], [(6, [])], []⟩] :=
    .cons (by decide +kernel) (.cons (by decide +kernel) .nil)
  have nextParsed : parseCoapTcpMessage [0x20, 0x45, 0x61, 0x05] 16 =
      .ok ⟨0x45, [], [(6, [5])], []⟩ := by decide +kernel
  have run := @feedAll_segmentation_independent ⟨16, by decide, []⟩
    [[0x00, 0x45, 0x10], [], [0x45, 0x60, 0x20]] 16 rfl _ _ parsed [0x20] _ _ nextParsed
    (by decide) (by decide) rfl
  exact run.2.1

end CoapTcpStreamDecoder

end CoapTcp

end SmartThingsLocal
