import SmartThingsLocal.CoapTcp.StreamExact

/-!
# Frames ahead of a malformed one

A call that raises returns nothing, so the messages it had already parsed are
gone with it. A call loses a frame exactly when the chunk that completes the last
valid frame goes far enough into the malformed one to show that it is malformed.
-/

namespace SmartThingsLocal

namespace CoapTcp

open FrameCode CoapTcpStreamDecoder

/-- What the calls returned; a call that raises returns nothing. -/
def delivered (outcomes : List (Except CoapTcpCodecError (List CoapTcpMessage))) :
    List CoapTcpMessage :=
  (outcomes.map fun outcome => outcome.toOption.getD []).flatten

/-- What the calls ahead of the first one that raises returned. -/
def deliveredBeforeError :
    List (Except CoapTcpCodecError (List CoapTcpMessage)) → List CoapTcpMessage
  | .ok messages :: outcomes => messages ++ deliveredBeforeError outcomes
  | _ => []

/--
Every valid frame is returned by the call that completed it or an earlier one, and
the calls ahead of the first error return all of them.
-/
def NoFrameLost (frames : List ByteString) (messages : List CoapTcpMessage)
    (chunks : List ByteString)
    (outcomes : List (Except CoapTcpCodecError (List CoapTcpMessage))) : Prop :=
  (∀ count calls,
    (frames.take count).flatten.length ≤ (chunks.take calls).flatten.length →
      messages.take count <+: delivered (outcomes.take calls)) ∧
    deliveredBeforeError outcomes = messages

/-- The bytes read so far start with a frame that is known to be malformed or oversized. -/
def ShowsMalformed (maximum : ℕ) (data : ByteString) : Prop :=
  ∃ error, (frameCode maximum).Rejected data error

/-- What follows a position of the stream in the chunk that reaches the position. -/
def sharedPart (boundary : ℕ) : List ByteString → ByteString
  | [] => []
  | chunk :: chunks =>
      if boundary ≤ chunk.length then chunk.drop boundary
      else sharedPart (boundary - chunk.length) chunks

variable {maximum : ℕ} {buffer tail : ByteString} {chunks frames : List ByteString}
  {messages : List CoapTcpMessage} {decoder : CoapTcpStreamDecoder}

theorem delivered_cons (outcome : Except CoapTcpCodecError (List CoapTcpMessage))
    (outcomes : List (Except CoapTcpCodecError (List CoapTcpMessage))) :
    delivered (outcome :: outcomes) = outcome.toOption.getD [] ++ delivered outcomes := rfl

/-! ### Calls that lose nothing they found -/

/-- The call that meets the rejected frame, if any, finds no frame ahead of it. -/
def KeepsFound (maximum : ℕ) : ByteString → List ByteString → Prop
  | _, [] => True
  | buffer, chunk :: chunks =>
      match (frameCode maximum).scan (buffer ++ chunk) with
      | (_, .ok rest) => KeepsFound maximum rest chunks
      | (found, .error _) => found = []

/-- A call whose scan fails raises, or ends in a bad length field and returns nothing. -/
theorem feed_of_failed {chunk : ByteString} {found : List CoapTcpMessage}
    {error : CoapTcpCodecError}
    (pending : (frameCode decoder.maxMessageSize).Pending decoder.buffer)
    (scanned : (frameCode decoder.maxMessageSize).scan (decoder.buffer ++ chunk) =
      (found, .error error)) :
    (decoder.feed chunk).1 = .error error ∨
      found = [] ∧ (decoder.feed chunk).1 = .ok [] ∧
        LateHeader decoder.maxMessageSize (decoder.feed chunk).2.buffer := by
  rcases feedLoop_buffered [] chunk pending with direct | ⟨late, _, kept⟩
  · left
    rw [feed, direct, scanned]
    rfl
  · right
    rcases late.1 with ⟨headerError, bad⟩
    rw [scan_of_rejected (.inl bad)] at scanned
    cases scanned
    rw [feed, kept]
    exact ⟨rfl, rfl, late⟩

theorem deliveredBeforeError_of_late (late : LateHeader decoder.maxMessageSize decoder.buffer)
    (chunks : List ByteString) : deliveredBeforeError (decoder.feedAll chunks).1 = [] := by
  induction chunks with
  | nil => rfl
  | cons chunk chunks ih =>
      rw [feedAll_cons]
      by_cases empty : chunk = []
      · have unchanged : decoder.feed chunk = (.ok [], decoder) := by
          rw [empty, feed, feedLoop_nil]
        rw [unchanged]
        exact ih
      · rcases late with ⟨⟨error, bad⟩, _⟩
        have nonempty : decoder.buffer ≠ [] := by
          intro noBuffer
          rw [noBuffer] at bad
          cases bad
        rw [feed, feedLoop_of_bad_buffer nonempty bad empty]
        rfl

/-- Everything found so far is with the caller, after any number of calls. -/
theorem prompt_iff_keepsFound (chunks : List ByteString)
    (pending : (frameCode decoder.maxMessageSize).Pending decoder.buffer) :
    (∀ calls, ((frameCode decoder.maxMessageSize).scan
        (decoder.buffer ++ (chunks.take calls).flatten)).1 <+:
          delivered ((decoder.feedAll chunks).1.take calls)) ↔
      KeepsFound decoder.maxMessageSize decoder.buffer chunks := by
  induction chunks generalizing decoder with
  | nil => simp [KeepsFound, scan_of_pending pending]
  | cons chunk chunks ih =>
      have noCalls : ((frameCode decoder.maxMessageSize).scan decoder.buffer).1 = [] := by
        rw [scan_of_pending pending]
      have moreCalls (calls : ℕ) : decoder.buffer ++ ((chunk :: chunks).take (calls + 1)).flatten =
          decoder.buffer ++ chunk ++ (chunks.take calls).flatten := by simp
      rw [KeepsFound, feedAll_cons]
      generalize scanned : (frameCode decoder.maxMessageSize).scan (decoder.buffer ++ chunk) =
        outcome
      rcases outcome with ⟨found, error | rest⟩
      · constructor
        · intro prompt
          have first := prompt 1
          rw [moreCalls, List.take_zero, List.flatten_nil, List.append_nil, scanned] at first
          rcases feed_of_failed pending scanned with raised | ⟨nothing, _⟩
          · simpa [raised, delivered, Except.toOption] using first
          · exact nothing
        · rintro rfl calls
          cases calls with
          | zero => simp [noCalls]
          | succ calls =>
              rw [moreCalls, scan_append, scanned]
              exact List.nil_prefix
      · rw [feed_of_accepted pending scanned]
        refine Iff.trans ?_
          (@ih { decoder with buffer := rest } (pending_of_scan scanned))
        have shift (calls : ℕ) :
            ((frameCode decoder.maxMessageSize).scan
              (decoder.buffer ++ ((chunk :: chunks).take (calls + 1)).flatten)).1 =
            found ++ ((frameCode decoder.maxMessageSize).scan
              (rest ++ (chunks.take calls).flatten)).1 := by
          rw [moreCalls, scan_append, scanned]
        constructor
        · intro prompt calls
          have next := prompt (calls + 1)
          rw [shift, List.take_succ_cons, delivered_cons] at next
          exact (List.prefix_append_right_inj found).mp next
        · intro prompt calls
          cases calls with
          | zero => simp [noCalls]
          | succ calls =>
              rw [shift, List.take_succ_cons, delivered_cons]
              exact (List.prefix_append_right_inj found).mpr (prompt calls)

theorem deliveredBeforeError_of_keepsFound
    (pending : (frameCode decoder.maxMessageSize).Pending decoder.buffer)
    (keeps : KeepsFound decoder.maxMessageSize decoder.buffer chunks) :
    deliveredBeforeError (decoder.feedAll chunks).1 =
      ((frameCode decoder.maxMessageSize).scan (decoder.buffer ++ chunks.flatten)).1 := by
  induction chunks generalizing decoder with
  | nil =>
      rw [List.flatten_nil, List.append_nil, scan_of_pending pending]
      rfl
  | cons chunk chunks ih =>
      rw [List.flatten_cons, ← List.append_assoc, scan_append, feedAll_cons]
      rw [KeepsFound] at keeps
      generalize scanned : (frameCode decoder.maxMessageSize).scan (decoder.buffer ++ chunk) =
        outcome at keeps
      rcases outcome with ⟨found, error | rest⟩
      · simp only at keeps
        rcases feed_of_failed pending scanned with raised | ⟨_, returned, late⟩
        · rw [raised, keeps]
          rfl
        · rw [returned, keeps]
          exact deliveredBeforeError_of_late late chunks
      · rw [feed_of_accepted pending scanned]
        simp only [deliveredBeforeError]
        rw [@ih { decoder with buffer := rest } (pending_of_scan scanned) keeps]

/-! ### Where the last valid frame ends -/

theorem pending_or_showsMalformed_of_isPrefix {data : ByteString}
    (malformed : ShowsMalformed maximum tail) (isPrefix : data <+: tail) :
    (frameCode maximum).Pending data ∨ ShowsMalformed maximum data := by
  rcases malformed with ⟨error, rejected⟩
  rcases isPrefix with ⟨rest, rfl⟩
  rcases (frameCode maximum).stream_cases data with pending | shown |
    ⟨frame, after, message, rfl, sized, decoded⟩
  · exact .inl pending
  · exact .inr shown
  · have scanned := scan_of_rejected rejected
    rw [scan_append, scan_of_frame sized rfl decoded] at scanned
    generalize (frameCode maximum).scan after = outcome at scanned
    rcases outcome with ⟨_, _ | _⟩ <;> cases scanned

/-- No call loses anything while only the malformed tail is left. -/
theorem keepsFound_of_tail (malformed : ShowsMalformed maximum tail)
    (cut : buffer ++ chunks.flatten = tail) : KeepsFound maximum buffer chunks := by
  induction chunks generalizing buffer with
  | nil => trivial
  | cons chunk chunks ih =>
      rw [List.flatten_cons, ← List.append_assoc] at cut
      rw [KeepsFound]
      rcases pending_or_showsMalformed_of_isPrefix malformed (cut ▸ List.prefix_append _ _) with
        pending | ⟨error, rejected⟩
      · rw [scan_of_pending pending]
        exact ih cut
      · rw [scan_of_rejected rejected]

/-- The chunk that reaches a position of the stream, cut there. -/
theorem split_at_boundary {read chunk after ahead : ByteString}
    (cut : read ++ chunk ++ after = ahead ++ tail) (short : read.length ≤ ahead.length)
    (reached : ahead.length - read.length ≤ chunk.length) :
    read ++ chunk = ahead ++ chunk.drop (ahead.length - read.length) ∧
      chunk.drop (ahead.length - read.length) ++ after = tail := by
  have longEnough : ahead.length ≤ (read ++ chunk).length := by
    rw [List.length_append]
    omega
  have dropped : (read ++ chunk).drop ahead.length = chunk.drop (ahead.length - read.length) := by
    rw [List.drop_append, List.drop_of_length_le short, List.nil_append]
  have taken : (read ++ chunk).take ahead.length = ahead := by
    have := congrArg (List.take ahead.length) cut
    rwa [List.take_append_of_le_length longEnough, List.take_left] at this
  have rest := congrArg (List.drop ahead.length) cut
  rw [List.drop_append_of_le_length longEnough, List.drop_left, dropped] at rest
  refine ⟨?_, rest⟩
  rw [← dropped]
  conv_lhs => rw [← List.take_append_drop ahead.length (read ++ chunk), taken]

/-- What one more chunk adds to the frames of the octets that are read. -/
theorem scan_read_append {read : ByteString} {found : List CoapTcpMessage}
    (scanned : (frameCode maximum).scan read = (found, .ok buffer)) (chunk : ByteString) :
    (frameCode maximum).scan (read ++ chunk) =
      (found ++ ((frameCode maximum).scan (buffer ++ chunk)).1,
        ((frameCode maximum).scan (buffer ++ chunk)).2) := by
  rw [scan_append, scanned]

section LastFrame

variable (parsed : List.Forall₂
  (fun frame message => parseCoapTcpMessage frame maximum = .ok message) frames messages)
include parsed

theorem scan_valid (data : ByteString) :
    (frameCode maximum).scan (frames.flatten ++ data) =
      (messages ++ ((frameCode maximum).scan data).1, ((frameCode maximum).scan data).2) :=
  scan_frames (parsed.imp fun _ _ frameParsed => isFrame_of_parse frameParsed) data

/-- Stopping short of the end of the last frame leaves a message to be found. -/
theorem scan_of_short_isPrefix {read : ByteString} (isPrefix : read <+: frames.flatten)
    (short : read.length < frames.flatten.length) :
    ∃ found rest, (frameCode maximum).scan read = (found, .ok rest) ∧ found ≠ messages := by
  rcases isPrefix with ⟨left, whole⟩
  have scanned := scan_valid parsed []
  rw [List.append_nil, ← whole, scan_append, scan_of_pending pending_nil, List.append_nil]
    at scanned
  generalize (frameCode maximum).scan read = outcome at scanned
  rcases outcome with ⟨found, _ | rest⟩
  · cases scanned
  · rcases Prod.mk.inj scanned with ⟨foundSplit, restKept⟩
    refine ⟨found, rest, rfl, ?_⟩
    rintro rfl
    have nothing : ((frameCode maximum).scan (rest ++ left)).1 = [] := by simpa using foundSplit
    have ended := eq_of_scan_nil (Prod.ext nothing restKept)
    have noneLeft := (List.append_eq_nil_iff.mp ended.symm).2
    rw [← whole, noneLeft, List.append_nil] at short
    exact lt_irrefl _ short

/-- The call that completes the last valid frame keeps what it finds unless it meets the rejected
frame. -/
theorem keepsFound_of_reached (malformed : ShowsMalformed maximum tail) {read chunk : ByteString}
    {found : List CoapTcpMessage} (scanned : (frameCode maximum).scan read = (found, .ok buffer))
    (cut : read ++ chunk ++ chunks.flatten = frames.flatten ++ tail)
    (short : read.length < frames.flatten.length)
    (reached : frames.flatten.length - read.length ≤ chunk.length) :
    KeepsFound maximum buffer (chunk :: chunks) ↔
      ¬ShowsMalformed maximum (chunk.drop (frames.flatten.length - read.length)) := by
  have twoSteps := scan_read_append scanned chunk
  have readPrefix : read <+: frames.flatten := by
    refine List.prefix_of_prefix_length_le ?_ (List.prefix_append _ tail) short.le
    rw [← cut, List.append_assoc]
    exact List.prefix_append _ _
  rcases split_at_boundary cut short.le reached with ⟨reads, rest⟩
  rw [reads, scan_valid parsed] at twoSteps
  rw [KeepsFound]
  rcases pending_or_showsMalformed_of_isPrefix malformed (rest ▸ List.prefix_append _ _) with
    pending | shown
  · have notShown : ¬ShowsMalformed maximum
        (chunk.drop (frames.flatten.length - read.length)) := by
      rintro ⟨error, rejected⟩
      have both := scan_of_rejected rejected
      rw [scan_of_pending pending] at both
      cases both
    rw [scan_of_pending pending] at twoSteps
    generalize (frameCode maximum).scan (buffer ++ chunk) = outcome at twoSteps ⊢
    rcases outcome with ⟨_, kept⟩
    rcases Prod.mk.inj twoSteps with ⟨_, rfl⟩
    exact iff_of_true (keepsFound_of_tail malformed rest) notShown
  · rcases scan_of_short_isPrefix parsed readPrefix short with
      ⟨ofRead, _, scannedRead, incomplete⟩
    rw [scanned] at scannedRead
    cases scannedRead
    refine iff_of_false ?_ (not_not.mpr shown)
    rcases shown with ⟨error, rejected⟩
    rw [scan_of_rejected rejected] at twoSteps
    generalize (frameCode maximum).scan (buffer ++ chunk) = outcome at twoSteps ⊢
    rcases outcome with ⟨more, _⟩
    rcases Prod.mk.inj twoSteps with ⟨foundAll, rfl⟩
    rintro rfl
    simp only [List.append_nil] at foundAll
    exact incomplete foundAll.symm

/-- Up to the end of the last valid frame the calls keep what they find; there it is decided. -/
theorem keepsFound_iff (malformed : ShowsMalformed maximum tail) {read : ByteString}
    {found : List CoapTcpMessage} (scanned : (frameCode maximum).scan read = (found, .ok buffer))
    (cut : read ++ chunks.flatten = frames.flatten ++ tail)
    (short : read.length < frames.flatten.length) :
    KeepsFound maximum buffer chunks ↔
      ¬ShowsMalformed maximum (sharedPart (frames.flatten.length - read.length) chunks) := by
  induction chunks generalizing read found buffer with
  | nil =>
      have := congrArg List.length cut
      simp only [List.flatten_nil, List.append_nil, List.length_append] at this
      omega
  | cons chunk chunks ih =>
      rw [List.flatten_cons, ← List.append_assoc] at cut
      rw [sharedPart]
      by_cases reached : frames.flatten.length - read.length ≤ chunk.length
      · rw [if_pos reached]
        exact keepsFound_of_reached parsed malformed scanned cut short reached
      · rw [if_neg reached, KeepsFound]
        have stillShort : (read ++ chunk).length < frames.flatten.length := by
          rw [List.length_append]
          omega
        have stillPrefix : read ++ chunk <+: frames.flatten :=
          List.prefix_of_prefix_length_le (cut ▸ List.prefix_append _ _)
            (List.prefix_append _ tail) stillShort.le
        rcases scan_of_short_isPrefix parsed stillPrefix stillShort with ⟨_, kept, scannedMore, _⟩
        have next := ih scannedMore cut stillShort
        rw [List.length_append, ← Nat.sub_sub] at next
        rw [← next]
        have twoSteps := scan_read_append scanned chunk
        rw [scannedMore] at twoSteps
        generalize (frameCode maximum).scan (buffer ++ chunk) = outcome at twoSteps ⊢
        rcases outcome with ⟨_, _ | _⟩
        · cases twoSteps
        · cases twoSteps
          rfl

/-! ### Counting complete frames -/

theorem take_prefix_found {read : ByteString} (isPrefix : read <+: frames.flatten ++ tail)
    {count : ℕ} (complete : (frames.take count).flatten.length ≤ read.length) :
    messages.take count <+: ((frameCode maximum).scan read).1 := by
  have framesPrefix : (frames.take count).flatten <+: frames.flatten ++ tail := by
    have whole := congrArg List.flatten (List.take_append_drop count frames)
    rw [List.flatten_append] at whole
    rw [← whole, List.append_assoc]
    exact List.prefix_append _ _
  rcases List.prefix_of_prefix_length_le framesPrefix isPrefix complete with ⟨rest, rfl⟩
  rw [scan_valid (List.forall₂_take count parsed)]
  exact List.prefix_append _ _

theorem found_eq_take (malformed : ShowsMalformed maximum tail) {read : ByteString}
    (isPrefix : read <+: frames.flatten ++ tail) :
    ∃ count, ((frameCode maximum).scan read).1 = messages.take count ∧
      (frames.take count).flatten.length ≤ read.length := by
  induction parsed generalizing read with
  | nil =>
      refine ⟨0, ?_, by simp⟩
      rcases pending_or_showsMalformed_of_isPrefix malformed isPrefix with pending | ⟨_, rejected⟩
      · rw [scan_of_pending pending]
        rfl
      · rw [scan_of_rejected rejected]
        rfl
  | @cons frame message frames messages frameParsed _ ih =>
      have isFrame := isFrame_of_parse frameParsed
      rw [List.flatten_cons, List.append_assoc] at isPrefix
      by_cases complete : frame.length ≤ read.length
      · rcases List.prefix_of_prefix_length_le (List.prefix_append frame _) isPrefix complete with
          ⟨rest, rfl⟩
        rcases ih ((List.prefix_append_right_inj frame).mp isPrefix) with ⟨count, found, counted⟩
        refine ⟨count + 1, ?_, ?_⟩
        · rw [scan_of_frame (isFrame_append isFrame rest) rfl isFrame.2, found]
          rfl
        · rw [List.take_succ_cons, List.flatten_cons, List.length_append, List.length_append]
          omega
      · have inFrame := List.prefix_of_prefix_length_le isPrefix (List.prefix_append frame _)
          (not_le.mp complete).le
        have proper : read ≠ frame := by
          rintro rfl
          exact complete le_rfl
        refine ⟨0, ?_, by simp⟩
        rw [scan_of_pending (pending_of_isPrefix isFrame inFrame proper)]
        rfl

end LastFrame

theorem flatten_take_isPrefix (chunks : List ByteString) (calls : ℕ) :
    (chunks.take calls).flatten <+: chunks.flatten := by
  have whole := congrArg List.flatten (List.take_append_drop calls chunks)
  rw [List.flatten_append] at whole
  exact whole ▸ List.prefix_append _ _

/-- For a fresh decoder, losing no valid frame is losing nothing that was found. -/
theorem noFrameLost_iff_keepsFound
    (parsed : List.Forall₂ (fun frame message =>
      parseCoapTcpMessage frame decoder.maxMessageSize = .ok message) frames messages)
    (malformed : ShowsMalformed decoder.maxMessageSize tail)
    (cut : chunks.flatten = frames.flatten ++ tail) (fresh : decoder.buffer = []) :
    NoFrameLost frames messages chunks (decoder.feedAll chunks).1 ↔
      KeepsFound decoder.maxMessageSize [] chunks := by
  have pending : (frameCode decoder.maxMessageSize).Pending decoder.buffer := by
    rw [fresh]
    exact pending_nil
  have prompt := prompt_iff_keepsFound chunks pending
  have before := @deliveredBeforeError_of_keepsFound chunks decoder pending
  rw [fresh] at prompt before
  constructor
  · rintro ⟨returned, _⟩
    refine prompt.mp fun calls => ?_
    rcases found_eq_take parsed malformed (cut ▸ flatten_take_isPrefix chunks calls) with
      ⟨count, found, counted⟩
    rw [List.nil_append, found]
    exact returned count calls counted
  · intro keeps
    refine ⟨fun count calls complete => ?_, ?_⟩
    · exact (take_prefix_found parsed (cut ▸ flatten_take_isPrefix chunks calls) complete).trans
        (prompt.mpr keeps calls)
    · rcases malformed with ⟨error, rejected⟩
      rw [before keeps, List.nil_append, cut, scan_valid parsed, scan_of_rejected rejected,
        List.append_nil]

/--
Valid frames ahead of a malformed one are all returned in time exactly when there
are none, or when the chunk that ends the last of them does not yet show that the
next one is malformed.
-/
theorem feedAll_noFrameLost_iff {maxMessageSize : ℕ}
    (created : create maxMessageSize = .ok decoder)
    (parsed : List.Forall₂
      (fun frame message => parseCoapTcpMessage frame maxMessageSize = .ok message) frames messages)
    (malformed : ShowsMalformed maxMessageSize tail)
    (cut : chunks.flatten = frames.flatten ++ tail) :
    NoFrameLost frames messages chunks (decoder.feedAll chunks).1 ↔
      frames = [] ∨
        ¬ShowsMalformed maxMessageSize (sharedPart frames.flatten.length chunks) := by
  rcases create_eq_ok created with ⟨rfl, fresh⟩
  rw [noFrameLost_iff_keepsFound parsed malformed cut fresh]
  by_cases noFrames : frames = []
  · subst noFrames
    exact iff_of_true (keepsFound_of_tail malformed cut) (.inl rfl)
  · have nonempty : 0 < frames.flatten.length := by
      rcases List.exists_cons_of_ne_nil noFrames with ⟨frame, rest, rfl⟩
      rcases List.forall₂_cons_left_iff.mp parsed with ⟨message, _, frameParsed, _, _⟩
      have := List.length_pos_iff.mpr (isFrame_of_parse frameParsed).ne_nil
      rw [List.flatten_cons, List.length_append]
      omega
    have decided := @keepsFound_iff decoder.maxMessageSize [] tail chunks frames messages parsed
      malformed [] [] (scan_of_pending pending_nil) cut nonempty
    rw [decided]
    simp [noFrames]

/-- An empty message and a frame whose payload marker has no payload. -/
theorem showsMalformed_example : ShowsMalformed 16 [0x10, 0x45, 0xFF] :=
  ⟨.markerWithoutPayload, .inr ⟨3, by decide +kernel, by decide, by decide +kernel⟩⟩

/-- Cut between the frames, the empty message is returned ahead of the error. -/
theorem feedAll_noFrameLost_example :
    NoFrameLost [[0x00, 0x45]] [⟨0x45, [], [], []⟩] [[0x00, 0x45], [0x10, 0x45, 0xFF]]
      (CoapTcpStreamDecoder.feedAll ⟨16, by decide, []⟩ [[0x00, 0x45], [0x10, 0x45, 0xFF]]).1 := by
  have parsed : List.Forall₂
      (fun frame message => parseCoapTcpMessage frame 16 = .ok message)
      [[0x00, 0x45]] [⟨0x45, [], [], []⟩] := .cons (by decide +kernel) .nil
  refine (feedAll_noFrameLost_iff rfl parsed showsMalformed_example rfl).mpr (.inr ?_)
  rintro ⟨error, failed | ⟨announced, sized, _⟩⟩
  · cases failed
  · cases sized

/-- Read in one chunk with the malformed frame, the empty message is lost. -/
theorem feedAll_loses_frame :
    parseCoapTcpMessage [0x00, 0x45] 16 = .ok ⟨0x45, [], [], []⟩ ∧
      ShowsMalformed 16 [0x10, 0x45, 0xFF] ∧
      ¬NoFrameLost [[0x00, 0x45]] [⟨0x45, [], [], []⟩] [[0x00, 0x45, 0x10, 0x45, 0xFF]]
        (CoapTcpStreamDecoder.feedAll ⟨16, by decide, []⟩ [[0x00, 0x45, 0x10, 0x45, 0xFF]]).1 := by
  have outcomes : (CoapTcpStreamDecoder.feedAll ⟨16, by decide, []⟩
      [[0x00, 0x45, 0x10, 0x45, 0xFF]]).1 = [.error .markerWithoutPayload] := by decide +kernel
  refine ⟨by decide +kernel, showsMalformed_example, ?_⟩
  rintro ⟨inTime, _⟩
  have lost := inTime 1 1 (by decide)
  rw [outcomes] at lost
  simp [delivered, Except.toOption] at lost

end CoapTcp

end SmartThingsLocal
