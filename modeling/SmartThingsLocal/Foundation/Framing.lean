import SmartThingsLocal.Foundation.ByteString

/-!
# Frames in a byte stream

A frame announces its own size in a header at its front. `FrameCode` holds what
a stream decoder knows about such frames, and `FrameCode.scan` cuts a stream
into the frames that are complete, up to the first one that is rejected. Since
an announced size never changes when more bytes arrive, scanning a stream in
two steps gives what scanning it at once gives.
-/

/-- Self-delimiting frames: the size a header announces, and the content of a whole frame. -/
structure FrameCode (ε α : Type*) where
  /-- The announced size of the first frame, or `none` while its header is incomplete. -/
  size : ByteString → Except ε (Option ℕ)
  decode : ByteString → Except ε α
  size_nil : size [] = .ok none
  size_append : ∀ {buffer}, size buffer ≠ .ok none → ∀ more, size (buffer ++ more) = size buffer
  /-- The octet that completes a header never completes the frame. -/
  header_lt : ∀ {buffer byte announced}, size buffer = .ok none →
    size (buffer ++ [byte]) = .ok (some announced) → buffer.length + 1 < announced

namespace FrameCode

variable {ε α : Type*} (code : FrameCode ε α)

variable {code} in
theorem size_pos {buffer : ByteString} {announced : ℕ}
    (sized : code.size buffer = .ok (some announced)) : 0 < announced := by
  induction buffer using List.reverseRecOn with
  | nil => simp [code.size_nil] at sized
  | append_singleton buffer byte ih =>
      by_cases waiting : code.size buffer = .ok none
      · exact Nat.zero_lt_of_lt (code.header_lt waiting sized)
      · exact ih (by rw [← sized, code.size_append waiting])

/-- The contents of the complete frames of a stream, and what is left or why it is rejected. -/
def scan (stream : ByteString) : List α × Except ε ByteString :=
  match _sized : code.size stream with
  | .error error => ([], .error error)
  | .ok none => ([], .ok stream)
  | .ok (some announced) =>
      if _incomplete : stream.length < announced then ([], .ok stream)
      else
        match code.decode (stream.take announced) with
        | .error error => ([], .error error)
        | .ok content =>
            let (contents, rest) := scan (stream.drop announced)
            (content :: contents, rest)
termination_by stream.length
decreasing_by
  have positive := size_pos _sized
  simp only [List.length_drop]
  omega

/-- A stream whose first frame is not complete yet. -/
def Pending (buffer : ByteString) : Prop :=
  code.size buffer = .ok none ∨
    ∃ announced, code.size buffer = .ok (some announced) ∧ buffer.length < announced

/-- A stream whose first frame cannot be accepted, whatever follows. -/
def Rejected (stream : ByteString) (error : ε) : Prop :=
  code.size stream = .error error ∨
    ∃ announced, code.size stream = .ok (some announced) ∧ announced ≤ stream.length ∧
      code.decode (stream.take announced) = .error error

/-- A byte string that is exactly one frame with the given content. -/
def IsFrame (frame : ByteString) (content : α) : Prop :=
  code.size frame = .ok (some frame.length) ∧ code.decode frame = .ok content

variable {code}

section Scan

variable {stream buffer frame tail : ByteString} {content : α} {error : ε}

theorem pending_nil : code.Pending [] := .inl code.size_nil

theorem scan_of_pending (pending : code.Pending stream) : code.scan stream = ([], .ok stream) := by
  rw [scan]
  rcases pending with waiting | ⟨announced, sized, short⟩
  · split <;> simp_all
  · split <;> simp_all

theorem scan_of_rejected (rejected : code.Rejected stream error) :
    code.scan stream = ([], .error error) := by
  rw [scan]
  rcases rejected with failed | ⟨announced, sized, complete, failed⟩
  · split <;> simp_all
  · split
    · simp_all
    · simp_all
    · rename_i other otherSized
      rw [sized] at otherSized
      cases otherSized
      rw [dif_neg (not_lt.mpr complete), failed]

theorem scan_of_frame (sized : code.size stream = .ok (some frame.length))
    (starts : stream = frame ++ tail) (decoded : code.decode frame = .ok content) :
    code.scan stream = (content :: (code.scan tail).1, (code.scan tail).2) := by
  rw [scan]
  split
  · simp_all
  · simp_all
  · rename_i other otherSized
    rw [sized] at otherSized
    cases otherSized
    subst starts
    rw [dif_neg (by simp), List.take_left, List.drop_left, decoded]

/-- A stream waits for more bytes, is rejected, or starts with a frame. -/
theorem stream_cases (code : FrameCode ε α) (stream : ByteString) :
    code.Pending stream ∨ (∃ error, code.Rejected stream error) ∨
      ∃ frame tail content, stream = frame ++ tail ∧ code.size stream = .ok (some frame.length) ∧
        code.decode frame = .ok content := by
  cases sized : code.size stream with
  | error error => exact .inr (.inl ⟨error, .inl sized⟩)
  | ok result =>
      cases result with
      | none => exact .inl (.inl sized)
      | some announced =>
          by_cases short : stream.length < announced
          · exact .inl (.inr ⟨announced, sized, short⟩)
          · have complete := not_lt.mp short
            cases decoded : code.decode (stream.take announced) with
            | error error => exact .inr (.inl ⟨error, .inr ⟨announced, sized, complete, decoded⟩⟩)
            | ok content =>
                refine .inr (.inr ⟨stream.take announced, stream.drop announced, content,
                  (List.take_append_drop _ _).symm, ?_, decoded⟩)
                rw [List.length_take, Nat.min_eq_left complete]

theorem rejected_append (rejected : code.Rejected stream error) (more : ByteString) :
    code.Rejected (stream ++ more) error := by
  rcases rejected with failed | ⟨announced, sized, complete, failed⟩
  · exact .inl (by rw [code.size_append (by simp [failed]), failed])
  · refine .inr ⟨announced, by rw [code.size_append (by simp [sized]), sized], ?_, ?_⟩
    · rw [List.length_append]
      omega
    · rwa [List.take_append_of_le_length complete]

theorem isFrame_append (isFrame : code.IsFrame frame content) (more : ByteString) :
    code.size (frame ++ more) = .ok (some frame.length) := by
  rw [code.size_append (by simp [isFrame.1]), isFrame.1]

theorem IsFrame.ne_nil (isFrame : code.IsFrame frame content) : frame ≠ [] := by
  rintro rfl
  exact absurd (size_pos isFrame.1) (lt_irrefl 0)

/-- Stopping short of the end of a frame leaves it pending. -/
theorem pending_of_isPrefix (isFrame : code.IsFrame frame content) (isPrefix : buffer <+: frame)
    (proper : buffer ≠ frame) : code.Pending buffer := by
  rcases isPrefix with ⟨rest, rfl⟩
  by_cases waiting : code.size buffer = .ok none
  · exact .inl waiting
  · refine .inr ⟨(buffer ++ rest).length, by rw [← code.size_append waiting rest, isFrame.1], ?_⟩
    have restNonempty : rest ≠ [] := by
      rintro rfl
      simp at proper
    have := List.length_pos_iff.mpr restNonempty
    rw [List.length_append]
    omega

/-- Scanning in two steps: what was left over is scanned again together with what arrives. -/
theorem scan_append (stream more : ByteString) :
    code.scan (stream ++ more) =
      match code.scan stream with
      | (contents, .error error) => (contents, .error error)
      | (contents, .ok rest) =>
          (contents ++ (code.scan (rest ++ more)).1, (code.scan (rest ++ more)).2) := by
  induction remaining : stream.length using Nat.strongRecOn generalizing stream with
  | ind length ih =>
      rcases code.stream_cases stream with pending | ⟨error, rejected⟩ |
        ⟨frame, tail, content, rfl, sized, decoded⟩
      · rw [scan_of_pending pending]
        rfl
      · rw [scan_of_rejected rejected, scan_of_rejected (rejected_append rejected more)]
      · have positive := size_pos sized
        have tailScan := ih tail.length (by subst remaining; simp; omega) tail rfl
        have moreSized : code.size (frame ++ tail ++ more) = .ok (some frame.length) := by
          rw [code.size_append (by simp [sized]), sized]
        rw [scan_of_frame sized rfl decoded,
          scan_of_frame moreSized (List.append_assoc frame tail more) decoded, tailScan]
        split <;> simp_all

/-- What a scan leaves over is a pending frame. -/
theorem pending_of_scan {contents : List α} {rest : ByteString}
    (scanned : code.scan stream = (contents, .ok rest)) : code.Pending rest := by
  induction remaining : stream.length using Nat.strongRecOn generalizing stream contents with
  | ind length ih =>
      rcases code.stream_cases stream with pending | ⟨error, rejected⟩ |
        ⟨frame, tail, content, rfl, sized, decoded⟩
      · rw [scan_of_pending pending] at scanned
        cases scanned
        exact pending
      · rw [scan_of_rejected rejected] at scanned
        cases scanned
      · have positive := size_pos sized
        rw [scan_of_frame sized rfl decoded] at scanned
        rcases Prod.mk.inj scanned with ⟨_, tailRest⟩
        exact ih tail.length (by subst remaining; simp; omega) (Prod.ext rfl tailRest) rfl

/-- A scan that finds no frame leaves the stream as it is. -/
theorem eq_of_scan_nil {rest : ByteString} (scanned : code.scan stream = ([], .ok rest)) :
    rest = stream := by
  rcases code.stream_cases stream with pending | ⟨error, rejected⟩ |
    ⟨frame, tail, content, rfl, sized, decoded⟩
  · rw [scan_of_pending pending] at scanned
    cases scanned
    rfl
  · rw [scan_of_rejected rejected] at scanned
    cases scanned
  · rw [scan_of_frame sized rfl decoded] at scanned
    cases scanned

end Scan

/-- Whole frames at the front of a stream are cut off one by one. -/
theorem scan_frames {frames : List ByteString} {contents : List α}
    (valid : List.Forall₂ code.IsFrame frames contents) (tail : ByteString) :
    code.scan (frames.flatten ++ tail) =
      (contents ++ (code.scan tail).1, (code.scan tail).2) := by
  induction valid with
  | nil => simp
  | cons isFrame _ ih =>
      rw [List.flatten_cons, List.append_assoc,
        scan_of_frame (isFrame_append isFrame _) rfl isFrame.2, ih]
      rfl

end FrameCode
