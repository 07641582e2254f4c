import SmartThingsLocal.Ble.FailClosed

/-!
# Adaptive reassembly

`AdaptiveBleOcfReassembler` takes the length of the first frame of each PDU for the frame size.
If the PDU goes on, the first frame is filled, so its length is the frame size; if it does not,
a reassembler of that size accepts it too. The adaptive reassembler is therefore a function of
the state of any reassembler whose frames it is fed.
-/

namespace SmartThingsLocal

open Ble Fallible

/-- The bound on a PDU and the reassembler of the PDU in progress. -/
structure AdaptiveBleOcfReassembler where
  maxPduSize : ℕ
  reassembler : Option BleOcfReassembler := none
  deriving DecidableEq

namespace AdaptiveBleOcfReassembler

def create (maxPduSize : ℤ) : Except BleOcfCodecError AdaptiveBleOcfReassembler := do
  let maxPduSize ← validateMaxPduSize maxPduSize
  return { maxPduSize }

def inProgress (adaptive : AdaptiveBleOcfReassembler) : Bool :=
  adaptive.reassembler.any BleOcfReassembler.inProgress

def bufferedBytes (adaptive : AdaptiveBleOcfReassembler) : ℕ :=
  adaptive.reassembler.elim 0 BleOcfReassembler.bufferedBytes

def reset (adaptive : AdaptiveBleOcfReassembler) : AdaptiveBleOcfReassembler :=
  { adaptive with reassembler := none }

/-- The reassembler that a frame goes to, a new one at the start of a PDU. -/
def reassemblerFor (adaptive : AdaptiveBleOcfReassembler) (data : ByteString) :
    Except BleOcfCodecError BleOcfReassembler :=
  match adaptive.reassembler with
  | some reassembler => .ok reassembler
  | none => do
      let header ← decodeHeader data
      if header.start then BleOcfReassembler.create data.length adaptive.maxPduSize
      else .error .continuationWithoutStart

/-- The body of `feed`: what the reassembler answers, and the reassembler after it. -/
def feedFrame (adaptive : AdaptiveBleOcfReassembler) (frame : ByteString) :
    BleOcfReassembler.Answer := do
  let data ← coerceBytes frame "BLE OCF frame" maxMtu.toNat "wire maximum"
  let reassembler ← adaptive.reassemblerFor data
  let (answer, after) := reassembler.feed data
  return (← answer, after)

/-- A call of `feed`; a failure and a complete PDU discard the reassembler. -/
def feed (adaptive : AdaptiveBleOcfReassembler) (frame : ByteString) :
    Except BleOcfCodecError (Option ReassembledBleOcfPdu) × AdaptiveBleOcfReassembler :=
  match adaptive.feedFrame frame with
  | .error error => (.error error, adaptive.reset)
  | .ok (some completed, _) => (.ok (some completed), adaptive.reset)
  | .ok (none, after) => (.ok none, { adaptive with reassembler := some after })

/-- What the calls answer for one frame after the other. -/
def answers (adaptive : AdaptiveBleOcfReassembler) :
    List ByteString → List (Except BleOcfCodecError (Option ReassembledBleOcfPdu))
  | [] => []
  | frame :: frames => (adaptive.feed frame).1 :: (adaptive.feed frame).2.answers frames

/-- The adaptive reassembler after some frames. -/
def feedAll (adaptive : AdaptiveBleOcfReassembler) (frames : List ByteString) :
    AdaptiveBleOcfReassembler :=
  frames.foldl (fun adaptive frame => (adaptive.feed frame).2) adaptive

end AdaptiveBleOcfReassembler

/-- What an adaptive reassembler is after the frames that have led a reassembler to its state. -/
def BleOcfReassembler.adaptive (reassembler : BleOcfReassembler) : AdaptiveBleOcfReassembler where
  maxPduSize := reassembler.maxPduSize
  reassembler := if reassembler.inProgress then some reassembler else none

variable {adaptive : AdaptiveBleOcfReassembler} {reassembler after inner : BleOcfReassembler}
  {frame : ByteString} {header : BleOcfHeader} {output : Option ReassembledBleOcfPdu}

namespace BleOcfReassembler

@[simp]
theorem adaptive_of_idle (idle : reassembler.header = none) :
    reassembler.adaptive = ⟨reassembler.maxPduSize, none⟩ := by
  simp [BleOcfReassembler.adaptive, inProgress, idle]

@[simp]
theorem adaptive_of_collecting (collecting : reassembler.header = some header) :
    reassembler.adaptive = ⟨reassembler.maxPduSize, some reassembler⟩ := by
  simp [BleOcfReassembler.adaptive, inProgress, collecting]

theorem create_eq (size : BleMtu) {maximum : ℕ} (positive : 0 < maximum)
    (fits : maximum < 256 ^ lengthHeaderSize) :
    create size.size maximum = .ok { mtu := size, maxPduSize := maximum } := by
  have sized : validateMtu size.size = .ok size := by
    have lower := size.overhead_lt
    have upper := size.size_le
    unfold maxMtu at upper
    apply dif_pos
    unfold maxMtu
    omega
  have bounded : validateMaxPduSize maximum = .ok maximum := by
    unfold lengthHeaderSize at fits
    apply if_neg
    unfold wireMaxPduSize
    omega
  rw [create, sized, ok_bind, bounded]
  rfl

end BleOcfReassembler

namespace AdaptiveBleOcfReassembler

/-- A frame that its reassembler accepts. -/
theorem feed_eq (fits : frame.length ≤ maxMtu.toNat)
    (found : adaptive.reassemblerFor frame = .ok reassembler)
    (fed : reassembler.feed frame = (.ok output, after)) :
    adaptive.feed frame =
      (.ok output, ⟨adaptive.maxPduSize, output.elim (some after) fun _ => none⟩) := by
  have answered : adaptive.feedFrame frame = .ok (output, after) := by
    unfold feedFrame coerceBytes
    rw [if_neg (not_lt.mpr fits), ok_bind, found, ok_bind, fed]
    rfl
  unfold feed
  rw [answered]
  cases output <;> rfl

/-- The reassembler that a start frame between two PDUs goes to. -/
theorem reassemblerFor_start (size : BleMtu) {rest : ByteString} {maximum : ℕ}
    (valid : header.Valid) (starts : header.start = true)
    (length : (header.octets ++ rest).length = size.size) (positive : 0 < maximum)
    (fits : maximum < 256 ^ lengthHeaderSize) :
    reassemblerFor ⟨maximum, none⟩ (header.octets ++ rest) =
      .ok { mtu := size, maxPduSize := maximum } := by
  unfold reassemblerFor
  rw [decodeHeader_eq_ok.mpr ⟨valid, rest, rfl⟩, ok_bind, if_pos starts, length]
  exact BleOcfReassembler.create_eq size positive fits

/-- What a reassembler accepts, the adaptive one accepts with the same answer. -/
theorem feed_of_accepts (consistent : reassembler.Consistent)
    (accepts : reassembler.Accepts frame output after) :
    reassembler.adaptive.feed frame = (.ok output, after.adaptive) := by
  have fed := (BleOcfReassembler.feed_eq_iff consistent).mpr accepts
  have frameFits : frame.length ≤ reassembler.mtu.size :=
    (BleOcfReassembler.exists_octets_of_feedFrame
      ((BleOcfReassembler.feedFrame_eq_ok consistent).mpr accepts)).1
  have fits := frameFits.trans reassembler.mtu.size_le
  have overhead : firstFrameOverhead = headerSize + lengthHeaderSize := rfl
  cases accepts with
  | @whole header pdu idle valid starts nonempty length_le pduFits =>
      have positive := List.length_pos_iff.mpr nonempty
      rw [BleOcfReassembler.adaptive_of_idle idle]
      -- the frame starts a reassembler whose frames are as long as it is
      obtain ⟨size, length⟩ : ∃ size : BleMtu, (header.octets ++
          ByteString.ofNat lengthHeaderSize pdu.length ++ pdu).length = size.size := by
        refine ⟨⟨_, ?_, fits⟩, rfl⟩
        simp only [List.length_append, BleOcfHeader.length_octets, ByteString.length_ofNat]
        omega
      have created := BleOcfReassembler.create_eq size (positive.trans_le length_le)
        consistent.max_lt
      have pduFitsSize : pdu.length ≤ size.firstCapacity := by
        have capacity := size.firstCapacity_add
        simp only [List.length_append, BleOcfHeader.length_octets,
          ByteString.length_ofNat] at length
        omega
      have accepted := (BleOcfReassembler.feed_eq_iff
        (BleOcfReassembler.of_created created).2.2).mpr
          (.whole rfl valid starts nonempty length_le pduFitsSize)
      rw [List.append_assoc] at length
      have found := reassemblerFor_start size valid starts length (positive.trans_le length_le)
        consistent.max_lt
      rw [← List.append_assoc] at found
      exact feed_eq fits found accepted
  | @start header payload announced idle valid starts length_lt length_le fills =>
      have collects : BleOcfReassembler.header { reassembler with
        header := some header, expectedLength := announced, buffer := payload } = some header := rfl
      rw [BleOcfReassembler.adaptive_of_idle idle,
        BleOcfReassembler.adaptive_of_collecting collects]
      -- an incomplete first frame is filled
      have length : (header.octets ++ (ByteString.ofNat lengthHeaderSize announced ++
          payload)).length = reassembler.mtu.size := by
        have capacity := reassembler.mtu.firstCapacity_add
        simp only [List.length_append, BleOcfHeader.length_octets, ByteString.length_ofNat]
        omega
      have found := reassemblerFor_start reassembler.mtu valid starts length
        (Nat.zero_lt_of_lt length_lt |>.trans_le length_le) consistent.max_lt
      have newConsistent : BleOcfReassembler.Consistent
          { mtu := reassembler.mtu, maxPduSize := reassembler.maxPduSize } :=
        ⟨consistent.max_lt, fun _ => ⟨rfl, rfl⟩, by simp⟩
      have isNew := BleOcfReassembler.eq_of_idle consistent idle newConsistent rfl rfl rfl
      rw [← isNew, ← List.append_assoc] at found
      exact feed_eq fits found fed
  | @more active payload collecting fills length_lt =>
      have collects : BleOcfReassembler.header { reassembler with
        buffer := reassembler.buffer ++ payload } = some active := collecting
      rw [BleOcfReassembler.adaptive_of_collecting collecting,
        BleOcfReassembler.adaptive_of_collecting collects]
      exact feed_eq fits rfl fed
  | last collecting lastFits ends =>
      have idle : reassembler.reset.header = none := rfl
      rw [BleOcfReassembler.adaptive_of_collecting collecting,
        BleOcfReassembler.adaptive_of_idle idle]
      exact feed_eq fits rfl fed

/-- Frames without a failure: the same answers, and the adaptive reassembler follows. -/
theorem follows {frames : List ByteString} (consistent : reassembler.Consistent)
    (accepted : ∀ answer ∈ reassembler.answers frames, ∃ output, answer = .ok output) :
    reassembler.adaptive.answers frames = reassembler.answers frames ∧
      reassembler.adaptive.feedAll frames = (reassembler.feedAll frames).adaptive := by
  induction frames generalizing reassembler with
  | nil => exact ⟨rfl, rfl⟩
  | cons frame frames ih =>
      rcases List.forall_mem_cons.mp accepted with ⟨⟨output, first⟩, rest⟩
      have fed : reassembler.feed frame = (.ok output, (reassembler.feed frame).2) :=
        Prod.ext first rfl
      have accepts := (BleOcfReassembler.feed_eq_iff consistent).mp fed
      have followed := feed_of_accepts consistent accepts
      rcases ih (BleOcfReassembler.consistent_feed consistent frame) rest with ⟨same, reached⟩
      refine ⟨?_, ?_⟩
      · rw [answers, followed, same, BleOcfReassembler.answers, first]
      · rw [feedAll, List.foldl_cons, followed]
        exact reached

theorem answers_append (adaptive : AdaptiveBleOcfReassembler) (frames later : List ByteString) :
    adaptive.answers (frames ++ later) =
      adaptive.answers frames ++ (adaptive.feedAll frames).answers later := by
  induction frames generalizing adaptive with
  | nil => rfl
  | cons frame frames ih =>
      simp only [List.cons_append, answers, ih]
      rfl

end AdaptiveBleOcfReassembler

/-- Nothing is left of a PDU that was returned. -/
theorem BleOcfReassembler.idle_of_returns {frames : List ByteString}
    {message : ReassembledBleOcfPdu} (consistent : reassembler.Consistent)
    (returns : reassembler.Returns frames message) :
    (reassembler.feedAll frames).header = none := by
  induction frames generalizing reassembler with
  | nil => simp [Returns, answers] at returns
  | cons frame frames ih =>
      rcases (returns_cons consistent).mp returns with ⟨rfl, after, accepts⟩ |
        ⟨after, accepts, later⟩
      · apply idle_of_answers consistent
        rw [(feed_eq_iff consistent).mpr accepts]
        simp
      · have fed := (feed_eq_iff consistent).mpr accepts
        have reached := ih (accepts.consistent consistent) later
        rw [feedAll, List.foldl_cons, fed]
        exact reached

/-- A PDU with its metadata, the frame size and the bound it is fragmented with, and its frames. -/
structure BleTransfer where
  message : ReassembledBleOcfPdu
  mtu : ℤ
  maxPduSize : ℤ
  frames : List ByteString

namespace BleTransfer

/-- The frames are what `fragment_pdu` makes of the PDU. -/
def Fragmented (transfer : BleTransfer) : Prop :=
  fragmentPdu transfer.message.pdu transfer.mtu transfer.message.sourcePort
    transfer.message.destinationPort transfer.message.secure transfer.maxPduSize =
      .ok transfer.frames

/-- Nothing on every frame but the last, and the message on the last. -/
def answers (transfer : BleTransfer) :
    List (Except BleOcfCodecError (Option ReassembledBleOcfPdu)) :=
  List.replicate (transfer.frames.length - 1) (.ok none) ++ [.ok (some transfer.message)]

/-- The frames of one PDU, fed to an adaptive reassembler between two PDUs. -/
theorem reassembled {transfer : BleTransfer} {maxPduSize : ℤ} {maximum : ℕ}
    (bounded : validateMaxPduSize maxPduSize = .ok maximum) (fragmented : transfer.Fragmented)
    (length_le : (transfer.message.pdu.length : ℤ) ≤ maxPduSize) :
    AdaptiveBleOcfReassembler.answers ⟨maximum, none⟩ transfer.frames = transfer.answers ∧
      AdaptiveBleOcfReassembler.feedAll ⟨maximum, none⟩ transfer.frames = ⟨maximum, none⟩ := by
  rcases bind_eq_ok.mp fragmented with ⟨size, sized, limited⟩
  rcases bind_eq_ok.mp limited with ⟨limit, limitValid, -⟩
  rcases (fragmentPdu_eq_ok sized limitValid).mp fragmented with ⟨valid, nonempty, -, frames⟩
  have created : BleOcfReassembler.create transfer.mtu maxPduSize =
      .ok { mtu := size, maxPduSize := maximum } := by
    rw [BleOcfReassembler.create, sized, ok_bind, bounded]
    rfl
  have consistent := (BleOcfReassembler.of_created created).2.2
  rw [← (validateMaxPduSize_eq bounded).1, Int.ofNat_le] at length_le
  have returns := (BleOcfReassembler.returns_iff_of_idle consistent rfl).mpr
    ⟨valid, nonempty, length_le, frames⟩
  have accepted : ∀ answer ∈ BleOcfReassembler.answers
      { mtu := size, maxPduSize := maximum } transfer.frames, ∃ output, answer = .ok output := by
    rw [returns]
    intro answer answerMem
    rcases List.mem_append.mp answerMem with earlier | isLast
    · exact ⟨_, List.eq_of_mem_replicate earlier⟩
    · exact ⟨_, List.mem_singleton.mp isLast⟩
  rcases AdaptiveBleOcfReassembler.follows consistent accepted with ⟨answers, reached⟩
  have idle := BleOcfReassembler.idle_of_returns consistent returns
  have configuration := BleOcfReassembler.feedAll_configuration consistent transfer.frames
  refine ⟨answers.trans returns, reached.trans ?_⟩
  rw [BleOcfReassembler.adaptive_of_idle idle, configuration.2]

end BleTransfer

/--
An adaptive reassembler returns PDUs that were fragmented to frames of any sizes, each on its
last frame. Frames that a reassembler of some frame size accepts without an error, it accepts
with the same answers.
-/
theorem adaptive_infers_frame_sizes {maxPduSize : ℤ} {adaptive : AdaptiveBleOcfReassembler}
    (created : AdaptiveBleOcfReassembler.create maxPduSize = .ok adaptive) :
    (∀ transfers : List BleTransfer, (∀ transfer ∈ transfers, transfer.Fragmented ∧
        (transfer.message.pdu.length : ℤ) ≤ maxPduSize) →
      adaptive.answers (transfers.flatMap BleTransfer.frames) =
        transfers.flatMap BleTransfer.answers) ∧
      ∀ mtu strict, BleOcfReassembler.create mtu maxPduSize = .ok strict → ∀ frames,
        (∀ answer ∈ strict.answers frames, ∃ output, answer = .ok output) →
          adaptive.answers frames = strict.answers frames := by
  rcases bind_eq_ok.mp created with ⟨maximum, bounded, same⟩
  cases same
  refine ⟨fun transfers admitted => ?_, fun mtu strict strictCreated frames accepted => ?_⟩
  · induction transfers with
    | nil => rfl
    | cons transfer transfers ih =>
        rcases List.forall_mem_cons.mp admitted with ⟨⟨fragmented, length_le⟩, rest⟩
        rcases BleTransfer.reassembled bounded fragmented length_le with ⟨answers, reached⟩
        rw [List.flatMap_cons, AdaptiveBleOcfReassembler.answers_append, answers, reached, ih rest,
          List.flatMap_cons]
  · rcases BleOcfReassembler.of_created strictCreated with ⟨-, strictBounded, consistent⟩
    have sameMaximum : strict.maxPduSize = maximum :=
      Except.ok.inj (strictBounded.symm.trans bounded)
    have followed := (AdaptiveBleOcfReassembler.follows consistent accepted).1
    rwa [BleOcfReassembler.adaptive_of_idle (BleOcfReassembler.header_of_created strictCreated),
      sameMaximum] at followed

/-- Two PDUs, one in two frames of ten octets and one in a single frame. -/
theorem adaptive_infers_frame_sizes_example :
    let adaptive : AdaptiveBleOcfReassembler := ⟨100, none⟩
    adaptive.answers [[0x81, 0x02, 0, 0, 0, 5, 1, 2, 3, 4], [0x01, 0x02, 5],
        [0x81, 0x02, 0, 0, 0, 1, 9]] =
      [.ok none, .ok (some ⟨[1, 2, 3, 4, 5], 1, 2, false⟩), .ok (some ⟨[9], 1, 2, false⟩)] := by
  intro adaptive
  have created : AdaptiveBleOcfReassembler.create 100 = .ok adaptive := rfl
  apply (adaptive_infers_frame_sizes created).1
    [⟨⟨[1, 2, 3, 4, 5], 1, 2, false⟩, 10, 100,
        [[0x81, 0x02, 0, 0, 0, 5, 1, 2, 3, 4], [0x01, 0x02, 5]]⟩,
      ⟨⟨[9], 1, 2, false⟩, 20, 50, [[0x81, 0x02, 0, 0, 0, 1, 9]]⟩]
  simp only [List.forall_mem_cons, BleTransfer.Fragmented]
  decide +kernel

end SmartThingsLocal
