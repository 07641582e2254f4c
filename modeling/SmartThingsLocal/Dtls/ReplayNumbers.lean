import Mathlib.Data.Nat.Bitwise
import Mathlib.Order.Bounds.Basic
import SmartThingsLocal.Dtls.ReplayWindow
import SmartThingsLocal.Foundation.Machine

/-!
# The numbers behind the anti-replay window

The window stands for the set of the numbers that were accepted: its highest number is the largest
of them, and its bits tell which of the numbers up to 63 below that are in the set.
-/

namespace SmartThingsLocal

namespace ReplayWindow

/-- `accept` without the clamp of the shift. -/
def acceptUnclamped (window : ReplayWindow) (seq : ℕ) : ReplayWindow :=
  if (seq : ℤ) > window.highest then
    let shift := (seq - window.highest).toNat
    { bitmap := ((window.bitmap <<< shift) ||| 1) &&& ((1 <<< replayWindow) - 1), highest := seq }
  else
    let offset := (window.highest - seq).toNat
    if offset < replayWindow then { window with bitmap := window.bitmap ||| (1 <<< offset) }
    else window

/-- Check a number, then accept it unless it is a replay; the accepted numbers are kept. -/
def offer (accept : ReplayWindow → ℕ → ReplayWindow) (seq : ℕ) (state : ReplayWindow × List ℕ) :
    ReplayWindow × List ℕ :=
  if state.1.isReplay seq then state else (accept state.1 seq, seq :: state.2)

/-- A fresh window after some numbers, with those that it has accepted. -/
def after (accept : ReplayWindow → ℕ → ReplayWindow) (seqs : List ℕ) : ReplayWindow × List ℕ :=
  Machine.run (offer accept) seqs ({}, [])

/-! ### Bits -/

theorem testBit_mask (width i : ℕ) : ((1 <<< width) - 1).testBit i = decide (i < width) := by
  rw [Nat.one_shiftLeft]
  exact Nat.testBit_two_pow_sub_one width i

/-- The bits after a shift: the old ones are moved up and the lowest one is set. -/
theorem testBit_advanced (bitmap shift i : ℕ) :
    (((bitmap <<< shift) ||| 1) &&& ((1 <<< replayWindow) - 1)).testBit i = true ↔
      i < replayWindow ∧ (i = 0 ∨ shift ≤ i ∧ bitmap.testBit (i - shift) = true) := by
  rw [Nat.testBit_and, testBit_mask, Nat.testBit_or, Nat.testBit_shiftLeft, Bool.and_eq_true,
    Bool.or_eq_true, Nat.testBit_one_eq_true_iff_self_eq_zero, Bool.and_eq_true,
    decide_eq_true_iff, decide_eq_true_iff]
  tauto

theorem testBit_marked (bitmap offset i : ℕ) :
    (bitmap ||| (1 <<< offset)).testBit i = true ↔ bitmap.testBit i = true ∨ i = offset := by
  rw [Nat.testBit_or, Nat.one_shiftLeft, Nat.testBit_two_pow, Bool.or_eq_true, decide_eq_true_iff]
  exact or_congr_right eq_comm

theorem and_shift_ne_zero (bitmap offset : ℕ) :
    (bitmap &&& (1 <<< offset) != 0) = bitmap.testBit offset := by
  rw [Nat.one_shiftLeft, Nat.and_two_pow]
  cases bitmap.testBit offset <;> simp

/-- A shift by more than the width leaves the lowest bit only, as one by the width does. -/
theorem accept_eq_acceptUnclamped : accept = acceptUnclamped := by
  funext window seq
  unfold accept acceptUnclamped
  split_ifs with newer
  · dsimp only
    congr 1
    apply Nat.eq_of_testBit_eq
    intro i
    rw [Bool.eq_iff_iff, testBit_advanced, testBit_advanced]
    refine and_congr_right fun inside => or_congr_right ?_
    by_cases far : replayWindow ≤ (seq - window.highest).toNat
    · rw [min_eq_right far]
      exact iff_of_false (fun shifted => by omega) fun shifted => by omega
    · rw [min_eq_left (le_of_not_ge far)]
  · rfl

/-! ### The set of accepted numbers -/

/-- The window stands for the accepted numbers. -/
structure Represents (window : ReplayWindow) (accepted : List ℕ) : Prop where
  upper : ∀ seq ∈ accepted, (seq : ℤ) ≤ window.highest
  attained : window.highest = -1 ∨ ∃ seq ∈ accepted, window.highest = seq
  bits : ∀ i, window.bitmap.testBit i = true ↔
    i < replayWindow ∧ ∃ seq ∈ accepted, window.highest = seq + i

variable {window : ReplayWindow} {accepted : List ℕ}

theorem Represents.fresh : Represents {} [] :=
  ⟨nofun, .inl rfl, fun i => by simp⟩

theorem Represents.bitmap_lt (represents : Represents window accepted) :
    window.bitmap < 2 ^ replayWindow := by
  apply Nat.lt_pow_two_of_testBit
  intro i beyond
  rw [← Bool.not_eq_true, represents.bits]
  omega

/-- The highest number is the largest of those accepted, once there is one. -/
theorem Represents.isGreatest (represents : Represents window accepted)
    (started : 0 ≤ window.highest) :
    ∃ highest : ℕ, window.highest = highest ∧ IsGreatest {n | n ∈ accepted} highest := by
  rcases represents.attained with unset | ⟨highest, isAccepted, same⟩
  · omega
  · refine ⟨highest, same, isAccepted, fun seq earlier => ?_⟩
    have upper := represents.upper seq earlier
    omega

/-- A number is refused when it was accepted before or has fallen out of the window. -/
theorem Represents.isReplay_iff (represents : Represents window accepted) (seq : ℕ) :
    window.isReplay seq = true ↔
      seq ∈ accepted ∨ ∃ highest, IsGreatest {n | n ∈ accepted} highest ∧
        seq + replayWindow ≤ highest := by
  unfold isReplay
  split_ifs with newer
  · refine iff_of_false (by simp) ?_
    rintro (repeated | ⟨highest, greatest, far⟩)
    · have upper := represents.upper seq repeated
      omega
    · have upper := represents.upper highest greatest.1
      omega
  · rcases represents.isGreatest (by omega) with ⟨highest, same, greatest⟩
    rw [Bool.or_eq_true, decide_eq_true_iff, and_shift_ne_zero, represents.bits, same]
    constructor
    · rintro (far | ⟨inside, earlier, isAccepted, sum⟩)
      · exact .inr ⟨highest, greatest, by omega⟩
      · have isSeq : earlier = seq := by omega
        exact .inl (isSeq ▸ isAccepted)
    · rintro (repeated | ⟨other, otherGreatest, far⟩)
      · by_cases far : replayWindow ≤ ((highest : ℤ) - seq).toNat
        · exact .inl far
        · exact .inr ⟨by omega, seq, repeated, by omega⟩
      · rw [← greatest.unique otherGreatest] at far
        exact .inl (by omega)

theorem Represents.accept (represents : Represents window accepted) (seq : ℕ) :
    Represents (window.accept seq) (seq :: accepted) := by
  rcases represents with ⟨upper, attained, bits⟩
  unfold ReplayWindow.accept
  split_ifs with newer
  · refine ⟨?_, .inr ⟨seq, List.mem_cons_self, rfl⟩, fun i => ?_⟩
    · refine List.forall_mem_cons.mpr ⟨le_rfl, fun earlier isAccepted => ?_⟩
      exact (upper earlier isAccepted).trans newer.le
    · dsimp only
      rw [testBit_advanced, List.exists_mem_cons_iff]
      refine and_congr_right fun inside => or_congr (by omega) ?_
      rw [bits]
      constructor
      · rintro ⟨shifted, -, earlier, isAccepted, sum⟩
        exact ⟨earlier, isAccepted, by omega⟩
      · rintro ⟨earlier, isAccepted, sum⟩
        have earlierUpper := upper earlier isAccepted
        exact ⟨by omega, by omega, earlier, isAccepted, by omega⟩
  · have isUpper : ∀ earlier ∈ seq :: accepted, (earlier : ℤ) ≤ window.highest :=
      List.forall_mem_cons.mpr ⟨not_lt.mp newer, upper⟩
    have isAttained : window.highest = -1 ∨ ∃ highest ∈ seq :: accepted,
        window.highest = highest :=
      attained.imp_right fun ⟨highest, isAccepted, same⟩ =>
        ⟨highest, List.mem_cons_of_mem seq isAccepted, same⟩
    dsimp only
    split_ifs with inWindow
    · refine ⟨isUpper, isAttained, fun i => ?_⟩
      dsimp only
      rw [testBit_marked, bits, List.exists_mem_cons_iff]
      constructor
      · rintro (⟨inside, found⟩ | same)
        · exact ⟨inside, .inr found⟩
        · exact ⟨same ▸ inWindow, .inl (by omega)⟩
      · rintro ⟨inside, sum | found⟩
        · exact .inr (by omega)
        · exact .inl ⟨inside, found⟩
    · refine ⟨isUpper, isAttained, fun i => ?_⟩
      rw [bits, List.exists_mem_cons_iff]
      refine and_congr_right fun inside => ⟨.inr, fun found => found.resolve_left ?_⟩
      omega

/-! ### Runs -/

/-- Every number that is offered keeps the window and the set together; none is accepted twice. -/
theorem represents_after (seqs : List ℕ) :
    Represents (after ReplayWindow.accept seqs).1 (after ReplayWindow.accept seqs).2 ∧
      (after ReplayWindow.accept seqs).2.Nodup := by
  have keeps (state : ReplayWindow × List ℕ) (seq : ℕ)
      (holds : Represents state.1 state.2 ∧ state.2.Nodup) :
      Represents (offer ReplayWindow.accept seq state).1 (offer ReplayWindow.accept seq state).2 ∧
        (offer ReplayWindow.accept seq state).2.Nodup := by
    rcases holds with ⟨represents, nodup⟩
    unfold offer
    split_ifs with replayed
    · exact ⟨represents, nodup⟩
    · refine ⟨represents.accept seq, List.nodup_cons.mpr ⟨fun repeated => ?_, nodup⟩⟩
      exact replayed ((represents.isReplay_iff seq).mpr (.inl repeated))
  exact Machine.invariant_run_all keeps seqs ⟨.fresh, List.nodup_nil⟩

end ReplayWindow

open ReplayWindow in
/--
A window that checks and then accepts refuses the numbers that it accepted before and those that
are 64 or more below the largest of them, and no others.
-/
theorem replay_window_is_set (seqs : List ℕ) :
    (after accept seqs).1.bitmap = (after acceptUnclamped seqs).1.bitmap ∧
    let window := (after accept seqs).1
    let accepted := (after accept seqs).2
    (∀ seq, window.isReplay seq = true ↔
      seq ∈ accepted ∨ ∃ highest, IsGreatest {n | n ∈ accepted} highest ∧
        seq + replayWindow ≤ highest) ∧
    accepted.Nodup ∧
    (∀ seq, seq ∉ accepted → (∀ earlier ∈ accepted, earlier < seq + replayWindow) →
      window.isReplay seq = false) ∧
    window.bitmap < 2 ^ replayWindow := by
  rcases represents_after seqs with ⟨represents, nodup⟩
  refine ⟨?_, represents.isReplay_iff, nodup, fun seq unseen inside => ?_, represents.bitmap_lt⟩
  · rw [← accept_eq_acceptUnclamped]
  · rw [← Bool.not_eq_true, represents.isReplay_iff]
    rintro (repeated | ⟨highest, greatest, far⟩)
    · exact unseen repeated
    · exact absurd (inside highest greatest.1) (Nat.not_lt.mpr far)

end SmartThingsLocal
