import Mathlib.Tactic

/-!
# A deadband

A value that is shown is held until an estimate is further from it than a width, and is then
replaced by that estimate. What is shown is never further from its estimate than the width, and
estimates that stay within a band of that width replace it once at most.
-/

namespace Deadband

variable {α : Type*} [Field α] [LinearOrder α]

/-- What is shown for an estimate. -/
def settle (width : α) (held : Option α) (estimate : α) : α :=
  match held with
  | none => estimate
  | some held => if |estimate - held| > width then estimate else held

/-- What is shown for one estimate after the other. -/
def shown (width : α) : Option α → List α → List α
  | _, [] => []
  | held, estimate :: estimates =>
      settle width held estimate :: shown width (some (settle width held estimate)) estimates

variable [IsStrictOrderedRing α] {width low held estimate : α} {estimates : List α}

theorem abs_sub_settle_le (nonneg : 0 ≤ width) (held : Option α) (estimate : α) :
    |estimate - settle width held estimate| ≤ width := by
  cases held with
  | none => simpa [settle] using nonneg
  | some held =>
      rw [settle]
      split_ifs with far
      · simpa using nonneg
      · exact not_lt.mp far

omit [IsStrictOrderedRing α] in
theorem settle_of_near (near : |estimate - held| ≤ width) :
    settle width (some held) estimate = held :=
  if_neg (not_lt.mpr near)

omit [IsStrictOrderedRing α] in
/-- Estimates near what is held leave it. -/
theorem shown_of_near (near : ∀ estimate ∈ estimates, |estimate - held| ≤ width) :
    shown width (some held) estimates = List.replicate estimates.length held := by
  induction estimates with
  | nil => rfl
  | cons estimate estimates ih =>
      rcases List.forall_mem_cons.mp near with ⟨first, rest⟩
      rw [shown, settle_of_near first, ih rest, List.length_cons, List.replicate_succ]

theorem near_of_band (inBand : low ≤ estimate ∧ estimate ≤ low + width)
    (band : ∀ other ∈ estimates, low ≤ other ∧ other ≤ low + width) :
    ∀ other ∈ estimates, |other - estimate| ≤ width := by
  intro other otherMem
  have otherInBand := band other otherMem
  rw [abs_le]
  constructor
  · linarith
  · linarith

/-- Within a band of the width, what is shown changes once at most, to an estimate. -/
theorem shown_of_band (band : ∀ estimate ∈ estimates, low ≤ estimate ∧ estimate ≤ low + width)
    (held : α) :
    ∃ early late settled, shown width (some held) estimates =
      List.replicate early held ++ List.replicate late settled ∧
      (0 < late → settled ∈ estimates) := by
  induction estimates generalizing held with
  | nil => exact ⟨0, 0, held, rfl, fun some => absurd some (lt_irrefl 0)⟩
  | cons estimate estimates ih =>
      rcases List.forall_mem_cons.mp band with ⟨first, rest⟩
      by_cases near : |estimate - held| ≤ width
      · rcases ih rest held with ⟨early, late, settled, same, isEstimate⟩
        refine ⟨early + 1, late, settled, ?_, fun some => List.mem_cons_of_mem _ (isEstimate some)⟩
        rw [shown, settle_of_near near, same, List.replicate_succ, List.cons_append]
      · have moved : settle width (some held) estimate = estimate := if_pos (not_le.mp near)
        refine ⟨0, estimates.length + 1, estimate, ?_, fun _ => List.mem_cons_self⟩
        rw [shown, moved, shown_of_near (near_of_band first rest)]
        rfl

theorem shown_of_steady (nonneg : 0 ≤ width) (count : ℕ) :
    shown width (some held) (List.replicate count held ++ estimates) =
      List.replicate count held ++ shown width (some held) estimates := by
  induction count with
  | zero => rfl
  | succ count ih =>
      have near : |held - held| ≤ width := by simpa using nonneg
      rw [List.replicate_succ, List.cons_append, shown, settle_of_near near, ih, List.cons_append]

/-- A first estimate that stays, and then estimates within a band: what is shown changes once at
most, to one of these. -/
theorem shown_of_settling (nonneg : 0 ≤ width) (count : ℕ) (first : α)
    (band : ∀ estimate ∈ estimates, low ≤ estimate ∧ estimate ≤ low + width) :
    ∃ early late settled, shown width none (List.replicate count first ++ estimates) =
      List.replicate early first ++ List.replicate late settled ∧
      (0 < late → settled ∈ estimates) := by
  cases count with
  | succ count =>
      rcases shown_of_band band first with ⟨early, late, settled, same, isEstimate⟩
      refine ⟨count + early + 1, late, settled, ?_, isEstimate⟩
      rw [List.replicate_succ, List.cons_append, shown]
      change first :: shown width (some first) _ = _
      rw [shown_of_steady nonneg, same, ← List.append_assoc, List.replicate_append_replicate,
        ← List.cons_append, ← List.replicate_succ]
  | zero =>
      cases estimates with
      | nil => exact ⟨0, 0, first, rfl, fun some => absurd some (lt_irrefl 0)⟩
      | cons estimate estimates =>
          rcases List.forall_mem_cons.mp band with ⟨inBand, rest⟩
          refine ⟨0, estimates.length + 1, estimate, ?_, fun _ => List.mem_cons_self⟩
          change estimate :: shown width (some estimate) estimates = _
          rw [shown_of_near (near_of_band inBand rest)]
          rfl

/-- What is shown is near an estimate. -/
theorem near_of_mem_shown (nonneg : 0 ≤ width) {held : Option α} {value : α}
    (valueMem : value ∈ shown width held estimates) :
    ∃ estimate ∈ estimates, |estimate - value| ≤ width := by
  induction estimates generalizing held with
  | nil => cases valueMem
  | cons estimate estimates ih =>
      rcases List.mem_cons.mp valueMem with rfl | later
      · exact ⟨estimate, List.mem_cons_self, abs_sub_settle_le nonneg held estimate⟩
      · rcases ih later with ⟨other, otherMem, near⟩
        exact ⟨other, List.mem_cons_of_mem _ otherMem, near⟩

end Deadband
