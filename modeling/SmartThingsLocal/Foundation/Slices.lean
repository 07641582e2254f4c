import Mathlib.Tactic

/-!
# Consecutive slices of a sequence

A sequence sent in pieces: `Covers` says that a list of slices runs from one
position to another without gap or overlap. Adding the next slice keeps it, and
the contents then concatenate to that part of the sequence.
-/

/-- A piece of a sequence, with the positions where it starts and stops. -/
structure Slice (α : Type) where
  start : ℕ
  stop : ℕ
  content : List α

namespace Slice

variable {α : Type} {whole : List α} {slice : Slice α} {slices : List (Slice α)} {start stop : ℕ}

/-- The slice is not empty and holds the elements between its positions. -/
structure Of (whole : List α) (slice : Slice α) : Prop where
  start_lt : slice.start < slice.stop
  stop_le : slice.stop ≤ whole.length
  content_eq : slice.content = (whole.take slice.stop).drop slice.start

/-- Consecutive and disjoint slices from one position to another. -/
def Covers (whole : List α) : ℕ → List (Slice α) → ℕ → Prop
  | start, [], stop => stop = start
  | start, slice :: rest, stop =>
      slice.start = start ∧ slice.Of whole ∧ Covers whole slice.stop rest stop

theorem Covers.append (covers : Covers whole start slices stop) (next : slice.start = stop)
    (isSlice : slice.Of whole) : Covers whole start (slices ++ [slice]) slice.stop := by
  induction slices generalizing start with
  | nil =>
      cases covers
      exact ⟨next, isSlice, rfl⟩
  | cons first rest ih =>
      rcases covers with ⟨starts, isFirst, covers⟩
      exact ⟨starts, isFirst, ih covers⟩

theorem Covers.le (covers : Covers whole start slices stop) : start ≤ stop := by
  induction slices generalizing start with
  | nil => exact le_of_eq covers.symm
  | cons first rest ih =>
      rcases covers with ⟨rfl, isFirst, covers⟩
      exact isFirst.start_lt.le.trans (ih covers)

/-- Every slice starts before the position that is reached. -/
theorem Covers.start_lt (covers : Covers whole start slices stop) (sliceMem : slice ∈ slices) :
    slice.start < stop := by
  induction slices generalizing start with
  | nil => cases sliceMem
  | cons first rest ih =>
      rcases covers with ⟨_, isFirst, covers⟩
      rcases List.mem_cons.mp sliceMem with rfl | restMem
      · exact isFirst.start_lt.trans_le covers.le
      · exact ih covers restMem

theorem Covers.content (covers : Covers whole start slices stop) :
    slices.flatMap Slice.content = (whole.take stop).drop start := by
  induction slices generalizing start with
  | nil =>
      cases covers
      simp
  | cons first rest ih =>
      rcases covers with ⟨rfl, isFirst, covers⟩
      have split := List.take_append_drop first.stop (whole.take stop)
      rw [List.take_take, min_eq_left covers.le] at split
      rw [List.flatMap_cons, ih covers, isFirst.content_eq]
      conv_rhs => rw [← split]
      rw [List.drop_append_of_le_length]
      rw [List.length_take, min_eq_left isFirst.stop_le]
      exact isFirst.start_lt.le

end Slice
