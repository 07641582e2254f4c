import Mathlib.Tactic

/-!
# Joining and splitting

Pieces that are joined behind a leading separator, as the segments of an absolute path
are, and what splitting gives back: the pieces themselves if none of them has a
separator, and in any case only parts of pieces.
-/

namespace List

variable {α : Type} [DecidableEq α] {sep : α} {pieces : List (List α)} {piece xs : List α}

theorem splitOn_leading (sep : α) (xs : List α) :
    (sep :: xs).splitOn sep = [] :: xs.splitOn sep := by
  rw [splitOn_cons_eq_if_modifyHead, if_pos (beq_self_eq_true sep)]

/-- Pieces without a separator in them survive the round trip. -/
theorem splitOn_joined (nonempty : ∀ piece ∈ pieces, piece ≠ [])
    (free : ∀ piece ∈ pieces, sep ∉ piece) :
    (((sep :: [sep].intercalate pieces).splitOn sep).filter (· ≠ [])) = pieces := by
  rw [splitOn_leading]
  cases pieces with
  | nil => simp
  | cons piece pieces =>
      rw [splitOn_intercalate sep free (cons_ne_nil _ _), filter_cons_of_neg (by simp)]
      exact filter_eq_self.mpr fun piece pieceMem => decide_eq_true (nonempty piece pieceMem)

theorem not_mem_of_mem_splitOn (split : piece ∈ xs.splitOn sep) : sep ∉ piece := by
  induction xs generalizing piece with
  | nil =>
      rw [splitOn_nil, mem_singleton] at split
      rw [split]
      exact not_mem_nil
  | cons x xs ih =>
      rw [splitOn_cons_eq_if_modifyHead] at split
      split_ifs at split with isSep
      · rcases mem_cons.mp split with rfl | later
        · exact not_mem_nil
        · exact ih later
      · have apart : sep ≠ x := fun same => isSep (beq_iff_eq.mpr same.symm)
        rcases pieces : xs.splitOn sep with _ | ⟨first, rest⟩
        · exact absurd pieces (splitOn_ne_nil sep xs)
        rw [pieces, modifyHead_cons] at split
        rw [pieces] at ih
        rcases mem_cons.mp split with rfl | later
        · exact not_mem_cons_of_ne_of_not_mem apart (ih mem_cons_self)
        · exact ih (mem_cons_of_mem _ later)

theorem sublist_of_mem_splitOn (split : piece ∈ xs.splitOn sep) : piece.Sublist xs := by
  induction xs generalizing piece with
  | nil =>
      rw [splitOn_nil, mem_singleton] at split
      rw [split]
  | cons x xs ih =>
      rw [splitOn_cons_eq_if_modifyHead] at split
      split_ifs at split
      · rcases mem_cons.mp split with rfl | later
        · exact nil_sublist _
        · exact (ih later).cons x
      · rcases pieces : xs.splitOn sep with _ | ⟨first, rest⟩
        · exact absurd pieces (splitOn_ne_nil sep xs)
        rw [pieces, modifyHead_cons] at split
        rw [pieces] at ih
        rcases mem_cons.mp split with rfl | later
        · exact (ih mem_cons_self).cons_cons x
        · exact (ih (mem_cons_of_mem _ later)).cons x

/-- What is split off is a part of one piece. -/
theorem sublist_of_mem_splitOn_joined
    (split : piece ∈ (sep :: [sep].intercalate pieces).splitOn sep) (nonempty : piece ≠ []) :
    ∃ whole ∈ pieces, piece.Sublist whole := by
  rw [splitOn_leading] at split
  replace split := (mem_cons.mp split).resolve_left nonempty
  induction pieces with
  | nil =>
      rw [intercalate_nil, splitOn_nil, mem_singleton] at split
      exact absurd split nonempty
  | cons whole pieces ih =>
      cases pieces with
      | nil =>
          rw [intercalate_singleton] at split
          exact ⟨whole, mem_cons_self, sublist_of_mem_splitOn split⟩
      | cons next pieces =>
          rw [intercalate_cons_cons, append_assoc, singleton_append, splitOn_append_cons_self]
            at split
          rcases mem_append.mp split with first | later
          · exact ⟨whole, mem_cons_self, sublist_of_mem_splitOn first⟩
          · rcases ih later with ⟨other, otherMem, within⟩
            exact ⟨other, mem_cons_of_mem _ otherMem, within⟩

end List
