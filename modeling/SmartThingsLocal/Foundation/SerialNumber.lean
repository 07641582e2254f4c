import Mathlib.Tactic

/-!
# Serial-number arithmetic

Values on a circle of size `modulus` are compared by how far the later one lies
ahead: a value is newer when it lies ahead by less than half the circle. The
relation is not transitive in general. Along a chain whose total advance stays
below the half it is, because the advances then add up without wrapping.
-/

namespace SerialNumber

/-- How far a later value lies ahead of an earlier one. -/
def advance (modulus : ℕ) (earlier later : ℕ) : ℤ := ((later : ℤ) - earlier) % modulus

/-- A later value lies ahead of an earlier one by less than `half`. -/
def Newer (modulus half : ℕ) (earlier later : ℕ) : Prop :=
  0 < advance modulus earlier later ∧ advance modulus earlier later < half

/-- The sum of the advances along a list of values. -/
def totalAdvance (modulus : ℕ) : List ℕ → ℤ
  | earlier :: later :: rest => advance modulus earlier later + totalAdvance modulus (later :: rest)
  | _ => 0

variable {modulus half : ℕ}

theorem Newer.ne {earlier later : ℕ} (newer : Newer modulus half earlier later) :
    earlier ≠ later := by
  rintro rfl
  simp [Newer, advance] at newer

/-- Two values are not each newer than the other. -/
theorem Newer.not_newer (fits : 2 * half ≤ modulus) {earlier later : ℕ}
    (newer : Newer modulus half earlier later) : ¬Newer modulus half later earlier := by
  intro back
  rcases newer with ⟨positive, small⟩
  rcases back with ⟨backPositive, backSmall⟩
  have circle : (advance modulus earlier later + advance modulus later earlier) % modulus = 0 := by
    rw [advance, advance, ← Int.add_emod]
    simp
  rw [Int.emod_eq_of_lt (by omega) (by omega)] at circle
  omega

theorem advance_add {earlier middle later : ℕ}
    (nonnegative : 0 ≤ advance modulus earlier middle + advance modulus middle later)
    (fits : advance modulus earlier middle + advance modulus middle later < modulus) :
    advance modulus earlier later =
      advance modulus earlier middle + advance modulus middle later := by
  rw [← Int.emod_eq_of_lt nonnegative fits, advance, advance, advance, ← Int.add_emod]
  congr 1
  ring

/-- Along a chain of newer values every value lies ahead of the first by at most the total. -/
theorem advance_le_total {first : ℕ} {rest : List ℕ}
    (chain : (first :: rest).IsChain (Newer modulus half))
    (total : totalAdvance modulus (first :: rest) < modulus) :
    ∀ value ∈ rest, 0 < advance modulus first value ∧
      advance modulus first value ≤ totalAdvance modulus (first :: rest) := by
  induction rest generalizing first with
  | nil => simp
  | cons second rest ih =>
      rw [List.isChain_cons_cons] at chain
      rcases chain with ⟨newer, chain⟩
      rw [totalAdvance] at total ⊢
      have positive := newer.1
      have tail := ih chain (by omega)
      intro value valueMem
      rcases List.mem_cons.mp valueMem with rfl | restMem
      · refine ⟨positive, ?_⟩
        cases rest with
        | nil => simp [totalAdvance]
        | cons third rest =>
            have := tail third List.mem_cons_self
            omega
      · rcases tail value restMem with ⟨ahead, bounded⟩
        have sum : advance modulus first value =
            advance modulus first second + advance modulus second value :=
          advance_add (by omega) (by omega)
        omega

/-- Along a chain of newer values with a small total advance, later values are newer. -/
theorem pairwise_newer (fits : half ≤ modulus) {values : List ℕ}
    (chain : values.IsChain (Newer modulus half))
    (total : totalAdvance modulus values < half) : values.Pairwise (Newer modulus half) := by
  induction values with
  | nil => exact List.Pairwise.nil
  | cons first rest ih =>
      have ahead := advance_le_total chain (by omega)
      refine List.pairwise_cons.mpr ⟨?_, ?_⟩
      · intro value valueMem
        rcases ahead value valueMem with ⟨positive, bounded⟩
        exact ⟨positive, by omega⟩
      · cases rest with
        | nil => exact List.Pairwise.nil
        | cons second rest =>
            rw [List.isChain_cons_cons] at chain
            rw [totalAdvance] at total
            exact ih chain.2 (by have := chain.1.1; omega)

end SerialNumber
