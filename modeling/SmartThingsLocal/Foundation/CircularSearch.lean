import Mathlib.Tactic

/-!
# Searching a circle of identifiers

Identifiers are numbered on a circle of size `size`. A search starts after the last identifier
that was handed out and takes the candidates in order until one is free. Within one turn of the
circle the candidates are distinct, so a search that met `probes` taken ones has seen that many
different taken identifiers.
-/

namespace CircularSearch

/-- The candidate met after `steps` others, starting after `last`. -/
def candidate (size last steps : ℕ) : ℕ := (last + 1 + steps) % size

variable {size last : ℕ}

theorem candidate_next (steps : ℕ) :
    candidate size ((last + 1) % size) steps = candidate size last (steps + 1) := by
  unfold candidate
  rw [Nat.add_assoc, Nat.mod_add_mod]
  congr 1
  ring

theorem candidate_lt (positive : 0 < size) (steps : ℕ) : candidate size last steps < size :=
  Nat.mod_lt _ positive

/-- The candidates of one turn are distinct. -/
theorem candidate_injOn : Set.InjOn (candidate size last) (Finset.range size) := by
  intro left leftMem right rightMem same
  rw [Finset.mem_coe, Finset.mem_range] at leftMem rightMem
  have congruent : left ≡ right [MOD size] := Nat.ModEq.add_left_cancel' (last + 1) same
  exact congruent.eq_of_lt_of_lt leftMem rightMem

/-- A turn meets every identifier. -/
theorem exists_candidate (last : ℕ) {identifier : ℕ} (inside : identifier < size) :
    ∃ steps < size, candidate size last steps = identifier := by
  have onto := Finset.surjOn_of_injOn_of_card_le (t := Finset.range size)
    (candidate size last) (fun steps stepsMem => by
      rw [Finset.mem_coe, Finset.mem_range] at stepsMem ⊢
      exact candidate_lt (by omega) steps) candidate_injOn le_rfl
  rcases onto (Finset.mem_coe.mpr (Finset.mem_range.mpr inside)) with ⟨steps, stepsMem, met⟩
  exact ⟨steps, Finset.mem_range.mp stepsMem, met⟩

/-- The pigeonhole: a run of taken candidates is no longer than the set of taken identifiers. -/
theorem le_card_of_taken {taken : Finset ℕ} {probes : ℕ} (turn : probes ≤ size)
    (met : ∀ steps < probes, candidate size last steps ∈ taken) : probes ≤ taken.card := by
  have distinct : Set.InjOn (candidate size last) (Finset.range probes) :=
    candidate_injOn.mono (by simpa using turn)
  have image : (Finset.range probes).image (candidate size last) ⊆ taken := by
    intro identifier identifierMem
    rcases Finset.mem_image.mp identifierMem with ⟨steps, stepsMem, rfl⟩
    exact met steps (Finset.mem_range.mp stepsMem)
  calc probes = ((Finset.range probes).image (candidate size last)).card := by
        rw [Finset.card_image_of_injOn distinct, Finset.card_range]
    _ ≤ taken.card := Finset.card_le_card image

/-! ### The search -/

/-- The first free candidate among the next `probes`. -/
def firstFree (taken : ℕ → Bool) (size : ℕ) : ℕ → ℕ → Option ℕ
  | 0, _ => none
  | probes + 1, last =>
      let next := (last + 1) % size
      if taken next then firstFree taken size probes next else some next

/-- The candidates that the search looks at, in order. -/
def probed (taken : ℕ → Bool) (size : ℕ) : ℕ → ℕ → List ℕ
  | 0, _ => []
  | probes + 1, last =>
      let next := (last + 1) % size
      next :: if taken next then probed taken size probes next else []

variable {taken : ℕ → Bool} {probes : ℕ}

theorem firstFree_eq_none_iff :
    firstFree taken size probes last = none ↔
      ∀ steps < probes, taken (candidate size last steps) = true := by
  induction probes generalizing last with
  | zero => simp [firstFree]
  | succ probes ih =>
      rw [firstFree, Nat.forall_lt_succ_left]
      split_ifs with met
      · rw [ih]
        simp only [candidate_next]
        exact ⟨fun rest => ⟨met, rest⟩, And.right⟩
      · constructor
        · intro free
          cases free
        · intro all
          exact absurd all.1 met

/-- A search that ends has met taken candidates only, one probe for each and one for the last. -/
theorem firstFree_eq_some {free : ℕ} (found : firstFree taken size probes last = some free) :
    ∃ steps < probes, (probed taken size probes last).length = steps + 1 ∧
      free = candidate size last steps ∧ taken free = false ∧
      ∀ earlier < steps, taken (candidate size last earlier) = true := by
  induction probes generalizing last with
  | zero => cases found
  | succ probes ih =>
      rw [firstFree] at found
      rw [probed]
      split_ifs at found with met
      · rcases ih found with ⟨steps, within, length, free_eq, isFree, all⟩
        refine ⟨steps + 1, by omega, by simp [met, length], by rw [free_eq, candidate_next],
          isFree, ?_⟩
        intro earlier before
        cases earlier with
        | zero => exact met
        | succ earlier => simpa only [candidate_next] using all earlier (by omega)
      · cases found
        exact ⟨0, by omega, by simp [met], rfl, by simpa using met, by omega⟩

/-- One probe more than there are taken identifiers is enough, and a turn always is. -/
theorem firstFree_eq_none_iff_full (live : Finset ℕ)
    (sees : ∀ identifier < size, taken identifier = true ↔ identifier ∈ live)
    (enough : min (live.card + 1) size ≤ probes) (turn : probes ≤ size) :
    firstFree taken size probes last = none ↔ ∀ identifier < size, identifier ∈ live := by
  rw [firstFree_eq_none_iff]
  constructor
  · intro met
    have few : probes ≤ live.card := le_card_of_taken turn fun steps within =>
      (sees _ (candidate_lt (by omega) steps)).mp (met steps within)
    intro identifier inside
    rcases exists_candidate last inside with ⟨steps, within, rfl⟩
    exact (sees _ inside).mp (met steps (by omega))
  · intro full steps within
    have inside : candidate size last steps < size := candidate_lt (by omega) steps
    exact (sees _ inside).mpr (full _ inside)

/-- A search that ends within a turn takes at most one probe more than there are taken ones. -/
theorem length_probed_le {live : Finset ℕ}
    (sees : ∀ identifier < size, taken identifier = true ↔ identifier ∈ live)
    (turn : probes ≤ size) {free : ℕ} (found : firstFree taken size probes last = some free) :
    (probed taken size probes last).length ≤ live.card + 1 := by
  rcases firstFree_eq_some found with ⟨steps, within, length, -, -, met⟩
  have few : steps ≤ live.card := le_card_of_taken (by omega) fun earlier before =>
    (sees _ (candidate_lt (by omega) earlier)).mp (met earlier before)
  omega

end CircularSearch
