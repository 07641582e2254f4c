import SmartThingsLocal.Foundation.Fallible

/-!
# When a computation raises nothing

Rules for the condition under which a computation in `Except` returns: of a sequence, of a loop,
and of a `try` statement whose handler takes some of the errors.
-/

namespace Raising

universe u v

variable {ε : Type u} {α β : Type v}

/-- The computation returns, whatever it returns. -/
def Returns (computation : Except ε α) : Prop := ∃ value, computation = .ok value

/-- A `try` statement: `fallback` in place of the errors that are caught. -/
def handle (caught : ε → Bool) (fallback : α) : Except ε α → Except ε α
  | .ok value => .ok value
  | .error error => if caught error then .ok fallback else .error error

variable {computation : Except ε α} {next : α → Except ε β} {caught : ε → Bool}

theorem returns_ok (value : α) : Returns (.ok value : Except ε α) := ⟨value, rfl⟩

theorem returns_pure (value : α) : Returns (pure value : Except ε α) := ⟨value, rfl⟩

theorem not_returns_error (error : ε) : ¬Returns (.error error : Except ε α) := by
  rintro ⟨value, same⟩
  cases same

theorem returns_bind_iff :
    Returns (computation >>= next) ↔
      Returns computation ∧ ∀ value, computation = .ok value → Returns (next value) := by
  cases computation with
  | error error =>
      constructor
      · rintro ⟨value, same⟩
        cases same
      · rintro ⟨returns, -⟩
        exact absurd returns (not_returns_error error)
  | ok value =>
      constructor
      · intro returns
        refine ⟨returns_ok value, fun own same => ?_⟩
        cases same
        exact returns
      · rintro ⟨-, returns⟩
        exact returns value rfl

/-- A sequence whose second part returns under a condition that the first has no say in. -/
theorem returns_bind_iff_of_forall {good : Prop} (each : ∀ value, Returns (next value) ↔ good) :
    Returns (computation >>= next) ↔ Returns computation ∧ good := by
  rw [returns_bind_iff]
  refine and_congr_right fun returns => ?_
  rcases returns with ⟨value, same⟩
  exact ⟨fun all => (each value).mp (all value same), fun holds own _ => (each own).mpr holds⟩

/-- A sequence whose second part always returns. -/
theorem returns_bind_iff_left (each : ∀ value, Returns (next value)) :
    Returns (computation >>= next) ↔ Returns computation := by
  rw [returns_bind_iff]
  exact and_iff_left fun value _ => each value

theorem returns_map_iff {transform : α → β} :
    Returns (computation.map transform) ↔ Returns computation := by
  cases computation with
  | error error => simp [Except.map, not_returns_error]
  | ok value => simp [Except.map, returns_ok]

theorem returns_ite_iff {condition : Prop} [Decidable condition] {other : Except ε α} :
    Returns (if condition then computation else other) ↔
      (condition → Returns computation) ∧ (¬condition → Returns other) := by
  split_ifs with holds <;> simp [holds]

/-- A `try` statement raises what it does not catch. -/
theorem returns_handle_iff {fallback : α} :
    Returns (handle caught fallback computation) ↔
      ∀ error, computation = .error error → caught error = true := by
  cases computation with
  | ok value => simp [handle, returns_ok]
  | error error =>
      rw [handle]
      split_ifs with isCaught
      · simp [isCaught, returns_ok]
      · simp [isCaught, not_returns_error]

/-- A loop returns exactly when each of its turns does, if that depends on the item only. -/
theorem returns_foldlM_iff {σ : Type v} {step : σ → α → Except ε σ} {good : α → Prop}
    (each : ∀ state item, Returns (step state item) ↔ good item) (items : List α) (state : σ) :
    Returns (items.foldlM step state) ↔ ∀ item ∈ items, good item := by
  induction items generalizing state with
  | nil => simp [returns_pure]
  | cons item items ih =>
      rw [List.foldlM_cons, returns_bind_iff, List.forall_mem_cons, each]
      refine and_congr_right fun holds => ?_
      rcases (each state item).mpr holds with ⟨after, stepped⟩
      exact ⟨fun rest => (ih after).mp (rest after stepped), fun rest own _ => (ih own).mpr rest⟩

theorem returns_mapM_iff {computation : α → Except ε β} (items : List α) :
    Returns (items.mapM computation) ↔ ∀ item ∈ items, Returns (computation item) := by
  induction items with
  | nil => simp [returns_pure]
  | cons item items ih =>
      rw [List.mapM_cons, List.forall_mem_cons, ← ih]
      refine returns_bind_iff_of_forall fun _ => ?_
      exact returns_bind_iff_left fun _ => returns_pure _

/-! ### Refinement -/

variable {γ δ : Type v} {related : α → γ → Prop} {result : Option γ}

/-- What the computation returns is related to what the optional one has. -/
def Refines (related : α → γ → Prop) (computation : Except ε α) (result : Option γ) : Prop :=
  ∀ value, computation = .ok value → ∃ other, result = some other ∧ related value other

theorem refines_ok {value : α} {other : γ} (holds : related value other) :
    Refines related (.ok value : Except ε α) (some other) := by
  intro own same
  cases same
  exact ⟨other, rfl, holds⟩

theorem refines_error (error : ε) : Refines related (.error error : Except ε α) result := by
  intro own same
  cases same

/-- Each computation refines its own result. -/
theorem refines_toOption : Refines Eq computation computation.toOption := by
  intro value returned
  exact ⟨value, by rw [returned]; rfl, rfl⟩

theorem refines_bind {relatedNext : β → δ → Prop} {after : γ → Option δ}
    (first : Refines related computation result)
    (rest : ∀ value other, related value other → Refines relatedNext (next value) (after other)) :
    Refines relatedNext (computation >>= next) (result >>= after) := by
  intro final ran
  rcases Fallible.bind_eq_ok.mp ran with ⟨value, returned, continued⟩
  rcases first value returned with ⟨other, same, holds⟩
  rcases rest value other holds final continued with ⟨last, ended, holdsLast⟩
  exact ⟨last, by rw [same]; exact ended, holdsLast⟩

theorem refines_map {relatedNext : β → δ → Prop} {transform : α → β} {convert : γ → δ}
    (first : Refines related computation result)
    (maps : ∀ value other, related value other → relatedNext (transform value) (convert other)) :
    Refines relatedNext (computation.map transform) (result.map convert) := by
  intro final ran
  rcases Fallible.map_eq_ok.mp ran with ⟨value, returned, rfl⟩
  rcases first value returned with ⟨other, rfl, holds⟩
  exact ⟨_, rfl, maps value other holds⟩

/-- A loop over the same items refines one whose turns it refines. -/
theorem refines_foldlM {ι : Type v} {step : α → ι → Except ε α} {turn : γ → ι → Option γ}
    {items : List ι}
    (each : ∀ item ∈ items, ∀ state other, related state other →
      Refines related (step state item) (turn other item))
    {state : α} {other : γ} (holds : related state other) :
    Refines related (items.foldlM step state) (items.foldlM turn other) := by
  induction items generalizing state other with
  | nil => exact refines_ok holds
  | cons item items ih =>
      rw [List.foldlM_cons, List.foldlM_cons]
      rw [List.forall_mem_cons] at each
      exact refines_bind (each.1 state other holds) fun _ _ now => ih each.2 now

end Raising
