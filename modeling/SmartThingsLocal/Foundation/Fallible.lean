import Mathlib.Tactic

/-!
# Inversion rules for fallible computations

A computation in `Except` succeeds exactly when each of its parts does. These
rules peel the parts of a successful run apart, so that no proof unfolds the
monad.
-/

namespace Fallible

universe u v w

variable {ε : Type u} {α : Type v} {β : Type v}

theorem bind_eq_ok {computation : Except ε α} {next : α → Except ε β} {result : β} :
    (computation >>= next) = .ok result ↔
      ∃ value, computation = .ok value ∧ next value = .ok result := by
  cases computation <;> simp [bind, Except.bind]

theorem map_eq_ok {α : Type v} {β : Type w} {computation : Except ε α} {transform : α → β}
    {result : β} :
    computation.map transform = .ok result ↔
      ∃ value, computation = .ok value ∧ transform value = result := by
  cases computation <;> simp [Except.map]

theorem eq_ok_of_mapError {ε ε' α : Type} {computation : Except ε α} {wrap : ε → ε'} {value : α}
    (succeeded : computation.mapError wrap = .ok value) : computation = .ok value := by
  cases computation with
  | error error => cases succeeded
  | ok result =>
      cases succeeded
      rfl

theorem ite_error_eq_ok {condition : Prop} [Decidable condition] {error : ε}
    {computation : Except ε α} {result : α} :
    (if condition then .error error else computation) = .ok result ↔
      ¬condition ∧ computation = .ok result := by
  split_ifs with failed <;> simp [failed]

@[simp]
theorem ok_bind (value : α) (next : α → Except ε β) : (Except.ok value >>= next) = next value :=
  rfl

@[simp]
theorem map_ok {α : Type v} {β : Type w} (transform : α → β) (value : α) :
    (Except.ok value : Except ε α).map transform = .ok (transform value) :=
  rfl

/-- A property of what a fallible fold has consumed and of what it has made of it. -/
theorem foldlM_keeps {ε σ α : Type u} {step : σ → α → Except ε σ} {P : List α → σ → Prop}
    (keeps : ∀ consumed item state next, P consumed state → step state item = .ok next →
      P (consumed ++ [item]) next)
    {items consumed : List α} {state final : σ} (holds : P consumed state)
    (folded : items.foldlM step state = .ok final) : P (consumed ++ items) final := by
  induction items generalizing consumed state with
  | nil =>
      cases folded
      simpa using holds
  | cons item items ih =>
      rw [List.foldlM_cons] at folded
      rcases bind_eq_ok.mp folded with ⟨next, stepped, rest⟩
      simpa using ih (keeps consumed item state next holds stepped) rest

end Fallible
