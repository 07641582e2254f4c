import Mathlib.Tactic

/-!
# Machines driven by a list of actions

Concurrent parties are modelled as one machine whose actions name the party that
moves and what its surroundings do to it, so an interleaving is a list of
actions. An invariant that every action keeps holds after every run; where an
action must meet a condition on the state before it, the invariant holds after
every run whose actions all do.
-/

namespace Machine

universe u v

variable {σ : Type u} {α : Type v} (perform : α → σ → σ)

/-- The state after a list of actions. -/
def run : List α → σ → σ
  | [], state => state
  | action :: actions, state => run actions (perform action state)

/-- Every action of a run meets a condition on the state before it. -/
def Meets (condition : σ → α → Prop) : List α → σ → Prop
  | [], _ => True
  | action :: actions, state =>
      condition state action ∧ Meets condition actions (perform action state)

variable {perform}

theorem run_append (before after : List α) (state : σ) :
    run perform (before ++ after) state = run perform after (run perform before state) := by
  induction before generalizing state with
  | nil => rfl
  | cons action before ih => exact ih _

theorem meets_append {condition : σ → α → Prop} {before after : List α} {state : σ} :
    Meets perform condition (before ++ after) state ↔
      Meets perform condition before state ∧
        Meets perform condition after (run perform before state) := by
  induction before generalizing state with
  | nil => simp [Meets, run]
  | cons action before ih => exact (and_congr_right fun _ => ih).trans and_assoc.symm

/-- A condition that its actions meet in every state. -/
theorem meets_of_forall {condition : σ → α → Prop} {actions : List α} {state : σ}
    (meets : ∀ action ∈ actions, ∀ state, condition state action) :
    Meets perform condition actions state := by
  induction actions generalizing state with
  | nil => exact trivial
  | cons action actions ih =>
      rcases List.forall_mem_cons.mp meets with ⟨first, rest⟩
      exact ⟨first state, ih rest⟩

theorem meets_and {condition other : σ → α → Prop} {actions : List α} {state : σ}
    (meets : Meets perform condition actions state)
    (meetsOther : Meets perform other actions state) :
    Meets perform (fun state action => condition state action ∧ other state action)
      actions state := by
  induction actions generalizing state with
  | nil => exact trivial
  | cons action actions ih =>
      exact ⟨⟨meets.1, meetsOther.1⟩, ih meets.2 meetsOther.2⟩

/-- What every action that meets the condition keeps holds after the run. -/
theorem invariant_run {condition : σ → α → Prop} {invariant : σ → Prop}
    (keeps : ∀ state action, invariant state → condition state action →
      invariant (perform action state))
    {actions : List α} {state : σ} (meets : Meets perform condition actions state)
    (holds : invariant state) : invariant (run perform actions state) := by
  induction actions generalizing state with
  | nil => exact holds
  | cons action actions ih => exact ih meets.2 (keeps state action holds meets.1)

/-- What every action keeps holds after every run. -/
theorem invariant_run_all {invariant : σ → Prop}
    (keeps : ∀ state action, invariant state → invariant (perform action state))
    (actions : List α) {state : σ} (holds : invariant state) :
    invariant (run perform actions state) := by
  induction actions generalizing state with
  | nil => exact holds
  | cons action actions ih => exact ih (keeps state action holds)

instance decidableMeets (condition : σ → α → Prop)
    [∀ state action, Decidable (condition state action)] :
    ∀ actions state, Decidable (Meets perform condition actions state)
  | [], _ => inferInstanceAs (Decidable True)
  | action :: actions, state =>
      have := decidableMeets condition actions (perform action state)
      inferInstanceAs (Decidable (condition state action ∧
        Meets perform condition actions (perform action state)))

end Machine
