import Mathlib.Tactic

/-!
# Computations on a state that survives a failure

A method that raises leaves its object as its assignments so far have made it.
`Stateful ε σ` models such methods, and `Stateful.exec` runs one. The rules below
run a method statement by statement.
-/

/-- A computation that may fail, on a state that is kept when it does. -/
abbrev Stateful (ε σ : Type) := ExceptT ε (StateM σ)

namespace Stateful

variable {ε σ α β : Type}

/-- The result or the failure, and the state afterwards. -/
def exec (computation : Stateful ε σ α) (state : σ) : Except ε α × σ :=
  computation.run.run state

/-- A guard statement. -/
def refuseIf (error : ε) (condition : Prop) [Decidable condition] : Stateful ε σ Unit :=
  if condition then throw error else pure ()

/-- A conditional statement. -/
def when (condition : Prop) [Decidable condition] (computation : Stateful ε σ Unit) :
    Stateful ε σ Unit :=
  if condition then computation else pure ()

/-- A step that reads its arguments only. -/
def readOnly (result : Except ε α) : Stateful ε σ α := ExceptT.mk (pure result)

/-- Run a computation and return its failure instead of failing. -/
def attempt (computation : Stateful ε σ α) : Stateful ε σ (Except ε α) :=
  ExceptT.mk (Except.ok <$> computation.run)

@[simp]
theorem exec_pure (value : α) (state : σ) :
    exec (pure value : Stateful ε σ α) state = (.ok value, state) := rfl

@[simp]
theorem exec_get_bind (next : σ → Stateful ε σ β) (state : σ) :
    exec (get >>= next) state = exec (next state) state := rfl

@[simp]
theorem exec_set_bind (value : σ) (next : PUnit → Stateful ε σ β) (state : σ) :
    exec (set value >>= next) state = exec (next ⟨⟩) value := rfl

@[simp]
theorem exec_refuseIf_bind (error : ε) (condition : Prop) [Decidable condition]
    (next : Unit → Stateful ε σ β) (state : σ) :
    exec (refuseIf error condition >>= next) state =
      if condition then (.error error, state) else exec (next ()) state := by
  unfold refuseIf
  split <;> rfl

@[simp]
theorem exec_readOnly_bind (result : Except ε α) (next : α → Stateful ε σ β) (state : σ) :
    exec (readOnly result >>= next) state =
      match result with
      | .error error => (.error error, state)
      | .ok value => exec (next value) state := by
  cases result <;> rfl

@[simp]
theorem exec_attempt_bind (computation : Stateful ε σ α) (next : Except ε α → Stateful ε σ β)
    (state : σ) :
    exec (attempt computation >>= next) state =
      exec (next (exec computation state).1) (exec computation state).2 := rfl

end Stateful
