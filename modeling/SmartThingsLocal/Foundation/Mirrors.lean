import SmartThingsLocal.Foundation.Leads

/-!
# What a computation does not see

`Mirrors change computation image state`: the image does in the changed state what the
computation does in the state itself, with the same result, and leaves the changed state.
A computation that is its own image everywhere neither reads nor writes what changes.
-/

namespace Stateful

variable {ε σ α β : Type} {change : σ → σ}

/-- Two computations do the same in a state and in its image. -/
def Mirrors (change : σ → σ) (computation image : Stateful ε σ α) (state : σ) : Prop :=
  exec image (change state) = ((exec computation state).1, change (exec computation state).2)

/-- A computation that does not see what changes. -/
def Oblivious (change : σ → σ) (computation : Stateful ε σ α) : Prop :=
  ∀ state, Mirrors change computation computation state

section Statements

variable {computation image other otherImage : Stateful ε σ α} {state : σ}

theorem mirrors_ite {condition : Prop} [Decidable condition]
    (yes : Mirrors change computation image state)
    (no : Mirrors change other otherImage state) :
    Mirrors change (if condition then computation else other)
      (if condition then image else otherImage) state := by
  split_ifs
  · exact yes
  · exact no

theorem mirrors_get_bind {next nextImage : σ → Stateful ε σ β}
    (rest : Mirrors change (next state) (nextImage (change state)) state) :
    Mirrors change (get >>= next) (get >>= nextImage) state :=
  rest

theorem mirrors_set_bind {value : σ} {next nextImage : PUnit → Stateful ε σ β}
    (rest : Mirrors change (next ⟨⟩) (nextImage ⟨⟩) value) :
    Mirrors change (set value >>= next) (set (change value) >>= nextImage) state :=
  rest

theorem mirrors_bind {next nextImage : α → Stateful ε σ β}
    (first : Mirrors change computation image state)
    (rest : ∀ value after, Mirrors change (next value) (nextImage value) after) :
    Mirrors change (computation >>= next) (image >>= nextImage) state := by
  unfold Mirrors at first rest ⊢
  rw [exec_bind, exec_bind, first]
  rcases exec computation state with ⟨error | value, after⟩
  · rfl
  · exact rest value after

theorem oblivious_pure (value : α) : Oblivious change (pure value : Stateful ε σ α) :=
  fun _ => rfl

theorem oblivious_readOnly (result : Except ε α) :
    Oblivious change (readOnly result : Stateful ε σ α) :=
  fun _ => rfl

theorem oblivious_modify {step : σ → σ} (commutes : ∀ state, step (change state) =
    change (step state)) : Oblivious change (modify step : Stateful ε σ PUnit) :=
  fun state => congrArg (Prod.mk (Except.ok PUnit.unit)) (commutes state)

theorem oblivious_ite {condition : Prop} [Decidable condition]
    (yes : Oblivious change computation) (no : Oblivious change other) :
    Oblivious change (if condition then computation else other) :=
  fun state => mirrors_ite (yes state) (no state)

/-- What comes next does not depend on the part of the state that changes. -/
theorem oblivious_get_bind {next : σ → Stateful ε σ β}
    (blind : ∀ state, next (change state) = next state)
    (rest : ∀ value, Oblivious change (next value)) : Oblivious change (get >>= next) := by
  intro state
  apply mirrors_get_bind
  rw [blind]
  exact rest state state

theorem oblivious_bind {next : α → Stateful ε σ β} (first : Oblivious change computation)
    (rest : ∀ value, Oblivious change (next value)) : Oblivious change (computation >>= next) :=
  fun state => mirrors_bind (first state) rest

end Statements

end Stateful
