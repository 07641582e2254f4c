import SmartThingsLocal.Foundation.Leads

/-!
# Contracts of computations

`Ensures returns fails computation state`: from that state the computation returns a value
and leaves a state that satisfy `returns`, or fails with an error and a state that satisfy
`fails`. A computation that ensures the first with `fails` false never fails.
-/

namespace Stateful

variable {ε σ α β : Type} {returns : α → σ → Prop} {fails : ε → σ → Prop}

def Ensures (returns : α → σ → Prop) (fails : ε → σ → Prop) (computation : Stateful ε σ α)
    (state : σ) : Prop :=
  match exec computation state with
  | (.ok value, after) => returns value after
  | (.error error, after) => fails error after

/-- The computation does not fail. -/
abbrev Returns (returns : α → σ → Prop) (computation : Stateful ε σ α) (state : σ) : Prop :=
  Ensures returns (fun _ _ => False) computation state

theorem Ensures.mono {weaker : α → σ → Prop} {weakerFails : ε → σ → Prop}
    {computation : Stateful ε σ α} {state : σ} (ensures : Ensures returns fails computation state)
    (returning : ∀ value after, returns value after → weaker value after)
    (failing : ∀ error after, fails error after → weakerFails error after) :
    Ensures weaker weakerFails computation state := by
  unfold Ensures at ensures ⊢
  generalize exec computation state = outcome at ensures ⊢
  rcases outcome with ⟨error | value, after⟩
  · exact failing error after ensures
  · exact returning value after ensures

/-- A frame that every run keeps may be assumed of the results. -/
theorem ensures_of_keeps {relation : σ → σ → Prop} {computation : Stateful ε σ α} {state : σ}
    (keeps : Keeps relation computation)
    (returning : ∀ value after, relation state after → returns value after)
    (failing : ∀ error after, relation state after → fails error after) :
    Ensures returns fails computation state := by
  have led := keeps state
  unfold Leads at led
  unfold Ensures
  generalize exec computation state = outcome at led ⊢
  rcases outcome with ⟨error | value, after⟩
  · exact failing error after led
  · exact returning value after led

theorem Ensures.and_keeps {relation : σ → σ → Prop} {computation : Stateful ε σ α} {state : σ}
    (ensures : Ensures returns fails computation state) (keeps : Keeps relation computation) :
    Ensures (fun value after => returns value after ∧ relation state after)
      (fun error after => fails error after ∧ relation state after) computation state := by
  have led := keeps state
  unfold Leads at led
  unfold Ensures at ensures ⊢
  generalize exec computation state = outcome at led ensures ⊢
  rcases outcome with ⟨error | value, after⟩
  · exact ⟨ensures, led⟩
  · exact ⟨ensures, led⟩

/-- What is ensured, together with the run itself. -/
theorem Ensures.with_exec {computation : Stateful ε σ α} {state : σ}
    (ensures : Ensures returns fails computation state) :
    Ensures (fun value after => returns value after ∧ exec computation state = (.ok value, after))
      (fun error after => fails error after ∧ exec computation state = (.error error, after))
      computation state := by
  unfold Ensures at ensures ⊢
  generalize exec computation state = outcome at ensures ⊢
  rcases outcome with ⟨error | value, after⟩
  · exact ⟨ensures, rfl⟩
  · exact ⟨ensures, rfl⟩

theorem Returns.mono {stronger : α → σ → Prop} {computation : Stateful ε σ α} {state : σ}
    (runs : Returns stronger computation state)
    (implies : ∀ value after, stronger value after → returns value after) :
    Returns returns computation state :=
  Ensures.mono runs implies fun _ _ => False.elim

/-- A frame that every run keeps holds of what a computation returns. -/
theorem Returns.and_keeps {relation : σ → σ → Prop} {computation : Stateful ε σ α} {state : σ}
    (runs : Returns returns computation state) (keeps : Keeps relation computation) :
    Returns (fun value after => returns value after ∧ relation state after) computation state :=
  Ensures.mono (Ensures.and_keeps runs keeps) (fun _ _ both => both) fun _ _ both => both.1

/-- A condition on the state afterwards, whether the computation returns or fails. -/
theorem leads_iff_ensures {relation : σ → σ → Prop} {computation : Stateful ε σ α} {state : σ} :
    Leads relation computation state ↔
      Ensures (fun _ after => relation state after) (fun _ after => relation state after)
        computation state := by
  unfold Leads Ensures
  rcases exec computation state with ⟨_ | _, after⟩ <;> exact Iff.rfl

section Statements

variable {computation other : Stateful ε σ α} {next : α → Stateful ε σ β} {state : σ}
  {returnsLast : β → σ → Prop}

theorem ensures_pure {value : α} (holds : returns value state) :
    Ensures returns fails (pure value) state :=
  holds

theorem ensures_throw {error : ε} (holds : fails error state) :
    Ensures returns fails (throw error : Stateful ε σ α) state :=
  holds

theorem ensures_ite {condition : Prop} [Decidable condition]
    (yes : condition → Ensures returns fails computation state)
    (no : ¬condition → Ensures returns fails other state) :
    Ensures returns fails (if condition then computation else other) state := by
  split_ifs with holds
  · exact yes holds
  · exact no holds

theorem ensures_bind
    (first : Ensures (fun value after => Ensures returnsLast fails (next value) after) fails
      computation state) :
    Ensures returnsLast fails (computation >>= next) state := by
  unfold Ensures at first ⊢
  rw [exec_bind]
  generalize exec computation state = outcome at first ⊢
  rcases outcome with ⟨error | value, after⟩
  · exact first
  · exact first

/-- Go on from what the first part ensures. -/
theorem Ensures.bind {returnsFirst : α → σ → Prop} {failsFirst : ε → σ → Prop}
    (first : Ensures returnsFirst failsFirst computation state)
    (rest : ∀ value after, returnsFirst value after → Ensures returnsLast fails (next value) after)
    (failing : ∀ error after, failsFirst error after → fails error after) :
    Ensures returnsLast fails (computation >>= next) state :=
  ensures_bind (first.mono rest failing)

/-- Go on from what the first part returns. -/
theorem Returns.bind {returnsFirst : α → σ → Prop}
    (first : Returns returnsFirst computation state)
    (rest : ∀ value after, returnsFirst value after →
      Ensures returnsLast fails (next value) after) :
    Ensures returnsLast fails (computation >>= next) state :=
  Ensures.bind first rest fun _ _ => False.elim

/-- Go on from what a part ensures, whether it returns or fails. -/
theorem Ensures.attempt_bind {returnsFirst : α → σ → Prop} {failsFirst : ε → σ → Prop}
    {next : Except ε α → Stateful ε σ β}
    (first : Ensures returnsFirst failsFirst computation state)
    (returned : ∀ value after, returnsFirst value after →
      Ensures returnsLast fails (next (.ok value)) after)
    (failed : ∀ error after, failsFirst error after →
      Ensures returnsLast fails (next (.error error)) after) :
    Ensures returnsLast fails (attempt computation >>= next) state := by
  unfold Ensures at first ⊢
  rw [exec_attempt_bind]
  generalize exec computation state = outcome at first ⊢
  rcases outcome with ⟨error | value, after⟩
  · exact failed error after first
  · exact returned value after first

theorem ensures_get_bind {next : σ → Stateful ε σ β}
    (rest : Ensures returnsLast fails (next state) state) :
    Ensures returnsLast fails (get >>= next) state :=
  rest

theorem ensures_set_bind {value : σ} {next : PUnit → Stateful ε σ β}
    (rest : Ensures returnsLast fails (next ⟨⟩) value) :
    Ensures returnsLast fails (set value >>= next) state :=
  rest

theorem ensures_modify {change : σ → σ} {returns : PUnit → σ → Prop}
    (holds : returns ⟨⟩ (change state)) :
    Ensures returns fails (modify change : Stateful ε σ PUnit) state :=
  holds

theorem ensures_modify_bind {change : σ → σ} {next : PUnit → Stateful ε σ β}
    (rest : Ensures returnsLast fails (next ⟨⟩) (change state)) :
    Ensures returnsLast fails (modify change >>= next) state :=
  rest

theorem ensures_readOnly_bind {result : Except ε α}
    (failing : ∀ error, result = .error error → fails error state)
    (rest : ∀ value, result = .ok value → Ensures returnsLast fails (next value) state) :
    Ensures returnsLast fails (readOnly result >>= next) state := by
  unfold Ensures
  rw [exec_readOnly_bind]
  cases result with
  | error error => exact failing error rfl
  | ok value => exact rest value rfl

end Statements

end Stateful
