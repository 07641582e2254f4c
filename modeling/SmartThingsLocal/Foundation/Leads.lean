import SmartThingsLocal.Foundation.Stateful

/-!
# What a computation does to its state

`Leads relation computation state` relates the state before a computation to the state
after it, whether it returns or fails. When the relation is reflexive and transitive, it
is enough to show it for the statements, each in the state where it stands; `Keeps` is the
same from every state. With an equality as the relation this is a frame rule.
-/

namespace Stateful

variable {ε σ α β : Type} {relation : σ → σ → Prop}

/-- A computation leads from a state to one that is related to it. -/
def Leads (relation : σ → σ → Prop) (computation : Stateful ε σ α) (state : σ) : Prop :=
  relation state (exec computation state).2

/-- A computation leads from every state to one that is related to it. -/
def Keeps (relation : σ → σ → Prop) (computation : Stateful ε σ α) : Prop :=
  ∀ state, Leads relation computation state

theorem exec_bind (computation : Stateful ε σ α) (next : α → Stateful ε σ β) (state : σ) :
    exec (computation >>= next) state =
      match exec computation state with
      | (.error error, after) => (.error error, after)
      | (.ok value, after) => exec (next value) after := by
  have first : exec (computation >>= next) state =
      ExceptT.bindCont next (exec computation state).1 (exec computation state).2 := rfl
  rw [first]
  rcases exec computation state with ⟨_ | _, after⟩ <;> rfl

theorem exec_modify_bind (change : σ → σ) (next : PUnit → Stateful ε σ β) (state : σ) :
    exec (modify change >>= next) state = exec (next ⟨⟩) (change state) := rfl

theorem Leads.mono {weaker : σ → σ → Prop} {computation : Stateful ε σ α} {state : σ}
    (leads : Leads relation computation state)
    (implies : ∀ before after, relation before after → weaker before after) :
    Leads weaker computation state :=
  implies _ _ leads

theorem Keeps.mono {weaker : σ → σ → Prop} {computation : Stateful ε σ α}
    (keeps : Keeps relation computation)
    (implies : ∀ before after, relation before after → weaker before after) :
    Keeps weaker computation :=
  fun state => (keeps state).mono implies

section Statements

variable {computation other : Stateful ε σ α} {next : α → Stateful ε σ β} {state : σ}

theorem leads_ite {condition : Prop} [Decidable condition]
    (yes : condition → Leads relation computation state)
    (no : ¬condition → Leads relation other state) :
    Leads relation (if condition then computation else other) state := by
  split_ifs with holds
  · exact yes holds
  · exact no holds

theorem keeps_ite {condition : Prop} [Decidable condition] (yes : Keeps relation computation)
    (no : Keeps relation other) : Keeps relation (if condition then computation else other) :=
  fun state => leads_ite (fun _ => yes state) fun _ => no state

theorem keeps_modify {change : σ → σ} (related : ∀ state, relation state (change state)) :
    Keeps relation (modify change : Stateful ε σ PUnit) :=
  related

theorem leads_get_bind {next : σ → Stateful ε σ β} (rest : Leads relation (next state) state) :
    Leads relation (get >>= next) state :=
  rest

theorem keeps_get_bind {next : σ → Stateful ε σ β} (rest : ∀ value, Keeps relation (next value)) :
    Keeps relation (get >>= next) :=
  fun state => rest state state

section Refl

variable [Std.Refl relation]

theorem keeps_pure (value : α) : Keeps relation (pure value : Stateful ε σ α) :=
  fun state => refl_of relation state

theorem keeps_throw (error : ε) : Keeps relation (throw error : Stateful ε σ α) :=
  fun state => refl_of relation state

theorem keeps_readOnly (result : Except ε α) : Keeps relation (readOnly result : Stateful ε σ α) :=
  fun state => refl_of relation state

/-- A step that reads only: what comes next starts in the same state. -/
theorem leads_readOnly_bind {result : Except ε α} {next : α → Stateful ε σ β} {state : σ}
    (rest : ∀ value, result = .ok value → Leads relation (next value) state) :
    Leads relation (readOnly result >>= next) state := by
  unfold Leads
  rw [exec_readOnly_bind]
  cases result with
  | error error => exact refl_of relation state
  | ok value => exact rest value rfl

theorem keeps_when {condition : Prop} [Decidable condition] {computation : Stateful ε σ Unit}
    (keeps : Keeps relation computation) : Keeps relation (when condition computation) :=
  keeps_ite keeps (keeps_pure ())

end Refl

theorem keeps_discard (keeps : Keeps relation computation) :
    Keeps relation (discard computation) := by
  intro state
  have kept := keeps state
  unfold Leads at kept ⊢
  have same : (exec (discard computation) state).2 = (exec computation state).2 := by
    have unfolded : discard computation = computation >>= fun _ => pure ⟨⟩ := rfl
    rw [unfolded, exec_bind]
    rcases exec computation state with ⟨_ | _, after⟩ <;> rfl
  rw [same]
  exact kept

variable [IsTrans σ relation]

theorem leads_bind (first : Leads relation computation state)
    (rest : ∀ value after, exec computation state = (.ok value, after) →
      Leads relation (next value) after) :
    Leads relation (computation >>= next) state := by
  unfold Leads at first ⊢
  rw [exec_bind]
  rcases ran : exec computation state with ⟨result, after⟩
  rw [ran] at first
  cases result with
  | error error => exact first
  | ok value => exact trans_of relation first (rest value after ran)

theorem keeps_bind (first : Keeps relation computation)
    (rest : ∀ value, Keeps relation (next value)) : Keeps relation (computation >>= next) :=
  fun state => leads_bind (first state) fun value after _ => rest value after

theorem leads_set_bind {value : σ} {next : PUnit → Stateful ε σ β}
    (related : relation state value) (rest : Leads relation (next ⟨⟩) value) :
    Leads relation (set value >>= next) state :=
  trans_of relation related rest

theorem leads_modify_bind {change : σ → σ} {next : PUnit → Stateful ε σ β}
    (related : relation state (change state)) (rest : Leads relation (next ⟨⟩) (change state)) :
    Leads relation (modify change >>= next) state :=
  trans_of relation related rest

/-- A first statement with a frame: the rest may use that the frame holds. -/
theorem leads_bind_of_keeps {frame : σ → σ → Prop} (first : Keeps frame computation)
    (implies : ∀ before after, frame before after → relation before after)
    (rest : ∀ value after, frame state after → Leads relation (next value) after) :
    Leads relation (computation >>= next) state := by
  refine leads_bind ((first state).mono implies) fun value after ran => rest value after ?_
  have framed := first state
  rw [Leads, ran] at framed
  exact framed

end Statements

end Stateful
