import SmartThingsLocal.Foundation.DictUpdate

/-!
# The state cache

One appliance's state, as `StateCache` holds it. Writers hand over complete representations,
which replace what is held, or partial ones, which are folded into it.
-/

namespace SmartThingsLocal

/-- The representation of one resource. -/
abbrev Rep (V : Type) : Type := OrderedDict String V

/-- A decoded value: a dictionary, or anything else. -/
inductive Decoded (V : Type)
  | dict (rep : Rep V)
  | other
  deriving DecidableEq

/-- `on_observation` of a descriptor, with the state it leaves behind. -/
abbrev ObservationHook (V S : Type) : Type := Option (S → String → Rep V → S)

structure StateCache (V S : Type) where
  links : OrderedDict String (Rep V)
  lastUpdated : OrderedDict String ℕ
  source : OrderedDict String String
  descriptorState : S

/-- What is held for two resources is equal. -/
def sameRep {V : Type} [DecidableEq V] : Option (Rep V) → Option (Rep V) → Bool
  | none, none => true
  | some left, some right => left.same right
  | _, _ => false

namespace StateCache

variable {V S : Type} [DecidableEq V]

def new (descriptorState : S) : StateCache V S := ⟨.empty, .empty, .empty, descriptorState⟩

def get (cache : StateCache V S) (href : String) : Option (Rep V) := cache.links.get? href

def snapshot (cache : StateCache V S) : OrderedDict String (Rep V) := cache.links

omit [DecidableEq V] in
/-- What a representation makes of the one that is held. -/
def resulting (prior : Option (Rep V)) (rep : Rep V) (merge : Bool) : Rep V :=
  match prior with
  | none => rep
  | some held => if merge ∧ held.size ≠ 0 then held.update rep else rep

omit [DecidableEq V] in
/-- The block of `apply_rep` under the lock. -/
def storeRep (cache : StateCache V S) (href : String) (rep : Rep V) (source : String)
    (merge : Bool) (now : ℕ) : StateCache V S :=
  { cache with
    links := cache.links.set href (resulting (cache.get href) rep merge)
    lastUpdated := cache.lastUpdated.set href now
    source := cache.source.set href source }

omit [DecidableEq V] in
/-- The call of the observation hook. -/
def observe (hook : ObservationHook V S) (cache : StateCache V S) (href : String)
    (rep : Rep V) : StateCache V S :=
  match hook with
  | none => cache
  | some observation =>
      { cache with descriptorState := observation cache.descriptorState href rep }

/-- Apply one representation, and say whether it changed what is held. -/
def applyRep (hook : ObservationHook V S) (cache : StateCache V S) (href : String)
    (rep : Decoded V) (source : String) (merge : Bool) (now : ℕ) : StateCache V S × Bool :=
  match rep with
  | .other => (cache, false)
  | .dict rep =>
      let result := resulting (cache.get href) rep merge
      let changed := !sameRep (cache.get href) (some result)
      ((cache.storeRep href rep source merge now).observe hook href result, changed)

omit [DecidableEq V] in
/-- The block of `apply_optimistic` under the lock. -/
def mergedBody (cache : StateCache V S) (href : String) (body : Rep V) : Rep V :=
  ((cache.get href).getD .empty).update body

def applyOptimistic (hook : ObservationHook V S) (cache : StateCache V S) (href : String)
    (body : Decoded V) (now : ℕ) : StateCache V S × Bool :=
  match body with
  | .other => (cache, false)
  | .dict body =>
      cache.applyRep hook href (.dict (cache.mergedBody href body)) "optimistic" false now

variable {cache : StateCache V S} {href other : String} {rep : Rep V} {source : String}
  {merge : Bool} {now : ℕ} {hook : ObservationHook V S}

omit [DecidableEq V] in
@[simp]
theorem get_storeRep : (cache.storeRep href rep source merge now).get other =
    if other = href then some (resulting (cache.get href) rep merge) else cache.get other :=
  OrderedDict.get?_set _ _ _ _

omit [DecidableEq V] in
@[simp]
theorem get_observe : (cache.observe hook href rep).get other = cache.get other := by
  cases hook <;> rfl

omit [DecidableEq V] in
theorem resulting_replace (prior : Option (Rep V)) (rep : Rep V) :
    resulting prior rep false = rep := by
  cases prior with
  | none => rfl
  | some held =>
      rw [resulting, if_neg]
      rintro ⟨merges, -⟩
      cases merges

omit [DecidableEq V] in
/-- A partial representation leaves the keys that it does not mention. -/
theorem get?_resulting_merge (prior : Option (Rep V)) (rep : Rep V) (key : String) :
    (resulting prior rep true).get? key =
      (rep.get? key).or ((prior.getD .empty).get? key) := by
  rcases prior with _ | held
  · exact (Option.or_none).symm
  · rw [resulting, Option.getD_some]
    split_ifs with merges
    · exact OrderedDict.get?_update held rep key
    · have none : held.size = 0 := by simpa using merges
      rw [OrderedDict.eq_empty_of_size none, OrderedDict.get?_empty, Option.or_none]

theorem get_applyRep :
    (cache.applyRep hook href (.dict rep) source merge now).1.get href =
      some (resulting (cache.get href) rep merge) := by
  rw [applyRep, get_observe, get_storeRep, if_pos rfl]

theorem sameRep_some {left right : Rep V} :
    sameRep (some left) (some right) = true ↔ ∀ key, left.get? key = right.get? key :=
  OrderedDict.same_iff

theorem sameRep_refl (held : Option (Rep V)) : sameRep held held = true := by
  cases held with
  | none => rfl
  | some rep => exact rep.same_refl

end StateCache

end SmartThingsLocal
