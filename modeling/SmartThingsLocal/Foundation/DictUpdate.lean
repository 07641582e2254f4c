import SmartThingsLocal.Foundation.OrderedDict

/-!
# Updates and equality of dictionaries

A dictionary updated with the entries of another one, and the equality of dictionaries, which
does not ask for the order of their entries.
-/

namespace OrderedDict

variable {κ ν : Type} [DecidableEq κ]

/-- The entries of `other` over those of `dict`. -/
def update (dict other : OrderedDict κ ν) : OrderedDict κ ν :=
  other.entries.foldl (fun result entry => result.set entry.1 entry.2) dict

/-- The same keys with the same values, in any order. -/
def same [DecidableEq ν] (left right : OrderedDict κ ν) : Bool :=
  left.size = right.size ∧ ∀ entry ∈ left.entries, right.get? entry.1 = some entry.2

theorem get?_foldl_set (entries : List (κ × ν)) (nodup : (entries.map Prod.fst).Nodup)
    (dict : OrderedDict κ ν) (key : κ) :
    (entries.foldl (fun result entry => result.set entry.1 entry.2) dict).get? key =
      (entries.lookup key).or (dict.get? key) := by
  induction entries generalizing dict with
  | nil => rfl
  | cons entry entries ih =>
      rw [List.map_cons, List.nodup_cons] at nodup
      rw [List.foldl_cons, ih nodup.2, get?_set, List.lookup_cons]
      by_cases found : key = entry.1
      · have absent : entries.lookup key = none := lookup_eq_none_iff.mpr (found ▸ nodup.1)
        rw [absent, if_pos found, beq_iff_eq.mpr found]
        rfl
      · rw [if_neg found, beq_eq_false_iff_ne.mpr found]

@[simp]
theorem get?_update (dict other : OrderedDict κ ν) (key : κ) :
    (dict.update other).get? key = (other.get? key).or (dict.get? key) :=
  get?_foldl_set other.entries other.nodup dict key

omit [DecidableEq κ] in
theorem eq_empty_of_size {dict : OrderedDict κ ν} (none : dict.size = 0) :
    dict = empty := eq_of_entries (List.length_eq_zero_iff.mp none)

/-- Equal dictionaries answer alike. -/
theorem same_iff [DecidableEq ν] {left right : OrderedDict κ ν} :
    left.same right = true ↔ ∀ key, left.get? key = right.get? key := by
  rw [same, decide_eq_true_iff]
  constructor
  · rintro ⟨size, within⟩ key
    have subset : left.keys ⊆ right.keys := by
      intro key keyMem
      rcases mem_keys_iff.mp keyMem with ⟨value, found⟩
      exact mem_keys_iff.mpr ⟨value, within _ (mem_entries_iff.mpr found)⟩
    have subperm : left.keys.Subperm right.keys := List.subperm_of_subset left.nodup subset
    have keys : left.keys.Perm right.keys := by
      apply subperm.perm_of_length_le
      rw [length_keys, length_keys, size]
    rcases found : left.get? key with _ | value
    · rcases other : right.get? key with _ | value
      · rfl
      · rcases mem_keys_iff.mp (keys.mem_iff.mpr (mem_keys_iff.mpr ⟨value, other⟩)) with
          ⟨content, impossible⟩
        rw [found] at impossible
        cases impossible
    · exact (within (key, value) (mem_entries_iff.mpr found)).symm
  · intro agree
    have keys : left.keys.Perm right.keys := by
      apply (List.perm_ext_iff_of_nodup left.nodup right.nodup).mpr
      intro key
      change key ∈ left.keys ↔ key ∈ right.keys
      simp only [mem_keys_iff, agree]
    refine ⟨?_, fun entry entryMem => ?_⟩
    · rw [← length_keys, ← length_keys, keys.length_eq]
    · rw [← agree]
      exact mem_entries_iff.mp entryMem

theorem same_refl [DecidableEq ν] (dict : OrderedDict κ ν) : dict.same dict = true :=
  same_iff.mpr fun _ => rfl

end OrderedDict
