import Mathlib.Tactic

/-!
# Insertion-ordered dictionaries

A dictionary with distinct keys that remembers the order they were inserted in.
Assigning to a key that is present keeps its place; a new key goes to the end.
-/

namespace OrderedDict

variable {κ ν : Type} [DecidableEq κ]

/-- Replace the value of a key in its place. -/
def replaceEntry (key : κ) (value : ν) : List (κ × ν) → List (κ × ν)
  | [] => []
  | entry :: entries =>
      if entry.1 = key then (key, value) :: entries else entry :: replaceEntry key value entries

theorem keys_replaceEntry (key : κ) (value : ν) (entries : List (κ × ν)) :
    (replaceEntry key value entries).map Prod.fst = entries.map Prod.fst := by
  induction entries with
  | nil => rfl
  | cons entry entries ih =>
      unfold replaceEntry
      split_ifs with found
      · simp [found]
      · simp [ih]

theorem lookup_eq_none_iff {entries : List (κ × ν)} {key : κ} :
    entries.lookup key = none ↔ key ∉ entries.map Prod.fst := by
  induction entries with
  | nil => simp
  | cons entry entries ih =>
      by_cases same : key = entry.1
      · simp [same]
      · have differs : (key == entry.1) = false := by simpa using same
        rw [List.lookup_cons, differs, List.map_cons, List.mem_cons, not_or]
        exact ih.trans ⟨fun absent => ⟨same, absent⟩, And.right⟩

theorem lookup_replaceEntry (key other : κ) (value : ν) (entries : List (κ × ν))
    (present : key ∈ entries.map Prod.fst) :
    (replaceEntry key value entries).lookup other =
      if other = key then some value else entries.lookup other := by
  induction entries with
  | nil => simp at present
  | cons entry entries ih =>
      unfold replaceEntry
      split_ifs with found same same
      · simp [same]
      · have differs : (other == key) = false := by simpa using same
        rw [List.lookup_cons, List.lookup_cons, found, differs]
      · have differs : (other == entry.1) = false := by
          subst same
          simpa using fun eq : other = entry.1 => found eq.symm
        have rest : key ∈ entries.map Prod.fst := by
          rcases List.mem_cons.mp present with eq | rest
          · exact absurd eq.symm found
          · exact rest
        rw [List.lookup_cons, differs, ih rest, if_pos same]
      · have rest : key ∈ entries.map Prod.fst := by
          rcases List.mem_cons.mp present with eq | rest
          · exact absurd eq.symm found
          · exact rest
        rw [List.lookup_cons, List.lookup_cons, ih rest, if_neg same]

theorem lookup_concat (key other : κ) (value : ν) (entries : List (κ × ν))
    (absent : key ∉ entries.map Prod.fst) :
    (entries ++ [(key, value)]).lookup other =
      if other = key then some value else entries.lookup other := by
  induction entries with
  | nil =>
      by_cases same : other = key
      · simp [same]
      · have differs : (other == key) = false := by simpa using same
        simp [List.lookup_cons, same, differs]
  | cons entry entries ih =>
      rw [List.map_cons, List.mem_cons, not_or] at absent
      rw [List.cons_append, List.lookup_cons, List.lookup_cons, ih absent.2]
      by_cases same : other = key
      · have differs : (other == entry.1) = false := by simpa [same] using absent.1
        rw [differs]
      · simp [same]

end OrderedDict

/-- Distinct keys with their values, in insertion order. -/
structure OrderedDict (κ ν : Type) where
  entries : List (κ × ν)
  nodup : (entries.map Prod.fst).Nodup
  deriving DecidableEq

namespace OrderedDict

variable {κ ν : Type}

def empty : OrderedDict κ ν := ⟨[], List.nodup_nil⟩

def keys (dict : OrderedDict κ ν) : List κ := dict.entries.map Prod.fst

def size (dict : OrderedDict κ ν) : ℕ := dict.entries.length

@[simp]
theorem size_empty : (empty : OrderedDict κ ν).size = 0 := rfl

theorem length_keys (dict : OrderedDict κ ν) : dict.keys.length = dict.size :=
  List.length_map _

variable [DecidableEq κ]

def get? (dict : OrderedDict κ ν) (key : κ) : Option ν := dict.entries.lookup key

def contains (dict : OrderedDict κ ν) (key : κ) : Bool := (dict.get? key).isSome

/-- Assign a value to a key. -/
def set (dict : OrderedDict κ ν) (key : κ) (value : ν) : OrderedDict κ ν :=
  if present : key ∈ dict.entries.map Prod.fst then
    ⟨replaceEntry key value dict.entries, by rw [keys_replaceEntry]; exact dict.nodup⟩
  else
    ⟨dict.entries ++ [(key, value)], by
      rw [List.map_append]
      exact List.nodup_append.mpr ⟨dict.nodup, List.nodup_singleton _, by
        intro left leftMem right rightMem
        rw [List.map_singleton, List.mem_singleton] at rightMem
        intro same
        rw [same, rightMem] at leftMem
        exact present leftMem⟩⟩

/-- Remove a key, if present. -/
def erase (dict : OrderedDict κ ν) (key : κ) : OrderedDict κ ν :=
  ⟨dict.entries.filter fun entry => entry.1 ≠ key,
    (dict.nodup.sublist (List.filter_sublist.map Prod.fst))⟩

/-- The oldest entry. -/
def first (dict : OrderedDict κ ν) : Option (κ × ν) := dict.entries.head?

variable {dict : OrderedDict κ ν}

@[simp]
theorem get?_empty (key : κ) : (empty : OrderedDict κ ν).get? key = none := rfl

@[simp]
theorem get?_set (dict : OrderedDict κ ν) (key other : κ) (value : ν) :
    (dict.set key value).get? other = if other = key then some value else dict.get? other := by
  unfold set
  split_ifs with present
  · exact (lookup_replaceEntry key other value dict.entries present).trans (if_pos ‹_›)
  · exact (lookup_replaceEntry key other value dict.entries present).trans (if_neg ‹_›)
  · exact (lookup_concat key other value dict.entries present).trans (if_pos ‹_›)
  · exact (lookup_concat key other value dict.entries present).trans (if_neg ‹_›)

theorem replaceEntry_of_lookup {key : κ} {value : ν} {entries : List (κ × ν)}
    (found : entries.lookup key = some value) : replaceEntry key value entries = entries := by
  induction entries with
  | nil => rfl
  | cons entry entries ih =>
      unfold replaceEntry
      split_ifs with same
      · cases same
        rw [List.lookup_cons_self, Option.some.injEq] at found
        rw [← found]
      · have differs : (key == entry.1) = false := by simpa using Ne.symm same
        rw [List.lookup_cons, differs] at found
        rw [ih found]

/-- Assigning the value that is there changes nothing. -/
theorem set_of_get? {key : κ} {value : ν} (found : dict.get? key = some value) :
    dict.set key value = dict := by
  have present : key ∈ dict.entries.map Prod.fst := by
    by_contra absent
    rw [get?, lookup_eq_none_iff.mpr absent] at found
    cases found
  unfold set
  simp only [dif_pos present, replaceEntry_of_lookup found]

@[simp]
theorem get?_erase (dict : OrderedDict κ ν) (key other : κ) :
    (dict.erase key).get? other = if other = key then none else dict.get? other := by
  unfold erase get?
  dsimp only
  generalize dict.entries = entries
  induction entries with
  | nil => simp
  | cons entry entries ih =>
      by_cases removed : entry.1 = key
      · rw [List.filter_cons_of_neg (by simpa using removed), ih, List.lookup_cons]
        split_ifs with same
        · rfl
        · have differs : (other == entry.1) = false := by simpa [removed] using same
          rw [differs]
      · rw [List.filter_cons_of_pos (by simpa using removed), List.lookup_cons, ih,
          List.lookup_cons]
        split_ifs with same
        · have differs : (other == entry.1) = false := by
            subst same
            simpa using fun eq : other = entry.1 => removed eq.symm
          rw [differs]
        · rfl

theorem mem_entries_iff {key : κ} {value : ν} :
    (key, value) ∈ dict.entries ↔ dict.get? key = some value := by
  rcases dict with ⟨entries, nodup⟩
  unfold get?
  dsimp only
  induction entries with
  | nil => simp
  | cons entry entries ih =>
      rcases entry with ⟨head, content⟩
      rw [List.map_cons, List.nodup_cons] at nodup
      rw [List.mem_cons, List.lookup_cons, ih nodup.2, Prod.mk.injEq]
      by_cases same : key = head
      · have absent : entries.lookup head = none := lookup_eq_none_iff.mpr nodup.1
        simp [same, absent, eq_comm]
      · have differs : (key == head) = false := by simpa using same
        simp [same, differs]

theorem get?_of_first {key : κ} {value : ν} (oldest : dict.first = some (key, value)) :
    dict.get? key = some value :=
  mem_entries_iff.mp (List.mem_of_mem_head? oldest)

theorem mem_keys_iff {key : κ} : key ∈ dict.keys ↔ ∃ value, dict.get? key = some value := by
  simp only [keys, List.mem_map, Prod.exists, exists_and_right, exists_eq_right, mem_entries_iff]

theorem contains_iff {key : κ} : dict.contains key = true ↔ ∃ value, dict.get? key = some value :=
  Option.isSome_iff_exists

/-- Erasing a key only where it holds a value that no other key holds. -/
theorem get?_eraseValue [DecidableEq ν] {own : κ} {value : ν}
    (oneKey : ∀ key, dict.get? key = some value → key = own) (key : κ) (other : ν) :
    (if dict.get? own = some value then dict.erase own else dict).get? key = some other ↔
      dict.get? key = some other ∧ other ≠ value := by
  split_ifs with holds
  · by_cases same : key = own
    · simp [same, holds, eq_comm]
    · simp only [get?_erase, if_neg same]
      refine ⟨fun found => ⟨found, ?_⟩, And.left⟩
      rintro rfl
      exact same (oneKey key found)
  · refine ⟨fun found => ⟨found, ?_⟩, And.left⟩
    rintro rfl
    exact holds (oneKey key found ▸ found)

theorem contains_eq_false_iff {key : κ} :
    dict.contains key = false ↔ key ∉ dict.entries.map Prod.fst := by
  rw [← lookup_eq_none_iff, contains, get?, Option.isSome_eq_false_iff, Option.isNone_iff_eq_none]

theorem entries_set_of_absent {key : κ} (absent : dict.contains key = false) (value : ν) :
    (dict.set key value).entries = dict.entries ++ [(key, value)] := by
  unfold set
  rw [dif_neg (contains_eq_false_iff.mp absent)]

omit [DecidableEq κ] in
theorem eq_of_entries {left right : OrderedDict κ ν} (same : left.entries = right.entries) :
    left = right := by
  cases left
  cases right
  cases same
  rfl

theorem entries_erase_of_absent {key : κ} (absent : dict.contains key = false) :
    (dict.erase key).entries = dict.entries := by
  refine List.filter_eq_self.mpr fun entry entryMem => ?_
  simpa using fun same : entry.1 = key =>
    contains_eq_false_iff.mp absent (same ▸ List.mem_map_of_mem entryMem)

/-- A key that is set and erased again leaves nothing behind. -/
theorem erase_set_of_absent {key : κ} (absent : dict.contains key = false) (value : ν) :
    (dict.set key value).erase key = dict := by
  apply eq_of_entries
  rw [← entries_erase_of_absent absent]
  unfold erase
  dsimp only
  rw [entries_set_of_absent absent, List.filter_append]
  simp

theorem size_erase_lt {key : κ} (present : dict.contains key = true) :
    (dict.erase key).size < dict.size := by
  rcases contains_iff.mp present with ⟨value, found⟩
  refine List.length_filter_lt_length_iff_exists.mpr ⟨(key, value), mem_entries_iff.mpr found, ?_⟩
  simp

theorem size_erase_le (dict : OrderedDict κ ν) (key : κ) : (dict.erase key).size ≤ dict.size :=
  List.length_filter_le _ _

theorem size_set (dict : OrderedDict κ ν) (key : κ) (value : ν) :
    (dict.set key value).size = if dict.contains key then dict.size else dict.size + 1 := by
  have presentIff : dict.contains key = true ↔ key ∈ dict.entries.map Prod.fst := by
    rw [contains, Option.isSome_iff_ne_none, get?, Ne, lookup_eq_none_iff, not_not]
  unfold set size
  by_cases present : key ∈ dict.entries.map Prod.fst
  · rw [dif_pos present, if_pos (presentIff.mpr present)]
    have := congrArg List.length (keys_replaceEntry key value dict.entries)
    simpa using this
  · rw [dif_neg present, if_neg (fun found => present (presentIff.mp found))]
    simp

end OrderedDict
