import SmartThingsLocal.Foundation.CircularSearch
import SmartThingsLocal.Session.RegistryBijection

/-!
# Message-ID allocation

The probing loop of `_next_available_mid_locked` is a search on the circle of the 65,536 Message
IDs, bounded by the size of the dictionary of live requests. The pigeonhole makes the bound
enough: an allocation fails only when every Message ID is live.
-/

namespace SmartThingsLocal

namespace Registry

/-- The identifiers that the probing loop looks at, in order. -/
def probedMids (live : OrderedDict ℕ RequestId) : ℕ → ℕ → List ℕ
  | 0, _ => []
  | probes + 1, mid =>
      let next := (mid + 1) &&& 0xFFFF
      next :: if live.contains next then probedMids live probes next else []

/-- The live Message IDs. -/
def liveMids (registry : Registry) : Finset ℕ :=
  (Finset.range (2 ^ 16)).filter fun mid => registry.pendingMids.contains mid

variable {registry : Registry} {live : OrderedDict ℕ RequestId} {probes mid : ℕ}

theorem mem_liveMids :
    mid ∈ registry.liveMids ↔ mid < 2 ^ 16 ∧ registry.pendingMids.contains mid = true := by
  simp [liveMids]

theorem card_liveMids_eq_iff :
    registry.liveMids.card = 2 ^ 16 ↔
      ∀ mid < 2 ^ 16, registry.pendingMids.contains mid = true := by
  have all := Finset.card_filter_eq_iff (s := Finset.range (2 ^ 16))
    (p := fun mid => registry.pendingMids.contains mid = true)
  rw [Finset.card_range] at all
  unfold liveMids
  simpa only [Finset.mem_range] using all

/-- Every live Message ID is a key of the dictionary. -/
theorem card_liveMids_le_size : registry.liveMids.card ≤ registry.pendingMids.size := by
  have keys : registry.liveMids ⊆ registry.pendingMids.keys.toFinset := by
    intro mid midMem
    have present := (mem_liveMids.mp midMem).2
    rw [List.mem_toFinset]
    by_contra absent
    have missing := OrderedDict.lookup_eq_none_iff.mpr absent
    rw [OrderedDict.contains, OrderedDict.get?, missing] at present
    cases present
  calc registry.liveMids.card ≤ registry.pendingMids.keys.toFinset.card := Finset.card_le_card keys
    _ ≤ registry.pendingMids.keys.length := List.toFinset_card_le _
    _ = registry.pendingMids.size := OrderedDict.length_keys _

/-! ### The loop as a search -/

theorem next_mid (mid : ℕ) : (mid + 1) &&& 0xFFFF = (mid + 1) % 2 ^ 16 :=
  Nat.and_two_pow_sub_one_eq_mod (mid + 1) 16

theorem probeMid_eq_firstFree :
    probeMid live probes mid = CircularSearch.firstFree live.contains (2 ^ 16) probes mid := by
  induction probes generalizing mid with
  | zero => rfl
  | succ probes ih =>
      rw [probeMid, CircularSearch.firstFree, next_mid, ih]

theorem probedMids_eq_probed :
    probedMids live probes mid = CircularSearch.probed live.contains (2 ^ 16) probes mid := by
  induction probes generalizing mid with
  | zero => rfl
  | succ probes ih =>
      rw [probedMids, CircularSearch.probed, next_mid, ih]

/-- The identifiers that one allocation looks at, in order. -/
def allocationProbes (registry : Registry) : List ℕ :=
  probedMids registry.pendingMids (min (registry.pendingMids.size + 1) 0x10000) registry.mid

theorem contains_iff_mem_liveMids (inside : mid < 2 ^ 16) :
    registry.pendingMids.contains mid = true ↔ mid ∈ registry.liveMids := by
  rw [mem_liveMids]
  exact ⟨fun present => ⟨inside, present⟩, And.right⟩

/-- The bounded search fails only when every Message ID is live. -/
theorem probeMid_eq_none_iff (registry : Registry) :
    probeMid registry.pendingMids (min (registry.pendingMids.size + 1) 0x10000) registry.mid =
      none ↔ registry.liveMids.card = 2 ^ 16 := by
  have few : registry.liveMids.card ≤ registry.pendingMids.size := card_liveMids_le_size
  rw [probeMid_eq_firstFree, card_liveMids_eq_iff,
    CircularSearch.firstFree_eq_none_iff_full registry.liveMids
      (fun _ inside => contains_iff_mem_liveMids inside) (by omega) (by omega)]
  exact forall₂_congr fun _ inside => (contains_iff_mem_liveMids inside).symm

/-- An allocation succeeds while a Message ID is free, with the next free one after the counter,
within one probe more than there are live identifiers; it fails only when all are live. -/
theorem nextAvailableMid_exact (registry : Registry) :
    (∀ error, registry.nextAvailableMid.1 = .error error ↔
      error = .sessionIdentifierError ∧ registry.liveMids.card = 2 ^ 16) ∧
    (registry.liveMids.card < 2 ^ 16 →
      ∃ mid, registry.nextAvailableMid.1 = .ok mid ∧ mid < 2 ^ 16 ∧
        registry.pendingMids.contains mid = false ∧
        registry.nextAvailableMid.2 = { registry with mid := mid } ∧
        registry.allocationProbes.length ≤ registry.liveMids.card + 1 ∧
        mid = (registry.mid + registry.allocationProbes.length) % 2 ^ 16) := by
  have none_iff := probeMid_eq_none_iff registry
  unfold nextAvailableMid
  dsimp only
  cases probed : probeMid registry.pendingMids (min (registry.pendingMids.size + 1) 0x10000)
      registry.mid with
  | none =>
      have full := none_iff.mp probed
      refine ⟨fun error => ?_, fun free => absurd full free.ne⟩
      simp [full, eq_comm]
  | some mid =>
      have notFull : registry.liveMids.card ≠ 2 ^ 16 := fun full => by
        rw [none_iff.mpr full] at probed
        cases probed
      refine ⟨fun error => ?_, fun _ => ⟨mid, rfl, probeMid_lt probed, ?_, rfl, ?_⟩⟩
      · constructor
        · intro failed
          cases failed
        · intro raised
          exact absurd raised.2 notFull
      · rw [OrderedDict.contains, probeMid_free probed]
        rfl
      · rw [probeMid_eq_firstFree] at probed
        unfold allocationProbes
        rw [probedMids_eq_probed]
        refine ⟨CircularSearch.length_probed_le
          (fun _ inside => contains_iff_mem_liveMids inside) (min_le_right _ _) probed, ?_⟩
        rcases CircularSearch.firstFree_eq_some probed with ⟨steps, -, length, mid_eq, -, -⟩
        rw [length, mid_eq, CircularSearch.candidate]
        congr 1
        ring

/-- A counter at its end, with the Message IDs on both sides of the wrap live. -/
def wrapping : Registry where
  mid := 0xFFFE
  tokCounter := 0
  pending := .empty
  pendingMids := (OrderedDict.empty.set 0xFFFF 0).set 0 1
  requests := fun _ => {}
  nextRequest := 2

theorem nextAvailableMid_exact_wrapping :
    wrapping.allocationProbes = [0xFFFF, 0, 1] ∧
      ∃ mid, wrapping.nextAvailableMid.1 = .ok mid ∧
        wrapping.pendingMids.contains mid = false ∧
        mid = (wrapping.mid + wrapping.allocationProbes.length) % 2 ^ 16 := by
  have few : wrapping.liveMids.card < 2 ^ 16 := card_liveMids_le_size.trans_lt (by decide)
  rcases (nextAvailableMid_exact wrapping).2 few with ⟨mid, allocated, -, isFree, -, -, mid_eq⟩
  exact ⟨by decide, mid, allocated, isFree, mid_eq⟩

end Registry

end SmartThingsLocal
