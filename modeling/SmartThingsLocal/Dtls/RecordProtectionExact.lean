import SmartThingsLocal.Dtls.Recording
import SmartThingsLocal.Foundation.Fallible

/-!
# Record protection is exact

`unprotect` returns a payload exactly when the fragment decrypts to the payload, its MAC
and a padding of equal octets, and it opens what the other side protects. The branch-free
scan of the padding finds a deviation exactly when there is one.
-/

namespace SmartThingsLocal

open Dtls

namespace Transform

/-- The keys of the other side. -/
def peer (transform : Transform) : Transform where
  macEnc := transform.macDec
  macDec := transform.macEnc
  encKey := transform.decKey
  decKey := transform.encKey

/-- What the MAC of a record is computed over. -/
def macBytes (epoch seq : ℕ) (contentType : UInt8) (payload : ByteString) : ByteString :=
  ByteString.ofNat 2 epoch ++ ByteString.ofNat 6 seq ++ contentType :: version ++
    ByteString.ofNat 2 payload.length ++ payload

theorem macInput_ok {epoch seq : ℕ} (epochFits : epoch < 2 ^ 16) (seqFits : seq < 2 ^ 48)
    (contentType : UInt8) {payload : ByteString} (fits : payload.length ≤ 0xFFFF) :
    macInput epoch seq contentType payload = .ok (macBytes epoch seq contentType payload) := by
  unfold macInput
  rw [packH_ok (by omega : epoch ≤ 0xFFFF), toBytes_ok (by omega : seq < 256 ^ 6), packH_ok fits]
  rfl

theorem length_le_of_macInput {epoch seq : ℕ} {contentType : UInt8} {payload input : ByteString}
    (ran : macInput epoch seq contentType payload = .ok input) : payload.length ≤ 0xFFFF := by
  unfold macInput at ran
  rcases Fallible.bind_eq_ok.mp ran with ⟨_, _, ran⟩
  rcases Fallible.bind_eq_ok.mp ran with ⟨_, _, ran⟩
  rcases Fallible.bind_eq_ok.mp ran with ⟨_, packed, _⟩
  by_contra long
  rw [packH, if_neg long] at packed
  cases packed

theorem macBytes_injective {epoch epoch' seq seq' : ℕ} {contentType contentType' : UInt8}
    {payload payload' : ByteString} (epochFits : epoch < 2 ^ 16) (epochFits' : epoch' < 2 ^ 16)
    (seqFits : seq < 2 ^ 48) (seqFits' : seq' < 2 ^ 48)
    (same : macBytes epoch seq contentType payload = macBytes epoch' seq' contentType' payload') :
    epoch = epoch' ∧ seq = seq' ∧ contentType = contentType' ∧ payload = payload' := by
  have value {width value value' : ℕ} (fits : value < 256 ^ width) (fits' : value' < 256 ^ width)
      (same : ByteString.ofNat width value = ByteString.ofNat width value') : value = value' := by
    rw [← ByteString.toNat_ofNat fits, same, ByteString.toNat_ofNat fits']
  unfold macBytes at same
  simp only [List.append_assoc, List.cons_append] at same
  rcases List.append_inj same (by simp) with ⟨sameEpoch, same⟩
  rcases List.append_inj same (by simp) with ⟨sameSeq, same⟩
  rcases List.cons.inj same with ⟨sameType, same⟩
  rcases List.append_inj same rfl with ⟨-, same⟩
  rcases List.append_inj same (by simp) with ⟨-, samePayload⟩
  exact ⟨value (by omega) (by omega) sameEpoch, value (by omega) (by omega) sameSeq, sameType,
    samePayload⟩

/-! ### The padding -/

theorem xor_eq_zero_iff {left right : ℕ} : left ^^^ right = 0 ↔ left = right := by
  refine ⟨fun zero => ?_, fun same => same ▸ Nat.xor_self left⟩
  calc left = left ^^^ (left ^^^ right) := by rw [zero, Nat.xor_zero]
    _ = right := by rw [← Nat.xor_assoc, Nat.xor_self, Nat.zero_xor]

/-- The scan ends, and without a deviation exactly when the octets within the padding are it. -/
theorem scanPadding_ok (plain : ByteString) (pad : UInt8) {scan : ℕ} (within : scan ≤ plain.length)
    (bad : ℕ) :
    ∃ result, scanPadding plain pad.toNat scan bad = .ok result ∧
      (result = 0 ↔ bad = 0 ∧ ∀ index < scan, index ≤ pad.toNat →
        octetAt plain (plain.length - 1 - index) = .ok pad) := by
  induction scan with
  | zero => exact ⟨bad, rfl, by simp⟩
  | succ scan ih =>
      rcases ih (by omega) with ⟨before, ran, clean⟩
      have found := octetAt_ok (by omega : plain.length - 1 - scan < plain.length)
      unfold scanPadding at ran ⊢
      rw [List.range_succ, List.foldlM_append, ran]
      simp only [List.foldlM_cons, List.foldlM_nil, Fallible.ok_bind, found]
      refine ⟨_, rfl, ?_⟩
      rw [Nat.or_eq_zero_iff, clean, and_assoc]
      refine and_congr_right fun _ => ⟨fun ⟨earlier, last⟩ index below short => ?_,
        fun all => ⟨fun index below => all index (by omega), ?_⟩⟩
      · rcases Nat.lt_succ_iff_lt_or_eq.mp below with earlierIndex | rfl
        · exact earlier index earlierIndex short
        · rw [if_pos short, xor_eq_zero_iff, UInt8.toNat_inj] at last
          rw [found, last]
      · split_ifs with short
        · have same := all scan (by omega) short
          rw [found, Except.ok.injEq] at same
          rw [same, Nat.xor_self]
        · rfl

/-- The octets within the padding are it exactly when the text ends with them. -/
theorem forall_octetAt_iff {plain : ByteString} {pad : UInt8}
    (fits : pad.toNat + 1 ≤ plain.length) :
    (∀ index ≤ pad.toNat, octetAt plain (plain.length - 1 - index) = .ok pad) ↔
      plain.drop (plain.length - pad.toNat - 1) = List.replicate (pad.toNat + 1) pad := by
  rw [List.eq_replicate_iff, List.length_drop]
  refine ⟨fun all => ⟨by omega, fun octet member => ?_⟩, fun ⟨_, all⟩ index short => ?_⟩
  · rcases List.mem_iff_getElem?.mp member with ⟨index, found⟩
    have below := (List.getElem?_eq_some_iff.mp found).1
    rw [List.length_drop] at below
    rw [List.getElem?_drop] at found
    have last := octetAt_eq_ok.mp (all (pad.toNat - index) (by omega))
    rw [show plain.length - 1 - (pad.toNat - index) = plain.length - pad.toNat - 1 + index by omega,
      found, Option.some.injEq] at last
    exact last
  · have inside : plain.length - 1 - index < plain.length := by omega
    rw [octetAt_ok inside, Except.ok.injEq]
    apply all
    refine List.mem_iff_getElem?.mpr ⟨pad.toNat - index, ?_⟩
    rw [List.getElem?_drop, show plain.length - pad.toNat - 1 + (pad.toNat - index) =
      plain.length - 1 - index by omega, List.getElem?_eq_getElem inside]

/-! ### The fragments that are opened -/

section Unprotect

variable {primitives : Primitives} {transform : Transform} {epoch seq : ℕ} {contentType : UInt8}
  {fragment payload : ByteString}

/-- The text of a fragment under the read key. -/
def decrypted (primitives : Primitives) (transform : Transform) (fragment : ByteString) :
    ByteString :=
  primitives.aesCbcDecrypt transform.decKey (fragment.take block) (fragment.drop block)

/-- The shortest length of a fragment, and its alignment. -/
def Aligned (fragment : ByteString) : Prop :=
  block * 2 ≤ fragment.length ∧ block ∣ fragment.length

/-- A fragment holds a payload: it decrypts to the payload, its MAC and a padding. -/
def Holds (primitives : Primitives) (transform : Transform) (epoch seq : ℕ) (contentType : UInt8)
    (fragment payload : ByteString) : Prop :=
  Aligned fragment ∧ ∃ pad : UInt8, transform.decrypted primitives fragment =
    payload ++ primitives.hmacSha256 transform.macDec (macBytes epoch seq contentType payload) ++
      List.replicate (pad.toNat + 1) pad

theorem not_refused_iff : ¬(fragment.length < block * 2 ∨ (fragment.length - block) % block ≠ 0) ↔
    Aligned fragment := by
  unfold Aligned block
  omega

theorem length_decrypted (aligned : Aligned fragment) :
    (transform.decrypted primitives fragment).length = fragment.length - block := by
  have divides : block ∣ (fragment.drop block).length := by
    rw [List.length_drop]
    exact Nat.dvd_sub aligned.2 (dvd_refl block)
  rw [decrypted, primitives.length_aesCbcDecrypt _ _ _ divides, List.length_drop]

variable (primitives transform) in
theorem exists_last (aligned : Aligned fragment) :
    ∃ last, octetAt (transform.decrypted primitives fragment)
      ((transform.decrypted primitives fragment).length - 1) = .ok last := by
  refine ⟨_, octetAt_ok (Nat.sub_one_lt ?_)⟩
  have long := aligned.1
  rw [length_decrypted aligned]
  unfold block at *
  omega

/-- A text without what a padding of some length takes, split before its MAC. -/
def split (plain : ByteString) (pad : ℕ) : ByteString × ByteString :=
  let content := plain.take (plain.length - pad - 1)
  (content.take (content.length - macLen), content.drop (content.length - macLen))

/-- The padding that the last octet announces, when it fits. -/
def announced (last : UInt8) (plain : ByteString) : UInt8 :=
  if last.toNat + 1 + macLen ≤ plain.length then last else 0

variable (epoch seq contentType) in
/-- What `unprotect` decides, once the text is there and its last octet is known. -/
theorem unprotect_eq (aligned : Aligned fragment) {last : UInt8}
    (ends : octetAt (transform.decrypted primitives fragment)
      ((transform.decrypted primitives fragment).length - 1) = .ok last) :
    let plain := transform.decrypted primitives fragment
    let pad := announced last plain
    ∃ bad, (bad = 0 ↔ last.toNat + 1 + macLen ≤ plain.length ∧
        plain.drop (plain.length - pad.toNat - 1) = List.replicate (pad.toNat + 1) pad) ∧
      transform.unprotect primitives epoch seq contentType fragment = do
        let input ← macInput epoch seq contentType (split plain pad.toNat).1
        return if (if (split plain pad.toNat).2 = primitives.hmacSha256 transform.macDec input
          then bad else 1) ≠ 0 then none else some (split plain pad.toNat).1 := by
  intro plain pad
  have length : plain.length = fragment.length - block := length_decrypted aligned
  have padded : (if last.toNat + 1 + macLen ≤ plain.length then last.toNat else 0) =
      pad.toNat := by
    simp only [pad, announced]
    split_ifs <;> rfl
  have small : pad.toNat + 1 ≤ plain.length ∧ pad.toNat < maxPadScan := by
    have below := last.toNat_lt
    have long := aligned.1
    rw [← padded]
    unfold block maxPadScan at *
    split_ifs <;> omega
  rcases scanPadding_ok plain pad (min_le_left plain.length maxPadScan)
    (if last.toNat + 1 + macLen ≤ plain.length then 0 else 1) with ⟨bad, scanned, clean⟩
  refine ⟨bad, ?_, ?_⟩
  · rw [clean, ← forall_octetAt_iff small.1]
    refine and_congr (by split_ifs with fits <;> simp [fits]) ?_
    refine ⟨fun all index short => all index (by omega) short, fun all index _ => all index⟩
  · unfold unprotect
    rw [if_neg (not_refused_iff.mpr aligned), show primitives.aesCbcDecrypt transform.decKey
      (fragment.take block) (fragment.drop block) = plain from rfl]
    dsimp only
    rw [ends, Fallible.ok_bind, padded, scanned, Fallible.ok_bind]
    rfl

theorem split_append (plain : ByteString) (pad : ℕ) :
    (split plain pad).1 ++ (split plain pad).2 ++ plain.drop (plain.length - pad - 1) = plain := by
  unfold split
  rw [List.take_append_drop, List.take_append_drop]

theorem split_of_append {plain mac padding : ByteString} {pad : ℕ} (macLength : mac.length = macLen)
    (paddingLength : padding.length = pad + 1) (parts : plain = payload ++ mac ++ padding) :
    split plain pad = (payload, mac) ∧ plain.drop (plain.length - pad - 1) = padding := by
  have content : plain.length - pad - 1 = (payload ++ mac).length := by
    rw [parts, List.length_append, paddingLength]
    omega
  have before : (payload ++ mac).length - macLen = payload.length := by
    rw [List.length_append, macLength]
    omega
  unfold split
  rw [content, parts, List.take_left' rfl, List.drop_left' rfl]
  dsimp only
  rw [before, List.take_left' rfl, List.drop_left' rfl]
  exact ⟨rfl, rfl⟩

/-- A fragment that holds a payload is opened to it. -/
theorem unprotect_of_holds (epochFits : epoch < 2 ^ 16) (seqFits : seq < 2 ^ 48)
    (fits : payload.length ≤ 0xFFFF)
    (holds : Holds primitives transform epoch seq contentType fragment payload) :
    transform.unprotect primitives epoch seq contentType fragment = .ok (some payload) := by
  rcases holds with ⟨aligned, pad, parts⟩
  rcases split_of_append (primitives.length_hmacSha256 _ _) List.length_replicate parts with
    ⟨halves, padding⟩
  have long : pad.toNat + 1 + macLen ≤ (transform.decrypted primitives fragment).length := by
    rw [parts, List.length_append, List.length_append, primitives.length_hmacSha256,
      List.length_replicate]
    omega
  have ends := (forall_octetAt_iff (by omega)).mpr padding 0 (Nat.zero_le _)
  have same : announced pad (transform.decrypted primitives fragment) = pad := if_pos long
  rcases unprotect_eq epoch seq contentType aligned ends with ⟨bad, clean, opened⟩
  rw [same] at clean opened
  rw [opened, halves, macInput_ok epochFits seqFits contentType fits, Fallible.ok_bind, if_pos rfl,
    clean.mpr ⟨long, padding⟩]
  rfl

/-- What is opened to a payload holds it. -/
theorem holds_of_unprotect (epochFits : epoch < 2 ^ 16) (seqFits : seq < 2 ^ 48)
    (opened : transform.unprotect primitives epoch seq contentType fragment = .ok (some payload)) :
    Holds primitives transform epoch seq contentType fragment payload := by
  by_cases aligned : Aligned fragment
  · rcases exists_last primitives transform aligned with ⟨last, ends⟩
    rcases unprotect_eq epoch seq contentType aligned ends with ⟨bad, clean, ran⟩
    rw [ran] at opened
    rcases Fallible.bind_eq_ok.mp opened with ⟨input, macRan, decided⟩
    have fits := length_le_of_macInput macRan
    rw [macInput_ok epochFits seqFits contentType fits, Except.ok.injEq] at macRan
    subst macRan
    refine ⟨aligned, announced last (transform.decrypted primitives fragment), ?_⟩
    have result := Except.ok.inj decided
    split_ifs at result with authentic deviates never
    · rcases clean.mp (not_not.mp deviates) with ⟨-, padding⟩
      rw [Option.some.injEq] at result
      rw [← result, ← authentic, ← padding, split_append]
    · exact absurd Nat.one_ne_zero never
  · unfold unprotect at opened
    rw [if_pos (not_imp_comm.mp not_refused_iff.mp aligned)] at opened
    cases opened

variable (primitives transform contentType) in
theorem unprotect_total (epochFits : epoch < 2 ^ 16) (seqFits : seq < 2 ^ 48)
    (fits : fragment.length ≤ 0xFFFF) :
    ∃ result, transform.unprotect primitives epoch seq contentType fragment = .ok result := by
  by_cases aligned : Aligned fragment
  · rcases exists_last primitives transform aligned with ⟨last, ends⟩
    rcases unprotect_eq epoch seq contentType aligned ends with ⟨bad, -, ran⟩
    have shorter (pad : ℕ) :
        (split (transform.decrypted primitives fragment) pad).1.length ≤ 0xFFFF := by
      simp only [split, List.length_take, length_decrypted aligned]
      omega
    rw [ran, macInput_ok epochFits seqFits contentType (shorter _)]
    exact ⟨_, rfl⟩
  · unfold unprotect
    rw [if_pos (not_imp_comm.mp not_refused_iff.mp aligned)]
    exact ⟨none, rfl⟩

/-- A payload is shorter than the fragment that holds it. -/
theorem Holds.length_le
    (holds : Holds primitives transform epoch seq contentType fragment payload) :
    payload.length ≤ fragment.length := by
  rcases holds with ⟨aligned, pad, parts⟩
  have total := congrArg List.length parts
  rw [length_decrypted aligned] at total
  simp only [List.length_append] at total
  omega

variable (primitives transform contentType) in
/-- The fragments that a record can carry are opened or refused, and a payload is shorter. -/
theorem unprotect_cases (epochFits : epoch < 2 ^ 16) (seqFits : seq < 2 ^ 48)
    (fits : fragment.length ≤ 0xFFFF) :
    transform.unprotect primitives epoch seq contentType fragment = .ok none ∨
      ∃ payload, transform.unprotect primitives epoch seq contentType fragment =
        .ok (some payload) ∧ payload.length ≤ fragment.length := by
  rcases unprotect_total primitives transform contentType epochFits seqFits fits with
    ⟨_ | payload, ran⟩
  · exact .inl ran
  · exact .inr ⟨payload, ran, (holds_of_unprotect epochFits seqFits ran).length_le⟩

end Unprotect

/-! ### The fragments that are made -/

theorem bytesOf_replicate (count : ℕ) {value : ℕ} (fits : value < 256) :
    bytesOf (List.replicate count value) = .ok (List.replicate count (UInt8.ofNat value)) := by
  unfold bytesOf
  rw [if_pos, List.map_replicate]
  rw [List.all_replicate]
  simp [fits]

/-- The padding and its length octet fill the last block. -/
theorem padding_fills (length : ℕ) :
    let pad := block - (length + 1) % block
    let pad := if pad = block then 0 else pad
    pad < block ∧ block ∣ length + (pad + 1) := by
  dsimp only
  split_ifs with full
  all_goals
    unfold block at *
    omega

/-- A payload is protected, and the other side holds it. -/
theorem protect_ok (primitives : Primitives) (transform : Transform) {epoch seq : ℕ}
    (epochFits : epoch < 2 ^ 16) (seqFits : seq < 2 ^ 48) (contentType : UInt8)
    {iv payload : ByteString} (ivLength : iv.length = block) (fits : payload.length ≤ 0xFFFF) :
    ∃ fragment, transform.protect primitives iv epoch seq contentType payload = .ok fragment ∧
      Holds primitives transform.peer epoch seq contentType fragment payload := by
  unfold protect
  rw [macInput_ok epochFits seqFits contentType fits, Fallible.ok_bind]
  extract_lets content padding pad
  have padBound : pad < block ∧ block ∣ content.length + (pad + 1) := padding_fills content.length
  have small : pad < 256 := padBound.1.trans (by decide)
  rw [bytesOf_replicate (pad + 1) small, Fallible.ok_bind]
  refine ⟨_, rfl, ?_, UInt8.ofNat pad, ?_⟩
  all_goals
    have aligned : block ∣ (content ++ List.replicate (pad + 1) (UInt8.ofNat pad)).length := by
      rw [List.length_append, List.length_replicate]
      exact padBound.2
  · have macLength : macLen ≤ content.length := by
      rw [List.length_append, primitives.length_hmacSha256]
      exact Nat.le_add_left _ _
    have total : (iv ++ primitives.aesCbcEncrypt transform.encKey iv
        (content ++ List.replicate (pad + 1) (UInt8.ofNat pad))).length =
        block + (content.length + (pad + 1)) := by
      rw [List.length_append, primitives.length_aesCbcEncrypt _ _ _ aligned, ivLength,
        List.length_append, List.length_replicate]
    refine ⟨?_, ?_⟩
    · rw [total]
      unfold block macLen at *
      omega
    · rw [total]
      exact Nat.dvd_add (dvd_refl block) padBound.2
  · unfold decrypted
    rw [List.take_left' ivLength, List.drop_left' ivLength]
    have read := primitives.aesCbcDecrypt_encrypt transform.encKey iv _ aligned
    rw [show transform.peer.decKey = transform.encKey from rfl, read, UInt8.toNat_ofNat',
      Nat.mod_eq_of_lt small]
    rfl

end Transform

/-- What `protect` makes is opened by the other side, and only what holds a payload is opened. -/
theorem record_protection_exact (primitives : Primitives) (transform : Transform) {epoch seq : ℕ}
    (epochFits : epoch < 2 ^ 16) (seqFits : seq < 2 ^ 48) (contentType : UInt8) :
    (∀ iv payload, iv.length = block → payload.length ≤ 0xFFFF →
      ∃ fragment, transform.protect primitives iv epoch seq contentType payload = .ok fragment ∧
        transform.peer.unprotect primitives epoch seq contentType fragment =
          .ok (some payload)) ∧
    (∀ fragment, fragment.length ≤ 0xFFFF →
      ∃ result, transform.unprotect primitives epoch seq contentType fragment = .ok result ∧
        ∀ payload, result = some payload ↔
          transform.Holds primitives epoch seq contentType fragment payload) ∧
    (∀ epoch' seq' contentType' payload payload', epoch' < 2 ^ 16 → seq' < 2 ^ 48 →
      payload.length ≤ 0xFFFF → payload'.length ≤ 0xFFFF →
      Transform.macInput epoch seq contentType payload =
        Transform.macInput epoch' seq' contentType' payload' →
      epoch = epoch' ∧ seq = seq' ∧ contentType = contentType' ∧ payload = payload') := by
  refine ⟨fun iv payload ivLength fits => ?_, fun fragment fits => ?_, ?_⟩
  · rcases Transform.protect_ok primitives transform epochFits seqFits contentType ivLength fits
      with ⟨fragment, made, holds⟩
    exact ⟨fragment, made, Transform.unprotect_of_holds epochFits seqFits fits holds⟩
  · rcases Transform.unprotect_total primitives transform contentType epochFits seqFits fits with
      ⟨result, ran⟩
    refine ⟨result, ran, fun payload => ⟨?_, fun holds => ?_⟩⟩
    · rintro rfl
      exact Transform.holds_of_unprotect epochFits seqFits ran
    · have shorter := holds.length_le.trans fits
      rw [Transform.unprotect_of_holds epochFits seqFits shorter holds, Except.ok.injEq] at ran
      exact ran.symm
  · intro epoch' seq' contentType' payload payload' epochFits' seqFits' fits fits' same
    rw [Transform.macInput_ok epochFits seqFits contentType fits,
      Transform.macInput_ok epochFits' seqFits' contentType' fits', Except.ok.injEq] at same
    exact Transform.macBytes_injective epochFits epochFits' seqFits seqFits' same

open Recording in
/-- The payload of a recorded record. -/
theorem record_protection_exact_example :
    let fragment := (Sample.ciphers.drop 2).take 1 |>.flatMap fun cipher =>
      cipher.iv ++ cipher.cipher
    (Sample.keys.unprotect sample.primitives 1 1 23 fragment = .ok (some [5, 6])) ∧
    (∀ fragment, fragment.length ≤ 0xFFFF →
      ∃ result, Sample.keys.unprotect sample.primitives 1 1 23 fragment = .ok result ∧
        ∀ payload, result = some payload ↔
          Sample.keys.Holds sample.primitives 1 1 23 fragment payload) := by
  intro fragment
  refine ⟨by decide +kernel, ?_⟩
  exact (record_protection_exact sample.primitives Sample.keys (by decide) (by decide) 23).2.1

end SmartThingsLocal
