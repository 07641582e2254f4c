import Mathlib.Tactic

/-!
# Byte strings and big-endian integers

Byte strings are lists of octets. `ByteString.toNat` and `ByteString.ofNat` are
the two directions of big-endian integer coding: the first reads a whole byte
string, the second writes a value into a fixed number of octets. They invert
each other on values that fit, which is what every length field, Message ID and
option value below rests on.
-/

abbrev ByteString := List UInt8

instance : LawfulBEq ByteString := inferInstance

namespace ByteString

/-- The big-endian value of a byte string; the empty string is zero. -/
def toNat (bytes : ByteString) : ℕ :=
  bytes.foldl (fun value byte => value * 256 + byte.toNat) 0

/-- The last `width` base-256 digits of a value, most significant first. -/
def ofNat : ℕ → ℕ → ByteString
  | 0, _ => []
  | width + 1, value => ofNat width (value / 256) ++ [UInt8.ofNat value]

@[simp]
theorem toNat_nil : toNat [] = 0 := rfl

@[simp]
theorem toNat_singleton (byte : UInt8) : toNat [byte] = byte.toNat := by
  simp [toNat]

@[simp]
theorem toNat_concat (bytes : ByteString) (byte : UInt8) :
    toNat (bytes ++ [byte]) = toNat bytes * 256 + byte.toNat := by
  simp [toNat]

@[simp]
theorem length_ofNat (width value : ℕ) : (ofNat width value).length = width := by
  induction width generalizing value with
  | zero => rfl
  | succ width ih => simp [ofNat, ih]

/-- The most significant digit comes first. -/
theorem drop_ofNat (width value : ℕ) : (ofNat (width + 1) value).drop 1 = ofNat width value := by
  induction width generalizing value with
  | zero => rfl
  | succ width ih =>
      rw [ofNat, List.drop_append_of_le_length (by simp), ih]
      rfl

theorem toNat_lt (bytes : ByteString) : toNat bytes < 256 ^ bytes.length := by
  induction bytes using List.reverseRecOn with
  | nil => simp
  | append_singleton bytes byte ih =>
      have byte_lt := byte.toNat_lt
      simp only [toNat_concat, List.length_append, List.length_singleton, pow_succ]
      omega

/-- The digits of a value are those of its remainder. -/
theorem toNat_ofNat_mod (width value : ℕ) : toNat (ofNat width value) = value % 256 ^ width := by
  induction width generalizing value with
  | zero => simp [ofNat, Nat.mod_one]
  | succ width ih =>
      have split : value % (256 * 256 ^ width) = value % 256 + 256 * (value / 256 % 256 ^ width) :=
        Nat.mod_mul
      rw [pow_succ' 256 width, split, ofNat, toNat_concat, ih, UInt8.toNat_ofNat']
      omega

theorem toNat_ofNat {width value : ℕ} (fits : value < 256 ^ width) :
    toNat (ofNat width value) = value := by
  rw [toNat_ofNat_mod, Nat.mod_eq_of_lt fits]

@[simp]
theorem ofNat_toNat (bytes : ByteString) : ofNat bytes.length (toNat bytes) = bytes := by
  induction bytes using List.reverseRecOn with
  | nil => rfl
  | append_singleton bytes byte ih =>
      have byte_lt := byte.toNat_lt
      have high : (toNat bytes * 256 + byte.toNat) / 256 = toNat bytes := by omega
      have low : UInt8.ofNat (toNat bytes * 256 + byte.toNat) = byte := by
        apply UInt8.toNat_inj.mp
        rw [UInt8.toNat_ofNat']
        omega
      simp only [List.length_append, List.length_singleton, ofNat, toNat_concat, high, ih, low]

/-- A byte string of known width is determined by its value. -/
theorem eq_ofNat {bytes : ByteString} {width : ℕ} (length : bytes.length = width) :
    bytes = ofNat width (toNat bytes) := by
  subst length
  exact (ofNat_toNat bytes).symm

theorem toNat_cons (byte : UInt8) (bytes : ByteString) :
    toNat (byte :: bytes) = byte.toNat * 256 ^ bytes.length + toNat bytes := by
  induction bytes using List.reverseRecOn with
  | nil => simp
  | append_singleton bytes last ih =>
      rw [← List.cons_append, toNat_concat, toNat_concat, ih, List.length_append,
        List.length_singleton, pow_succ]
      ring

/-- Byte strings of one length are ordered like their values. -/
theorem lt_iff_toNat_lt {left right : ByteString} (length : left.length = right.length) :
    left < right ↔ toNat left < toNat right := by
  induction left generalizing right with
  | nil =>
      rw [List.length_nil, eq_comm, List.length_eq_zero_iff] at length
      subst length
      simp
  | cons byte left ih =>
      rcases right with _ | ⟨other, right⟩
      · cases length
      · have tails : left.length = right.length := Nat.succ.inj length
        have leftFits := toNat_lt left
        have rightFits := toNat_lt right
        rw [tails] at leftFits
        rw [List.cons_lt_cons_iff, ih tails, toNat_cons, toNat_cons, tails, UInt8.lt_iff_toNat_lt,
          ← UInt8.toNat_inj]
        constructor
        · rintro (lower | ⟨same, lower⟩)
          · have step := Nat.mul_le_mul_right (256 ^ right.length) lower
            rw [Nat.succ_mul] at step
            omega
          · rw [same]
            omega
        · intro lower
          rcases lt_trichotomy byte.toNat other.toNat with less | same | greater
          · exact .inl less
          · rw [same] at lower
            exact .inr ⟨same, by omega⟩
          · have step := Nat.mul_le_mul_right (256 ^ right.length) greater
            rw [Nat.succ_mul] at step
            omega

/-! ### Octets made of two nibbles -/

/-- The octet with a given high and low nibble. -/
def ofNibbles (high low : ℕ) : UInt8 := UInt8.ofNat (high * 16 + low)

theorem nibbles_lt (byte : UInt8) : byte.toNat >>> 4 < 16 ∧ byte.toNat &&& 0x0F < 16 := by
  have byte_lt := byte.toNat_lt
  rw [show (0x0F : ℕ) = 2 ^ 4 - 1 from rfl, Nat.and_two_pow_sub_one_eq_mod,
    Nat.shiftRight_eq_div_pow]
  omega

theorem toNat_ofNibbles {high low : ℕ} (highFits : high < 16) (lowFits : low < 16) :
    (ofNibbles high low).toNat = high * 16 + low := by
  rw [ofNibbles, UInt8.toNat_ofNat']
  omega

theorem ofNibbles_shiftRight {high low : ℕ} (highFits : high < 16) (lowFits : low < 16) :
    (ofNibbles high low).toNat >>> 4 = high := by
  rw [toNat_ofNibbles highFits lowFits, Nat.shiftRight_eq_div_pow]
  omega

theorem ofNibbles_and {high low : ℕ} (highFits : high < 16) (lowFits : low < 16) :
    (ofNibbles high low).toNat &&& 0x0F = low := by
  rw [toNat_ofNibbles highFits lowFits, show (0x0F : ℕ) = 2 ^ 4 - 1 from rfl,
    Nat.and_two_pow_sub_one_eq_mod]
  omega

theorem eq_ofNibbles (byte : UInt8) :
    byte = ofNibbles (byte.toNat >>> 4) (byte.toNat &&& 0x0F) := by
  have byte_lt := byte.toNat_lt
  have fits := nibbles_lt byte
  apply UInt8.toNat_inj.mp
  rw [toNat_ofNibbles fits.1 fits.2, show (0x0F : ℕ) = 2 ^ 4 - 1 from rfl,
    Nat.and_two_pow_sub_one_eq_mod, Nat.shiftRight_eq_div_pow]
  omega

theorem shiftLeft_or_eq (high : ℕ) {low : ℕ} (lowFits : low < 16) :
    (high <<< 4) ||| low = high * 16 + low := by
  rw [← Nat.shiftLeft_add_eq_or_of_lt lowFits, Nat.shiftLeft_eq]

end ByteString
