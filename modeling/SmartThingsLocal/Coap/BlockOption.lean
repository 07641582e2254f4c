import SmartThingsLocal.Coap.DatagramCodec

/-!
# Block option values

`block_value` and `block_fields` are inverse to each other on the values of RFC 7959:
a block number of 20 bits, the more bit and an SZX of three bits.
-/

namespace SmartThingsLocal

/-- The integer of a Block option. -/
def blockOptionNat (num more szx : ℕ) : ℕ := num * 16 + more * 8 + szx

variable {num more szx : ℕ}

theorem blockOptionNat_eq (num : ℕ) (bit : more < 2) (octal : szx < 8) :
    (num <<< 4) ||| ((more &&& 1) <<< 3) ||| (szx &&& 7) = blockOptionNat num more szx := by
  have low : ∀ more < 2, ∀ szx < 8,
      ((more &&& 1) <<< 3) ||| (szx &&& 7) = more * 8 + szx := by decide
  rw [Nat.or_assoc, low more bit szx octal, ByteString.shiftLeft_or_eq num (by omega),
    blockOptionNat, add_assoc]

theorem blockFields_of_toNat {value : ByteString} (bit : more < 2) (octal : szx < 8)
    (isValue : ByteString.toNat value = blockOptionNat num more szx) :
    blockFields value = (num, more, szx) := by
  have more_eq : (num * 16 + more * 8 + szx) >>> 3 &&& 1 = more := by
    rw [Nat.and_one_is_mod, Nat.shiftRight_eq_div_pow]
    omega
  have szx_eq : num * 16 + more * 8 + szx &&& 0x07 = szx := by
    rw [show (0x07 : ℕ) = 2 ^ 3 - 1 from rfl, Nat.and_two_pow_sub_one_eq_mod]
    omega
  have num_eq : (num * 16 + more * 8 + szx) >>> 4 = num := by
    rw [Nat.shiftRight_eq_div_pow]
    omega
  simp only [blockFields, isValue, blockOptionNat, num_eq, more_eq, szx_eq]

/-- A block number of 20 bits is encoded in at most three octets and read back. -/
theorem blockValue_ok (numFits : num < 2 ^ 20) (bit : more < 2) (octal : szx < 8) :
    ∃ value, blockValue num more szx = .ok value ∧ value.length ≤ 3 ∧
      blockFields value = (num, more, szx) := by
  have fits : blockOptionNat num more szx < 2 ^ 24 := by
    unfold blockOptionNat
    omega
  simp only [blockValue, blockOptionNat_eq num bit octal]
  split_ifs with one two
  · refine ⟨_, bytesOf_singleton (by omega), by simp, ?_⟩
    apply blockFields_of_toNat bit octal
    rw [ByteString.toNat_singleton, UInt8.toNat_ofNat']
    omega
  · refine ⟨_, if_pos two, by simp, ?_⟩
    apply blockFields_of_toNat bit octal
    exact ByteString.toNat_ofNat (by omega)
  · refine ⟨ByteString.ofNat 3 (blockOptionNat num more szx), ?_, by simp, ?_⟩
    · rw [packI, if_pos (by omega), Fallible.map_ok, ByteString.drop_ofNat]
    · apply blockFields_of_toNat bit octal
      exact ByteString.toNat_ofNat (by omega)

end SmartThingsLocal
