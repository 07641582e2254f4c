import SmartThingsLocal.Foundation.PrefixCode
import SmartThingsLocal.Coap.Message

/-!
# The canonical byte form of an option list

The common wire format behind the two separately written option codecs. An
option is a header octet of two nibbles, the extension octets of its delta and
its length, and its value; the list ends at the end of the message or at a
marker octet followed by a payload that is not empty. `optionBytes` writes that
form and `Representable` says which lists have one. Both decoders are shown to
accept exactly these strings, so neither tolerates a second spelling.
-/

namespace SmartThingsLocal

namespace OptionBytes

/-- Largest delta or length an option header can carry. -/
def maxExtended : ℕ := 65804

/-- The nibble announcing a delta or a length. -/
def extendedNibble (value : ℕ) : ℕ :=
  if value < 13 then value else if value < 269 then 13 else 14

/-- The extension octets of a delta or a length. -/
def extendedBytes (value : ℕ) : ByteString :=
  if value < 13 then []
  else if value < 269 then ByteString.ofNat 1 (value - 13)
  else ByteString.ofNat 2 (value - 269)

/-- The header octet of one option. -/
def header (delta length : ℕ) : UInt8 :=
  ByteString.ofNibbles (extendedNibble delta) (extendedNibble length)

/-- The values an extension announced by `nibble` can stand for. -/
def Announced (nibble value : ℕ) : Prop :=
  value ≤ maxExtended ∧ extendedNibble value = nibble

theorem extendedNibble_lt (value : ℕ) : extendedNibble value < 15 := by
  unfold extendedNibble
  split_ifs <;> omega

theorem header_shiftRight (delta length : ℕ) :
    (header delta length).toNat >>> 4 = extendedNibble delta :=
  ByteString.ofNibbles_shiftRight ((extendedNibble_lt delta).trans (by decide))
    ((extendedNibble_lt length).trans (by decide))

theorem header_and (delta length : ℕ) :
    (header delta length).toNat &&& 0x0F = extendedNibble length :=
  ByteString.ofNibbles_and ((extendedNibble_lt delta).trans (by decide))
    ((extendedNibble_lt length).trans (by decide))

/-- No header octet is the payload marker. -/
theorem header_ne_marker (delta length : ℕ) : header delta length ≠ 0xFF := by
  intro marker
  have nibble := header_shiftRight delta length
  rw [marker] at nibble
  exact (extendedNibble_lt delta).ne nibble.symm

/-- An octet is the header of the two values its nibbles announce. -/
theorem eq_header {byte : UInt8} {delta length : ℕ}
    (deltaAnnounced : Announced (byte.toNat >>> 4) delta)
    (lengthAnnounced : Announced (byte.toNat &&& 0x0F) length) :
    byte = header delta length := by
  rw [header, deltaAnnounced.2, lengthAnnounced.2]
  exact ByteString.eq_ofNibbles byte

/-- The option list has an encoding when each option follows a lower or equal number. -/
def Representable : ℕ → List CoapOption → Prop
  | _, [] => True
  | previous, (number, value) :: rest =>
      previous ≤ number ∧ number - previous ≤ maxExtended ∧ value.length ≤ maxExtended ∧
        Representable number rest

/-- The payload with its marker; an empty payload has neither. -/
def payloadBytes (payload : ByteString) : ByteString :=
  if payload = [] then [] else 0xFF :: payload

/-- The bytes of one option after a given option number. -/
def oneOption (previous : ℕ) (option : CoapOption) : ByteString :=
  header (option.1 - previous) option.2.length ::
    (extendedBytes (option.1 - previous) ++ extendedBytes option.2.length ++ option.2)

/-- The bytes of an option list and payload that continue after a given option number. -/
def optionBytes : ℕ → List CoapOption → ByteString → ByteString
  | _, [], payload => payloadBytes payload
  | previous, option :: rest, payload =>
      oneOption previous option ++ optionBytes option.1 rest payload

theorem optionBytes_payload (previous : ℕ) (options : List CoapOption) (payload : ByteString) :
    optionBytes previous options payload =
      optionBytes previous options [] ++ payloadBytes payload := by
  induction options generalizing previous with
  | nil => simp [optionBytes, payloadBytes]
  | cons option rest ih =>
      rw [optionBytes, optionBytes, ih option.1]
      simp

/-- A representable list is sorted by option number. -/
theorem Representable.pairwise {previous : ℕ} {options : List CoapOption}
    (representable : Representable previous options) :
    (∀ option ∈ options, previous ≤ option.1) ∧
      options.Pairwise fun left right => left.1 ≤ right.1 := by
  induction options generalizing previous with
  | nil => simp
  | cons option rest ih =>
      rcases option with ⟨number, value⟩
      rcases representable with ⟨above, _, _, tail⟩
      rcases ih tail with ⟨lower, sorted⟩
      refine ⟨?_, List.pairwise_cons.mpr ⟨lower, sorted⟩⟩
      intro option optionMem
      rcases List.mem_cons.mp optionMem with rfl | restMem
      · exact above
      · exact above.trans (lower option restMem)

theorem Representable.values {previous : ℕ} {options : List CoapOption}
    (representable : Representable previous options) :
    ∀ option ∈ options, option.2.length ≤ maxExtended := by
  induction options generalizing previous with
  | nil => simp
  | cons option rest ih =>
      rcases representable with ⟨_, _, valueFits, tail⟩
      exact List.forall_mem_cons.mpr ⟨valueFits, ih tail⟩

/-- Sorted options within the number and value limits have an encoding. -/
theorem representable_of_sorted {previous : ℕ} {options : List CoapOption}
    (lower : ∀ option ∈ options, previous ≤ option.1)
    (sorted : options.Pairwise fun left right => left.1 ≤ right.1)
    (numbers : ∀ option ∈ options, option.1 ≤ maxExtended)
    (values : ∀ option ∈ options, option.2.length ≤ maxExtended) :
    Representable previous options := by
  induction options generalizing previous with
  | nil => trivial
  | cons option rest ih =>
      rcases option with ⟨number, value⟩
      have head := numbers (number, value) (by simp)
      rw [List.pairwise_cons] at sorted
      refine ⟨lower (number, value) (by simp), by simp only at head; omega,
        values (number, value) (by simp), ?_⟩
      exact ih sorted.1 sorted.2 (fun option optionMem => numbers option (by simp [optionMem]))
        (fun option optionMem => values option (by simp [optionMem]))

/-- The value range of each announcing nibble, read off the three forms. -/
theorem announced_iff (nibble value : ℕ) :
    Announced nibble value ↔
      (nibble < 13 ∧ value = nibble) ∨ (nibble = 13 ∧ 13 ≤ value ∧ value < 13 + 256 ^ 1) ∨
        (nibble = 14 ∧ 269 ≤ value ∧ value < 269 + 256 ^ 2) := by
  unfold Announced extendedNibble maxExtended
  split_ifs <;> omega

theorem extendedBytes_of_lt {value : ℕ} (small : value < 13) : extendedBytes value = [] := by
  simp [extendedBytes, small]

theorem extendedBytes_one {value : ℕ} (lower : 13 ≤ value) (upper : value < 13 + 256 ^ 1) :
    extendedBytes value = ByteString.ofNat 1 (value - 13) := by
  simp only [extendedBytes, if_neg (not_lt.mpr lower), if_pos (show value < 269 by omega)]

theorem extendedBytes_two {value : ℕ} (lower : 269 ≤ value) :
    extendedBytes value = ByteString.ofNat 2 (value - 269) := by
  simp only [extendedBytes, if_neg (show ¬value < 13 by omega),
    if_neg (show ¬value < 269 by omega)]

end OptionBytes

end SmartThingsLocal
