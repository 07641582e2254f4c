import Mathlib.Tactic

/-!
# Integers as decimal text

Writing integers in decimal, with or without a leading zero, and reading them back as `int` does:
blanks around the text, a sign, and digits with single underscores between them. Which characters
are digits and blanks is left to the tables of the character set.
-/

/-- The digits that `int` reads and `str` writes at most; they raise for more. -/
def maxStrDigits : ℕ := 4300

/-- The characters that stand for decimal digits, and those that are blank. -/
structure TextTables where
  digit : Char → Option ℕ
  blank : Char → Bool
  digit_ascii : ∀ char, char.isDigit = true → digit char = some (char.toNat - '0'.toNat)
  blank_digit : ∀ char, char.isDigit = true → blank char = false
  blank_minus : blank '-' = false

namespace TextTables

/-- The tables of the ASCII characters. -/
def ascii : TextTables where
  digit char := if char.isDigit then some (char.toNat - '0'.toNat) else none
  blank char := char.isWhitespace
  digit_ascii char isDigit := if_pos isDigit
  blank_digit char isDigit := by
    simp only [Char.isDigit, Bool.and_eq_true, decide_eq_true_eq] at isDigit
    simp only [Char.isWhitespace, Bool.or_eq_false_iff, decide_eq_false_iff_not]
    refine ⟨⟨⟨?_, ?_⟩, ?_⟩, ?_⟩ <;> rintro rfl <;> exact absurd isDigit.1 (by decide)
  blank_minus := by decide

variable (tables : TextTables)

/-- The digits that follow a value read so far. -/
def digitsFrom (value : ℕ) : List Char → Option ℕ
  | [] => some value
  | [char] => (tables.digit char).map (10 * value + ·)
  | char :: next :: rest =>
      if char = '_' then
        (tables.digit next).bind fun digit => digitsFrom (10 * value + digit) rest
      else (tables.digit char).bind fun digit => digitsFrom (10 * value + digit) (next :: rest)

def natText : List Char → Option ℕ
  | [] => none
  | char :: rest => (tables.digit char).bind fun digit => tables.digitsFrom digit rest

/-- The text without the blanks around it. -/
def strip (text : List Char) : List Char :=
  ((text.dropWhile tables.blank).reverse.dropWhile tables.blank).reverse

/-- The integer that a text stands for. -/
def intText (text : List Char) : Option ℤ :=
  match tables.strip text with
  | '-' :: rest => (tables.natText rest).map fun value => -Int.ofNat value
  | '+' :: rest => (tables.natText rest).map Int.ofNat
  | rest => (tables.natText rest).map Int.ofNat

/-- `int` of a text, which has a limit on the number of digits. -/
def limitedIntText (text : List Char) : Option ℤ :=
  if (text.filter fun char => (tables.digit char).isSome).length > maxStrDigits then none
  else tables.intText text

end TextTables

/-- `str` of an integer. -/
def decimalText : ℤ → List Char
  | .ofNat n => Nat.toDigits 10 n
  | .negSucc n => '-' :: Nat.toDigits 10 (n + 1)

/-- An integer in the format `02d`. -/
def paddedText (n : ℤ) : List Char :=
  if (decimalText n).length < 2 then '0' :: decimalText n else decimalText n

theorem isDigit_of_mem_toDigits {n : ℕ} {char : Char} (charMem : char ∈ Nat.toDigits 10 n) :
    char.isDigit = true :=
  Nat.isDigit_of_mem_toDigits (by decide) (by decide) charMem

theorem mem_decimalText {n : ℤ} {char : Char} (charMem : char ∈ decimalText n) :
    char = '-' ∨ char.isDigit = true := by
  cases n with
  | ofNat n => exact .inr (isDigit_of_mem_toDigits charMem)
  | negSucc n =>
      rcases List.mem_cons.mp charMem with rfl | digit
      · exact .inl rfl
      · exact .inr (isDigit_of_mem_toDigits digit)

theorem mem_paddedText {n : ℤ} {char : Char} (charMem : char ∈ paddedText n) :
    char = '-' ∨ char.isDigit = true := by
  rw [paddedText] at charMem
  split_ifs at charMem
  · rcases List.mem_cons.mp charMem with rfl | rest
    · exact .inr rfl
    · exact mem_decimalText rest
  · exact mem_decimalText charMem

namespace TextTables

variable {tables : TextTables}

theorem digitsFrom_digits (value : ℕ) {digits : List Char}
    (allDigits : ∀ char ∈ digits, char.isDigit = true) :
    tables.digitsFrom value digits = some (Nat.ofDigitChars 10 digits value) := by
  induction digits generalizing value with
  | nil => rw [digitsFrom, Nat.ofDigitChars_nil]
  | cons char rest ih =>
      rcases List.forall_mem_cons.mp allDigits with ⟨isDigit, restDigits⟩
      rw [Nat.ofDigitChars_cons]
      rcases rest with _ | ⟨next, rest⟩
      · rw [digitsFrom, tables.digit_ascii char isDigit, Nat.ofDigitChars_nil, Option.map_some]
      · have plain : char ≠ '_' := by
          rintro rfl
          cases isDigit
        rw [digitsFrom, if_neg plain, tables.digit_ascii char isDigit, Option.bind_some,
          ih _ restDigits]

theorem natText_digits {digits : List Char} (nonempty : digits ≠ [])
    (allDigits : ∀ char ∈ digits, char.isDigit = true) :
    tables.natText digits = some (Nat.ofDigitChars 10 digits 0) := by
  rcases digits with _ | ⟨char, rest⟩
  · exact absurd rfl nonempty
  · rcases List.forall_mem_cons.mp allDigits with ⟨isDigit, restDigits⟩
    rw [natText, tables.digit_ascii char isDigit, Option.bind_some,
      digitsFrom_digits _ restDigits, Nat.ofDigitChars_cons, Nat.mul_zero, Nat.zero_add]

theorem natText_toDigits (n : ℕ) : tables.natText (Nat.toDigits 10 n) = some n := by
  rw [natText_digits Nat.toDigits_ne_nil fun char => isDigit_of_mem_toDigits,
    Nat.ofDigitChars_ten_toDigits]

/-- A text without blanks is not stripped. -/
theorem strip_eq_self {text : List Char} (unblank : ∀ char ∈ text, tables.blank char = false) :
    tables.strip text = text := by
  have kept {text : List Char} (unblank : ∀ char ∈ text, tables.blank char = false) :
      text.dropWhile tables.blank = text := by
    rcases text with _ | ⟨char, rest⟩
    · rfl
    · exact List.dropWhile_cons_of_neg (by simp [unblank char List.mem_cons_self])
  rw [strip, kept unblank, kept, List.reverse_reverse]
  intro char charMem
  exact unblank char (List.mem_reverse.mp charMem)

theorem blank_of_sign_or_digit {char : Char} (plain : char = '-' ∨ char.isDigit = true) :
    tables.blank char = false := by
  rcases plain with rfl | isDigit
  · exact tables.blank_minus
  · exact tables.blank_digit char isDigit

/-- A text of digits is read as their value. -/
theorem intText_digits {digits : List Char} (nonempty : digits ≠ [])
    (allDigits : ∀ char ∈ digits, char.isDigit = true) :
    tables.intText digits = some (Nat.ofDigitChars 10 digits 0 : ℤ) := by
  rw [intText, strip_eq_self fun char charMem => tables.blank_digit char (allDigits char charMem)]
  rcases digits with _ | ⟨char, rest⟩
  · exact absurd rfl nonempty
  · have isDigit := allDigits char List.mem_cons_self
    have minus : char ≠ '-' := by
      rintro rfl
      cases isDigit
    have plus : char ≠ '+' := by
      rintro rfl
      cases isDigit
    split
    · rename_i same
      exact absurd (List.cons.inj same).1 minus
    · rename_i same
      exact absurd (List.cons.inj same).1 plus
    · rw [natText_digits nonempty allDigits, Option.map_some]
      rfl

theorem intText_decimalText (n : ℤ) : tables.intText (decimalText n) = some n := by
  cases n with
  | ofNat n =>
      rw [decimalText, intText_digits Nat.toDigits_ne_nil fun char => isDigit_of_mem_toDigits,
        Nat.ofDigitChars_ten_toDigits]
      rfl
  | negSucc n =>
      rw [intText, strip_eq_self fun char charMem =>
        blank_of_sign_or_digit (mem_decimalText charMem), decimalText]
      change (tables.natText (Nat.toDigits 10 (n + 1))).map _ = _
      rw [natText_toDigits]
      rfl

theorem intText_paddedText (n : ℤ) : tables.intText (paddedText n) = some n := by
  rw [paddedText]
  split_ifs with short
  · cases n with
    | ofNat n =>
        have allDigits : ∀ char ∈ '0' :: Nat.toDigits 10 n, char.isDigit = true :=
          List.forall_mem_cons.mpr ⟨rfl, fun char => isDigit_of_mem_toDigits⟩
        rw [decimalText, intText_digits (List.cons_ne_nil _ _) allDigits, Nat.ofDigitChars_cons]
        simp
    | negSucc n =>
        have digits := List.length_pos_iff.mpr (Nat.toDigits_ne_nil : Nat.toDigits 10 (n + 1) ≠ [])
        rw [decimalText, List.length_cons] at short
        omega
  · exact intText_decimalText n

end TextTables
