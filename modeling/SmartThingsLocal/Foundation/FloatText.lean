import SmartThingsLocal.Foundation.Binary64
import SmartThingsLocal.Foundation.DecimalText

/-!
# Text as double-precision numbers

Reading a number as `float` does: blanks around it, a sign, and either a spelled-out infinity or
nan, or digits with a point and an exponent, where single underscores may stand between digits.
-/

namespace TextTables

variable (tables : TextTables)

/-- A run of digits that may be missing. -/
def optionalDigits (text : List Char) : Option ℕ :=
  if text = [] then some 0 else tables.natText text

/-- The number of digits in a run, without the underscores between them. -/
def digitCount (text : List Char) : ℕ := (text.filter (· ≠ '_')).length

/-- Digits on one side of a point at least. -/
def mantissa (text : List Char) : Option ℚ :=
  let whole := text.takeWhile (· ≠ '.')
  let fraction := (text.dropWhile (· ≠ '.')).drop 1
  if whole = [] ∧ fraction = [] then none
  else do
    let units ← tables.optionalDigits whole
    let parts ← tables.optionalDigits fraction
    some (units + parts / 10 ^ digitCount fraction)

/-- An exponent with its letter, zero where there is none. -/
def exponent : List Char → Option ℤ
  | [] => some 0
  | _ :: '-' :: digits => (tables.natText digits).map fun value => -Int.ofNat value
  | _ :: '+' :: digits => (tables.natText digits).map Int.ofNat
  | _ :: digits => (tables.natText digits).map Int.ofNat

def isExponentLetter (char : Char) : Bool := char = 'e' || char = 'E'

/-- A number without its sign. -/
def decimalNumber (text : List Char) : Option ℚ := do
  let number ← tables.mantissa (text.takeWhile (!isExponentLetter ·))
  let power ← tables.exponent (text.dropWhile (!isExponentLetter ·))
  some (number * 10 ^ power)

/-- Whether a text is negative, and the text without its sign. -/
def signed : List Char → Bool × List Char
  | '-' :: rest => (true, rest)
  | '+' :: rest => (false, rest)
  | rest => (false, rest)

def withSign (negative : Bool) (number : ℚ) : ℚ := if negative then -number else number

def infinityWords : List (List Char) :=
  [['i', 'n', 'f'], ['i', 'n', 'f', 'i', 'n', 'i', 't', 'y']]

/-- `float` of a text. -/
def floatText (text : List Char) : Option Binary64 :=
  let (negative, body) := signed (tables.strip text)
  if body.map Char.toLower ∈ infinityWords then some (.infinite negative)
  else if body.map Char.toLower = ['n', 'a', 'n'] then some .nan
  else (tables.decimalNumber body).map fun number => .ofRat (withSign negative number)

/-- The text spells an infinity out, or a number beyond the finite ones. -/
def ReadsInfinite (text : List Char) : Prop :=
  let body := (signed (tables.strip text)).2
  body.map Char.toLower ∈ infinityWords ∨
    body.map Char.toLower ≠ ['n', 'a', 'n'] ∧
      ∃ number, tables.decimalNumber body = some number ∧ Binary64.overflowBound ≤ |number|

/-- The text spells a nan out. -/
def ReadsNan (text : List Char) : Prop :=
  (signed (tables.strip text)).2.map Char.toLower = ['n', 'a', 'n']

variable {tables} {text : List Char}

theorem abs_withSign (negative : Bool) (number : ℚ) : |withSign negative number| = |number| := by
  cases negative
  · rfl
  · exact abs_neg number

theorem nan_not_mem_infinityWords : ['n', 'a', 'n'] ∉ infinityWords := by decide

theorem floatText_infinite_iff :
    (∃ negative, tables.floatText text = some (.infinite negative)) ↔
      tables.ReadsInfinite text := by
  unfold floatText ReadsInfinite
  generalize signed (tables.strip text) = parts
  rcases parts with ⟨negative, body⟩
  dsimp only
  split_ifs with spelled isNan
  · simp [spelled]
  · simp [isNan, nan_not_mem_infinityWords]
  · simp only [spelled, isNan, ne_eq, not_false_eq_true, true_and, false_or,
      Option.map_eq_some_iff]
    constructor
    · rintro ⟨sign, number, reads, rounded⟩
      have large := Binary64.ofRat_eq_infinite_iff.mp ⟨sign, rounded⟩
      rw [abs_withSign] at large
      exact ⟨number, reads, large⟩
    · rintro ⟨number, reads, large⟩
      rw [← abs_withSign negative] at large
      rcases Binary64.ofRat_eq_infinite_iff.mpr large with ⟨sign, rounded⟩
      exact ⟨sign, number, reads, rounded⟩

theorem floatText_nan_iff : tables.floatText text = some .nan ↔ tables.ReadsNan text := by
  unfold floatText ReadsNan
  generalize signed (tables.strip text) = parts
  rcases parts with ⟨negative, body⟩
  dsimp only
  split_ifs with spelled isNan
  · have differs : body.map Char.toLower ≠ ['n', 'a', 'n'] := fun same =>
      nan_not_mem_infinityWords (same ▸ spelled)
    simp [differs]
  · simp [isNan]
  · simp [isNan, Binary64.ofRat_ne_nan]

/-- A finite number is a rounded one. -/
theorem ofRat_of_floatText {value : ℚ} (reads : tables.floatText text = some (.finite value)) :
    ∃ number, Binary64.ofRat number = .finite value := by
  unfold floatText at reads
  generalize signed (tables.strip text) = parts at reads
  rcases parts with ⟨negative, body⟩
  dsimp only at reads
  split_ifs at reads
  · cases reads
  · cases reads
  · rcases Option.map_eq_some_iff.mp reads with ⟨number, -, rounded⟩
    exact ⟨_, rounded⟩

end TextTables
