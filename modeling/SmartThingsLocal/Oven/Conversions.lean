import SmartThingsLocal.Foundation.FloatText
import SmartThingsLocal.Foundation.Raising
import SmartThingsLocal.Oven.Program

/-!
# Conversions of numbers

`float`, `int` and `str` on decoded values, with the exceptions they raise, and the helpers `_num`
and `_int` that catch two classes of them.
-/

namespace SmartThingsLocal

open Raising

/-- The classes of the exceptions that the command handlers can meet. -/
inductive PythonException
  | typeError
  | valueError
  | overflowError
  | attributeError
  | keyError
  | recursionError
  | osError
  deriving DecidableEq, Repr

/-- What the interpreter does that is not modelled further: `json.loads`, `str` and `repr`. -/
structure Interpreter where
  tables : TextTables
  loads : String → Except PythonException PyValue
  str : PyValue → Except PythonException String
  repr : PyValue → Except PythonException String

namespace Oven

/-- `except (TypeError, ValueError)`. -/
def isConversionError (error : PythonException) : Bool :=
  error = .typeError || error = .valueError

/-! ### `float` -/

def ofBinary64 : Binary64 → PyValue
  | .finite value => .float value
  | .infinite _ => .infinity
  | .nan => .nan

def refuseInfinite : Binary64 → Except PythonException Binary64
  | .finite value => .ok (.finite value)
  | _ => .error .overflowError

/-- `float`; an integer beyond the finite numbers is refused, a text is read as infinite. -/
def toFloat (tables : TextTables) : PyValue → Except PythonException Binary64
  | .bool value => .ok (.finite (if value then 1 else 0))
  | .int value => refuseInfinite (.ofRat value)
  | .float value => .ok (.finite value)
  | .nan => .ok .nan
  | .infinity => .ok (.infinite false)
  | .str text =>
      match tables.floatText text.toList with
      | some number => .ok number
      | none => .error .valueError
  | .none | .list _ | .dict _ => .error .typeError

/-- `_num`. -/
def num (tables : TextTables) (value : PyValue) : Except PythonException PyValue :=
  handle isConversionError .none ((toFloat tables value).map ofBinary64)

/-! ### `int` and `round` -/

def truncate : Binary64 → Except PythonException ℤ
  | .finite value => .ok (value.num.tdiv value.den)
  | .infinite _ => .error .overflowError
  | .nan => .error .valueError

/-- `round` of a number. -/
def round : Binary64 → Except PythonException ℤ
  | .finite value => .ok (Binary64.roundEven value)
  | .infinite _ => .error .overflowError
  | .nan => .error .valueError

/-- `int`. -/
def toInt (tables : TextTables) : PyValue → Except PythonException ℤ
  | .bool value => .ok (if value then 1 else 0)
  | .int value => .ok value
  | .float value => truncate (.finite value)
  | .nan => truncate .nan
  | .infinity => truncate (.infinite false)
  | .str text =>
      match tables.limitedIntText text.toList with
      | some number => .ok number
      | none => .error .valueError
  | .none | .list _ | .dict _ => .error .typeError

/-- `_int`. -/
def int (tables : TextTables) (value : PyValue) : Except PythonException (Option ℤ) :=
  handle isConversionError none ((toInt tables value).map some)

/-! ### `str` of an integer -/

/-- An integer that `str` and formatting accept: it has at most so many digits. -/
@[irreducible]
def FitsText (number : ℤ) : Prop := (decimalText number.natAbs).length ≤ maxStrDigits

instance (number : ℤ) : Decidable (FitsText number) := by
  unfold FitsText
  infer_instance

/-- `str` of an integer. -/
def intStr (number : ℤ) : Except PythonException String :=
  if FitsText number then .ok (String.ofList (decimalText number)) else .error .valueError

/-! ### What is raised -/

/-- A number, or a text of one, that is infinite or too large as a floating-point number. -/
def Overflows (tables : TextTables) : PyValue → Prop
  | .int value => Binary64.overflowBound ≤ |(value : ℚ)|
  | .infinity => True
  | .str text => tables.ReadsInfinite text.toList
  | _ => False

variable {tables : TextTables} {value : PyValue}

theorem returns_int_iff : Returns (int tables value) ↔ value ≠ .infinity := by
  unfold int
  rw [returns_handle_iff]
  cases value with
  | str text =>
      simp only [toInt]
      cases tables.limitedIntText text.toList <;> simp [Except.map, isConversionError]
  | _ => simp [toInt, truncate, Except.map, isConversionError]

theorem ofRat_cases (number : ℚ) :
    (∃ negative, Binary64.ofRat number = .infinite negative) ∨
      ∃ value, Binary64.ofRat number = .finite value := by
  unfold Binary64.ofRat
  split_ifs <;> simp

/-- The chain `_int(_num(value))` raises for what overflows, and for nothing else. -/
theorem int_num_returns_iff :
    Returns (num tables value >>= int tables) ↔ ¬Overflows tables value := by
  simp only [returns_bind_iff, returns_int_iff]
  cases value with
  | int number =>
      rw [Overflows, ← Binary64.ofRat_eq_infinite_iff]
      rcases ofRat_cases (number : ℚ) with ⟨negative, rounded⟩ | ⟨rounded, finite⟩
      · simp [num, toFloat, refuseInfinite, rounded, handle, Except.map, isConversionError,
          not_returns_error]
      · simp [num, toFloat, refuseInfinite, finite, handle, Except.map, ofBinary64, returns_ok]
  | str text =>
      rw [Overflows, ← TextTables.floatText_infinite_iff]
      cases reads : tables.floatText text.toList with
      | none => simp [num, toFloat, reads, handle, Except.map, isConversionError, returns_ok]
      | some read =>
          cases read <;> simp [num, toFloat, reads, handle, Except.map, ofBinary64, returns_ok]
  | _ =>
      simp [num, toFloat, handle, Except.map, isConversionError, ofBinary64, Overflows, returns_ok]

end Oven

end SmartThingsLocal
