import SmartThingsLocal.Foundation.Fallible
import SmartThingsLocal.Coap.OptionBytes

/-!
# The UDP datagram codec

`parse_coap`, `build_coap` and the builders and classifier over them. The
source walks a datagram with an index; here a function takes the bytes that are
left and returns what it did not consume, and the loop over options is a
recursion on them.
-/

namespace SmartThingsLocal

open PrefixCode

/-- `sorted(options, key=lambda option: option[0])`, a stable sort. -/
def sortByNumber (options : List CoapOption) : List CoapOption :=
  options.insertionSort fun left right => left.1 ≤ right.1

/-- Variable-length integer used in option deltas and lengths. -/
def vlen (v : ℕ) : Except PythonError (ℕ × ByteString) :=
  if v < 13 then .ok (v, [])
  else if v < 269 then (bytesOf [v - 13]).map fun extra => (13, extra)
  else (packH (v - 269)).map fun extra => (14, extra)

/-- The loop of `encode_options` over sorted options, from a previous number. -/
def encodeSorted : ℕ → List CoapOption → Except PythonError ByteString
  | _, [] => .ok []
  | prev, (n, val) :: rest => do
      let (d, dx) ← vlen (n - prev)
      let (length, lx) ← vlen val.length
      let head ← bytesOf [(d <<< 4) ||| length]
      let tail ← encodeSorted n rest
      return head ++ dx ++ lx ++ val ++ tail

def encodeOptions (opts : List CoapOption) : Except PythonError ByteString :=
  encodeSorted 0 (sortByNumber opts)

/-- A delta or length from its nibble and the extension octets after the header. -/
def extendedField (nibble : ℕ) (data : ByteString) :
    Except SmartThingsLocalError (ℕ × ByteString) :=
  if nibble = 13 then
    match data with
    | [] => .error .malformedMessageError
    | byte :: rest => .ok (13 + byte.toNat, rest)
  else if nibble = 14 then
    if data.length < 2 then .error .malformedMessageError
    else .ok (269 + ByteString.toNat (data.take 2), data.drop 2)
  else if nibble = 15 then .error .malformedMessageError
  else .ok (nibble, data)

theorem extendedField_exact {nibble : ℕ} (small : nibble < 16) :
    Exact (extendedField nibble) OptionBytes.extendedBytes (OptionBytes.Announced nibble) := by
  intro input value rest
  rw [OptionBytes.announced_iff]
  by_cases one : nibble = 13
  · subst one
    have shifted := (fixedWidth_exact SmartThingsLocalError.malformedMessageError 1).shift 13
      input value rest
    have agree : extendedField 13 input =
        (fixedWidth SmartThingsLocalError.malformedMessageError 1 input).map
          fun result => (13 + result.1, result.2) := by
      cases input <;> simp [extendedField, fixedWidth, takeBytes, Except.map]
    rw [agree, shifted]
    constructor
    · rintro ⟨⟨lower, upper⟩, rfl⟩
      exact ⟨.inr (.inl ⟨rfl, lower, upper⟩), by rw [OptionBytes.extendedBytes_one lower upper]⟩
    · rintro ⟨announced, rfl⟩
      obtain ⟨lower, upper⟩ : 13 ≤ value ∧ value < 13 + 256 ^ 1 := by omega
      exact ⟨⟨lower, upper⟩, by rw [OptionBytes.extendedBytes_one lower upper]⟩
  by_cases two : nibble = 14
  · subst two
    have shifted := (fixedWidth_exact SmartThingsLocalError.malformedMessageError 2).shift 269
      input value rest
    have agree : extendedField 14 input =
        (fixedWidth SmartThingsLocalError.malformedMessageError 2 input).map
          fun result => (269 + result.1, result.2) := by
      by_cases short : input.length < 2 <;>
        simp [extendedField, fixedWidth, takeBytes, short, Except.map]
    rw [agree, shifted]
    constructor
    · rintro ⟨⟨lower, upper⟩, rfl⟩
      exact ⟨.inr (.inr ⟨rfl, lower, upper⟩), by rw [OptionBytes.extendedBytes_two lower]⟩
    · rintro ⟨announced, rfl⟩
      obtain ⟨lower, upper⟩ : 269 ≤ value ∧ value < 269 + 256 ^ 2 := by omega
      exact ⟨⟨lower, upper⟩, by rw [OptionBytes.extendedBytes_two lower]⟩
  by_cases reserved : nibble = 15
  · simp [extendedField, reserved]
  · simp only [extendedField, if_neg one, if_neg two, if_neg reserved, Except.ok.injEq,
      Prod.mk.injEq]
    constructor
    · rintro ⟨rfl, rfl⟩
      exact ⟨.inl ⟨by omega, rfl⟩, by rw [OptionBytes.extendedBytes_of_lt (by omega)]; rfl⟩
    · rintro ⟨announced, rfl⟩
      obtain rfl : value = nibble := by omega
      exact ⟨rfl, by rw [OptionBytes.extendedBytes_of_lt (by omega)]; rfl⟩

theorem extendedField_length_le {nibble : ℕ} {data rest : ByteString} {value : ℕ}
    (accepted : extendedField nibble data = .ok (value, rest)) : rest.length ≤ data.length := by
  unfold extendedField at accepted
  split_ifs at accepted
  · cases data with
    | nil => cases accepted
    | cons byte tail =>
        cases accepted
        simp
  · cases accepted
    simp
  · cases accepted
    exact le_rfl

/-- The option loop of `parse_coap`, from a previous number: options and payload. -/
def parseOptions (prev : ℕ) (data : ByteString) :
    Except SmartThingsLocalError (List CoapOption × ByteString) :=
  match data with
  | [] => .ok ([], [])
  | b :: afterByte =>
      if b = 0xFF then
        if afterByte = [] then .error .malformedMessageError else .ok ([], afterByte)
      else
        match _deltaRead : extendedField (b.toNat >>> 4) afterByte with
        | .error error => .error error
        | .ok (delta, afterDelta) =>
            match _lengthRead : extendedField (b.toNat &&& 0x0F) afterDelta with
            | .error error => .error error
            | .ok (length, afterLength) =>
                let num := prev + delta
                if afterLength.length < length then .error .malformedMessageError
                else
                  (parseOptions num (afterLength.drop length)).map fun parsed =>
                    ((num, afterLength.take length) :: parsed.1, parsed.2)
termination_by data.length
decreasing_by
  have deltaLength := extendedField_length_le _deltaRead
  have lengthLength := extendedField_length_le _lengthRead
  simp only [List.length_cons, List.length_drop]
  omega

/--
Decode one datagram. The tuple the source returns is the record that
`parse_coap_message` wraps it in.
-/
def parseCoap (data : ByteString) : Except SmartThingsLocalError CoapMessage :=
  match data with
  | first :: code :: midHigh :: midLow :: afterHeader =>
      if first.toNat >>> 6 ≠ 1 then .error .malformedMessageError
      else
        let tkl := first.toNat &&& 0x0F
        if tkl > 8 ∨ afterHeader.length < tkl then .error .malformedMessageError
        else
          (parseOptions 0 (afterHeader.drop tkl)).map fun parsed =>
            { mtype := (first.toNat >>> 4) &&& 0x03
              code := code.toNat
              mid := ByteString.toNat [midHigh, midLow]
              token := afterHeader.take tkl
              options := parsed.1
              payload := parsed.2 }
  | _ => .error .malformedMessageError

/-- Build one datagram. -/
def buildCoap (mtype code mid : ℕ) (token : ByteString) (options : List CoapOption)
    (payload : ByteString) : Except PythonError ByteString := do
  let tkl := token.length
  let hdr ← bytesOf
    [(1 <<< 6) ||| (mtype <<< 4) ||| tkl, code, (mid >>> 8) &&& 0xFF, mid &&& 0xFF]
  let body := hdr ++ token ++ (← encodeOptions options)
  return if payload ≠ [] then body ++ 0xFF :: payload else body

end SmartThingsLocal
