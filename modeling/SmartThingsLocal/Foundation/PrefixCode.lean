import SmartThingsLocal.Foundation.ByteString

/-!
# Exact prefix codes

A reader takes a value off the front of a byte string and returns the rest. It
is *exact* for a writer when it succeeds on precisely the inputs that start with
the written form of a valid value. One equivalence then carries both directions
of a round trip: what was written is read back whatever follows it, and nothing
else is accepted, so every value has a single spelling.
-/

namespace PrefixCode

universe u v w

/-- A function reading one value off the front of its input. -/
abbrev Reader (ε : Type u) (α : Type v) := ByteString → Except ε (α × ByteString)

variable {ε : Type u} {α : Type v} {β : Type w}

/-- `read` accepts exactly the written forms of valid values. -/
def Exact (read : Reader ε α) (write : α → ByteString) (valid : α → Prop) : Prop :=
  ∀ input value rest, read input = .ok (value, rest) ↔ valid value ∧ input = write value ++ rest

namespace Exact

variable {read : Reader ε α} {write : α → ByteString} {valid : α → Prop}

theorem read_write (exact : Exact read write valid) (value : α) (isValid : valid value)
    (rest : ByteString) : read (write value ++ rest) = .ok (value, rest) :=
  (exact _ _ _).mpr ⟨isValid, rfl⟩

end Exact

/-- Split off a fixed number of octets. -/
def takeBytes (error : ε) (count : ℕ) : Reader ε ByteString := fun input =>
  if input.length < count then .error error else .ok (input.take count, input.drop count)

theorem takeBytes_exact (error : ε) (count : ℕ) :
    Exact (takeBytes error count) id (fun bytes => bytes.length = count) := by
  intro input bytes rest
  unfold takeBytes
  constructor
  · intro accepted
    split at accepted
    · cases accepted
    · rename_i enough
      cases accepted
      exact ⟨by simp; omega, (List.take_append_drop _ _).symm⟩
  · rintro ⟨rfl, rfl⟩
    simp

/-- Read a fixed-width big-endian integer. -/
def fixedWidth (error : ε) (width : ℕ) : Reader ε ℕ := fun input =>
  (takeBytes error width input).map fun split => (ByteString.toNat split.1, split.2)

theorem fixedWidth_exact (error : ε) (width : ℕ) :
    Exact (fixedWidth error width) (ByteString.ofNat width) (fun value => value < 256 ^ width) := by
  intro input value rest
  constructor
  · intro accepted
    unfold fixedWidth at accepted
    cases split : takeBytes error width input with
    | error failure => simp [split, Except.map] at accepted
    | ok parts =>
        rcases parts with ⟨bytes, tail⟩
        simp only [split, Except.map, Except.ok.injEq, Prod.mk.injEq] at accepted
        rcases accepted with ⟨rfl, rfl⟩
        rcases (takeBytes_exact error width _ _ _).mp split with ⟨length, shape⟩
        refine ⟨length ▸ ByteString.toNat_lt bytes, ?_⟩
        rw [shape, id, ← ByteString.eq_ofNat length]
  · rintro ⟨fits, rfl⟩
    have split := (takeBytes_exact error width).read_write (ByteString.ofNat width value)
      (by simp) rest
    rw [id] at split
    simp [fixedWidth, split, Except.map, ByteString.toNat_ofNat fits]

/-- Adding a fixed base to every value read shifts the range of values the code covers. -/
theorem Exact.shift {read : Reader ε ℕ} {write : ℕ → ByteString} {bound : ℕ}
    (exact : Exact read write (fun value => value < bound)) (base : ℕ) :
    Exact (fun input => (read input).map fun result => (base + result.1, result.2))
      (fun value => write (value - base)) (fun value => base ≤ value ∧ value < base + bound) := by
  intro input value rest
  constructor
  · intro accepted
    cases inner : read input with
    | error failure => simp [inner, Except.map] at accepted
    | ok parts =>
        rcases parts with ⟨offset, tail⟩
        simp only [inner, Except.map, Except.ok.injEq, Prod.mk.injEq] at accepted
        rcases accepted with ⟨rfl, rfl⟩
        rcases (exact _ _ _).mp inner with ⟨small, shape⟩
        exact ⟨⟨by omega, by omega⟩, by simpa using shape⟩
  · rintro ⟨⟨above, below⟩, rfl⟩
    have inner := exact.read_write (value - base) (by omega) rest
    simp only [inner, Except.map, Except.ok.injEq, Prod.mk.injEq, and_true]
    omega

end PrefixCode
