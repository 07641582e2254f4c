import SmartThingsLocal.Coap.BlockOption
import SmartThingsLocal.Coap.Exchange

/-!
# The block that a continuation asks for

`build_get_request` refuses negative block numbers, while three octets of Block2 hold the numbers
of 20 bits. `block_value` drops the top octet of a four-octet value, so a larger number is sent
as its remainder, until it leaves the four octets of `struct.pack`.
-/

namespace SmartThingsLocal

/-- The arguments of `build_get_request` apart from the block. -/
structure ContinuationRequest where
  mtype : ℕ
  mid : ℕ
  token : ByteString
  pathSegs : List String
  query : List String
  accept : Option ByteString
  extraOptions : List CoapOption
  mtype_le : mtype ≤ 3
  token_length_le : token.length ≤ 8

namespace ContinuationRequest

def build (request : ContinuationRequest) (number szx : ℕ) : Except PythonError ByteString :=
  buildGetRequest request.mtype request.mid request.token request.pathSegs request.query
    request.accept (some number) szx request.extraOptions

/-- The Block2 option of a datagram has at most three octets and means this block; the
extension options of the request come after it. -/
def Asks (request : ContinuationRequest) (number szx : ℕ) (datagram : ByteString) : Prop :=
  ∃ message value, parseCoap datagram = .ok message ∧
    optionValues message.options Coap.block2 =
      value :: optionValues request.extraOptions Coap.block2 ∧
    value.length ≤ 3 ∧ blockFields value = (number, 0, szx)

/-- Three octets can hold the block. -/
def Encodable (number szx : ℕ) : Prop :=
  ∃ value : ByteString, value.length ≤ 3 ∧ blockFields value = (number, 0, szx)

/-- A request that is built asks for its block, and one that cannot be is refused. -/
structure Means (request : ContinuationRequest) (number szx : ℕ) : Prop where
  asks : ∀ datagram, request.build number szx = .ok datagram → request.Asks number szx datagram
  refuses : ¬Encodable number szx → ∃ text, request.build number szx = .error (.valueError text)

end ContinuationRequest

variable {num more szx : ℕ}

theorem num_lt_of_blockFields {value : ByteString} (short : value.length ≤ 3)
    (fields : blockFields value = (num, more, szx)) : num < 2 ^ 20 := by
  have fits := ByteString.toNat_lt value
  have bound : (256 : ℕ) ^ value.length ≤ 256 ^ 3 := Nat.pow_le_pow_right (by decide) short
  simp only [blockFields, Prod.mk.injEq, Nat.shiftRight_eq_div_pow] at fields
  omega

/-- A block number of 28 bits is packed; what is read back is its remainder. -/
theorem blockValue_truncated (numFits : num < 2 ^ 28) (bit : more < 2) (octal : szx < 8) :
    ∃ value, blockValue num more szx = .ok value ∧ value.length ≤ 3 ∧
      blockFields value = (num % 2 ^ 20, more, szx) := by
  by_cases small : num < 2 ^ 20
  · rw [Nat.mod_eq_of_lt small]
    exact blockValue_ok small bit octal
  · have large : 2 ^ 24 ≤ blockOptionNat num more szx := by
      unfold blockOptionNat
      omega
    have fits : blockOptionNat num more szx < 2 ^ 32 := by
      unfold blockOptionNat
      omega
    refine ⟨ByteString.ofNat 3 (blockOptionNat num more szx), ?_, by simp, ?_⟩
    · simp only [blockValue, blockOptionNat_eq num bit octal]
      rw [if_neg (by omega), if_neg (by omega), packI, if_pos (by omega), Fallible.map_ok,
        ByteString.drop_ofNat]
    · apply blockFields_of_toNat bit octal
      rw [ByteString.toNat_ofNat_mod]
      unfold blockOptionNat
      omega

/-- A larger one does not fit `struct.pack`, whose error is not a `ValueError`. -/
theorem blockValue_overflow (beyond : 2 ^ 28 ≤ num) (bit : more < 2) (octal : szx < 8) :
    blockValue num more szx =
      .error (.structError "'I' format requires 0 <= number <= 4294967295") := by
  have large : 2 ^ 32 ≤ blockOptionNat num more szx := by
    unfold blockOptionNat
    omega
  simp only [blockValue, blockOptionNat_eq num bit octal]
  rw [if_neg (by omega), if_neg (by omega), packI, if_neg (by omega)]
  rfl

namespace ContinuationRequest

variable {request : ContinuationRequest} {number : ℕ} {datagram : ByteString}

theorem encodable_iff (octal : szx < 8) : Encodable number szx ↔ number < 2 ^ 20 := by
  constructor
  · rintro ⟨value, short, fields⟩
    exact num_lt_of_blockFields short fields
  · intro fits
    rcases blockValue_ok fits (by decide : 0 < 2) octal with ⟨value, -, short, fields⟩
    exact ⟨value, short, fields⟩

/-- The options of the request in front of Block2. -/
def leadingOptions (request : ContinuationRequest) : List CoapOption :=
  request.pathSegs.map (fun segment => (Coap.uriPath, optionBytesOf segment)) ++
    request.query.map (fun value => (Coap.uriQuery, optionBytesOf value)) ++
    request.accept.toList.map (fun value => (Coap.accept, value))

theorem build_eq (szx_le : szx ≤ Coap.blockSzx) :
    request.build number szx = (blockValue number 0 szx).bind fun value =>
      buildCoap request.mtype Coap.methodGet request.mid request.token
        (request.leadingOptions ++ [(Coap.block2, value)] ++ request.extraOptions) [] := by
  unfold build buildGetRequest
  dsimp only
  rw [if_neg (by omega)]
  cases blockValue number 0 szx <;> rfl

theorem block2_leadingOptions :
    optionValues request.leadingOptions Coap.block2 = [] := by
  simp [optionValues, leadingOptions, Coap.uriPath, Coap.uriQuery, Coap.accept,
    Coap.block2]

/-- A request that is built asks for the remainder of its block number. -/
theorem asks_of_build (szx_le : szx ≤ Coap.blockSzx)
    (built : request.build number szx = .ok datagram) :
    number < 2 ^ 28 ∧ request.Asks (number % 2 ^ 20) szx datagram := by
  have octal : szx < 8 := szx_le.trans_lt (by decide)
  rw [build_eq szx_le] at built
  by_cases fits : number < 2 ^ 28
  · rcases blockValue_truncated fits (by decide : 0 < 2) octal with ⟨value, packed, short, fields⟩
    rw [packed] at built
    refine ⟨fits, _, value, parseCoap_of_buildCoap built request.mtype_le (by decide)
      request.token_length_le, ?_, short, fields⟩
    dsimp only
    unfold optionValues
    rw [sortByNumber_filter]
    change optionValues (_ ++ _ ++ _) Coap.block2 = _
    rw [optionValues_append, optionValues_append, block2_leadingOptions]
    rfl
  · rw [blockValue_overflow (by omega) (by decide) octal] at built
    cases built

theorem Asks.unique {other : ℕ} (asks : request.Asks number szx datagram)
    (asksOther : request.Asks other szx datagram) : number = other := by
  rcases asks with ⟨message, value, reads, values, -, fields⟩
  rcases asksOther with ⟨_, _, readsOther, valuesOther, -, fieldsOther⟩
  rw [reads] at readsOther
  cases readsOther
  rw [values] at valuesOther
  cases valuesOther
  rw [fields] at fieldsOther
  cases fieldsOther
  rfl

/-- A non-confirmable GET without a path. -/
def bare : ContinuationRequest where
  mtype := Coap.typeNon
  mid := 0
  token := []
  pathSegs := []
  query := []
  accept := none
  extraOptions := []
  mtype_le := by decide
  token_length_le := by decide

theorem bare_build (number szx : ℕ) (szx_le : szx ≤ Coap.blockSzx) (fits : number < 2 ^ 28) :
    ∃ datagram, bare.build number szx = .ok datagram := by
  rcases blockValue_truncated fits (by decide : 0 < 2) (szx_le.trans_lt (by decide)) with
    ⟨value, packed, short, -⟩
  rw [build_eq szx_le, packed]
  refine ⟨_, buildCoap_eq _ _ _ _ _ _ ⟨bare.mtype_le, (by decide : Coap.methodGet ≤ 255),
    (by decide : bare.mid < 2 ^ 16), bare.token_length_le, ?_⟩⟩
  apply representable_sortByNumber
  · intro option optionMem
    rw [List.mem_singleton.mp optionMem]
    exact (by decide : Coap.block2 ≤ OptionBytes.maxExtended)
  · intro option optionMem
    rw [List.mem_singleton.mp optionMem]
    exact short.trans (by decide)

/-- Every continuation means its block exactly when the block number has 20 bits. -/
theorem means_iff (number szx : ℕ) (szx_le : szx ≤ Coap.blockSzx) :
    (∀ request : ContinuationRequest, request.Means number szx) ↔ number < 2 ^ 20 := by
  have octal : szx < 8 := szx_le.trans_lt (by decide)
  constructor
  · intro means
    by_contra large
    by_cases fits : number < 2 ^ 28
    · rcases bare_build _ _ szx_le fits with ⟨datagram, built⟩
      have same := ((means bare).asks datagram built).unique (asks_of_build szx_le built).2
      omega
    · rcases (means bare).refuses (mt (encodable_iff octal).mp large) with ⟨text, refused⟩
      rw [build_eq szx_le, blockValue_overflow (by omega) (by decide) octal] at refused
      cases refused
  · intro fits request
    refine ⟨fun datagram built => ?_, fun unencodable => ?_⟩
    · have asks := (asks_of_build szx_le built).2
      rwa [Nat.mod_eq_of_lt fits] at asks
    · exact absurd ((encodable_iff octal).mpr fits) unencodable

theorem means_iff_three : (∀ request : ContinuationRequest, request.Means 3 6) ↔ 3 < 2 ^ 20 :=
  means_iff 3 6 (by decide)

/-- The block after the last one of 20 bits is asked for as block 0, and no number beyond the
28 bits is refused with a `ValueError`. -/
theorem continuation_truncated :
    (∃ datagram, bare.build (2 ^ 20) 6 = .ok datagram ∧ bare.Asks 0 6 datagram ∧
      ¬bare.Asks (2 ^ 20) 6 datagram) ∧
    bare.build (2 ^ 28) 6 =
      .error (.structError "'I' format requires 0 <= number <= 4294967295") ∧
    ¬∀ (request : ContinuationRequest) (number szx : ℕ), szx ≤ Coap.blockSzx →
      request.Means number szx := by
  rcases bare_build (2 ^ 20) 6 (by decide) (by decide) with ⟨datagram, built⟩
  have asksFirst : bare.Asks 0 6 datagram := (asks_of_build (by decide) built).2
  have wrong : ¬bare.Asks (2 ^ 20) 6 datagram := fun asks =>
    absurd (asks.unique asksFirst) (by decide)
  refine ⟨⟨datagram, built, asksFirst, wrong⟩, ?_, ?_⟩
  · rw [build_eq (by decide), blockValue_overflow (by decide) (by decide) (by decide)]
    rfl
  · intro means
    exact wrong ((means bare (2 ^ 20) 6 (by decide)).asks datagram built)

end ContinuationRequest

end SmartThingsLocal
