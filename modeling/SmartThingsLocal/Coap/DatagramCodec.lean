import SmartThingsLocal.Coap.Datagram

/-!
# The datagram codec is exact

`parse_coap` accepts exactly the canonical datagrams of well-formed messages,
and `build_coap` writes those datagrams. The option loop is the substance: its
two directions are inductions on the bytes left and on the option list, with the
previous option number generalized. Both directions of the round trip between
the two functions follow from the one equivalence.
-/

namespace SmartThingsLocal

open PrefixCode OptionBytes Fallible

/-! ### The option loop -/

theorem parseOptions_cons (prev : ℕ) (b : UInt8) (afterByte : ByteString) :
    parseOptions prev (b :: afterByte) =
      if b = 0xFF then
        if afterByte = [] then .error .malformedMessageError else .ok ([], afterByte)
      else
        extendedField (b.toNat >>> 4) afterByte >>= fun deltaRead =>
        extendedField (b.toNat &&& 0x0F) deltaRead.2 >>= fun lengthRead =>
          if lengthRead.2.length < lengthRead.1 then .error .malformedMessageError
          else
            (parseOptions (prev + deltaRead.1) (lengthRead.2.drop lengthRead.1)).map fun parsed =>
              ((prev + deltaRead.1, lengthRead.2.take lengthRead.1) :: parsed.1, parsed.2) := by
  rw [parseOptions]
  split_ifs
  · rfl
  · rfl
  · split
    · rename_i failed
      rw [failed]
      rfl
    · rename_i accepted
      rw [accepted]
      dsimp only [bind, Except.bind]
      split
      · rename_i failed
        rw [failed]
      · rename_i accepted
        rw [accepted]

/-- The decoding loop takes one encoded option off its input. -/
theorem parseOptions_oneOption {prev number : ℕ} {value : ByteString} (above : prev ≤ number)
    (deltaFits : number - prev ≤ maxExtended) (valueFits : value.length ≤ maxExtended)
    (rest : ByteString) :
    parseOptions prev (oneOption prev (number, value) ++ rest) =
      (parseOptions number rest).map fun parsed => ((number, value) :: parsed.1, parsed.2) := by
  have small := ByteString.nibbles_lt (header (number - prev) value.length)
  rw [header_shiftRight, header_and] at small
  have deltaRead := (extendedField_exact small.1).read_write (number - prev)
    ⟨deltaFits, rfl⟩ (extendedBytes value.length ++ (value ++ rest))
  have lengthRead := (extendedField_exact small.2).read_write value.length
    ⟨valueFits, rfl⟩ (value ++ rest)
  rw [oneOption, List.cons_append, parseOptions_cons, if_neg (header_ne_marker _ _),
    header_shiftRight, header_and]
  simp only [List.append_assoc, deltaRead, lengthRead, ok_bind]
  simp [show prev + (number - prev) = number by omega]

theorem parseOptions_payloadBytes (prev : ℕ) (payload : ByteString) :
    parseOptions prev (payloadBytes payload) = .ok ([], payload) := by
  unfold payloadBytes
  split_ifs with empty
  · rw [parseOptions, empty]
  · rw [parseOptions, if_pos rfl, if_neg empty]

theorem parseOptions_optionBytes {prev : ℕ} {options : List CoapOption} (payload : ByteString)
    (representable : Representable prev options) :
    parseOptions prev (optionBytes prev options payload) = .ok (options, payload) := by
  induction options generalizing prev with
  | nil => exact parseOptions_payloadBytes prev payload
  | cons option rest ih =>
      rcases option with ⟨number, value⟩
      rcases representable with ⟨above, deltaFits, valueFits, tail⟩
      rw [optionBytes, parseOptions_oneOption above deltaFits valueFits, ih tail]
      rfl

/-- The accepted strings are the canonical ones, by induction on the bytes left. -/
theorem optionBytes_of_parseOptions {prev : ℕ} {data payload : ByteString}
    {options : List CoapOption} (accepted : parseOptions prev data = .ok (options, payload)) :
    Representable prev options ∧ data = optionBytes prev options payload := by
  induction remaining : data.length using Nat.strongRecOn generalizing prev data options with
  | ind length ih =>
      cases data with
      | nil =>
          rw [parseOptions] at accepted
          cases accepted
          exact ⟨trivial, rfl⟩
      | cons b afterByte =>
          rw [parseOptions_cons] at accepted
          split_ifs at accepted with marker empty
          · cases accepted
            exact ⟨trivial, by simp [optionBytes, payloadBytes, marker, empty]⟩
          · rcases bind_eq_ok.mp accepted with ⟨⟨delta, afterDelta⟩, deltaRead, accepted⟩
            rcases bind_eq_ok.mp accepted with ⟨⟨valueLength, afterLength⟩, lengthRead, accepted⟩
            rcases ite_error_eq_ok.mp accepted with ⟨enough, accepted⟩
            rcases map_eq_ok.mp accepted with ⟨⟨rest, payload⟩, restRead, shape⟩
            cases shape
            rcases (extendedField_exact (ByteString.nibbles_lt b).1 _ _ _).mp deltaRead with
              ⟨deltaAnnounced, rfl⟩
            rcases (extendedField_exact (ByteString.nibbles_lt b).2 _ _ _).mp lengthRead with
              ⟨lengthAnnounced, rfl⟩
            dsimp only at enough restRead ⊢
            rcases ih _ (by subst remaining; simp; omega) restRead rfl with ⟨tail, tailBytes⟩
            have valueSize : (afterLength.take valueLength).length = valueLength := by simp; omega
            refine ⟨⟨by omega, by simpa using deltaAnnounced.1, ?_, tail⟩, ?_⟩
            · rw [valueSize]
              exact lengthAnnounced.1
            · rw [optionBytes, oneOption, ← tailBytes]
              simp only [Nat.add_sub_cancel_left, valueSize]
              rw [← eq_header deltaAnnounced lengthAnnounced]
              simp

/-! ### Encoding -/

theorem bytesOf_singleton {value : ℕ} (octet : value < 256) :
    bytesOf [value] = .ok [UInt8.ofNat value] := by
  simp [bytesOf, octet]

theorem vlen_eq {v : ℕ} (fits : v ≤ maxExtended) :
    vlen v = .ok (extendedNibble v, extendedBytes v) := by
  unfold vlen extendedNibble extendedBytes
  unfold maxExtended at fits
  split_ifs with tiny small
  · rfl
  · rw [bytesOf_singleton (by omega)]
    rfl
  · rw [packH, if_pos (by omega)]
    rfl

theorem encodeSorted_eq {prev : ℕ} {options : List CoapOption}
    (representable : Representable prev options) :
    encodeSorted prev options = .ok (optionBytes prev options []) := by
  induction options generalizing prev with
  | nil => rfl
  | cons option rest ih =>
      rcases option with ⟨number, value⟩
      rcases representable with ⟨_, deltaFits, valueFits, tail⟩
      have deltaNibble := extendedNibble_lt (number - prev)
      have lengthNibble := extendedNibble_lt value.length
      have packed := ByteString.shiftLeft_or_eq (extendedNibble (number - prev))
        (lengthNibble.trans (by decide))
      simp only [encodeSorted, vlen_eq deltaFits, vlen_eq valueFits, ih tail, packed, ok_bind,
        bytesOf_singleton (show extendedNibble (number - prev) * 16 +
          extendedNibble value.length < 256 by omega)]
      simp [optionBytes, oneOption, header, ByteString.ofNibbles, pure, Except.pure]

theorem sortByNumber_pairwise (options : List CoapOption) :
    (sortByNumber options).Pairwise fun left right => left.1 ≤ right.1 := by
  have total : Std.Total fun left right : CoapOption => left.1 ≤ right.1 :=
    ⟨fun left right => Nat.le_total left.1 right.1⟩
  have trans : IsTrans CoapOption fun left right => left.1 ≤ right.1 :=
    ⟨fun _ _ _ => Nat.le_trans⟩
  exact List.pairwise_insertionSort _ options

theorem sortByNumber_of_pairwise {options : List CoapOption}
    (sorted : options.Pairwise fun left right => left.1 ≤ right.1) :
    sortByNumber options = options :=
  sorted.insertionSort_eq

theorem sortByNumber_perm (options : List CoapOption) : (sortByNumber options).Perm options :=
  List.perm_insertionSort _ options

/-- Stability: the options of one number keep their order. -/
theorem sortByNumber_filter (options : List CoapOption) (number : ℕ) :
    ((sortByNumber options).filter fun option => option.1 == number) =
      options.filter fun option => option.1 == number := by
  have perm := (sortByNumber_perm options).filter fun option => option.1 == number
  have sublist : (options.filter fun option => option.1 == number).Sublist
      (sortByNumber options) := by
    apply List.sublist_insertionSort
    · rw [List.pairwise_filter]
      apply List.pairwise_of_forall
      intro left right leftNumber rightNumber
      simp only [beq_iff_eq] at leftNumber rightNumber
      simp [leftNumber, rightNumber]
    · exact List.filter_sublist
  have filtered := sublist.filter fun option => option.1 == number
  rw [List.filter_filter] at filtered
  simp only [Bool.and_self] at filtered
  exact (filtered.eq_of_length perm.length_eq.symm).symm

theorem representable_sortByNumber {options : List CoapOption}
    (numbers : ∀ option ∈ options, option.1 ≤ maxExtended)
    (values : ∀ option ∈ options, option.2.length ≤ maxExtended) :
    Representable 0 (sortByNumber options) := by
  have perm := sortByNumber_perm options
  exact representable_of_sorted (fun _ _ => Nat.zero_le _) (sortByNumber_pairwise options)
    (fun option optionMem => numbers option (perm.mem_iff.mp optionMem))
    (fun option optionMem => values option (perm.mem_iff.mp optionMem))

/-! ### Whole datagrams -/

namespace CoapMessage

/-- The messages that have a datagram: field widths, token limit and encodable options. -/
structure WellFormed (message : CoapMessage) : Prop where
  mtype_le : message.mtype ≤ 3
  code_le : message.code ≤ 255
  mid_lt : message.mid < 2 ^ 16
  token_length_le : message.token.length ≤ 8
  representable : Representable 0 message.options

/-- The four header octets. -/
def headerBytes (message : CoapMessage) : ByteString :=
  [UInt8.ofNat (64 + message.mtype * 16 + message.token.length), UInt8.ofNat message.code,
    UInt8.ofNat (message.mid / 256), UInt8.ofNat (message.mid % 256)]

/-- The canonical datagram of a message. -/
def datagramBytes (message : CoapMessage) : ByteString :=
  message.headerBytes ++ message.token ++ optionBytes 0 message.options message.payload

end CoapMessage

theorem parseCoap_datagramBytes {message : CoapMessage} (wellFormed : message.WellFormed) :
    parseCoap message.datagramBytes = .ok message := by
  rcases wellFormed with ⟨mtype_le, code_le, mid_lt, token_length_le, representable⟩
  have first : (UInt8.ofNat (64 + message.mtype * 16 + message.token.length)).toNat =
      64 + message.mtype * 16 + message.token.length := by
    rw [UInt8.toNat_ofNat']
    omega
  have version : (64 + message.mtype * 16 + message.token.length) >>> 6 = 1 := by
    rw [Nat.shiftRight_eq_div_pow]
    omega
  have tkl : (64 + message.mtype * 16 + message.token.length) &&& 0x0F = message.token.length := by
    rw [show (0x0F : ℕ) = 2 ^ 4 - 1 from rfl, Nat.and_two_pow_sub_one_eq_mod]
    omega
  have mtype : (64 + message.mtype * 16 + message.token.length) >>> 4 &&& 0x03 =
      message.mtype := by
    rw [show (0x03 : ℕ) = 2 ^ 2 - 1 from rfl, Nat.and_two_pow_sub_one_eq_mod,
      Nat.shiftRight_eq_div_pow]
    omega
  have code : (UInt8.ofNat message.code).toNat = message.code := by
    rw [UInt8.toNat_ofNat']
    omega
  have mid : ByteString.toNat [UInt8.ofNat (message.mid / 256), UInt8.ofNat (message.mid % 256)] =
      message.mid := by
    simp only [ByteString.toNat, List.foldl_cons, List.foldl_nil, UInt8.toNat_ofNat']
    omega
  simp only [CoapMessage.datagramBytes, CoapMessage.headerBytes, List.cons_append, List.nil_append,
    parseCoap, first, version, tkl, mtype, code, mid, ne_eq, not_true_eq_false, if_false]
  rw [if_neg (by simp; omega), List.drop_left, List.take_left,
    parseOptions_optionBytes message.payload representable]
  rfl

theorem datagramBytes_of_parseCoap {data : ByteString} {message : CoapMessage}
    (accepted : parseCoap data = .ok message) :
    message.WellFormed ∧ data = message.datagramBytes := by
  unfold parseCoap at accepted
  split at accepted
  · rename_i first code midHigh midLow afterHeader
    rcases ite_error_eq_ok.mp accepted with ⟨version, accepted⟩
    rcases ite_error_eq_ok.mp accepted with ⟨bounds, accepted⟩
    rcases map_eq_ok.mp accepted with ⟨⟨options, payload⟩, optionsRead, rfl⟩
    rcases optionBytes_of_parseOptions optionsRead with ⟨representable, shape⟩
    have first_lt := first.toNat_lt
    have code_lt := code.toNat_lt
    have midHigh_lt := midHigh.toNat_lt
    have midLow_lt := midLow.toNat_lt
    simp only [show (0x0F : ℕ) = 2 ^ 4 - 1 from rfl, show (0x03 : ℕ) = 2 ^ 2 - 1 from rfl,
      Nat.and_two_pow_sub_one_eq_mod, Nat.shiftRight_eq_div_pow] at *
    have tokenLength : (afterHeader.take (first.toNat % 2 ^ 4)).length = first.toNat % 2 ^ 4 := by
      simp
      omega
    have mid : ByteString.toNat [midHigh, midLow] = midHigh.toNat * 256 + midLow.toNat := by
      simp [ByteString.toNat]
    refine ⟨⟨by dsimp only; omega, by dsimp only; omega, by dsimp only; omega,
      by dsimp only; omega, representable⟩, ?_⟩
    have firstByte : UInt8.ofNat (64 + first.toNat / 2 ^ 4 % 2 ^ 2 * 16 + first.toNat % 2 ^ 4) =
        first := by
      apply UInt8.toNat_inj.mp
      rw [UInt8.toNat_ofNat']
      omega
    have highByte : UInt8.ofNat ((midHigh.toNat * 256 + midLow.toNat) / 256) = midHigh := by
      apply UInt8.toNat_inj.mp
      rw [UInt8.toNat_ofNat']
      omega
    have lowByte : UInt8.ofNat ((midHigh.toNat * 256 + midLow.toNat) % 256) = midLow := by
      apply UInt8.toNat_inj.mp
      rw [UInt8.toNat_ofNat']
      omega
    simp only [CoapMessage.datagramBytes, CoapMessage.headerBytes, tokenLength, mid, firstByte,
      highByte, lowByte, ← shape, UInt8.ofNat_toNat, List.cons_append, List.nil_append,
      List.take_append_drop]
  · cases accepted

/-- A datagram is accepted exactly when it is the canonical form of the message returned. -/
theorem parseCoap_iff {data : ByteString} {message : CoapMessage} :
    parseCoap data = .ok message ↔ message.WellFormed ∧ data = message.datagramBytes := by
  constructor
  · exact datagramBytes_of_parseCoap
  · rintro ⟨wellFormed, rfl⟩
    exact parseCoap_datagramBytes wellFormed

theorem bytesOf_header {message : CoapMessage} (wellFormed : message.WellFormed) :
    bytesOf [(1 <<< 6) ||| (message.mtype <<< 4) ||| message.token.length, message.code,
      (message.mid >>> 8) &&& 0xFF, message.mid &&& 0xFF] = .ok message.headerBytes := by
  rcases wellFormed with ⟨mtype_le, code_le, mid_lt, token_length_le, _⟩
  have packed : (1 <<< 6) ||| (message.mtype <<< 4) ||| message.token.length =
      64 + message.mtype * 16 + message.token.length := by
    have byCases : ∀ mtype < 4, ∀ tkl < 9,
        (1 <<< 6) ||| (mtype <<< 4) ||| tkl = 64 + mtype * 16 + tkl := by decide
    exact byCases _ (by omega) _ (by omega)
  have high : (message.mid >>> 8) &&& 0xFF = message.mid / 256 := by
    rw [show (0xFF : ℕ) = 2 ^ 8 - 1 from rfl, Nat.and_two_pow_sub_one_eq_mod,
      Nat.shiftRight_eq_div_pow]
    omega
  have low : message.mid &&& 0xFF = message.mid % 256 := by
    rw [show (0xFF : ℕ) = 2 ^ 8 - 1 from rfl, Nat.and_two_pow_sub_one_eq_mod]
  rw [packed, high, low, bytesOf, if_pos]
  · rfl
  · simp
    omega

/-- `build_coap` writes the canonical datagram of the message with its options sorted. -/
theorem buildCoap_eq (mtype code mid : ℕ) (token payload : ByteString)
    (options : List CoapOption)
    (wellFormed : CoapMessage.WellFormed
      ⟨mtype, code, mid, token, sortByNumber options, payload⟩) :
    buildCoap mtype code mid token options payload =
      .ok (CoapMessage.datagramBytes ⟨mtype, code, mid, token, sortByNumber options, payload⟩) := by
  have hdr := bytesOf_header wellFormed
  dsimp only at hdr
  rw [buildCoap, hdr, encodeOptions, encodeSorted_eq wellFormed.representable]
  simp only [ok_bind, CoapMessage.datagramBytes, pure, Except.pure]
  rw [optionBytes_payload 0 _ payload, payloadBytes]
  by_cases empty : payload = [] <;> simp [empty]

/-! ### What a built datagram reads back as -/

theorem fits_of_vlen {v : ℕ} {field : ℕ × ByteString} (encoded : vlen v = .ok field) :
    v ≤ maxExtended := by
  unfold vlen at encoded
  unfold maxExtended
  split_ifs at encoded with tiny small
  · omega
  · omega
  · rcases Fallible.map_eq_ok.mp encoded with ⟨packed, fits, -⟩
    have := (packH_eq_ok.mp fits).1
    omega

/-- Only representable options have an encoding. -/
theorem representable_of_encodeSorted {prev : ℕ} {options : List CoapOption} {bytes : ByteString}
    (encoded : encodeSorted prev options = .ok bytes)
    (lower : ∀ option ∈ options, prev ≤ option.1)
    (sorted : options.Pairwise fun left right => left.1 ≤ right.1) :
    Representable prev options := by
  induction options generalizing prev bytes with
  | nil => trivial
  | cons option rest ih =>
      rcases option with ⟨number, value⟩
      rw [List.pairwise_cons] at sorted
      rcases Fallible.bind_eq_ok.mp encoded with ⟨_, delta, encoded⟩
      rcases Fallible.bind_eq_ok.mp encoded with ⟨_, length, encoded⟩
      rcases Fallible.bind_eq_ok.mp encoded with ⟨_, -, encoded⟩
      rcases Fallible.bind_eq_ok.mp encoded with ⟨_, tail, -⟩
      exact ⟨lower (number, value) (by simp), fits_of_vlen delta, fits_of_vlen length,
        ih tail sorted.1 sorted.2⟩

/-- A header has the low sixteen bits of a Message ID. -/
theorem buildCoap_mod (mtype code mid : ℕ) (token payload : ByteString)
    (options : List CoapOption) :
    buildCoap mtype code mid token options payload =
      buildCoap mtype code (mid % 2 ^ 16) token options payload := by
  have high : (mid >>> 8) &&& 0xFF = ((mid % 2 ^ 16) >>> 8) &&& 0xFF := by
    rw [show (0xFF : ℕ) = 2 ^ 8 - 1 from rfl, Nat.and_two_pow_sub_one_eq_mod,
      Nat.and_two_pow_sub_one_eq_mod, Nat.shiftRight_eq_div_pow, Nat.shiftRight_eq_div_pow]
    omega
  have low : mid &&& 0xFF = (mid % 2 ^ 16) &&& 0xFF := by
    rw [show (0xFF : ℕ) = 2 ^ 8 - 1 from rfl, Nat.and_two_pow_sub_one_eq_mod,
      Nat.and_two_pow_sub_one_eq_mod]
    omega
  rw [buildCoap, buildCoap, high, low]

theorem parseCoap_of_buildCoap {mtype code mid : ℕ} {token payload datagram : ByteString}
    {options : List CoapOption}
    (built : buildCoap mtype code mid token options payload = .ok datagram)
    (mtype_le : mtype ≤ 3) (code_le : code ≤ 255) (token_length_le : token.length ≤ 8) :
    parseCoap datagram =
      .ok ⟨mtype, code, mid % 2 ^ 16, token, sortByNumber options, payload⟩ := by
  rw [buildCoap_mod] at built
  rcases Fallible.bind_eq_ok.mp built with ⟨_, -, encoded⟩
  rcases Fallible.bind_eq_ok.mp encoded with ⟨_, encoded, -⟩
  have wellFormed : CoapMessage.WellFormed
      ⟨mtype, code, mid % 2 ^ 16, token, sortByNumber options, payload⟩ :=
    ⟨mtype_le, code_le, Nat.mod_lt _ (by decide), token_length_le,
      representable_of_encodeSorted encoded (fun _ _ => Nat.zero_le _)
        (sortByNumber_pairwise options)⟩
  rw [buildCoap_eq _ _ _ _ _ _ wellFormed] at built
  cases built
  exact parseCoap_datagramBytes wellFormed

/--
The codec is a bijection on its image: every accepted datagram is rebuilt byte for
byte, and every encodable message is read back with its options stably sorted.
-/
theorem coap_codec_bijective :
    (∀ data message, parseCoap data = .ok message →
      buildCoap message.mtype message.code message.mid message.token message.options
        message.payload = .ok data) ∧
    (∀ mtype code mid token options payload, mtype ≤ 3 → code ≤ 255 → mid < 2 ^ 16 →
      token.length ≤ 8 →
      (∀ option ∈ options, option.1 ≤ 65535 ∧ option.2.length ≤ 65804) →
      ∃ data sorted,
        buildCoap mtype code mid token options payload = .ok data ∧
        parseCoap data = .ok ⟨mtype, code, mid, token, sorted, payload⟩ ∧
        sorted.Perm options ∧
        sorted.Pairwise (fun left right => left.1 ≤ right.1) ∧
        ∀ number, (sorted.filter fun option => option.1 == number) =
          options.filter fun option => option.1 == number) := by
  constructor
  · intro data message accepted
    rcases parseCoap_iff.mp accepted with ⟨wellFormed, rfl⟩
    have sorted := sortByNumber_of_pairwise wellFormed.representable.pairwise.2
    have built := buildCoap_eq message.mtype message.code message.mid message.token
      message.payload message.options (by rw [sorted]; exact wellFormed)
    rw [built, sorted]
  · intro mtype code mid token options payload mtype_le code_le mid_lt token_length_le limits
    have representable := representable_sortByNumber
      (fun option optionMem => (limits option optionMem).1.trans (by decide))
      (fun option optionMem => (limits option optionMem).2)
    have wellFormed : CoapMessage.WellFormed
        ⟨mtype, code, mid, token, sortByNumber options, payload⟩ :=
      ⟨mtype_le, code_le, mid_lt, token_length_le, representable⟩
    exact ⟨_, sortByNumber options, buildCoap_eq _ _ _ _ _ _ wellFormed,
      parseCoap_datagramBytes wellFormed,
      sortByNumber_perm options, sortByNumber_pairwise options, sortByNumber_filter options⟩

/-- A confirmable GET whose two options arrive out of order is read back with them sorted. -/
theorem coap_codec_bijective_example :
    (∃ data, buildCoap 0 1 7 [0xAA] [(15, [1]), (11, [2])] [] = .ok data) ∧
      buildCoap 0 1 7 [0xAA] [] [3] = .ok [0x41, 1, 0, 7, 0xAA, 0xFF, 3] := by
  rcases coap_codec_bijective with ⟨rebuilds, reads⟩
  rcases reads 0 1 7 [0xAA] [(15, [1]), (11, [2])] []
    (by decide) (by decide) (by decide) (by decide) (by decide) with
    ⟨data, _, built, _⟩
  exact ⟨⟨data, built⟩, rebuilds [0x41, 1, 0, 7, 0xAA, 0xFF, 3] ⟨0, 1, 7, [0xAA], [], [3]⟩
    (by decide +kernel)⟩

end SmartThingsLocal
