import SmartThingsLocal.Dtls.RecordSplitters

/-!
# What a first flight proves

`_parse_liveness_response` of `protocol/dtls_probe.py` walks over a datagram and keeps a fallback
until something decides. Its verdict is a function of what the records in epoch zero say, in their
order: HelloVerifyRequests, ServerHellos and alerts.
-/

namespace SmartThingsLocal

open Dtls DtlsPskClient

namespace DtlsProbe

inductive ResponseKind
  | helloVerifyRequest
  | serverHello
  | alert
  deriving DecidableEq, Repr

/-- `_ALERT_NAMES`. -/
def alertNames : List (ℕ × String) :=
  [(0, "close_notify"), (10, "unexpected_message"), (20, "bad_record_mac"),
    (40, "handshake_failure"), (42, "bad_certificate"), (43, "unsupported_certificate"),
    (44, "certificate_revoked"), (45, "certificate_expired"), (46, "certificate_unknown"),
    (47, "illegal_parameter"), (48, "unknown_ca"), (49, "access_denied"), (50, "decode_error"),
    (51, "decrypt_error"), (70, "protocol_version"), (71, "insufficient_security"),
    (80, "internal_error"), (86, "inappropriate_fallback"), (90, "user_canceled"),
    (112, "unrecognized_name"), (115, "unknown_psk_identity"), (116, "certificate_required")]

def alertName (description : UInt8) : String :=
  (alertNames.lookup description.toNat).getD (toString description.toNat)

/-- The kind of a response and, for an alert, its level and name. -/
abbrev Verdict : Type := Option ResponseKind × Option (UInt8 × String)

def isCompleteHelloVerify (body : ByteString) : Bool :=
  body.length ≥ 3 ∧ body.take 2 ∈ dtlsVersions ∧
    body.length = 3 + ByteString.toNat ((body.drop 2).take 1)

def isCompleteServerHello (body : ByteString) : Bool :=
  if body.length < 38 ∨ body.take 2 ∉ dtlsVersions then false
  else
    let sessionIdLength := ByteString.toNat ((body.drop 34).take 1)
    if sessionIdLength > 32 then false
    else
      let fixedEnd := 38 + sessionIdLength
      if body.length = fixedEnd then true
      else if body.length < fixedEnd + 2 then false
      else body.length = fixedEnd + 2 + ByteString.toNat ((body.drop fixedEnd).take 2)

/-- The loop over the messages of a record: a verdict that it returns with, or the fallback. -/
def scanMessages (payload : ByteString) (fallback : Verdict) : Except Verdict Verdict :=
  if payload.length < handshakeHeader then .ok fallback
  else
    let messageLength := ByteString.toNat ((payload.drop 1).take 3)
    let fragmentOffset := ByteString.toNat ((payload.drop 6).take 3)
    let fragmentLength := ByteString.toNat ((payload.drop 9).take 3)
    let stop := handshakeHeader + fragmentLength
    if stop > payload.length then .ok fallback
    else if fragmentOffset = 0 ∧ fragmentLength = messageLength then
      let body := (payload.take stop).drop handshakeHeader
      if payload[0]? = some htHelloVerifyRequest ∧ isCompleteHelloVerify body then
        .error (some .helloVerifyRequest, none)
      else if payload[0]? = some htServerHello ∧ isCompleteServerHello body then
        scanMessages (payload.drop stop)
          (if fallback.1 = none then (some .serverHello, fallback.2) else fallback)
      else scanMessages (payload.drop stop) fallback
    else scanMessages (payload.drop stop) fallback
termination_by payload.length
decreasing_by
  all_goals
    simp only [List.length_drop, handshakeHeader] at *
    omega

/-- One record: a verdict that it returns with, or the fallback. -/
def scanRecord (fallback : Verdict) (record : ByteString) : Except Verdict Verdict :=
  if record.length < recordHeader ∨ (record.drop 1).take 2 ∉ dtlsVersions then .ok fallback
  else if (record.drop 3).take 2 ≠ epochZero then .ok fallback
  else if record[0]? = some ctHandshake then scanMessages (record.drop recordHeader) fallback
  else if record[0]? = some ctAlert then
    match record.drop recordHeader with
    | [level, description] =>
        let verdict := (some .alert, some (level, alertName description))
        if level = alertFatal then .error verdict else .ok verdict
    | _ => .ok fallback
  else .ok fallback

def parseLivenessResponse (datagram : ByteString) : Verdict :=
  let records := splitDtls datagram
  if records = [] ∨ (records.map List.length).sum ≠ datagram.length then (none, none)
  else
    match records.foldlM scanRecord (none, none) with
    | .error verdict | .ok verdict => verdict

/-! ### What records say -/

/-- A fragment of a handshake message. -/
structure MessageFragment where
  msgType : UInt8
  length : ℕ
  msgSeq : ℕ
  offset : ℕ
  body : ByteString
  length_lt : length < 256 ^ 3
  msgSeq_lt : msgSeq < 256 ^ 2
  offset_lt : offset < 256 ^ 3
  body_lt : body.length < 256 ^ 3

/-- What matters of a first flight. -/
inductive Said
  | helloVerify
  | serverHello
  | alert (level description : UInt8)
  deriving DecidableEq, Repr

namespace MessageFragment

/-- The written form of a fragment. -/
def bytes (fragment : MessageFragment) : ByteString :=
  fragment.msgType :: (ByteString.ofNat 3 fragment.length ++
    (ByteString.ofNat 2 fragment.msgSeq ++ (ByteString.ofNat 3 fragment.offset ++
      (ByteString.ofNat 3 fragment.body.length ++ fragment.body))))

/-- Only a message in one fragment says something. -/
def said (fragment : MessageFragment) : Option Said :=
  if fragment.offset = 0 ∧ fragment.body.length = fragment.length then
    if fragment.msgType = htHelloVerifyRequest ∧ isCompleteHelloVerify fragment.body then
      some .helloVerify
    else if fragment.msgType = htServerHello ∧ isCompleteServerHello fragment.body then
      some .serverHello
    else none
  else none

end MessageFragment

/-- A record of a DTLS version in epoch zero. -/
def InTheClear (record : ByteString) : Prop :=
  (record.drop 1).take 2 ∈ dtlsVersions ∧ (record.drop 3).take 2 = epochZero

/-- What a record says: its messages up to where no fragment starts, or its alert. -/
inductive Tells (record : ByteString) : List Said → Prop
  | handshake {fragments : List MessageFragment} {rest : ByteString} (clear : InTheClear record)
      (contentType : record[0]? = some ctHandshake)
      (payload : record.drop recordHeader = fragments.flatMap MessageFragment.bytes ++ rest)
      (ends : ∀ (fragment : MessageFragment) tail, rest ≠ fragment.bytes ++ tail) :
      Tells record (fragments.filterMap MessageFragment.said)
  | alert {level description : UInt8} (clear : InTheClear record)
      (contentType : record[0]? = some ctAlert)
      (payload : record.drop recordHeader = [level, description]) :
      Tells record [.alert level description]
  | nothing (unread : InTheClear record → record[0]? ≠ some ctHandshake ∧
      (record[0]? = some ctAlert → (record.drop recordHeader).length ≠ 2)) :
      Tells record []

/-- What decides at once: a HelloVerifyRequest or a fatal alert. -/
def Said.decisive : Said → Bool
  | .helloVerify => true
  | .serverHello => false
  | .alert level _ => level = alertFatal

/-- The verdict of an alert. -/
def alertVerdict (level description : UInt8) : Verdict :=
  (some .alert, some (level, alertName description))

/-- The verdict of what decides. -/
def Said.decision : Said → Verdict
  | .alert level description => alertVerdict level description
  | _ => (some .helloVerifyRequest, none)

/-- The level and description of an alert. -/
def Said.alert? : Said → Option (UInt8 × UInt8)
  | .alert level description => some (level, description)
  | _ => none

/--
The verdict on a flight: what decides first, or else the last alert, or else that there is a
ServerHello.
-/
def verdict (flight : List Said) : Verdict :=
  match flight.find? Said.decisive with
  | some said => said.decision
  | none =>
      match (flight.filterMap Said.alert?).getLast? with
      | some (level, description) => alertVerdict level description
      | none => (if Said.serverHello ∈ flight then some .serverHello else none, none)

/-! ### The walk hears what is said -/

/-- What one thing that is said does to the fallback. -/
def hear (fallback : Verdict) : Said → Except Verdict Verdict
  | .helloVerify => .error (some .helloVerifyRequest, none)
  | .serverHello => .ok (if fallback.1 = none then (some .serverHello, fallback.2) else fallback)
  | .alert level description =>
      if level = alertFatal then .error (alertVerdict level description)
      else .ok (alertVerdict level description)

/-- A returned verdict or the fallback. -/
def settled : Except Verdict Verdict → Verdict
  | .error verdict | .ok verdict => verdict

namespace MessageFragment

variable (fragment : MessageFragment) (rest : ByteString)

theorem length_bytes : fragment.bytes.length = handshakeHeader + fragment.body.length := by
  simp only [bytes, handshakeHeader, List.length_cons, List.length_append,
    ByteString.length_ofNat]
  omega

theorem lengthField : ((fragment.bytes ++ rest).drop 1).take 3 =
    ByteString.ofNat 3 fragment.length := by
  simp [bytes]

theorem offsetField : ((fragment.bytes ++ rest).drop 6).take 3 =
    ByteString.ofNat 3 fragment.offset := by
  simp [bytes, List.drop_append, List.drop_eq_nil_of_le]

theorem countField : ((fragment.bytes ++ rest).drop 9).take 3 =
    ByteString.ofNat 3 fragment.body.length := by
  simp [bytes, List.drop_append, List.drop_eq_nil_of_le]

theorem bodyField : fragment.bytes.drop handshakeHeader = fragment.body := by
  simp [bytes, handshakeHeader, List.drop_append, List.drop_eq_nil_of_le]

/-- A fragment starts where there is room for its header and for the octets it announces. -/
theorem exists_of_headed {payload : ByteString} (long : ¬payload.length < handshakeHeader)
    (within : handshakeHeader + ByteString.toNat ((payload.drop 9).take 3) ≤ payload.length) :
    ∃ (fragment : MessageFragment) (tail : ByteString), payload = fragment.bytes ++ tail := by
  rcases payload with _ | ⟨messageType, rest⟩
  · exact absurd (by decide) long
  generalize count : ByteString.toNat (((messageType :: rest).drop 9).take 3) = size at *
  simp only [handshakeHeader, List.length_cons, not_lt] at long within
  have body := length_slice rest 11 size (by omega)
  have field (start width : ℕ) (inside : start + width ≤ rest.length) :
      ByteString.toNat ((rest.drop start).take width) < 256 ^ width ∧
        (rest.drop start).take width =
          ByteString.ofNat width (ByteString.toNat ((rest.drop start).take width)) := by
    have length := length_slice rest start width inside
    have bound := ByteString.toNat_lt ((rest.drop start).take width)
    rw [length] at bound
    exact ⟨bound, ByteString.eq_ofNat length⟩
  have lengthField := field 0 3 (by omega)
  have msgSeqField := field 3 2 (by omega)
  have offsetField := field 5 3 (by omega)
  have countField := field 8 3 (by omega)
  have announced : ByteString.toNat ((rest.drop 8).take 3) = size := count
  rw [announced] at countField
  refine ⟨⟨messageType, _, _, _, (rest.drop 11).take size, lengthField.1, msgSeqField.1,
    offsetField.1, by rw [body]; exact countField.1⟩, rest.drop (11 + size), ?_⟩
  have split : rest = rest.take 3 ++ ((rest.drop 3).take 2 ++ ((rest.drop 5).take 3 ++
      ((rest.drop 8).take 3 ++ ((rest.drop 11).take size ++ rest.drop (11 + size))))) := by
    conv_lhs => rw [← List.take_append_drop 3 rest, drop_eq_take_append rest 3 2,
      drop_eq_take_append rest (3 + 2) 3, drop_eq_take_append rest (3 + 2 + 3) 3,
      drop_eq_take_append rest (3 + 2 + 3 + 3) size]
  rw [List.drop_zero] at lengthField
  simp only [bytes, body, List.drop_zero, ← lengthField.2, ← msgSeqField.2, ← offsetField.2,
    ← countField.2, List.cons_append, List.append_assoc]
  exact congrArg (messageType :: ·) split

end MessageFragment

theorem scanMessages_append (fragment : MessageFragment) (rest : ByteString) (fallback : Verdict) :
    scanMessages (fragment.bytes ++ rest) fallback =
      match fragment.said with
      | none => scanMessages rest fallback
      | some said => hear fallback said >>= scanMessages rest := by
  have size := fragment.length_bytes
  have total : (fragment.bytes ++ rest).length =
      handshakeHeader + fragment.body.length + rest.length := by
    rw [List.length_append, size]
  have first : (fragment.bytes ++ rest)[0]? = some fragment.msgType := rfl
  rw [scanMessages, if_neg (by omega)]
  simp only [fragment.lengthField, fragment.offsetField, fragment.countField, first,
    ByteString.toNat_ofNat fragment.length_lt, ByteString.toNat_ofNat fragment.offset_lt,
    ByteString.toNat_ofNat fragment.body_lt, ← size, List.drop_left, List.take_left,
    fragment.bodyField]
  rw [if_neg (by rw [List.length_append]; omega), MessageFragment.said]
  simp only [Option.some.injEq]
  by_cases whole : fragment.offset = 0 ∧ fragment.body.length = fragment.length
  · rw [if_pos whole, if_pos whole]
    by_cases verifies : fragment.msgType = htHelloVerifyRequest ∧
        isCompleteHelloVerify fragment.body
    · rw [if_pos verifies, if_pos verifies]
      rfl
    · rw [if_neg verifies, if_neg verifies]
      by_cases hello : fragment.msgType = htServerHello ∧ isCompleteServerHello fragment.body
      · rw [if_pos hello, if_pos hello]
        rfl
      · rw [if_neg hello, if_neg hello]
  · rw [if_neg whole, if_neg whole]

/-- Nothing is read where no fragment starts. -/
theorem scanMessages_of_ends {rest : ByteString}
    (ends : ∀ (fragment : MessageFragment) tail, rest ≠ fragment.bytes ++ tail)
    (fallback : Verdict) : scanMessages rest fallback = .ok fallback := by
  rw [scanMessages]
  by_cases short : rest.length < handshakeHeader
  · rw [if_pos short]
  · rw [if_neg short]
    dsimp only
    rw [if_pos]
    by_contra within
    rcases MessageFragment.exists_of_headed short (not_lt.mp within) with ⟨fragment, tail, starts⟩
    exact ends fragment tail starts

theorem scanMessages_eq {rest : ByteString}
    (ends : ∀ (fragment : MessageFragment) tail, rest ≠ fragment.bytes ++ tail)
    (fragments : List MessageFragment) (fallback : Verdict) :
    scanMessages (fragments.flatMap MessageFragment.bytes ++ rest) fallback =
      (fragments.filterMap MessageFragment.said).foldlM hear fallback := by
  induction fragments generalizing fallback with
  | nil => exact scanMessages_of_ends ends fallback
  | cons fragment fragments ih =>
      rw [List.flatMap_cons, List.append_assoc, scanMessages_append, List.filterMap_cons]
      cases fragment.said with
      | none => exact ih fallback
      | some said =>
          rw [List.foldlM_cons]
          exact bind_congr ih

/-- Every payload is made of fragments up to where none starts. -/
theorem exists_fragments (payload : ByteString) :
    ∃ (fragments : List MessageFragment) (rest : ByteString),
      payload = fragments.flatMap MessageFragment.bytes ++ rest ∧
        ∀ (fragment : MessageFragment) tail, rest ≠ fragment.bytes ++ tail := by
  induction size : payload.length using Nat.strong_induction_on generalizing payload with
  | _ limit ih =>
      by_cases starts : ∃ (fragment : MessageFragment) (tail : ByteString),
          payload = fragment.bytes ++ tail
      · rcases starts with ⟨fragment, tail, rfl⟩
        have smaller : tail.length < limit := by
          rw [List.length_append, fragment.length_bytes, handshakeHeader] at size
          omega
        rcases ih _ smaller tail rfl with ⟨fragments, rest, rfl, ends⟩
        exact ⟨fragment :: fragments, rest, by rw [List.flatMap_cons, List.append_assoc], ends⟩
      · exact ⟨[], payload, rfl, fun fragment tail same => starts ⟨fragment, tail, same⟩⟩

theorem exists_tells (record : ByteString) : ∃ said, Tells record said := by
  by_cases clear : InTheClear record
  · by_cases handshake : record[0]? = some ctHandshake
    · rcases exists_fragments (record.drop recordHeader) with ⟨fragments, rest, payload, ends⟩
      exact ⟨_, .handshake clear handshake payload ends⟩
    · by_cases alert : record[0]? = some ctAlert ∧ (record.drop recordHeader).length = 2
      · rcases List.length_eq_two.mp alert.2 with ⟨level, description, payload⟩
        exact ⟨_, .alert clear alert.1 payload⟩
      · exact ⟨[], .nothing fun _ => ⟨handshake, fun isAlert two => alert ⟨isAlert, two⟩⟩⟩
  · exact ⟨[], .nothing fun isClear => absurd isClear clear⟩

theorem scanRecord_eq {record : ByteString} {said : List Said} (isRecord : IsRecord record)
    (tells : Tells record said) (fallback : Verdict) :
    scanRecord fallback record = said.foldlM hear fallback := by
  have headed : ¬record.length < recordHeader := not_lt.mpr isRecord.1
  cases tells with
  | handshake clear contentType payload ends =>
      rw [scanRecord, if_neg (not_or.mpr ⟨headed, not_not.mpr clear.1⟩),
        if_neg (not_not.mpr clear.2), if_pos contentType, payload, scanMessages_eq ends]
  | alert clear contentType payload =>
      have other : record[0]? ≠ some ctHandshake := by
        rw [contentType]
        decide
      rw [scanRecord, if_neg (not_or.mpr ⟨headed, not_not.mpr clear.1⟩),
        if_neg (not_not.mpr clear.2), if_neg other, if_pos contentType, payload]
      simp only [List.foldlM_cons, List.foldlM_nil, bind_pure]
      rfl
  | nothing unread =>
      rw [scanRecord]
      split_ifs with unversioned later handshake alert
      · rfl
      · rfl
      · exact absurd handshake (unread ⟨by tauto, by tauto⟩).1
      · have other := (unread ⟨by tauto, by tauto⟩).2 alert
        generalize record.drop recordHeader = payload at other ⊢
        rcases payload with _ | ⟨level, _ | ⟨description, _ | _⟩⟩
        · rfl
        · rfl
        · exact absurd rfl other
        · rfl
      · rfl

/-! ### Verdicts -/

/-- What decides is returned, whatever came before it. -/
theorem settled_of_decisive {said : Said} {flight : List Said}
    (first : flight.find? Said.decisive = some said) (fallback : Verdict) :
    settled (flight.foldlM hear fallback) = said.decision := by
  induction flight generalizing fallback with
  | nil => cases first
  | cons next flight ih =>
      rw [List.foldlM_cons]
      rw [List.find?_cons] at first
      cases next with
      | helloVerify =>
          cases first
          rfl
      | serverHello => exact ih first _
      | alert level description =>
          by_cases fatal : level = alertFatal
          · simp only [Said.decisive, fatal, decide_true, Option.some.injEq] at first
            subst first
            rw [hear, if_pos fatal, fatal]
            rfl
          · simp only [Said.decisive, fatal, decide_false] at first
            rw [hear, if_neg fatal]
            exact ih first _

theorem settled_of_undecided {flight : List Said} (undecided : flight.find? Said.decisive = none)
    (fallback : Verdict) :
    settled (flight.foldlM hear fallback) =
      match (flight.filterMap Said.alert?).getLast? with
      | some (level, description) => alertVerdict level description
      | none =>
          if fallback.1 = none ∧ Said.serverHello ∈ flight then (some .serverHello, fallback.2)
          else fallback := by
  induction flight generalizing fallback with
  | nil =>
      rw [if_neg (by simp)]
      rfl
  | cons next flight ih =>
      rw [List.foldlM_cons]
      rw [List.find?_cons] at undecided
      cases next with
      | helloVerify => cases undecided
      | serverHello =>
          have heard := ih undecided
            (if fallback.1 = none then (some .serverHello, fallback.2) else fallback)
          refine heard.trans ?_
          rw [List.filterMap_cons_none rfl]
          cases (flight.filterMap Said.alert?).getLast? with
          | some last => rfl
          | none =>
              by_cases first : fallback.1 = none
              · simp [first]
              · simp [first]
      | alert level description =>
          by_cases fatal : level = alertFatal
          · simp [Said.decisive, fatal] at undecided
          · simp only [Said.decisive, fatal, decide_false] at undecided
            rw [hear, if_neg fatal]
            refine (ih undecided _).trans ?_
            have alert : Said.alert? (.alert level description) = some (level, description) := rfl
            rw [List.filterMap_cons_some alert, List.getLast?_cons]
            cases (flight.filterMap Said.alert?).getLast? with
            | some last => rfl
            | none => simp [alertVerdict]

theorem settled_foldlM_hear (flight : List Said) :
    settled (flight.foldlM hear (none, none)) = verdict flight := by
  rw [verdict]
  cases first : flight.find? Said.decisive with
  | some said =>
      exact settled_of_decisive first _
  | none =>
      rw [settled_of_undecided first]
      cases (flight.filterMap Said.alert?).getLast? with
      | some last => rfl
      | none => split_ifs <;> simp_all

/-- There is a verdict on everything that says something. -/
theorem verdict_eq_none_iff (flight : List Said) : (verdict flight).1 = none ↔ flight = [] := by
  refine ⟨fun unproven => ?_, fun silent => by rw [silent]; rfl⟩
  rw [verdict] at unproven
  cases first : flight.find? Said.decisive with
  | some said => cases said <;> simp [first, Said.decision, alertVerdict] at unproven
  | none =>
      cases last : (flight.filterMap Said.alert?).getLast? with
      | some alert => simp [first, last, alertVerdict] at unproven
      | none =>
          have noHello : Said.serverHello ∉ flight := by
            simpa [first, last] using unproven
          rw [List.getLast?_eq_none_iff, List.filterMap_eq_nil_iff] at last
          rw [List.find?_eq_none] at first
          refine List.eq_nil_iff_forall_not_mem.mpr fun said saidMem => ?_
          cases said with
          | helloVerify => exact first _ saidMem rfl
          | serverHello => exact noHello saidMem
          | alert level description => cases last _ saidMem

/-! ### Datagrams -/

/-- The records of a datagram with what they say. -/
structure FirstFlight where
  records : List (ByteString × List Said)
  nonempty : records ≠ []
  told : ∀ record ∈ records, IsRecord record.1 ∧ Tells record.1 record.2

namespace FirstFlight

def bytes (flight : FirstFlight) : ByteString := flight.records.flatMap Prod.fst

def said (flight : FirstFlight) : List Said := flight.records.flatMap Prod.snd

theorem foldlM_scanRecord (records : List (ByteString × List Said))
    (told : ∀ record ∈ records, IsRecord record.1 ∧ Tells record.1 record.2)
    (fallback : Verdict) :
    (records.map Prod.fst).foldlM scanRecord fallback =
      (records.flatMap Prod.snd).foldlM hear fallback := by
  induction records generalizing fallback with
  | nil => rfl
  | cons record records ih =>
      rcases List.forall_mem_cons.mp told with ⟨first, rest⟩
      rw [List.map_cons, List.foldlM_cons, List.flatMap_cons, List.foldlM_append,
        scanRecord_eq first.1 first.2]
      exact bind_congr (ih rest)

theorem splitDtls_bytes (flight : FirstFlight) :
    splitDtls flight.bytes = flight.records.map Prod.fst := by
  have areRecords : ∀ record ∈ flight.records.map Prod.fst, IsRecord record := by
    intro record recordMem
    rcases List.mem_map.mp recordMem with ⟨both, bothMem, rfl⟩
    exact (flight.told both bothMem).1
  rw [splitDtls_eq, bytes, List.flatMap_def, recordsOf_flatten areRecords]

theorem parse_bytes (flight : FirstFlight) :
    parseLivenessResponse flight.bytes = verdict flight.said := by
  have whole : ((flight.records.map Prod.fst).map List.length).sum = flight.bytes.length := by
    rw [bytes, List.flatMap_def, List.length_flatten]
  have nonempty : flight.records.map Prod.fst ≠ [] := by simpa using flight.nonempty
  rw [parseLivenessResponse, flight.splitDtls_bytes]
  rw [if_neg (by tauto), foldlM_scanRecord flight.records flight.told]
  exact settled_foldlM_hear flight.said

theorem isRecord_of_recordsOf (datagram : ByteString) :
    ∀ record ∈ recordsOf datagram, IsRecord record := by
  fun_induction recordsOf datagram with
  | case1 => simp
  | case2 => simp
  | case3 datagram headed stop fits ih =>
      rw [List.forall_mem_cons]
      refine ⟨?_, ih⟩
      have length : (datagram.take stop).length = stop := by
        rw [List.length_take]
        omega
      have field : ((datagram.take stop).drop 11).take 2 = (datagram.drop 11).take 2 := by
        rw [List.drop_take, List.take_take, min_eq_left]
        simp only [stop, recordHeader]
        omega
      rw [IsRecord, length, field]
      simp only [stop]
      omega

/-- A datagram is a flight when it is made of records. -/
theorem exists_of_whole {datagram : ByteString} (nonempty : splitDtls datagram ≠ [])
    (whole : ((splitDtls datagram).map List.length).sum = datagram.length) :
    ∃ flight : FirstFlight, flight.bytes = datagram := by
  have areRecords := isRecord_of_recordsOf datagram
  rw [splitDtls_eq] at nonempty whole
  choose said tells using exists_tells
  refine ⟨⟨(recordsOf datagram).map fun record => (record, said record),
    by simpa using nonempty, ?_⟩, ?_⟩
  · intro record recordMem
    rcases List.mem_map.mp recordMem with ⟨bytes, bytesMem, rfl⟩
    exact ⟨areRecords bytes bytesMem, tells bytes⟩
  · rcases recordsOf_rest datagram with ⟨rest, joined, -⟩
    have length := congrArg List.length joined
    rw [List.length_append, List.length_flatten, whole] at length
    have nothing : rest = [] := List.eq_nil_of_length_eq_zero (by omega)
    rw [nothing, List.append_nil] at joined
    conv_rhs => rw [joined]
    simp [bytes, List.flatMap_def, Function.comp_def]

end FirstFlight

/--
The verdict on a datagram that is made of records is that on what they say, and any other datagram
proves nothing. A datagram proves a server exactly when its records say something.
-/
theorem liveness_verdict_exact :
    (∀ flight : FirstFlight, parseLivenessResponse flight.bytes = verdict flight.said) ∧
    (∀ datagram, (∀ flight : FirstFlight, flight.bytes ≠ datagram) →
      parseLivenessResponse datagram = (none, none)) ∧
    ∀ datagram, (parseLivenessResponse datagram).1 ≠ none ↔
      ∃ flight : FirstFlight, flight.bytes = datagram ∧ flight.said ≠ [] := by
  have other (datagram : ByteString) (unmade : ∀ flight : FirstFlight, flight.bytes ≠ datagram) :
      parseLivenessResponse datagram = (none, none) := by
    rw [parseLivenessResponse, if_pos]
    by_contra made
    rcases not_or.mp made with ⟨nonempty, whole⟩
    rcases FirstFlight.exists_of_whole nonempty (not_not.mp whole) with ⟨flight, same⟩
    exact unmade flight same
  refine ⟨FirstFlight.parse_bytes, other, fun datagram => ⟨fun proven => ?_, ?_⟩⟩
  · by_cases made : ∃ flight : FirstFlight, flight.bytes = datagram
    · rcases made with ⟨flight, rfl⟩
      rw [flight.parse_bytes, ne_eq, verdict_eq_none_iff] at proven
      exact ⟨flight, rfl, proven⟩
    · exact absurd (congrArg Prod.fst (other datagram (not_exists.mp made))) proven
  · rintro ⟨flight, rfl, spoken⟩
    rw [flight.parse_bytes, ne_eq, verdict_eq_none_iff]
    exact spoken

end DtlsProbe

end SmartThingsLocal
