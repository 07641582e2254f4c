import SmartThingsLocal.Dtls.EstablishedSession
import SmartThingsLocal.Dtls.HvrCleanup

/-!
# Three splitters of datagrams

`split_dtls` walks over the records of what is sent, `_strict_dtls_records` over those of a
handshake that may be cleaned up, and `_drain_inbox` over those of what is received. They cut
at the same places.
-/

namespace SmartThingsLocal

open Dtls Stateful

namespace Dtls

/-- The loop of `split_dtls` from an offset on, after some records. -/
def splitFrom (buf : ByteString) (offset : ℕ) (out : List ByteString) : List ByteString :=
  if offset + recordHeader ≤ buf.length then
    let stop := offset + recordHeader + ByteString.toNat ((buf.drop (offset + 11)).take 2)
    if stop > buf.length then out
    else splitFrom buf stop (out ++ [(buf.drop offset).take (stop - offset)])
  else out
termination_by buf.length - offset
decreasing_by
  simp only [recordHeader] at *
  omega

def splitDtls (buf : ByteString) : List ByteString := splitFrom buf 0 []

end Dtls

namespace DtlsPskClient

variable (primitives : Primitives)

/-- The inner loop of `_drain_inbox` from an offset on: whether the session has not failed. -/
def drainDatagram (datagram : ByteString) (offset : ℕ) : Psk Bool :=
  if offset + recordHeader ≤ datagram.length then
    let stop := offset + recordHeader +
      ByteString.toNat ((datagram.drop (offset + 11)).take 2)
    if stop > datagram.length then return true
    else do
      handleRecord primitives ((datagram.drop offset).take (stop - offset))
      let client ← get
      if client.failed.isSome then return false else drainDatagram datagram stop
  else return true
termination_by datagram.length - offset
decreasing_by
  simp only [recordHeader] at *
  omega

variable {record datagram rest : ByteString} {records : List ByteString}

/-! ### The records of a datagram -/

theorem recordsOf_nil : recordsOf [] = [] := by
  rw [recordsOf]
  rfl

theorem recordsOf_append (isRecord : IsRecord record) (rest : ByteString) :
    recordsOf (record ++ rest) = record :: recordsOf rest := by
  rcases isRecord with ⟨headed, length⟩
  unfold recordHeader at headed length
  have field : ((record ++ rest).drop 11).take 2 = (record.drop 11).take 2 := by
    rw [List.drop_append_of_le_length (by omega), List.take_append_of_le_length]
    rw [List.length_drop]
    omega
  rw [recordsOf, if_neg (by simp [recordHeader]; omega)]
  dsimp only
  rw [field, length, recordHeader, Nat.add_sub_cancel' headed, if_neg (by simp), List.take_left,
    List.drop_left]

theorem recordsOf_flatten (areRecords : ∀ record ∈ records, IsRecord record) :
    recordsOf records.flatten = records := by
  induction records with
  | nil => exact recordsOf_nil
  | cons record records ih =>
      rcases List.forall_mem_cons.mp areRecords with ⟨first, later⟩
      rw [List.flatten_cons, recordsOf_append first, ih later]

/-- What is left of a datagram has no record at its front. -/
theorem recordsOf_rest (datagram : ByteString) :
    ∃ rest, datagram = (recordsOf datagram).flatten ++ rest ∧ recordsOf rest = [] := by
  induction length : datagram.length using Nat.strong_induction_on generalizing datagram with
  | _ octets ih =>
      rcases recordsOf_cases datagram with none | ⟨stop, headed, -, within, first⟩
      · exact ⟨datagram, by rw [none]; rfl, none⟩
      · have shorter : (datagram.drop stop).length < octets := by
          rw [List.length_drop]
          unfold recordHeader at headed
          omega
        rcases ih _ shorter (datagram.drop stop) rfl with ⟨rest, joined, final⟩
        refine ⟨rest, ?_, final⟩
        rw [first, List.flatten_cons, List.append_assoc, ← joined, List.take_append_drop]

theorem not_isRecord_of_recordsOf (none : recordsOf rest = []) {tail : ByteString}
    (starts : rest = record ++ tail) : ¬IsRecord record := by
  intro isRecord
  rw [starts, recordsOf_append isRecord] at none
  cases none

/-- From an offset on, the records of what follows it. -/
theorem recordsOf_drop (datagram : ByteString) (offset : ℕ) :
    recordsOf (datagram.drop offset) =
      if offset + recordHeader ≤ datagram.length then
        let stop := offset + recordHeader +
          ByteString.toNat ((datagram.drop (offset + 11)).take 2)
        if stop > datagram.length then []
        else (datagram.drop offset).take (stop - offset) :: recordsOf (datagram.drop stop)
      else [] := by
  rw [recordsOf, List.length_drop, List.drop_drop]
  unfold recordHeader
  generalize ByteString.toNat ((datagram.drop (offset + 11)).take 2) = length
  by_cases headed : offset + 13 ≤ datagram.length
  · rw [if_pos headed, if_neg (by omega)]
    dsimp only
    by_cases fits : offset + 13 + length ≤ datagram.length
    · rw [if_neg (by omega), if_neg (by omega), List.drop_drop, Nat.add_assoc,
        Nat.add_sub_cancel_left]
    · rw [if_pos (by omega), if_pos (by omega)]
  · rw [if_neg headed, if_pos (by omega)]

theorem splitFrom_eq (buf : ByteString) (offset : ℕ) (out : List ByteString) :
    splitFrom buf offset out = out ++ recordsOf (buf.drop offset) := by
  fun_induction splitFrom buf offset out with
  | case1 offset out headed stop long =>
      rw [recordsOf_drop, if_pos headed, if_pos long, List.append_nil]
  | case2 offset out headed stop fits ih =>
      rw [ih, recordsOf_drop buf offset, if_pos headed, if_neg fits, List.append_assoc]
      rfl
  | case3 offset out short => rw [recordsOf_drop, if_neg short, List.append_nil]

theorem splitDtls_eq (buf : ByteString) : splitDtls buf = recordsOf buf :=
  splitFrom_eq buf 0 []

/-- The strict splitter, after some records that it has room for. -/
theorem splitRecords_eq (room : records.length ≤ maxCleanupTranscriptRecords)
    (datagram : ByteString) :
    splitRecords records datagram =
      if records ++ recordsOf datagram ≠ [] ∧ (recordsOf datagram).flatten = datagram ∧
          (records ++ recordsOf datagram).length ≤ maxCleanupTranscriptRecords then
        some (records ++ recordsOf datagram)
      else none := by
  fun_induction splitRecords records datagram with
  | case1 => simp [recordsOf_nil]
  | case2 records some => simp [recordsOf_nil, some, room]
  | case3 records datagram nonempty short =>
      rw [recordsOf, if_pos short, if_neg]
      exact fun whole => nonempty whole.2.1.symm
  | case4 records datagram nonempty headed stop long =>
      rw [recordsOf, if_neg headed, if_pos long, if_neg]
      exact fun whole => nonempty whole.2.1.symm
  | case5 records datagram nonempty headed stop fits many =>
      rw [recordsOf, if_neg headed, if_neg fits, if_neg]
      rintro ⟨-, -, few⟩
      simp only [List.length_append, List.length_cons, List.length_nil] at many few
      omega
  | case6 records datagram nonempty headed stop fits few ih =>
      have joined (later : List ByteString) :
          (datagram.take stop :: later).flatten = datagram ↔
            later.flatten = datagram.drop stop := by
        rw [List.flatten_cons]
        nth_rewrite 2 [← List.take_append_drop stop datagram]
        exact List.append_right_inj _
      rw [ih (not_lt.mp few), recordsOf.eq_1 datagram, if_neg headed, if_neg fits]
      simp only [stop] at joined
      simp only [joined, List.append_assoc, List.singleton_append]
      rfl

/-- The engine hands the records over one by one, as long as none fails the session. -/
theorem drainDatagram_eq (datagram : ByteString) (offset : ℕ) :
    drainDatagram primitives datagram offset =
      handleRecords primitives (recordsOf (datagram.drop offset)) := by
  fun_induction drainDatagram primitives datagram offset with
  | case1 offset headed stop long => rw [recordsOf_drop, if_pos headed, if_pos long, handleRecords]
  | case2 offset headed stop fits ih =>
      rw [recordsOf_drop, if_pos headed, if_neg fits, handleRecords, ih]
  | case3 offset short => rw [recordsOf_drop, if_neg short, handleRecords]

/-- The first datagram of the inbox is walked over. -/
theorem drainInbox_cons {client : DtlsPskClient} {inbox : List ByteString}
    (waiting : client.inbox = datagram :: inbox) (count : ℕ) :
    exec (drainInbox primitives (count + 1)) client =
      exec (do
        let goesOn ← drainDatagram primitives datagram 0
        if goesOn then drainInbox primitives count else pure ()) { client with inbox } := by
  rw [drainInbox, exec_get_bind, waiting]
  dsimp only
  rw [exec_set_bind, drainDatagram_eq, List.drop_zero]

theorem isSome_strictDtlsRecords (datagram : ByteString) :
    (strictDtlsRecords datagram).isSome ↔
      datagram ≠ [] ∧ (splitDtls datagram).flatten = datagram ∧
        (splitDtls datagram).length ≤ 32 := by
  rw [strictDtlsRecords, splitRecords_eq (Nat.zero_le _), splitDtls_eq, List.nil_append,
    Option.isSome_ite]
  refine and_congr_left fun whole => not_congr ⟨fun none => ?_, fun empty => ?_⟩
  · rw [← whole.1, none, List.flatten_nil]
  · rw [empty]
    exact recordsOf_nil

end DtlsPskClient

open DtlsPskClient in
/--
The splitters cut every datagram at the same places. `split_dtls` leaves a rest that no record
starts at, and returns the records of a datagram that was put together from records.
-/
theorem record_splitters_agree (primitives : Primitives) (datagram : ByteString) :
    (∃ rest, datagram = (splitDtls datagram).flatten ++ rest ∧
      ∀ record tail, rest = record ++ tail → ¬IsRecord record) ∧
    ((strictDtlsRecords datagram).isSome ↔
      datagram ≠ [] ∧ (splitDtls datagram).flatten = datagram ∧
        (splitDtls datagram).length ≤ 32) ∧
    (∀ records, strictDtlsRecords datagram = some records → records = splitDtls datagram) ∧
    drainDatagram primitives datagram 0 = handleRecords primitives (splitDtls datagram) ∧
    (∀ (client : DtlsPskClient) inbox count, client.inbox = datagram :: inbox →
      exec (drainInbox primitives (count + 1)) client =
        exec (do
          let goesOn ← drainDatagram primitives datagram 0
          if goesOn then drainInbox primitives count else pure ()) { client with inbox }) ∧
    ∀ records, (∀ record ∈ records, IsRecord record) → splitDtls records.flatten = records := by
  refine ⟨?_, isSome_strictDtlsRecords datagram, ?_, ?_, ?_, ?_⟩
  · rcases recordsOf_rest datagram with ⟨rest, joined, none⟩
    rw [splitDtls_eq]
    exact ⟨rest, joined, fun record tail => not_isRecord_of_recordsOf none⟩
  · intro records strict
    rw [strictDtlsRecords, splitRecords_eq (Nat.zero_le _), List.nil_append] at strict
    split_ifs at strict
    rw [splitDtls_eq]
    exact (Option.some.inj strict).symm
  · rw [splitDtls_eq]
    exact drainDatagram_eq primitives datagram 0
  · exact fun client inbox count waiting => drainInbox_cons primitives waiting count
  · intro records areRecords
    rw [splitDtls_eq]
    exact recordsOf_flatten areRecords

end SmartThingsLocal
