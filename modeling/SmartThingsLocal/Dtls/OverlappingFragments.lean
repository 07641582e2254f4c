import SmartThingsLocal.Dtls.Reassembly
import SmartThingsLocal.Foundation.Machine

/-!
# Overlapping fragments

A fragment is written over what came before it. So an octet of a reassembled message is that of the
last fragment that covers its place, and that of the first one only where the two agree.
-/

namespace SmartThingsLocal

open Dtls Stateful DtlsPskClient

/-- A call of `_reassemble`. -/
structure ReassembleCall where
  msgSeq : ℕ
  length : ℕ
  fragOff : ℕ
  body : ByteString
  deriving DecidableEq, Repr

namespace ReassembleCall

def method (call : ReassembleCall) : Psk (Option ByteString) :=
  reassemble call.msgSeq call.length call.fragOff call.body

def perform (call : ReassembleCall) (client : DtlsPskClient) : DtlsPskClient :=
  (exec call.method client).2

/-- The octet that a fragment carries at a place of its message. -/
def octetAt (call : ReassembleCall) (i : ℕ) : Option UInt8 :=
  if call.fragOff ≤ i then call.body[i - call.fragOff]? else none

/-- The octet of the first fragment of a message that covers a place. -/
def firstOctet (msgSeq : ℕ) (calls : List ReassembleCall) (i : ℕ) : Option UInt8 :=
  (calls.filter (·.msgSeq = msgSeq)).findSome? (·.octetAt i)

/-- The octet of the last fragment of a message that covers a place. -/
def lastOctet (msgSeq : ℕ) (calls : List ReassembleCall) (i : ℕ) : Option UInt8 :=
  (calls.filter (·.msgSeq = msgSeq)).reverse.findSome? (·.octetAt i)

/-- A fragment of a message lies within it and declares its length. -/
def PartOf (msgSeq length : ℕ) (call : ReassembleCall) : Prop :=
  call.msgSeq = msgSeq → call.length = length ∧ call.fragOff + call.body.length ≤ length

/-- A call that puts no message with this number together. -/
def Unfinished (msgSeq : ℕ) (client : DtlsPskClient) (call : ReassembleCall) : Prop :=
  call.msgSeq = msgSeq → (exec call.method client).1 = .ok none

variable {msgSeq length : ℕ} {calls : List ReassembleCall} {call : ReassembleCall}
  {client : DtlsPskClient}

/-! ### Octets -/

theorem lastOctet_concat (same : call.msgSeq = msgSeq) (i : ℕ) :
    lastOctet msgSeq (calls ++ [call]) i = (call.octetAt i).or (lastOctet msgSeq calls i) := by
  simp only [lastOctet, List.filter_append, List.filter_cons, List.filter_nil, same, decide_true,
    if_true, List.reverse_append, List.reverse_singleton, List.singleton_append,
    List.findSome?_cons]
  cases call.octetAt i <;> rfl

theorem lastOctet_concat_of_ne (other : call.msgSeq ≠ msgSeq) (i : ℕ) :
    lastOctet msgSeq (calls ++ [call]) i = lastOctet msgSeq calls i := by
  simp [lastOctet, other, List.filter_append]

theorem octetAt_inside {i : ℕ} (start : call.fragOff ≤ i)
    (stop : i < call.fragOff + call.body.length) :
    ∃ octet, call.octetAt i = some octet := by
  rw [octetAt, if_pos start]
  exact ⟨_, List.getElem?_eq_getElem (by omega)⟩

theorem octetAt_outside {i : ℕ}
    (outside : ¬(call.fragOff ≤ i ∧ i < call.fragOff + call.body.length)) :
    call.octetAt i = none := by
  rw [octetAt]
  split_ifs with start
  · exact List.getElem?_eq_none (by omega)
  · rfl

/-! ### One call -/

/-- What has been seen of a message is what its last fragments carried there. -/
def Latest (msgSeq length : ℕ) (calls : List ReassembleCall) (client : DtlsPskClient) : Prop :=
  ∀ entry, client.pending.get? msgSeq = some entry →
    entry.length = length ∧ entry.WellFormed ∧
      ∀ i, i < length → entry.seen[i]? ≠ some 0 → entry.buffer[i]? = lastOctet msgSeq calls i

/-- The entry that a fragment has been written to. -/
theorem Latest.written (latest : Latest msgSeq length calls client) (same : call.msgSeq = msgSeq)
    (fits : call.fragOff + call.body.length ≤ length) :
    ((client.entryFor msgSeq length).write call.fragOff call.body).WellFormed ∧
      ∀ i, i < length →
        ((client.entryFor msgSeq length).write call.fragOff call.body).seen[i]? ≠ some 0 →
        ((client.entryFor msgSeq length).write call.fragOff call.body).buffer[i]? =
          lastOctet msgSeq (calls ++ [call]) i := by
  have entryLength := length_entryFor client msgSeq length
  have before : (client.entryFor msgSeq length).WellFormed ∧ ∀ i, i < length →
      (client.entryFor msgSeq length).seen[i]? ≠ some 0 →
      (client.entryFor msgSeq length).buffer[i]? = lastOctet msgSeq calls i := by
    rcases client.entryFor_cases msgSeq length with ⟨stored, -⟩ | new
    · exact (latest _ stored).2
    · rw [new]
      refine ⟨PendingMessage.fresh_wellFormed length, fun i inside marked => absurd ?_ marked⟩
      exact List.getElem?_replicate_of_lt inside
  rcases before with ⟨wellFormed, seen⟩
  have fits : call.fragOff + call.body.length ≤ (client.entryFor msgSeq length).length :=
    fits.trans entryLength.ge
  refine ⟨PendingMessage.write_wellFormed wellFormed fits, fun i inside marked => ?_⟩
  rw [PendingMessage.seen_write wellFormed fits] at marked
  rw [PendingMessage.buffer_write wellFormed fits, lastOctet_concat same]
  by_cases covered : call.fragOff ≤ i ∧ i < call.fragOff + call.body.length
  · rcases octetAt_inside covered.1 covered.2 with ⟨octet, found⟩
    rw [if_pos covered, found, Option.some_or, ← found, octetAt, if_pos covered.1]
  · rw [if_neg covered] at marked ⊢
    rw [octetAt_outside covered, Option.none_or]
    exact seen i inside marked

/-- A call that does not put the message together keeps what has been seen of it. -/
theorem Latest.perform (latest : Latest msgSeq length calls client)
    (part : call.PartOf msgSeq length) (unfinished : Unfinished msgSeq client call) :
    Latest msgSeq length (calls ++ [call]) (call.perform client) := by
  intro entry stored
  have ran := exec_reassemble call.msgSeq call.length call.fragOff call.body client
  rw [ReassembleCall.perform, method, ran] at stored
  rw [Unfinished, method, ran] at unfinished
  dsimp only at stored unfinished
  by_cases same : call.msgSeq = msgSeq
  · rcases part same with ⟨lengthEq, fits⟩
    have ends := unfinished same
    have written := latest.written same fits
    rw [same, lengthEq] at stored ends
    split_ifs at stored ends with whole full complete
    · cases ends
    · cases full.1.symm.trans stored
    · cases ends
    · rw [OrderedDict.get?_set, if_pos rfl] at stored
      cases stored
      exact ⟨length_entryFor client msgSeq length, written⟩
  · have unchanged : client.pending.get? msgSeq = some entry := by
      split_ifs at stored
      · exact stored
      · exact stored
      · rwa [OrderedDict.get?_erase, if_neg (Ne.symm same)] at stored
      · rwa [OrderedDict.get?_set, if_neg (Ne.symm same)] at stored
    rcases latest entry unchanged with ⟨lengthEq, wellFormed, seen⟩
    refine ⟨lengthEq, wellFormed, fun i inside marked => ?_⟩
    rw [lastOctet_concat_of_ne same]
    exact seen i inside marked

/-- A message that is put together is made of the last fragments. -/
theorem Latest.returned (latest : Latest msgSeq length calls client)
    (part : call.PartOf msgSeq length) (same : call.msgSeq = msgSeq) {message : ByteString}
    (returned : (exec call.method client).1 = .ok (some message)) :
    message.length = length ∧
      ∀ i, i < length → message[i]? = lastOctet msgSeq (calls ++ [call]) i := by
  rcases part same with ⟨lengthEq, fits⟩
  have written := latest.written same fits
  rw [method, exec_reassemble, same, lengthEq] at returned
  dsimp only at returned
  split_ifs at returned with whole full complete
  · cases returned
    refine ⟨whole.2, fun i inside => ?_⟩
    rcases octetAt_inside (by omega) (by omega : i < call.fragOff + call.body.length) with
      ⟨octet, found⟩
    rw [lastOctet_concat same, found, Option.some_or, ← found, octetAt, if_pos (by omega), whole.1,
      Nat.sub_zero]
  · cases returned
  · cases returned
    refine ⟨written.1.buffer.trans (length_entryFor client msgSeq length), fun i inside => ?_⟩
    exact written.2 i inside (PendingMessage.seen_of_complete complete i)
  · cases returned

/-! ### Runs -/

theorem latest_run (meets : Machine.Meets perform (Unfinished msgSeq) calls client)
    (parts : ∀ call ∈ calls, call.PartOf msgSeq length)
    (absent : client.pending.get? msgSeq = none) :
    Latest msgSeq length calls (Machine.run perform calls client) := by
  have keeps (more earlier : List ReassembleCall) {client : DtlsPskClient}
      (latest : Latest msgSeq length earlier client)
      (meets : Machine.Meets perform (Unfinished msgSeq) more client)
      (parts : ∀ call ∈ more, call.PartOf msgSeq length) :
      Latest msgSeq length (earlier ++ more) (Machine.run perform more client) := by
    induction more generalizing earlier client with
    | nil => rwa [List.append_nil]
    | cons call more ih =>
        rcases List.forall_mem_cons.mp parts with ⟨first, rest⟩
        have next := ih (earlier ++ [call]) (latest.perform first meets.1) meets.2 rest
        rwa [List.append_assoc] at next
  refine keeps calls [] (fun entry stored => ?_) meets parts
  rw [absent] at stored
  cases stored

end ReassembleCall

open ReassembleCall in
/--
Of a message that is put together, each octet is that of the first fragment that covered its place
exactly when the last one carried the same there.
-/
theorem reassembled_first_iff {client : DtlsPskClient} {msgSeq length : ℕ}
    (absent : client.pending.get? msgSeq = none) {calls : List ReassembleCall}
    {last : ReassembleCall} (parts : ∀ call ∈ calls ++ [last], call.PartOf msgSeq length)
    (unfinished : Machine.Meets perform (Unfinished msgSeq) calls client)
    (isLast : last.msgSeq = msgSeq) {message : ByteString}
    (returned : (exec last.method (Machine.run perform calls client)).1 = .ok (some message)) :
    (∀ i, i < length → message[i]? = firstOctet msgSeq (calls ++ [last]) i) ↔
      ∀ i, i < length →
        lastOctet msgSeq (calls ++ [last]) i = firstOctet msgSeq (calls ++ [last]) i := by
  have latest := latest_run unfinished
    (fun call member => parts call (List.mem_append_left _ member)) absent
  have octets := (latest.returned (parts last (by simp)) isLast returned).2
  exact forall_congr' fun i => forall_congr' fun inside => by rw [octets i inside]

/-- Two fragments that agree where they overlap, and a fragment of another message between them. -/
theorem reassembled_first_iff_agreeing :
    let calls : List ReassembleCall := [⟨1, 3, 0, [5, 6]⟩, ⟨2, 4, 0, [7]⟩]
    let last : ReassembleCall := ⟨1, 3, 1, [6, 8]⟩
    (∀ i, i < 3 → ([5, 6, 8] : ByteString)[i]? =
        ReassembleCall.firstOctet 1 (calls ++ [last]) i) ↔
      ∀ i, i < 3 → ReassembleCall.lastOctet 1 (calls ++ [last]) i =
        ReassembleCall.firstOctet 1 (calls ++ [last]) i := by
  intro calls last
  have absent : ({ identity := [1], psk := [] } : DtlsPskClient).pending.get? 1 = none := rfl
  have parts : ∀ call ∈ calls ++ [last], call.PartOf 1 3 := by
    simp [calls, last, ReassembleCall.PartOf]
  have unfinished : Machine.Meets ReassembleCall.perform (ReassembleCall.Unfinished 1) calls
      { identity := [1], psk := [] } :=
    ⟨fun _ => rfl, by simp [ReassembleCall.Unfinished], trivial⟩
  exact reassembled_first_iff absent parts unfinished rfl rfl

/-- A fragment over octets that were received before replaces them. -/
theorem overlap_rewrites :
    ¬∀ (client : DtlsPskClient) (msgSeq length : ℕ) (calls : List ReassembleCall)
        (last : ReassembleCall) (message : ByteString),
      client.pending.get? msgSeq = none → (∀ call ∈ calls ++ [last], call.PartOf msgSeq length) →
      Machine.Meets ReassembleCall.perform (ReassembleCall.Unfinished msgSeq) calls client →
      last.msgSeq = msgSeq →
      (exec last.method (Machine.run ReassembleCall.perform calls client)).1 = .ok (some message) →
      ∀ i, i < length →
        message[i]? = ReassembleCall.firstOctet msgSeq (calls ++ [last]) i := by
  intro always
  have kept := always { identity := [1], psk := [] } 1 40
    [⟨1, 40, 0, List.replicate 20 65⟩, ⟨1, 40, 0, List.replicate 20 66⟩]
    ⟨1, 40, 20, List.replicate 20 67⟩ (List.replicate 20 66 ++ List.replicate 20 67) rfl
    (by simp [ReassembleCall.PartOf]) ⟨fun _ => by decide, fun _ => by decide, trivial⟩ rfl
    (by decide) 0 (by decide)
  revert kept
  decide

end SmartThingsLocal
