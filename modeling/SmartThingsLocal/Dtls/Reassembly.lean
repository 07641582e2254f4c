import SmartThingsLocal.Dtls.MethodFrames

/-!
# Reassembly

What `_reassemble` does to the table of incomplete messages, octet by octet: a fragment
overwrites its part of the buffer and marks it as seen, and a message leaves the table when
every octet of it is marked. What a message is made of is told by the log of fragments.
-/

namespace SmartThingsLocal

open Dtls Stateful

/-- A fragment of a message has an octet at a place. -/
def Covers (events : List MessageEvent) (msgSeq i : ℕ) (octet : UInt8) : Prop :=
  ∃ fragOff body, MessageEvent.received msgSeq fragOff body ∈ events ∧
    fragOff ≤ i ∧ body[i - fragOff]? = some octet

/-- Every octet of a body is one of a received fragment. -/
def Composed (events : List MessageEvent) (msgSeq : ℕ) (body : ByteString) : Prop :=
  ∀ i octet, body[i]? = some octet → Covers events msgSeq i octet

theorem Covers.append {events : List MessageEvent} {msgSeq i : ℕ} {octet : UInt8}
    (covers : Covers events msgSeq i octet) (event : MessageEvent) :
    Covers (events ++ [event]) msgSeq i octet := by
  rcases covers with ⟨fragOff, body, received, start, found⟩
  exact ⟨fragOff, body, List.mem_append_left _ received, start, found⟩

theorem Composed.append {events : List MessageEvent} {msgSeq : ℕ} {body : ByteString}
    (composed : Composed events msgSeq body) (event : MessageEvent) :
    Composed (events ++ [event]) msgSeq body :=
  fun i octet found => (composed i octet found).append event

namespace PendingMessage

/-- An entry of which nothing has been seen. -/
def fresh (length : ℕ) : PendingMessage :=
  ⟨length, List.replicate length 0, List.replicate length 0⟩

/-- The entry after a fragment. -/
def write (entry : PendingMessage) (fragOff : ℕ) (body : ByteString) : PendingMessage where
  length := entry.length
  buffer := DtlsPskClient.overwrite entry.buffer fragOff body
  seen := DtlsPskClient.overwrite entry.seen fragOff (List.replicate body.length 1)

def complete (entry : PendingMessage) : Bool := entry.seen.all (· ≠ 0)

/-- The buffer and the marks are as long as the message. -/
structure WellFormed (entry : PendingMessage) : Prop where
  buffer : entry.buffer.length = entry.length
  seen : entry.seen.length = entry.length

theorem fresh_wellFormed (length : ℕ) : (fresh length).WellFormed :=
  ⟨List.length_replicate, List.length_replicate⟩

end PendingMessage

namespace DtlsPskClient

variable {buffer slice : ByteString} {offset : ℕ}

theorem length_overwrite (fits : offset + slice.length ≤ buffer.length) :
    (overwrite buffer offset slice).length = buffer.length := by
  simp only [overwrite, List.length_append, List.length_take, List.length_drop]
  omega

theorem getElem?_overwrite (fits : offset + slice.length ≤ buffer.length) (i : ℕ) :
    (overwrite buffer offset slice)[i]? =
      if offset ≤ i ∧ i < offset + slice.length then slice[i - offset]? else buffer[i]? := by
  have start : (buffer.take offset).length = offset := by
    rw [List.length_take]
    omega
  unfold overwrite
  by_cases before : i < offset
  · rw [if_neg (by omega), List.append_assoc, List.getElem?_append_left (by omega),
      List.getElem?_take_of_lt before]
  · rw [List.append_assoc, List.getElem?_append_right (by omega), start]
    by_cases inside : i < offset + slice.length
    · rw [if_pos ⟨by omega, inside⟩, List.getElem?_append_left (by omega)]
    · rw [if_neg (by omega), List.getElem?_append_right (by omega), List.getElem?_drop]
      congr 1
      omega

end DtlsPskClient

namespace PendingMessage

variable {entry : PendingMessage} {fragOff : ℕ} {body : ByteString}

theorem write_wellFormed (wellFormed : entry.WellFormed)
    (fits : fragOff + body.length ≤ entry.length) : (entry.write fragOff body).WellFormed := by
  have buffer := wellFormed.buffer
  have seen := wellFormed.seen
  constructor
  · exact (DtlsPskClient.length_overwrite (by omega)).trans buffer
  · exact (DtlsPskClient.length_overwrite (by rw [List.length_replicate]; omega)).trans seen

/-- An octet of the buffer is one of the fragment, or was there before. -/
theorem buffer_write (wellFormed : entry.WellFormed) (fits : fragOff + body.length ≤ entry.length)
    (i : ℕ) :
    (entry.write fragOff body).buffer[i]? =
      if fragOff ≤ i ∧ i < fragOff + body.length then body[i - fragOff]? else entry.buffer[i]? :=
  DtlsPskClient.getElem?_overwrite (by rw [wellFormed.buffer]; exact fits) i

/-- An octet of the fragment is marked. -/
theorem seen_write (wellFormed : entry.WellFormed) (fits : fragOff + body.length ≤ entry.length)
    (i : ℕ) :
    (entry.write fragOff body).seen[i]? =
      if fragOff ≤ i ∧ i < fragOff + body.length then some 1 else entry.seen[i]? := by
  have length : (List.replicate body.length (1 : UInt8)).length = body.length :=
    List.length_replicate
  unfold write
  dsimp only
  rw [DtlsPskClient.getElem?_overwrite (by rw [length, wellFormed.seen]; exact fits), length]
  split_ifs with inside
  · rw [List.getElem?_replicate_of_lt (by omega)]
  · rfl

/-- A complete message has no octet that is not marked. -/
theorem seen_of_complete (complete : entry.complete = true) (i : ℕ) :
    entry.seen[i]? ≠ some 0 := by
  intro unmarked
  have marked := List.all_eq_true.mp complete 0 (List.mem_of_getElem? unmarked)
  simp at marked

end PendingMessage

namespace DtlsPskClient

/-- Add to what has happened to handshake messages. -/
def noteMessage (client : DtlsPskClient) (event : MessageEvent) : DtlsPskClient :=
  { client with
    history := { client.history with messages := client.history.messages ++ [event] } }

/-- The entry that a fragment is written to: the one with its length, or a new one. -/
def entryFor (client : DtlsPskClient) (msgSeq length : ℕ) : PendingMessage :=
  ((client.pending.get? msgSeq).filter (·.length = length)).getD (.fresh length)

/-- The entry is one of the table, or nothing of it has been seen. -/
theorem entryFor_cases (client : DtlsPskClient) (msgSeq length : ℕ) :
    (client.pending.get? msgSeq = some (client.entryFor msgSeq length) ∧
        (client.entryFor msgSeq length).length = length) ∨
      client.entryFor msgSeq length = .fresh length := by
  rcases filtered : (client.pending.get? msgSeq).filter (·.length = length) with _ | entry
  · refine .inr ?_
    rw [entryFor, filtered]
    rfl
  · rcases Option.filter_eq_some_iff.mp filtered with ⟨found, same⟩
    refine .inl ?_
    rw [entryFor, filtered]
    exact ⟨found, by simpa using same⟩

theorem entryFor_of_get? {client : DtlsPskClient} {msgSeq length : ℕ} {entry : PendingMessage}
    (found : client.pending.get? msgSeq = some entry) (same : entry.length = length) :
    client.entryFor msgSeq length = entry := by
  rw [entryFor, found, Option.filter_some, if_pos (by simpa using same)]
  rfl

theorem entryFor_of_absent {client : DtlsPskClient} {msgSeq : ℕ}
    (absent : client.pending.get? msgSeq = none) (length : ℕ) :
    client.entryFor msgSeq length = .fresh length := by
  rw [entryFor, absent]
  rfl

theorem length_entryFor (client : DtlsPskClient) (msgSeq length : ℕ) :
    (client.entryFor msgSeq length).length = length := by
  rcases client.entryFor_cases msgSeq length with ⟨-, same⟩ | new
  · exact same
  · rw [new]
    rfl

theorem exec_reassemble (msgSeq length fragOff : ℕ) (body : ByteString)
    (client : DtlsPskClient) :
    exec (reassemble msgSeq length fragOff body) client =
      let noted := client.noteMessage (.received msgSeq fragOff body)
      let written := (client.entryFor msgSeq length).write fragOff body
      if fragOff = 0 ∧ body.length = length then (.ok (some body), noted)
      else if client.pending.get? msgSeq = none ∧ client.pending.size ≥ maxPendingMessages then
        (.ok none, { noted with
          failed := client.failed <|> some "too many incomplete handshake messages" })
      else if written.complete then
        (.ok (some written.buffer), { noted with pending := client.pending.erase msgSeq })
      else (.ok none, { noted with pending := client.pending.set msgSeq written }) := by
  unfold reassemble
  rw [exec_modify_bind, exec_get_bind]
  dsimp only
  by_cases whole : fragOff = 0 ∧ body.length = length
  · rw [if_pos whole, if_pos whole]
    rfl
  rw [if_neg whole, if_neg whole]
  by_cases full : client.pending.get? msgSeq = none ∧ client.pending.size ≥ maxPendingMessages
  · rw [if_pos full, if_pos full]
    rfl
  rw [if_neg full, if_neg full]
  show exec (if ((client.entryFor msgSeq length).write fragOff body).complete then _ else _) _ = _
  split_ifs
  · rfl
  · -- the source stores the length of the fragment
    conv_rhs => rw [PendingMessage.write, length_entryFor]
    rfl

variable (primitives : Primitives)

/-- What `handleFragment` does with a complete message. -/
def storeComplete (header : FragmentHeader) (complete : ByteString) : Psk Bool := do
  let client ← get
  if client.ready.size ≥ maxPendingMessages then
    fail "too many out-of-order handshake messages"
    return false
  else
    set { client with ready := client.ready.set header.msgSeq (header.msgType, complete) }
    deliverReady primitives (client.ready.size + 1)
    let client ← get
    return client.failed.isNone

/-- What `handleFragment` does with a fragment of a message that has not been passed. -/
def takeFragment (header : FragmentHeader) (body : ByteString) : Psk Bool := do
  match ← reassemble header.msgSeq header.length header.fragOff body with
  | none =>
      let client ← get
      return client.failed.isNone
  | some complete => storeComplete primitives header complete

theorem exec_handleFragment {header : FragmentHeader} (body : ByteString) (client : DtlsPskClient)
    (plain : ¬(header.msgType = htHelloVerifyRequest ∧ header.fragOff = 0)) :
    exec (handleFragment primitives header body) client =
      if header.msgSeq < client.nextRecvMsgSeq then (.ok true, client)
      else exec (takeFragment primitives header body) client := by
  unfold handleFragment
  rw [if_neg plain, exec_get_bind]
  split_ifs <;> rfl

end DtlsPskClient

end SmartThingsLocal
