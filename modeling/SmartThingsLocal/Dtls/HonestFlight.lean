import SmartThingsLocal.Dtls.MessageQueues
import SmartThingsLocal.Dtls.Reassembly
import SmartThingsLocal.Foundation.Logs

/-!
# An honest flight in the queues

A server sends messages with consecutive numbers, in pieces that arrive in any order and any
number of times. What the queues hold is followed against the log of the pieces that have come
to reassembly: the marks of an incomplete message tell which of its octets have been received,
and a message waits when all of them have.
-/

namespace SmartThingsLocal

open Dtls DtlsPskClient

/-- The messages of a flight, with their types; they are numbered from the first one on. -/
structure HonestFlight where
  first : ℕ
  messages : List (UInt8 × ByteString)
  numbered : first + messages.length ≤ 2 ^ 16
  bounded : ∀ message ∈ messages, message.2.length ≤ maxHandshakeMessage
  plain : ∀ message ∈ messages, message.1 ≠ htHelloVerifyRequest

/-- A part of the body of a message, or a whole one. -/
structure FlightPiece (flight : HonestFlight) where
  index : Fin flight.messages.length
  offset : ℕ
  count : ℕ
  within : offset + count ≤ flight.messages[index].2.length

namespace FlightPiece

variable {flight : HonestFlight} (piece : FlightPiece flight)

def message : UInt8 × ByteString := flight.messages[piece.index]

def msgSeq : ℕ := flight.first + piece.index

def body : ByteString := (piece.message.2.drop piece.offset).take piece.count

/-- The header of the fragment. -/
def header : FragmentHeader where
  msgType := piece.message.1
  length := piece.message.2.length
  msgSeq := piece.msgSeq
  fragOff := piece.offset
  fragLen := piece.count

/-- The fragment as it is sent. -/
def encode : ByteString :=
  piece.message.1 :: ByteString.ofNat 3 piece.message.2.length ++
    ByteString.ofNat 2 piece.msgSeq ++ ByteString.ofNat 3 piece.offset ++
    ByteString.ofNat 3 piece.count ++ piece.body

/-- A handshake payload of fragments. -/
def payload (pieces : List (FlightPiece flight)) : ByteString := pieces.flatMap encode

/-- The fragment comes to reassembly. -/
def event : MessageEvent := .received piece.msgSeq piece.offset piece.body

theorem getElem?_messages : flight.messages[piece.index.val]? = some piece.message :=
  List.getElem?_eq_getElem piece.index.isLt

theorem message_mem : piece.message ∈ flight.messages := List.getElem_mem piece.index.isLt

theorem fits : piece.offset + piece.count ≤ piece.message.2.length := piece.within

theorem length_body : piece.body.length = piece.count := by
  have fits := piece.fits
  rw [body, List.length_take, List.length_drop]
  omega

theorem getElem?_body {i : ℕ} (start : piece.offset ≤ i)
    (stop : i < piece.offset + piece.count) :
    piece.body[i - piece.offset]? = piece.message.2[i]? := by
  rw [body, List.getElem?_take_of_lt (by omega), List.getElem?_drop]
  congr 1
  omega

/-- The octets before the body. -/
def head : ByteString :=
  piece.message.1 :: ByteString.ofNat 3 piece.message.2.length ++
    ByteString.ofNat 2 piece.msgSeq ++ ByteString.ofNat 3 piece.offset ++
    ByteString.ofNat 3 piece.count

theorem encode_eq : piece.encode = piece.head ++ piece.body := rfl

theorem length_head : piece.head.length = handshakeHeader := by
  simp [head, handshakeHeader]

theorem msgSeq_lt : piece.msgSeq < 2 ^ 16 := by
  have numbered := flight.numbered
  have bound := piece.index.isLt
  unfold msgSeq
  omega

theorem length_message : piece.message.2.length ≤ maxHandshakeMessage :=
  flight.bounded _ piece.message_mem

/-- The header is read back. -/
theorem read_encode (rest : ByteString) :
    FragmentHeader.read (piece.encode ++ rest) = .ok piece.header := by
  have short : piece.message.2.length < 256 ^ 3 :=
    piece.length_message.trans_lt (by decide)
  have fits := piece.fits
  have length := ByteString.toNat_ofNat short
  have msgSeq := ByteString.toNat_ofNat (show piece.msgSeq < 256 ^ 2 from piece.msgSeq_lt)
  have offset := ByteString.toNat_ofNat (by omega : piece.offset < 256 ^ 3)
  have count := ByteString.toNat_ofNat (by omega : piece.count < 256 ^ 3)
  rw [encode, FragmentHeader.read]
  simp [octetAt, List.drop_append, List.drop_eq_nil_of_le, header, length, msgSeq, offset, count]

end FlightPiece

/-- Something of a message has come to reassembly, and all of its octets. -/
def FullyReceived (events : List MessageEvent) (msgSeq : ℕ) (body : ByteString) : Prop :=
  (∃ fragOff part, .received msgSeq fragOff part ∈ events) ∧ Composed events msgSeq body

theorem Covers.mono {events more : List MessageEvent} {msgSeq i : ℕ} {octet : UInt8}
    (covers : Covers events msgSeq i octet)
    (kept : ∀ fragOff part, .received msgSeq fragOff part ∈ events →
      .received msgSeq fragOff part ∈ more) : Covers more msgSeq i octet := by
  rcases covers with ⟨fragOff, part, received, start, found⟩
  exact ⟨fragOff, part, kept fragOff part received, start, found⟩

theorem FullyReceived.mono {events more : List MessageEvent} {msgSeq : ℕ} {body : ByteString}
    (received : FullyReceived events msgSeq body)
    (kept : ∀ fragOff part, .received msgSeq fragOff part ∈ events →
      .received msgSeq fragOff part ∈ more) : FullyReceived more msgSeq body := by
  rcases received with ⟨⟨fragOff, part, some⟩, composed⟩
  exact ⟨⟨fragOff, part, kept fragOff part some⟩,
    fun i octet found => (composed i octet found).mono kept⟩

/-- An event that is not a fragment of the message changes nothing for it. -/
theorem mem_append_event {events : List MessageEvent} {event : MessageEvent} {msgSeq : ℕ}
    (other : ∀ fragOff part, event ≠ .received msgSeq fragOff part) (fragOff : ℕ)
    (part : ByteString) :
    .received msgSeq fragOff part ∈ events ++ [event] ↔ .received msgSeq fragOff part ∈ events := by
  rw [List.mem_append, List.mem_singleton]
  exact or_iff_left fun same => other fragOff part same.symm

/-! ### Incomplete messages -/

/-- The octets of an incomplete message that have been seen are those of its body. -/
structure PendingMessage.PartOf (entry : PendingMessage) (body : ByteString) : Prop where
  length : entry.length = body.length
  wellFormed : entry.WellFormed
  octets : ∀ i : ℕ, entry.seen[i]? ≠ some 0 → entry.buffer[i]? = body[i]?

/-- The marks of an incomplete message tell which octets have been received. -/
def PendingMessage.Marks (entry : PendingMessage) (events : List MessageEvent) (msgSeq : ℕ)
    (body : ByteString) : Prop :=
  ∀ i octet, body[i]? = some octet → (entry.seen[i]? ≠ some 0 ↔ Covers events msgSeq i octet)

/-- What is known of a message of which some octets are missing. -/
structure Unfinished (events : List MessageEvent) (msgSeq : ℕ) (body : ByteString)
    (stored : Option PendingMessage) : Prop where
  unseen : stored = none → ∀ fragOff part, .received msgSeq fragOff part ∉ events
  incomplete : ∀ entry, stored = some entry → entry.complete = false
  marks : ∀ entry, stored = some entry → entry.Marks events msgSeq body

namespace PendingMessage

theorem fresh_partOf (body : ByteString) : (fresh body.length).PartOf body where
  length := rfl
  wellFormed := fresh_wellFormed _
  octets i seen := by
    by_cases bound : i < body.length
    · exact absurd (List.getElem?_replicate_of_lt bound) seen
    · have outside : (fresh body.length).buffer.length ≤ i := by
        rw [(fresh_wellFormed _).buffer]
        exact not_lt.mp bound
      rw [List.getElem?_eq_none outside, List.getElem?_eq_none (not_lt.mp bound)]

theorem fresh_marks {events : List MessageEvent} {msgSeq : ℕ} {body : ByteString}
    (unseen : ∀ fragOff part, .received msgSeq fragOff part ∉ events) :
    (fresh body.length).Marks events msgSeq body := by
  intro i octet found
  have bound : i < body.length := (List.getElem?_eq_some_iff.mp found).1
  refine ⟨fun seen => absurd (List.getElem?_replicate_of_lt bound) seen, ?_⟩
  rintro ⟨fragOff, part, received, -⟩
  exact absurd received (unseen fragOff part)

variable {entry : PendingMessage} {flight : HonestFlight} {piece : FlightPiece flight}

theorem PartOf.fits (partOf : entry.PartOf piece.message.2) :
    piece.offset + piece.body.length ≤ entry.length := by
  rw [piece.length_body, partOf.length]
  exact piece.fits

theorem PartOf.write (partOf : entry.PartOf piece.message.2) :
    (entry.write piece.offset piece.body).PartOf piece.message.2 where
  length := partOf.length
  wellFormed := write_wellFormed partOf.wellFormed partOf.fits
  octets i seen := by
    rw [seen_write partOf.wellFormed partOf.fits] at seen
    rw [buffer_write partOf.wellFormed partOf.fits]
    split_ifs at seen ⊢ with inside
    · rw [piece.length_body] at inside
      exact piece.getElem?_body inside.1 inside.2
    · exact partOf.octets i seen

/-- A fragment marks the octets it has. -/
theorem Marks.write {events : List MessageEvent} (marks : entry.Marks events piece.msgSeq
    piece.message.2) (partOf : entry.PartOf piece.message.2) :
    (entry.write piece.offset piece.body).Marks (events ++ [piece.event]) piece.msgSeq
      piece.message.2 := by
  intro i octet found
  rw [seen_write partOf.wellFormed partOf.fits]
  split_ifs with inside
  · refine ⟨fun _ => ⟨piece.offset, piece.body, List.mem_append_right _
      (List.mem_singleton_self _), inside.1, ?_⟩, fun _ => nofun⟩
    rw [piece.length_body] at inside
    exact (piece.getElem?_body inside.1 inside.2).trans found
  · refine (marks i octet found).trans ⟨fun covers => covers.append _, ?_⟩
    rintro ⟨fragOff, part, received, start, present⟩
    rcases List.mem_append.mp received with earlier | last
    · exact ⟨fragOff, part, earlier, start, present⟩
    · -- the new fragment does not have the octet
      rw [List.mem_singleton, FlightPiece.event, MessageEvent.received.injEq] at last
      rcases last with ⟨-, rfl, rfl⟩
      have bound := (List.getElem?_eq_some_iff.mp present).1
      exact absurd ⟨start, by omega⟩ inside

/-- A complete message has been received in full, and its buffer is the body. -/
theorem PartOf.buffer_eq (partOf : entry.PartOf piece.message.2)
    (complete : entry.complete = true) : entry.buffer = piece.message.2 :=
  List.ext_getElem? fun i => partOf.octets i (seen_of_complete complete i)

theorem Marks.composed {events : List MessageEvent} {msgSeq : ℕ} {body : ByteString}
    (marks : entry.Marks events msgSeq body) (complete : entry.complete = true) :
    Composed events msgSeq body :=
  fun i octet found => (marks i octet found).mp (seen_of_complete complete i)

end PendingMessage

theorem Unfinished.not_received {events : List MessageEvent} {msgSeq : ℕ} {body : ByteString}
    {stored : Option PendingMessage} (unfinished : Unfinished events msgSeq body stored)
    (partOf : ∀ entry, stored = some entry → entry.PartOf body) :
    ¬FullyReceived events msgSeq body := by
  rintro ⟨⟨fragOff, part, received⟩, composed⟩
  rcases stored with _ | entry
  · exact unfinished.unseen rfl fragOff part received
  · have incomplete := unfinished.incomplete entry rfl
    have partOf := partOf entry rfl
    rw [PendingMessage.complete, List.all_eq_false] at incomplete
    rcases incomplete with ⟨mark, markMem, unmarked⟩
    rcases List.mem_iff_getElem?.mp markMem with ⟨i, found⟩
    have bound : i < body.length := by
      rw [← partOf.length, ← partOf.wellFormed.seen]
      exact (List.getElem?_eq_some_iff.mp found).1
    have present := List.getElem?_eq_getElem bound
    have seen := (unfinished.marks entry rfl i _ present).mpr (composed i _ present)
    refine seen ?_
    rw [found]
    simpa using unmarked

/-- What is known of a message stays when something else happens. -/
theorem Unfinished.append {events : List MessageEvent} {msgSeq : ℕ} {body : ByteString}
    {stored : Option PendingMessage} (unfinished : Unfinished events msgSeq body stored)
    {event : MessageEvent} (other : ∀ fragOff part, event ≠ .received msgSeq fragOff part) :
    Unfinished (events ++ [event]) msgSeq body stored where
  unseen absent fragOff part received :=
    unfinished.unseen absent fragOff part ((mem_append_event other fragOff part).mp received)
  incomplete := unfinished.incomplete
  marks entry found i octet present :=
    (unfinished.marks entry found i octet present).trans
      ⟨fun covers => covers.append event,
        fun covers => covers.mono fun fragOff part => (mem_append_event other fragOff part).mp⟩

/-! ### Deliveries -/

def MessageEvent.isDelivery : MessageEvent → Bool
  | .delivered _ _ _ => true
  | .received _ _ _ | .answered _ _ => false

namespace HonestFlight

variable (flight : HonestFlight)

/-- The deliveries of the messages, in their order. -/
def deliveries : List MessageEvent :=
  flight.messages.mapIdx fun i message => .delivered message.1 (flight.first + i) message.2

/-- So many messages have been received in full with all before them, and the next one has not. -/
structure Deliverable (events : List MessageEvent) (count : ℕ) : Prop where
  le : count ≤ flight.messages.length
  received : ∀ i message, i < count → flight.messages[i]? = some message →
    FullyReceived events (flight.first + i) message.2
  missing : ∀ message, flight.messages[count]? = some message →
    ¬FullyReceived events (flight.first + count) message.2

/-- At every fragment, what has been delivered is what could be. -/
def Prompt (events : List MessageEvent) : Prop :=
  ∀ before msgSeq fragOff part after, events = before ++ .received msgSeq fragOff part :: after →
    ∃ count, flight.Deliverable before count ∧
      before.filter (·.isDelivery) = flight.deliveries.take count

/-- The queues while messages of the flight are delivered, against the log of what happens. -/
structure Tracks (initial : MessageQueues) (count : ℕ) (log : List MessageEvent)
    (queues : MessageQueues) : Prop where
  messages : queues.messages = initial.messages ++ log
  le : count ≤ flight.messages.length
  partial_of : ∀ i message entry, count ≤ i → flight.messages[i]? = some message →
    queues.pending.get? (flight.first + i) = some entry → entry.PartOf message.2
  unfinished : ∀ i message, count ≤ i → flight.messages[i]? = some message →
    queues.ready.get? (flight.first + i) = none →
    Unfinished log (flight.first + i) message.2 (queues.pending.get? (flight.first + i))
  waiting : ∀ i message, count ≤ i → queues.ready.get? (flight.first + i) = some message →
    flight.messages[i]? = some message ∧ FullyReceived log (flight.first + i) message.2
  received : ∀ i message, i < count → flight.messages[i]? = some message →
    FullyReceived log (flight.first + i) message.2
  delivered : log.filter (·.isDelivery) = flight.deliveries.take count
  prompt : flight.Prompt log
  pendingKeys : ∀ key ∈ queues.pending.keys, key ∈ initial.pending.keys ∨
    ∃ i < flight.messages.length, key = flight.first + i
  readyKeys : ∀ key ∈ queues.ready.keys, key ∈ initial.ready.keys ∨
    ∃ i < flight.messages.length, key = flight.first + i

variable {flight} {initial queues : MessageQueues} {count : ℕ} {log : List MessageEvent}

/-- While the next message does not wait, what has been delivered is what could be. -/
theorem Tracks.deliverable (tracks : flight.Tracks initial count log queues)
    (settled : queues.ready.get? (flight.first + count) = none) :
    flight.Deliverable log count where
  le := tracks.le
  received := tracks.received
  missing message found :=
    (tracks.unfinished count message le_rfl found settled).not_received fun entry stored =>
      tracks.partial_of count message entry le_rfl found stored

/-- One fragment; the other messages are as they were. -/
theorem Tracks.receive (tracks : flight.Tracks initial count log queues)
    (settled : queues.ready.get? (flight.first + count) = none) (piece : FlightPiece flight)
    (after : MessageQueues)
    (messages : after.messages = queues.messages ++ [piece.event])
    (otherPending : ∀ key, key ≠ piece.msgSeq → after.pending.get? key = queues.pending.get? key)
    (otherReady : ∀ key, key ≠ piece.msgSeq → after.ready.get? key = queues.ready.get? key)
    (partOf : ∀ entry, after.pending.get? piece.msgSeq = some entry →
      entry.PartOf piece.message.2)
    (own : after.ready.get? piece.msgSeq = some piece.message ∧
        FullyReceived (log ++ [piece.event]) piece.msgSeq piece.message.2 ∨
      after.ready.get? piece.msgSeq = none ∧ Unfinished (log ++ [piece.event]) piece.msgSeq
        piece.message.2 (after.pending.get? piece.msgSeq)) :
    flight.Tracks initial count (log ++ [piece.event]) after where
  messages := by rw [messages, tracks.messages, List.append_assoc]
  le := tracks.le
  partial_of i message entry later found stored := by
    by_cases same : i = piece.index
    · subst same
      cases piece.getElem?_messages.symm.trans found
      exact partOf entry stored
    · rw [otherPending _ (by unfold FlightPiece.msgSeq; omega)] at stored
      exact tracks.partial_of i message entry later found stored
  unfinished i message later found absent := by
    by_cases same : i = piece.index
    · subst same
      cases piece.getElem?_messages.symm.trans found
      rcases own with ⟨waits, -⟩ | ⟨-, unfinished⟩
      · exact absurd (waits.symm.trans absent) nofun
      · exact unfinished
    · have differs : flight.first + i ≠ piece.msgSeq := by
        unfold FlightPiece.msgSeq
        omega
      rw [otherReady _ differs] at absent
      rw [otherPending _ differs]
      refine (tracks.unfinished i message later found absent).append fun fragOff part received => ?_
      exact differs (MessageEvent.received.inj received).1.symm
  waiting i message later stored := by
    by_cases same : i = piece.index
    · subst same
      rcases own with ⟨waits, received⟩ | ⟨absent, -⟩
      · cases waits.symm.trans stored
        exact ⟨piece.getElem?_messages, received⟩
      · exact absurd (absent.symm.trans stored) nofun
    · rw [otherReady _ (by unfold FlightPiece.msgSeq; omega)] at stored
      rcases tracks.waiting i message later stored with ⟨found, received⟩
      exact ⟨found, received.mono fun _ _ => List.mem_append_left _⟩
  received i message earlier found :=
    (tracks.received i message earlier found).mono fun _ _ => List.mem_append_left _
  delivered := by
    rw [List.filter_append, tracks.delivered]
    exact List.append_nil _
  prompt before msgSeq fragOff part rest split := by
    rcases List.eq_append_cons_of_concat split with ⟨rfl, -, -⟩ | ⟨earlier, -, logged⟩
    · exact ⟨count, tracks.deliverable settled, tracks.delivered⟩
    · exact tracks.prompt before msgSeq fragOff part earlier logged
  pendingKeys key keyMem := by
    by_cases same : key = piece.msgSeq
    · exact .inr ⟨piece.index, piece.index.isLt, same⟩
    · rw [OrderedDict.mem_keys_iff, otherPending key same, ← OrderedDict.mem_keys_iff] at keyMem
      exact tracks.pendingKeys key keyMem
  readyKeys key keyMem := by
    by_cases same : key = piece.msgSeq
    · exact .inr ⟨piece.index, piece.index.isLt, same⟩
    · rw [OrderedDict.mem_keys_iff, otherReady key same, ← OrderedDict.mem_keys_iff] at keyMem
      exact tracks.readyKeys key keyMem

/-- The next message is delivered. -/
theorem Tracks.deliver (tracks : flight.Tracks initial count log queues)
    {message : UInt8 × ByteString}
    (stored : queues.ready.get? (flight.first + count) = some message) :
    flight.Tracks initial (count + 1)
      (log ++ [.delivered message.1 (flight.first + count) message.2])
      { queues with
        ready := queues.ready.erase (flight.first + count)
        messages := queues.messages ++
          [.delivered message.1 (flight.first + count) message.2] } := by
  rcases tracks.waiting count message le_rfl stored with ⟨found, receivedNow⟩
  have kept {i : ℕ} {body : ByteString} (received : FullyReceived log (flight.first + i) body) :
      FullyReceived (log ++ [.delivered message.1 (flight.first + count) message.2])
        (flight.first + i) body :=
    received.mono fun _ _ => List.mem_append_left _
  have erased {i : ℕ} (later : count + 1 ≤ i) :
      (queues.ready.erase (flight.first + count)).get? (flight.first + i) =
        queues.ready.get? (flight.first + i) := by
    rw [OrderedDict.get?_erase, if_neg (by omega)]
  constructor
  case messages => rw [tracks.messages, List.append_assoc]
  case le => exact (List.getElem?_eq_some_iff.mp found).1
  case partial_of =>
    exact fun i other entry later => tracks.partial_of i other entry ((Nat.le_succ _).trans later)
  case unfinished =>
    intro i other later present absent
    rw [erased later] at absent
    exact (tracks.unfinished i other ((Nat.le_succ _).trans later) present absent).append nofun
  case waiting =>
    intro i other later waits
    rw [erased later] at waits
    rcases tracks.waiting i other ((Nat.le_succ _).trans later) waits with ⟨present, received⟩
    exact ⟨present, kept received⟩
  case received =>
    intro i other earlier present
    rcases Nat.lt_succ_iff_lt_or_eq.mp earlier with before | rfl
    · exact kept (tracks.received i other before present)
    · cases found.symm.trans present
      exact kept receivedNow
  case delivered =>
    have next : flight.deliveries[count]? =
        some (.delivered message.1 (flight.first + count) message.2) := by
      rw [deliveries, List.getElem?_mapIdx, found]
      rfl
    rw [List.filter_append, tracks.delivered, List.take_add_one, next]
    rfl
  case prompt =>
    intro before msgSeq fragOff part rest split
    rcases List.eq_append_cons_of_concat split with ⟨-, same, -⟩ | ⟨earlier, -, logged⟩
    · cases same
    · exact tracks.prompt before msgSeq fragOff part earlier logged
  case pendingKeys => exact tracks.pendingKeys
  case readyKeys =>
    intro key keyMem
    rw [OrderedDict.mem_keys_iff] at keyMem
    rcases keyMem with ⟨value, present⟩
    rw [OrderedDict.get?_erase] at present
    split_ifs at present
    exact tracks.readyKeys key (OrderedDict.mem_keys_iff.mpr ⟨value, present⟩)

/-- A table that lacks a message of the flight has room for it. -/
theorem size_lt_of_absent {ν : Type} {dict former : OrderedDict ℕ ν} {i : ℕ}
    (keys : ∀ key ∈ dict.keys, key ∈ former.keys ∨
      ∃ i < flight.messages.length, key = flight.first + i)
    (bound : i < flight.messages.length) (absent : dict.get? (flight.first + i) = none) :
    dict.size < former.size + flight.messages.length := by
  have within : dict.keys ⊆ former.keys ++
      ((List.range flight.messages.length).erase i).map (flight.first + ·) := by
    intro key keyMem
    rcases keys key keyMem with earlier | ⟨j, jBound, rfl⟩
    · exact List.mem_append_left _ earlier
    · have differs : j ≠ i := by
        rintro rfl
        rcases OrderedDict.mem_keys_iff.mp keyMem with ⟨value, present⟩
        exact absurd (absent.symm.trans present) nofun
      apply List.mem_append_right
      exact List.mem_map_of_mem ((List.mem_erase_of_ne differs).mpr (List.mem_range.mpr jBound))
  have counted : dict.keys.length ≤ _ := (List.subperm_of_subset dict.nodup within).length_le
  rw [List.length_append, List.length_map, List.length_erase_of_mem (List.mem_range.mpr bound),
    List.length_range, OrderedDict.length_keys, OrderedDict.length_keys] at counted
  omega

variable (flight) in
/-- The flight comes next to a client whose tables hold nothing of it and have room for it. -/
structure FollowsOn (client : DtlsPskClient) : Prop where
  next : client.nextRecvMsgSeq = flight.first
  pending : ∀ key ∈ client.pending.keys, key < flight.first
  ready : ∀ key ∈ client.ready.keys, key < flight.first
  pendingRoom : client.pending.size + flight.messages.length ≤ maxPendingMessages
  readyRoom : client.ready.size + flight.messages.length ≤ maxPendingMessages

theorem get?_of_keys_lt {ν : Type} {dict : OrderedDict ℕ ν}
    (earlier : ∀ key ∈ dict.keys, key < flight.first) (i : ℕ) :
    dict.get? (flight.first + i) = none := by
  rcases found : dict.get? (flight.first + i) with _ | value
  · rfl
  · have before := earlier _ (OrderedDict.mem_keys_iff.mpr ⟨value, found⟩)
    omega

theorem FollowsOn.tracks {client : DtlsPskClient} (follows : flight.FollowsOn client) :
    flight.Tracks client.queues 0 [] client.queues where
  messages := (List.append_nil _).symm
  le := Nat.zero_le _
  partial_of i message entry _ _ stored := by
    rw [DtlsPskClient.queues, get?_of_keys_lt follows.pending] at stored
    cases stored
  unfinished i message _ _ _ := by
    rw [DtlsPskClient.queues, get?_of_keys_lt follows.pending]
    exact ⟨fun _ _ _ => List.not_mem_nil, nofun, nofun⟩
  waiting i message _ stored := by
    rw [DtlsPskClient.queues, get?_of_keys_lt follows.ready] at stored
    cases stored
  received _ _ impossible := absurd impossible (Nat.not_lt_zero _)
  delivered := rfl
  prompt before msgSeq fragOff part rest split := by
    exact absurd split.symm (by simp)
  pendingKeys _ keyMem := .inl keyMem
  readyKeys _ keyMem := .inl keyMem

end HonestFlight

end SmartThingsLocal
