import SmartThingsLocal.Dtls.HonestFlight
import SmartThingsLocal.Dtls.Recording

/-!
# Delivery in order, exactly once

The pieces of an honest flight come in handshake payloads. After each of them the messages
that have been delivered are those that have been received in full with all before them, in
their order and with their bodies, as long as the handlers accept them.
-/

namespace SmartThingsLocal

open Dtls Stateful DtlsPskClient

namespace HonestFlight

variable (primitives : Primitives) (flight : HonestFlight)

/-- Hand the first messages of the flight to their handlers, one after the other. -/
def deliverFirst : ℕ → Psk Unit
  | 0 => pure ()
  | count + 1 => do
      deliverFirst count
      match flight.messages[count]? with
      | none => pure ()
      | some message => deliverHandshake primitives message.1 (flight.first + count) message.2

/-- The handlers accept so many messages, and the session is not established before the last. -/
def Accepted (start : DtlsPskClient) (limit : ℕ) : Prop :=
  ∀ count ≤ limit, ∃ after, exec (flight.deliverFirst primitives count) start = (.ok (), after) ∧
    after.failed = none ∧ (count < limit → after.state ≠ .established)

/-- The client while messages are delivered; `pieces` have come so far. -/
structure Delivering (start : DtlsPskClient) (events : List MessageEvent) (limit : ℕ)
    (pieces : List (FlightPiece flight)) (count : ℕ) (log : List MessageEvent)
    (client : DtlsPskClient) : Prop where
  handled : ∃ reference queues,
    exec (flight.deliverFirst primitives count) start = (.ok (), reference) ∧
      client = reference.withQueues queues
  next : client.nextRecvMsgSeq = flight.first + count
  tracks : flight.Tracks start.queues count log client.queues
  logged : ∀ msgSeq fragOff part, .received msgSeq fragOff part ∈ log →
    .received msgSeq fragOff part ∈ events
  noted : ∀ piece ∈ pieces, piece.event ∈ log ∨ piece.index < count ∨ count = limit

/-- The next message is not waiting. -/
def Settled (count : ℕ) (client : DtlsPskClient) : Prop :=
  client.ready.get? (flight.first + count) = none

theorem next_deliverHandshake (msgType : UInt8) (msgSeq : ℕ) (body : ByteString)
    (client : DtlsPskClient) :
    (exec (deliverHandshake primitives msgType msgSeq body) client).2.nextRecvMsgSeq =
      msgSeq + 1 := by
  rw [deliverHandshake_eq, exec_modify_bind]
  have reacts : Reacts _ _ :=
    reacts_handleMessage primitives msgType msgSeq body (taking msgType msgSeq body client)
  exact reacts.same DtlsPskClient.nextRecvMsgSeq fun _ => rfl

section Run

variable {primitives flight} {start : DtlsPskClient} {events : List MessageEvent} {limit : ℕ}
  (deliverable : flight.Deliverable events limit)
  (accepted : flight.Accepted primitives start limit)
  {pieces : List (FlightPiece flight)} {count : ℕ} {log : List MessageEvent}
  {client : DtlsPskClient}

include deliverable in
theorem Delivering.count_le (delivering : flight.Delivering primitives start events limit pieces
    count log client) : count ≤ limit := by
  by_contra exceeds
  have within : limit < flight.messages.length := by
    have le := delivering.tracks.le
    omega
  have found := List.getElem?_eq_getElem within
  refine deliverable.missing _ found ?_
  exact (delivering.tracks.received limit _ (not_le.mp exceeds) found).mono
    fun fragOff part => delivering.logged _ fragOff part

include deliverable in
theorem Delivering.lt_limit (delivering : flight.Delivering primitives start events limit pieces
    count log client) {message : UInt8 × ByteString}
    (found : flight.messages[count]? = some message)
    (received : FullyReceived log (flight.first + count) message.2) : count < limit := by
  refine lt_of_le_of_ne (delivering.count_le deliverable) ?_
  rintro rfl
  exact deliverable.missing message found
    (received.mono fun fragOff part => delivering.logged _ fragOff part)

include deliverable accepted in
theorem Delivering.failed (delivering : flight.Delivering primitives start events limit pieces
    count log client) : client.failed = none := by
  rcases delivering.handled with ⟨reference, queues, ran, rfl⟩
  rcases accepted count (delivering.count_le deliverable) with ⟨after, ranToo, failed, -⟩
  cases ran.symm.trans ranToo
  exact failed

include accepted in
/-- The message that is next is handed to its handler. -/
theorem Delivering.deliver (delivering : flight.Delivering primitives start events limit pieces
    count log client) (more : count + 1 ≤ limit) {message : UInt8 × ByteString}
    (stored : client.ready.get? (flight.first + count) = some message) :
    ∃ after, exec (deliverHandshake primitives message.1 (flight.first + count) message.2)
        { client with ready := client.ready.erase (flight.first + count) } = (.ok (), after) ∧
      flight.Delivering primitives start events limit pieces (count + 1)
        (log ++ [.delivered message.1 (flight.first + count) message.2]) after ∧
      after.ready.size < client.ready.size := by
  rcases delivering.handled with ⟨reference, queues, ran, rfl⟩
  rcases delivering.tracks.waiting count message le_rfl stored with ⟨found, -⟩
  rcases accepted (count + 1) more with ⟨after, ranNext, -⟩
  have stepped : exec (deliverHandshake primitives message.1 (flight.first + count) message.2)
      reference = (.ok (), after) := by
    rw [deliverFirst, exec_bind, ran, found] at ranNext
    exact ranNext
  have mirrored := exec_deliverHandshake_withQueues primitives
    { queues with ready := queues.ready.erase (flight.first + count) } message.1
    (flight.first + count) message.2 reference
  rw [stepped] at mirrored
  refine ⟨_, mirrored, ?_, OrderedDict.size_erase_lt (OrderedDict.contains_iff.mpr ⟨_, stored⟩)⟩
  constructor
  case handled => exact ⟨after, _, ranNext, rfl⟩
  case next =>
    have next := next_deliverHandshake primitives message.1 (flight.first + count) message.2
      reference
    rw [stepped] at next
    exact next
  case tracks => exact delivering.tracks.deliver stored
  case logged =>
    intro msgSeq fragOff part received
    rcases List.mem_append.mp received with earlier | last
    · exact delivering.logged msgSeq fragOff part earlier
    · cases List.mem_singleton.mp last
  case noted =>
    intro piece pieceMem
    refine (delivering.noted piece pieceMem).imp (List.mem_append_left _) fun passed => ?_
    omega

include deliverable accepted in
/-- Everything that waits for the messages before it only is delivered. -/
theorem Delivering.deliverReady (fuel : ℕ) (delivering : flight.Delivering primitives start events
    limit pieces count log client) (enough : client.ready.size ≤ fuel) :
    ∃ count log after, exec (DtlsPskClient.deliverReady primitives fuel) client = (.ok (), after) ∧
      flight.Delivering primitives start events limit pieces count log after ∧
      flight.Settled count after := by
  induction fuel generalizing count log client with
  | zero =>
      refine ⟨count, log, client, rfl, delivering, ?_⟩
      rcases stored : client.ready.get? (flight.first + count) with _ | message
      · exact stored
      · have smaller := OrderedDict.size_erase_lt (OrderedDict.contains_iff.mpr ⟨_, stored⟩)
        omega
  | succ fuel ih =>
      rw [DtlsPskClient.deliverReady, exec_get_bind]
      rcases stored : client.ready.get? client.nextRecvMsgSeq with _ | ⟨msgType, body⟩
      · rw [delivering.next] at stored
        exact ⟨count, log, client, rfl, delivering, stored⟩
      · have waits := stored
        rw [delivering.next] at waits
        rcases delivering.tracks.waiting count _ le_rfl waits with ⟨found, received⟩
        rcases delivering.deliver accepted (delivering.lt_limit deliverable found received) waits
          with ⟨after, ran, delivered, smaller⟩
        rcases ih delivered (by omega) with ⟨last, lastLog, final, ranRest, rest, settled⟩
        refine ⟨last, lastLog, final, ?_, rest, settled⟩
        rw [← delivering.next] at ran
        dsimp only at ran ⊢
        rw [exec_set_bind, exec_bind, ran]
        dsimp only
        rw [exec_get_bind, if_neg (by rw [delivered.failed deliverable accepted]; exact nofun)]
        exact ranRest

/-! ### One fragment -/

theorem exec_takeFragment_of_complete (header : FragmentHeader) {body : ByteString}
    (complete : ByteString) (after : DtlsPskClient)
    (reassembled : exec (reassemble header.msgSeq header.length header.fragOff body) client =
      (.ok (some complete), after)) (room : after.ready.size < maxPendingMessages) {final}
    (delivered : exec (DtlsPskClient.deliverReady primitives (after.ready.size + 1))
      { after with ready := after.ready.set header.msgSeq (header.msgType, complete) } =
        (.ok (), final)) (failed : final.failed = none) :
    exec (takeFragment primitives header body) client = (.ok true, final) := by
  rw [takeFragment, exec_bind, reassembled]
  dsimp only
  rw [storeComplete, exec_get_bind, if_neg (not_le.mpr room), exec_set_bind, exec_bind, delivered]
  dsimp only
  rw [exec_get_bind, failed]
  rfl

theorem exec_takeFragment_of_incomplete (header : FragmentHeader) {body : ByteString}
    (after : DtlsPskClient)
    (reassembled : exec (reassemble header.msgSeq header.length header.fragOff body) client =
      (.ok none, after)) (failed : after.failed = none) :
    exec (takeFragment primitives header body) client = (.ok true, after) := by
  rw [takeFragment, exec_bind, reassembled]
  dsimp only
  rw [exec_get_bind, failed]
  rfl

/-- The entry that a piece is written to is a part of its message. -/
theorem Delivering.partOf (delivering : flight.Delivering primitives start events limit pieces
    count log client) {piece : FlightPiece flight} (current : count ≤ piece.index) :
    (client.entryFor piece.msgSeq piece.message.2.length).PartOf piece.message.2 := by
  rcases stored : client.pending.get? piece.msgSeq with _ | entry
  · rw [entryFor_of_absent stored]
    exact PendingMessage.fresh_partOf _
  · have partOf := delivering.tracks.partial_of piece.index _ entry current
      piece.getElem?_messages stored
    rw [entryFor_of_get? stored partOf.length]
    exact partOf

theorem Delivering.marks (delivering : flight.Delivering primitives start events limit pieces
    count log client) {piece : FlightPiece flight} (current : count ≤ piece.index)
    (absent : client.ready.get? piece.msgSeq = none) :
    (client.entryFor piece.msgSeq piece.message.2.length).Marks log piece.msgSeq
      piece.message.2 := by
  have unfinished := delivering.tracks.unfinished piece.index _ current
    piece.getElem?_messages absent
  rcases stored : client.pending.get? piece.msgSeq with _ | entry
  · rw [entryFor_of_absent stored]
    exact PendingMessage.fresh_marks (unfinished.unseen stored)
  · have partOf := delivering.tracks.partial_of piece.index _ entry current
      piece.getElem?_messages stored
    rw [entryFor_of_get? stored partOf.length]
    exact unfinished.marks entry stored

/-- A piece comes to reassembly and changes the queues. -/
theorem Delivering.receive (delivering : flight.Delivering primitives start events limit pieces
    count log client) {piece : FlightPiece flight} (sent : piece.event ∈ events)
    {queues : MessageQueues}
    (tracks : flight.Tracks start.queues count (log ++ [piece.event]) queues) :
    flight.Delivering primitives start events limit (pieces ++ [piece]) count (log ++ [piece.event])
      (client.withQueues queues) where
  handled := by
    rcases delivering.handled with ⟨reference, former, ran, rfl⟩
    exact ⟨reference, queues, ran, rfl⟩
  next := delivering.next
  tracks := tracks
  logged msgSeq fragOff part received := by
    rcases List.mem_append.mp received with earlier | last
    · exact delivering.logged msgSeq fragOff part earlier
    · rw [List.mem_singleton.mp last]
      exact sent
  noted other otherMem := by
    rcases List.mem_append.mp otherMem with earlier | last
    · exact (delivering.noted other earlier).imp_left (List.mem_append_left _)
    · rw [List.mem_singleton.mp last]
      exact .inl (List.mem_append_right _ (List.mem_singleton_self _))

include deliverable accepted in
/-- A message that has become complete waits for its turn, which may be now. -/
theorem Delivering.complete (delivering : flight.Delivering primitives start events limit pieces
    count log client) (settled : flight.Settled count client) (follows : flight.FollowsOn start)
    {piece : FlightPiece flight} (current : count ≤ piece.index) (sent : piece.event ∈ events)
    (pending : OrderedDict ℕ PendingMessage)
    (others : ∀ key, key ≠ piece.msgSeq → pending.get? key = client.pending.get? key)
    (own : ∀ entry, pending.get? piece.msgSeq = some entry → entry.PartOf piece.message.2)
    (received : FullyReceived (log ++ [piece.event]) piece.msgSeq piece.message.2)
    {complete : ByteString} (body : complete = piece.message.2)
    (reassembled : exec (reassemble piece.msgSeq piece.message.2.length piece.offset piece.body)
      client = (.ok (some complete), { client.noteMessage piece.event with pending })) :
    ∃ count log after, exec (takeFragment primitives piece.header piece.body) client =
        (.ok true, after) ∧
      flight.Delivering primitives start events limit (pieces ++ [piece]) count log after ∧
      flight.Settled count after := by
  subst body
  have room : client.ready.size < maxPendingMessages :=
    (size_lt_of_absent delivering.tracks.readyKeys (by omega) settled).trans_le follows.readyRoom
  have tracks := delivering.tracks.receive settled piece
    ⟨pending, client.ready.set piece.msgSeq piece.message,
      client.history.messages ++ [piece.event]⟩ rfl others
    (fun key differs => by rw [OrderedDict.get?_set, if_neg differs]; rfl) own
    (.inl ⟨by rw [OrderedDict.get?_set, if_pos rfl], received⟩)
  have stored := delivering.receive sent tracks
  have enough : (client.ready.set piece.msgSeq piece.message).size ≤ client.ready.size + 1 := by
    rw [OrderedDict.size_set]
    split_ifs
    · exact Nat.le_succ _
    · exact le_rfl
  rcases stored.deliverReady deliverable accepted (client.ready.size + 1) enough with
    ⟨last, lastLog, final, ran, rest, settledToo⟩
  refine ⟨last, lastLog, final, ?_, rest, settledToo⟩
  exact exec_takeFragment_of_complete piece.header piece.message.2
    { client.noteMessage piece.event with pending } reassembled room ran
    (rest.failed deliverable accepted)

include deliverable accepted in
/-- One fragment of a message that has not been delivered. -/
theorem Delivering.takeFragment (delivering : flight.Delivering primitives start events limit pieces
    count log client) (settled : flight.Settled count client) (follows : flight.FollowsOn start)
    {piece : FlightPiece flight} (current : count ≤ piece.index) (sent : piece.event ∈ events) :
    ∃ count log after, exec (DtlsPskClient.takeFragment primitives piece.header piece.body) client =
        (.ok true, after) ∧
      flight.Delivering primitives start events limit (pieces ++ [piece]) count log after ∧
      flight.Settled count after := by
  have partOf := delivering.partOf current
  have waits {message : UInt8 × ByteString}
      (stored : client.ready.get? piece.msgSeq = some message) :
      message = piece.message ∧ FullyReceived (log ++ [piece.event]) piece.msgSeq
        piece.message.2 := by
    rcases delivering.tracks.waiting piece.index _ current stored with ⟨found, received⟩
    cases piece.getElem?_messages.symm.trans found
    exact ⟨rfl, received.mono fun _ _ => List.mem_append_left _⟩
  have reassembled := exec_reassemble piece.msgSeq piece.message.2.length piece.offset piece.body
    client
  have some : piece.event ∈ log ++ [piece.event] :=
    List.mem_append_right _ (List.mem_singleton_self _)
  dsimp only at reassembled
  split_ifs at reassembled with whole full complete
  · -- the fragment is the whole message
    have body : piece.body = piece.message.2 := by
      rw [FlightPiece.body, whole.1, List.drop_zero, List.take_of_length_le]
      rw [← whole.2, piece.length_body]
    refine delivering.complete deliverable accepted settled follows current sent client.pending
      (fun _ _ => rfl) (fun entry stored => ?_) ?_ body reassembled
    · exact delivering.tracks.partial_of piece.index _ entry current piece.getElem?_messages stored
    · refine ⟨⟨_, _, some⟩, fun i octet found => ⟨_, _, some, ?_, ?_⟩⟩
      · rw [whole.1]
        exact Nat.zero_le i
      · rw [whole.1, body]
        exact found
  · have room := size_lt_of_absent delivering.tracks.pendingKeys piece.index.isLt full.1
    exact absurd full.2 (not_le.mpr (room.trans_le follows.pendingRoom))
  · refine delivering.complete deliverable accepted settled follows current sent
      (client.pending.erase piece.msgSeq)
      (fun key differs => by rw [OrderedDict.get?_erase, if_neg differs]) (fun entry stored => ?_)
      ?_ (partOf.write.buffer_eq complete) reassembled
    · rw [OrderedDict.get?_erase, if_pos rfl] at stored
      cases stored
    · rcases stored : client.ready.get? piece.msgSeq with _ | message
      · exact ⟨⟨_, _, some⟩, ((delivering.marks current stored).write partOf).composed complete⟩
      · exact (waits stored).2
  · have tracks := delivering.tracks.receive settled piece
      ⟨client.pending.set piece.msgSeq _, client.ready, client.history.messages ++ [piece.event]⟩
      rfl (fun key differs => by rw [OrderedDict.get?_set, if_neg differs]; rfl) (fun _ _ => rfl)
      (fun entry stored => by
        rw [OrderedDict.get?_set, if_pos rfl] at stored
        cases stored
        exact partOf.write) (by
        rcases stored : client.ready.get? piece.msgSeq with _ | message
        · refine .inr ⟨rfl, ?_⟩
          rw [OrderedDict.get?_set, if_pos rfl]
          refine ⟨by simp, ?_, ?_⟩
          · rintro _ ⟨⟩
            exact Bool.not_eq_true _ ▸ complete
          · rintro _ ⟨⟩
            exact (delivering.marks current stored).write partOf
        · rcases waits stored with ⟨rfl, received⟩
          exact .inl ⟨rfl, received⟩)
    have kept := delivering.receive sent tracks
    refine ⟨count, log ++ [piece.event], _, ?_, kept, settled⟩
    exact exec_takeFragment_of_incomplete piece.header _ reassembled
      (kept.failed deliverable accepted)

/-! ### Payloads -/

include deliverable accepted in
theorem Delivering.handleFragment (delivering : flight.Delivering primitives start events limit
    pieces count log client) (settled : flight.Settled count client)
    (follows : flight.FollowsOn start)
    {piece : FlightPiece flight} (sent : piece.event ∈ events) :
    ∃ count log after,
      exec (DtlsPskClient.handleFragment primitives piece.header piece.body) client =
        (.ok true, after) ∧
      flight.Delivering primitives start events limit (pieces ++ [piece]) count log after ∧
      flight.Settled count after := by
  have plain : ¬(piece.header.msgType = htHelloVerifyRequest ∧ piece.header.fragOff = 0) :=
    fun hello => flight.plain _ piece.message_mem hello.1
  rw [exec_handleFragment primitives piece.body client plain, delivering.next]
  have number : piece.header.msgSeq = flight.first + piece.index := rfl
  split_ifs with passed
  · refine ⟨count, log, client, rfl, { delivering with noted := ?_ }, settled⟩
    intro other otherMem
    rcases List.mem_append.mp otherMem with earlier | last
    · exact delivering.noted other earlier
    · rw [List.mem_singleton.mp last]
      exact .inr (.inl (by omega))
  · exact delivering.takeFragment deliverable accepted settled follows (by omega) sent

theorem exec_handleFragments_encode (piece : FlightPiece flight) (rest : ByteString) :
    exec (handleFragments primitives false (piece.encode ++ rest)) client =
      exec (DtlsPskClient.handleFragment primitives piece.header piece.body >>= fun goesOn =>
        if goesOn then handleFragments primitives false rest else pure ()) client := by
  have head := piece.length_head
  have body := piece.length_body
  have size := piece.length_message
  have fits := piece.fits
  have bodyStart : (piece.encode ++ rest).drop handshakeHeader = piece.body ++ rest := by
    rw [piece.encode_eq, List.append_assoc, ← head, List.drop_left]
  have length : (piece.encode ++ rest).length =
      handshakeHeader + piece.count + rest.length := by
    rw [List.length_append, piece.encode_eq, List.length_append, head, body]
  rw [handleFragments, if_neg (by omega), python, piece.read_encode, exec_readOnly_bind]
  dsimp only [Except.mapError]
  rw [if_neg (by simp), if_neg (by unfold FlightPiece.header; dsimp only; omega),
    if_neg (by unfold FlightPiece.header; dsimp only; omega)]
  have taken : ((piece.encode ++ rest).drop handshakeHeader).take piece.header.fragLen =
      piece.body := by
    rw [bodyStart, show piece.header.fragLen = piece.body.length from body.symm, List.take_left]
  have left : (piece.encode ++ rest).drop (handshakeHeader + piece.header.fragLen) = rest := by
    rw [← List.drop_drop, bodyStart, show piece.header.fragLen = piece.body.length from body.symm,
      List.drop_left]
  rw [taken, left]

include deliverable accepted in
theorem Delivering.handleFragments (batch : List (FlightPiece flight))
    (delivering : flight.Delivering primitives start events limit pieces count log client)
    (settled : flight.Settled count client) (follows : flight.FollowsOn start)
    (sent : ∀ piece ∈ batch, piece.event ∈ events) :
    ∃ count log after,
      exec (DtlsPskClient.handleFragments primitives false (FlightPiece.payload batch)) client =
        (.ok (), after) ∧
      flight.Delivering primitives start events limit (pieces ++ batch) count log after ∧
      flight.Settled count after := by
  induction batch generalizing pieces count log client with
  | nil =>
      refine ⟨count, log, client, ?_, ?_, settled⟩
      · rw [FlightPiece.payload, List.flatMap_nil, DtlsPskClient.handleFragments]
        rfl
      · rw [List.append_nil]
        exact delivering
  | cons piece batch ih =>
      rcases List.forall_mem_cons.mp sent with ⟨sentFirst, sentRest⟩
      rcases delivering.handleFragment deliverable accepted settled follows sentFirst with
        ⟨middle, middleLog, between, ran, delivered, settledThen⟩
      rcases ih delivered settledThen sentRest with ⟨last, lastLog, after, ranRest, rest, settled⟩
      refine ⟨last, lastLog, after, ?_, ?_, settled⟩
      · rw [FlightPiece.payload, List.flatMap_cons, exec_handleFragments_encode, exec_bind, ran]
        exact ranRest
      · rw [List.append_assoc] at rest
        exact rest

include deliverable accepted in
/-- One handshake payload; on a live session it may be ignored. -/
theorem Delivering.handleHandshakeFragment (batch : List (FlightPiece flight))
    (authenticated : Bool)
    (delivering : flight.Delivering primitives start events limit pieces count log client)
    (settled : flight.Settled count client) (follows : flight.FollowsOn start)
    (sent : ∀ piece ∈ batch, piece.event ∈ events) :
    ∃ count log after,
      exec (DtlsPskClient.handleHandshakeFragment primitives (FlightPiece.payload batch)
        authenticated false) client = (.ok (), after) ∧
      flight.Delivering primitives start events limit (pieces ++ batch) count log after ∧
      flight.Settled count after := by
  rw [DtlsPskClient.handleHandshakeFragment, exec_get_bind]
  split_ifs with ignored
  · -- the session is established by the last of the messages
    have last : count = limit := by
      rcases delivering.handled with ⟨reference, queues, ran, rfl⟩
      have le := delivering.count_le deliverable
      rcases accepted count le with ⟨after, ranToo, -, open_⟩
      cases ran.symm.trans ranToo
      by_contra differs
      exact open_ (lt_of_le_of_ne le differs) ignored.1
    exact ⟨count, log, client, rfl, { delivering with noted := fun _ _ => .inr (.inr last) },
      settled⟩
  · exact delivering.handleFragments deliverable accepted batch settled follows sent

end Run

/-- The fragments of the payloads that come. -/
def events {flight : HonestFlight} (payloads : List (Bool × List (FlightPiece flight))) :
    List MessageEvent :=
  (payloads.flatMap Prod.snd).map FlightPiece.event

/-- Handle one handshake payload after the other; some are authenticated. -/
def handlePayloads {flight : HonestFlight} (payloads : List (Bool × List (FlightPiece flight))) :
    Psk Unit :=
  payloads.forM fun payload =>
    handleHandshakeFragment primitives (FlightPiece.payload payload.2) payload.1 false

variable {primitives flight} {start : DtlsPskClient} {received : List MessageEvent} {limit : ℕ}

theorem Delivering.handlePayloads (deliverable : flight.Deliverable received limit)
    (accepted : flight.Accepted primitives start limit) (follows : flight.FollowsOn start)
    (payloads : List (Bool × List (FlightPiece flight))) {pieces : List (FlightPiece flight)}
    {count : ℕ} {log : List MessageEvent} {client : DtlsPskClient}
    (delivering : flight.Delivering primitives start received limit pieces count log client)
    (settled : flight.Settled count client)
    (sent : ∀ event ∈ events payloads, event ∈ received) :
    ∃ count log after, exec (HonestFlight.handlePayloads primitives payloads) client =
        (.ok (), after) ∧
      flight.Delivering primitives start received limit (pieces ++ payloads.flatMap Prod.snd)
        count log after ∧
      flight.Settled count after := by
  induction payloads generalizing pieces count log client with
  | nil =>
      refine ⟨count, log, client, rfl, ?_, settled⟩
      rw [List.flatMap_nil, List.append_nil]
      exact delivering
  | cons payload payloads ih =>
      rcases payload with ⟨authenticated, batch⟩
      have split : events ((authenticated, batch) :: payloads) =
          batch.map FlightPiece.event ++ events payloads := by
        rw [events, List.flatMap_cons, List.map_append]
        rfl
      rw [split] at sent
      rcases delivering.handleHandshakeFragment deliverable accepted batch authenticated settled
        follows (fun piece pieceMem =>
          sent _ (List.mem_append_left _ (List.mem_map_of_mem pieceMem)))
        with ⟨middle, middleLog, between, ran, delivered, settledThen⟩
      rcases ih delivered settledThen (fun event eventMem =>
        sent event (List.mem_append_right _ eventMem))
        with ⟨last, lastLog, after, ranRest, rest, settled⟩
      refine ⟨last, lastLog, after, ?_, ?_, settled⟩
      · show exec (DtlsPskClient.handleHandshakeFragment primitives _ authenticated false >>=
          fun _ => HonestFlight.handlePayloads primitives payloads) client = _
        rw [exec_bind, ran]
        exact ranRest
      · rw [List.flatMap_cons, ← List.append_assoc]
        exact rest

end HonestFlight

/--
Pieces of an honest flight that comes next, in any payloads: the messages that have been
received in full with all before them are delivered, each once, in their order and with their
types and bodies, and each before another fragment is received.
-/
theorem handshake_messages_delivered_in_order (primitives : Primitives) {flight : HonestFlight}
    {start : DtlsPskClient} (follows : flight.FollowsOn start)
    (payloads : List (Bool × List (FlightPiece flight))) {count : ℕ}
    (deliverable : flight.Deliverable (HonestFlight.events payloads) count)
    (accepted : flight.Accepted primitives start count) :
    ∃ log after,
      exec (HonestFlight.handlePayloads primitives payloads) start = (.ok (), after) ∧
      after.failed = none ∧ after.history.messages = start.history.messages ++ log ∧
      log.filter (·.isDelivery) = flight.deliveries.take count ∧ flight.Prompt log := by
  rcases accepted 0 (Nat.zero_le _) with ⟨_, ⟨⟩, -, -⟩
  have started : flight.Delivering primitives start (HonestFlight.events payloads) count [] 0 []
      start := by
    refine ⟨⟨start, start.queues, rfl, rfl⟩, follows.next, follows.tracks, ?_, ?_⟩
    · exact fun _ _ _ impossible => absurd impossible List.not_mem_nil
    · exact fun _ impossible => absurd impossible List.not_mem_nil
  have settled : flight.Settled 0 start := HonestFlight.get?_of_keys_lt follows.ready 0
  rcases started.handlePayloads deliverable accepted follows payloads settled fun _ => id with
    ⟨last, log, after, ran, delivering, settled⟩
  have complete : last = count := by
    refine le_antisymm (delivering.count_le deliverable) (not_lt.mp fun early => ?_)
    have within : last < flight.messages.length := early.trans_le deliverable.le
    have found := List.getElem?_eq_getElem within
    -- the fragments of the next message are in the log, so it would have been delivered
    refine (delivering.tracks.deliverable settled).missing _ found ?_
    refine (deliverable.received last _ early found).mono fun fragOff part sent => ?_
    rcases List.mem_map.mp sent with ⟨piece, pieceMem, same⟩
    rcases delivering.noted piece pieceMem with noted | passed | ended
    · rw [same] at noted
      exact noted
    · have number : flight.first + piece.index = flight.first + last :=
        (MessageEvent.received.inj same).1
      omega
    · exact absurd ended early.ne
  subst complete
  exact ⟨log, after, ran, delivering.failed deliverable accepted, delivering.tracks.messages,
    delivering.tracks.delivered, delivering.tracks.prompt⟩

/-- A message in two pieces that overlap, after the whole of the message that follows it. -/
theorem handshake_messages_delivered_in_order_example :
    let primitives := Recording.primitives {}
    let start : DtlsPskClient :=
      { identity := [1], psk := List.replicate 16 2, state := .sentHello, nextRecvMsgSeq := 1 }
    let flight : HonestFlight :=
      ⟨1, [(11, [5, 6, 7]), (htServerHelloDone, [])], by decide, by decide, by decide⟩
    let payloads : List (Bool × List (FlightPiece flight)) :=
      [(false, [⟨⟨1, by decide⟩, 0, 0, by decide⟩, ⟨⟨0, by decide⟩, 1, 2, by decide⟩]),
        (false, [⟨⟨0, by decide⟩, 0, 2, by decide⟩])]
    ∃ log after,
      exec (HonestFlight.handlePayloads primitives payloads) start = (.ok (), after) ∧
      after.failed = none ∧ after.history.messages = start.history.messages ++ log ∧
      log.filter (·.isDelivery) = flight.deliveries.take 2 ∧ flight.Prompt log := by
  intro primitives start flight payloads
  have events : HonestFlight.events payloads =
      [.received 2 0 [], .received 1 1 [6, 7], .received 1 0 [5, 6]] := rfl
  refine handshake_messages_delivered_in_order primitives
    ⟨rfl, List.forall_mem_nil _, List.forall_mem_nil _, by decide, by decide⟩ payloads
    ⟨le_rfl, ?_, ?_⟩ ?_
  · intro i message early found
    rw [events]
    rcases i with _ | _ | i
    · cases found
      refine ⟨⟨1, [6, 7], by decide⟩, fun i octet present => ?_⟩
      rcases i with _ | _ | _ | i
      · exact ⟨0, [5, 6], by decide, by decide, present⟩
      · exact ⟨0, [5, 6], by decide, by decide, present⟩
      · exact ⟨1, [6, 7], by decide, by decide, present⟩
      · cases present
    · cases found
      exact ⟨⟨0, [], by decide⟩, fun i octet present => by cases present⟩
    · omega
  · intro message found
    cases found
  · intro count le
    rcases count with _ | _ | _ | count
    · exact ⟨_, rfl, rfl, fun _ => by decide⟩
    · exact ⟨_, rfl, rfl, fun _ => by decide⟩
    · exact ⟨_, rfl, rfl, fun _ => by decide⟩
    · omega

end SmartThingsLocal
