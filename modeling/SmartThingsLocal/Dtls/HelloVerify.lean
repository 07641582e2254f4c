import SmartThingsLocal.Dtls.CallInvariants
import SmartThingsLocal.Dtls.Reassembly
import SmartThingsLocal.Dtls.Recording
import SmartThingsLocal.Foundation.Contracts
import SmartThingsLocal.Foundation.Logs
import SmartThingsLocal.Foundation.Machine

/-!
# What a HelloVerifyRequest leaves behind

An answered HelloVerifyRequest restarts the handshake, and message numbers are used again.
The ready queue is emptied, the table of incomplete messages is not. So messages delivered
afterwards are made of what was received afterwards when nothing has been seen yet of the
incomplete messages with numbers that are still to come.
-/

namespace SmartThingsLocal

open Dtls Stateful

/-- What happens after a HelloVerifyRequest is answered. -/
def Restarted (messages since : List MessageEvent) : Prop :=
  ∃ before msgSeq pending, messages = before ++ .answered msgSeq pending :: since

/-- A message that is delivered is made of fragments received since every answer before it. -/
def Renewed (messages : List MessageEvent) : Prop :=
  ∀ since, Restarted messages since → ∀ between msgType msgSeq body after,
    since = between ++ .delivered msgType msgSeq body :: after → Composed between msgSeq body

/-- Nothing has been seen of the message. -/
def PendingMessage.Untouched (entry : PendingMessage) : Prop := ∀ mark ∈ entry.seen, mark = 0

/-- Every HelloVerifyRequest is answered with nothing seen of the messages that follow it. -/
def Unmixed (messages : List MessageEvent) : Prop :=
  ∀ msgSeq pending, .answered msgSeq pending ∈ messages → ∀ key entry, msgSeq < key →
    pending.get? key = some entry → entry.Untouched

/-- The octets of an incomplete message that have been seen are those of received fragments. -/
def MadeOf (events : List MessageEvent) (msgSeq : ℕ) (entry : PendingMessage) : Prop :=
  ∀ i octet, entry.seen[i]? ≠ some 0 → entry.buffer[i]? = some octet → Covers events msgSeq i octet

theorem MadeOf.append {events : List MessageEvent} {msgSeq : ℕ} {entry : PendingMessage}
    (madeOf : MadeOf events msgSeq entry) (event : MessageEvent) :
    MadeOf (events ++ [event]) msgSeq entry :=
  fun i octet seen found => (madeOf i octet seen found).append event

/-- An event continues what follows an answer, or is an answer. -/
theorem restarted_append {messages since : List MessageEvent} {event : MessageEvent}
    (answered : Restarted (messages ++ [event]) since) :
    (∃ earlier, since = earlier ++ [event] ∧ Restarted messages earlier) ∨
      since = [] ∧ ∃ msgSeq pending, event = .answered msgSeq pending := by
  rcases answered with ⟨before, msgSeq, pending, split⟩
  rcases List.eq_append_cons_of_concat split with ⟨-, same, rfl⟩ | ⟨earlier, rfl, logged⟩
  · exact .inr ⟨rfl, msgSeq, pending, same⟩
  · exact .inl ⟨earlier, rfl, before, msgSeq, pending, logged⟩

theorem Renewed.append {messages : List MessageEvent} (renewed : Renewed messages)
    {event : MessageEvent}
    (delivered : ∀ msgType msgSeq body, event = .delivered msgType msgSeq body →
      ∀ since, Restarted messages since → Composed since msgSeq body) :
    Renewed (messages ++ [event]) := by
  intro since answered between msgType msgSeq body after split
  rcases restarted_append answered with ⟨earlier, rfl, answeredEarlier⟩ | ⟨rfl, -⟩
  · rcases List.eq_append_cons_of_concat split with ⟨rfl, same, -⟩ | ⟨rest, -, logged⟩
    · exact delivered msgType msgSeq body same earlier answeredEarlier
    · exact renewed earlier answeredEarlier between msgType msgSeq body rest logged
  · cases between <;> cases split

theorem Unmixed.of_prefix {before after : List MessageEvent} (unmixed : Unmixed after)
    (earlier : before <+: after) : Unmixed before :=
  fun msgSeq pending answered => unmixed msgSeq pending (earlier.subset answered)

/-- What the messages to come are made from. -/
structure Intake where
  messages : List MessageEvent
  pending : OrderedDict ℕ PendingMessage
  ready : OrderedDict ℕ (UInt8 × ByteString)
  next : ℕ

namespace Intake

/-- What can still be delivered has been received since every answer. -/
structure Clean (intake : Intake) : Prop where
  wellFormed : ∀ key entry, intake.pending.get? key = some entry → entry.WellFormed
  pending : ∀ since, Restarted intake.messages since → ∀ key entry, intake.next ≤ key →
    intake.pending.get? key = some entry → MadeOf since key entry
  ready : ∀ since, Restarted intake.messages since → ∀ key msgType body,
    intake.ready.get? key = some (msgType, body) → Composed since key body
  renewed : Renewed intake.messages

/-- What can be delivered stays clean while no answer is given to a mixed table. -/
structure Grows (before after : Intake) : Prop where
  messages : before.messages <+: after.messages
  clean : Unmixed after.messages → before.Clean → after.Clean

theorem Grows.refl (intake : Intake) : Grows intake intake :=
  ⟨List.prefix_refl _, fun _ clean => clean⟩

theorem Grows.trans {first second third : Intake} (before : Grows first second)
    (after : Grows second third) : Grows first third :=
  ⟨before.messages.trans after.messages, fun unmixed clean =>
    after.clean unmixed (before.clean (unmixed.of_prefix after.messages) clean)⟩

variable {intake : Intake}

/-- An event that is no answer; what it delivers has been received. -/
theorem Clean.note (clean : intake.Clean) {event : MessageEvent}
    (unanswered : ∀ msgSeq pending, event ≠ .answered msgSeq pending)
    (delivered : ∀ msgType msgSeq body, event = .delivered msgType msgSeq body →
      ∀ since, Restarted intake.messages since → Composed since msgSeq body) :
    Clean { intake with messages := intake.messages ++ [event] } where
  wellFormed := clean.wellFormed
  pending since answered key entry current found := by
    rcases restarted_append answered with ⟨earlier, rfl, before⟩ | ⟨-, msgSeq, pending, same⟩
    · exact (clean.pending earlier before key entry current found).append event
    · exact absurd same (unanswered msgSeq pending)
  ready since answered key msgType body found := by
    rcases restarted_append answered with ⟨earlier, rfl, before⟩ | ⟨-, msgSeq, pending, same⟩
    · exact (clean.ready earlier before key msgType body found).append event
    · exact absurd same (unanswered msgSeq pending)
  renewed := clean.renewed.append delivered

theorem Clean.received (clean : intake.Clean) (msgSeq fragOff : ℕ) (body : ByteString) :
    Clean { intake with messages := intake.messages ++ [.received msgSeq fragOff body] } :=
  clean.note nofun nofun

/-- The entry that a fragment is written to holds what has been received since. -/
theorem Clean.madeOf_write (clean : intake.Clean) {msgSeq fragOff length : ℕ} {body : ByteString}
    {entry : PendingMessage} (current : intake.next ≤ msgSeq)
    (origin : intake.pending.get? msgSeq = some entry ∨ entry = .fresh length)
    (fits : fragOff + body.length ≤ entry.length) (wellFormed : entry.WellFormed)
    (since : List MessageEvent)
    (answered : Restarted (intake.messages ++ [.received msgSeq fragOff body]) since) :
    MadeOf since msgSeq (entry.write fragOff body) := by
  rcases restarted_append answered with ⟨earlier, rfl, before⟩ | ⟨-, _, _, impossible⟩
  swap
  · cases impossible
  intro i octet seen found
  rw [PendingMessage.seen_write wellFormed fits] at seen
  rw [PendingMessage.buffer_write wellFormed fits] at found
  split_ifs at seen found with inside
  · exact ⟨fragOff, body, List.mem_append_right _ (List.mem_singleton_self _), inside.1, found⟩
  · rcases origin with stored | rfl
    · exact (clean.pending earlier before msgSeq entry current stored i octet seen found).append _
    · -- nothing of a new entry has been seen
      have bound : i < length := by
        simpa [PendingMessage.fresh] using (List.getElem?_eq_some_iff.mp found).1
      exact absurd (List.getElem?_replicate_of_lt bound) seen

theorem Clean.withEntry (clean : intake.Clean) {msgSeq : ℕ} {entry : PendingMessage}
    (wellFormed : entry.WellFormed)
    (madeOf : ∀ since, Restarted intake.messages since → MadeOf since msgSeq entry) :
    Clean { intake with pending := intake.pending.set msgSeq entry } where
  wellFormed key other found := by
    rw [OrderedDict.get?_set] at found
    split_ifs at found with same
    · cases found
      exact wellFormed
    · exact clean.wellFormed key other found
  pending since answered key other current found := by
    rw [OrderedDict.get?_set] at found
    split_ifs at found with same
    · cases found
      rw [same]
      exact madeOf since answered
    · exact clean.pending since answered key other current found
  ready := clean.ready
  renewed := clean.renewed

theorem Clean.withoutEntry (clean : intake.Clean) (msgSeq : ℕ) :
    Clean { intake with pending := intake.pending.erase msgSeq } where
  wellFormed key other found := by
    rw [OrderedDict.get?_erase] at found
    split_ifs at found
    exact clean.wellFormed key other found
  pending since answered key other current found := by
    rw [OrderedDict.get?_erase] at found
    split_ifs at found
    exact clean.pending since answered key other current found
  ready := clean.ready
  renewed := clean.renewed

theorem Clean.store (clean : intake.Clean) {msgSeq : ℕ} {msgType : UInt8} {body : ByteString}
    (composed : ∀ since, Restarted intake.messages since → Composed since msgSeq body) :
    Clean { intake with ready := intake.ready.set msgSeq (msgType, body) } where
  wellFormed := clean.wellFormed
  pending := clean.pending
  ready since answered key storedType stored found := by
    rw [OrderedDict.get?_set] at found
    split_ifs at found with same
    · cases found
      rw [same]
      exact composed since answered
    · exact clean.ready since answered key storedType stored found
  renewed := clean.renewed

/-- The message that is next leaves the queue. -/
theorem Clean.deliver (clean : intake.Clean) {msgType : UInt8} {body : ByteString}
    (stored : intake.ready.get? intake.next = some (msgType, body)) :
    Clean { intake with
      messages := intake.messages ++ [.delivered msgType intake.next body]
      ready := intake.ready.erase intake.next
      next := intake.next + 1 } := by
  have noted : Clean { intake with
      messages := intake.messages ++ [.delivered msgType intake.next body] } := by
    refine clean.note nofun fun storedType msgSeq storedBody same since answered => ?_
    cases same
    exact clean.ready since answered intake.next msgType body stored
  refine ⟨noted.wellFormed, fun since answered key entry current => ?_, ?_, noted.renewed⟩
  · exact noted.pending since answered key entry ((Nat.le_succ _).trans current)
  · intro since answered key storedType storedBody found
    rw [OrderedDict.get?_erase] at found
    split_ifs at found
    exact noted.ready since answered key storedType storedBody found

/-- After an answer to a table that is not mixed, nothing is left of what was received. -/
theorem Clean.answer (clean : intake.Clean) (msgSeq : ℕ)
    (untouched : ∀ key entry, msgSeq < key → intake.pending.get? key = some entry →
      entry.Untouched) :
    Clean { intake with
      messages := intake.messages ++ [.answered msgSeq intake.pending]
      ready := .empty
      next := msgSeq + 1 } where
  wellFormed := clean.wellFormed
  pending since answered key entry current found i octet seen present := by
    have wellFormed := clean.wellFormed key entry found
    have bound : i < entry.seen.length := by
      rw [wellFormed.seen, ← wellFormed.buffer]
      exact (List.getElem?_eq_some_iff.mp present).1
    have unmarked := untouched key entry current found _ (List.getElem_mem bound)
    rw [List.getElem?_eq_getElem bound, unmarked] at seen
    exact absurd rfl seen
  ready since answered key msgType body found := by
    rw [OrderedDict.get?_empty] at found
    cases found
  renewed := clean.renewed.append nofun

end Intake

namespace DtlsPskClient

def intake (client : DtlsPskClient) : Intake where
  messages := client.history.messages
  pending := client.pending
  ready := client.ready
  next := client.nextRecvMsgSeq

/-- What has been received before an answer is left behind, as far as the table allows. -/
def Renews (before after : DtlsPskClient) : Prop := Intake.Grows before.intake after.intake

instance : Std.Refl Renews := ⟨fun client => Intake.Grows.refl client.intake⟩

instance : IsTrans DtlsPskClient Renews := ⟨fun _ _ _ before after => before.trans after⟩

theorem renews_of_same {before after : DtlsPskClient} (same : after.intake = before.intake) :
    Renews before after := by
  unfold Renews
  rw [same]
  exact Intake.Grows.refl _

theorem renews_of_reacts {α : Type} {computation : Psk α} (reacts : Keeps Reacts computation) :
    Keeps Renews computation :=
  reacts.mono fun _ _ related => renews_of_same (related.same intake fun _ => rfl)

theorem renews_fail (reason : String) : Keeps Renews (fail reason) :=
  fun _ => renews_of_same rfl

/-- A step whose intake stays clean. -/
theorem renews_of_clean {before after : DtlsPskClient}
    (messages : before.history.messages <+: after.history.messages)
    (clean : before.intake.Clean → after.intake.Clean) : Renews before after :=
  ⟨messages, fun _ => clean⟩

variable (primitives : Primitives)

theorem renews_answer (cookie : ByteString) (msgSeq : ℕ) :
    Keeps Renews (handleHelloVerifyRequest.answer primitives msgSeq cookie) := by
  refine keeps_bind (keeps_modify fun client => ?_) fun _ => ?_
  · refine ⟨List.prefix_append _ _, fun unmixed clean => clean.answer msgSeq ?_⟩
    exact unmixed msgSeq client.pending (List.mem_append_right _ (List.mem_singleton_self _))
  · apply renews_of_reacts
    exact keeps_bind (reacts_of_sends (sends_sendClientHello primitives cookie))
      fun _ => reacts_enter _

theorem renews_handleHelloVerifyRequest (body : ByteString) (msgSeq : ℕ) :
    Keeps Renews (handleHelloVerifyRequest primitives body msgSeq) :=
  keeps_handleHelloVerifyRequest primitives (fun _ _ => renews_of_same rfl) renews_fail
    (renews_answer primitives) body msgSeq

theorem renews_deliverReady (count : ℕ) : Keeps Renews (deliverReady primitives count) := by
  induction count with
  | zero => exact keeps_pure ()
  | succ count ih =>
      intro client
      apply leads_get_bind
      rcases stored : client.ready.get? client.nextRecvMsgSeq with _ | ⟨msgType, body⟩
      · exact refl_of Renews client
      · -- the message is taken out of the queue and taken up in one step
        have taken : Renews client (taking msgType client.nextRecvMsgSeq body
            { client with ready := client.ready.erase client.nextRecvMsgSeq }) :=
          renews_of_clean (List.prefix_append _ _) fun clean => clean.deliver stored
        refine trans_of Renews taken ?_
        refine keeps_bind (renews_of_reacts (reacts_handleMessage primitives _ _ _)) (fun _ => ?_) _
        exact keeps_get_bind fun _ => keeps_ite (keeps_pure ()) ih

/-- What a fragment completes is made of what has been received since. -/
theorem ensures_reassemble {client : DtlsPskClient} (msgType : UInt8)
    {msgSeq length fragOff : ℕ} {body : ByteString} (fits : fragOff + body.length ≤ length)
    (current : client.nextRecvMsgSeq ≤ msgSeq) :
    Ensures (fun result after => Renews client after ∧ ∀ complete, result = some complete →
        Renews client { after with ready := after.ready.set msgSeq (msgType, complete) })
      (fun _ after => Renews client after) (reassemble msgSeq length fragOff body) client := by
  have grown : client.history.messages <+:
      client.history.messages ++ [.received msgSeq fragOff body] := List.prefix_append _ _
  have entryFits : fragOff + body.length ≤ (client.entryFor msgSeq length).length := by
    rw [length_entryFor]
    exact fits
  have origin := (client.entryFor_cases msgSeq length).imp_left And.left
  have entryWellFormed (clean : client.intake.Clean) :
      (client.entryFor msgSeq length).WellFormed := by
    rcases origin with stored | new
    · exact clean.wellFormed msgSeq _ stored
    · rw [new]
      exact PendingMessage.fresh_wellFormed length
  have madeOf (clean : client.intake.Clean) :=
    clean.madeOf_write current origin entryFits (entryWellFormed clean)
  unfold Ensures
  rw [exec_reassemble]
  dsimp only
  split_ifs with whole full complete
  · refine ⟨renews_of_clean grown fun clean => clean.received msgSeq fragOff body, ?_⟩
    rintro _ ⟨⟩
    refine renews_of_clean grown fun clean => (clean.received msgSeq fragOff body).store ?_
    intro since answered i octet found
    rcases restarted_append answered with ⟨earlier, rfl, -⟩ | ⟨-, _, _, impossible⟩
    · refine ⟨fragOff, body, List.mem_append_right _ (List.mem_singleton_self _), ?_, ?_⟩
      · rw [whole.1]
        exact Nat.zero_le i
      · rw [whole.1]
        exact found
    · cases impossible
  · exact ⟨renews_of_clean grown fun clean => clean.received msgSeq fragOff body, by simp⟩
  · have erased (clean : client.intake.Clean) :=
      (clean.received msgSeq fragOff body).withoutEntry msgSeq
    refine ⟨renews_of_clean grown erased, ?_⟩
    rintro _ ⟨⟩
    refine renews_of_clean grown fun clean => (erased clean).store ?_
    intro since answered i octet found
    exact madeOf clean since answered i octet (PendingMessage.seen_of_complete complete i) found
  · refine ⟨renews_of_clean grown fun clean => ?_, by simp⟩
    exact (clean.received msgSeq fragOff body).withEntry
      (PendingMessage.write_wellFormed (entryWellFormed clean) entryFits)
      (madeOf clean)

theorem renews_handleFragment (header : FragmentHeader) (body : ByteString)
    (fits : header.fragOff + body.length ≤ header.length) :
    Keeps Renews (handleFragment primitives header body) := by
  apply keeps_ite
  · exact keeps_bind (renews_handleHelloVerifyRequest primitives body header.msgSeq)
      fun _ => keeps_pure true
  intro client
  refine leads_get_bind (leads_ite (fun _ => refl_of Renews client) fun current => ?_)
  rw [leads_iff_ensures]
  refine (ensures_reassemble header.msgType fits (not_lt.mp current)).bind ?_
    fun _ _ renews => renews
  rintro (_ | complete) after ⟨renews, stores⟩
  · exact renews
  · refine ensures_get_bind (ensures_ite (fun _ => ?_) fun _ => ensures_set_bind ?_)
    · exact trans_of Renews renews (renews_fail _ after)
    · refine ensures_of_keeps (keeps_bind (renews_deliverReady primitives _) fun _ =>
        keeps_get_bind fun _ => keeps_pure _) (fun _ _ delivered => ?_) fun _ _ delivered => ?_
      · exact trans_of Renews (stores complete rfl) delivered
      · exact trans_of Renews (stores complete rfl) delivered

theorem renews_lift : Lifts primitives Renews where
  reads _ _ reads := renews_of_same (reads.same intake fun _ => rfl)
  payload payload _ helloVerifyOnly :=
    keeps_get_bind fun _ => keeps_ite (keeps_pure ())
      (keeps_handleFragments_of primitives renews_fail (renews_handleFragment primitives)
        helloVerifyOnly payload)
  hello client _ := by
    refine renews_of_reacts ?_ client
    exact keeps_bind (reacts_of_sends (sends_sendClientHello primitives []))
      fun _ => reacts_enter _

theorem renews_perform (call : PskCall) (client : DtlsPskClient) :
    Renews client (call.perform primitives client) :=
  (renews_lift primitives).records.perform fun sends =>
    renews_of_same ((sends_perform sends client).same intake fun _ => rfl)

theorem renews_run (calls : List PskCall) (client : DtlsPskClient) :
    Renews client (Machine.run (PskCall.perform primitives) calls client) :=
  Machine.invariant_run_all (fun state call before =>
    trans_of Renews before (renews_perform primitives call state)) calls (refl_of Renews client)

end DtlsPskClient

/--
In a run in which every HelloVerifyRequest is answered while nothing has been seen of the
messages that follow it, messages delivered after an answer are made of what has been received
after it.
-/
theorem hello_verify_discards_everything (primitives : Primitives) {identity key : ByteString}
    {mtu : ℕ} {fresh : DtlsPskClient} (created : DtlsPskClient.create identity key mtu = .ok fresh)
    (calls : List PskCall)
    (unmixed : Unmixed
      (Machine.run (PskCall.perform primitives) calls fresh).history.messages) :
    Renewed (Machine.run (PskCall.perform primitives) calls fresh).history.messages := by
  have clean : fresh.intake.Clean := by
    rcases DtlsPskClient.create_eq_ok.mp created with ⟨-, -, -, rfl⟩
    have unanswered (since : List MessageEvent) : ¬Restarted [] since := by
      rintro ⟨before, msgSeq, pending, split⟩
      exact List.append_ne_nil_of_right_ne_nil before (List.cons_ne_nil _ _) split.symm
    exact ⟨nofun, fun since answered => absurd answered (unanswered since),
      fun since answered => absurd answered (unanswered since),
      fun since answered => absurd answered (unanswered since)⟩
  exact ((DtlsPskClient.renews_run primitives calls fresh).clean unmixed clean).renewed

/-- A fragment of a handshake message, in a record of the first epoch. -/
def helloFragment (msgType : UInt8) (msgSeq length fragOff : ℕ) (body : ByteString) : ByteString :=
  Recording.Sample.record ctHandshake 0 0 (msgType :: ByteString.ofNat 3 length ++
    ByteString.ofNat 2 msgSeq ++ ByteString.ofNat 3 fragOff ++ ByteString.ofNat 3 body.length ++
    body)

/--
Half of a message with number 0 is pending when the HelloVerifyRequest is answered, and stays
behind. The ServerHello that follows comes in two parts and is delivered.
-/
theorem hello_verify_discards_everything_example :
    let primitives := Recording.primitives { random := [7] }
    let fresh : DtlsPskClient := { identity := [1], psk := List.replicate 16 2 }
    let first : ByteString := [0xFE, 0xFD] ++ List.replicate 18 4
    let rest : ByteString := List.replicate 14 5 ++ [0, 0xC0, 0x37, 0]
    let entry : PendingMessage := ⟨38, List.replicate 20 9 ++ List.replicate 18 0,
      List.replicate 20 1 ++ List.replicate 18 0⟩
    let calls := [.doHandshake,
      .bioWrite (helloFragment htServerHello 0 38 0 (List.replicate 20 9)),
      .bioWrite (helloFragment htHelloVerifyRequest 0 4 0 [0xFE, 0xFD, 1, 9]),
      .bioWrite (helloFragment htServerHello 1 38 0 first),
      .bioWrite (helloFragment htServerHello 1 38 20 rest), .doHandshake]
    let messages := (Machine.run (PskCall.perform primitives) calls fresh).history.messages
    messages = [.received 0 0 (List.replicate 20 9), .answered 0 (OrderedDict.empty.set 0 entry),
      .received 1 0 first, .received 1 20 rest, .delivered htServerHello 1 (first ++ rest)] ∧
    Unmixed messages ∧ Renewed messages := by
  intro primitives fresh first rest entry calls messages
  have log : messages = [.received 0 0 (List.replicate 20 9),
      .answered 0 (OrderedDict.empty.set 0 entry), .received 1 0 first, .received 1 20 rest,
      .delivered htServerHello 1 (first ++ rest)] := by
    decide +kernel
  have unmixed : Unmixed messages := by
    rw [log]
    intro msgSeq pending answered key seen later found
    simp only [List.mem_cons, List.not_mem_nil, or_false, reduceCtorEq, false_or,
      MessageEvent.answered.injEq] at answered
    rcases answered with ⟨rfl, rfl⟩
    rw [OrderedDict.get?_set, if_neg later.ne', OrderedDict.get?_empty] at found
    cases found
  have created : DtlsPskClient.create [1] (List.replicate 16 2) 1400 = .ok fresh := rfl
  exact ⟨log, unmixed, hello_verify_discards_everything primitives created calls unmixed⟩

/--
The first part of a ServerHello comes before the HelloVerifyRequest and the rest after it. The
ServerHello is delivered with both.
-/
theorem fragment_survives_hello_verify :
    let primitives := Recording.primitives { random := [7] }
    let fresh : DtlsPskClient := { identity := [1], psk := List.replicate 16 2 }
    let calls := [.doHandshake,
      .bioWrite (helloFragment htServerHello 1 38 0 ([0xFE, 0xFD] ++ List.replicate 18 4)),
      .bioWrite (helloFragment htHelloVerifyRequest 0 4 0 [0xFE, 0xFD, 1, 9]),
      .bioWrite (helloFragment htServerHello 1 38 20 (List.replicate 14 5 ++ [0, 0xC0, 0x37, 0])),
      .doHandshake]
    ¬Renewed (Machine.run (PskCall.perform primitives) calls fresh).history.messages := by
  intro primitives fresh calls renewed
  let entry : PendingMessage := ⟨38, [0xFE, 0xFD] ++ List.replicate 18 4 ++ List.replicate 18 0,
    List.replicate 20 1 ++ List.replicate 18 0⟩
  let rest : ByteString := List.replicate 14 5 ++ [0, 0xC0, 0x37, 0]
  have log : (Machine.run (PskCall.perform primitives) calls fresh).history.messages =
      .received 1 0 ([0xFE, 0xFD] ++ List.replicate 18 4) ::
        .answered 0 (OrderedDict.empty.set 1 entry) :: ([.received 1 20 rest] ++
          [.delivered htServerHello 1 ([0xFE, 0xFD] ++ List.replicate 18 4 ++ rest)]) := by
    decide +kernel
  have composed := renewed _ ⟨[_], 0, _, log⟩ [.received 1 20 rest] htServerHello 1 _ [] rfl
  -- its first octet was received before the answer only
  rcases composed 0 0xFE rfl with ⟨fragOff, body, received, start, -⟩
  rw [List.mem_singleton, MessageEvent.received.injEq] at received
  omega

end SmartThingsLocal
