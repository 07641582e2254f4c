import SmartThingsLocal.Dtls.EstablishedSession
import SmartThingsLocal.Dtls.Recording
import SmartThingsLocal.Dtls.SturdyHandlers
import SmartThingsLocal.Foundation.Machine

/-!
# Hostile input

Whatever datagrams come in, the calls that read them end, raise nothing but the exceptions of the
engine, and keep its queues and tables bounded.
-/

namespace SmartThingsLocal

open Dtls Stateful

namespace DtlsPskClient

variable {primitives : Primitives} {inbox : List ByteString} {client : DtlsPskClient}

/-! ### Payloads -/

theorem returns_handleAlert (sturdy : Sturdy primitives inbox client) (settled : client.Settled)
    (payload : ByteString) (authenticated : Bool) :
    Returns (fun _ after => Sturdy primitives inbox after ∧ after.Settled)
      (handleAlert payload authenticated) client := by
  have unchanged : Sturdy primitives inbox client ∧ client.Settled := ⟨sturdy, settled⟩
  rcases payload with _ | ⟨level, _ | ⟨description, rest⟩⟩
  · exact ensures_pure unchanged
  · exact ensures_pure unchanged
  refine ensures_ite (fun _ => ?_) fun _ => ?_
  · exact ensures_ite (fun _ => ensures_modify ⟨{ sturdy with }, settled⟩) fun _ =>
      ensures_pure unchanged
  · exact ensures_ite (fun _ => ensures_modify ⟨{ sturdy with }, .inr (isSome_orElse _ _)⟩)
      fun _ => ensures_pure unchanged

theorem returns_handleChangeCipherSpec (sturdy : Sturdy primitives inbox client)
    (settled : client.Settled) (payload : ByteString) :
    Returns (fun _ after => Sturdy primitives inbox after ∧ after.Settled)
      (handleChangeCipherSpec payload) client := by
  refine ensures_modify ?_
  split_ifs
  · exact ⟨{ sturdy with }, settled⟩
  · exact ⟨sturdy, settled⟩

/-- A full queue drops its oldest payload. -/
theorem returns_queueApplicationData (sturdy : Sturdy primitives inbox client)
    (settled : client.Settled) (epoch seq : ℕ) (payload : ByteString) :
    Returns (fun _ after => Sturdy primitives inbox after ∧ after.Settled)
      (queueApplicationData epoch seq payload) client := by
  have bounded : ((if client.appdata.length ≥ maxAppdata then client.appdata.drop 1
      else client.appdata) ++ [payload]).length ≤ maxAppdata := by
    have before := sturdy.tables.appdata_le
    unfold maxAppdata at before ⊢
    rw [List.length_append, List.length_singleton]
    split_ifs
    · rw [List.length_drop]
      omega
    · omega
  refine ensures_modify ?_
  by_cases ignored : epoch = 0 ∨ payload = []
  · rw [if_pos ignored]
    exact ⟨sturdy, settled⟩
  · rw [if_neg ignored]
    exact ⟨{ sturdy with tables := { sturdy.tables with appdata_le := bounded } }, settled⟩

theorem returns_handlePayload (sturdy : Sturdy primitives inbox client)
    (settled : client.Settled) (contentType : UInt8) (epoch seq : ℕ) (helloVerifyOnly : Bool)
    (payload : ByteString) :
    Returns (fun _ after => Sturdy primitives inbox after ∧ after.Settled)
      (handlePayload primitives contentType epoch seq helloVerifyOnly payload) client := by
  refine ensures_ite (fun _ => returns_handleHandshakeFragment sturdy settled payload _ _)
    fun _ => ?_
  refine ensures_ite (fun _ => returns_handleChangeCipherSpec sturdy settled payload) fun _ => ?_
  refine ensures_ite (fun _ => returns_handleAlert sturdy settled payload _) fun _ => ?_
  exact ensures_ite (fun _ => returns_queueApplicationData sturdy settled epoch seq payload)
    fun _ => ensures_pure ⟨sturdy, settled⟩

/-! ### Records -/

theorem returns_handleProtected (sturdy : Sturdy primitives inbox client)
    (settled : client.Settled) (transform : Transform) {parts : RecordParts}
    (helloVerifyOnly : Bool) (epochFits : parts.epoch < 2 ^ 16) (seqFits : parts.seq < 2 ^ 48)
    (fits : parts.fragment.length ≤ 0xFFFF) :
    Returns (fun _ after => Sturdy primitives inbox after ∧ after.Settled)
      (handleProtected primitives transform parts helloVerifyOnly) client := by
  apply ensures_get_bind
  refine ensures_set_bind ?_
  refine ensures_ite (fun _ => ensures_pure ⟨{ sturdy with }, settled⟩) fun _ => ?_
  rcases transform.unprotect_cases primitives parts.contentType epochFits seqFits fits with
    refused | ⟨payload, opened, -⟩
  · exact ensures_python_bind refused (ensures_pure ⟨{ sturdy with }, settled⟩)
  · refine ensures_python_bind opened (ensures_modify_bind ?_)
    apply returns_handlePayload
    · exact { sturdy with }
    · exact settled

theorem returns_handleRecord (sturdy : Sturdy primitives inbox client) (settled : client.Settled)
    {record : ByteString} (complete : Complete record) :
    Returns (fun _ after => Sturdy primitives inbox after ∧ after.Settled)
      (handleRecord primitives record) client := by
  have unchanged : Sturdy primitives inbox client ∧ client.Settled := ⟨sturdy, settled⟩
  rcases recordParts_read complete.1 with ⟨parts, read, epochFits, seqFits, fragment⟩
  apply ensures_get_bind
  refine ensures_python_bind read ?_
  refine ensures_ite (fun _ => ensures_pure unchanged) fun _ => ?_
  refine ensures_ite (fun _ => ensures_pure unchanged) fun _ => ?_
  refine ensures_ite (fun _ => ?_) fun _ => ?_
  · rcases client.transform with _ | transform
    · exact ensures_pure unchanged
    · exact returns_handleProtected sturdy settled transform _ epochFits seqFits
        (by rw [fragment]; exact complete.2)
  · exact returns_handlePayload sturdy settled _ _ _ _ _

/-- Records are handled to the last, or until the client fails. -/
theorem returns_handleRecords (sturdy : Sturdy primitives inbox client) (settled : client.Settled)
    {records : List ByteString} (complete : ∀ record ∈ records, Complete record) :
    Returns (fun goesOn after => (Sturdy primitives inbox after ∧ after.Settled) ∧
        (goesOn = false → after.failed.isSome = true))
      (handleRecords primitives records) client := by
  induction records generalizing client with
  | nil => exact ensures_pure ⟨⟨sturdy, settled⟩, nofun⟩
  | cons record records ih =>
      rcases List.forall_mem_cons.mp complete with ⟨first, rest⟩
      refine Returns.bind (returns_handleRecord sturdy settled first) ?_
      rintro _ handled kept
      apply ensures_get_bind
      exact ensures_ite (fun failed => ensures_pure ⟨kept, fun _ => failed⟩) fun _ =>
        ih kept.1 kept.2 rest

/-! ### The inbox -/

/-- A client between two calls. -/
structure Idle (primitives : Primitives) (client : DtlsPskClient) : Prop where
  sturdy : Sturdy primitives client.inbox client
  settled : client.Settled
  inbox_le : client.inbox.length ≤ maxInbox

/-- The loop over the inbox has come to its end. -/
def Drained (client : DtlsPskClient) : Prop := client.inbox = [] ∨ client.failed.isSome = true

theorem returns_drainInbox (idle : Idle primitives client) {count : ℕ}
    (enough : client.inbox.length ≤ count) :
    Returns (fun _ after => Idle primitives after ∧ after.Drained)
      (drainInbox primitives count) client := by
  induction count generalizing client with
  | zero =>
      exact ensures_pure ⟨idle, .inl (List.length_eq_zero_iff.mp (Nat.le_zero.mp enough))⟩
  | succ count ih =>
      apply ensures_get_bind
      rcases waiting : client.inbox with _ | ⟨datagram, rest⟩
      · exact ensures_pure ⟨idle, .inl waiting⟩
      have inbox_le := idle.inbox_le
      rw [waiting, List.length_cons] at enough inbox_le
      have taken : Sturdy primitives rest { client with inbox := rest } :=
        { idle.sturdy with inbox := rfl }
      refine ensures_set_bind (Returns.bind (returns_handleRecords taken idle.settled
        (complete_recordsOf datagram).1) ?_)
      rintro goesOn handled ⟨⟨sturdy, settled⟩, failed⟩
      have left : handled.inbox = rest := sturdy.inbox
      rw [← left] at sturdy
      have idleStill : Idle primitives handled := ⟨sturdy, settled, by rw [left]; omega⟩
      refine ensures_ite (fun _ => ih idleStill (by rw [left]; omega)) fun stops => ?_
      exact ensures_pure ⟨idleStill, .inr (failed (by simpa using stops))⟩

theorem returns_drain (idle : Idle primitives client) :
    Returns (fun _ after => Idle primitives after ∧ after.Drained) (drain primitives) client :=
  ensures_get_bind (returns_drainInbox idle le_rfl)

end DtlsPskClient

/-- The exceptions that the interface names. -/
def DtlsFailure.Named : DtlsFailure → Prop
  | .python _ => False
  | _ => True

namespace DtlsPskClient

/-! ### Calls -/

theorem ensures_raiseFailed {α : Type} {returns : α → DtlsPskClient → Prop}
    {holds : DtlsPskClient → Prop} (kept : holds client) :
    Ensures returns (fun error after => error.Named ∧ holds after) (raiseFailed : Psk α) client :=
  ensures_get_bind (ensures_throw ⟨trivial, kept⟩)

/-- A datagram is taken while there is place for it. -/
theorem returns_bioWrite (idle : Idle primitives client) (datagram : ByteString) :
    Returns (fun _ after => Idle primitives after) (bioWrite datagram) client := by
  apply ensures_get_bind
  refine ensures_ite (fun _ => ensures_pure idle) fun place => ensures_set_bind (ensures_pure ?_)
  refine ⟨{ idle.sturdy with inbox := rfl }, idle.settled, ?_⟩
  rw [List.length_append, List.length_singleton]
  omega

theorem ensures_bioRead (idle : Idle primitives client) (capacity : ℕ) :
    Ensures (fun _ after => Idle primitives after)
      (fun error after => error.Named ∧ Idle primitives after) (bioRead capacity) client := by
  apply ensures_get_bind
  refine ensures_ite (fun _ => ensures_throw ⟨trivial, idle⟩) fun _ => ?_
  refine ensures_set_bind (ensures_pure ⟨{ idle.sturdy with room := ?_ }, idle.settled,
    idle.inbox_le⟩)
  rcases idle.sturdy.room with ⟨messages, sequence, outbox⟩
  refine ⟨messages, sequence, ?_⟩
  have shorter : (client.outbox.drop capacity).length ≤ client.outbox.length := by
    rw [List.length_drop]
    omega
  dsimp only
  omega

theorem ensures_doHandshake (idle : Idle primitives client) :
    Ensures (fun _ after => Idle primitives after ∧
        (client.state = .established ∨ after.Drained))
      (fun error after => error.Named ∧ Idle primitives after ∧ after.Drained)
      (doHandshake primitives) client := by
  apply ensures_get_bind
  refine ensures_ite (fun failed => ensures_raiseFailed ⟨idle, .inr failed⟩) fun sound => ?_
  refine ensures_ite (fun established => ensures_pure ⟨idle, .inl established⟩) fun _ => ?_
  have greeted : Returns (fun _ after => Idle primitives after)
      (when (client.state = .start) do
        sendClientHello primitives []
        enter .sentHello) client := by
    refine ensures_ite (fun state => ?_) fun _ => ensures_pure idle
    have room := idle.sturdy.room
    rw [state] at room
    have waits := idle.settled.resolve_right sound
    refine Returns.mono (returns_sendHello idle.sturdy (Nat.zero_le _)
      (idle.sturdy.plain (by rw [state]; decide)) room nofun) ?_
    intro _ after ⟨kept, sameReady, sameNext⟩
    have sameInbox := kept.inbox
    rw [← sameInbox] at kept
    refine ⟨kept, .inl ?_, ?_⟩
    · rw [sameReady, sameNext]
      exact waits
    · rw [sameInbox]
      exact idle.inbox_le
  refine Returns.bind greeted fun _ started startedIdle => ?_
  refine Returns.bind (returns_drain startedIdle) fun _ after ended => ?_
  apply ensures_get_bind
  refine ensures_ite (fun _ => ensures_raiseFailed ended) fun _ => ?_
  exact ensures_ite (fun _ => ensures_throw ⟨trivial, ended⟩) fun _ =>
    ensures_pure ⟨ended.1, .inr ended.2⟩

/-- Payloads are taken off the queue; it is empty where the call raises. -/
theorem ensures_returnQueued (idle : Idle primitives client) (capacity : ℕ) :
    Ensures (fun _ after => Idle primitives after ∧ (client.Drained → after.Drained))
      (fun error after => error.Named ∧ after = client ∧ client.appdata = [])
      (returnQueued capacity) client := by
  apply ensures_get_bind
  have tables := idle.sturdy.tables
  rcases queue : client.appdata with _ | ⟨payload, rest⟩
  · refine ensures_ite (fun _ => ensures_raiseFailed ⟨rfl, rfl⟩) fun _ => ?_
    exact ensures_ite (fun _ => ensures_throw ⟨trivial, rfl, rfl⟩) fun _ =>
      ensures_throw ⟨trivial, rfl, rfl⟩
  · have bound := tables.appdata_le
    rw [queue, List.length_cons] at bound
    have left (queue : List ByteString) (history : PskHistory) (fits : queue.length ≤ maxAppdata) :
        Idle primitives { client with appdata := queue, history } :=
      ⟨{ idle.sturdy with tables := { tables with appdata_le := fits } }, idle.settled,
        idle.inbox_le⟩
    refine ensures_ite (fun _ => ?_) fun _ => ?_
    · have fits : (payload.drop capacity :: rest).length ≤ maxAppdata := by simpa using bound
      exact ensures_set_bind (ensures_pure ⟨left _ _ fits, fun drained => drained⟩)
    · exact ensures_set_bind (ensures_pure ⟨left _ _ (by omega), fun drained => drained⟩)

theorem ensures_recv (idle : Idle primitives client) (capacity : ℕ) :
    Ensures (fun _ after => Idle primitives after ∧ (client.appdata ≠ [] ∨ after.Drained))
      (fun error after => error.Named ∧ Idle primitives after ∧ after.Drained)
      (recv primitives capacity) client := by
  apply ensures_get_bind
  have read : Returns (fun _ after => Idle primitives after ∧
      (after = client ∧ client.appdata ≠ [] ∨ after.Drained))
      (when (client.appdata = []) (drain primitives)) client := by
    refine ensures_ite (fun _ => ?_) fun queued => ensures_pure ⟨idle, .inl ⟨rfl, queued⟩⟩
    exact (returns_drain idle).mono fun _ after ⟨kept, drained⟩ => ⟨kept, .inr drained⟩
  refine Returns.bind read fun _ middle ⟨kept, ends⟩ => ?_
  refine (ensures_returnQueued kept capacity).mono ?_ ?_
  · rintro _ after ⟨idleStill, drains⟩
    refine ⟨idleStill, ends.imp (fun queued => queued.2) drains⟩
  · rintro error after ⟨named, rfl, empty⟩
    refine ⟨named, kept, ends.resolve_left ?_⟩
    rintro ⟨rfl, queued⟩
    exact queued empty

/-! ### Runs -/

theorem keeps_idle {α : Type} {computation : Psk α}
    (ensures : ∀ client, Idle primitives client →
      Ensures (fun _ after => Idle primitives after) (fun _ after => Idle primitives after)
        computation client) :
    Keeps (fun before after => Idle primitives before → Idle primitives after) computation := by
  intro client idle
  have led : Leads (fun _ after => Idle primitives after) computation client :=
    leads_iff_ensures.mpr (ensures client idle)
  exact led

theorem idle_of_created {identity key : ByteString} {mtu : ℕ} {fresh : DtlsPskClient}
    (created : create identity key mtu = .ok fresh) (identityLength : identity.length = 16) :
    Idle primitives fresh := by
  rcases create_eq_ok.mp created with ⟨-, keyLengths, -, rfl⟩
  have keyLength : key.length ≤ 0xFFFF := by
    simp only [List.mem_cons, List.not_mem_nil, or_false] at keyLengths
    omega
  refine ⟨⟨rfl, identityLength, keyLength, Nat.zero_le _, ?_, fun _ => rfl, nofun, ?_⟩, .inl rfl,
    Nat.zero_le _⟩
  · exact ⟨Nat.zero_le _, Nat.zero_le _, Nat.zero_le _, nofun, nofun⟩
  · exact ⟨le_rfl, le_rfl, le_rfl⟩

end DtlsPskClient

/-- The calls of a client that only reads what its peer sends. -/
def PskCall.Receives : PskCall → Prop
  | .bioWrite _ | .bioRead _ | .doHandshake | .recv _ => True
  | _ => False

namespace DtlsPskClient

theorem idle_perform {call : PskCall} (receives : call.Receives) (idle : Idle primitives client) :
    Idle primitives (call.perform primitives client) := by
  cases call with
  | bioWrite datagram =>
      refine keeps_discard (keeps_idle fun client idle => ?_) client idle
      exact Ensures.mono (returns_bioWrite idle datagram) (fun _ _ kept => kept)
        fun _ _ => False.elim
  | bioRead capacity =>
      refine keeps_discard (keeps_idle fun client idle => ?_) client idle
      exact (ensures_bioRead idle capacity).mono (fun _ _ kept => kept) fun _ _ kept => kept.2
  | doHandshake =>
      refine keeps_idle (fun client idle => ?_) client idle
      exact (ensures_doHandshake idle).mono (fun _ _ kept => kept.1) fun _ _ kept => kept.2.1
  | recv capacity =>
      refine keeps_discard (keeps_idle fun client idle => ?_) client idle
      exact (ensures_recv idle capacity).mono (fun _ _ kept => kept.1) fun _ _ kept => kept.2.1
  | send data => exact receives.elim
  | shutdown => exact receives.elim
  | getTimeout => exact receives.elim
  | handleTimeout => exact receives.elim

/-- The queues and the tables are within their bounds. -/
structure Contained (client : DtlsPskClient) : Prop where
  inbox : client.inbox.length ≤ maxInbox
  appdata : client.appdata.length ≤ maxAppdata
  pending : client.pending.size ≤ maxPendingMessages
  ready : client.ready.size ≤ maxPendingMessages

end DtlsPskClient

/--
After any datagrams, `do_handshake` and `recv` work the inbox off, or stop at a failure, with no
message left that could be delivered; they raise nothing but the exceptions of the interface, and
nothing grows over its bound.
-/
theorem hostile_input_is_contained (primitives : Primitives) {identity key : ByteString} {mtu : ℕ}
    {fresh : DtlsPskClient} (created : DtlsPskClient.create identity key mtu = .ok fresh)
    (identityLength : identity.length = 16) {calls : List PskCall}
    (receives : ∀ call ∈ calls, call.Receives) :
    let client := Machine.run (PskCall.perform primitives) calls fresh
    client.Contained ∧ client.Settled ∧
      Ensures (fun _ after => client.state = .established ∨ after.Drained)
        (fun error after => error.Named ∧ after.Drained)
        (DtlsPskClient.doHandshake primitives) client ∧
      ∀ capacity, Ensures (fun _ after => client.appdata ≠ [] ∨ after.Drained)
        (fun error after => error.Named ∧ after.Drained)
        (DtlsPskClient.recv primitives capacity) client := by
  have idle : DtlsPskClient.Idle primitives
      (Machine.run (PskCall.perform primitives) calls fresh) :=
    Machine.invariant_run (fun _ _ idle receives => DtlsPskClient.idle_perform receives idle)
      (Machine.meets_of_forall fun call member _ => receives call member)
      (DtlsPskClient.idle_of_created created identityLength)
  have tables := idle.sturdy.tables
  refine ⟨⟨idle.inbox_le, tables.appdata_le, tables.pending_le, tables.ready_le⟩, idle.settled,
    ?_, fun capacity => ?_⟩
  · exact (DtlsPskClient.ensures_doHandshake idle).mono (fun _ _ kept => kept.2)
      fun _ _ kept => ⟨kept.1, kept.2.2⟩
  · exact (DtlsPskClient.ensures_recv idle capacity).mono (fun _ _ kept => kept.2)
      fun _ _ kept => ⟨kept.1, kept.2.2⟩

open Recording in
/-- A datagram of a record and a torn header, while the client waits for its server. -/
theorem hostile_input_is_contained_torn :
    let primitives := sample.primitives
    let fresh : DtlsPskClient := { identity := List.replicate 16 1, psk := Sample.psk }
    let calls : List PskCall :=
      [.doHandshake, .bioRead 1400, .bioWrite (Sample.record ctHandshake 0 0 [3] ++ [22, 254]),
        .recv 100]
    let client := Machine.run (PskCall.perform primitives) calls fresh
    client.Contained ∧ client.Settled ∧
      Ensures (fun _ after => client.state = .established ∨ after.Drained)
        (fun error after => error.Named ∧ after.Drained)
        (DtlsPskClient.doHandshake primitives) client ∧
      ∀ capacity, Ensures (fun _ after => client.appdata ≠ [] ∨ after.Drained)
        (fun error after => error.Named ∧ after.Drained)
        (DtlsPskClient.recv primitives capacity) client := by
  have created : DtlsPskClient.create (List.replicate 16 1) Sample.psk 1400 =
      .ok { identity := List.replicate 16 1, psk := Sample.psk } := rfl
  exact hostile_input_is_contained sample.primitives created List.length_replicate
    (by simp [PskCall.Receives])

end SmartThingsLocal
