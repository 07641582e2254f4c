import SmartThingsLocal.Dtls.HandshakeRefinement
import SmartThingsLocal.Dtls.RecordProtectionExact

/-!
# An established session

What an inbound record does to a client whose session is established: a record that does
not authenticate leaves the client as it is, and one that does at most queues its payload,
closes the session or fails it. No record makes a call raise by itself.
-/

namespace SmartThingsLocal

open Dtls Stateful

namespace DtlsPskClient

variable (primitives : Primitives)

/-- Whether a record is of the read epoch, in the right version, and passes its protection. -/
def authenticates (client : DtlsPskClient) (record : ByteString) : Bool :=
  match RecordParts.read record with
  | .error _ => false
  | .ok parts =>
      parts.version = version ∧ parts.epoch = 1 ∧
        client.transform.any fun transform =>
          match transform.unprotect primitives parts.epoch parts.seq parts.contentType
            parts.fragment with
          | .ok (some _) => true
          | _ => false

/-- The session is established under these record keys. -/
structure Session (transform : Transform) (client : DtlsPskClient) : Prop where
  established : client.state = .established
  active : client.readActive = true
  keyed : client.transform = some transform
  windowed : ∃ window, client.recvWindows.get? 1 = some window

/-- The octets that are queued, and one for each payload. -/
def queuedOctets (client : DtlsPskClient) : ℕ := (client.appdata.map (·.length + 1)).sum

/-- A session goes on, and no more has been queued than what came in. -/
structure Receives (transform : Transform) (octets : ℕ) (before after : DtlsPskClient) : Prop where
  session : Session transform after
  inbox : after.inbox = before.inbox
  queued : after.queuedOctets ≤ before.queuedOctets + octets

variable {primitives} {transform : Transform} {client : DtlsPskClient}

theorem Receives.refl (session : Session transform client) (octets : ℕ) :
    Receives transform octets client client :=
  ⟨session, rfl, Nat.le_add_right _ _⟩

theorem Receives.trans {first second : ℕ} {middle after : DtlsPskClient}
    (before : Receives transform first client middle)
    (rest : Receives transform second middle after) :
    Receives transform (first + second) client after where
  session := rest.session
  inbox := rest.inbox.trans before.inbox
  queued := by
    have firstQueued := before.queued
    have secondQueued := rest.queued
    omega

theorem handleChangeCipherSpec_session (session : Session transform client)
    (payload : ByteString) :
    exec (handleChangeCipherSpec payload) client = (.ok (), client) := by
  have refused : ¬(payload = [1] ∧ client.state = .sentClientFlight) := by
    rintro ⟨-, flight⟩
    rw [session.established] at flight
    cases flight
  show (Except.ok (), if payload = [1] ∧ client.state = .sentClientFlight then _ else client) = _
  rw [if_neg refused]

theorem handleAlert_session (session : Session transform client) (payload : ByteString)
    (octets : ℕ) (authenticated : Bool) :
    ∃ after, exec (handleAlert payload authenticated) client = (.ok (), after) ∧
      Receives transform octets client after := by
  rcases payload with _ | ⟨level, _ | ⟨description, rest⟩⟩
  · exact ⟨client, rfl, .refl session octets⟩
  · exact ⟨client, rfl, .refl session octets⟩
  · unfold handleAlert
    dsimp only
    split_ifs
    · exact ⟨_, rfl, { Receives.refl session octets with session := { session with } }⟩
    · exact ⟨client, rfl, .refl session octets⟩
    · exact ⟨_, rfl, { Receives.refl session octets with session := { session with } }⟩
    · exact ⟨client, rfl, .refl session octets⟩

theorem queueApplicationData_session (session : Session transform client) (epoch seq : ℕ)
    (payload : ByteString) :
    ∃ after, exec (queueApplicationData epoch seq payload) client = (.ok (), after) ∧
      Receives transform (payload.length + 1) client after := by
  refine ⟨_, rfl, ?_⟩
  split_ifs with dropped
  · exact .refl session _
  · refine ⟨{ session with }, rfl, ?_⟩
    have kept : ((if client.appdata.length ≥ maxAppdata then client.appdata.drop 1
        else client.appdata).map (·.length + 1)).sum ≤ client.queuedOctets := by
      split_ifs
      · exact ((client.appdata.drop_sublist 1).map _).sum_le_sum fun _ _ => Nat.zero_le _
      · exact le_rfl
    simp only [queuedOctets, List.map_append, List.sum_append] at kept ⊢
    simpa using kept

variable (primitives)

theorem handlePayload_session (session : Session transform client) (contentType : UInt8)
    {epoch : ℕ} (positive : 0 < epoch) (seq : ℕ) (helloVerifyOnly : Bool) (payload : ByteString) :
    ∃ after, exec (handlePayload primitives contentType epoch seq helloVerifyOnly payload) client =
        (.ok (), after) ∧ Receives transform (payload.length + 1) client after := by
  unfold handlePayload
  split_ifs
  · refine ⟨client, ?_, .refl session _⟩
    unfold handleHandshakeFragment
    rw [exec_get_bind, if_pos ⟨session.established, by simpa using positive⟩]
    rfl
  · exact ⟨client, handleChangeCipherSpec_session session payload, .refl session _⟩
  · exact handleAlert_session session payload _ _
  · exact queueApplicationData_session session epoch seq payload
  · exact ⟨client, rfl, .refl session _⟩

/-- The parts of a record that has a header; its numbers fit their fields. -/
theorem recordParts_read {record : ByteString} (headed : recordHeader ≤ record.length) :
    ∃ parts, RecordParts.read record = .ok parts ∧ parts.epoch < 2 ^ 16 ∧ parts.seq < 2 ^ 48 ∧
      parts.fragment = record.drop recordHeader := by
  have positive : 0 < record.length := lt_of_lt_of_le (by decide) headed
  unfold RecordParts.read
  rw [octetAt_ok positive]
  refine ⟨_, rfl, ?_, ?_, rfl⟩
  · exact (ByteString.toNat_lt _).trans_le
      (Nat.pow_le_pow_right (by decide) (List.length_take_le 2 (record.drop 3)))
  · exact (ByteString.toNat_lt _).trans_le
      (Nat.pow_le_pow_right (by decide) (List.length_take_le 6 (record.drop 5)))

theorem exec_python_bind {α β : Type} {result : Except PythonError α} {value : α}
    (ran : result = .ok value) (next : α → Psk β) (client : DtlsPskClient) :
    exec (python result >>= next) client = exec (next value) client := by
  rw [ran]
  rfl

theorem exec_handleRecord_of_session (session : Session transform client) {record : ByteString}
    {parts : RecordParts} (read : RecordParts.read record = .ok parts)
    (version : parts.version = Dtls.version) (epoch : parts.epoch = 1) :
    exec (handleRecord primitives record) client =
      exec (handleProtected primitives transform parts false) client := by
  unfold handleRecord
  rw [exec_get_bind, exec_python_bind read]
  simp [version, epoch, session.active, session.keyed]

/-- A protected record: it is refused and leaves no trace, or its payload is received. -/
theorem handleProtected_session (session : Session transform client) {parts : RecordParts}
    (epoch : parts.epoch = 1) (seqFits : parts.seq < 2 ^ 48)
    (fits : parts.fragment.length ≤ 0xFFFF) :
    ∃ after, exec (handleProtected primitives transform parts false) client = (.ok (), after) ∧
      Receives transform (parts.fragment.length + 1) client after ∧
      (transform.unprotect primitives parts.epoch parts.seq parts.contentType parts.fragment =
        .ok none → after = client) := by
  rcases session.windowed with ⟨window, windowed⟩
  rw [← epoch] at windowed
  unfold handleProtected
  rw [exec_get_bind]
  simp only [windowed, Option.getD_some, OrderedDict.set_of_get? windowed, exec_set_bind]
  by_cases replayed : window.isReplay parts.seq = true
  · rw [if_pos replayed]
    exact ⟨client, rfl, .refl session _, fun _ => rfl⟩
  rw [if_neg replayed]
  unfold python
  rcases transform.unprotect_cases primitives parts.contentType
    (by omega : parts.epoch < 2 ^ 16) seqFits fits with refused | ⟨payload, opened, shorter⟩
  · rw [refused]
    exact ⟨client, rfl, .refl session _, fun _ => rfl⟩
  · rw [opened]
    have accepted : Session transform { client with
        recvWindows := client.recvWindows.set parts.epoch (window.accept parts.seq)
        history := { client.history with
          opened := client.history.opened ++ [⟨parts.contentType, parts.epoch, parts.seq,
            parts.fragment, transform, payload, client.state⟩] } } :=
      { session with windowed := ⟨window.accept parts.seq, by simp [epoch]⟩ }
    rcases handlePayload_session primitives accepted parts.contentType
      (by omega : 0 < parts.epoch) parts.seq false payload with ⟨after, handled, received⟩
    refine ⟨after, handled, ⟨received.session, received.inbox, ?_⟩, fun refused => ?_⟩
    · have queued : after.queuedOctets ≤ client.queuedOctets + (payload.length + 1) :=
        received.queued
      omega
    · cases refused

theorem handleRecord_session (session : Session transform client) {record : ByteString}
    (headed : recordHeader ≤ record.length)
    (fits : (record.drop recordHeader).length ≤ 0xFFFF) :
    ∃ after, exec (handleRecord primitives record) client = (.ok (), after) ∧
      Receives transform record.length client after ∧
      (client.authenticates primitives record = false → after = client) := by
  rcases recordParts_read headed with ⟨parts, read, epochFits, seqFits, fragment⟩
  rw [← fragment] at fits
  by_cases version : parts.version = Dtls.version
  · by_cases epoch : parts.epoch = 1
    · rw [exec_handleRecord_of_session primitives session read version epoch]
      rcases handleProtected_session primitives session epoch seqFits fits with
        ⟨after, handled, received, refused⟩
      refine ⟨after, handled, ⟨received.session, received.inbox, ?_⟩, fun forged => refused ?_⟩
      · have queued := received.queued
        simp only [fragment, List.length_drop, recordHeader] at queued headed
        omega
      · rcases transform.unprotect_cases primitives parts.contentType epochFits seqFits fits with
          closed | ⟨payload, opened, -⟩
        · exact closed
        · rw [epoch] at opened
          simp [authenticates, read, version, epoch, session.keyed, opened] at forged
    · refine ⟨client, ?_, .refl session _, fun _ => rfl⟩
      unfold handleRecord
      rw [exec_get_bind, exec_python_bind read]
      simp [version, epoch, session.active]
  · refine ⟨client, ?_, .refl session _, fun _ => rfl⟩
    unfold handleRecord
    rw [exec_get_bind, exec_python_bind read]
    simp [version, acceptsVersion, session.established]

/-! ### Datagrams -/

/-- A datagram is at its end, or its first record is cut off. -/
theorem recordsOf_cases (datagram : ByteString) :
    recordsOf datagram = [] ∨ ∃ stop, recordHeader ≤ stop ∧ stop ≤ recordHeader + 0xFFFF ∧
      stop ≤ datagram.length ∧
      recordsOf datagram = datagram.take stop :: recordsOf (datagram.drop stop) := by
  rw [recordsOf]
  by_cases short : datagram.length < recordHeader
  · rw [if_pos short]
    exact .inl rfl
  rw [if_neg short]
  dsimp only
  by_cases long : recordHeader + ByteString.toNat ((datagram.drop 11).take 2) > datagram.length
  · rw [if_pos long]
    exact .inl rfl
  rw [if_neg long]
  have bound : ByteString.toNat ((datagram.drop 11).take 2) < 256 ^ 2 :=
    (ByteString.toNat_lt _).trans_le
      (Nat.pow_le_pow_right (by decide) (List.length_take_le 2 (datagram.drop 11)))
  exact .inr ⟨_, Nat.le_add_right _ _, by omega, by omega, rfl⟩

/-- A record whose length field is the length of its fragment. -/
def IsRecord (record : ByteString) : Prop :=
  recordHeader ≤ record.length ∧
    ByteString.toNat ((record.drop 11).take 2) = record.length - recordHeader

/-- A record that is cut off a datagram has a header and a fragment of the length it announces. -/
def Complete (record : ByteString) : Prop :=
  recordHeader ≤ record.length ∧ (record.drop recordHeader).length ≤ 0xFFFF

theorem complete_recordsOf (datagram : ByteString) :
    (∀ record ∈ recordsOf datagram, Complete record) ∧
      ((recordsOf datagram).map List.length).sum ≤ datagram.length := by
  induction size : datagram.length using Nat.strong_induction_on generalizing datagram with
  | _ size ih =>
      rcases recordsOf_cases datagram with none | ⟨stop, headed, fits, within, first⟩
      · rw [none]
        simp
      · have positive : 0 < stop := lt_of_lt_of_le (by decide) headed
        have rest := ih (datagram.drop stop).length
          (by rw [List.length_drop]; omega) (datagram.drop stop) rfl
        rw [first]
        refine ⟨fun record member => ?_, ?_⟩
        · rcases List.mem_cons.mp member with rfl | later
          · constructor
            · rw [List.length_take]
              omega
            · rw [List.length_drop, List.length_take]
              omega
          · exact rest.1 record later
        · have total := rest.2
          simp only [List.map_cons, List.sum_cons, List.length_take, List.length_drop] at total ⊢
          omega

theorem handleRecords_session (session : Session transform client) {records : List ByteString}
    (complete : ∀ record ∈ records, Complete record) :
    ∃ goesOn after, exec (handleRecords primitives records) client = (.ok goesOn, after) ∧
      Receives transform (records.map List.length).sum client after ∧
      ((∀ record ∈ records, client.authenticates primitives record = false) →
        after = client) := by
  induction records generalizing client with
  | nil => exact ⟨true, client, rfl, .refl session _, fun _ => rfl⟩
  | cons record records ih =>
      rcases List.forall_mem_cons.mp complete with ⟨⟨headed, fits⟩, rest⟩
      rcases handleRecord_session primitives session headed fits with
        ⟨middle, handled, received, unchanged⟩
      rcases ih received.session rest with ⟨goesOn, after, done, receivedRest, unchangedRest⟩
      unfold handleRecords
      rw [exec_bind, handled]
      dsimp only
      rw [exec_get_bind]
      by_cases failed : middle.failed.isSome = true
      · rw [if_pos failed]
        refine ⟨false, middle, rfl, ?_, fun forged => unchanged (forged record List.mem_cons_self)⟩
        refine ⟨received.session, received.inbox, ?_⟩
        have queued := received.queued
        simp only [List.map_cons, List.sum_cons]
        omega
      · rw [if_neg failed]
        refine ⟨goesOn, after, done, ?_, fun forged => ?_⟩
        · simp only [List.map_cons, List.sum_cons]
          exact received.trans receivedRest
        · rcases List.forall_mem_cons.mp forged with ⟨first, later⟩
          have same := unchanged first
          rw [same] at unchangedRest
          exact unchangedRest later

/-- A datagram that has come in is handled as a whole. -/
theorem drain_session (session : Session transform client) {datagram : ByteString}
    (inbox : client.inbox = [datagram]) :
    ∃ after, exec (drain primitives) client = (.ok (), after) ∧
      Receives transform datagram.length { client with inbox := [] } after ∧
      ((∀ record ∈ recordsOf datagram, client.authenticates primitives record = false) →
        after = { client with inbox := [] }) := by
  have taken : Session transform { client with inbox := [] } := { session with }
  rcases complete_recordsOf datagram with ⟨complete, total⟩
  rcases handleRecords_session primitives taken complete with
    ⟨goesOn, after, handled, received, unchanged⟩
  refine ⟨after, ?_, ⟨received.session, received.inbox, ?_⟩, unchanged⟩
  · unfold drain
    rw [exec_get_bind, inbox, List.length_singleton]
    unfold drainInbox
    rw [exec_get_bind, inbox]
    dsimp only
    rw [exec_set_bind, exec_bind, handled]
    cases goesOn <;> rfl
  · have queued := received.queued
    omega

end DtlsPskClient

end SmartThingsLocal
