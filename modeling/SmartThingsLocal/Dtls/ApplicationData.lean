import SmartThingsLocal.Dtls.EstablishedSession
import SmartThingsLocal.Dtls.Recording

/-!
# Where application data comes from

Application data is queued exactly when a record of the protected epoch is opened, in
whatever state the handshake is in, and `recv` returns pieces of what was queued. Read
keys are there from the ChangeCipherSpec on, so data that comes before the server's
Finished is queued as well.
-/

namespace SmartThingsLocal

open Dtls Stateful

/-- The payload of the record is what its fragment is opened to. -/
def OpenedRecord.Authentic (primitives : Primitives) (opened : OpenedRecord) : Prop :=
  opened.transform.unprotect primitives opened.epoch opened.seq opened.contentType
    opened.fragment = .ok (some opened.payload)

/-- What a record that is opened puts into the queue. -/
def OpenedRecord.data? (opened : OpenedRecord) : Option QueuedPayload :=
  if opened.contentType = ctApplicationData ∧ opened.payload ≠ [] then
    some ⟨opened.payload, opened.epoch, opened.seq, opened.state⟩
  else none

namespace DtlsPskClient

variable (primitives : Primitives)

/-- The payload came in an authentic record of the protected epoch, in a session. -/
def CameVerified (client : DtlsPskClient) (queued : QueuedPayload) : Prop :=
  queued.epoch = 1 ∧ queued.state = .established ∧
    ∃ opened ∈ client.history.opened, opened.Authentic primitives ∧
      opened.data? = some queued

/-- Everything that has been queued came verified, and what was returned is a piece of it. -/
def OnlyVerifiedData (client : DtlsPskClient) : Prop :=
  (∀ queued ∈ client.history.queued, client.CameVerified primitives queued) ∧
  ∀ piece ∈ client.history.returned, ∃ queued ∈ client.history.queued,
    client.CameVerified primitives queued ∧ piece <:+: queued.payload

/-- The records of the run, what was queued of them, and what is left of that. -/
structure Deliveries where
  opened : List OpenedRecord
  queued : List QueuedPayload
  returned : List ByteString
  appdata : List ByteString

def deliveries (client : DtlsPskClient) : Deliveries where
  opened := client.history.opened
  queued := client.history.queued
  returned := client.history.returned
  appdata := client.appdata

/-- What is queued is the data of the records, and the rest are pieces of that. -/
structure Deliveries.Sound (deliveries : Deliveries) : Prop where
  authentic : ∀ opened ∈ deliveries.opened, opened.Authentic primitives ∧ opened.epoch = 1
  queued : deliveries.queued = deliveries.opened.filterMap OpenedRecord.data?
  appdata : ∀ piece ∈ deliveries.appdata, ∃ queued ∈ deliveries.queued, piece <:+: queued.payload
  returned : ∀ piece ∈ deliveries.returned, ∃ queued ∈ deliveries.queued, piece <:+: queued.payload

/-- Deliveries stay sound. -/
def Delivers (before after : DtlsPskClient) : Prop :=
  before.deliveries.Sound primitives → after.deliveries.Sound primitives

instance : Std.Refl (Delivers primitives) := ⟨fun _ sound => sound⟩

instance : IsTrans DtlsPskClient (Delivers primitives) := ⟨fun _ _ _ before after => after ∘ before⟩

variable {primitives} {before after client : DtlsPskClient}

theorem delivers_of_same (same : after.deliveries = before.deliveries) :
    Delivers primitives before after := by
  intro sound
  rw [same]
  exact sound

theorem delivers_of_negotiates {α : Type} {computation : Psk α}
    (negotiates : Keeps Negotiates computation) : Keeps (Delivers primitives) computation :=
  negotiates.mono fun _ _ negotiated => delivers_of_same (negotiated.same deliveries fun _ => rfl)

theorem delivers_of_sends {α : Type} {computation : Psk α} (sends : Keeps Sends computation) :
    Keeps (Delivers primitives) computation :=
  delivers_of_negotiates (negotiates_of_sends sends)

/-- A record that is opened and is not application data. -/
theorem Deliveries.Sound.open {deliveries : Deliveries} (sound : deliveries.Sound primitives)
    {opened : OpenedRecord} (authentic : opened.Authentic primitives) (first : opened.epoch = 1)
    (none : opened.data? = none) :
    Deliveries.Sound primitives { deliveries with opened := deliveries.opened ++ [opened] } :=
  { sound with
    authentic := fun record recordMem => by
      rcases List.mem_append.mp recordMem with earlier | last
      · exact sound.authentic record earlier
      · rw [List.mem_singleton.mp last]
        exact ⟨authentic, first⟩
    queued := by simp [none, sound.queued] }

/-- A record whose data is queued, with some of what was queued before dropped. -/
theorem Deliveries.Sound.queue {deliveries : Deliveries} (sound : deliveries.Sound primitives)
    {opened : OpenedRecord} (authentic : opened.Authentic primitives) (first : opened.epoch = 1)
    {queued : QueuedPayload} (data : opened.data? = some queued) {kept : List ByteString}
    (sublist : kept.Sublist deliveries.appdata) :
    Deliveries.Sound primitives { deliveries with
      opened := deliveries.opened ++ [opened], queued := deliveries.queued ++ [queued],
      appdata := kept ++ [queued.payload] } where
  authentic record recordMem := by
    rcases List.mem_append.mp recordMem with earlier | last
    · exact sound.authentic record earlier
    · rw [List.mem_singleton.mp last]
      exact ⟨authentic, first⟩
  queued := by simp [data, sound.queued]
  appdata piece pieceMem := by
    rcases List.mem_append.mp pieceMem with earlier | last
    · rcases sound.appdata piece (sublist.subset earlier) with ⟨source, sourceMem, part⟩
      exact ⟨source, List.mem_append_left _ sourceMem, part⟩
    · exact ⟨queued, List.mem_append_right _ (List.mem_singleton_self queued),
        (List.mem_singleton.mp last).symm ▸ List.infix_rfl⟩
  returned piece pieceMem := by
    rcases sound.returned piece pieceMem with ⟨source, sourceMem, part⟩
    exact ⟨source, List.mem_append_left _ sourceMem, part⟩

/-- The first payload that waits is returned, up to a piece that goes on waiting. -/
theorem Deliveries.Sound.take {deliveries : Deliveries} (sound : deliveries.Sound primitives)
    {payload taken : ByteString} {rest left : List ByteString}
    (waiting : deliveries.appdata = payload :: rest) (part : taken <:+: payload)
    (leftover : ∀ piece ∈ left, piece <:+: payload) :
    Deliveries.Sound primitives { deliveries with
      returned := deliveries.returned ++ [taken], appdata := left ++ rest } := by
  rcases sound.appdata payload (waiting ▸ List.mem_cons_self) with ⟨source, sourceMem, whole⟩
  exact { sound with
    returned := fun piece pieceMem => by
      rcases List.mem_append.mp pieceMem with earlier | last
      · exact sound.returned piece earlier
      · rw [List.mem_singleton.mp last]
        exact ⟨source, sourceMem, part.trans whole⟩
    appdata := fun piece pieceMem => by
      rcases List.mem_append.mp pieceMem with first | later
      · exact ⟨source, sourceMem, (leftover piece first).trans whole⟩
      · exact sound.appdata piece (waiting ▸ List.mem_cons_of_mem payload later) }

theorem delivers_handleChangeCipherSpec (payload : ByteString) :
    Keeps (Delivers primitives) (handleChangeCipherSpec payload) := by
  apply keeps_modify
  intro client
  split_ifs
  · exact delivers_of_same rfl
  · exact delivers_of_same rfl

theorem delivers_handleAlert (payload : ByteString) (authenticated : Bool) :
    Keeps (Delivers primitives) (handleAlert payload authenticated) := by
  rcases payload with _ | ⟨level, _ | ⟨description, rest⟩⟩
  · exact keeps_pure ()
  · exact keeps_pure ()
  · apply keeps_ite
    · exact keeps_ite (keeps_modify fun _ => delivers_of_same rfl) (keeps_pure ())
    · exact keeps_ite (delivers_of_sends (sends_fail _)) (keeps_pure ())

variable (primitives)

/-- A payload that is not queued leaves the deliveries alone. -/
theorem delivers_handlePayload {contentType : UInt8} {epoch : ℕ} {payload : ByteString}
    (dropped : contentType = ctApplicationData → epoch = 0 ∨ payload = []) (seq : ℕ)
    (helloVerifyOnly : Bool) :
    Keeps (Delivers primitives)
      (handlePayload primitives contentType epoch seq helloVerifyOnly payload) := by
  intro client
  refine leads_ite (fun _ => delivers_of_negotiates
    (negotiates_handleHandshakeFragment primitives payload _ _) client) fun _ => ?_
  refine leads_ite (fun _ => delivers_handleChangeCipherSpec payload client) fun _ => ?_
  refine leads_ite (fun _ => delivers_handleAlert payload _ client) fun _ => ?_
  refine leads_ite (fun data => ?_) fun _ => keeps_pure () client
  refine keeps_modify (fun client => ?_) client
  rw [if_pos (dropped data)]
  exact delivers_of_same rfl

theorem handlePayload_data {contentType : UInt8} (data : contentType = ctApplicationData)
    (epoch seq : ℕ) (helloVerifyOnly : Bool) (payload : ByteString) :
    handlePayload primitives contentType epoch seq helloVerifyOnly payload =
      queueApplicationData epoch seq payload := by
  unfold handlePayload
  rw [data, if_neg (by decide), if_neg (by decide), if_neg (by decide), if_pos rfl]

theorem deliveries_queueApplicationData {epoch : ℕ} {payload : ByteString}
    (queues : ¬(epoch = 0 ∨ payload = [])) (seq : ℕ) (client : DtlsPskClient) :
    (exec (queueApplicationData epoch seq payload) client).2.deliveries =
      { client.deliveries with
        queued := client.deliveries.queued ++ [⟨payload, epoch, seq, client.state⟩]
        appdata := (if client.appdata.length ≥ maxAppdata then client.appdata.drop 1
          else client.appdata) ++ [payload] } := by
  show deliveries (if epoch = 0 ∨ payload = [] then client else _) = _
  rw [if_neg queues]
  rfl

/-- A protected record: it is refused, or it is on record and its data is queued. -/
theorem delivers_handleProtected (transform : Transform) {parts : RecordParts}
    (first : parts.epoch = 1) (helloVerifyOnly : Bool) :
    Keeps (Delivers primitives)
      (handleProtected primitives transform parts helloVerifyOnly) := by
  intro client
  apply leads_get_bind
  refine leads_set_bind (delivers_of_same rfl) ?_
  refine leads_ite (fun _ => keeps_pure () _) fun _ => ?_
  refine leads_python_bind fun payload unprotected => ?_
  rcases payload with _ | payload
  · exact keeps_pure () _
  · dsimp only
    have authentic : OpenedRecord.Authentic primitives ⟨parts.contentType, parts.epoch, parts.seq,
        parts.fragment, transform, payload, client.state⟩ := unprotected
    by_cases data : parts.contentType = ctApplicationData ∧ payload ≠ []
    · rw [handlePayload_data primitives data.1]
      intro sound
      have queues : ¬(parts.epoch = 0 ∨ payload = []) := by
        simpa [first] using data.2
      have kept : (if client.appdata.length ≥ maxAppdata then client.appdata.drop 1
          else client.appdata).Sublist client.appdata := by
        split_ifs
        · exact List.drop_sublist 1 _
        · exact List.Sublist.refl _
      rw [exec_modify_bind, deliveries_queueApplicationData queues]
      exact sound.queue authentic first (if_pos data) kept
    · refine leads_modify_bind (fun sound => sound.open authentic first (if_neg data)) ?_
      exact delivers_handlePayload primitives (fun is => .inr (by simpa [is] using data)) _ _ _

theorem delivers_handleRecord (record : ByteString) :
    Keeps (Delivers primitives) (handleRecord primitives record) := by
  apply keeps_get_bind
  intro client
  refine keeps_bind (keeps_python _) fun parts before => ?_
  refine leads_ite (fun _ => keeps_pure () before) fun _ => ?_
  refine leads_ite (fun _ => keeps_pure () before) fun epoch => ?_
  refine leads_ite (fun positive => ?_) fun zero => ?_
  · have first : parts.epoch = 1 := by
      rw [not_not] at epoch
      split_ifs at epoch <;> omega
    cases client.transform with
    | none => exact keeps_pure () before
    | some transform => exact delivers_handleProtected primitives transform first _ before
  · exact delivers_handlePayload primitives (fun _ => .inl (by omega)) _ _ before

theorem delivers_returnQueued (capacity : ℕ) :
    Keeps (Delivers primitives) (returnQueued capacity) := by
  apply keeps_returnQueued
  · intro client payload rest waiting sound
    exact sound.take waiting (List.take_prefix _ _).isInfix
      fun _ piece => (List.mem_singleton.mp piece).symm ▸ (List.drop_suffix _ _).isInfix
  · intro client payload rest waiting sound
    exact sound.take waiting List.infix_rfl (List.forall_mem_nil _)

theorem delivers_records : RecordRelation primitives (Delivers primitives) where
  record := delivers_handleRecord primitives
  waiting _ _ := delivers_of_same rfl
  returned := delivers_returnQueued primitives
  hello client _ := by
    refine keeps_bind (delivers_of_sends (sends_sendClientHello primitives [])) (fun _ => ?_) client
    exact delivers_of_negotiates (negotiates_of_reacts (reacts_enter _))

theorem delivers_perform (call : PskCall) (client : DtlsPskClient) :
    Delivers primitives client (call.perform primitives client) :=
  (delivers_records primitives).perform fun sends =>
    delivers_of_same ((sends_perform sends client).same deliveries fun _ => rfl)

theorem delivers_run (calls : List PskCall) (client : DtlsPskClient) :
    Delivers primitives client (Machine.run (PskCall.perform primitives) calls client) := by
  induction calls generalizing client with
  | nil => exact refl_of (Delivers primitives) client
  | cons call calls ih =>
      exact trans_of (Delivers primitives) (delivers_perform primitives call client) (ih _)

variable {primitives}

theorem onlyVerified_iff (sound : client.deliveries.Sound primitives) :
    client.OnlyVerifiedData primitives ↔
      ∀ opened ∈ client.history.opened, opened.contentType = ctApplicationData →
        opened.payload ≠ [] → opened.state = .established := by
  have queued : client.history.queued = client.history.opened.filterMap OpenedRecord.data? :=
    sound.queued
  constructor
  · intro only opened openedMem data nonempty
    have isQueued : opened.data? =
        some ⟨opened.payload, opened.epoch, opened.seq, opened.state⟩ := if_pos ⟨data, nonempty⟩
    have onQueue : _ ∈ client.history.queued :=
      queued ▸ List.mem_filterMap.mpr ⟨opened, openedMem, isQueued⟩
    exact (only.1 _ onQueue).2.1
  · intro verified
    have came : ∀ record ∈ client.history.queued, client.CameVerified primitives record := by
      intro record recordMem
      rw [queued] at recordMem
      rcases List.mem_filterMap.mp recordMem with ⟨opened, openedMem, data⟩
      rcases sound.authentic opened openedMem with ⟨authentic, first⟩
      refine ⟨?_, ?_, opened, openedMem, authentic, data⟩
      all_goals
        unfold OpenedRecord.data? at data
        split_ifs at data with isData
        cases data
      · exact first
      · exact verified opened openedMem isData.1 isData.2
    refine ⟨came, fun piece pieceMem => ?_⟩
    rcases sound.returned piece pieceMem with ⟨record, recordMem, part⟩
    exact ⟨record, recordMem, came record recordMem, part⟩

end DtlsPskClient

/--
What is queued for `recv` and what it returns came in authentic records of the protected
epoch after the server's Finished, exactly when no record with application data is opened
before that.
-/
theorem only_verified_data (primitives : Primitives) {identity key : ByteString} {mtu : ℕ}
    {fresh : DtlsPskClient} (created : DtlsPskClient.create identity key mtu = .ok fresh)
    (calls : List PskCall) :
    let client := Machine.run (PskCall.perform primitives) calls fresh
    client.OnlyVerifiedData primitives ↔
      ∀ opened ∈ client.history.opened, opened.contentType = ctApplicationData →
        opened.payload ≠ [] → opened.state = .established := by
  intro client
  apply DtlsPskClient.onlyVerified_iff
  apply DtlsPskClient.delivers_run
  rcases DtlsPskClient.create_eq_ok.mp created with ⟨-, -, -, rfl⟩
  exact {
    authentic := nofun
    queued := rfl
    appdata := nofun
    returned := nofun }

/-- The calls of a client whose server sends data before its Finished. -/
def earlyData : List PskCall :=
  let changes := Recording.Sample.record ctChangeCipherSpec 0 1 [1]
  [.doHandshake,
    .bioWrite (Recording.Sample.record ctHandshake 0 0 Recording.Sample.serverMessages),
    .doHandshake, .bioWrite (changes ++ Recording.Sample.protectedRecord ctApplicationData 1 2),
    .doHandshake, .recv 64]

/-- The early payload is queued and returned while the server's Finished is awaited. -/
private theorem earlyData_run {client : DtlsPskClient}
    (reached : client = Machine.run (PskCall.perform Recording.sample.primitives) earlyData
      { identity := Recording.Sample.identity, psk := Recording.Sample.psk }) :
    client.state = .sentClientFlight ∧ client.history.returned = [[5, 6]] ∧
      client.history.queued = [⟨[5, 6], 1, 1, .sentClientFlight⟩] := by
  rw [reached]
  decide +kernel

theorem only_verified_data_example :
    let primitives := Recording.sample.primitives
    let fresh : DtlsPskClient :=
      { identity := Recording.Sample.identity, psk := Recording.Sample.psk }
    let client := Machine.run (PskCall.perform primitives) earlyData fresh
    client.history.returned = [[5, 6]] ∧
      (client.OnlyVerifiedData primitives ↔
        ∀ opened ∈ client.history.opened, opened.contentType = ctApplicationData →
          opened.payload ≠ [] → opened.state = .established) := by
  intro primitives fresh client
  have created : DtlsPskClient.create Recording.Sample.identity Recording.Sample.psk 1400 =
      .ok fresh := rfl
  have reached : client = Machine.run (PskCall.perform primitives) earlyData fresh := rfl
  have onlyWhen := only_verified_data primitives created earlyData
  rw [← reached] at onlyWhen
  clear_value client
  exact ⟨(earlyData_run reached).2.1, onlyWhen⟩

/-- Data that comes with the ChangeCipherSpec is returned while the Finished is awaited. -/
theorem early_data_is_returned :
    let primitives := Recording.sample.primitives
    let fresh : DtlsPskClient :=
      { identity := Recording.Sample.identity, psk := Recording.Sample.psk }
    let client := Machine.run (PskCall.perform primitives) earlyData fresh
    client.state = .sentClientFlight ∧ [5, 6] ∈ client.history.returned ∧
      ¬client.OnlyVerifiedData primitives := by
  intro primitives fresh client
  have reached : client = Machine.run (PskCall.perform primitives) earlyData fresh := rfl
  clear_value client
  rcases earlyData_run reached with ⟨state, returned, queued⟩
  refine ⟨state, returned ▸ List.mem_singleton_self _, fun only => ?_⟩
  have came := only.1 _ (queued ▸ List.mem_singleton_self _)
  exact absurd came.2.1 (by decide)

end SmartThingsLocal
