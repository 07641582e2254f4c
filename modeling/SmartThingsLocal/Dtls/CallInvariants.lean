import SmartThingsLocal.Dtls.MethodFrames

/-!
# From records and handshake payloads to calls

A relation that the handling of every record and the first ClientHello keep is kept by
every call that reads. Reading records changes the queues, the read epoch and its windows
around the handling of a handshake payload, so for a relation that does not see these the
handshake payloads are enough.
-/

namespace SmartThingsLocal

open Dtls Stateful

/-- The calls that do not read records. -/
def PskCall.sends : PskCall → Bool
  | .bioWrite _ | .doHandshake | .recv _ => false
  | .bioRead _ | .send _ | .shutdown | .getTimeout | .handleTimeout => true

namespace DtlsPskClient

theorem sends_perform {primitives : Primitives} {call : PskCall} (sends : call.sends = true)
    (client : DtlsPskClient) : Sends client (call.perform primitives client) := by
  cases call with
  | bioRead capacity => exact keeps_discard (sends_bioRead capacity) client
  | send data => exact keeps_discard ((sends_emission primitives).keeps_send data) client
  | shutdown => exact (sends_emission primitives).keeps_shutdown client
  | getTimeout => exact keeps_discard (sends_emission primitives).keeps_getTimeout client
  | handleTimeout => exact sends_handleTimeout primitives client
  | bioWrite | doHandshake | recv => cases sends

/-- A relation that the handling of every record keeps, whatever waits to be read. -/
structure RecordRelation (primitives : Primitives)
    (relation : DtlsPskClient → DtlsPskClient → Prop) : Prop where
  record : ∀ record, Keeps relation (handleRecord primitives record)
  waiting : ∀ client inbox, relation client { client with inbox }
  returned : ∀ capacity, Keeps relation (returnQueued capacity)
  hello : ∀ client, client.state = .start →
    Leads relation (do sendClientHello primitives []; enter .sentHello) client

namespace RecordRelation

variable {primitives : Primitives} {relation : DtlsPskClient → DtlsPskClient → Prop}
  [Std.Refl relation] [IsTrans DtlsPskClient relation]

theorem keeps_handleRecords (records : RecordRelation primitives relation)
    (list : List ByteString) : Keeps relation (handleRecords primitives list) := by
  induction list with
  | nil => exact keeps_pure true
  | cons record list ih =>
      apply keeps_bind (records.record record)
      intro _
      exact keeps_get_bind fun _ => keeps_ite (keeps_pure false) ih

theorem keeps_drainInbox (records : RecordRelation primitives relation) (count : ℕ) :
    Keeps relation (drainInbox primitives count) := by
  induction count with
  | zero => exact keeps_pure ()
  | succ count ih =>
      intro client
      apply leads_get_bind
      rcases client.inbox with _ | ⟨datagram, rest⟩
      · exact refl_of relation client
      · refine leads_set_bind (records.waiting client rest) ?_
        refine keeps_bind (records.keeps_handleRecords _) (fun goesOn => ?_) _
        exact keeps_ite ih (keeps_pure ())

theorem keeps_drain (records : RecordRelation primitives relation) :
    Keeps relation (drain primitives) :=
  keeps_get_bind fun _ => records.keeps_drainInbox _

theorem keeps_doHandshake (records : RecordRelation primitives relation) :
    Keeps relation (doHandshake primitives) := by
  intro client
  apply leads_get_bind
  refine leads_ite (fun _ => keeps_raiseFailed client) fun _ => ?_
  refine leads_ite (fun _ => refl_of relation client) fun _ => ?_
  refine leads_bind (leads_ite (fun start => records.hello client start) fun _ =>
    refl_of relation client) fun _ after _ => ?_
  refine keeps_bind records.keeps_drain (fun _ => keeps_get_bind fun _ => ?_) after
  exact keeps_ite keeps_raiseFailed (keeps_ite (keeps_throw _) (keeps_pure ()))

theorem keeps_recv (records : RecordRelation primitives relation) (capacity : ℕ) :
    Keeps relation (recv primitives capacity) := by
  apply keeps_get_bind
  intro client
  exact keeps_bind (keeps_when records.keeps_drain) fun _ => records.returned capacity

omit [IsTrans DtlsPskClient relation] in
theorem keeps_bioWrite (records : RecordRelation primitives relation) (datagram : ByteString) :
    Keeps relation (bioWrite datagram) := by
  intro client
  refine leads_get_bind (leads_ite (fun _ => ?_) fun _ => ?_)
  · exact refl_of relation client
  · exact records.waiting client _

/-- Every call keeps the relation when those that only send do. -/
theorem perform (records : RecordRelation primitives relation) {call : PskCall}
    {client : DtlsPskClient}
    (sending : call.sends = true → relation client (call.perform primitives client)) :
    relation client (call.perform primitives client) := by
  cases call with
  | bioWrite datagram => exact keeps_discard (records.keeps_bioWrite datagram) client
  | doHandshake => exact records.keeps_doHandshake client
  | recv capacity => exact keeps_discard (records.keeps_recv capacity) client
  | bioRead capacity => exact sending rfl
  | send data => exact sending rfl
  | shutdown => exact sending rfl
  | getTimeout => exact sending rfl
  | handleTimeout => exact sending rfl

end RecordRelation

/-! ### Handshake payloads -/

/-- A client without what reading records changes around their handshake payloads. -/
def withoutReading (client : DtlsPskClient) : DtlsPskClient :=
  { client with
    inbox := [], appdata := [], recvWindows := .empty, readActive := false, peerClosed := false,
    failed := none,
    history := { client.history with opened := [], queued := [], returned := [] } }

/-- Nothing changes but what reading records changes. -/
def Reads (before after : DtlsPskClient) : Prop := after.withoutReading = before.withoutReading

instance : Std.Refl Reads := ⟨fun _ => rfl⟩

instance : IsTrans DtlsPskClient Reads := ⟨fun _ _ _ before after => after.trans before⟩

/-- What reading records does not change stays the same. -/
theorem Reads.same {α : Type} {before after : DtlsPskClient} (view : DtlsPskClient → α)
    (blind : ∀ client, view client.withoutReading = view client) (reads : Reads before after) :
    view after = view before := by
  rw [← blind after, ← blind before, show after.withoutReading = before.withoutReading from reads]

theorem reads_fail (reason : String) : Keeps Reads (fail reason) := fun _ => rfl

theorem reads_handleChangeCipherSpec (payload : ByteString) :
    Keeps Reads (handleChangeCipherSpec payload) := by
  apply keeps_modify
  intro client
  split_ifs <;> rfl

theorem reads_handleAlert (payload : ByteString) (authenticated : Bool) :
    Keeps Reads (handleAlert payload authenticated) := by
  rcases payload with _ | ⟨level, _ | ⟨description, rest⟩⟩
  · exact keeps_pure ()
  · exact keeps_pure ()
  · apply keeps_ite
    · exact keeps_ite (keeps_modify fun _ => rfl) (keeps_pure ())
    · exact keeps_ite (reads_fail _) (keeps_pure ())

theorem reads_queueApplicationData (epoch seq : ℕ) (payload : ByteString) :
    Keeps Reads (queueApplicationData epoch seq payload) := by
  apply keeps_modify
  intro client
  split_ifs <;> rfl

theorem reads_returnQueued (capacity : ℕ) : Keeps Reads (returnQueued capacity) :=
  keeps_returnQueued (fun _ _ _ _ => rfl) fun _ _ _ _ => rfl

/-- A relation that the handling of handshake payloads keeps, and that does not see the rest. -/
structure Lifts (primitives : Primitives) (relation : DtlsPskClient → DtlsPskClient → Prop) :
    Prop where
  reads : ∀ before after, Reads before after → relation before after
  payload : ∀ payload authenticated helloVerifyOnly,
    Keeps relation (handleHandshakeFragment primitives payload authenticated helloVerifyOnly)
  hello : ∀ client, client.state = .start →
    Leads relation (do sendClientHello primitives []; enter .sentHello) client

namespace Lifts

variable {primitives : Primitives} {relation : DtlsPskClient → DtlsPskClient → Prop}

theorem keeps_of_reads {α : Type} {computation : Psk α} (lifts : Lifts primitives relation)
    (reads : Keeps Reads computation) : Keeps relation computation :=
  reads.mono lifts.reads

variable [Std.Refl relation]

theorem keeps_handlePayload (lifts : Lifts primitives relation) (contentType : UInt8)
    (epoch seq : ℕ) (helloVerifyOnly : Bool) (payload : ByteString) :
    Keeps relation
      (handlePayload primitives contentType epoch seq helloVerifyOnly payload) := by
  apply keeps_ite (lifts.payload payload _ _)
  apply keeps_ite (lifts.keeps_of_reads (reads_handleChangeCipherSpec payload))
  apply keeps_ite (lifts.keeps_of_reads (reads_handleAlert payload _))
  exact keeps_ite (lifts.keeps_of_reads (reads_queueApplicationData epoch seq payload))
    (keeps_pure ())

variable [IsTrans DtlsPskClient relation]

theorem keeps_handleProtected (lifts : Lifts primitives relation) (transform : Transform)
    (parts : RecordParts) (helloVerifyOnly : Bool) :
    Keeps relation (handleProtected primitives transform parts helloVerifyOnly) := by
  intro client
  apply leads_get_bind
  refine leads_set_bind (lifts.reads _ _ rfl) ?_
  refine leads_ite (fun _ => refl_of relation _) fun _ => ?_
  refine keeps_bind (keeps_python _) (fun payload => ?_) _
  cases payload with
  | none => exact keeps_pure ()
  | some payload =>
      refine keeps_bind (keeps_modify fun client => lifts.reads _ _ rfl) fun _ => ?_
      exact lifts.keeps_handlePayload _ _ _ _ payload

theorem keeps_handleRecord (lifts : Lifts primitives relation) (record : ByteString) :
    Keeps relation (handleRecord primitives record) := by
  apply keeps_get_bind
  intro client
  apply keeps_bind (keeps_python _)
  intro parts
  apply keeps_ite (keeps_pure ())
  apply keeps_ite (keeps_pure ())
  apply keeps_ite
  · cases client.transform with
    | none => exact keeps_pure ()
    | some transform => exact lifts.keeps_handleProtected transform parts _
  · exact lifts.keeps_handlePayload _ _ _ _ parts.fragment

theorem records (lifts : Lifts primitives relation) : RecordRelation primitives relation where
  record := lifts.keeps_handleRecord
  waiting _ _ := lifts.reads _ _ rfl
  returned capacity := lifts.keeps_of_reads (reads_returnQueued capacity)
  hello := lifts.hello

end Lifts

end DtlsPskClient

end SmartThingsLocal
