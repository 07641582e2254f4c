import SmartThingsLocal.Dtls.CallInvariants
import SmartThingsLocal.Dtls.HandshakeRefinement
import SmartThingsLocal.Foundation.Contracts

/-!
# Record numbers

A record carries its epoch and sequence number. Records that are made get fresh numbers,
over the change of the epoch too; the retransmission timer appends the records of the last
flight as they are, so their numbers are used again.
-/

namespace SmartThingsLocal

open Dtls Stateful

/-- The epoch and the sequence number that a record carries. -/
def recordNumber (record : ByteString) : ℕ × ℕ :=
  (ByteString.toNat ((record.drop 3).take 2), ByteString.toNat ((record.drop 5).take 6))

/-- What the numbers of records depend on; `flights` counts the flights with the new epoch. -/
structure Numbering where
  emitted : List ByteString
  flight : List ByteString
  epoch : ℕ
  seq : ℕ
  flights : ℕ

namespace Numbering

/-- The numbers are distinct and below the next one, and the stored flight has been sent. -/
structure Fresh (numbering : Numbering) : Prop where
  distinct : (numbering.emitted.map recordNumber).Nodup
  below : ∀ record ∈ numbering.emitted, (recordNumber record).1 < numbering.epoch ∨
    (recordNumber record).1 = numbering.epoch ∧ (recordNumber record).2 < numbering.seq
  flight_sent : ∀ record ∈ numbering.flight, record ∈ numbering.emitted
  epoch_le : numbering.epoch ≤ numbering.flights

/-- Numbers stay fresh while there is at most one flight with the new epoch. -/
structure Grows (before after : Numbering) : Prop where
  emitted : before.emitted <+: after.emitted
  flights : before.flights ≤ after.flights
  fresh : after.flights ≤ 1 → before.Fresh → after.Fresh

theorem Grows.refl (numbering : Numbering) : Grows numbering numbering :=
  ⟨List.prefix_refl _, le_rfl, fun _ fresh => fresh⟩

theorem Grows.trans {first second third : Numbering} (before : Grows first second)
    (after : Grows second third) : Grows first third :=
  ⟨before.emitted.trans after.emitted, before.flights.trans after.flights,
    fun flights fresh => after.fresh flights (before.fresh (after.flights.trans flights) fresh)⟩

/-- A record with the next number. -/
theorem Fresh.append {numbering : Numbering} (fresh : numbering.Fresh) {record : ByteString}
    (number : recordNumber record = (numbering.epoch, numbering.seq)) :
    Fresh { numbering with
      emitted := numbering.emitted ++ [record], seq := numbering.seq + 1 } where
  distinct := by
    rw [List.map_append, List.map_singleton, List.nodup_append]
    refine ⟨fresh.distinct, List.nodup_singleton _, fun used usedMem new newMem same => ?_⟩
    rcases List.mem_map.mp usedMem with ⟨sent, sentMem, rfl⟩
    rw [List.mem_singleton, number] at newMem
    rw [newMem, Prod.ext_iff] at same
    rcases fresh.below sent sentMem with lower | ⟨-, lower⟩
    · exact lower.ne same.1
    · exact lower.ne same.2
  below sent sentMem := by
    rcases List.mem_append.mp sentMem with earlier | last
    · exact (fresh.below sent earlier).imp_right fun ⟨epoch, lower⟩ =>
        ⟨epoch, lower.trans (Nat.lt_succ_self _)⟩
    · rw [List.mem_singleton.mp last, number]
      exact .inr ⟨rfl, Nat.lt_succ_self _⟩
  flight_sent sent sentMem := List.mem_append_left _ (fresh.flight_sent sent sentMem)
  epoch_le := fresh.epoch_le

/-- A number that is passed over. -/
theorem Fresh.skip {numbering : Numbering} (fresh : numbering.Fresh) :
    Fresh { numbering with seq := numbering.seq + 1 } where
  distinct := fresh.distinct
  below sent sentMem :=
    (fresh.below sent sentMem).imp_right fun ⟨epoch, lower⟩ =>
      ⟨epoch, lower.trans (Nat.lt_succ_self _)⟩
  flight_sent := fresh.flight_sent
  epoch_le := fresh.epoch_le

/-- A flight that is given up, or another one whose records have been sent. -/
theorem Fresh.withFlight {numbering : Numbering} (fresh : numbering.Fresh)
    {flight : List ByteString} (sent : ∀ record ∈ flight, record ∈ numbering.emitted) :
    Fresh { numbering with flight } :=
  { fresh with flight_sent := sent }

/-- The first epoch ends with the flight that starts the second. -/
theorem Fresh.nextEpoch {numbering : Numbering} (fresh : numbering.Fresh)
    (first : numbering.epoch = 0) (flown : 1 ≤ numbering.flights) :
    Fresh { numbering with epoch := 1, seq := 0 } where
  distinct := fresh.distinct
  below sent sentMem := by
    rcases fresh.below sent sentMem with lower | ⟨same, -⟩
    · omega
    · exact .inl (by show _ < 1; omega)
  flight_sent := fresh.flight_sent
  epoch_le := flown

end Numbering

namespace DtlsPskClient

/-- How often a client has made the flight with the new epoch. -/
def flights (client : DtlsPskClient) : ℕ := client.history.phases.count .clientFlight

def numbering (client : DtlsPskClient) : Numbering where
  emitted := client.history.emitted
  flight := client.flight
  epoch := client.sendEpoch
  seq := client.sendSeq
  flights := client.flights

/-- Numbers are handed out as they should be. -/
def Numbers (before after : DtlsPskClient) : Prop :=
  Numbering.Grows before.numbering after.numbering

/-- Nothing that numbers depend on changes. -/
def SameNumbering (before after : DtlsPskClient) : Prop := after.numbering = before.numbering

instance : Std.Refl Numbers := ⟨fun client => Numbering.Grows.refl client.numbering⟩

instance : IsTrans DtlsPskClient Numbers := ⟨fun _ _ _ before after => before.trans after⟩

instance : Std.Refl SameNumbering := ⟨fun _ => rfl⟩

instance : IsTrans DtlsPskClient SameNumbering := ⟨fun _ _ _ before after => after.trans before⟩

theorem SameNumbering.numbers {before after : DtlsPskClient} (same : SameNumbering before after) :
    Numbers before after := by
  unfold Numbers
  rw [same]
  exact Numbering.Grows.refl _

theorem numbers_of_same {α : Type} {computation : Psk α} (same : Keeps SameNumbering computation) :
    Keeps Numbers computation :=
  same.mono fun _ _ => SameNumbering.numbers

variable (primitives : Primitives)

/-! ### Emission -/

theorem recordNumber_header (contentType : UInt8) {epoch seq : ByteString}
    (length rest : ByteString) (epochLength : epoch.length = 2) (seqLength : seq.length = 6) :
    recordNumber (contentType :: version ++ epoch ++ seq ++ length ++ rest) =
      (ByteString.toNat epoch, ByteString.toNat seq) := by
  unfold recordNumber
  simp [version, List.drop_append, epochLength, seqLength]

theorem numbers_failed {α : Type} (reason : String) :
    Keeps Numbers (do fail reason; raiseFailed : Psk α) :=
  keeps_bind (numbers_of_same fun _ => rfl) fun _ => keeps_raiseFailed

/-- A record that is made gets the next number. -/
theorem numbers_emitRecord (contentType : UInt8) (payload : ByteString) :
    Keeps Numbers (emitRecord primitives contentType payload) := by
  intro client
  apply leads_get_bind
  refine leads_ite (fun _ => numbers_failed _ client) fun _ => ?_
  have same_draw : Keeps SameNumbering draw := fun _ => rfl
  refine leads_bind_of_keeps (keeps_protectFragment primitives same_draw contentType payload)
    (fun _ _ => SameNumbering.numbers) fun fragment middle same => ?_
  refine leads_python_bind fun epoch packedEpoch => ?_
  refine leads_python_bind fun seq packedSeq => ?_
  refine leads_python_bind fun length _ => ?_
  have number : recordNumber (contentType :: version ++ epoch ++ seq ++ length ++ fragment) =
      (middle.sendEpoch, middle.sendSeq) := by
    rcases packH_eq_ok.mp packedEpoch with ⟨epochFits, rfl⟩
    rcases toBytes_eq_ok.mp packedSeq with ⟨seqFits, rfl⟩
    have sameEpoch : middle.sendEpoch = client.sendEpoch := congrArg Numbering.epoch same
    have sameSeq : middle.sendSeq = client.sendSeq := congrArg Numbering.seq same
    rw [recordNumber_header _ _ _ (ByteString.length_ofNat _ _) (ByteString.length_ofNat _ _),
      ByteString.toNat_ofNat (by omega), ByteString.toNat_ofNat seqFits, sameEpoch, sameSeq]
  generalize contentType :: version ++ epoch ++ seq ++ length ++ fragment = record at number
  dsimp only
  by_cases overflows : client.outbox.length + record.length > maxOutbox
  · rw [if_pos overflows]
    refine leads_modify_bind ⟨List.prefix_refl _, le_rfl, fun _ fresh => fresh.skip⟩ ?_
    exact numbers_failed _ _
  · rw [if_neg overflows]
    -- the number is used in the step after the one that counts it
    have appended : Numbers middle (exec (append record)
        { middle with sendSeq := middle.sendSeq + 1 }).2 :=
      ⟨List.prefix_append _ _, le_rfl, fun _ fresh => fresh.append number⟩
    by_cases kept : contentType = ctHandshake ∨ contentType = ctChangeCipherSpec
    · rw [if_pos kept]
      show Numbers middle _
      refine trans_of Numbers appended ?_
      refine ⟨List.prefix_refl _, le_rfl, fun _ fresh => ?_⟩
      refine fresh.withFlight fun sent sentMem => ?_
      rcases List.mem_append.mp sentMem with earlier | last
      · exact fresh.flight_sent sent earlier
      · rw [List.mem_singleton.mp last]
        exact List.mem_append_right _ (List.mem_singleton_self record)
    · rw [if_neg kept]
      exact appended

theorem numbers_startFlight : Keeps Numbers startFlight :=
  keeps_modify fun _ => ⟨List.prefix_refl _, le_rfl, fun _ fresh => fresh.withFlight nofun⟩

theorem numbers_emission : EmissionRelation primitives Numbers where
  drawn := numbers_of_same fun _ => rfl
  emitted := numbers_emitRecord primitives
  begun := numbers_startFlight
  numbered _ _ _ := SameNumbering.numbers rfl
  clientRandom _ _ := SameNumbering.numbers rfl

theorem numbers_emitHandshake (msgType : UInt8) (body : ByteString) :
    Keeps Numbers (emitHandshake primitives msgType body) :=
  (numbers_emission primitives).keeps_emitHandshake msgType body

theorem numbers_sendClientHello (cookie : ByteString) :
    Keeps Numbers (sendClientHello primitives cookie) :=
  (numbers_emission primitives).keeps_sendClientHello cookie

/-! ### Handlers -/

theorem same_enter (state : HandshakeState) : Keeps SameNumbering (enter state) := by
  apply keeps_modify
  intro client
  simp [SameNumbering, numbering, flights]

theorem same_fail (reason : String) : Keeps SameNumbering (fail reason) := fun _ => rfl

/-- Records are made in the same epoch. -/
def Stays (before after : DtlsPskClient) : Prop :=
  Numbers before after ∧ after.sendEpoch = before.sendEpoch ∧ after.flights = before.flights

instance : Std.Refl Stays := ⟨fun client => ⟨refl_of Numbers client, rfl, rfl⟩⟩

instance : IsTrans DtlsPskClient Stays :=
  ⟨fun _ _ _ before after => ⟨trans_of Numbers before.1 after.1, after.2.1.trans before.2.1,
    after.2.2.trans before.2.2⟩⟩

theorem stays_of_sends {α : Type} {computation : Psk α} (sends : Keeps Sends computation)
    (numbers : Keeps Numbers computation) : Keeps Stays computation := by
  intro client
  have sent : Sends client (exec computation client).2 := sends client
  refine ⟨numbers client, ?_, ?_⟩
  · exact sent.same DtlsPskClient.sendEpoch fun _ => rfl
  · exact sent.same flights fun _ => rfl

/-- The flight with the new epoch: numbers start again, above those of the epoch before. -/
theorem numbers_sendClientFlight : Keeps Numbers (sendClientFlight primitives) := by
  intro client
  rw [leads_iff_ensures]
  unfold sendClientFlight
  refine ensures_modify_bind ?_
  generalize noted : ({ client with history := { client.history with
    phases := client.history.phases ++ [.clientFlight] } } : DtlsPskClient) = flown
  have numbering : flown.numbering =
      { client.numbering with flights := client.numbering.flights + 1 } := by
    rw [← noted]
    simp [DtlsPskClient.numbering, flights]
  have back (after : DtlsPskClient) (stays : Stays flown after) : Numbers client after := by
    have grows : Numbering.Grows flown.numbering after.numbering := stays.1
    rw [numbering] at grows
    refine ⟨grows.emitted, (Nat.le_succ _).trans grows.flights, fun few fresh => ?_⟩
    exact grows.fresh few { fresh with epoch_le := fresh.epoch_le.trans (Nat.le_succ _) }
  have step {α : Type} {computation : Psk α} {next : α → Psk Unit} {state : DtlsPskClient}
      (keeps : Keeps Stays computation) (stays : Stays flown state)
      (rest : ∀ value after, Stays flown after → Ensures (fun _ after => Numbers client after)
        (fun _ after => Numbers client after) (next value) after) :
      Ensures (fun _ after => Numbers client after) (fun _ after => Numbers client after)
        (computation >>= next) state :=
    ensures_bind (ensures_of_keeps keeps
      (fun value after stayed => rest value after (trans_of Stays stays stayed))
      fun _ after stayed => back after (trans_of Stays stays stayed))
  refine step (stays_of_sends sends_startFlight numbers_startFlight) (refl_of Stays flown)
    fun _ started stays => ?_
  refine ensures_get_bind ?_
  refine step (keeps_python _) stays fun privateKey _ stays => ?_
  refine step (keeps_python _) stays fun identityLength _ stays => ?_
  refine step (keeps_python _) stays fun publicLength _ stays => ?_
  refine step (stays_of_sends (sends_emitHandshake primitives _ _)
    (numbers_emitHandshake primitives _ _)) stays fun _ _ stays => ?_
  refine step (keeps_python _) stays fun peer _ stays => ?_
  refine step (keeps_python _) stays fun masterSecret _ stays => ?_
  refine step (keeps_modify fun _ => refl_of Stays _) stays fun _ _ stays => ?_
  refine step (stays_of_sends (sends_emitRecord primitives _ _)
    (numbers_emitRecord primitives _ _)) stays fun _ changed stays => ?_
  refine ensures_modify_bind (ensures_get_bind ?_)
  -- there is one such flight, so the epoch before was the first
  have next : Numbers client { changed with
      transform := some (Transform.ofKeyBlock (prf primitives masterSecret (ascii "key expansion")
        (started.serverRandom ++ started.clientRandom) (macLen * 2 + keyLen * 2))),
      sendEpoch := 1, sendSeq := 0 } := by
    have kept := back changed stays
    have flightCount : changed.numbering.flights = client.numbering.flights + 1 :=
      stays.2.2.trans (congrArg Numbering.flights numbering)
    have sameEpoch : changed.sendEpoch = client.sendEpoch :=
      stays.2.1.trans (congrArg Numbering.epoch numbering)
    refine ⟨kept.emitted, kept.flights, fun few fresh => ?_⟩
    have few : changed.numbering.flights ≤ 1 := few
    have first : changed.numbering.epoch = 0 := by
      have bound := fresh.epoch_le
      rw [show client.numbering.epoch = changed.numbering.epoch from sameEpoch.symm] at bound
      omega
    exact (kept.fresh few fresh).nextEpoch first (by omega)
  exact ensures_of_keeps (numbers_emitHandshake primitives _ _)
    (fun _ _ finished => trans_of Numbers next finished)
    fun _ _ finished => trans_of Numbers next finished

theorem numbers_exchange : ExchangeRelation primitives Numbers where
  refused reason := numbers_of_same (same_fail reason)
  entered state := numbers_of_same (same_enter state)
  recorded _ := numbers_of_same fun _ => rfl
  drawn := numbers_of_same fun _ => rfl
  serverRandom _ _ := SameNumbering.numbers rfl
  serverParams _ _ _ := SameNumbering.numbers rfl
  clientFlight := numbers_sendClientFlight primitives
  finished _ _ _ _ _ :=
    SameNumbering.numbers (by simp [SameNumbering, numbering, flights])
  settled _ := ⟨List.prefix_refl _, le_rfl, fun _ fresh => fresh.withFlight nofun⟩

/-! ### Handshake messages -/

theorem numbers_answer (cookie : ByteString) (msgSeq : ℕ) :
    Keeps Numbers (handleHelloVerifyRequest.answer primitives msgSeq cookie) := by
  refine keeps_bind (keeps_modify fun _ => SameNumbering.numbers rfl) fun _ => ?_
  exact keeps_bind (numbers_sendClientHello primitives cookie)
    fun _ => numbers_of_same (same_enter _)

theorem numbers_deliverHandshake (msgType : UInt8) (msgSeq : ℕ) (body : ByteString) :
    Keeps Numbers (deliverHandshake primitives msgType msgSeq body) := by
  rw [deliverHandshake_eq]
  refine keeps_bind (keeps_modify fun _ => SameNumbering.numbers rfl) fun _ => ?_
  exact (numbers_exchange primitives).keeps_handleMessage msgType msgSeq body

theorem numbers_lift : Lifts primitives Numbers where
  reads _ _ reads := SameNumbering.numbers (reads.same numbering fun _ => rfl)
  payload := MessageRelation.keeps_handleHandshakeFragment {
    refused := fun reason => numbers_of_same (same_fail reason)
    stored := fun _ _ => SameNumbering.numbers rfl
    helloVerify := keeps_handleHelloVerifyRequest primitives
      (fun _ _ => SameNumbering.numbers rfl) (fun reason => numbers_of_same (same_fail reason))
      (numbers_answer primitives)
    reassembled := fun _ _ _ _ => (collects_reassemble _ _ _ _).mono fun _ _ collects =>
      SameNumbering.numbers (collects.same numbering fun _ => rfl)
    delivered := numbers_deliverHandshake primitives }
  hello client _ :=
    keeps_bind (numbers_sendClientHello primitives [])
      (fun _ => numbers_of_same (same_enter _)) client

/-! ### Calls -/

theorem same_bioRead (capacity : ℕ) : Keeps SameNumbering (bioRead capacity) :=
  fun _ => leads_get_bind (leads_ite (fun _ => rfl) fun _ => rfl)

/-- A call does not send a stored flight again. -/
def RetransmitsNothing (client : DtlsPskClient) (call : PskCall) : Prop :=
  call = .handleTimeout → client.flight = [] ∨ client.flightDeadline = none

instance (client : DtlsPskClient) (call : PskCall) : Decidable (RetransmitsNothing client call) :=
  inferInstanceAs (Decidable (_ → _))

theorem numbers_perform {client : DtlsPskClient} {call : PskCall}
    (nothing : RetransmitsNothing client call) :
    Numbers client (call.perform primitives client) := by
  refine (numbers_lift primitives).records.perform fun sends => ?_
  cases call with
  | bioRead capacity => exact keeps_discard (numbers_of_same (same_bioRead capacity)) client
  | send data => exact keeps_discard ((numbers_emission primitives).keeps_send data) client
  | shutdown => exact (numbers_emission primitives).keeps_shutdown client
  | getTimeout => exact keeps_discard (numbers_emission primitives).keeps_getTimeout client
  | handleTimeout =>
      show Leads Numbers (handleTimeout primitives) client
      apply leads_get_bind
      exact leads_ite (fun _ => keeps_pure () client) fun stored => absurd (nothing rfl) stored
  | bioWrite | doHandshake | recv => cases sends

theorem exec_forM_append (records : List ByteString) (client : DtlsPskClient) :
    exec (records.forM append) client = (.ok (), { client with
      outbox := client.outbox ++ records.flatten
      history := { client.history with emitted := client.history.emitted ++ records } }) := by
  induction records generalizing client with
  | nil =>
      show (Except.ok (), client) = _
      simp only [List.flatten_nil, List.append_nil]
  | cons record records ih =>
      have appended : (exec (append record) client).2 = { client with
          outbox := client.outbox ++ record
          history := { client.history with
            emitted := client.history.emitted ++ [record] } } := rfl
      show exec (records.forM append) (exec (append record) client).2 = _
      simp only [ih, appended, List.flatten_cons, List.append_assoc, List.singleton_append]

/-- The timer appends the records of the stored flight as they are. -/
theorem emitted_handleTimeout {client : DtlsPskClient}
    (stored : ¬(client.flight = [] ∨ client.flightDeadline = none)) :
    (PskCall.handleTimeout.perform primitives client).history.emitted =
      client.history.emitted ++ client.flight := by
  show (exec (handleTimeout primitives) client).2.history.emitted = _
  unfold handleTimeout
  rw [exec_get_bind, if_neg stored, exec_bind, exec_forM_append]
  rfl

/-- What has been sent stays on record. -/
theorem grows_perform (call : PskCall) (client : DtlsPskClient) :
    client.history.emitted <+: (call.perform primitives client).history.emitted ∧
      client.flights ≤ (call.perform primitives client).flights := by
  by_cases nothing : RetransmitsNothing client call
  · have numbers := numbers_perform primitives nothing
    exact ⟨numbers.emitted, numbers.flights⟩
  · rcases Classical.not_imp.mp nothing with ⟨rfl, stored⟩
    rw [emitted_handleTimeout primitives stored]
    refine ⟨List.prefix_append _ _, le_of_eq ?_⟩
    exact ((sends_perform rfl client).same flights fun _ => rfl).symm

theorem grows_run (calls : List PskCall) (client : DtlsPskClient) :
    client.history.emitted <+:
        (Machine.run (PskCall.perform primitives) calls client).history.emitted ∧
      client.flights ≤ (Machine.run (PskCall.perform primitives) calls client).flights := by
  induction calls generalizing client with
  | nil => exact ⟨List.prefix_refl _, le_rfl⟩
  | cons call calls ih =>
      rcases grows_perform primitives call client with ⟨emitted, counted⟩
      rcases ih (call.perform primitives client) with ⟨emittedLater, countedLater⟩
      exact ⟨emitted.trans emittedLater, counted.trans countedLater⟩

/-- With one flight at most, numbers are distinct exactly when nothing is sent again. -/
theorem distinct_iff_meets {calls : List PskCall} {client : DtlsPskClient}
    (fresh : client.numbering.Fresh)
    (few : (Machine.run (PskCall.perform primitives) calls client).flights ≤ 1) :
    ((Machine.run (PskCall.perform primitives) calls client).history.emitted.map
        recordNumber).Nodup ↔
      Machine.Meets (PskCall.perform primitives) RetransmitsNothing calls client := by
  induction calls generalizing client with
  | nil => exact ⟨fun _ => trivial, fun _ => fresh.distinct⟩
  | cons call calls ih =>
      rcases grows_run primitives calls (call.perform primitives client) with ⟨emitted, counted⟩
      by_cases nothing : RetransmitsNothing client call
      · have numbers := numbers_perform primitives nothing
        have later := ih (numbers.fresh (counted.trans few) fresh) few
        exact later.trans ⟨fun meets => ⟨nothing, meets⟩, And.right⟩
      · refine ⟨fun distinct => absurd ?_ nothing, fun meets => absurd meets.1 nothing⟩
        rcases Classical.not_imp.mp nothing with ⟨rfl, stored⟩
        have again := distinct.sublist (emitted.sublist.map recordNumber)
        rw [emitted_handleTimeout primitives stored, List.map_append, List.nodup_append] at again
        rcases not_or.mp stored with ⟨nonempty, -⟩
        rcases List.exists_mem_of_ne_nil _ nonempty with ⟨record, recordMem⟩
        exact absurd rfl (again.2.2 _ (List.mem_map_of_mem (fresh.flight_sent record recordMem)) _
          (List.mem_map_of_mem recordMem))

end DtlsPskClient

/--
Two records that are appended to the outbound buffer in a run never carry the same number
exactly when the retransmission timer never finds a flight to send again.
-/
theorem record_numbers_never_reused (primitives : Primitives) {identity key : ByteString}
    {mtu : ℕ} {fresh : DtlsPskClient} (created : DtlsPskClient.create identity key mtu = .ok fresh)
    (calls : List PskCall) :
    ((Machine.run (PskCall.perform primitives) calls fresh).history.emitted.map
        recordNumber).Nodup ↔
      Machine.Meets (PskCall.perform primitives) DtlsPskClient.RetransmitsNothing calls fresh := by
  have sound := Handshake.path_sound (DtlsPskClient.walks_run primitives calls fresh)
    (DtlsPskClient.sound_of_created created)
  apply DtlsPskClient.distinct_iff_meets
  · rcases DtlsPskClient.create_eq_ok.mp created with ⟨-, -, -, rfl⟩
    exact ⟨List.nodup_nil, nofun, nofun, le_rfl⟩
  · have counted := sound.flights
    unfold DtlsPskClient.flights
    split_ifs at counted <;> exact (le_of_eq counted).trans (by decide)

/-- A ClientHello, and a call that sends data before there is a session. -/
theorem record_numbers_never_reused_example :
    let primitives := Recording.primitives { random := [7] }
    let fresh : DtlsPskClient := { identity := [1], psk := List.replicate 16 2 }
    let calls : List PskCall := [.doHandshake, .send [5], .handleTimeout]
    (¬((Machine.run (PskCall.perform primitives) calls fresh).history.emitted.map
        recordNumber).Nodup) ∧
      (((Machine.run (PskCall.perform primitives) calls fresh).history.emitted.map
          recordNumber).Nodup ↔
        Machine.Meets (PskCall.perform primitives) DtlsPskClient.RetransmitsNothing calls
          fresh) := by
  refine ⟨by decide +kernel, ?_⟩
  have created : DtlsPskClient.create [1] (List.replicate 16 2) 1400 =
      .ok { identity := [1], psk := List.replicate 16 2 } := rfl
  exact record_numbers_never_reused _ created _

/-- The ClientHello is sent again with its number. -/
theorem retransmission_reuses_number :
    let primitives := Recording.primitives { random := [7] }
    let fresh : DtlsPskClient := { identity := [1], psk := List.replicate 16 2 }
    ¬((Machine.run (PskCall.perform primitives) [.doHandshake, .handleTimeout]
      fresh).history.emitted.map recordNumber).Nodup := by
  decide +kernel

end SmartThingsLocal
