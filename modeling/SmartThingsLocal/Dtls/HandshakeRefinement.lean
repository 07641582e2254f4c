import SmartThingsLocal.Dtls.CallInvariants
import SmartThingsLocal.Dtls.HandshakePhases
import SmartThingsLocal.Dtls.Recording
import SmartThingsLocal.Foundation.Machine

/-!
# The engine goes through the handshake

Every method of the client takes its handshake along a path of steps. Emission, alerts,
reassembly and application data leave the handshake alone; a handler takes a step; a
record that is handled with a window for its epoch lets its handlers finish the handshake.
-/

namespace SmartThingsLocal

open Dtls Stateful

namespace DtlsPskClient

/-- What a client knows of its handshake. -/
def handshake (client : DtlsPskClient) : Handshake where
  state := client.state
  serverRandom := client.serverRandom
  peerPoint := client.peerPoint
  privateKey := client.privateKey
  masterSecret := client.masterSecret
  transform := client.transform
  readActive := client.readActive
  windowed := client.recvWindows.contains 1
  phases := client.history.phases

/-- The handshake stays as it is. -/
def SameHandshake (before after : DtlsPskClient) : Prop := after.handshake = before.handshake

instance : Std.Refl SameHandshake := ⟨fun _ => rfl⟩

instance : IsTrans DtlsPskClient SameHandshake := ⟨fun _ _ _ before after => after.trans before⟩

variable (primitives : Primitives)

/-! ### What leaves the handshake alone -/

theorem Sends.sameHandshake {before after : DtlsPskClient} (sends : Sends before after) :
    SameHandshake before after :=
  sends.same handshake fun _ => rfl

theorem keeps_of_sends {α : Type} {computation : Psk α} (sends : Keeps Sends computation) :
    Keeps SameHandshake computation :=
  sends.mono fun _ _ => Sends.sameHandshake

theorem keeps_fail (reason : String) : Keeps SameHandshake (fail reason) := fun _ => rfl

theorem keeps_sendClientHello (cookie : ByteString) :
    Keeps SameHandshake (sendClientHello primitives cookie) :=
  keeps_of_sends (sends_sendClientHello primitives cookie)

theorem keeps_record (message : ByteString) : Keeps SameHandshake (record message) := fun _ => rfl

theorem keeps_reassemble (msgSeq length fragOff : ℕ) (body : ByteString) :
    Keeps SameHandshake (reassemble msgSeq length fragOff body) :=
  (collects_reassemble msgSeq length fragOff body).mono fun _ _ collects =>
    collects.same handshake fun _ => rfl

theorem keeps_handleAlert (payload : ByteString) (authenticated : Bool) :
    Keeps SameHandshake (handleAlert payload authenticated) := by
  rcases payload with _ | ⟨level, _ | ⟨description, rest⟩⟩
  · exact keeps_pure ()
  · exact keeps_pure ()
  · apply keeps_ite
    · exact keeps_ite (keeps_modify fun _ => rfl) (keeps_pure ())
    · exact keeps_ite (keeps_fail _) (keeps_pure ())

theorem keeps_queueApplicationData (epoch seq : ℕ) (payload : ByteString) :
    Keeps SameHandshake (queueApplicationData epoch seq payload) := by
  apply keeps_modify
  intro client
  split_ifs <;> rfl

/-! ### What takes a step -/

/-- The handshake goes along a path. -/
def Walks (before after : DtlsPskClient) : Prop :=
  Handshake.Path primitives before.handshake after.handshake

/-- While a record is handled, an active read epoch has its keys and its window. -/
def Handles (before after : DtlsPskClient) : Prop :=
  before.handshake.Readable → Walks primitives before after ∧ after.handshake.Readable

instance : Std.Refl (Walks primitives) := ⟨fun _ => .refl⟩

instance : IsTrans DtlsPskClient (Walks primitives) :=
  ⟨fun _ _ _ before after => before.trans after⟩

instance : Std.Refl (Handles primitives) := ⟨fun _ ready => ⟨.refl, ready⟩⟩

instance : IsTrans DtlsPskClient (Handles primitives) where
  trans _ _ _ before after ready := by
    rcases before ready with ⟨walks, ready⟩
    rcases after ready with ⟨walksOn, ready⟩
    exact ⟨walks.trans walksOn, ready⟩

variable {primitives} {before after client : DtlsPskClient}

theorem SameHandshake.walks (same : SameHandshake before after) :
    Walks primitives before after := by
  unfold Walks
  rw [same]

theorem SameHandshake.handles (same : SameHandshake before after) :
    Handles primitives before after := by
  intro readable
  refine ⟨same.walks, ?_⟩
  rw [same]
  exact readable

/-- A step of a handler that leaves the read epoch as it is. -/
theorem handles_of_step {next : Handshake} (step : Handshake.Step primitives before.handshake next)
    (reached : after.handshake = next)
    (readable : before.handshake.Readable → next.Readable) : Handles primitives before after := by
  intro isReadable
  refine ⟨?_, reached ▸ readable isReadable⟩
  unfold Walks
  rw [reached]
  exact .single step

theorem handles_of_keeps {α : Type} {computation : Psk α}
    (keeps : Keeps SameHandshake computation) :
    Keeps (Handles primitives) computation :=
  keeps.mono fun _ _ => SameHandshake.handles

/-- Go on after a statement that leaves the handshake as it is. -/
theorem leads_after_same {α β : Type} {computation : Psk α} {next : α → Psk β}
    (same : Keeps SameHandshake computation)
    (rest : ∀ value after, after.handshake = client.handshake →
      Leads (Handles primitives) (next value) after) :
    Leads (Handles primitives) (computation >>= next) client :=
  leads_bind_of_keeps same (fun _ _ => SameHandshake.handles) rest

variable (primitives)

/-- Entering a state is a step of its own. -/
theorem leads_enter {state : HandshakeState}
    (step : Handshake.Step primitives client.handshake (client.handshake.enter state)) :
    Leads (Handles primitives) (enter state) client :=
  handles_of_step step rfl fun readable => readable

theorem leads_answer (cookie : ByteString) (msgSeq : ℕ) (awaits : client.state.AwaitsServerHello) :
    Leads (Handles primitives) (handleHelloVerifyRequest.answer primitives msgSeq cookie)
      client := by
  refine leads_after_same (fun _ => rfl) fun _ reset sameReset => ?_
  refine leads_after_same (keeps_sendClientHello primitives cookie) fun _ sent sameSent => ?_
  apply leads_enter
  apply Handshake.Step.cookieHello
  rw [sameSent, sameReset]
  exact awaits

/-- A guard whose branch leaves the handshake as it is. -/
theorem leads_unless {α : Type} {condition : Prop} [Decidable condition]
    {refused computation : Psk α} (same : Keeps SameHandshake refused)
    (rest : ¬condition → Leads (Handles primitives) computation client) :
    Leads (Handles primitives) (if condition then refused else computation) client :=
  leads_ite (fun _ => handles_of_keeps same client) rest

theorem leads_of_readable {α : Type} {computation : Psk α}
    (leads : client.handshake.Readable → Leads (Handles primitives) computation client) :
    Leads (Handles primitives) computation client :=
  fun readable => leads readable readable

theorem awaitsServerHello_of {state : HandshakeState}
    (awaits : ¬state ∉ [HandshakeState.sentHello, .sentCookieHello]) :
    state.AwaitsServerHello := by
  simpa [HandshakeState.AwaitsServerHello, or_iff_not_imp_left] using awaits

theorem handles_handleHelloVerifyRequest (body : ByteString) (msgSeq : ℕ) :
    Keeps (Handles primitives) (handleHelloVerifyRequest primitives body msgSeq) := by
  intro client
  apply leads_get_bind
  refine leads_unless primitives (keeps_pure ()) fun state => ?_
  have awaits := awaitsServerHello_of state
  refine leads_unless primitives (keeps_pure ()) fun _ => ?_
  refine leads_python_bind fun cookieLen _ => ?_
  refine leads_unless primitives (keeps_pure ()) fun _ => ?_
  refine leads_ite (fun _ => ?_) fun _ => leads_answer primitives _ msgSeq awaits
  refine leads_set_bind (SameHandshake.handles rfl) ?_
  refine leads_unless primitives (keeps_fail _) fun _ => ?_
  refine leads_unless primitives (keeps_pure ()) fun _ => ?_
  exact leads_answer primitives _ msgSeq awaits

theorem handles_handleServerHello (body : ByteString) :
    Keeps (Handles primitives) (handleServerHello body) := by
  intro client
  apply leads_get_bind
  refine leads_unless primitives (keeps_pure ()) fun state => ?_
  have awaits := awaitsServerHello_of state
  refine leads_unless primitives (keeps_fail _) fun _ => ?_
  refine leads_unless primitives (keeps_fail _) fun _ => ?_
  refine leads_set_bind (handles_of_step (.serverRandom _ awaits) rfl fun readable => readable) ?_
  refine leads_python_bind fun sessionLen _ => ?_
  refine leads_unless primitives (keeps_fail _) fun _ => ?_
  refine leads_unless primitives (keeps_fail _) fun _ => ?_
  refine leads_python_bind fun compression _ => ?_
  refine leads_unless primitives (keeps_fail _) fun _ => ?_
  exact leads_enter primitives (.serverHello awaits)

theorem handles_handleServerKeyExchange (body : ByteString) :
    Keeps (Handles primitives) (handleServerKeyExchange primitives body) := by
  intro client
  apply leads_get_bind
  refine leads_unless primitives (keeps_pure ()) fun state => ?_
  refine leads_unless primitives (keeps_fail _) fun _ => ?_
  refine leads_unless primitives (keeps_fail _) fun _ => ?_
  refine leads_python_bind fun curveType _ => ?_
  refine leads_unless primitives (keeps_fail _) fun _ => ?_
  refine leads_unless primitives (keeps_fail _) fun _ => ?_
  refine leads_python_bind fun pointLen _ => ?_
  refine leads_unless primitives (keeps_fail _) fun _ => ?_
  refine leads_unless primitives (keeps_fail _) fun _ => ?_
  refine leads_after_same (keeps_of_sends sends_draw) fun index drawn same => ?_
  -- the exchange and the state are assigned together
  refine handles_of_step (.serverParams _ _ ?_) rfl fun readable => readable
  rw [same]
  exact not_not.mp state

theorem handles_handleServerFinished (body : ByteString) :
    Keeps (Handles primitives) (handleServerFinished primitives body) := by
  intro client
  apply leads_get_bind
  refine leads_unless primitives (keeps_pure ()) fun state => ?_
  rw [not_or, not_not, Bool.not_eq_false] at state
  rcases state with ⟨active, flight⟩
  apply leads_of_readable primitives
  intro readable
  rcases readable active with ⟨keyed, windowed⟩
  by_cases refused : body.length ≠ verifyDataLen ∨ body ≠ prf primitives client.masterSecret
      (ascii "server finished") (primitives.sha256 client.transcript) verifyDataLen
  · refine leads_set_bind (handles_of_step (.refused body client.transcript flight) rfl id) ?_
    dsimp only
    rw [if_pos refused]
    exact handles_of_keeps (keeps_fail _) _
  · have verifies := refused
    rw [not_or, not_not, not_not] at verifies
    refine handles_of_step (.finished body client.transcript flight active keyed windowed
      verifies.1 verifies.2) ?_ fun _ _ => ⟨keyed, windowed⟩
    rw [exec_set_bind]
    dsimp only
    rw [if_neg refused]
    rfl

/-- Of the handshake only the keys change, and record keys do not go. -/
def SameButKeys (before after : DtlsPskClient) : Prop :=
  after.handshake = { before.handshake with
    masterSecret := after.masterSecret, transform := after.transform } ∧
  (before.transform.isSome = true → after.transform.isSome = true)

instance : Std.Refl SameButKeys := ⟨fun _ => ⟨rfl, id⟩⟩

instance : IsTrans DtlsPskClient SameButKeys where
  trans first second third before after := by
    refine ⟨?_, after.2 ∘ before.2⟩
    rw [after.1, before.1]

theorem SameHandshake.sameButKeys (same : SameHandshake before after) :
    SameButKeys before after := by
  have masterSecret : after.masterSecret = before.masterSecret :=
    congrArg Handshake.masterSecret same
  have transform : after.transform = before.transform := congrArg Handshake.transform same
  unfold SameButKeys
  rw [masterSecret, transform]
  exact ⟨same, id⟩

theorem sameButKeys_sendClientFlight (client : DtlsPskClient) :
    SameButKeys { client with history := { client.history with
      phases := client.history.phases ++ [.clientFlight] } }
      (exec (sendClientFlight primitives) client).2 :=
  leads_sendClientFlight primitives (fun _ _ sent => sent.sameHandshake.sameButKeys)
    (fun _ _ => ⟨rfl, id⟩) (fun _ _ => ⟨rfl, fun _ => rfl⟩) client

theorem exec_enter_bind {α : Type} (state : HandshakeState) (next : Unit → Psk α)
    (client : DtlsPskClient) :
    exec (enter state >>= next) client = exec (next ()) (exec (enter state) client).2 := rfl

theorem handles_handleServerHelloDone :
    Keeps (Handles primitives) (handleServerHelloDone primitives) := by
  intro client
  apply leads_get_bind
  refine leads_ite (fun params => ?_) fun _ => handles_of_keeps (keeps_pure ()) client
  -- the state is assigned before the flight is made, and the keys come with the flight
  rcases sameButKeys_sendClientFlight primitives (exec (enter .sentClientFlight) client).2 with
    ⟨flown, keyed⟩
  unfold Leads
  rw [exec_enter_bind]
  refine handles_of_step (.clientFlight _ _ params) flown fun readable active => ?_
  exact ⟨keyed (readable active).1, (readable active).2⟩

theorem handles_deliverHandshake (msgType : UInt8) (msgSeq : ℕ) (body : ByteString) :
    Keeps (Handles primitives) (deliverHandshake primitives msgType msgSeq body) := by
  have recorded {message : ByteString} {rest : Psk Unit}
      (handler : Keeps (Handles primitives) rest) :
      Keeps (Handles primitives) (record message >>= fun _ => rest) :=
    keeps_bind (handles_of_keeps (keeps_record message)) fun _ => handler
  refine keeps_bind (keeps_modify fun _ => SameHandshake.handles rfl) fun _ => ?_
  apply keeps_bind (keeps_python _)
  intro message
  apply keeps_ite
  · exact recorded (handles_handleServerHello primitives body)
  apply keeps_ite
  · exact recorded (handles_handleServerKeyExchange primitives body)
  apply keeps_ite
  · exact recorded (handles_handleServerHelloDone primitives)
  · exact keeps_ite (handles_handleServerFinished primitives body) (keeps_pure ())

theorem handles_handleHandshakeFragment (payload : ByteString)
    (authenticated helloVerifyOnly : Bool) :
    Keeps (Handles primitives)
      (handleHandshakeFragment primitives payload authenticated helloVerifyOnly) :=
  MessageRelation.keeps_handleHandshakeFragment {
    refused := fun reason => handles_of_keeps (keeps_fail reason)
    stored := fun _ _ => SameHandshake.handles rfl
    helloVerify := handles_handleHelloVerifyRequest primitives
    reassembled := fun _ _ _ _ => handles_of_keeps (keeps_reassemble _ _ _ _)
    delivered := handles_deliverHandshake primitives } payload authenticated helloVerifyOnly

/-! ### Records -/

variable {primitives}

theorem walks_of_handles {α : Type} {computation : Psk α}
    (handles : Keeps (Handles primitives) computation) (readable : client.handshake.Readable) :
    Leads (Walks primitives) computation client :=
  (handles client readable).1

theorem walks_of_keeps {α : Type} {computation : Psk α}
    (keeps : Keeps SameHandshake computation) : Keeps (Walks primitives) computation :=
  keeps.mono fun _ _ => SameHandshake.walks

theorem walks_of_step {next : Handshake} (step : Handshake.Step primitives before.handshake next)
    (reached : after.handshake = next) : Walks primitives before after := by
  unfold Walks
  rw [reached]
  exact .single step

variable (primitives)

theorem walks_handleChangeCipherSpec (payload : ByteString) :
    Keeps (Walks primitives) (handleChangeCipherSpec payload) := by
  apply keeps_modify
  intro client
  split_ifs with changes
  · refine walks_of_step (.changeCipherSpec changes.2) ?_
    simp [handshake, OrderedDict.contains, OrderedDict.get?_erase]
  · exact refl_of (Walks primitives) client

theorem walks_handlePayload (contentType : UInt8) (epoch seq : ℕ) (helloVerifyOnly : Bool)
    (payload : ByteString) (readable : client.handshake.Readable) :
    Leads (Walks primitives)
      (handlePayload primitives contentType epoch seq helloVerifyOnly payload) client := by
  refine leads_ite (fun _ => ?_) fun _ => ?_
  · exact walks_of_handles (handles_handleHandshakeFragment primitives payload _ _) readable
  refine leads_ite (fun _ => walks_handleChangeCipherSpec primitives payload client) fun _ => ?_
  refine leads_ite (fun _ => walks_of_keeps (keeps_handleAlert payload _) client) fun _ => ?_
  refine leads_ite (fun _ => ?_) fun _ => walks_of_keeps (keeps_pure ()) client
  exact walks_of_keeps (keeps_queueApplicationData epoch seq payload) client

theorem contains_set_first {parts : RecordParts} (first : parts.epoch = 1)
    (windows : OrderedDict ℕ ReplayWindow) (window : ReplayWindow) :
    (windows.set parts.epoch window).contains 1 = true := by
  simp [OrderedDict.contains, first]

theorem walks_handleProtected {transform : Transform} {parts : RecordParts}
    (helloVerifyOnly : Bool) (keyed : client.transform = some transform)
    (first : parts.epoch = 1) :
    Leads (Walks primitives) (handleProtected primitives transform parts helloVerifyOnly)
      client := by
  apply leads_get_bind
  refine leads_set_bind (walks_of_step .window ?_) ?_
  · simp only [handshake, contains_set_first first]
  refine leads_ite (fun _ => walks_of_keeps (keeps_pure ()) _) fun _ => ?_
  refine leads_bind_of_keeps (keeps_python _) (fun _ _ => SameHandshake.walks)
    fun payload after same => ?_
  cases payload with
  | none => exact walks_of_keeps (keeps_pure ()) after
  | some payload =>
      have transformed : after.transform = client.transform := congrArg Handshake.transform same
      refine leads_modify_bind (walks_of_step .window ?_) ?_
      · simp only [handshake, contains_set_first first]
      · refine walks_handlePayload primitives _ _ _ _ _ fun _ => ⟨?_, contains_set_first first _ _⟩
        simp only [handshake, transformed, keyed, Option.isSome_some]

theorem walks_handleRecord (record : ByteString) :
    Keeps (Walks primitives) (handleRecord primitives record) := by
  intro client
  apply leads_get_bind
  refine leads_python_bind fun parts _ => ?_
  refine leads_ite (fun _ => walks_of_keeps (keeps_pure ()) client) fun _ => ?_
  refine leads_ite (fun _ => walks_of_keeps (keeps_pure ()) client) fun epoch => ?_
  rw [not_not] at epoch
  refine leads_ite (fun positive => ?_) fun zero => ?_
  · have active : client.readActive = true := by
      by_contra inactive
      simp [epoch, inactive] at positive
    rcases keyed : client.transform with _ | transform
    · exact walks_of_keeps (keeps_pure ()) client
    · exact walks_handleProtected primitives _ keyed (by rw [epoch, if_pos active])
  · refine walks_handlePayload primitives _ _ _ _ _ fun active => ?_
    simp [epoch, show client.readActive = true from active] at zero

/-! ### Calls -/

theorem walks_records : RecordRelation primitives (Walks primitives) where
  record := walks_handleRecord primitives
  waiting _ _ := SameHandshake.walks rfl
  returned _ := walks_of_keeps (keeps_returnQueued (fun _ _ _ _ => rfl) fun _ _ _ _ => rfl)
  hello client start := by
    refine leads_bind_of_keeps (keeps_sendClientHello primitives [])
      (fun _ _ => SameHandshake.walks) fun _ sent same => ?_
    refine walks_of_step (.hello ?_) rfl
    rw [same]
    exact start

theorem walks_perform (call : PskCall) (client : DtlsPskClient) :
    Walks primitives client (call.perform primitives client) :=
  (walks_records primitives).perform fun sends => (sends_perform sends client).sameHandshake.walks

theorem walks_run (calls : List PskCall) (client : DtlsPskClient) :
    Walks primitives client (Machine.run (PskCall.perform primitives) calls client) := by
  induction calls generalizing client with
  | nil => exact refl_of (Walks primitives) client
  | cons call calls ih =>
      exact trans_of (Walks primitives) (walks_perform primitives call client) (ih _)

variable {primitives}

theorem sound_of_created {identity key : ByteString} {mtu : ℕ} {fresh : DtlsPskClient}
    (created : create identity key mtu = .ok fresh) :
    fresh.handshake.Sound primitives := by
  rcases create_eq_ok.mp created with ⟨-, -, -, rfl⟩
  exact {
    path := List.isChain_singleton _
    arrived := rfl
    authorized := List.isChain_singleton _
    agrees := nofun
    flights := rfl
    keyed := nofun }

end DtlsPskClient

/-- From the constructor on, whatever is called and whatever comes in, a handshake goes forward. -/
theorem handshake_phases (primitives : Primitives) {identity key : ByteString} {mtu : ℕ}
    {fresh : DtlsPskClient} (created : DtlsPskClient.create identity key mtu = .ok fresh)
    (earlier later : List PskCall) :
    let before := Machine.run (PskCall.perform primitives) earlier fresh
    let after := Machine.run (PskCall.perform primitives) (earlier ++ later) fresh
    before.handshake.Sound primitives ∧ before.handshake.Forward after.handshake ∧
      (before.state = .established → after.state = .established) := by
  intro before after
  have path : Handshake.Path primitives before.handshake after.handshake := by
    have run := DtlsPskClient.walks_run primitives later before
    rw [← Machine.run_append] at run
    exact run
  have forward := Handshake.path_forward path
  refine ⟨?_, forward, fun established => ?_⟩
  · exact Handshake.path_sound (DtlsPskClient.walks_run primitives earlier fresh)
      (DtlsPskClient.sound_of_created created)
  · apply HandshakeState.eq_established_of_rank
    have rank := forward.rank
    rw [show before.handshake.state = .established from established] at rank
    exact rank

/-- A client that is asked for a cookie. -/
theorem handshake_phases_example :
    let primitives := Recording.primitives { random := [7] }
    let fresh : DtlsPskClient := { identity := [1], psk := List.replicate 16 2 }
    let challenge : ByteString := 22 :: version ++ ByteString.ofNat 8 0 ++ ByteString.ofNat 2 17 ++
      htHelloVerifyRequest :: ByteString.ofNat 3 5 ++ ByteString.ofNat 2 0 ++
      ByteString.ofNat 3 0 ++ ByteString.ofNat 3 5 ++ version ++ [2, 8, 9]
    let earlier : List PskCall := [.doHandshake]
    let later : List PskCall := [.bioWrite challenge, .doHandshake]
    let before := Machine.run (PskCall.perform primitives) earlier fresh
    let after := Machine.run (PskCall.perform primitives) (earlier ++ later) fresh
    (before.state = .sentHello ∧ after.state = .sentCookieHello) ∧
      before.handshake.Sound primitives ∧ before.handshake.Forward after.handshake ∧
      (before.state = .established → after.state = .established) := by
  refine ⟨by decide +kernel, ?_⟩
  have created : DtlsPskClient.create [1] (List.replicate 16 2) 1400 =
      .ok { identity := [1], psk := List.replicate 16 2 } := rfl
  exact handshake_phases _ created _ _

end SmartThingsLocal
