import SmartThingsLocal.Dtls.PskClient
import SmartThingsLocal.Foundation.Leads

/-!
# What the methods leave alone

Three frames, each within the next. Sending changes the outbound side of the client; a
handler of a message also changes the exchange and its keys; the handling of handshake
fragments also changes what is being reassembled. The inbox, the application data, the
read epoch and the log of records are outside all three. What is kept of messages until they
are handled is a frame of its own. Every handler keeps a relation that its statements keep.
-/

namespace SmartThingsLocal

open Dtls Stateful

namespace DtlsPskClient

/-- A client without what sending changes. -/
def withoutSent (client : DtlsPskClient) : DtlsPskClient :=
  { client with
    outbox := [], transcript := [], sendSeq := 0, nextMsgSeq := 0, clientRandom := [], flight := [],
    rto := 1, flightDeadline := none, failed := none, draws := 0,
    history := { client.history with emitted := [] } }

/-- A client without what the handler of a message changes. -/
def withoutExchange (client : DtlsPskClient) : DtlsPskClient :=
  { client.withoutSent with
    state := .start, sendEpoch := 0, transform := none, serverRandom := [], masterSecret := [],
    privateKey := none, peerPoint := [],
    history := { client.withoutSent.history with phases := [] } }

/-- A client without what the handling of handshake fragments changes. -/
def withoutMessages (client : DtlsPskClient) : DtlsPskClient :=
  { client.withoutExchange with
    cookie := [], helloVerifyCount := 0, pending := .empty, ready := .empty, nextRecvMsgSeq := 0,
    history := { client.withoutExchange.history with messages := [] } }

/-- A client without what is kept of handshake messages until they are handled. -/
def withoutCollected (client : DtlsPskClient) : DtlsPskClient :=
  { client with
    pending := .empty, ready := .empty, nextRecvMsgSeq := 0, transcript := [], failed := none,
    history := { client.history with messages := [] } }

/-- Nothing changes but the outbound side. -/
def Sends (before after : DtlsPskClient) : Prop := after.withoutSent = before.withoutSent

/-- Nothing changes but the outbound side, the exchange and its keys. -/
def Reacts (before after : DtlsPskClient) : Prop := after.withoutExchange = before.withoutExchange

/-- Nothing changes but what handshake messages change. -/
def Negotiates (before after : DtlsPskClient) : Prop :=
  after.withoutMessages = before.withoutMessages

/-- Nothing changes but what is kept of handshake messages. -/
def Collects (before after : DtlsPskClient) : Prop :=
  after.withoutCollected = before.withoutCollected

instance : Std.Refl Sends := ⟨fun _ => rfl⟩

instance : IsTrans DtlsPskClient Sends := ⟨fun _ _ _ before after => after.trans before⟩

instance : Std.Refl Reacts := ⟨fun _ => rfl⟩

instance : IsTrans DtlsPskClient Reacts := ⟨fun _ _ _ before after => after.trans before⟩

instance : Std.Refl Negotiates := ⟨fun _ => rfl⟩

instance : IsTrans DtlsPskClient Negotiates := ⟨fun _ _ _ before after => after.trans before⟩

instance : Std.Refl Collects := ⟨fun _ => rfl⟩

instance : IsTrans DtlsPskClient Collects := ⟨fun _ _ _ before after => after.trans before⟩

section Views

variable {α : Type} {before after : DtlsPskClient} (view : DtlsPskClient → α)

/-- What does not depend on the outbound side stays the same. -/
theorem Sends.same (blind : ∀ client, view client.withoutSent = view client)
    (sends : Sends before after) : view after = view before := by
  rw [← blind after, ← blind before, show after.withoutSent = before.withoutSent from sends]

theorem Reacts.same (blind : ∀ client, view client.withoutExchange = view client)
    (reacts : Reacts before after) : view after = view before := by
  rw [← blind after, ← blind before,
    show after.withoutExchange = before.withoutExchange from reacts]

theorem Negotiates.same (blind : ∀ client, view client.withoutMessages = view client)
    (negotiates : Negotiates before after) : view after = view before := by
  rw [← blind after, ← blind before,
    show after.withoutMessages = before.withoutMessages from negotiates]

theorem Collects.same (blind : ∀ client, view client.withoutCollected = view client)
    (collects : Collects before after) : view after = view before := by
  rw [← blind after, ← blind before,
    show after.withoutCollected = before.withoutCollected from collects]

end Views

theorem Sends.reacts {before after : DtlsPskClient} (sends : Sends before after) :
    Reacts before after :=
  sends.same withoutExchange fun _ => rfl

theorem Reacts.negotiates {before after : DtlsPskClient} (reacts : Reacts before after) :
    Negotiates before after :=
  reacts.same withoutMessages fun _ => rfl

variable (primitives : Primitives)

/-! ### Sending -/

section Statements

variable {relation : DtlsPskClient → DtlsPskClient → Prop} [Std.Refl relation]

theorem keeps_python {α : Type} (result : Except PythonError α) : Keeps relation (python result) :=
  keeps_readOnly _

theorem leads_python_bind {α β : Type} {result : Except PythonError α} {next : α → Psk β}
    {client : DtlsPskClient}
    (rest : ∀ value, result = .ok value → Leads relation (next value) client) :
    Leads relation (python result >>= next) client := by
  refine leads_readOnly_bind fun value ran => rest value ?_
  cases result with
  | error error => cases ran
  | ok result => rw [Except.mapError, Except.ok.injEq] at ran; rw [ran]

theorem keeps_raiseFailed {α : Type} : Keeps relation (raiseFailed : Psk α) :=
  keeps_get_bind fun _ => keeps_throw _

/-- Queued data are returned whole, or in part when they exceed the capacity. -/
theorem keeps_returnQueued {capacity : ℕ}
    (part : ∀ client payload rest, client.appdata = payload :: rest →
      relation client { client with
        appdata := payload.drop capacity :: rest
        history := { client.history with
          returned := client.history.returned ++ [payload.take capacity] } })
    (whole : ∀ client payload rest, client.appdata = payload :: rest →
      relation client { client with
        appdata := rest
        history := { client.history with returned := client.history.returned ++ [payload] } }) :
    Keeps relation (returnQueued capacity) := by
  intro client
  apply leads_get_bind
  rcases queued : client.appdata with _ | ⟨payload, rest⟩
  · refine leads_ite (fun _ => keeps_raiseFailed client) fun _ => ?_
    exact leads_ite (fun _ => keeps_throw _ client) fun _ => keeps_throw _ client
  · refine leads_ite (fun _ => ?_) fun _ => ?_
    · exact part client payload rest queued
    · exact whole client payload rest queued

end Statements

theorem sends_draw : Keeps Sends draw := fun _ => rfl

theorem sends_fail (reason : String) : Keeps Sends (fail reason) := fun _ => rfl

theorem sends_failed {α : Type} (reason : String) :
    Keeps Sends (do fail reason; raiseFailed : Psk α) :=
  keeps_bind (sends_fail reason) fun _ => keeps_raiseFailed

theorem keeps_protectFragment {relation : DtlsPskClient → DtlsPskClient → Prop}
    [Std.Refl relation] [IsTrans DtlsPskClient relation] (drawn : Keeps relation draw)
    (contentType : UInt8) (payload : ByteString) :
    Keeps relation (protectFragment primitives contentType payload) := by
  apply keeps_get_bind
  intro client
  cases client.transform with
  | none => exact keeps_pure payload
  | some transform =>
      apply keeps_ite (keeps_pure payload)
      exact keeps_bind drawn fun _ => keeps_python _

theorem sends_append (record : ByteString) : Keeps Sends (append record) := fun _ => rfl

theorem sends_emitRecord (contentType : UInt8) (payload : ByteString) :
    Keeps Sends (emitRecord primitives contentType payload) := by
  apply keeps_get_bind
  intro client
  apply keeps_ite (sends_failed _)
  apply keeps_bind (keeps_protectFragment primitives sends_draw contentType payload)
  intro fragment
  apply keeps_bind (keeps_python _)
  intro epoch
  apply keeps_bind (keeps_python _)
  intro seq
  apply keeps_bind (keeps_python _)
  intro length
  refine keeps_bind (keeps_modify fun _ => rfl) fun _ => ?_
  apply keeps_ite (sends_failed _)
  apply keeps_bind (sends_append _)
  intro _
  apply keeps_ite _ (keeps_pure ())
  exact keeps_bind sends_draw fun _ => keeps_modify fun _ => rfl

/-- A relation that making a record keeps, and the statements around it. -/
structure EmissionRelation (relation : DtlsPskClient → DtlsPskClient → Prop) : Prop where
  drawn : Keeps relation draw
  emitted : ∀ contentType payload, Keeps relation (emitRecord primitives contentType payload)
  begun : Keeps relation startFlight
  numbered : ∀ client nextMsgSeq transcript,
    relation client { client with nextMsgSeq, transcript }
  clientRandom : ∀ client clientRandom, relation client { client with clientRandom }

namespace EmissionRelation

variable {primitives} {relation : DtlsPskClient → DtlsPskClient → Prop} [Std.Refl relation]
  [IsTrans DtlsPskClient relation]

theorem keeps_emitHandshake (emission : EmissionRelation primitives relation) (msgType : UInt8)
    (body : ByteString) : Keeps relation (emitHandshake primitives msgType body) := by
  apply keeps_get_bind
  intro client
  apply keeps_bind (keeps_python _)
  intro message
  refine keeps_bind (keeps_modify fun client => emission.numbered client _ _) fun _ => ?_
  exact emission.emitted ctHandshake message

theorem keeps_sendClientHello (emission : EmissionRelation primitives relation)
    (cookie : ByteString) : Keeps relation (sendClientHello primitives cookie) := by
  apply keeps_bind
  · apply keeps_when
    refine keeps_bind emission.drawn fun index => ?_
    exact keeps_modify fun client => emission.clientRandom client _
  · intro _
    apply keeps_get_bind
    intro client
    apply keeps_bind (keeps_python _)
    intro cookieLength
    exact keeps_bind emission.begun fun _ => emission.keeps_emitHandshake htClientHello _

theorem keeps_send (emission : EmissionRelation primitives relation) (data : ByteString) :
    Keeps relation (send primitives data) := by
  apply keeps_get_bind
  intro client
  apply keeps_ite (keeps_throw _)
  apply keeps_ite keeps_raiseFailed
  exact keeps_bind (emission.emitted ctApplicationData data) fun _ => keeps_pure _

omit [IsTrans DtlsPskClient relation] in
theorem keeps_shutdown (emission : EmissionRelation primitives relation) :
    Keeps relation (shutdown primitives) := by
  apply keeps_get_bind
  intro client
  exact keeps_ite (emission.emitted ctAlert _) (keeps_pure ())

theorem keeps_getTimeout (emission : EmissionRelation primitives relation) :
    Keeps relation (getTimeout primitives) := by
  apply keeps_get_bind
  intro client
  cases client.flightDeadline with
  | none => exact keeps_pure none
  | some deadline =>
      cases client.flight with
      | nil => exact keeps_pure none
      | cons record rest => exact keeps_bind emission.drawn fun _ => keeps_pure _

end EmissionRelation

theorem sends_startFlight : Keeps Sends startFlight := fun _ => rfl

theorem sends_emission : EmissionRelation primitives Sends where
  drawn := sends_draw
  emitted := sends_emitRecord primitives
  begun := sends_startFlight
  numbered _ _ _ := rfl
  clientRandom _ _ := rfl

theorem sends_emitHandshake (msgType : UInt8) (body : ByteString) :
    Keeps Sends (emitHandshake primitives msgType body) :=
  (sends_emission primitives).keeps_emitHandshake msgType body

theorem sends_sendClientHello (cookie : ByteString) :
    Keeps Sends (sendClientHello primitives cookie) :=
  (sends_emission primitives).keeps_sendClientHello cookie

theorem sends_record (message : ByteString) : Keeps Sends (record message) := fun _ => rfl

theorem sends_bioRead (capacity : ℕ) : Keeps Sends (bioRead capacity) :=
  fun _ => leads_get_bind (leads_ite (fun _ => rfl) fun _ => rfl)

theorem sends_forM_append (records : List ByteString) : Keeps Sends (records.forM append) := by
  induction records with
  | nil => exact keeps_pure ()
  | cons record records ih => exact keeps_bind (sends_append record) fun _ => ih

theorem sends_handleTimeout : Keeps Sends (handleTimeout primitives) := by
  apply keeps_get_bind
  intro client
  apply keeps_ite (keeps_pure ())
  apply keeps_bind (sends_forM_append client.flight)
  intro _
  exact keeps_bind sends_draw fun _ => keeps_modify fun _ => rfl

/-! ### The handlers of messages -/

theorem reacts_of_sends {α : Type} {computation : Psk α} (sends : Keeps Sends computation) :
    Keeps Reacts computation :=
  sends.mono fun _ _ => Sends.reacts

theorem reacts_enter (state : HandshakeState) : Keeps Reacts (enter state) := fun _ => rfl

theorem reacts_fail (reason : String) : Keeps Reacts (fail reason) := fun _ => rfl

/-- Making the flight keeps what sending keeps, the keys apart. -/
theorem leads_sendClientFlight {relation : DtlsPskClient → DtlsPskClient → Prop}
    [Std.Refl relation] [IsTrans DtlsPskClient relation]
    (sent : ∀ before after, Sends before after → relation before after)
    (master : ∀ client masterSecret, relation client { client with masterSecret })
    (keys : ∀ client keyBlock, relation client { client with
      transform := some (Transform.ofKeyBlock keyBlock), sendEpoch := 1, sendSeq := 0 })
    (client : DtlsPskClient) :
    relation { client with history := { client.history with
      phases := client.history.phases ++ [.clientFlight] } }
      (exec (sendClientFlight primitives) client).2 := by
  unfold sendClientFlight
  rw [exec_modify_bind]
  refine leads_bind (sends_startFlight.mono sent _) fun _ started _ => ?_
  apply leads_get_bind
  refine keeps_bind (keeps_python _) (fun privateKey => ?_) _
  refine keeps_bind (keeps_python _) fun identityLength => ?_
  refine keeps_bind (keeps_python _) fun publicLength => ?_
  refine keeps_bind ((sends_emitHandshake primitives _ _).mono sent) fun _ => ?_
  refine keeps_bind (keeps_python _) fun peer => ?_
  refine keeps_bind (keeps_python _) fun masterSecret => ?_
  refine keeps_bind (keeps_modify fun client => master client _) fun _ => ?_
  refine keeps_bind ((sends_emitRecord primitives _ _).mono sent) fun _ => ?_
  refine keeps_bind (keeps_modify fun client => keys client _) fun _ => ?_
  exact keeps_get_bind fun _ => (sends_emitHandshake primitives _ _).mono sent

/-- A relation that the statements of the handlers keep, and the flight of the client. -/
structure ExchangeRelation (relation : DtlsPskClient → DtlsPskClient → Prop) : Prop where
  refused : ∀ reason, Keeps relation (fail reason)
  entered : ∀ state, Keeps relation (enter state)
  recorded : ∀ message, Keeps relation (record message)
  drawn : Keeps relation draw
  serverRandom : ∀ client serverRandom, relation client { client with serverRandom }
  serverParams : ∀ client peerPoint privateKey,
    relation client { client with peerPoint, privateKey }
  clientFlight : Keeps relation (sendClientFlight primitives)
  finished : ∀ client body masterSecret transcript readActive,
    relation client { client with history := { client.history with
      phases := client.history.phases ++
        [.serverFinished body masterSecret transcript readActive] } }
  settled : ∀ client, relation client { client with flight := [], flightDeadline := none }

namespace ExchangeRelation

variable {primitives} {relation : DtlsPskClient → DtlsPskClient → Prop} [Std.Refl relation]
  [IsTrans DtlsPskClient relation]

theorem keeps_handleServerHello (exchange : ExchangeRelation primitives relation)
    (body : ByteString) : Keeps relation (handleServerHello body) := by
  intro client
  apply leads_get_bind
  refine leads_ite (fun _ => keeps_pure () client) fun _ => ?_
  refine leads_ite (fun _ => exchange.refused _ client) fun _ => ?_
  refine leads_ite (fun _ => exchange.refused _ client) fun _ => ?_
  refine leads_set_bind (exchange.serverRandom client _) ?_
  refine keeps_bind (keeps_python _) (fun sessionLen => ?_) _
  refine keeps_ite (exchange.refused _) (keeps_ite (exchange.refused _) ?_)
  refine keeps_bind (keeps_python _) fun compression => ?_
  exact keeps_ite (exchange.refused _) (exchange.entered _)

theorem keeps_handleServerKeyExchange (exchange : ExchangeRelation primitives relation)
    (body : ByteString) : Keeps relation (handleServerKeyExchange primitives body) := by
  refine keeps_get_bind fun client => keeps_ite (keeps_pure ()) ?_
  refine keeps_ite (exchange.refused _) (keeps_ite (exchange.refused _) ?_)
  refine keeps_bind (keeps_python _) fun curveType => ?_
  refine keeps_ite (exchange.refused _) (keeps_ite (exchange.refused _) ?_)
  refine keeps_bind (keeps_python _) fun pointLen => ?_
  refine keeps_ite (exchange.refused _) (keeps_ite (exchange.refused _) ?_)
  refine keeps_bind exchange.drawn fun index => ?_
  refine keeps_bind (keeps_modify fun client => exchange.serverParams client _ _) fun _ => ?_
  exact exchange.entered _

theorem keeps_handleServerHelloDone (exchange : ExchangeRelation primitives relation) :
    Keeps relation (handleServerHelloDone primitives) :=
  keeps_get_bind fun _ =>
    keeps_ite (keeps_bind (exchange.entered _) fun _ => exchange.clientFlight) (keeps_pure ())

theorem keeps_handleServerFinished (exchange : ExchangeRelation primitives relation)
    (body : ByteString) : Keeps relation (handleServerFinished primitives body) := by
  intro client
  apply leads_get_bind
  refine leads_ite (fun _ => keeps_pure () client) fun _ => ?_
  refine leads_set_bind (exchange.finished client body _ _ _) ?_
  refine leads_ite (fun _ => exchange.refused _ _) fun _ => ?_
  exact leads_bind (exchange.entered _ _) fun _ after _ => exchange.settled after

end ExchangeRelation

/-- A message is taken up: the next one is expected. -/
def taking (msgType : UInt8) (msgSeq : ℕ) (body : ByteString) (client : DtlsPskClient) :
    DtlsPskClient :=
  { client with
    nextRecvMsgSeq := msgSeq + 1
    history := { client.history with
      messages := client.history.messages ++ [.delivered msgType msgSeq body] } }

/-- What `deliverHandshake` does once the message has been taken up. -/
def handleMessage (msgType : UInt8) (msgSeq : ℕ) (body : ByteString) : Psk Unit := do
  let message ← python (handshakeMessage msgType msgSeq body)
  if msgType = htServerHello then
    record message
    handleServerHello body
  else if msgType = htServerKeyExchange then
    record message
    handleServerKeyExchange primitives body
  else if msgType = htServerHelloDone then
    record message
    handleServerHelloDone primitives
  else if msgType = htFinished then handleServerFinished primitives body
  else pure ()

theorem deliverHandshake_eq (msgType : UInt8) (msgSeq : ℕ) (body : ByteString) :
    deliverHandshake primitives msgType msgSeq body =
      modify (taking msgType msgSeq body) >>= fun _ =>
        handleMessage primitives msgType msgSeq body := rfl

theorem ExchangeRelation.keeps_handleMessage {primitives : Primitives}
    {relation : DtlsPskClient → DtlsPskClient → Prop} [Std.Refl relation]
    [IsTrans DtlsPskClient relation] (exchange : ExchangeRelation primitives relation)
    (msgType : UInt8) (msgSeq : ℕ) (body : ByteString) :
    Keeps relation (handleMessage primitives msgType msgSeq body) := by
  have recorded {message : ByteString} {rest : Psk Unit} (handler : Keeps relation rest) :
      Keeps relation (record message >>= fun _ => rest) :=
    keeps_bind (exchange.recorded message) fun _ => handler
  refine keeps_bind (keeps_python _) fun message => ?_
  refine keeps_ite (recorded (exchange.keeps_handleServerHello body)) ?_
  refine keeps_ite (recorded (exchange.keeps_handleServerKeyExchange body)) ?_
  refine keeps_ite (recorded exchange.keeps_handleServerHelloDone) ?_
  exact keeps_ite (exchange.keeps_handleServerFinished body) (keeps_pure ())

theorem reacts_exchange : ExchangeRelation primitives Reacts where
  refused := reacts_fail
  entered := reacts_enter
  recorded message := reacts_of_sends (sends_record message)
  drawn := reacts_of_sends sends_draw
  serverRandom _ _ := rfl
  serverParams _ _ _ := rfl
  clientFlight := leads_sendClientFlight primitives (fun _ _ => Sends.reacts) (fun _ _ => rfl)
    fun _ _ => rfl
  finished _ _ _ _ _ := rfl
  settled _ := rfl

theorem reacts_handleServerHelloDone : Keeps Reacts (handleServerHelloDone primitives) :=
  (reacts_exchange primitives).keeps_handleServerHelloDone

theorem reacts_handleMessage (msgType : UInt8) (msgSeq : ℕ) (body : ByteString) :
    Keeps Reacts (handleMessage primitives msgType msgSeq body) :=
  (reacts_exchange primitives).keeps_handleMessage msgType msgSeq body

/-! ### Fragments -/

theorem collects_reassemble (msgSeq length fragOff : ℕ) (body : ByteString) :
    Keeps Collects (reassemble msgSeq length fragOff body) := by
  intro client
  refine leads_modify_bind rfl ?_
  apply leads_get_bind
  refine leads_ite (fun _ => rfl) fun _ => ?_
  refine leads_ite (fun _ => rfl) fun _ => ?_
  exact leads_ite (fun _ => rfl) fun _ => rfl

/-- A challenge is dropped, counted or answered. -/
theorem keeps_handleHelloVerifyRequest {relation : DtlsPskClient → DtlsPskClient → Prop}
    [Std.Refl relation] [IsTrans DtlsPskClient relation]
    (counted : ∀ client helloVerifyCount, relation client { client with helloVerifyCount })
    (refused : ∀ reason, Keeps relation (fail reason))
    (answered : ∀ cookie msgSeq,
      Keeps relation (handleHelloVerifyRequest.answer primitives msgSeq cookie))
    (body : ByteString) (msgSeq : ℕ) :
    Keeps relation (handleHelloVerifyRequest primitives body msgSeq) := by
  intro client
  apply leads_get_bind
  refine leads_ite (fun _ => keeps_pure () client) fun _ => ?_
  refine leads_ite (fun _ => keeps_pure () client) fun _ => ?_
  refine leads_python_bind fun cookieLen _ => ?_
  refine leads_ite (fun _ => keeps_pure () client) fun _ => ?_
  refine leads_ite (fun _ => ?_) fun _ => answered _ msgSeq client
  refine leads_set_bind (counted client _) ?_
  refine leads_ite (fun _ => refused _ _) fun _ => ?_
  exact leads_ite (fun _ => keeps_pure () _) fun _ => answered _ msgSeq _

/-- The loop keeps what refusing and every pass keep; a fragment lies within its message. -/
theorem keeps_handleFragments_of {relation : DtlsPskClient → DtlsPskClient → Prop}
    [Std.Refl relation] [IsTrans DtlsPskClient relation]
    (refused : ∀ reason, Keeps relation (fail reason))
    (fragment : ∀ header body, header.fragOff + body.length ≤ header.length →
      Keeps relation (handleFragment primitives header body))
    (helloVerifyOnly : Bool) (payload : ByteString) :
    Keeps relation (handleFragments primitives helloVerifyOnly payload) := by
  induction size : payload.length using Nat.strong_induction_on generalizing payload with
  | _ size ih =>
      rw [handleFragments]
      by_cases short : payload.length < handshakeHeader
      · rw [if_pos short]
        exact keeps_pure ()
      · rw [if_neg short]
        refine keeps_bind (keeps_python _) fun header => keeps_ite (keeps_pure ()) fun client => ?_
        refine leads_ite (fun _ => keeps_pure () client) fun fits => ?_
        refine leads_ite (fun _ => refused _ client) fun _ => ?_
        refine keeps_bind (fragment header _ ?_) (fun goesOn => ?_) client
        · rw [List.length_take]
          omega
        · refine keeps_ite (ih _ ?_ _ rfl) (keeps_pure ())
          simp only [List.length_drop, handshakeHeader] at short ⊢
          omega

/-- A relation that what is done with one fragment keeps, whatever is stored to be delivered. -/
structure MessageRelation (relation : DtlsPskClient → DtlsPskClient → Prop) : Prop where
  refused : ∀ reason, Keeps relation (fail reason)
  stored : ∀ client ready, relation client { client with ready }
  helloVerify : ∀ body msgSeq, Keeps relation (handleHelloVerifyRequest primitives body msgSeq)
  reassembled : ∀ msgSeq length fragOff body,
    Keeps relation (reassemble msgSeq length fragOff body)
  delivered : ∀ msgType msgSeq body,
    Keeps relation (deliverHandshake primitives msgType msgSeq body)

namespace MessageRelation

variable {primitives} {relation : DtlsPskClient → DtlsPskClient → Prop} [Std.Refl relation]
  [IsTrans DtlsPskClient relation]

theorem keeps_deliverReady (messages : MessageRelation primitives relation) (count : ℕ) :
    Keeps relation (deliverReady primitives count) := by
  induction count with
  | zero => exact keeps_pure ()
  | succ count ih =>
      intro client
      apply leads_get_bind
      rcases client.ready.get? client.nextRecvMsgSeq with _ | ⟨msgType, body⟩
      · exact refl_of relation client
      · refine leads_set_bind (messages.stored client _) ?_
        refine keeps_bind (messages.delivered _ _ _) (fun _ => ?_) _
        exact keeps_get_bind fun _ => keeps_ite (keeps_pure ()) ih

theorem keeps_handleFragment (messages : MessageRelation primitives relation)
    (header : FragmentHeader) (body : ByteString) :
    Keeps relation (handleFragment primitives header body) := by
  apply keeps_ite
  · exact keeps_bind (messages.helloVerify body header.msgSeq) fun _ => keeps_pure true
  · refine keeps_get_bind fun _ => keeps_ite (keeps_pure true) ?_
    refine keeps_bind (messages.reassembled _ _ _ _) fun complete client => ?_
    cases complete with
    | none => exact keeps_get_bind (fun _ => keeps_pure _) client
    | some complete =>
        apply leads_get_bind
        refine leads_ite (fun _ => keeps_bind (messages.refused _) (fun _ => keeps_pure false) _)
          fun _ => ?_
        refine leads_set_bind (messages.stored client _) ?_
        refine keeps_bind (messages.keeps_deliverReady _) (fun _ => ?_) _
        exact keeps_get_bind fun _ => keeps_pure _

theorem keeps_handleFragments (messages : MessageRelation primitives relation)
    (helloVerifyOnly : Bool) (payload : ByteString) :
    Keeps relation (handleFragments primitives helloVerifyOnly payload) :=
  keeps_handleFragments_of primitives messages.refused
    (fun header body _ => messages.keeps_handleFragment header body) helloVerifyOnly payload

theorem keeps_handleHandshakeFragment (messages : MessageRelation primitives relation)
    (payload : ByteString) (authenticated helloVerifyOnly : Bool) :
    Keeps relation (handleHandshakeFragment primitives payload authenticated helloVerifyOnly) :=
  keeps_get_bind fun _ =>
    keeps_ite (keeps_pure ()) (messages.keeps_handleFragments helloVerifyOnly payload)

end MessageRelation

theorem negotiates_of_reacts {α : Type} {computation : Psk α} (reacts : Keeps Reacts computation) :
    Keeps Negotiates computation :=
  reacts.mono fun _ _ => Reacts.negotiates

theorem negotiates_of_sends {α : Type} {computation : Psk α} (sends : Keeps Sends computation) :
    Keeps Negotiates computation :=
  negotiates_of_reacts (reacts_of_sends sends)

theorem negotiates_fail (reason : String) : Keeps Negotiates (fail reason) := fun _ => rfl

theorem negotiates_answer (cookie : ByteString) (msgSeq : ℕ) :
    Keeps Negotiates (handleHelloVerifyRequest.answer primitives msgSeq cookie) := by
  refine keeps_bind (keeps_modify fun _ => rfl) fun _ => ?_
  exact keeps_bind (negotiates_of_sends (sends_sendClientHello primitives cookie))
    fun _ => negotiates_of_reacts (reacts_enter _)

theorem negotiates_deliverHandshake (msgType : UInt8) (msgSeq : ℕ) (body : ByteString) :
    Keeps Negotiates (deliverHandshake primitives msgType msgSeq body) := by
  rw [deliverHandshake_eq]
  refine keeps_bind (keeps_modify fun _ => rfl) fun _ => ?_
  exact negotiates_of_reacts (reacts_handleMessage primitives msgType msgSeq body)

theorem negotiates_handleHandshakeFragment (payload : ByteString)
    (authenticated helloVerifyOnly : Bool) :
    Keeps Negotiates
      (handleHandshakeFragment primitives payload authenticated helloVerifyOnly) :=
  MessageRelation.keeps_handleHandshakeFragment {
    refused := negotiates_fail
    stored := fun _ _ => rfl
    helloVerify := keeps_handleHelloVerifyRequest primitives (fun _ _ => rfl) negotiates_fail
      (negotiates_answer primitives)
    reassembled := fun _ _ _ _ => (collects_reassemble _ _ _ _).mono fun _ _ collects =>
      collects.same withoutMessages fun _ => rfl
    delivered := negotiates_deliverHandshake primitives } payload authenticated helloVerifyOnly

end DtlsPskClient

end SmartThingsLocal
