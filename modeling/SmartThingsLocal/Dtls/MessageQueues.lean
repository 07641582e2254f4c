import SmartThingsLocal.Dtls.MethodFrames
import SmartThingsLocal.Foundation.Mirrors

/-!
# The queues of messages

What is being reassembled and what waits to be delivered is of no concern to the handlers of
messages: a message is handled in the same way, and with the same result, whatever the queues
hold.
-/

namespace SmartThingsLocal

open Dtls Stateful

/-- The tables of incomplete and of waiting messages, and the log of what has happened to them. -/
structure MessageQueues where
  pending : OrderedDict ℕ PendingMessage
  ready : OrderedDict ℕ (UInt8 × ByteString)
  messages : List MessageEvent

namespace DtlsPskClient

def queues (client : DtlsPskClient) : MessageQueues :=
  ⟨client.pending, client.ready, client.history.messages⟩

/-- The client with other queues. -/
def withQueues (queues : MessageQueues) (client : DtlsPskClient) : DtlsPskClient :=
  { client with
    pending := queues.pending
    ready := queues.ready
    history := { client.history with messages := queues.messages } }

variable (primitives : Primitives) (queues : MessageQueues)

theorem oblivious_python {α : Type} (result : Except PythonError α) :
    Oblivious (withQueues queues) (python result) :=
  oblivious_readOnly _

theorem oblivious_draw : Oblivious (withQueues queues) draw := fun _ => rfl

theorem oblivious_fail (reason : String) : Oblivious (withQueues queues) (fail reason) :=
  fun _ => rfl

theorem oblivious_raiseFailed {α : Type} :
    Oblivious (withQueues queues) (raiseFailed : Psk α) :=
  fun _ => rfl

theorem oblivious_enter (state : HandshakeState) : Oblivious (withQueues queues) (enter state) :=
  fun _ => rfl

theorem oblivious_startFlight : Oblivious (withQueues queues) startFlight := fun _ => rfl

theorem oblivious_record (message : ByteString) :
    Oblivious (withQueues queues) (record message) :=
  fun _ => rfl

theorem oblivious_protectFragment (contentType : UInt8) (payload : ByteString) :
    Oblivious (withQueues queues) (protectFragment primitives contentType payload) := by
  refine oblivious_get_bind (fun _ => rfl) fun client => ?_
  cases client.transform with
  | none => exact oblivious_pure payload
  | some transform =>
      apply oblivious_ite (oblivious_pure payload)
      exact oblivious_bind (oblivious_draw queues) fun _ => oblivious_python queues _

theorem oblivious_emitRecord (contentType : UInt8) (payload : ByteString) :
    Oblivious (withQueues queues) (emitRecord primitives contentType payload) := by
  have failed (reason : String) : Oblivious (withQueues queues)
      (do fail reason; raiseFailed : Psk Unit) :=
    oblivious_bind (oblivious_fail queues reason) fun _ => oblivious_raiseFailed queues
  refine oblivious_get_bind (fun _ => rfl) fun client => ?_
  apply oblivious_ite (failed _)
  refine oblivious_bind (oblivious_protectFragment primitives queues _ _) fun fragment => ?_
  refine oblivious_bind (oblivious_python queues _) fun epoch => ?_
  refine oblivious_bind (oblivious_python queues _) fun seq => ?_
  refine oblivious_bind (oblivious_python queues _) fun length => ?_
  refine oblivious_bind (oblivious_modify fun _ => rfl) fun _ => ?_
  apply oblivious_ite (failed _)
  refine oblivious_bind (oblivious_modify fun _ => rfl) fun _ => ?_
  apply oblivious_ite _ (oblivious_pure ())
  exact oblivious_bind (oblivious_draw queues) fun index => oblivious_modify fun _ => rfl

theorem oblivious_emitHandshake (msgType : UInt8) (body : ByteString) :
    Oblivious (withQueues queues) (emitHandshake primitives msgType body) := by
  refine oblivious_get_bind (fun _ => rfl) fun client => ?_
  refine oblivious_bind (oblivious_python queues _) fun message => ?_
  refine oblivious_bind (oblivious_modify fun _ => rfl) fun _ => ?_
  exact oblivious_emitRecord primitives queues _ _

theorem oblivious_sendClientFlight :
    Oblivious (withQueues queues) (sendClientFlight primitives) := by
  refine oblivious_bind (oblivious_modify fun _ => rfl) fun _ => ?_
  refine oblivious_bind (oblivious_startFlight queues) fun _ => ?_
  refine oblivious_get_bind (fun _ => rfl) fun client => ?_
  refine oblivious_bind (oblivious_python queues _) fun privateKey => ?_
  refine oblivious_bind (oblivious_python queues _) fun identityLength => ?_
  refine oblivious_bind (oblivious_python queues _) fun publicLength => ?_
  refine oblivious_bind (oblivious_emitHandshake primitives queues _ _) fun _ => ?_
  refine oblivious_bind (oblivious_python queues _) fun peer => ?_
  refine oblivious_bind (oblivious_python queues _) fun masterSecret => ?_
  refine oblivious_bind (oblivious_modify fun _ => rfl) fun _ => ?_
  refine oblivious_bind (oblivious_emitRecord primitives queues _ _) fun _ => ?_
  refine oblivious_bind (oblivious_modify fun _ => rfl) fun _ => ?_
  exact oblivious_get_bind (fun _ => rfl) fun client =>
    oblivious_emitHandshake primitives queues _ _

theorem oblivious_handleServerHello (body : ByteString) :
    Oblivious (withQueues queues) (handleServerHello body) := by
  intro client
  apply mirrors_get_bind
  apply mirrors_ite (oblivious_pure () client)
  apply mirrors_ite (oblivious_fail queues _ client)
  apply mirrors_ite (oblivious_fail queues _ client)
  apply mirrors_set_bind
  refine oblivious_bind (oblivious_python queues _) (fun sessionLen => ?_) _
  refine oblivious_ite (oblivious_fail queues _) (oblivious_ite (oblivious_fail queues _) ?_)
  exact oblivious_bind (oblivious_python queues _) fun compression =>
    oblivious_ite (oblivious_fail queues _) (oblivious_enter queues _)

theorem oblivious_handleServerKeyExchange (body : ByteString) :
    Oblivious (withQueues queues) (handleServerKeyExchange primitives body) := by
  refine oblivious_get_bind (fun _ => rfl) fun client => ?_
  refine oblivious_ite (oblivious_pure ()) (oblivious_ite (oblivious_fail queues _)
    (oblivious_ite (oblivious_fail queues _) ?_))
  refine oblivious_bind (oblivious_python queues _) fun curveType => ?_
  refine oblivious_ite (oblivious_fail queues _) (oblivious_ite (oblivious_fail queues _) ?_)
  refine oblivious_bind (oblivious_python queues _) fun pointLen => ?_
  refine oblivious_ite (oblivious_fail queues _) (oblivious_ite (oblivious_fail queues _) ?_)
  refine oblivious_bind (oblivious_draw queues) fun index => ?_
  exact oblivious_bind (oblivious_modify fun _ => rfl) fun _ => oblivious_enter queues _

theorem oblivious_handleServerHelloDone :
    Oblivious (withQueues queues) (handleServerHelloDone primitives) := by
  refine oblivious_get_bind (fun _ => rfl) fun client => ?_
  refine oblivious_ite ?_ (oblivious_pure ())
  exact oblivious_bind (oblivious_enter queues _) fun _ =>
    oblivious_sendClientFlight primitives queues

theorem oblivious_handleServerFinished (body : ByteString) :
    Oblivious (withQueues queues) (handleServerFinished primitives body) := by
  intro client
  apply mirrors_get_bind
  apply mirrors_ite (oblivious_pure () client)
  apply mirrors_set_bind
  refine oblivious_ite (oblivious_fail queues _) ?_ _
  exact oblivious_bind (oblivious_enter queues _) fun _ => oblivious_modify fun _ => rfl

theorem oblivious_handleMessage (msgType : UInt8) (msgSeq : ℕ) (body : ByteString) :
    Oblivious (withQueues queues) (handleMessage primitives msgType msgSeq body) := by
  have recorded {message : ByteString} {rest : Psk Unit}
      (handler : Oblivious (withQueues queues) rest) :
      Oblivious (withQueues queues) (record message >>= fun _ => rest) :=
    oblivious_bind (oblivious_record queues message) fun _ => handler
  refine oblivious_bind (oblivious_python queues _) fun message => ?_
  refine oblivious_ite (recorded (oblivious_handleServerHello queues body)) ?_
  refine oblivious_ite (recorded (oblivious_handleServerKeyExchange primitives queues body)) ?_
  refine oblivious_ite (recorded (oblivious_handleServerHelloDone primitives queues)) ?_
  exact oblivious_ite (oblivious_handleServerFinished primitives queues body) (oblivious_pure ())

/-- A message is delivered as without the queues, in which only the delivery is noted. -/
theorem exec_deliverHandshake_withQueues (msgType : UInt8) (msgSeq : ℕ) (body : ByteString)
    (client : DtlsPskClient) :
    exec (deliverHandshake primitives msgType msgSeq body) (client.withQueues queues) =
      ((exec (deliverHandshake primitives msgType msgSeq body) client).1,
        (exec (deliverHandshake primitives msgType msgSeq body) client).2.withQueues
          { queues with
            messages := queues.messages ++ [.delivered msgType msgSeq body] }) :=
  oblivious_handleMessage primitives { queues with
    messages := queues.messages ++ [.delivered msgType msgSeq body] } msgType msgSeq body
      (taking msgType msgSeq body client)

end DtlsPskClient

end SmartThingsLocal
