import SmartThingsLocal.Session.Registry
import SmartThingsLocal.Session.Relations

/-!
# Dispatching a datagram

`_dispatch_coap` as the reader thread runs it: one step for each block it runs
under a lock and for each callback, so that other threads can move in between. A
`DispatchPoint` is what the reader holds in its local variables between two
steps. `dispatchCoap` runs a whole dispatch without interference.
-/

namespace SmartThingsLocal

/-- Where the reader is between two steps of a dispatch. -/
inductive DispatchPoint
  | idle
  | acknowledge (mid : ℕ)
  | reset (mid : ℕ)
  | resolve (message : CoapMessage)
  | wake (request : RequestId)
  | identify (message : CoapMessage)
  | order (message : CoapMessage) (href : String) (query : Query)
  | probation (message : CoapMessage) (href : String) (query : Query) (blockwise : Bool)
  | settled (delivery : ObserveDelivery) (blockwise : Bool)
  deriving DecidableEq, Repr

namespace Session

/-- The Block2 test of a notification: whether it has to be re-read, or `none` if malformed. -/
def blockwiseRefetch (options : List CoapOption) : Option Bool :=
  match optionValues options Coap.block2 with
  | [] => some false
  | [value] =>
      if value.length > 3 then none
      else
        let (blockNumber, more, _) := blockFields value
        some (more != 0 || blockNumber != 0)
  | _ => none

/-- The Observe value of a notification: absent, malformed, or a 24-bit integer. -/
inductive ObserveValue
  | absent
  | malformed
  | sequence (value : ℕ)
  deriving DecidableEq, Repr

def observeValue (options : List CoapOption) : ObserveValue :=
  match optionValues options Coap.observe with
  | [] => .absent
  | [value] => if value.length > 3 then .malformed else .sequence (ByteString.toNat value)
  | _ => .malformed

/-- `_queue_refetch`: latest wins for each key, and a full queue takes no new key. -/
def queueRefetch (refetch : RefetchQueue) (key : RefetchKey) (registration : Bool) :
    RefetchQueue × List Effect :=
  if refetch.pending.contains key = false ∧ refetch.pending.size ≥ maxPendingRefetch then
    (refetch, [])
  else
    let seq := refetch.seq + 1
    ({ pending := refetch.pending.set key (seq, registration), seq := seq },
      [.queued key seq registration])

/-- `_deliver_observation` and the callbacks it falls back to. -/
def deliver (callbacks : Callbacks) (delivery : ObserveDelivery) : List Effect :=
  if callbacks.onObserveDelivery then [.observeDelivery delivery]
  else if delivery.legacy ∧ callbacks.onLegacyNotification then
    [.legacyNotification delivery.href delivery.payload]
  else if callbacks.onNotification then [.notification delivery.href delivery.payload]
  else []

/-- The ACK of a confirmable message, unless it cannot be sent any more. -/
def acknowledge (session : Session) (acknowledgement : Option ByteString) : List Effect :=
  match acknowledgement, session.liveness.sendDgram true with
  | some datagram, .ok () => [.sent datagram]
  | _, _ => []

/-- The start of a dispatch: classification and the ACK of a confirmable message. -/
def receive (session : Session) (datagram : ByteString) : DispatchPoint × List Effect :=
  match classifyCoapResponse datagram none none with
  | .error _ => (.idle, [])
  | .ok classification =>
      let effects := session.acknowledge classification.acknowledgement
      match classification.kind with
      | .emptyAck => (.acknowledge classification.message.mid, effects)
      | .reset => (.reset classification.message.mid, effects)
      | .ignore => (.idle, effects)
      | .response => (.resolve classification.message, effects)

/-- A 2.05 notification is ordered against what is recorded for its token. -/
def orderNotification (session : Session) (message : CoapMessage) (href : String) (query : Query)
    (blockwise : Bool) (now : ℚ) : Session × DispatchPoint × List Effect :=
  let tok := message.token
  let settle (registration legacy : Bool) (sequence : Option ℕ) : DispatchPoint :=
    .settled ⟨href, message.payload, query, registration, sequence, legacy⟩ blockwise
  match observeValue message.options with
  | .malformed => (session, .idle, [])
  | .sequence value =>
      match session.relations.acceptSequence tok value now with
      | (none, _) => (session, .idle, [])
      | (some registration, relations) =>
          ({ session with relations }, settle registration false (some value),
            [.accepted tok (some value) now])
  | .absent =>
      match session.relations.acceptPlain tok message.mid with
      | (.ignored, _) => (session, .idle, [])
      | (.legacy, relations) =>
          ({ session with relations }, settle false true none, [.accepted tok none now])
      | (.probation, relations) =>
          ({ session with relations }, .probation message href query blockwise,
            [.accepted tok none now])

/-- One step of the reader at time `now`. -/
def dispatchStep (session : Session) (now : ℚ) :
    DispatchPoint → Session × DispatchPoint × List Effect
  | .idle => (session, .idle, [])
  | .acknowledge mid =>
      match session.registry.acknowledge mid with
      | (none, _) => (session, .idle, [])
      | (some request, registry) => ({ session with registry }, .wake request, [])
  | .reset mid =>
      match session.registry.reset mid with
      | (none, _) => (session, .idle, [])
      | (some request, registry) => ({ session with registry }, .wake request, [])
  | .resolve message =>
      match session.registry.resolve message with
      | (none, _) => (session, .identify message, [])
      | (some request, registry) => ({ session with registry }, .wake request, [])
  | .wake request =>
      ({ session with registry := session.registry.wake request }, .idle, [])
  | .identify message =>
      match session.relations.tokens.get? message.token with
      | none => (session, .idle, [])
      | some href =>
          (session, .order message href (session.relations.query message.token), [])
  | .order message href query =>
      if message.code ≠ 0x45 then
        ({ session with relations := session.relations.retire message.token }, .idle,
          if session.callbacks.onObserveError then [.observeError href message.code] else [])
      else
        match blockwiseRefetch message.options with
        | none => (session, .idle, [])
        | some blockwise => orderNotification session message href query blockwise now
  | .probation message href query blockwise =>
      let effects := if session.callbacks.onObservePending then [.observePending href] else []
      if session.relations.onProbation message.token href query message.mid then
        (session, .settled ⟨href, message.payload, query, true, none, false⟩ blockwise, effects)
      else (session, .idle, effects)
  | .settled delivery blockwise =>
      if blockwise then
        let (refetch, effects) := queueRefetch session.refetch
          ⟨delivery.href, delivery.query, delivery.legacy⟩ delivery.registration
        ({ session with refetch }, .idle, effects)
      else (session, .idle, deliver session.callbacks delivery)

/-- Steps of a dispatch until the reader is idle again, at most `steps` of them. -/
def runDispatch (now : ℚ) : ℕ → Session → DispatchPoint → Session × DispatchPoint × List Effect
  | 0, session, point => (session, point, [])
  | steps + 1, session, point =>
      let (next, nextPoint, effects) := dispatchStep session now point
      let (last, lastPoint, more) := runDispatch now steps next nextPoint
      (last, lastPoint, effects ++ more)

/-- `_dispatch_coap` with no other thread moving in between. -/
def dispatchCoap (session : Session) (now : ℚ) (datagram : ByteString) :
    Session × List Effect :=
  let (point, acknowledged) := receive session datagram
  let (last, _, effects) := runDispatch now 5 session point
  (last, acknowledged ++ effects)

@[simp]
theorem runDispatch_idle (now : ℚ) (steps : ℕ) (session : Session) :
    runDispatch now steps session .idle = (session, .idle, []) := by
  induction steps with
  | zero => rfl
  | succ steps ih => simp [runDispatch, dispatchStep, ih]

theorem runDispatch_succ (now : ℚ) (steps : ℕ) (session : Session) (point : DispatchPoint) :
    runDispatch now (steps + 1) session point =
      let next := dispatchStep session now point
      let rest := runDispatch now steps next.1 next.2.1
      (rest.1, rest.2.1, next.2.2 ++ rest.2.2) := rfl

end Session

end SmartThingsLocal
