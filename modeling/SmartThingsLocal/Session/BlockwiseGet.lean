import SmartThingsLocal.Coap.Block2
import SmartThingsLocal.Session.Registry

/-!
# Blockwise GET

`_blockwise_get`, `_blockwise_get_once`, `_exchange_block` and `_wait_live` as the
calling thread runs them: one step for each block under a lock, for each send and
for each wait, so that the reader and other threads can move in between. A
`GetPoint` is what the thread holds in its local variables between two steps.
-/

namespace SmartThingsLocal

/-- The arguments of `_blockwise_get`. -/
structure GetArguments where
  pathSegs : List String
  query : Query
  timeout : ℚ
  extraOptions : List CoapOption

/-- How a GET fails: with a classified failure, or with an exception of the encoders. -/
inductive GetFailure
  | session (error : SmartThingsLocalError)
  | python (error : PythonError)
  deriving DecidableEq, Repr

structure GetResult where
  code : Option ℕ
  payload : ByteString
  blocks : ℕ
  tok : ByteString
  deriving DecidableEq, Repr

/-- The local variables of `_blockwise_get_once`, in the first or the second attempt. -/
structure BlockTransfer where
  restarted : Bool
  tok : ByteString
  accumulator : Block2Accumulator
  etag : Option ByteString
  deadline : ℚ
  deriving DecidableEq, Repr

/-- The local variables of `_exchange_block`. -/
structure BlockExchange where
  mid : ℕ
  request : RequestId
  datagram : ByteString
  deriving DecidableEq, Repr

/-- Where `_exchange_block` is once its request is registered. -/
inductive ExchangePoint
  | checking (attempt : ℕ)
  | sending (attempt : ℕ)
  | reading (attempt : ℕ)
  | waiting (attempt : ℕ) (deadline : ℚ) (acknowledged : Bool)
  | polling (attempt : ℕ) (deadline sliceEnd : ℚ) (acknowledged : Bool)
  | leaving (result : Except SmartThingsLocalError CoapMessage)
  deriving DecidableEq, Repr

inductive GetPoint
  | start (restarted : Bool)
  | request (transfer : BlockTransfer)
  | exchange (transfer : BlockTransfer) (exchange : BlockExchange) (point : ExchangePoint)
  | finished (result : Except GetFailure GetResult)
  deriving DecidableEq, Repr

/-- `_block_num_matches`: whether a response answers the requested byte offset. -/
def blockNumMatches (message : CoapMessage) (num szx : ℕ) : Bool :=
  if message.code >>> 5 ≠ 2 then true
  else
    match optionValues message.options Coap.block2 with
    | [] => num = 0
    | value :: _ =>
        let (responseNum, _, responseSzx) := blockFields value
        responseNum <<< (responseSzx + 4) = num <<< (szx + 4)

namespace Session

/-- Leave an attempt without a response: give up, or send the request again. -/
def afterAttempt (deadline now : ℚ) (attempt : ℕ) : ExchangePoint :=
  if deadline - now ≤ 0 ∨ attempt = blockMaxAttempts - 1 then
    .leaving (.error .sessionTimeoutError)
  else .checking (attempt + 1)

/-- An acknowledged request is not sent again. -/
def afterWait (deadline now : ℚ) (attempt : ℕ) (acknowledged : Bool) : ExchangePoint :=
  if acknowledged then .leaving (.error .sessionTimeoutError)
  else afterAttempt deadline now attempt

/-- What one look into the container finds, and the record afterwards. -/
def readContainer (record : PendingRequest) (num szx : ℕ) :
    Option (Except SmartThingsLocalError CoapMessage) × PendingRequest :=
  match record.err, record.message with
  | some error, _ => (some (.error error), { record with event := false })
  | none, some message =>
      if blockNumMatches message num szx then (some (.ok message), record)
      else (none, { record with message := none, event := false })
  | none, none => (none, { record with event := false })

/-- One step of `_exchange_block` at `now`; `delivered` says whether the socket takes a send. -/
def exchangeStep (session : Session) (now : ℚ) (delivered : Bool) (transfer : BlockTransfer)
    (exchange : BlockExchange) : ExchangePoint → Session × ExchangePoint × List Effect
  | .checking attempt =>
      match session.liveness.checkLive with
      | .error error => (session, .leaving (.error error), [])
      | .ok () =>
          if now ≥ transfer.deadline then
            (session, .leaving (.error .sessionTimeoutError), [])
          else (session, .sending attempt, [])
  | .sending attempt =>
      match session.liveness.sendDgram delivered with
      | .error error => (session, .leaving (.error error), [])
      | .ok () => (session, .reading attempt, [.sent exchange.datagram])
  | .reading attempt =>
      let (found, record) := readContainer (session.registry.requests exchange.request)
        transfer.accumulator.expectedNumber transfer.accumulator.szx
      let next := { session with
        registry := session.registry.modifyRequest exchange.request fun _ => record }
      match found with
      | some result => (next, .leaving result, [])
      | none =>
          let remaining := transfer.deadline - now
          if remaining ≤ 0 then
            (next, afterWait transfer.deadline now attempt record.acknowledged, [])
          else
            let perWait :=
              if record.acknowledged then remaining
              else min blockAckTimeout (max (1 / 10) remaining)
            (next, .waiting attempt (now + perWait) record.acknowledged, [])
  | .waiting attempt deadline acknowledged =>
      let slice := min blockLivenessPoll (deadline - now)
      if slice ≤ 0 then
        (session, afterWait transfer.deadline now attempt acknowledged, [])
      else (session, .polling attempt deadline (now + slice) acknowledged, [])
  | .polling attempt deadline sliceEnd acknowledged =>
      if (session.registry.requests exchange.request).event then (session, .reading attempt, [])
      else if now < sliceEnd then
        (session, .polling attempt deadline sliceEnd acknowledged, [])
      else
        match session.liveness.checkLive with
        | .error error => (session, .leaving (.error error), [])
        | .ok () => (session, .waiting attempt deadline acknowledged, [])
  | .leaving result => (session, .leaving result, [])

/-- A success response under another ETag than the first block's. -/
def etagChanged (transfer : BlockTransfer) (message : CoapMessage) : Bool :=
  message.code >>> 5 = 2 ∧ transfer.accumulator.blocksReceived ≠ 0 ∧ transfer.etag ≠ none ∧
    (optionValues message.options Coap.etag).head? ≠ transfer.etag

/-- The ETag that later blocks are compared with: the first block's. -/
def comparedEtag (transfer : BlockTransfer) (message : CoapMessage) : Option ByteString :=
  if message.code >>> 5 = 2 ∧ transfer.accumulator.blocksReceived = 0 then
    (optionValues message.options Coap.etag).head?
  else transfer.etag

/-- `_blockwise_get_once` on the response to a block request. -/
def receiveBlock (transfer : BlockTransfer) (message : CoapMessage) : GetPoint :=
  if etagChanged transfer message then
    -- `_EtagChanged`: the transfer is restarted once
    if transfer.restarted then .finished (.error (.session .blockwiseError)) else .start true
  else
    match transfer.accumulator.respond message with
    | (.error error, _) => .finished (.error (.session error))
    | (.ok .complete, accumulator) =>
        .finished (.ok ⟨accumulator.code, accumulator.payload, accumulator.blocksReceived,
          transfer.tok⟩)
    | (.ok _, accumulator) =>
        .request { transfer with accumulator, etag := comparedEtag transfer message }

/-- One step of `_blockwise_get`. -/
def getStep (arguments : GetArguments) (session : Session) (now : ℚ) (delivered : Bool) :
    GetPoint → Session × GetPoint × List Effect
  | .start restarted =>
      let (tok, registry) := session.registry.nextTok
      let next := { session with registry }
      match Block2Accumulator.create tok Coap.maxBlock2Blocks Coap.maxBlock2PayloadBytes none with
      | .error error => (next, .finished (.error (.python error)), [])
      | .ok accumulator =>
          (next, .request ⟨restarted, tok, accumulator, none, now + arguments.timeout⟩, [])
  | .request transfer =>
      let num := transfer.accumulator.expectedNumber
      if transfer.accumulator.complete then
        (session, .finished (.error (.session .blockwiseError)), [])
      else
        match session.registry.registerPendingRequest transfer.tok {} with
        | (.error error, registry) =>
            ({ session with registry }, .finished (.error (.session error)), [])
        | (.ok (mid, request), registry) =>
            let next := { session with registry }
            match buildGetRequest Coap.typeCon mid transfer.tok arguments.pathSegs arguments.query
              (some Coap.cfCbor) (if num > 0 then some num else none) transfer.accumulator.szx
              arguments.extraOptions with
            | .error error => (next, .finished (.error (.python error)), [])
            | .ok datagram =>
                (next, .exchange transfer ⟨mid, request, datagram⟩ (.checking 0), [])
  | .exchange transfer exchange (.leaving result) =>
      let next := { session with
        registry := session.registry.unregisterPendingRequest transfer.tok exchange.mid
          exchange.request }
      match result with
      | .error error => (next, .finished (.error (.session error)), [])
      | .ok message => (next, receiveBlock transfer message, [])
  | .exchange transfer exchange point =>
      let (next, nextPoint, effects) := exchangeStep session now delivered transfer exchange point
      (next, .exchange transfer exchange nextPoint, effects)
  | .finished result => (session, .finished result, [])

theorem getStep_exchange (arguments : GetArguments) (session : Session) (now : ℚ)
    (delivered : Bool) (transfer : BlockTransfer) (exchange : BlockExchange)
    {point : ExchangePoint} (inside : ∀ result, point ≠ .leaving result) :
    getStep arguments session now delivered (.exchange transfer exchange point) =
      ((exchangeStep session now delivered transfer exchange point).1,
        .exchange transfer exchange
          (exchangeStep session now delivered transfer exchange point).2.1,
        (exchangeStep session now delivered transfer exchange point).2.2) := by
  cases point with
  | leaving result => exact absurd rfl (inside result)
  | _ => rfl

/-! ### What a GET leaves alone -/

/-- A step that only changes the registries and only sends. -/
structure OnlySends (session next : Session) (effects : List Effect) : Prop where
  registry : next = { session with registry := next.registry }
  sent : ∀ effect ∈ effects, ∃ datagram, effect = .sent datagram

theorem OnlySends.of_registry (session : Session) (registry : Registry) :
    OnlySends session { session with registry } [] :=
  ⟨rfl, by simp⟩

theorem exchangeStep_onlySends (session : Session) (now : ℚ) (delivered : Bool)
    (transfer : BlockTransfer) (exchange : BlockExchange) (point : ExchangePoint) :
    OnlySends session (exchangeStep session now delivered transfer exchange point).1
      (exchangeStep session now delivered transfer exchange point).2.2 := by
  cases point with
  | sending attempt =>
      simp only [exchangeStep]
      split
      · exact .of_registry session session.registry
      · exact ⟨rfl, by simp⟩
  | _ =>
      simp only [exchangeStep]
      repeat' split
      all_goals exact .of_registry session _

theorem getStep_onlySends (arguments : GetArguments) (session : Session) (now : ℚ)
    (delivered : Bool) (point : GetPoint) :
    OnlySends session (getStep arguments session now delivered point).1
      (getStep arguments session now delivered point).2.2 := by
  cases point with
  | start restarted =>
      simp only [getStep]
      split <;> exact .of_registry session _
  | request transfer =>
      simp only [getStep]
      split
      · exact .of_registry session session.registry
      · split
        · exact .of_registry session _
        · split <;> exact .of_registry session _
  | finished result => exact .of_registry session session.registry
  | exchange transfer exchange point =>
      by_cases leaves : ∃ result, point = .leaving result
      · rcases leaves with ⟨result, rfl⟩
        cases result <;> exact .of_registry session _
      · rw [getStep_exchange arguments session now delivered transfer exchange
          (not_exists.mp leaves)]
        exact exchangeStep_onlySends session now delivered transfer exchange point

end Session

end SmartThingsLocal
