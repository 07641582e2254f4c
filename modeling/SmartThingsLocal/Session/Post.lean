import SmartThingsLocal.Session.BlockwiseGet

/-!
# Single-frame POST

`post` for a body of at most one block, and the `_wait_live` it waits in, as the
calling thread runs them: one step for each block under a lock, for each liveness
check, for each send and for each part of a wait, so that the reader can move in
between. Each step reads one clock once.
-/

namespace SmartThingsLocal

/-- Where `_wait_live` is. -/
inductive WaitPoint
  | entering (perWait : ℚ)
  | slicing (deadline : ℚ)
  | polling (deadline sliceEnd : ℚ)
  | checking (deadline : ℚ)
  deriving DecidableEq, Repr

/-- What a step of `_wait_live` leads to. -/
inductive WaitOutcome
  | goesOn (point : WaitPoint)
  | woken
  | expired
  | closed (error : SmartThingsLocalError)
  deriving DecidableEq, Repr

/-- What a session allows its writes. -/
structure WriteSettings where
  writeMaxAttempts : ℕ
  minReqInterval : ℚ

/-- The arguments of `post`, already validated. -/
structure PostArguments where
  pathSegs : List String
  body : ByteString
  timeout : ℚ
  query : Query
  extraOptions : List CoapOption

/-- The code and the payload of a response. -/
abbrev PostResult := ℕ × ByteString

/-- The local variables of a write once its request is registered. -/
structure WriteExchange where
  tok : ByteString
  mid : ℕ
  request : RequestId
  datagram : ByteString
  deadline : ℚ
  deriving DecidableEq, Repr

/-- Where the attempts of `post` are. -/
inductive PostStage
  | pacing (attempt : ℕ)
  | looking (attempt : ℕ)
  | checking (attempt : ℕ) (acknowledged : Bool)
  | sending (attempt : ℕ)
  | reading (attempt : ℕ)
  | waiting (attempt : ℕ) (acknowledged : Bool) (wait : WaitPoint)
  | retrying (attempt : ℕ)
  | leaving (result : Except SmartThingsLocalError PostResult)
  deriving DecidableEq, Repr

inductive PostPoint
  | start
  | allocate
  | register (tok : ByteString)
  | exchange (call : WriteExchange) (stage : PostStage)
  | finished (result : Except GetFailure PostResult)
  deriving DecidableEq, Repr

namespace Session

/-- One step of `_wait_live`. -/
def waitStep (session : Session) (request : RequestId) (now : ℚ) : WaitPoint → WaitOutcome
  | .entering perWait => .goesOn (.slicing (now + perWait))
  | .slicing deadline =>
      let slice := min blockLivenessPoll (deadline - now)
      if slice ≤ 0 then .expired else .goesOn (.polling deadline (now + slice))
  | .polling deadline sliceEnd =>
      if (session.registry.requests request).event then .woken
      else if now < sliceEnd then .goesOn (.polling deadline sliceEnd)
      else .goesOn (.checking deadline)
  | .checking deadline =>
      match session.liveness.checkLive with
      | .error error => .closed error
      | .ok () => .goesOn (.slicing deadline)

theorem waitStep_late (session : Session) (request : RequestId) {now deadline : ℚ}
    (late : deadline ≤ now) : waitStep session request now (.slicing deadline) = .expired := by
  apply if_pos
  exact (min_le_right _ _).trans (sub_nonpos.mpr late)

theorem waitStep_early (session : Session) (request : RequestId) {now deadline : ℚ}
    (early : now < deadline) : waitStep session request now (.slicing deadline) =
      .goesOn (.polling deadline (now + min blockLivenessPoll (deadline - now))) := by
  apply if_neg
  rw [not_le, lt_min_iff]
  exact ⟨by norm_num [blockLivenessPoll], sub_pos.mpr early⟩

/-- The options of every request of `post`, before the caller's own. -/
def postOptions (arguments : PostArguments) : List CoapOption :=
  arguments.pathSegs.map (fun segment => (Coap.uriPath, optionBytesOf segment)) ++
    arguments.query.map (fun value => (Coap.uriQuery, optionBytesOf value)) ++
    [(Coap.contentFormat, Coap.cfCbor), (Coap.accept, Coap.cfCbor)]

/-- The last attempt waits for the rest of the budget. -/
def lastAttempt (settings : WriteSettings) (attempt : ℕ) : Bool :=
  attempt = settings.writeMaxAttempts - 1

/-- Seconds an attempt of `post` waits. -/
def postWait (settings : WriteSettings) (attempt : ℕ) (acknowledged : Bool) (remaining : ℚ) : ℚ :=
  if acknowledged ∨ lastAttempt settings attempt then remaining
  else min (writeAckTimeout * 2 ^ attempt) remaining

/-- One step of an attempt of `post` at `now`; `delivered` says whether the socket takes a send. -/
def postStage (settings : WriteSettings) (session : Session) (now : ℚ) (delivered : Bool)
    (call : WriteExchange) : PostStage → Session × PostStage × List Effect
  | .pacing attempt => (session, .looking attempt, [])
  | .looking attempt =>
      let record := session.registry.requests call.request
      -- an answer that landed while the write was paced is not sent again
      if record.message ≠ none ∨ record.err ≠ none then (session, .reading attempt, [])
      else (session, .checking attempt record.acknowledged, [])
  | .checking attempt acknowledged =>
      match session.liveness.checkLive with
      | .error error => (session, .leaving (.error error), [])
      | .ok () =>
          if acknowledged then (session, .reading attempt, []) else (session, .sending attempt, [])
  | .sending attempt =>
      match session.liveness.sendDgram delivered with
      | .ok () => (session, .reading attempt, [.sent call.datagram])
      | .error error =>
          -- a retransmission is best effort, the first send is not
          if error = .endpointError ∧ attempt ≠ 0 then (session, .reading attempt, [])
          else (session, .leaving (.error error), [])
  | .reading attempt =>
      let record := session.registry.requests call.request
      match record.err, record.message with
      | some error, _ => (session, .leaving (.error error), [])
      | none, some message => (session, .leaving (.ok (message.code, message.payload)), [])
      | none, none =>
          let next := { session with
            registry := session.registry.modifyRequest call.request fun record =>
              { record with event := false } }
          let remaining := call.deadline - now
          if remaining ≤ 0 then (next, .leaving (.error .sessionTimeoutError), [])
          else
            (next, .waiting attempt record.acknowledged
              (.entering (postWait settings attempt record.acknowledged remaining)), [])
  | .waiting attempt acknowledged wait =>
      match waitStep session call.request now wait with
      | .goesOn point => (session, .waiting attempt acknowledged point, [])
      | .woken => (session, .reading attempt, [])
      | .expired =>
          if acknowledged ∨ lastAttempt settings attempt then
            (session, .leaving (.error .sessionTimeoutError), [])
          else (session, .retrying attempt, [])
      | .closed error => (session, .leaving (.error error), [])
  | .retrying attempt =>
      if call.deadline - now ≤ settings.minReqInterval then
        (session, .leaving (.error .sessionTimeoutError), [])
      else (session, .pacing (attempt + 1), [])
  | .leaving result => (session, .leaving result, [])

/-- One step of `post` for a body of at most one block. -/
def postStep (settings : WriteSettings) (arguments : PostArguments) (session : Session) (now : ℚ)
    (delivered : Bool) : PostPoint → Session × PostPoint × List Effect
  | .start =>
      match session.liveness.checkLive with
      | .error error => (session, .finished (.error (.session error)), [])
      | .ok () => (session, .allocate, [])
  | .allocate =>
      let (tok, registry) := session.registry.nextTok
      ({ session with registry }, .register tok, [])
  | .register tok =>
      match session.registry.registerPendingRequest tok {} with
      | (.error error, registry) =>
          ({ session with registry }, .finished (.error (.session error)), [])
      | (.ok (mid, request), registry) =>
          let next := { session with registry }
          match buildCoap Coap.typeCon Coap.methodPost mid tok
            (postOptions arguments ++ arguments.extraOptions) arguments.body with
          | .error error => (next, .finished (.error (.python error)), [])
          | .ok datagram =>
              (next,
                .exchange ⟨tok, mid, request, datagram, now + arguments.timeout⟩ (.pacing 0), [])
  | .exchange call (.leaving result) =>
      let next := { session with
        registry := session.registry.unregisterPendingRequest call.tok call.mid call.request }
      (next, .finished (result.mapError GetFailure.session), [])
  | .exchange call stage =>
      let (next, nextStage, effects) := postStage settings session now delivered call stage
      (next, .exchange call nextStage, effects)
  | .finished result => (session, .finished result, [])

end Session

end SmartThingsLocal
