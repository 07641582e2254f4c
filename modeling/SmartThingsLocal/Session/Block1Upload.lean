import SmartThingsLocal.Session.Post
import SmartThingsLocal.Session.RequestOptions

/-!
# Block1 upload

`post` for a body of more than one block: `_post_blockwise` and `_exchange_block1`
as the calling thread runs them, one step for each block under a lock, for each
liveness check, for each send and for each part of a wait. All chunks of an upload
share its token; each has its own Message ID and container.
-/

namespace SmartThingsLocal

/-- The raise statements of `_post_blockwise`; every one of them raises `BlockwiseError`. -/
inductive BlockwiseRaise
  | offsetAlignment
  | sizeAlignment
  | afterLoop
  | refused
  deriving DecidableEq, Repr

inductive UploadFailure
  | blockwise (raised : BlockwiseRaise)
  | other (failure : GetFailure)
  deriving DecidableEq, Repr

/-- The local variables of `_post_blockwise`. -/
structure Upload where
  tok : ByteString
  deadline : ℚ
  offset : ℕ
  szx : ℕ
  requestCount : ℕ
  deriving DecidableEq, Repr

/-- One slice of the body and the Block1 values it is sent with. -/
structure UploadChunk where
  num : ℕ
  more : Bool
  szx : ℕ
  start : ℕ
  stop : ℕ
  payload : ByteString
  deriving DecidableEq, Repr

/-- The local variables of `_exchange_block1`. -/
structure ChunkExchange where
  chunk : UploadChunk
  mid : ℕ
  request : RequestId
  datagram : ByteString
  deriving DecidableEq, Repr

/-- Where `_exchange_block1` is once its request is registered. -/
inductive ChunkStage
  | pacing (attempt : ℕ)
  | looking (attempt : ℕ)
  | checking (attempt : ℕ) (acknowledged : Bool)
  | sending (attempt : ℕ)
  | reading (attempt : ℕ)
  | waiting (attempt : ℕ) (acknowledged : Bool) (wait : WaitPoint)
  | retrying (attempt : ℕ)
  | leaving (result : Except GetFailure CoapMessage)
  deriving DecidableEq, Repr

inductive UploadPoint
  | start
  | allocate
  | chunking (upload : Upload)
  | register (upload : Upload) (chunk : UploadChunk)
  | exchange (upload : Upload) (call : ChunkExchange) (stage : ChunkStage)
  | finished (result : Except UploadFailure PostResult)
  deriving DecidableEq, Repr

/-- What `_post_blockwise` does with the response to a chunk. -/
inductive ChunkAnswer
  | continues (szx : ℕ)
  | returns
  | raises (raised : BlockwiseRaise)
  deriving DecidableEq, Repr

namespace Session

/-- What `post` checks of its arguments. -/
def postChecks (arguments : PostArguments) : Except PythonError Unit := do
  let _ ← validatedTextOptions arguments.pathSegs "path_segs" false
  let _ ← validatedTextOptions arguments.query "query" false
  let _ ← validatedExtraOptions arguments.extraOptions
  if arguments.body.length > maxBlock1BodyBytes then
    .error (.valueError "body_cbor must contain at most 524288 bytes")
  else .ok ()

/-- The Size1 option of the first chunk. -/
def size1Value (length : ℕ) : ByteString :=
  ByteString.ofNat (max 1 ((Nat.size length + 7) / 8)) length

/-- The slice of the body at the upload's offset. -/
def nextChunk (body : ByteString) (upload : Upload) : UploadChunk :=
  let blockSize := 1 <<< (upload.szx + 4)
  let payload := (body.drop upload.offset).take blockSize
  let stop := upload.offset + payload.length
  { num := upload.offset / blockSize, more := stop < body.length, szx := upload.szx
    start := upload.offset, stop, payload }

def chunkOptions (arguments : PostArguments) (chunk : UploadChunk) :
    Except PythonError (List CoapOption) := do
  let block ← blockValue chunk.num chunk.more.toNat chunk.szx
  let size :=
    if chunk.start = 0 then [(Coap.size1, size1Value arguments.body.length)] else []
  return postOptions arguments ++ [(Coap.block1, block)] ++ size ++ arguments.extraOptions

/-- The response to the current chunk, sent with block size `szx`. -/
def answerChunk (szx offset : ℕ) (more : Bool) (message : CoapMessage) : ChunkAnswer :=
  let responseBlocks := optionValues message.options Coap.block1
  if more then
    if message.code ≠ 0x5F then
      if message.code >>> 5 = 2 then .raises .refused else .returns
    else
      match responseBlocks with
      | [block] =>
          if block.length > 3 then .raises .refused
          else
            let (_, responseMore, responseSzx) := blockFields block
            if responseMore = 0 ∨ responseSzx > szx then .raises .refused
            else if offset % (1 <<< (responseSzx + 4)) ≠ 0 then .raises .sizeAlignment
            else .continues responseSzx
      | _ => .raises .refused
  else if message.code >>> 5 ≠ 2 then .returns
  else if message.code = 0x5F then .raises .refused
  else
    match responseBlocks with
    | [] => .returns
    | [block] =>
        if block.length > 3 then .raises .refused
        else
          let (_, responseMore, responseSzx) := blockFields block
          if responseMore ≠ 0 ∨ responseSzx > szx then .raises .refused else .returns
    | _ => .raises .refused

/-- The last attempt waits for the rest of the budget and is not repeated. -/
def lastBlockAttempt (attempt : ℕ) : Bool := attempt = blockMaxAttempts - 1

/-- One step of `_exchange_block1` at `now`; `delivered` says whether the socket takes a send. -/
def chunkStage (settings : WriteSettings) (session : Session) (now : ℚ) (delivered : Bool)
    (deadline : ℚ) (call : ChunkExchange) : ChunkStage → Session × ChunkStage × List Effect
  | .pacing attempt => (session, .looking attempt, [])
  | .looking attempt =>
      let record := session.registry.requests call.request
      match record.err, record.message with
      | some error, _ => (session, .leaving (.error (.session error)), [])
      | none, some message => (session, .leaving (.ok message), [])
      | none, none => (session, .checking attempt record.acknowledged, [])
  | .checking attempt acknowledged =>
      match session.liveness.checkLive with
      | .error error => (session, .leaving (.error (.session error)), [])
      | .ok () =>
          if deadline ≤ now then (session, .leaving (.error (.session .sessionTimeoutError)), [])
          else if acknowledged then (session, .reading attempt, [])
          else (session, .sending attempt, [])
  | .sending attempt =>
      match session.liveness.sendDgram delivered with
      | .ok () => (session, .reading attempt, [.sent call.datagram])
      | .error error =>
          if error = .endpointError ∧ attempt ≠ 0 then (session, .reading attempt, [])
          else (session, .leaving (.error (.session error)), [])
  | .reading attempt =>
      let record := session.registry.requests call.request
      match record.err, record.message with
      | some error, _ => (session, .leaving (.error (.session error)), [])
      | none, some message => (session, .leaving (.ok message), [])
      | none, none =>
          let next := { session with
            registry := session.registry.modifyRequest call.request fun record =>
              { record with event := false } }
          let remaining := deadline - now
          if remaining ≤ 0 then (next, .leaving (.error (.session .sessionTimeoutError)), [])
          else
            let perWait :=
              if record.acknowledged then remaining else min blockAckTimeout remaining
            (next, .waiting attempt record.acknowledged (.entering perWait), [])
  | .waiting attempt acknowledged wait =>
      match waitStep session call.request now wait with
      | .goesOn point => (session, .waiting attempt acknowledged point, [])
      | .woken => (session, .reading attempt, [])
      | .expired =>
          if acknowledged ∨ lastBlockAttempt attempt then
            (session, .leaving (.error (.session .sessionTimeoutError)), [])
          else (session, .retrying attempt, [])
      | .closed error => (session, .leaving (.error (.session error)), [])
  | .retrying attempt =>
      if deadline - now ≤ settings.minReqInterval then
        (session, .leaving (.error (.session .sessionTimeoutError)), [])
      else (session, .pacing (attempt + 1), [])
  | .leaving result => (session, .leaving result, [])

/-- One step of `post` for a body of more than one block. -/
def uploadStep (settings : WriteSettings) (arguments : PostArguments) (session : Session) (now : ℚ)
    (delivered : Bool) : UploadPoint → Session × UploadPoint × List Effect
  | .start =>
      match session.liveness.checkLive with
      | .error error => (session, .finished (.error (.other (.session error))), [])
      | .ok () =>
          match postChecks arguments with
          | .error error => (session, .finished (.error (.other (.python error))), [])
          | .ok () => (session, .allocate, [])
  | .allocate =>
      let (tok, registry) := session.registry.nextTok
      ({ session with registry }, .chunking ⟨tok, now + arguments.timeout, 0, Coap.blockSzx, 0⟩, [])
  | .chunking upload =>
      if upload.offset < arguments.body.length then
        match session.liveness.checkLive with
        | .error error => (session, .finished (.error (.other (.session error))), [])
        | .ok () =>
            if upload.offset % (1 <<< (upload.szx + 4)) ≠ 0 then
              (session, .finished (.error (.blockwise .offsetAlignment)), [])
            else if upload.requestCount + 1 > maxBlock1Requests then
              (session, .finished (.error (.blockwise .refused)), [])
            else
              (session, .register { upload with requestCount := upload.requestCount + 1 }
                (nextChunk arguments.body upload), [])
      else (session, .finished (.error (.blockwise .afterLoop)), [])
  | .register upload chunk =>
      match chunkOptions arguments chunk with
      | .error error => (session, .finished (.error (.other (.python error))), [])
      | .ok options =>
          let expected : Block1Expectation := ⟨chunk.start, chunk.stop, chunk.more⟩
          match session.registry.registerPendingRequest upload.tok
            { expectedBlock1 := some expected } with
          | (.error error, registry) =>
              ({ session with registry }, .finished (.error (.other (.session error))), [])
          | (.ok (mid, request), registry) =>
              let next := { session with registry }
              match buildCoap Coap.typeCon Coap.methodPost mid upload.tok options chunk.payload with
              | .error error =>
                  (next,
                    .exchange upload ⟨chunk, mid, request, []⟩ (.leaving (.error (.python error))),
                    [])
              | .ok datagram =>
                  (next, .exchange upload ⟨chunk, mid, request, datagram⟩ (.pacing 0), [])
  | .exchange upload call (.leaving result) =>
      let next := { session with
        registry := session.registry.unregisterPendingRequest upload.tok call.mid call.request }
      match result with
      | .error failure => (next, .finished (.error (.other failure)), [])
      | .ok message =>
          match answerChunk upload.szx upload.offset call.chunk.more message with
          | .continues szx =>
              (next, .chunking { upload with offset := call.chunk.stop, szx }, [])
          | .returns => (next, .finished (.ok (message.code, message.payload)), [])
          | .raises raised => (next, .finished (.error (.blockwise raised)), [])
  | .exchange upload call stage =>
      let (next, nextStage, effects) :=
        chunkStage settings session now delivered upload.deadline call stage
      (next, .exchange upload call nextStage, effects)
  | .finished result => (session, .finished result, [])

end Session

end SmartThingsLocal
