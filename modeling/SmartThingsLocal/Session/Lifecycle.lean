import SmartThingsLocal.Coap.Exchange
import SmartThingsLocal.Foundation.Threads
import SmartThingsLocal.Session.State

/-!
# The lifecycle of a session

`connect` from its publication on, `start_reader`, `quiesce_for_close`, `close`,
`abort`, `_send_dgram` and the reader's own sections, as any number of threads run them:
one step for taking and for releasing each lock, and for each access to the shared
attributes in between. A request thread, the reader's ACKs and the relation operations
send through `_send_dgram`.
-/

namespace SmartThingsLocal

abbrev ThreadId := ℕ

/-- A socket with the DTLS connection over it, as one call of `connect` makes them. -/
abbrev Transport := ℕ

/-- One Observe relation: its token, its href and its query. -/
structure Observation where
  tok : ByteString
  href : String
  query : Query
  deriving DecidableEq, Repr

/-- Who called `_send_dgram`, with the local variables it returns to. -/
inductive SendCaller
  | request
  | operation
  | dereg (observation : Observation) (rest : List Observation)
  | orderlyDereg (observation : Observation) (rest : List Observation) (previous : Option ThreadId)
  deriving DecidableEq, Repr

/-- Who called `quiesce_for_close`. -/
inductive QuiesceCaller
  | user
  | close
  | abort
  deriving DecidableEq, Repr

/-- Where a thread is. A point is named after what the thread does next. -/
inductive LifecyclePoint
  | idle
  -- `connect`, once the handshake is done
  | connectLock (transport : Transport)
  | publishSock (transport : Transport)
  | publishConn (transport : Transport)
  | connectUnlock
  -- `start_reader`
  | readerLock
  | readerStart
  -- the sections of the reader
  | pumpLock
  | pumpUnlock
  -- `quiesce_for_close`
  | quiesceLock (caller : QuiesceCaller)
  | quiesceCancel (caller : QuiesceCaller)
  | quiesceSendLock (caller : QuiesceCaller)
  | quiesceStop (caller : QuiesceCaller)
  | quiesceUnlock (caller : QuiesceCaller)
  | quiesceDrain (caller : QuiesceCaller)
  -- `_send_dgram`
  | sendLock (caller : SendCaller) (datagram : ByteString)
  | sendCheck (caller : SendCaller) (datagram : ByteString)
  | sendTransmit (caller : SendCaller) (datagram : ByteString)
  | sendUnlock (caller : SendCaller)
  -- an operation on the relations
  | operationLock
  | operating
  -- `close`
  | closeLock
  | closeLook
  | closeMode
  | closeSnapshot (quiesced : Bool)
  | closeSweep (quiesced : Bool) (rest : List Observation)
  | deregBuild (observation : Observation) (rest : List Observation)
  | orderlyPermit (observation : Observation) (rest : List Observation) (previous : Option ThreadId)
  | orderlyBuild (observation : Observation) (rest : List Observation) (previous : Option ThreadId)
  | orderlyRestore (rest : List Observation) (previous : Option ThreadId)
  | closeNotifyLock
  | closeNotify
  | closeClearLock
  | closeClearSock
  | closeClearConn
  | closeRelations
  -- `abort`
  | abortLock
  | abortClearLock
  | abortClearSock
  | abortClearConn
  | abortRelations
  deriving DecidableEq, Repr

/-- A datagram handed to `conn.send`, its sender, and the holder of the operation lock then. -/
structure SentDatagram where
  thread : ThreadId
  caller : SendCaller
  datagram : ByteString
  operationHolder : Option ThreadId
  deriving DecidableEq, Repr

/-- What the threads share, and what has happened. -/
structure Lifecycle where
  lifecycleCancel : Bool
  stop : Bool
  sock : Option Transport
  conn : Option Transport
  readerThread : Bool
  readerRunning : Bool
  observeTokens : List Observation
  orderlyCloseSendThreadId : Option ThreadId
  lifecycleLock : Option ThreadId
  sendLock : Option ThreadId
  observeOperationLock : Option ThreadId
  published : ℕ
  /-- A quiescing thread has held the send lock. -/
  swept : Bool
  /-- A call of `quiesce_for_close` has returned. -/
  quiesced : Bool
  /-- A call of `close` or of `abort` has returned. -/
  closed : Bool
  sends : List SentDatagram
  deriving DecidableEq, Repr

/-- What a thread can begin: a method, or a change of the relations under the state lock. -/
inductive LifecycleCall
  | connect (transport : Transport)
  | startReader
  | pump
  | readerExit
  | quiesceForClose
  | close
  | abort
  | operation
  | relations (observations : List Observation)
  | sendDgram (datagram : ByteString)
  deriving DecidableEq, Repr

/-- A thread begins a call or moves on; `mid` is what `_next_mid` gives it if it asks. -/
inductive LifecycleInput
  | call (call : LifecycleCall)
  | go (mid : Option ℕ)
  deriving DecidableEq, Repr

namespace Lifecycle

/-- A session that has not been connected. -/
def new : Lifecycle where
  lifecycleCancel := false
  stop := false
  sock := none
  conn := none
  readerThread := false
  readerRunning := false
  observeTokens := []
  orderlyCloseSendThreadId := none
  lifecycleLock := none
  sendLock := none
  observeOperationLock := none
  published := 0
  swept := false
  quiesced := false
  closed := false
  sends := []

/-- `[s for s in href.split('/') if s]`. -/
def hrefSegments (href : String) : List String :=
  ((href.toList.splitOn '/').filter (· ≠ [])).map String.ofList

/-- The datagram of `_send_observe_dereg`, unless there is no Message ID for it or no encoding. -/
def observeDereg (mid : Option ℕ) (observation : Observation) : Option ByteString := do
  let mid ← mid
  let options :=
    (hrefSegments observation.href).map (fun segment => (Coap.uriPath, optionBytesOf segment)) ++
    observation.query.map (fun value => (Coap.uriQuery, optionBytesOf value)) ++
    [(Coap.observe, [1]), (Coap.accept, Coap.cfCbor)]
  (buildCoap Coap.typeCon Coap.methodGet mid observation.tok options []).toOption

/-- `_check_live`. -/
def isLive (shared : Lifecycle) : Bool :=
  !shared.lifecycleCancel && shared.conn.isSome && (!shared.readerThread || shared.readerRunning)

/-- The begin of a call. -/
def begin (shared : Lifecycle) : LifecycleCall → Lifecycle × LifecyclePoint
  | .connect transport => (shared, .connectLock transport)
  | .startReader => (shared, .readerLock)
  | .pump => (shared, .pumpLock)
  | .readerExit =>
      ({ shared with
        readerRunning := false
        observeTokens := if shared.lifecycleCancel then shared.observeTokens else [] }, .idle)
  | .quiesceForClose => (shared, .quiesceLock .user)
  | .close => (shared, .closeLock)
  | .abort => (shared, .quiesceLock .abort)
  | .operation => (shared, .operationLock)
  | .relations observations => ({ shared with observeTokens := observations }, .idle)
  | .sendDgram datagram => (shared, .sendLock .request datagram)

/-- Where `_send_dgram` returns to. -/
def afterSend : SendCaller → LifecyclePoint
  | .request => .idle
  | .operation => .operating
  | .dereg _ rest => .closeSweep false rest
  | .orderlyDereg _ rest previous => .orderlyRestore rest previous

/-- Where `quiesce_for_close` returns to. -/
def afterQuiesce : QuiesceCaller → LifecyclePoint
  | .user => .idle
  | .close => .closeNotifyLock
  | .abort => .abortLock

/-- One step of a thread. -/
def go (thread : ThreadId) (mid : Option ℕ) (shared : Lifecycle) :
    LifecyclePoint → Lifecycle × LifecyclePoint
  | .idle => (shared, .idle)
  | .connectLock transport =>
      if shared.lifecycleLock = none then
        ({ shared with lifecycleLock := some thread }, .publishSock transport)
      else (shared, .connectLock transport)
  | .publishSock transport =>
      if shared.lifecycleCancel then ({ shared with lifecycleLock := none }, .idle)
      else ({ shared with sock := some transport }, .publishConn transport)
  | .publishConn transport =>
      ({ shared with conn := some transport, published := shared.published + 1 }, .connectUnlock)
  | .connectUnlock => ({ shared with stop := false, lifecycleLock := none }, .idle)
  | .readerLock =>
      if shared.lifecycleLock = none then
        ({ shared with lifecycleLock := some thread }, .readerStart)
      else (shared, .readerLock)
  | .readerStart =>
      if shared.sock = none ∨ shared.isLive = false then
        ({ shared with lifecycleLock := none }, .idle)
      else
        ({ shared with readerRunning := true, readerThread := true, lifecycleLock := none }, .idle)
  | .pumpLock =>
      if shared.sendLock = none then ({ shared with sendLock := some thread }, .pumpUnlock)
      else (shared, .pumpLock)
  | .pumpUnlock => ({ shared with sendLock := none }, .idle)
  | .quiesceLock caller =>
      if shared.lifecycleLock = none then
        ({ shared with lifecycleLock := some thread }, .quiesceCancel caller)
      else (shared, .quiesceLock caller)
  | .quiesceCancel caller => ({ shared with lifecycleCancel := true }, .quiesceSendLock caller)
  | .quiesceSendLock caller =>
      if shared.sendLock = none then
        ({ shared with sendLock := some thread, swept := true }, .quiesceStop caller)
      else (shared, .quiesceSendLock caller)
  | .quiesceStop caller => ({ shared with stop := true, sendLock := none }, .quiesceUnlock caller)
  | .quiesceUnlock caller => ({ shared with lifecycleLock := none }, .quiesceDrain caller)
  | .quiesceDrain caller => ({ shared with quiesced := true }, afterQuiesce caller)
  | .sendLock caller datagram =>
      if shared.sendLock = none then
        ({ shared with sendLock := some thread }, .sendCheck caller datagram)
      else (shared, .sendLock caller datagram)
  | .sendCheck caller datagram =>
      let orderlyCloseSend := shared.orderlyCloseSendThreadId = some thread
      if (shared.lifecycleCancel ∧ ¬orderlyCloseSend) ∨ shared.conn = none then
        (shared, .sendUnlock caller)
      else (shared, .sendTransmit caller datagram)
  | .sendTransmit caller datagram =>
      -- the connection can be gone again, since it is cleared under another lock
      match shared.conn with
      | none => (shared, .sendUnlock caller)
      | some _ =>
          ({ shared with
            sends := shared.sends ++ [⟨thread, caller, datagram, shared.observeOperationLock⟩] },
            .sendUnlock caller)
  | .sendUnlock caller => ({ shared with sendLock := none }, afterSend caller)
  | .operationLock =>
      if shared.observeOperationLock = none then
        ({ shared with observeOperationLock := some thread }, .operating)
      else (shared, .operationLock)
  | .operating => ({ shared with observeOperationLock := none }, .idle)
  | .closeLock =>
      if shared.observeOperationLock = none then
        ({ shared with observeOperationLock := some thread }, .closeLook)
      else (shared, .closeLock)
  | .closeLook =>
      if shared.conn ≠ none ∧ shared.observeTokens ≠ [] then (shared, .closeMode)
      else (shared, .quiesceLock .close)
  | .closeMode => (shared, .closeSnapshot shared.lifecycleCancel)
  | .closeSnapshot quiesced => (shared, .closeSweep quiesced shared.observeTokens)
  | .closeSweep _ [] => (shared, .quiesceLock .close)
  | .closeSweep false (observation :: rest) => (shared, .deregBuild observation rest)
  | .closeSweep true (observation :: rest) =>
      (shared, .orderlyPermit observation rest shared.orderlyCloseSendThreadId)
  | .deregBuild observation rest =>
      match observeDereg mid observation with
      | none => (shared, .closeSweep false rest)
      | some datagram => (shared, .sendLock (.dereg observation rest) datagram)
  | .orderlyPermit observation rest previous =>
      ({ shared with orderlyCloseSendThreadId := some thread },
        .orderlyBuild observation rest previous)
  | .orderlyBuild observation rest previous =>
      match observeDereg mid observation with
      | none => (shared, .orderlyRestore rest previous)
      | some datagram => (shared, .sendLock (.orderlyDereg observation rest previous) datagram)
  | .orderlyRestore rest previous =>
      ({ shared with orderlyCloseSendThreadId := previous }, .closeSweep true rest)
  | .closeNotifyLock =>
      if shared.sendLock = none then ({ shared with sendLock := some thread }, .closeNotify)
      else (shared, .closeNotifyLock)
  | .closeNotify => ({ shared with sendLock := none }, .closeClearLock)
  | .closeClearLock =>
      if shared.lifecycleLock = none then
        ({ shared with lifecycleLock := some thread }, .closeClearSock)
      else (shared, .closeClearLock)
  | .closeClearSock => ({ shared with sock := none }, .closeClearConn)
  | .closeClearConn => ({ shared with conn := none, lifecycleLock := none }, .closeRelations)
  | .closeRelations =>
      ({ shared with observeTokens := [], observeOperationLock := none, closed := true }, .idle)
  | .abortLock =>
      if shared.observeOperationLock = none then
        ({ shared with observeOperationLock := some thread }, .abortClearLock)
      else (shared, .abortLock)
  | .abortClearLock =>
      if shared.lifecycleLock = none then
        ({ shared with lifecycleLock := some thread }, .abortClearSock)
      else (shared, .abortClearLock)
  | .abortClearSock => ({ shared with sock := none }, .abortClearConn)
  | .abortClearConn => ({ shared with conn := none, lifecycleLock := none }, .abortRelations)
  | .abortRelations =>
      ({ shared with observeTokens := [], observeOperationLock := none, closed := true }, .idle)

/-- A thread begins a call when it is idle, sends within a relation operation, or moves on. -/
def step (thread : ThreadId) (input : LifecycleInput) (shared : Lifecycle)
    (point : LifecyclePoint) : Lifecycle × LifecyclePoint :=
  match input, point with
  | .call call, .idle => begin shared call
  | .call (.sendDgram datagram), .operating => (shared, .sendLock .operation datagram)
  | .call _, point => (shared, point)
  | .go mid, point => go thread mid shared point

end Lifecycle

end SmartThingsLocal
