import SmartThingsLocal.Coap.Exchange
import SmartThingsLocal.Foundation.OrderedDict

/-!
# The state of a DTLS session

What `DtlsCoapSession` shares between its threads: the registries of pending
requests, the indices of the Observe relations, the re-read queue and the flags
that say whether the session is alive. A request's event and container are one
record on a heap, so that the registries can hold the same request under its
token and under its Message ID.
-/

namespace SmartThingsLocal

/-- One registered request: its event, its container and its exchange. -/
abbrev RequestId := ℕ

namespace Session

/-- Sends of one request before it is given up. -/
def blockMaxAttempts : ℕ := 3
/-- Seconds one attempt of a block request waits. -/
def blockAckTimeout : ℚ := 4
def maxBlock1BodyBytes : ℕ := 512 * 1024
def maxBlock1Requests : ℕ := 1024
/-- Seconds the first attempt of a single-frame write waits; each further one waits double. -/
def writeAckTimeout : ℚ := 2
/-- Seconds between two liveness checks of a waiting request. -/
def blockLivenessPoll : ℚ := 1 / 4
def maxPendingRefetch : ℕ := 16
def refetchTimeout : ℚ := 15
def observeSequenceModulus : ℕ := 1 <<< 24
def observeSequenceHalfRange : ℕ := 1 <<< 23
/-- Seconds after which receipt time re-establishes the order of notifications. -/
def observeSequenceReset : ℚ := 128

end Session

/-- The byte range a pending Block1 chunk covers. -/
structure Block1Expectation where
  start : ℕ
  stop : ℕ
  more : Bool
  deriving DecidableEq, Repr

/-- The event, container and exchange of a request; a response sets all its keys together. -/
structure PendingRequest where
  event : Bool := false
  message : Option CoapMessage := none
  err : Option SmartThingsLocalError := none
  acknowledged : Bool := false
  expectedBlock1 : Option Block1Expectation := none
  deriving DecidableEq, Repr

/-- The counters and the registries of pending requests. -/
structure Registry where
  mid : ℕ
  tokCounter : ℕ
  pending : OrderedDict ByteString RequestId
  pendingMids : OrderedDict ℕ RequestId
  requests : RequestId → PendingRequest
  nextRequest : RequestId

/-- A query string list, as a relation is registered with it. -/
abbrev Query := List String

/-- The indices of the Observe relations, by token. -/
structure ObserveRelations where
  tokens : OrderedDict ByteString String
  queries : OrderedDict ByteString Query
  plainResponseMids : OrderedDict ByteString ℕ
  legacyTokens : Finset ByteString
  legacyMids : OrderedDict ByteString ℕ
  sequences : OrderedDict ByteString (ℕ × ℚ)

/-- The key of a queued re-read. -/
structure RefetchKey where
  href : String
  query : Query
  legacy : Bool
  deriving DecidableEq, Repr

/-- The queued re-reads with their sequence numbers and registration flags. -/
structure RefetchQueue where
  pending : OrderedDict RefetchKey (ℕ × Bool)
  seq : ℕ

/-- Which of the session's callbacks are set. -/
structure Callbacks where
  onNotification : Bool
  onLegacyNotification : Bool
  onObservePending : Bool
  onObserveError : Bool
  onObserveDelivery : Bool
  deriving DecidableEq, Repr

/-- The flags that decide whether the session can carry a request. -/
structure Liveness where
  lifecycleCancelled : Bool
  connected : Bool
  readerStarted : Bool
  readerRunning : Bool
  stop : Bool
  deriving DecidableEq, Repr

structure Session where
  callbacks : Callbacks
  liveness : Liveness
  registry : Registry
  relations : ObserveRelations
  refetch : RefetchQueue

/-- A session that is connected and has started its reader. -/
def Session.started (callbacks : Callbacks) (mid tokCounter : ℕ) : Session where
  callbacks := callbacks
  liveness := {
    lifecycleCancelled := false, connected := true, readerStarted := true, readerRunning := true
    stop := false }
  registry := {
    mid, tokCounter, pending := .empty, pendingMids := .empty
    requests := fun _ => {}
    nextRequest := 0 }
  relations := {
    tokens := .empty, queries := .empty, plainResponseMids := .empty, legacyTokens := ∅
    legacyMids := .empty, sequences := .empty }
  refetch := { pending := .empty, seq := 0 }

/-- One representation delivered on an Observe relation. -/
structure ObserveDelivery where
  href : String
  payload : ByteString
  query : Query
  registration : Bool
  sequence : Option ℕ
  legacy : Bool
  deriving DecidableEq, Repr

/--
What a step does besides changing the session. `accepted` marks the point at which
a notification is recorded in the relation indices.
-/
inductive Effect
  | sent (datagram : ByteString)
  | accepted (token : ByteString) (sequence : Option ℕ) (receivedAt : ℚ)
  | queued (key : RefetchKey) (seq : ℕ) (registration : Bool)
  | observePending (href : String)
  | observeError (href : String) (code : ℕ)
  | observeDelivery (delivery : ObserveDelivery)
  | notification (href : String) (payload : ByteString)
  | legacyNotification (href : String) (payload : ByteString)
  deriving DecidableEq, Repr

/-- The path and the payload handed to a notification callback. -/
def Effect.delivered? : Effect → Option (String × ByteString)
  | .observeDelivery delivery => some (delivery.href, delivery.payload)
  | .notification href payload => some (href, payload)
  | .legacyNotification href payload => some (href, payload)
  | _ => none

end SmartThingsLocal
