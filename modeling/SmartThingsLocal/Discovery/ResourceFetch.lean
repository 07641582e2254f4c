import SmartThingsLocal.Coap.Block2Assembly
import SmartThingsLocal.Coap.Exchange

/-!
# Plaintext resource transfers

`_fetch_resource` of `protocol/ocf_discovery.py`: one representation, read in blocks over
unconnected sockets. What the clock, the sockets and the random source do is given for each
attempt.
-/

namespace SmartThingsLocal

namespace Discovery

/-! ### Addresses -/

inductive AddressFamily
  | inet
  | inet6
  deriving DecidableEq

inductive SockaddrItem
  | str (text : String)
  | int (number : ℤ)
  | bool (value : Bool)
  | other

inductive Sockaddr
  | tuple (items : List SockaddrItem)
  | other

/-- `socket.inet_pton`, with nothing where it raises. -/
abbrev InetPton : Type := AddressFamily → String → Option ByteString

/-- Address bytes and an IPv6 scope. -/
structure HostKey where
  packed : ByteString
  scopeId : ℤ
  deriving DecidableEq

structure PeerKey where
  family : AddressFamily
  packed : ByteString
  port : ℤ
  scopeId : ℤ
  deriving DecidableEq

/-- `_host_key`. -/
def hostKey (inetPton : InetPton) (family : AddressFamily) : Sockaddr → Option HostKey
  | .other => none
  | .tuple items =>
      if items.length ≠ (if family = .inet then 2 else 4) then none
      else
        match items[0]? with
        | some (SockaddrItem.str host) =>
            let host :=
              if family = .inet6 then String.ofList (host.toList.takeWhile (· ≠ '%')) else host
            match inetPton family host with
            | none => none
            | some packed =>
                match if family = .inet6 then items[3]? else some (SockaddrItem.int 0) with
                | some (SockaddrItem.int scopeId) => some ⟨packed, scopeId⟩
                | _ => none
        | _ => none

/-- `_peer_key`. -/
def peerKey (inetPton : InetPton) (family : AddressFamily) (sockaddr : Sockaddr) :
    Option PeerKey :=
  match hostKey inetPton family sockaddr, sockaddr with
  | some key, .tuple items =>
      match items[1]? with
      | some (SockaddrItem.int port) =>
          if 1 ≤ port ∧ port ≤ 65535 then some ⟨family, key.packed, port, key.scopeId⟩ else none
      | _ => none
  | _, _ => none

/-- The routes of a transfer, each opened for an endpoint with the key of its address. -/
structure Routes (ρ : Type) (inetPton : InetPton) where
  all : List ρ
  family : ρ → AddressFamily
  sockaddr : ρ → Sockaddr
  hostKey : ρ → HostKey
  opened : ∀ route, Discovery.hostKey inetPton (family route) (sockaddr route) =
    some (hostKey route)

def maxEndpoints : ℕ := 8

/-- An endpoint, of a family and an address that has a key. -/
abbrev KeyedEndpoint (inetPton : InetPton) (endpoints : List (AddressFamily × Sockaddr)) : Type :=
  { index : Fin endpoints.length //
    (hostKey inetPton endpoints[index].1 endpoints[index].2).isSome = true }

/-- `_open_routes`, where `opens` tells the endpoints whose sockets can be opened. -/
def openRoutes (inetPton : InetPton) (endpoints : List (AddressFamily × Sockaddr))
    (opens : Fin endpoints.length → Bool) : Routes (KeyedEndpoint inetPton endpoints) inetPton where
  all := ((List.finRange endpoints.length).take maxEndpoints).filterMap fun index =>
    if keyed : (Discovery.hostKey inetPton endpoints[index].1 endpoints[index].2).isSome = true then
      if opens index then some ⟨index, keyed⟩ else none
    else none
  family := fun route => endpoints[route.1].1
  sockaddr := fun route => endpoints[route.1].2
  hostKey := fun route =>
    (Discovery.hostKey inetPton endpoints[route.1].1 endpoints[route.1].2).get route.2
  opened := fun route => (Option.some_get route.2).symm

/-- There is one route for each of the first endpoints that has a key and a socket. -/
theorem mem_openRoutes_iff (inetPton : InetPton) (endpoints : List (AddressFamily × Sockaddr))
    (opens : Fin endpoints.length → Bool) (route : KeyedEndpoint inetPton endpoints) :
    route ∈ (openRoutes inetPton endpoints opens).all ↔
      route.1 < maxEndpoints ∧ opens route.1 = true := by
  have early : route.1 ∈ (List.finRange endpoints.length).take maxEndpoints ↔
      (route.1 : ℕ) < maxEndpoints := by
    rw [List.mem_take_iff_getElem]
    constructor
    · rintro ⟨place, bound, same⟩
      rw [List.getElem_finRange] at same
      rw [← same]
      exact bound.trans_le (min_le_left _ _)
    · intro low
      exact ⟨route.1, by simp [low], by simp⟩
  simp only [openRoutes, List.mem_filterMap]
  constructor
  · rintro ⟨index, inFirst, found⟩
    split_ifs at found with keyed opened
    rcases Option.some.inj found with rfl
    exact ⟨early.mp inFirst, opened⟩
  · rintro ⟨low, opened⟩
    exact ⟨route.1, early.mpr low, by rw [dif_pos route.2, if_pos opened]⟩

/-! ### Results -/

inductive TransferStatus
  | complete
  | endpointUnavailable
  | malformed
  | noResponse
  deriving DecidableEq

structure TransferResult where
  status : TransferStatus
  payload : ByteString
  code : Option ℕ
  family : Option AddressFamily
  sourceKey : Option HostKey
  blocksReceived : ℕ
  contentFormat : Option ℕ
  size2 : Option ℕ
  attempts : ℕ
  responseReceived : Bool

/-- The first response that was accepted: its route, its sender and where requests go from then. -/
structure Pin (ρ : Type) where
  route : ρ
  peer : PeerKey
  destination : Sockaddr

/-- A response that the accumulator took, as it arrived. -/
structure Added (ρ : Type) where
  route : ρ
  source : Sockaddr
  message : CoapMessage

/-- The variables of a transfer. No step reads `added`. -/
structure Transfer (ρ : Type) where
  accumulator : Block2Accumulator
  usedMids : List ℕ
  attempts : ℕ
  responseReceived : Bool
  sawMalformed : Bool
  pinned : Option (Pin ρ)
  added : List (Added ρ)

variable {ρ : Type} {inetPton : InetPton}

/-- `_transfer_result`. -/
def transferResult (routes : Routes ρ inetPton) (status : TransferStatus) (transfer : Transfer ρ)
    (route : Option ρ) : TransferResult :=
  let accumulator := transfer.accumulator
  let complete := accumulator.complete
  let successful := complete && accumulator.code.any fun code => code >>> 5 = 2
  { status
    payload := if complete then accumulator.payload else []
    code := if complete then accumulator.code else none
    family := if complete then route.map routes.family else none
    sourceKey := if complete then route.map routes.hostKey else none
    blocksReceived := accumulator.blocksReceived
    contentFormat := if successful then accumulator.contentFormat else none
    size2 := if successful then accumulator.size2 else none
    attempts := transfer.attempts
    responseReceived := transfer.responseReceived }

/-! ### The three loops -/

def maxDatagramBytes : ℕ := 8192

/-- A readable socket: what `recvfrom` returns, nothing where it fails. -/
structure Arrival (ρ : Type) where
  route : ρ
  received : Option (ByteString × Sockaddr)

/--
What happens around one attempt: whether the time is over, the random Message ID, the lengths that
the sockets report, and what `select` finds readable until the attempt's deadline.
-/
structure Attempt (ρ : Type) where
  late : Bool
  random : Fin (2 ^ 16)
  sendto : ρ → Sockaddr → ByteString → Option ℕ
  rounds : List (List (Arrival ρ))

/-- The next Message ID that is not in use; where there is none, the search does not end. -/
@[irreducible]
def freshMid (usedMids : List ℕ) (random : ℕ) : Option ℕ :=
  ((List.range (2 ^ 16)).map fun step => (random + step) &&& 0xffff).find? (· ∉ usedMids)

section

variable [DecidableEq ρ] (routes : Routes ρ inetPton) (token : ByteString)

/--
One readable socket, and whether its datagram ends the attempt. The acknowledgement of a
confirmable response, whose failure is ignored, is left out.
-/
def receive (mid : ℕ) (transfer : Transfer ρ) (arrival : Arrival ρ) : Transfer ρ × Bool :=
  match arrival.received with
  | none => (transfer, false)
  | some (datagram, source) =>
      let route := arrival.route
      let sourceHostKey := hostKey inetPton (routes.family route) source
      match peerKey inetPton (routes.family route) source with
      | none => (transfer, false)
      | some peer =>
          if sourceHostKey ≠ some (routes.hostKey route) then (transfer, false)
          else if transfer.pinned.any fun pin => route ≠ pin.route ∨ peer ≠ pin.peer then
            (transfer, false)
          else if datagram.length > maxDatagramBytes then
            ({ transfer with sawMalformed := true }, false)
          else
            match classifyCoapResponse datagram (some token) (some mid) with
            | .error _ => ({ transfer with sawMalformed := true }, false)
            | .ok classification =>
                let message := classification.message
                if classification.kind ≠ .response ∨
                    message.mtype ∉ [Coap.typeCon, Coap.typeNon] then
                  (transfer, false)
                else
                  match transfer.accumulator.respond message with
                  | (.error _, accumulator) =>
                      ({ transfer with accumulator, sawMalformed := true }, false)
                  | (.ok blockStatus, accumulator) =>
                      ({ transfer with
                          accumulator
                          responseReceived := true
                          pinned := transfer.pinned.or (some ⟨route, peer, source⟩)
                          added := transfer.added ++ [⟨route, source, message⟩] },
                        blockStatus ≠ .duplicate)

/-- The sockets that one `select` reports. -/
def receiveRound (mid : ℕ) : Transfer ρ → List (Arrival ρ) → Transfer ρ × Bool
  | transfer, [] => (transfer, false)
  | transfer, arrival :: events =>
      match receive routes token mid transfer arrival with
      | (transfer, true) => (transfer, true)
      | (transfer, false) => receiveRound mid transfer events

/-- The receive loop of one attempt, until its deadline or a `select` without events. -/
def receiveRounds (mid : ℕ) : Transfer ρ → List (List (Arrival ρ)) → Transfer ρ × Bool
  | transfer, [] => (transfer, false)
  | transfer, events :: rounds =>
      if events.isEmpty then (transfer, false)
      else
        match receiveRound routes token mid transfer events with
        | (transfer, true) => (transfer, true)
        | (transfer, false) => receiveRounds mid transfer rounds

/-- Why a call does not return a result. -/
inductive Halt
  | raised (error : PythonError)
  | hangs

variable (path query : List String)

/-- The request for the next block. -/
def blockRequest (transfer : Transfer ρ) (mid : ℕ) : Except PythonError ByteString :=
  let accumulator := transfer.accumulator
  buildGetRequest Coap.typeNon mid token path query (some Coap.cfCbor)
    (if accumulator.expectedNumber > 0 then some accumulator.expectedNumber else none)
    accumulator.szx []

/-- Whether the whole request left through a socket: the pinned one, or any of the routes. -/
def sendRequest (transfer : Transfer ρ) (request : ByteString)
    (sendto : ρ → Sockaddr → ByteString → Option ℕ) : Bool :=
  match transfer.pinned with
  | some pin => sendto pin.route pin.destination request = some request.length
  | none =>
      routes.all.any fun route =>
        sendto route (routes.sockaddr route) request = some request.length

/-- The attempts for one block: whether a response was accepted and whether a request was sent. -/
def attemptBlock :
    Transfer ρ → Bool → List (Attempt ρ) → Transfer ρ × Except Halt (Bool × Bool)
  | transfer, sentForBlock, [] => (transfer, .ok (false, sentForBlock))
  | transfer, sentForBlock, attempt :: attempts =>
      if attempt.late then (transfer, .ok (false, sentForBlock))
      else
        match freshMid transfer.usedMids attempt.random with
        | none => (transfer, .error .hangs)
        | some mid =>
            let transfer := { transfer with usedMids := mid :: transfer.usedMids }
            match blockRequest token path query transfer mid with
            | .error error => (transfer, .error (.raised error))
            | .ok request =>
                let sent := sendRequest routes transfer request attempt.sendto
                let transfer := { transfer with attempts := transfer.attempts + 1 }
                if ¬sent then attemptBlock transfer sentForBlock attempts
                else
                  match receiveRounds routes token mid transfer attempt.rounds with
                  | (transfer, true) => (transfer, .ok (true, true))
                  | (transfer, false) => attemptBlock transfer true attempts

/-! ### What the loops do -/

variable {routes token}

/-- What one arrival does: at most the malformed flag, or a response is taken. -/
inductive Received (routes : Routes ρ inetPton) (token : ByteString) (transfer : Transfer ρ)
    (arrival : Arrival ρ) : Transfer ρ × Bool → Prop
  | ignored (sawMalformed : Bool) :
      Received routes token transfer arrival ({ transfer with sawMalformed }, false)
  | taken {source : Sockaddr} {peer : PeerKey} {message : CoapMessage}
      {blockStatus : Block2Status}
      (keyed : hostKey inetPton (routes.family arrival.route) source =
        some (routes.hostKey arrival.route))
      (isPeer : peerKey inetPton (routes.family arrival.route) source = some peer)
      (pinned : ∀ pin ∈ transfer.pinned, arrival.route = pin.route ∧ peer = pin.peer)
      (tokenEq : message.token = token)
      (responded : (transfer.accumulator.respond message).1 = .ok blockStatus) :
      Received routes token transfer arrival
        ({ transfer with
            accumulator := (transfer.accumulator.respond message).2
            responseReceived := true
            pinned := transfer.pinned.or (some ⟨arrival.route, peer, source⟩)
            added := transfer.added ++ [⟨arrival.route, source, message⟩] },
          blockStatus ≠ .duplicate)

theorem received_receive (mid : ℕ) (transfer : Transfer ρ) (arrival : Arrival ρ) :
    Received routes token transfer arrival (receive routes token mid transfer arrival) := by
  unfold receive
  rcases arrival.received with _ | ⟨datagram, source⟩
  · exact .ignored _
  dsimp only
  cases isPeer : peerKey inetPton (routes.family arrival.route) source with
  | none => exact .ignored _
  | some peer =>
      dsimp only
      by_cases keyed : hostKey inetPton (routes.family arrival.route) source =
          some (routes.hostKey arrival.route)
      case neg =>
        rw [if_pos keyed]
        exact .ignored _
      rw [if_neg (not_not.mpr keyed)]
      by_cases stray : (transfer.pinned.any fun pin =>
          arrival.route ≠ pin.route ∨ peer ≠ pin.peer) = true
      · rw [if_pos stray]
        exact .ignored _
      rw [if_neg stray]
      by_cases tooLong : datagram.length > maxDatagramBytes
      · rw [if_pos tooLong]
        exact .ignored _
      rw [if_neg tooLong]
      cases classified : classifyCoapResponse datagram (some token) (some mid) with
      | error error => exact .ignored _
      | ok classification =>
          dsimp only
          by_cases unusable : classification.kind ≠ .response ∨
              classification.message.mtype ∉ [Coap.typeCon, Coap.typeNon]
          · rw [if_pos unusable]
            exact .ignored _
          rw [if_neg unusable]
          have isResponse := not_not.mp (not_or.mp unusable).1
          rcases responded : transfer.accumulator.respond classification.message with
            ⟨error | blockStatus, accumulator⟩
          · have unchanged := Block2Accumulator.respond_unchanged
              (.inl ⟨error, congrArg Prod.fst responded⟩)
            rw [responded] at unchanged
            cases unchanged
            exact .ignored _
          · have pinned : ∀ pin ∈ transfer.pinned, arrival.route = pin.route ∧ peer = pin.peer := by
              intro pin isPin
              rw [Option.mem_def.mp isPin] at stray
              simpa [not_or] using stray
            have taken := Received.taken keyed isPeer pinned
              (token_of_response classified isResponse) (congrArg Prod.fst responded)
            rwa [responded] at taken

/-- A property of the state and of whether a response was accepted is kept by a round. -/
theorem receiveRound_induction {P : Transfer ρ → Bool → Prop} (mid : ℕ)
    (step : ∀ transfer arrival result, Received routes token transfer arrival result →
      P transfer false → P result.1 result.2)
    {transfer : Transfer ρ} (events : List (Arrival ρ)) (holds : P transfer false) :
    P (receiveRound routes token mid transfer events).1
      (receiveRound routes token mid transfer events).2 := by
  induction events generalizing transfer with
  | nil => exact holds
  | cons arrival events ih =>
      have kept := step _ _ _ (received_receive mid transfer arrival) holds
      rw [receiveRound]
      generalize receive routes token mid transfer arrival = received at kept ⊢
      rcases received with ⟨after, _ | _⟩
      · exact ih kept
      · exact kept

theorem receiveRounds_induction {P : Transfer ρ → Bool → Prop} (mid : ℕ)
    (step : ∀ transfer arrival result, Received routes token transfer arrival result →
      P transfer false → P result.1 result.2)
    {transfer : Transfer ρ} (rounds : List (List (Arrival ρ))) (holds : P transfer false) :
    P (receiveRounds routes token mid transfer rounds).1
      (receiveRounds routes token mid transfer rounds).2 := by
  induction rounds generalizing transfer with
  | nil => exact holds
  | cons events rounds ih =>
      have kept := receiveRound_induction mid step events holds
      rw [receiveRounds]
      split_ifs
      · exact holds
      · generalize receiveRound routes token mid transfer events = received at kept ⊢
        rcases received with ⟨after, _ | _⟩
        · exact ih kept
        · exact kept

variable {path query : List String}

/-- Whether the attempts for a block ended with an accepted response. -/
def accepted : Except Halt (Bool × Bool) → Bool
  | .ok outcome => outcome.1
  | .error _ => false

theorem attemptBlock_induction {P : Transfer ρ → Bool → Prop}
    (step : ∀ transfer arrival result, Received routes token transfer arrival result →
      P transfer false → P result.1 result.2)
    (asked : ∀ transfer usedMids attempts, P transfer false →
      P { transfer with usedMids, attempts } false)
    {transfer : Transfer ρ} (sentForBlock : Bool) (attempts : List (Attempt ρ))
    (holds : P transfer false) :
    P (attemptBlock routes token path query transfer sentForBlock attempts).1
      (accepted (attemptBlock routes token path query transfer sentForBlock attempts).2) := by
  induction attempts generalizing transfer sentForBlock with
  | nil => exact holds
  | cons attempt attempts ih =>
      rw [attemptBlock]
      split_ifs
      · exact holds
      · generalize freshMid transfer.usedMids attempt.random = fresh
        rcases fresh with _ | mid
        · exact holds
        dsimp only
        generalize blockRequest token path query _ mid = built
        rcases built with error | request
        · exact asked transfer (mid :: transfer.usedMids) transfer.attempts holds
        dsimp only
        have next := asked transfer (mid :: transfer.usedMids) (transfer.attempts + 1) holds
        split_ifs
        · have kept := receiveRounds_induction mid step attempt.rounds next
          generalize receiveRounds routes token mid _ attempt.rounds = received at kept ⊢
          rcases received with ⟨after, _ | _⟩
          · exact ih true kept
          · exact kept
        · exact ih sentForBlock next

/--
What the attempts for a block leave of the accumulator: without an accepted response it is as it
was, with one it is complete or has room for another block.
-/
structure Progress (before after : Block2Accumulator) (isAccepted : Bool) : Prop where
  unchanged : isAccepted = false → after = before
  maxBlocks : after.maxBlocks = before.maxBlocks
  advanced : isAccepted = true → after.complete = true ∨
    after.blocksReceived = before.blocksReceived + 1 ∧ after.blocksReceived < before.maxBlocks

theorem Progress.refl (accumulator : Block2Accumulator) :
    Progress accumulator accumulator false :=
  ⟨fun _ => rfl, rfl, nofun⟩

omit [DecidableEq ρ] in
theorem progress_received {transfer : Transfer ρ} {arrival : Arrival ρ}
    {result : Transfer ρ × Bool} (received : Received routes token transfer arrival result) :
    Progress transfer.accumulator result.1.accumulator result.2 := by
  cases received with
  | ignored sawMalformed => exact .refl _
  | @taken source peer message blockStatus _ _ _ _ responded =>
      by_cases repeated : blockStatus = .duplicate
      · have unchanged := Block2Accumulator.respond_unchanged
          (.inr (responded.trans (congrArg Except.ok repeated)))
        dsimp only
        rw [unchanged, repeated]
        exact .refl _
      · rcases Block2Accumulator.respond_progress responded repeated with ⟨maxBlocks, advanced⟩
        exact ⟨fun refused => absurd repeated (by simpa using refused), maxBlocks,
          fun _ => advanced⟩

variable (routes token path query) in
theorem progress_attemptBlock (transfer : Transfer ρ) (sentForBlock : Bool)
    (attempts : List (Attempt ρ)) :
    Progress transfer.accumulator
      (attemptBlock routes token path query transfer sentForBlock attempts).1.accumulator
      (accepted (attemptBlock routes token path query transfer sentForBlock attempts).2) := by
  apply attemptBlock_induction
    (P := fun after isAccepted => Progress transfer.accumulator after.accumulator isAccepted)
  · intro before arrival result received progress
    have next := progress_received received
    rwa [progress.unchanged rfl] at next
  · intro before usedMids attempts progress
    exact progress
  · exact .refl _

variable (routes token path query) (retries : ℕ) (world : ℕ → ℕ → Attempt ρ)

/-- Why a transfer without an accepted response ends. -/
def failureStatus (transfer : Transfer ρ) (sentForBlock : Bool) : TransferStatus :=
  if transfer.responseReceived ∨ transfer.sawMalformed then .malformed
  else if ¬sentForBlock ∧ transfer.attempts ≠ 0 then .endpointUnavailable
  else .noResponse

set_option linter.unusedVariables false in
/-- The loop over the blocks, which ends as each block takes up room. -/
def fetchBlocks (transfer : Transfer ρ) : Transfer ρ × Except Halt TransferResult :=
  if transfer.accumulator.complete then
    (transfer, .ok (transferResult routes .malformed transfer none))
  else
    match asked : attemptBlock routes token path query transfer false
        ((List.range (retries + 1)).map (world transfer.accumulator.blocksReceived)) with
    | (after, .error halt) => (after, .error halt)
    | (after, .ok (isAccepted, sentForBlock)) =>
        if finished : after.accumulator.complete then
          (after, .ok (transferResult routes .complete after (after.pinned.map (·.route))))
        else if continues : isAccepted then fetchBlocks after
        else
          (after, .ok (transferResult routes (failureStatus after sentForBlock) after none))
  termination_by transfer.accumulator.maxBlocks - transfer.accumulator.blocksReceived
  decreasing_by
    have progress := progress_attemptBlock routes token path query transfer false
      ((List.range (retries + 1)).map (world transfer.accumulator.blocksReceived))
    rw [asked] at progress
    rcases progress.advanced continues with complete | ⟨next, room⟩
    · exact absurd complete finished
    · rw [progress.maxBlocks, next]
      dsimp only at next room
      omega

/-- `_MAX_BLOCKS` and `_MAX_PAYLOAD_BYTES` are those of the accumulator. -/
def newAccumulator (token : { token : ByteString // token.length = 8 }) : Block2Accumulator where
  token := token.1
  maxBlocks := Coap.maxBlock2Blocks
  maxPayloadBytes := Coap.maxBlock2PayloadBytes
  acceptedContentFormats := some [60, 10000]
  tokenFits := token.2.le
  maxBlocksPos := Coap.maxBlock2Blocks_pos
  maxPayloadBytesPos := Coap.maxBlock2PayloadBytes_pos
  expectedNumber := 0
  negotiatedSzx := none
  etag := none
  contentFormat := none
  size2 := none
  payload := []
  blocksReceived := 0
  code := none
  complete := false

/-- `_fetch_resource`. -/
def fetchResource (token : { token : ByteString // token.length = 8 }) (usedMids : List ℕ) :
    Transfer ρ × Except Halt TransferResult :=
  fetchBlocks routes token.1 path query retries world {
    accumulator := newAccumulator token
    usedMids
    attempts := 0
    responseReceived := false
    sawMalformed := false
    pinned := none
    added := [] }

theorem create_eq (token : { token : ByteString // token.length = 8 }) :
    Block2Accumulator.create token.1 Coap.maxBlock2Blocks Coap.maxBlock2PayloadBytes
      (some [60, 10000]) = .ok (newAccumulator token) := by
  rw [Block2Accumulator.create, dif_pos token.2.le]
  rfl

end

end Discovery

end SmartThingsLocal
