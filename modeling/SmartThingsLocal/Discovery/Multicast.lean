import SmartThingsLocal.Discovery.ResourceFetch
import SmartThingsLocal.Foundation.SharedBudget

/-!
# Multicast discovery of response ports

`discover_ocf_responder_ports` of `protocol/ocf_multicast.py` on a socket that could be opened:
rounds of three requests to the group, and the ports that the target answers them from. What the
clock, the random numbers and the socket do is given for each round.
-/

namespace SmartThingsLocal

namespace Multicast

open Discovery (InetPton Sockaddr SockaddrItem)

def ocfCbor : ByteString := [0x27, 0x10]
def ocfContentFormatVersion : ℕ := 2049
def ocfVersion10 : ByteString := [0x08, 0x00]
def content : ℕ := 0x45
def maxDatagramBytes : ℕ := 8192
def minWindowShare : ℚ := 1 / 2
def maxDatagramsPerRound : ℕ := 64
def maxPorts : ℕ := 8

def requestOptions (versioned filtered : Bool) : List CoapOption :=
  let options := [(Coap.uriPath, optionBytesOf "oic"), (Coap.uriPath, optionBytesOf "res"),
    (Coap.accept, if versioned then ocfCbor else Coap.cfCbor)]
  let options := if filtered then options ++ [(Coap.uriQuery, optionBytesOf "rt=oic.r.doxm")]
    else options
  if versioned then options ++ [(ocfContentFormatVersion, ocfVersion10)] else options

/-- `_request`. -/
def request (token : ByteString) (mid : ℕ) (versioned filtered : Bool) :
    Except PythonError ByteString :=
  buildCoap Coap.typeNon Coap.methodGet mid token (requestOptions versioned filtered) []

/-- The requests of a round, by whether they are versioned and filtered. -/
def kinds : List (Bool × Bool) := [(true, false), (false, false), (false, true)]

/-! ### The surroundings -/

/-- What one request meets: the tokens that `secrets` draws in turn, the random Message ID, and the
length that `sendto` reports, nothing where it raises. -/
structure RequestSurroundings where
  draws : List ByteString
  mid : Fin (2 ^ 16)
  sendto : ByteString → Option ℕ

/-- What `select` finds, and what `recvfrom` then returns, nothing where it raises. -/
inductive Selected
  | raises
  | nothing
  | readable (received : Option (ByteString × Sockaddr))

structure ReadSurroundings where
  clock : ℚ
  selected : Selected

/-- One round: the clock at the check of the deadline and at the start, the requests, and the
reads. The clock passes the end of the round after the last of them. -/
structure RoundSurroundings where
  checked : ℚ
  now : ℚ
  request : Bool → Bool → RequestSurroundings
  reads : List ReadSurroundings

structure MulticastWorld where
  started : ℚ
  round : ℕ → RoundSurroundings

/-- The options, as `_validate_options` accepts them. -/
structure MulticastOptions where
  timeout : ℚ
  rounds : ℕ
  timeout_pos : 0 < timeout
  timeout_le : timeout ≤ 30
  rounds_pos : 0 < rounds
  rounds_le : rounds ≤ 4

def MulticastOptions.nominalWindow (options : MulticastOptions) : ℚ :=
  options.timeout / options.rounds

def MulticastWorld.deadline (world : MulticastWorld) (options : MulticastOptions) : ℚ :=
  world.started + options.timeout

/-- A request that was handed to `sendto`, and the length that was reported. -/
structure SentRequest where
  token : ByteString
  datagram : ByteString
  reported : Option ℕ

/-- A datagram, its sender, and the tokens that were accepted then. -/
structure Reception where
  tokens : List ByteString
  datagram : ByteString
  source : Sockaddr

/-- The variables of a discovery, with what was sent, received and acknowledged and when the rounds
started. No step reads `sent`, `received`, `acknowledged` or `windows`. -/
structure Gathered where
  acceptedTokens : List ByteString := []
  observations : List (ByteString × ℤ) := []
  ports : List ℤ := []
  seenPorts : List ℤ := []
  attempts : ℕ := 0
  responses : ℕ := 0
  tooManyPorts : Bool := false
  sent : List SentRequest := []
  received : List Reception := []
  acknowledged : List (Option ByteString × Sockaddr) := []
  windows : List (ℚ × ℚ) := []

/-- `OcfResponderPortDiscoveryResult`. -/
structure OcfResponderPortDiscoveryResult where
  ports : List ℤ
  attempts : ℕ
  responses : ℕ
  errorCode : Option String := none
  deriving DecidableEq, Repr

/-! ### The loops -/

section Loops

variable (inetPton : InetPton) (targetKey : ByteString)

/-- The sender's port, where the sender is the target. -/
def targetPort : Sockaddr → Option ℤ
  | .tuple [.str host, .int port] =>
      if inetPton .inet host ≠ some targetKey then none
      else if 1 ≤ port ∧ port ≤ 65535 then some port
      else none
  | _ => none

/-- The response that a datagram holds, and the port of the target that it came from. -/
def Reception.answer? (reception : Reception) : Option (CoapMessage × ℤ) :=
  let datagram := reception.datagram
  let first := (datagram.headD 0).toNat
  if datagram.length > maxDatagramBytes then none
  else if datagram.length < 4 ∨ first >>> 6 ≠ 1 ∨ first &&& 0x0F > 8 ∨
      4 + (first &&& 0x0F) > datagram.length then
    none
  else
    match targetPort inetPton targetKey reception.source, parseCoap datagram with
    | some port, .ok message =>
        if message.token ∉ reception.tokens ∨ message.code ≠ content ∨
            message.mtype ∉ [Coap.typeNon, Coap.typeCon] ∨ message.payload = [] then
          none
        else some (message, port)
    | _, _ => none

def Reception.observation? (reception : Reception) : Option (ByteString × ℤ) :=
  (reception.answer? inetPton targetKey).map fun (message, port) => (message.token, port)

/-- The ACK that a confirmable response is sent. -/
def Reception.acknowledgement? (reception : Reception) : Option (Option ByteString × Sockaddr) :=
  (reception.answer? inetPton targetKey).bind fun (message, _) =>
    if message.mtype = Coap.typeCon then
      some ((buildEmptyAck message.mid).toOption, reception.source)
    else none

/-- A response is counted once for its token and port, and its port is kept where there is room. -/
def Gathered.observe (gathered : Gathered) (observation : ByteString × ℤ) : Gathered :=
  if observation ∈ gathered.observations then gathered
  else
    let gathered := { gathered with
      observations := gathered.observations ++ [observation]
      responses := gathered.responses + 1 }
    let port := observation.2
    if port ∈ gathered.seenPorts then gathered
    else if gathered.ports.length ≥ maxPorts then { gathered with tooManyPorts := true }
    else { gathered with
      seenPorts := gathered.seenPorts ++ [port]
      ports := gathered.ports ++ [port] }

/-- One datagram that was read. -/
def Gathered.hear (gathered : Gathered) (datagram : ByteString) (source : Sockaddr) : Gathered :=
  let reception : Reception := ⟨gathered.acceptedTokens, datagram, source⟩
  let gathered := { gathered with
    received := gathered.received ++ [reception]
    acknowledged := gathered.acknowledged ++
      (reception.acknowledgement? inetPton targetKey).toList }
  match reception.observation? inetPton targetKey with
  | none => gathered
  | some observation => gathered.observe observation

/-- The loop of reads of a round, with the datagrams that it may still read. -/
def receiveAnswers (roundDeadline : ℚ) : ℕ → List ReadSurroundings → Gathered → Gathered
  | 0, _, gathered => gathered
  | _ + 1, [], gathered => gathered
  | room + 1, read :: reads, gathered =>
      if roundDeadline - read.clock ≤ 0 then gathered
      else
        match read.selected with
        | .raises | .nothing => gathered
        | .readable none => receiveAnswers roundDeadline (room + 1) reads gathered
        | .readable (some (datagram, source)) =>
            receiveAnswers roundDeadline room reads
              (gathered.hear inetPton targetKey datagram source)

/-- A request has been handed to `sendto`. -/
def Gathered.handOver (gathered : Gathered) (sent : SentRequest) : Gathered :=
  { gathered with
    acceptedTokens := gathered.acceptedTokens ++ [sent.token]
    sent := gathered.sent ++ [sent]
    attempts := gathered.attempts + if sent.reported.isSome then 1 else 0 }

/-- One request; there is no result where no new token is drawn, for that loop does not end. -/
def Gathered.send (gathered : Gathered) (versioned filtered : Bool)
    (surroundings : RequestSurroundings) : Option Gathered := do
  let token ← surroundings.draws.find? (· ∉ gathered.acceptedTokens)
  let datagram ← (request token surroundings.mid versioned filtered).toOption
  return gathered.handOver ⟨token, datagram, surroundings.sendto datagram⟩

/-- The three requests of a round. -/
def Gathered.sendRound (gathered : Gathered) (surroundings : RoundSurroundings) :
    Option Gathered :=
  kinds.foldlM (fun gathered (versioned, filtered) =>
    gathered.send versioned filtered (surroundings.request versioned filtered)) gathered

variable (options : MulticastOptions) (world : MulticastWorld)

/-- The loop of rounds, with how many are left and the number of the next. -/
def runRounds : ℕ → ℕ → Gathered → Option Gathered
  | 0, _, gathered => some gathered
  | left + 1, roundNumber, gathered =>
      let surroundings := world.round roundNumber
      if surroundings.checked ≥ world.deadline options then some gathered
      else
        let now := surroundings.now
        let roundWindow : ℚ := (world.deadline options - now) / (options.rounds - roundNumber)
        if roundNumber ≠ 0 ∧ roundWindow < options.nominalWindow * minWindowShare then
          some gathered
        else do
          let sent ← Gathered.sendRound
            { gathered with windows := gathered.windows ++ [(now, roundWindow)] } surroundings
          runRounds left (roundNumber + 1)
            (receiveAnswers inetPton targetKey (now + roundWindow) maxDatagramsPerRound
              surroundings.reads sent)

/-- What is reported in the end. -/
def Gathered.report (gathered : Gathered) : OcfResponderPortDiscoveryResult :=
  if gathered.tooManyPorts then
    ⟨[], gathered.attempts, gathered.responses, some "ambiguous_response"⟩
  else if gathered.ports ≠ [] then
    ⟨gathered.ports, gathered.attempts, gathered.responses, none⟩
  else if gathered.attempts = 0 then
    ⟨[], gathered.attempts, gathered.responses, some "interface_unavailable"⟩
  else ⟨[], gathered.attempts, gathered.responses, some "no_response"⟩

/-- `discover_ocf_responder_ports`, with the variables that it ends with. -/
def discoverOcfResponderPorts : Option (OcfResponderPortDiscoveryResult × Gathered) :=
  (runRounds inetPton targetKey options world options.rounds 0 {}).map fun gathered =>
    (gathered.report, gathered)

end Loops

/-! ### What has been gathered -/

variable {inetPton : InetPton} {targetKey : ByteString} {gathered : Gathered}
  {said : List (ByteString × ℤ)}

/-- The ports of responses, in the order of the first response of each. -/
def respondersOf (said : List (ByteString × ℤ)) : List ℤ := (said.map Prod.snd).eraseDups

/-- The variables are those of the responses that were heard. -/
structure Gathered.Counts (gathered : Gathered) (said : List (ByteString × ℤ)) : Prop where
  observations : gathered.observations = said.eraseDups
  responses : gathered.responses = said.eraseDups.length
  seenPorts : gathered.seenPorts = gathered.ports
  ports : gathered.ports = (respondersOf said).take maxPorts
  tooManyPorts : gathered.tooManyPorts = true ↔ maxPorts < (respondersOf said).length

section Distinct

variable {α : Type} [BEq α] [LawfulBEq α] {items : List α} {item : α}

theorem eraseDups_concat_of_mem (known : item ∈ items) :
    (items ++ [item]).eraseDups = items.eraseDups := by
  rw [List.eraseDups_append]
  simp [List.removeAll, known]

theorem eraseDups_concat_of_not_mem (unknown : item ∉ items) :
    (items ++ [item]).eraseDups = items.eraseDups ++ [item] := by
  rw [List.eraseDups_append]
  simp [List.removeAll, unknown, List.eraseDups_cons]

end Distinct

theorem respondersOf_concat (observation : ByteString × ℤ) :
    respondersOf (said ++ [observation]) =
      if observation.2 ∈ respondersOf said then respondersOf said
      else respondersOf said ++ [observation.2] := by
  rw [respondersOf, respondersOf, List.map_append, List.map_singleton]
  split_ifs with known
  · exact eraseDups_concat_of_mem (List.mem_eraseDups.mp known)
  · exact eraseDups_concat_of_not_mem fun member => known (List.mem_eraseDups.mpr member)

/-- A port that has no place is one too many. -/
theorem Gathered.Counts.observe (counts : gathered.Counts said)
    (observation : ByteString × ℤ) :
    (gathered.observe observation).Counts (said ++ [observation]) := by
  rw [Gathered.observe]
  by_cases known : observation ∈ gathered.observations
  · rw [if_pos known]
    rw [counts.observations, List.mem_eraseDups] at known
    have port : observation.2 ∈ respondersOf said :=
      List.mem_eraseDups.mpr (List.mem_map_of_mem known)
    have same : respondersOf (said ++ [observation]) = respondersOf said := by
      rw [respondersOf_concat, if_pos port]
    refine ⟨?_, ?_, counts.seenPorts, ?_, ?_⟩
    · rw [eraseDups_concat_of_mem known, counts.observations]
    · rw [eraseDups_concat_of_mem known, counts.responses]
    · rw [same, counts.ports]
    · rw [same, counts.tooManyPorts]
  · rw [if_neg known]
    rw [counts.observations, List.mem_eraseDups] at known
    have grown : (said ++ [observation]).eraseDups = said.eraseDups ++ [observation] :=
      eraseDups_concat_of_not_mem known
    have observations : gathered.observations ++ [observation] =
        (said ++ [observation]).eraseDups := by rw [grown, counts.observations]
    have responses : gathered.responses + 1 = (said ++ [observation]).eraseDups.length := by
      rw [grown, List.length_append, counts.responses, List.length_singleton]
    dsimp only
    by_cases seen : observation.2 ∈ gathered.seenPorts
    · have port : observation.2 ∈ respondersOf said := by
        rw [counts.seenPorts, counts.ports] at seen
        exact List.mem_of_mem_take seen
      have same : respondersOf (said ++ [observation]) = respondersOf said := by
        rw [respondersOf_concat, if_pos port]
      rw [if_pos seen]
      refine ⟨observations, responses, counts.seenPorts, ?_, ?_⟩
      · rw [same, counts.ports]
      · rw [same, counts.tooManyPorts]
    rw [if_neg seen]
    rw [counts.seenPorts] at seen
    have length : gathered.ports.length = min maxPorts (respondersOf said).length := by
      rw [counts.ports, List.length_take]
    by_cases full : gathered.ports.length ≥ maxPorts
    · have many : maxPorts ≤ (respondersOf said).length := by omega
      have more : maxPorts < (respondersOf (said ++ [observation])).length := by
        rw [respondersOf_concat]
        split_ifs with port
        · refine lt_of_le_of_ne many fun all => seen ?_
          rw [counts.ports, all, List.take_length]
          exact port
        · rw [List.length_append, List.length_singleton]
          omega
      have same : (respondersOf (said ++ [observation])).take maxPorts =
          (respondersOf said).take maxPorts := by
        rw [respondersOf_concat]
        split_ifs with port
        · rfl
        · rw [List.take_append_of_le_length many]
      rw [if_pos full]
      exact ⟨observations, responses, counts.seenPorts, by rw [same, counts.ports],
        iff_of_true rfl more⟩
    · have whole : gathered.ports = respondersOf said := by
        rw [counts.ports]
        exact List.take_of_length_le (by omega)
      have grownPorts : respondersOf (said ++ [observation]) =
          respondersOf said ++ [observation.2] := by
        rw [respondersOf_concat, if_neg (whole ▸ seen)]
      have room : (respondersOf said ++ [observation.2]).length ≤ maxPorts := by
        rw [List.length_append, List.length_singleton, ← whole]
        omega
      rw [if_neg full]
      refine ⟨observations, responses, by rw [counts.seenPorts], ?_, ?_⟩
      · rw [grownPorts, List.take_of_length_le room, whole]
      · rw [grownPorts, counts.tooManyPorts, ← whole]
        rw [← whole, List.length_append, List.length_singleton] at room
        rw [List.length_append, List.length_singleton]
        omega

/-- The responses of the target, as they were received. -/
def Gathered.heard (inetPton : InetPton) (targetKey : ByteString) (gathered : Gathered) :
    List (ByteString × ℤ) :=
  gathered.received.filterMap (Reception.observation? inetPton targetKey)

/-- What is kept is that of the responses, and every confirmable one has been acknowledged. -/
structure Gathered.Tallies (inetPton : InetPton) (targetKey : ByteString) (gathered : Gathered) :
    Prop where
  counts : gathered.Counts (gathered.heard inetPton targetKey)
  acknowledged : gathered.acknowledged =
    gathered.received.filterMap (Reception.acknowledgement? inetPton targetKey)

/-- An observation leaves what was received, what was sent and the rounds. -/
theorem Gathered.observe_eq (gathered : Gathered) (observation : ByteString × ℤ) :
    ∃ observations responses seenPorts ports tooManyPorts, gathered.observe observation =
      { gathered with observations, responses, seenPorts, ports, tooManyPorts } := by
  unfold Gathered.observe
  dsimp only
  split_ifs
  · exact ⟨_, _, _, _, _, rfl⟩
  · exact ⟨_, _, _, _, _, rfl⟩
  · exact ⟨_, _, _, _, _, rfl⟩
  · exact ⟨_, _, _, _, _, rfl⟩

def Selected.isReadable : Selected → Bool
  | .readable _ => true
  | _ => false

def Selected.received? : Selected → Option (ByteString × Sockaddr)
  | .readable received => received
  | _ => none

/-- What arrives before the end of a round, up to a `select` that finds nothing or raises. -/
def arrivals (roundDeadline : ℚ) (reads : List ReadSurroundings) : List (ByteString × Sockaddr) :=
  (reads.takeWhile fun read => read.clock < roundDeadline ∧ read.selected.isReadable).filterMap
    (·.selected.received?)

def receptionsOf (tokens : List ByteString) (arrived : List (ByteString × Sockaddr)) :
    List Reception :=
  arrived.map fun (datagram, source) => ⟨tokens, datagram, source⟩

/-- Reading these datagrams. -/
structure Gathered.Hears (inetPton : InetPton) (targetKey : ByteString)
    (arrived : List (ByteString × Sockaddr)) (before after : Gathered) : Prop where
  tallies : before.Tallies inetPton targetKey → after.Tallies inetPton targetKey
  received : after.received = before.received ++ receptionsOf before.acceptedTokens arrived
  acceptedTokens : after.acceptedTokens = before.acceptedTokens
  sent : after.sent = before.sent
  attempts : after.attempts = before.attempts
  windows : after.windows = before.windows

theorem Gathered.Hears.refl : gathered.Hears inetPton targetKey [] gathered :=
  ⟨id, (List.append_nil _).symm, rfl, rfl, rfl, rfl⟩

theorem Gathered.hears_hear (datagram : ByteString) (source : Sockaddr) :
    gathered.Hears inetPton targetKey [(datagram, source)]
      (gathered.hear inetPton targetKey datagram source) := by
  rw [Gathered.hear]
  generalize reading : (⟨gathered.acceptedTokens, datagram, source⟩ : Reception) = reception
  generalize next : ({ gathered with
    received := gathered.received ++ [reception]
    acknowledged := gathered.acknowledged ++
      (reception.acknowledgement? inetPton targetKey).toList } : Gathered) = heard
  have acknowledged (tallies : gathered.Tallies inetPton targetKey) : heard.acknowledged =
      heard.received.filterMap (Reception.acknowledgement? inetPton targetKey) := by
    rw [← next]
    dsimp only
    rw [tallies.acknowledged, List.filterMap_append]
    cases replied : reception.acknowledgement? inetPton targetKey <;> simp [replied]
  have counts {said : List (ByteString × ℤ)} (counts : gathered.Counts said) :
      heard.Counts said := by
    rw [← next]
    exact ⟨counts.observations, counts.responses, counts.seenPorts, counts.ports,
      counts.tooManyPorts⟩
  have logged : heard.received =
      gathered.received ++ receptionsOf gathered.acceptedTokens [(datagram, source)] := by
    simp [← next, ← reading, receptionsOf]
  have same : heard.acceptedTokens = gathered.acceptedTokens ∧ heard.sent = gathered.sent ∧
      heard.attempts = gathered.attempts ∧ heard.windows = gathered.windows := by simp [← next]
  have received : heard.received = gathered.received ++ [reception] := by rw [← next]
  cases said : reception.observation? inetPton targetKey with
  | none =>
      have unchanged : heard.heard inetPton targetKey = gathered.heard inetPton targetKey := by
        simp [Gathered.heard, received, said]
      refine ⟨fun tallies => ⟨?_, acknowledged tallies⟩, logged, same.1, same.2.1, same.2.2.1,
        same.2.2.2⟩
      rw [unchanged]
      exact counts tallies.counts
  | some observation =>
      have grown : heard.heard inetPton targetKey =
          gathered.heard inetPton targetKey ++ [observation] := by
        simp [Gathered.heard, received, said]
      have observed (tallies : gathered.Tallies inetPton targetKey) :=
        (counts tallies.counts).observe observation
      rcases heard.observe_eq observation with ⟨_, _, _, _, _, eq⟩
      dsimp only
      rw [eq] at observed ⊢
      refine ⟨fun tallies => ⟨?_, acknowledged tallies⟩, logged, same.1, same.2.1, same.2.2.1,
        same.2.2.2⟩
      have tallied := observed tallies
      rw [← grown] at tallied
      exact tallied

theorem Gathered.Hears.trans {before between after : Gathered}
    {arrived more : List (ByteString × Sockaddr)}
    (first : before.Hears inetPton targetKey arrived between)
    (second : between.Hears inetPton targetKey more after) :
    before.Hears inetPton targetKey (arrived ++ more) after where
  tallies := second.tallies ∘ first.tallies
  received := by
    rw [second.received, first.received, first.acceptedTokens, List.append_assoc, receptionsOf,
      receptionsOf, receptionsOf, List.map_append]
  acceptedTokens := second.acceptedTokens.trans first.acceptedTokens
  sent := second.sent.trans first.sent
  attempts := second.attempts.trans first.attempts
  windows := second.windows.trans first.windows

theorem hears_receiveAnswers (roundDeadline : ℚ) (room : ℕ) (reads : List ReadSurroundings)
    (gathered : Gathered) :
    gathered.Hears inetPton targetKey ((arrivals roundDeadline reads).take room)
      (receiveAnswers inetPton targetKey roundDeadline room reads gathered) := by
  induction reads generalizing room gathered with
  | nil =>
      rw [arrivals, List.takeWhile_nil, List.filterMap_nil, List.take_nil]
      cases room <;> exact .refl
  | cons read reads ih =>
      cases room with
      | zero => exact .refl
      | succ room =>
          rw [receiveAnswers, arrivals, List.takeWhile_cons]
          by_cases late : roundDeadline - read.clock ≤ 0
          · rw [if_pos late, if_neg (by simp [sub_nonpos.mp late])]
            exact .refl
          · rw [if_neg late]
            have early : read.clock < roundDeadline := by linarith [not_le.mp late]
            cases selected : read.selected with
            | raises =>
                rw [if_neg (by simp [Selected.isReadable])]
                exact .refl
            | nothing =>
                rw [if_neg (by simp [Selected.isReadable])]
                exact .refl
            | readable received =>
                rw [if_pos (by simp [early, Selected.isReadable]), List.filterMap_cons, selected]
                cases received with
                | none => exact ih (room + 1) gathered
                | some arrival => exact (Gathered.hears_hear arrival.1 arrival.2).trans (ih room _)

/-! ### The requests -/

/-- The tokens, the requests, the attempts and the rounds are not tallied. -/
theorem Gathered.Tallies.moves (tallies : gathered.Tallies inetPton targetKey)
    (acceptedTokens : List ByteString) (sent : List SentRequest) (attempts : ℕ)
    (windows : List (ℚ × ℚ)) :
    ({ gathered with acceptedTokens, sent, attempts, windows } : Gathered).Tallies inetPton
      targetKey :=
  ⟨⟨tallies.counts.observations, tallies.counts.responses, tallies.counts.seenPorts,
    tallies.counts.ports, tallies.counts.tooManyPorts⟩, tallies.acknowledged⟩

/-- What `secrets` is relied on for: tokens of eight octets, and as many different ones among
those that it draws for a request as a discovery needs. -/
structure MulticastWorld.Random (world : MulticastWorld) : Prop where
  length : ∀ roundNumber versioned filtered,
    ∀ token ∈ ((world.round roundNumber).request versioned filtered).draws, token.length = 8
  differ : ∀ roundNumber versioned filtered,
    12 ≤ ((world.round roundNumber).request versioned filtered).draws.toFinset.card

/-- A request of a round, by the kind, with a token that was drawn for it and as `sendto` took
it. -/
structure MulticastWorld.Made (world : MulticastWorld) (roundNumber : ℕ) (kind : Bool × Bool)
    (sent : SentRequest) : Prop where
  drawn : sent.token ∈ ((world.round roundNumber).request kind.1 kind.2).draws
  built : request sent.token ((world.round roundNumber).request kind.1 kind.2).mid kind.1 kind.2 =
    .ok sent.datagram
  reported : sent.reported =
    ((world.round roundNumber).request kind.1 kind.2).sendto sent.datagram

theorem request_eq_ok {token : ByteString} (length : token.length = 8) (mid : Fin (2 ^ 16))
    (versioned filtered : Bool) :
    ∃ datagram, request token mid versioned filtered = .ok datagram := by
  have encodes : ∀ versioned filtered,
      (encodeSorted 0 (sortByNumber (requestOptions versioned filtered))).isOk = true := by
    decide +kernel
  cases encoded : encodeSorted 0 (sortByNumber (requestOptions versioned filtered)) with
  | error error =>
      have encodes := encodes versioned filtered
      rw [encoded] at encodes
      cases encodes
  | ok bytes =>
      have options := representable_of_encodeSorted encoded (fun _ _ => Nat.zero_le _)
        (sortByNumber_pairwise _)
      have mtype : Coap.typeNon ≤ 3 := by decide
      have code : Coap.methodGet ≤ 255 := by decide
      exact ⟨_, buildCoap_eq _ _ _ _ _ _ ⟨mtype, code, mid.isLt, length.le, options⟩⟩

variable {options : MulticastOptions} {world : MulticastWorld}

/-- One of the tokens that are drawn is new. -/
theorem MulticastWorld.Random.new (random : world.Random) {tokens : List ByteString}
    (room : tokens.length < 12) (roundNumber : ℕ) (versioned filtered : Bool) :
    ∃ token, ((world.round roundNumber).request versioned filtered).draws.find? (· ∉ tokens) =
      some token := by
  have more : tokens.toFinset.card <
      ((world.round roundNumber).request versioned filtered).draws.toFinset.card :=
    (tokens.toFinset_card_le.trans_lt room).trans_le (random.differ roundNumber versioned filtered)
  rcases Finset.exists_mem_notMem_of_card_lt_card more with ⟨token, drawn, new⟩
  refine Option.isSome_iff_exists.mp (List.find?_isSome.mpr ⟨token, List.mem_toFinset.mp drawn, ?_⟩)
  simpa using new

/-- A request is handed over with a new token. -/
theorem send_made (random : world.Random) (room : gathered.acceptedTokens.length < 12)
    (roundNumber : ℕ) (kind : Bool × Bool) :
    ∃ sent, world.Made roundNumber kind sent ∧ sent.token ∉ gathered.acceptedTokens ∧
      gathered.send kind.1 kind.2 ((world.round roundNumber).request kind.1 kind.2) =
        some (gathered.handOver sent) := by
  rcases random.new room roundNumber kind.1 kind.2 with ⟨token, found⟩
  have drawn := List.mem_of_find?_eq_some found
  rcases request_eq_ok (random.length roundNumber kind.1 kind.2 token drawn)
    ((world.round roundNumber).request kind.1 kind.2).mid kind.1 kind.2 with ⟨datagram, built⟩
  refine ⟨⟨token, datagram, ((world.round roundNumber).request kind.1 kind.2).sendto datagram⟩,
    ⟨drawn, built, rfl⟩, by simpa using List.find?_some found, ?_⟩
  rw [Gathered.send, found, Option.bind_eq_bind, Option.bind_some, built]
  rfl

/-- What the requests of a round leave. -/
structure Gathered.Sends (before : Gathered) (sent : List SentRequest) (after : Gathered) :
    Prop where
  eq : after = { before with
    acceptedTokens := before.acceptedTokens ++ sent.map (·.token)
    sent := before.sent ++ sent
    attempts := before.attempts + (sent.filter (·.reported.isSome)).length }
  nodup : before.acceptedTokens.Nodup → after.acceptedTokens.Nodup

theorem Gathered.Sends.cons {between after : Gathered} {sent : SentRequest}
    {others : List SentRequest} (new : sent.token ∉ gathered.acceptedTokens)
    (handed : between = gathered.handOver sent) (rest : between.Sends others after) :
    gathered.Sends (sent :: others) after := by
  subst handed
  refine ⟨?_, fun nodup => rest.nodup (List.nodup_append.mpr ⟨nodup, List.nodup_singleton _, ?_⟩)⟩
  · rw [rest.eq, Gathered.handOver, List.filter_cons]
    cases sent.reported with
    | none => simp
    | some length => simp [Nat.add_assoc, Nat.add_comm]
  · intro earlier earlierMem other otherMem
    rw [List.mem_singleton.mp otherMem]
    rintro rfl
    exact new earlierMem

theorem sendAll_sends (random : world.Random) (roundNumber : ℕ) (requested : List (Bool × Bool))
    (room : gathered.acceptedTokens.length + requested.length ≤ 12) :
    ∃ sent after, List.Forall₂ (world.Made roundNumber) requested sent ∧
      requested.foldlM (fun gathered kind => gathered.send kind.1 kind.2
        ((world.round roundNumber).request kind.1 kind.2)) gathered = some after ∧
      gathered.Sends sent after := by
  induction requested generalizing gathered with
  | nil => exact ⟨[], gathered, .nil, rfl, by simp, id⟩
  | cons kind requested ih =>
      rw [List.length_cons] at room
      have few : gathered.acceptedTokens.length < 12 := by omega
      rcases send_made random few roundNumber kind with ⟨sent, made, new, handed⟩
      have length : (gathered.handOver sent).acceptedTokens.length =
          gathered.acceptedTokens.length + 1 := by simp [Gathered.handOver]
      rcases @ih (gathered.handOver sent) (by omega) with
        ⟨others, after, othersMade, ran, sends⟩
      refine ⟨sent :: others, after, .cons made othersMade, ?_, sends.cons new rfl⟩
      rw [List.foldlM_cons, handed, Option.bind_eq_bind, Option.bind_some]
      exact ran

/-! ### The rounds -/

def MulticastWorld.start (world : MulticastWorld) (roundNumber : ℕ) : ℚ :=
  (world.round roundNumber).now

/-- The window of a round. -/
def windowOf (options : MulticastOptions) (world : MulticastWorld) (roundNumber : ℕ) : ℚ :=
  SharedBudget.share (world.deadline options) options.rounds world.start roundNumber

/-- What a round receives, with the tokens that have been accepted by then. -/
def receptionsIn (options : MulticastOptions) (world : MulticastWorld) (tokens : List ByteString)
    (roundNumber : ℕ) : List Reception :=
  receptionsOf (tokens.take (kinds.length * (roundNumber + 1)))
    ((arrivals (world.start roundNumber + windowOf options world roundNumber)
      (world.round roundNumber).reads).take maxDatagramsPerRound)

/-- The requests of so many rounds. -/
def requestsOf (rounds : ℕ) : List (ℕ × Bool × Bool) :=
  (List.range rounds).flatMap fun roundNumber => kinds.map (roundNumber, ·)

/-- So many rounds have been made, each in its share of the time. -/
structure Gathered.Paced (options : MulticastOptions) (world : MulticastWorld)
    (gathered : Gathered) (rounds : ℕ) : Prop where
  counted : gathered.windows.length = rounds
  windows : ∀ roundNumber now window, gathered.windows[roundNumber]? = some (now, window) →
    now = world.start roundNumber ∧ window = windowOf options world roundNumber ∧
      (roundNumber ≠ 0 → options.nominalWindow * minWindowShare ≤ window)
  nodup : gathered.acceptedTokens.Nodup
  tokens : gathered.acceptedTokens = gathered.sent.map (·.token)
  made : List.Forall₂ (fun asked => world.Made asked.1 asked.2) (requestsOf rounds) gathered.sent
  attempts : gathered.attempts = (gathered.sent.filter (·.reported.isSome)).length
  received : gathered.received =
    (List.range rounds).flatMap (receptionsIn options world gathered.acceptedTokens)

theorem length_requestsOf (rounds : ℕ) : (requestsOf rounds).length = kinds.length * rounds := by
  rw [requestsOf, List.length_flatMap]
  simp [Nat.mul_comm]

theorem requestsOf_succ (rounds : ℕ) :
    requestsOf (rounds + 1) = requestsOf rounds ++ kinds.map (rounds, ·) := by
  rw [requestsOf, List.range_succ, List.flatMap_append, List.flatMap_singleton]
  rfl

theorem Gathered.Paced.length {rounds : ℕ} (paced : gathered.Paced options world rounds) :
    gathered.acceptedTokens.length = kinds.length * rounds := by
  rw [paced.tokens, List.length_map, ← paced.made.length_eq, length_requestsOf]

/-- Later tokens are not among those that an earlier round has accepted. -/
theorem receptionsIn_append {rounds roundNumber : ℕ} {tokens : List ByteString}
    (length : tokens.length = kinds.length * rounds) (earlier : roundNumber < rounds)
    (later : List ByteString) :
    receptionsIn options world (tokens ++ later) roundNumber =
      receptionsIn options world tokens roundNumber := by
  rw [receptionsIn, receptionsIn, List.take_append_of_le_length]
  rw [length]
  exact Nat.mul_le_mul_left _ earlier

/-- A round is made where its share of the time is worthwhile. -/
theorem Gathered.Paced.round {rounds : ℕ} (paced : gathered.Paced options world rounds)
    (worthwhile : rounds ≠ 0 →
      options.nominalWindow * minWindowShare ≤ windowOf options world rounds)
    {requests : List SentRequest} {sent after : Gathered}
    (made : List.Forall₂ (world.Made rounds) kinds requests)
    (sends : ({ gathered with
      windows := gathered.windows ++ [(world.start rounds, windowOf options world rounds)] } :
        Gathered).Sends requests sent)
    (hears : sent.Hears inetPton targetKey
      ((arrivals (world.start rounds + windowOf options world rounds)
        (world.round rounds).reads).take maxDatagramsPerRound) after) :
    after.Paced options world (rounds + 1) := by
  have counted := paced.counted
  have windows : after.windows =
      gathered.windows ++ [(world.start rounds, windowOf options world rounds)] := by
    rw [hears.windows, sends.eq]
  have tokens : after.acceptedTokens = gathered.acceptedTokens ++ requests.map (·.token) := by
    rw [hears.acceptedTokens, sends.eq]
  have requested : after.sent = gathered.sent ++ requests := by rw [hears.sent, sends.eq]
  have length : after.acceptedTokens.length = kinds.length * (rounds + 1) := by
    rw [tokens, List.length_append, paced.length, List.length_map, ← made.length_eq, Nat.mul_succ]
  refine ⟨by rw [windows]; simp [counted], ?_, ?_, ?_, ?_, ?_, ?_⟩
  · rw [windows]
    intro roundNumber now window here
    rcases lt_or_ge roundNumber gathered.windows.length with earlier | last
    · rw [List.getElem?_append_left earlier] at here
      exact paced.windows roundNumber now window here
    · rw [List.getElem?_append_right last] at here
      have within := (List.getElem?_eq_some_iff.mp here).1
      have latest : roundNumber = rounds := by
        rw [List.length_singleton] at within
        omega
      subst latest
      simp only [counted, Nat.sub_self, List.getElem?_cons_zero, Option.some.injEq,
        Prod.mk.injEq] at here
      rw [← here.1, ← here.2]
      exact ⟨rfl, rfl, worthwhile⟩
  · rw [hears.acceptedTokens]
    exact sends.nodup paced.nodup
  · rw [tokens, requested, List.map_append, paced.tokens]
  · rw [requested, requestsOf_succ]
    exact List.rel_append paced.made (List.forall₂_map_left_iff.mpr made)
  · rw [hears.attempts, sends.eq, requested, List.filter_append, List.length_append,
      ← paced.attempts]
  · rw [hears.received, sends.eq, List.range_succ, List.flatMap_append, List.flatMap_singleton]
    congr 1
    · rw [paced.received, tokens]
      refine List.flatMap_congr fun roundNumber earlier => ?_
      exact (receptionsIn_append paced.length (List.mem_range.mp earlier) _).symm
    · rw [receptionsIn, ← length, List.take_length, tokens]

/-- Why no round follows so many. -/
def Ends (options : MulticastOptions) (world : MulticastWorld) (rounds : ℕ) : Prop :=
  rounds = options.rounds ∨ world.deadline options ≤ (world.round rounds).checked ∨
    windowOf options world rounds < options.nominalWindow * minWindowShare

theorem runRounds_paced (random : world.Random) (left roundNumber : ℕ)
    (passes : roundNumber + left = options.rounds)
    (paced : gathered.Paced options world roundNumber)
    (tallies : gathered.Tallies inetPton targetKey) :
    ∃ after, runRounds inetPton targetKey options world left roundNumber gathered = some after ∧
      (∃ rounds ≤ options.rounds, after.Paced options world rounds ∧ Ends options world rounds) ∧
      after.Tallies inetPton targetKey := by
  induction left generalizing roundNumber gathered with
  | zero => exact ⟨gathered, rfl, ⟨roundNumber, by omega, paced, .inl passes⟩, tallies⟩
  | succ left ih =>
      rw [runRounds]
      dsimp only
      split_ifs with late short
      · exact ⟨gathered, rfl, ⟨roundNumber, by omega, paced, .inr (.inl late)⟩, tallies⟩
      · exact ⟨gathered, rfl, ⟨roundNumber, by omega, paced, .inr (.inr short.2)⟩, tallies⟩
      have room : gathered.acceptedTokens.length + kinds.length ≤ 12 := by
        have few := options.rounds_le
        rw [paced.length, show kinds.length = 3 from rfl]
        omega
      let started : Gathered := { gathered with
        windows := gathered.windows ++ [(world.start roundNumber,
          windowOf options world roundNumber)] }
      have startedRoom : started.acceptedTokens.length + kinds.length ≤ 12 := room
      rcases sendAll_sends random roundNumber kinds startedRoom with
        ⟨requests, sent, made, sending, sends⟩
      have hears : sent.Hears inetPton targetKey _ _ := hears_receiveAnswers
        (world.start roundNumber + windowOf options world roundNumber) maxDatagramsPerRound
        (world.round roundNumber).reads sent
      have worthwhile (later : roundNumber ≠ 0) :
          options.nominalWindow * minWindowShare ≤ windowOf options world roundNumber :=
        not_lt.mp fun less => short ⟨later, less⟩
      have sentTallies : sent.Tallies inetPton targetKey := by
        rw [sends.eq]
        exact tallies.moves _ _ _ _
      rcases ih (roundNumber + 1) (by omega) (paced.round worthwhile made sends hears)
        (hears.tallies sentTallies) with ⟨after, ran, rest⟩
      refine ⟨after, ?_, rest⟩
      rw [Option.bind_eq_bind, Option.bind_eq_some_iff]
      exact ⟨sent, sending, ran⟩

/-- The report, by the ports that have answered. -/
theorem Gathered.Tallies.report (tallies : gathered.Tallies inetPton targetKey) :
    gathered.report.ports =
        (if (respondersOf (gathered.heard inetPton targetKey)).length ≤ maxPorts then
          respondersOf (gathered.heard inetPton targetKey) else []) ∧
      (gathered.report.errorCode = some "ambiguous_response" ↔
        maxPorts < (respondersOf (gathered.heard inetPton targetKey)).length) ∧
      (gathered.report.errorCode = none ↔ gathered.report.ports ≠ []) := by
  have ports := tallies.counts.ports
  have tooMany := tallies.counts.tooManyPorts
  generalize respondersOf (gathered.heard inetPton targetKey) = responders at ports tooMany ⊢
  rw [Gathered.report]
  by_cases many : gathered.tooManyPorts = true
  · have more := tooMany.mp many
    rw [if_pos many, if_neg (not_le.mpr more)]
    exact ⟨rfl, iff_of_true rfl more, by simp⟩
  · have few : responders.length ≤ maxPorts := not_lt.mp fun more => many (tooMany.mpr more)
    have whole : gathered.ports = responders := by
      rw [ports, List.take_of_length_le few]
    rw [if_neg many, if_pos few, ← whole]
    rw [← whole] at few
    by_cases answered : gathered.ports = []
    · rw [if_neg (not_not.mpr answered)]
      split_ifs <;> exact ⟨answered.symm, iff_of_false (by simp) (not_lt.mpr few), by simp⟩
    · rw [if_pos answered]
      exact ⟨rfl, iff_of_false (by simp) (not_lt.mpr few), by simp [answered]⟩

/--
Where new tokens are drawn in the end, a discovery ends. It reports the distinct ports of the
target that the requests of its rounds are answered from, in the order of their first answers,
unless there are more than eight, and counts each answer once for its token and port. Every
confirmable answer is acknowledged. Each round hands three requests with new tokens to `sendto`,
which counts those that it takes, and reads at most 64 of the datagrams that arrive, in an equal
share of the time but for what late starts have taken; no round after the first has less than half
of a share, and rounds are only left out where the time is over or the next would have less.
-/
theorem responder_ports_exact (inetPton : InetPton) (targetKey : ByteString)
    (options : MulticastOptions) (world : MulticastWorld) (random : world.Random) :
    ∃ result gathered, discoverOcfResponderPorts inetPton targetKey options world =
      some (result, gathered) ∧
    (result.responses = (gathered.heard inetPton targetKey).eraseDups.length ∧
      result.ports = (if (respondersOf (gathered.heard inetPton targetKey)).length ≤ maxPorts then
        respondersOf (gathered.heard inetPton targetKey) else []) ∧
      (result.errorCode = some "ambiguous_response" ↔
        maxPorts < (respondersOf (gathered.heard inetPton targetKey)).length) ∧
      (result.errorCode = none ↔ result.ports ≠ []) ∧
      gathered.acknowledged =
        gathered.received.filterMap (Reception.acknowledgement? inetPton targetKey)) ∧
    ∃ rounds ≤ options.rounds, gathered.windows.length = rounds ∧
      List.Forall₂ (fun asked => world.Made asked.1 asked.2) (requestsOf rounds) gathered.sent ∧
      (gathered.sent.map (·.token)).Nodup ∧
      result.attempts = (gathered.sent.filter (·.reported.isSome)).length ∧
      gathered.received = (List.range rounds).flatMap
        (receptionsIn options world (gathered.sent.map (·.token))) ∧
      Ends options world rounds ∧
      ∀ roundNumber now window, gathered.windows[roundNumber]? = some (now, window) →
        now = world.start roundNumber ∧
        window = windowOf options world 0 -
          SharedBudget.lost (world.deadline options) options.rounds world.start roundNumber ∧
        (roundNumber ≠ 0 → options.nominalWindow / 2 ≤ window ∧
          now + window ≤ world.deadline options) := by
  have fresh : ({} : Gathered).Paced options world 0 := by
    refine ⟨rfl, ?_, List.nodup_nil, rfl, .nil, rfl, rfl⟩
    simp
  have empty : ({} : Gathered).Tallies inetPton targetKey :=
    ⟨⟨rfl, rfl, rfl, rfl, by simp [Gathered.heard, respondersOf]⟩, rfl⟩
  rcases runRounds_paced random options.rounds 0 (Nat.zero_add _) fresh empty with
    ⟨gathered, ran, ⟨rounds, within, paced, ends⟩, tallies⟩
  have report := tallies.report
  have attempts : gathered.report.attempts = gathered.attempts := by
    rw [Gathered.report]
    split_ifs <;> rfl
  have responses : gathered.report.responses = gathered.responses := by
    rw [Gathered.report]
    split_ifs <;> rfl
  refine ⟨gathered.report, gathered, by rw [discoverOcfResponderPorts, ran]; rfl,
    ⟨responses.trans tallies.counts.responses, report.1, report.2.1, report.2.2,
      tallies.acknowledged⟩, rounds, within, paced.counted, paced.made,
    paced.tokens ▸ paced.nodup, attempts.trans paced.attempts, paced.tokens ▸ paced.received,
    ends, ?_⟩
  intro roundNumber now window here
  rcases paced.windows roundNumber now window here with ⟨started, share, worthwhile⟩
  have earlier : roundNumber < options.rounds := by
    have length := (List.getElem?_eq_some_iff.mp here).1
    have counted := paced.counted
    omega
  refine ⟨started, by rw [share]; exact SharedBudget.share_eq earlier, fun later => ?_⟩
  have enough := worthwhile later
  have nominal : 0 ≤ options.nominalWindow * minWindowShare := by
    have positive := options.timeout_pos
    rw [MulticastOptions.nominalWindow, minWindowShare]
    positivity
  rw [started]
  constructor
  · rw [minWindowShare] at enough
    linarith
  · rw [share] at enough ⊢
    exact SharedBudget.end_le_deadline earlier (nominal.trans enough)

/-- One round, in which the target answers the first request twice and another host answers too.
The random numbers repeat. -/
def answeredWorld : MulticastWorld where
  started := 0
  round := fun _ =>
    let answer : ByteString := [0x48, 0x45, 0x12, 0x34] ++ List.replicate 8 1 ++ [0xff, 0xa0]
    { checked := 0
      now := 0
      request := fun _ _ =>
        ⟨(List.range 12).map fun draw => List.replicate 8 (UInt8.ofNat (draw + 1)), 7,
          fun datagram => some datagram.length⟩
      reads :=
        [⟨1, .readable (some (answer, .tuple [.str "192.0.2.9", .int 49154]))⟩,
          ⟨1, .readable (some (answer, .tuple [.str "192.0.2.7", .int 49153]))⟩,
          ⟨2, .readable (some (answer, .tuple [.str "192.0.2.7", .int 49153]))⟩] }

theorem answeredWorld_random : answeredWorld.Random where
  length _ _ _ token drawn := by
    rcases List.mem_map.mp drawn with ⟨draw, -, rfl⟩
    rfl
  differ _ _ _ := by
    change 12 ≤ ((List.range 12).map fun draw =>
      List.replicate 8 (UInt8.ofNat (draw + 1))).toFinset.card
    decide

theorem duplicate_answer_counted_once :
    let inetPton : InetPton := fun _ host =>
      if host = "192.0.2.7" then some [192, 0, 2, 7]
      else if host = "192.0.2.9" then some [192, 0, 2, 9] else none
    ∃ options : MulticastOptions, ∃ gathered, options.timeout = 3 ∧ options.rounds = 1 ∧
      discoverOcfResponderPorts inetPton [192, 0, 2, 7] options answeredWorld =
        some (⟨[49153], 3, 1, none⟩, gathered) ∧
      (gathered.heard inetPton [192, 0, 2, 7]).eraseDups.length = 1 ∧
      (gathered.sent.map (·.token)).Nodup := by
  intro inetPton
  let options : MulticastOptions := ⟨3, 1, by norm_num, by norm_num, by norm_num, by norm_num⟩
  have reported : (discoverOcfResponderPorts inetPton [192, 0, 2, 7] options answeredWorld).map
      Prod.fst = some ⟨[49153], 3, 1, none⟩ := by
    decide +kernel
  rcases responder_ports_exact inetPton [192, 0, 2, 7] options answeredWorld answeredWorld_random
    with ⟨result, gathered, returned, answers, _, _, _, _, tokens, _⟩
  rw [returned] at reported
  cases reported
  exact ⟨options, gathered, rfl, rfl, returned, answers.1.symm, tokens⟩

end Multicast

end SmartThingsLocal
