import SmartThingsLocal.Dtls.LivenessReply
import SmartThingsLocal.Endpoint.HostFilter
import SmartThingsLocal.Foundation.Fallible
import SmartThingsLocal.Foundation.OrderedDict
import SmartThingsLocal.Foundation.SharedBudget

/-!
# Probes of DTLS ports

`_probe_dtls_port_with_flight`, `probe_dtls_port` and `probe_dtls_ports` of
`protocol/dtls_probe.py`: one frozen ClientHello flight, sent again while there is time for an
answer, and the selection among ports that are probed at once. What the clock and the sockets do
is given for each attempt.
-/

namespace SmartThingsLocal

namespace DtlsProbe

open Discovery (AddressFamily InetPton)
open Endpoint

/-! ### Results -/

/-- `DtlsLivenessResult`. -/
structure DtlsLivenessResult where
  port : ℤ
  responseKind : Option ResponseKind
  attempts : ℕ
  rttS : Option ℚ := none
  alert : Option (UInt8 × String) := none
  errorCode : Option String := none
  responderPort : Option ℤ := none
  deriving DecidableEq, Repr

def DtlsLivenessResult.isDtlsServer (result : DtlsLivenessResult) : Bool :=
  result.responseKind.isSome

inductive ProbeOutcome
  | selected
  | unreachable
  | ambiguous
  deriving DecidableEq, Repr

/-- `DtlsPortProbeResult`. -/
structure DtlsPortProbeResult where
  outcome : ProbeOutcome
  selectedPort : Option ℤ
  results : List DtlsLivenessResult
  deriving DecidableEq, Repr

/-! ### The surroundings -/

/-- One pass of the read loop: the clock, the call of `recv` with what it raises in the end, and
the clock when a response is returned. -/
structure ProbeRead where
  clock : ℚ
  started : ℚ
  turns : List Turn
  timesOut : Bool
  returned : ℚ

/-- One attempt: the clock when it starts, how many records the socket takes, and the reads. The
clock passes the deadline of the attempt after the last of them. -/
structure ProbeAttempt where
  now : ℚ
  accepted : ℕ
  reads : List ProbeRead

/-- What a probe of one port meets. -/
structure ProbeWorld where
  getaddrinfo : Getaddrinfo
  binds : ResolvedUdpEndpoint → Bool
  started : ℚ
  attempt : ℕ → ProbeAttempt

structure ProbeOptions where
  timeout : ℚ
  retries : ℕ

/-- What was sent in an attempt, and the window that it was given for its answer. -/
structure SentFlight where
  records : List ByteString
  now : ℚ
  window : ℚ

/-- The variables of `_probe_dtls_port_with_flight`, with what was sent and what `recv` returned.
No step reads `sent` or `received`. -/
structure Probe where
  socket : HostFilteredUdpSocket
  attempts : ℕ := 0
  sent : List SentFlight := []
  received : List Endpoint.Arrival := []

/-- How the reads of one attempt end. -/
inductive ReadEnd
  | answered (kind : ResponseKind) (alert : Option (UInt8 × String)) (returned : ℚ)
  | timeUp
  | failed

/-- How the attempts end. -/
inductive ProbeEnd
  | answered (kind : ResponseKind) (alert : Option (UInt8 × String)) (rtt : ℚ)
  | unanswered
  | failed

def minWindowShare : ℚ := 1 / 2

def ProbeOptions.nominalBudget (options : ProbeOptions) : ℚ :=
  options.timeout / (options.retries + 1)

section OnePort

variable (inetPton : InetPton)

/-- The loop of reads up to the deadline of an attempt. -/
def readReplies (deadline : ℚ) : List ProbeRead → Probe → ReadEnd × Probe
  | [], probe => (.timeUp, probe)
  | read :: reads, probe =>
      let remaining := deadline - read.clock
      if remaining ≤ 0 then (.timeUp, probe)
      else
        match { probe.socket with timeout := some remaining }.recv inetPton read.started
            read.turns with
        | (.timedOut, socket) | (.waiting, socket) => (.timeUp, { probe with socket })
        | (.raised, socket) =>
            (if read.timesOut then .timeUp else .failed, { probe with socket })
        | (.returned arrival, socket) =>
            let probe := { probe with socket, received := probe.received ++ [arrival] }
            match parseLivenessResponse arrival.datagram with
            | (none, _) => readReplies deadline reads probe
            | (some kind, alert) => (.answered kind alert read.returned, probe)

variable (options : ProbeOptions) (flight : List ByteString) (world : ProbeWorld)

/-- The loop of attempts, with how many passes are left. -/
def runAttempts : ℕ → Probe → ProbeEnd × Probe
  | 0, probe => (.unanswered, probe)
  | left + 1, probe =>
      let surroundings := world.attempt probe.attempts
      let attempt := probe.attempts + 1
      let overallDeadline := world.started + options.timeout
      let now := surroundings.now
      let window : ℚ := (overallDeadline - now) / (options.retries + 2 - attempt)
      if attempt > 1 ∧ window < options.nominalBudget * minWindowShare then (.unanswered, probe)
      else
        let probe := { probe with
          attempts := attempt
          sent := probe.sent ++ [⟨flight.take surroundings.accepted, now, window⟩] }
        if surroundings.accepted < flight.length then (.failed, probe)
        else
          match readReplies inetPton (now + window) surroundings.reads probe with
          | (.answered kind alert returned, probe) =>
              (.answered kind alert (returned - world.started), probe)
          | (.failed, probe) => (.failed, probe)
          | (.timeUp, probe) => runAttempts left probe

/-- What a probe of a port reports in the end. -/
def reportEnd (port : ℤ) (probe : Probe) : ProbeEnd → DtlsLivenessResult
  | .answered kind alert rtt =>
      ⟨port, some kind, probe.attempts, some rtt, alert, none, probe.socket.observedReplyPort⟩
  | .unanswered => ⟨port, none, probe.attempts, none, none, some "no_dtls_response", none⟩
  | .failed => ⟨port, none, probe.attempts, none, none, some "endpoint_unavailable", none⟩

/-- `_probe_dtls_port_with_flight` on a socket that could be opened. -/
def probeOpened (port : ℤ) (socket : HostFilteredUdpSocket) : DtlsLivenessResult × Probe :=
  let (ended, probe) := runAttempts inetPton options flight world (options.retries + 1) { socket }
  (reportEnd port probe ended, probe)

/-- The socket of a probe. -/
def openProbe (host : String) (port : ℤ) (family : Option AddressFamily) :
    Except EndpointFailure HostFilteredUdpSocket :=
  openHostFilteredUdpSocket world.getaddrinfo world.binds host port family none
    (some options.nominalBudget)

def probeDtlsPortWithFlight (host : String) (port : ℤ) (family : Option AddressFamily) :
    Except PythonError DtlsLivenessResult :=
  match openProbe options world host port family with
  | .error (.python error) => .error error
  | .error (.endpoint _) =>
      .ok ⟨port, none, 0, none, none, some "endpoint_unavailable", none⟩
  | .ok socket => .ok (probeOpened inetPton options flight world port socket).1

end OnePort

/-! ### Checked calls -/

/-- `_validate_liveness_options` and `_validate_mtu`, of numbers. -/
def validateLivenessOptions (port : ℤ) (options : ProbeOptions) (mtu : ℤ) :
    Except PythonError Unit :=
  if ¬(1 ≤ port ∧ port ≤ 65535) then .error (.valueError "port must be between 1 and 65535")
  else if options.retries > 4 then
    .error (.valueError "retries must be between zero and four")
  else if ¬(0 < options.timeout ∧ options.timeout ≤ 30) then
    .error (.valueError "timeout must be greater than zero and at most 30")
  else if ¬(576 ≤ mtu ∧ mtu ≤ 16384) then
    .error (.valueError "mtu is outside the safe UDP range")
  else .ok ()

/-- The result of a probe without a ClientHello. -/
def withoutClientHello (port : ℤ) : DtlsLivenessResult :=
  ⟨port, none, 0, none, none, some "client_hello_unavailable", none⟩

/-- What all probes of a call share; `_client_hello_flight` gives nothing where it raises. -/
structure ProbeCall where
  inetPton : InetPton
  clientHelloFlight : ℤ → Option (List ByteString)
  host : String
  options : ProbeOptions
  mtu : ℤ
  family : Option AddressFamily

def probeDtlsPort (call : ProbeCall) (world : ProbeWorld) (port : ℤ) :
    Except PythonError DtlsLivenessResult := do
  validateLivenessOptions port call.options call.mtu
  match call.clientHelloFlight call.mtu with
  | none => return withoutClientHello port
  | some flight =>
      probeDtlsPortWithFlight call.inetPton call.options flight world call.host port call.family

/-- The result of one worker. -/
def workerResult (call : ProbeCall) (flight : List ByteString) (worlds : ℤ → ProbeWorld)
    (port : ℤ) : DtlsLivenessResult :=
  match probeDtlsPortWithFlight call.inetPton call.options flight (worlds port) call.host port
      call.family with
  | .ok result => result
  | .error _ => ⟨port, none, 0, none, none, some "probe_worker_failed", none⟩

/-- The ports that replies came from, each once. -/
def responderPorts (results : List DtlsLivenessResult) : List ℤ :=
  ((results.filter (·.isDtlsServer)).filterMap (·.responderPort)).eraseDups

/-- The selection on the ports that replies came from. -/
def selectPort (preferredPort : Option ℤ) (results : List DtlsLivenessResult) :
    DtlsPortProbeResult :=
  let responders := responderPorts results
  if responders ≠ [] then
    match preferredPort.filter (· ∈ responders) with
    | some preferred => ⟨.selected, preferred, results⟩
    | none =>
        if responders.length = 1 then ⟨.selected, responders.head?, results⟩
        else ⟨.ambiguous, none, results⟩
  else ⟨.unreachable, none, results⟩

/-- `probe_dtls_ports`, where the workers complete in a given order. -/
def probeDtlsPorts (call : ProbeCall) (worlds : ℤ → ProbeWorld) (ports : List ℤ)
    (preferredPort : Option ℤ) (completed : List ℤ) : Except PythonError DtlsPortProbeResult :=
  let orderedPorts := ports.eraseDups
  if orderedPorts = [] then .ok ⟨.unreachable, none, []⟩
  else if orderedPorts.length > 32 then
    .error (.valueError "at most 32 DTLS ports may be probed")
  else do
    orderedPorts.forM fun port => validateLivenessOptions port call.options call.mtu
    preferredPort.forM fun port => validateLivenessOptions port call.options call.mtu
    match call.clientHelloFlight call.mtu with
    | none => return ⟨.unreachable, none, orderedPorts.map withoutClientHello⟩
    | some flight =>
        let byPort := completed.foldl (fun byPort port =>
          byPort.set port (workerResult call flight worlds port)) OrderedDict.empty
        return selectPort preferredPort (orderedPorts.filterMap byPort.get?)

/-! ### What a probe hears -/

/-- A reply: its kind and, for an alert, its level and name. -/
abbrev Reply : Type := ResponseKind × Option (UInt8 × String)

def ReadEnd.reply? : ReadEnd → Option Reply
  | .answered kind alert _ => some (kind, alert)
  | _ => none

def ProbeEnd.reply? : ProbeEnd → Option Reply
  | .answered kind alert _ => some (kind, alert)
  | _ => none

/-- A datagram that proves no server. -/
def Unproven (arrival : Endpoint.Arrival) : Prop :=
  (parseLivenessResponse arrival.datagram).1 = none

/-- The first datagram of the host that a read meets before its time is up or the socket raises. -/
def ProbeRead.delivered? (inetPton : InetPton) (socket : HostFilteredUdpSocket) (deadline : ℚ)
    (read : ProbeRead) : Option Endpoint.Arrival :=
  if deadline ≤ read.clock then none
  else
    let inTime := read.turns.takeWhile fun turn =>
      turn.clock < read.started + (deadline - read.clock) ∧ turn.received.isSome
    (inTime.filterMap (·.received)).find? fun arrival => socket.Accepts inetPton arrival.source

/-- A datagram is delivered in one of these reads, and in those before it what proves nothing. -/
def DeliveredIn (inetPton : InetPton) (socket : HostFilteredUdpSocket) (deadline : ℚ)
    (reads : List ProbeRead) (arrival : Endpoint.Arrival) : Prop :=
  ∃ earlier read later, reads = earlier ++ read :: later ∧
    read.delivered? inetPton socket deadline = some arrival ∧
    ∀ before ∈ earlier, ∃ other, before.delivered? inetPton socket deadline = some other ∧
      Unproven other

/-- What `recv` returned came from the host, and the last of it is the reply, if there is one. -/
structure Probe.Hears (inetPton : InetPton) (probe : Probe) (reply : Option Reply) : Prop where
  filtered : ∀ arrival ∈ probe.received, probe.socket.Accepts inetPton arrival.source
  silent : reply = none → ∀ arrival ∈ probe.received, Unproven arrival
  answered : ∀ kind alert, reply = some (kind, alert) → ∃ earlier arrival,
    probe.received = earlier ++ [arrival] ∧ (∀ arrival ∈ earlier, Unproven arrival) ∧
      parseLivenessResponse arrival.datagram = (some kind, alert) ∧
      probe.socket.observedReplyPort = some arrival.source.port

/-- Reading changes only the socket and what was received. -/
structure Probe.Reads (before after : Probe) : Prop where
  attempts : after.attempts = before.attempts
  sent : after.sent = before.sent
  endpoint : after.socket.endpoint = before.socket.endpoint

section Attempts

variable {inetPton : InetPton} {options : ProbeOptions} {flight : List ByteString}
  {world : ProbeWorld} {probe : Probe}

/-- The next datagram proves nothing. -/
theorem Probe.Hears.unproven {arrival : Endpoint.Arrival} (socket : HostFilteredUdpSocket)
    (hears : probe.Hears inetPton none) (endpoint : socket.endpoint = probe.socket.endpoint)
    (accepted : probe.socket.Accepts inetPton arrival.source)
    (unproven : (parseLivenessResponse arrival.datagram).1 = none) :
    { probe with socket, received := probe.received ++ [arrival] }.Hears inetPton none := by
  have accepts (source : SocketAddress) (accepted : probe.socket.Accepts inetPton source) :
      socket.Accepts inetPton source := by
    rw [HostFilteredUdpSocket.Accepts, HostFilteredUdpSocket.hostKey, endpoint]
    exact accepted
  refine ⟨fun other otherMem => accepts _ ?_, fun _ other otherMem => ?_, by simp⟩
  · rcases List.mem_append.mp otherMem with earlier | last
    · exact hears.filtered other earlier
    · rw [List.mem_singleton.mp last]
      exact accepted
  · rcases List.mem_append.mp otherMem with earlier | last
    · exact hears.silent rfl other earlier
    · rw [List.mem_singleton.mp last]
      exact unproven

/-- A call of `recv` returns what is delivered first. -/
theorem recvLoop_delivered (socket : HostFilteredUdpSocket) (deadline : ℚ) (turns : List Turn) :
    (socket.recvLoop inetPton (some deadline) turns =
        (.timedOut, socket) ∨ socket.recvLoop inetPton (some deadline) turns = (.waiting, socket) ∨
        (socket.recvLoop inetPton (some deadline) turns = (.raised, socket) ∧
          ∃ turn ∈ turns, turn.received = none)) ∧
      ((turns.takeWhile fun turn => turn.clock < deadline ∧ turn.received.isSome).filterMap
        (·.received)).find? (fun arrival => socket.Accepts inetPton arrival.source) = none ∨
    ∃ arrival, socket.Accepts inetPton arrival.source ∧
      socket.recvLoop inetPton (some deadline) turns =
        (.returned arrival, { socket with observedReplyPort := some arrival.source.port }) ∧
      ((turns.takeWhile fun turn => turn.clock < deadline ∧ turn.received.isSome).filterMap
        (·.received)).find? (fun arrival => socket.Accepts inetPton arrival.source) =
          some arrival := by
  induction turns with
  | nil => exact .inl ⟨.inr (.inl rfl), rfl⟩
  | cons turn turns ih =>
      rw [HostFilteredUdpSocket.recvLoop]
      by_cases late : deadline ≤ turn.clock
      · rw [if_pos (by simpa using late)]
        exact .inl ⟨.inl rfl, by simp [not_lt.mpr late]⟩
      · rw [if_neg (by simpa using late)]
        have inTime := not_le.mp late
        cases received : turn.received with
        | none =>
            exact .inl ⟨.inr (.inr ⟨rfl, turn, List.mem_cons_self, received⟩),
              by simp [received]⟩
        | some arrival =>
            dsimp only
            simp only [List.takeWhile_cons, inTime, received, Option.isSome_some, and_self,
              decide_true, if_true, List.filterMap_cons, List.find?_cons]
            by_cases accepts : socket.Accepts inetPton arrival.source
            · rw [if_pos accepts]
              exact .inr ⟨arrival, accepts, rfl, by simp [accepts]⟩
            · rw [if_neg accepts]
              simp only [accepts, decide_false]
              rcases ih with ⟨ends, nothing⟩ | delivered
              · refine .inl ⟨?_, nothing⟩
                rcases ends with late | waiting | ⟨raised, own, ownMem, failed⟩
                · exact .inl late
                · exact .inr (.inl waiting)
                · exact .inr (.inr ⟨raised, own, List.mem_cons_of_mem _ ownMem, failed⟩)
              · exact .inr delivered

theorem deliveredIn_cons_iff {socket : HostFilteredUdpSocket} {deadline : ℚ} {read : ProbeRead}
    {reads : List ProbeRead} {arrival : Endpoint.Arrival} :
    DeliveredIn inetPton socket deadline (read :: reads) arrival ↔
      ∃ first, read.delivered? inetPton socket deadline = some first ∧
        (arrival = first ∨ Unproven first ∧
          DeliveredIn inetPton socket deadline reads arrival) := by
  constructor
  · rintro ⟨_ | ⟨first, earlier⟩, own, later, split, delivered, before⟩
    · cases split
      exact ⟨arrival, delivered, .inl rfl⟩
    · cases split
      rcases before read List.mem_cons_self with ⟨first, firstDelivered, unproven⟩
      exact ⟨first, firstDelivered, .inr ⟨unproven, earlier, own, later, rfl, delivered,
        fun other otherMem => before other (List.mem_cons_of_mem _ otherMem)⟩⟩
  · rintro ⟨first, delivered, rfl | ⟨unproven, earlier, own, later, rfl, rest, before⟩⟩
    · exact ⟨[], read, reads, rfl, delivered, by simp⟩
    · refine ⟨read :: earlier, own, later, rfl, rest, fun other otherMem => ?_⟩
      rcases List.mem_cons.mp otherMem with rfl | otherMem
      · exact ⟨first, delivered, unproven⟩
      · exact before other otherMem

/-- Only the endpoint of the socket decides what is delivered. -/
theorem deliveredIn_congr {socket other : HostFilteredUdpSocket} {deadline : ℚ}
    {reads : List ProbeRead} {arrival : Endpoint.Arrival}
    (endpoint : other.endpoint = socket.endpoint) :
    DeliveredIn inetPton other deadline reads arrival ↔
      DeliveredIn inetPton socket deadline reads arrival := by
  rcases socket with ⟨own, timeout, observed⟩
  rcases other with ⟨_, otherTimeout, otherObserved⟩
  cases endpoint
  exact Iff.rfl

/-- A read without a delivery ends the reads of an attempt. -/
theorem not_deliveredIn {socket : HostFilteredUdpSocket} {deadline : ℚ} {read : ProbeRead}
    {reads : List ProbeRead} {arrival : Endpoint.Arrival}
    (nothing : read.delivered? inetPton socket deadline = none) :
    ¬DeliveredIn inetPton socket deadline (read :: reads) arrival := by
  rw [deliveredIn_cons_iff, nothing]
  rintro ⟨first, ⟨⟩, -⟩

/-- A read in which the socket raises something else than that its time is up. -/
def ProbeRead.Fails (read : ProbeRead) : Prop :=
  read.timesOut = false ∧ ∃ turn ∈ read.turns, turn.received = none

/-- What the reads of an attempt come to. -/
structure Reading (inetPton : InetPton) (deadline : ℚ) (reads : List ProbeRead) (before : Probe)
    (ended : ReadEnd) (after : Probe) : Prop where
  kept : before.Reads after
  hears : after.Hears inetPton ended.reply?
  received : ∀ arrival, arrival ∈ after.received ↔
    arrival ∈ before.received ∨ DeliveredIn inetPton before.socket deadline reads arrival
  failed : ended = .failed → ∃ read ∈ reads, read.Fails

/-- The reads end without a delivery. -/
theorem Reading.ofNothing {deadline : ℚ} {reads : List ProbeRead} {ended : ReadEnd}
    (socket : HostFilteredUdpSocket) (endpoint : socket.endpoint = probe.socket.endpoint)
    (hears : probe.Hears inetPton none) (unheard : ended.reply? = none)
    (nothing : ∀ arrival, ¬DeliveredIn inetPton probe.socket deadline reads arrival)
    (failed : ended = .failed → ∃ read ∈ reads, read.Fails) :
    Reading inetPton deadline reads probe ended { probe with socket } := by
  refine ⟨⟨rfl, rfl, endpoint⟩, ⟨?_, fun _ => hears.silent rfl, by simp [unheard]⟩,
    fun arrival => ?_, failed⟩
  · intro arrival arrivalMem
    have accepted := hears.filtered arrival arrivalMem
    rw [HostFilteredUdpSocket.Accepts, HostFilteredUdpSocket.hostKey, endpoint]
    exact accepted
  · simp [nothing arrival]

theorem readReplies_reading (deadline : ℚ) (reads : List ProbeRead)
    (hears : probe.Hears inetPton none) :
    Reading inetPton deadline reads probe (readReplies inetPton deadline reads probe).1
      (readReplies inetPton deadline reads probe).2 := by
  induction reads generalizing probe with
  | nil =>
      refine Reading.ofNothing probe.socket rfl hears rfl ?_ nofun
      rintro arrival ⟨_ | ⟨_, _⟩, read, later, ⟨⟩, -⟩
  | cons read reads ih =>
      rw [readReplies]
      dsimp only
      by_cases late : deadline - read.clock ≤ 0
      · rw [if_pos late]
        refine Reading.ofNothing probe.socket rfl hears rfl (fun arrival => ?_) nofun
        exact not_deliveredIn (if_pos (sub_nonpos.mp late))
      · rw [if_neg late]
        have delivered : read.delivered? inetPton probe.socket deadline = _ :=
          if_neg fun early => late (sub_nonpos.mpr early)
        rcases @recvLoop_delivered inetPton
            { probe.socket with timeout := some (deadline - read.clock) }
            (read.started + (deadline - read.clock)) read.turns with
          ⟨ends, nothing⟩ | ⟨arrival, accepted, returned, first⟩
        · have unheard (arrival : Endpoint.Arrival) :
              ¬DeliveredIn inetPton probe.socket deadline (read :: reads) arrival :=
            not_deliveredIn (delivered.trans nothing)
          rw [HostFilteredUdpSocket.recv, Option.map_some]
          rcases ends with ended | ended | ⟨ended, raised⟩
          · rw [ended]
            exact Reading.ofNothing _ rfl hears rfl unheard nofun
          · rw [ended]
            exact Reading.ofNothing _ rfl hears rfl unheard nofun
          · rw [ended]
            cases timesOut : read.timesOut with
            | true => exact Reading.ofNothing _ rfl hears rfl unheard nofun
            | false =>
                exact Reading.ofNothing _ rfl hears rfl unheard fun _ =>
                  ⟨read, List.mem_cons_self, timesOut, raised⟩
        · rw [HostFilteredUdpSocket.recv, Option.map_some, returned]
          dsimp only
          have accepted : probe.socket.Accepts inetPton arrival.source := accepted
          have delivered : read.delivered? inetPton probe.socket deadline = some arrival :=
            delivered.trans first
          rcases parsed : parseLivenessResponse arrival.datagram with ⟨_ | kind, alert⟩
          · have unproven : Unproven arrival := by rw [Unproven, parsed]
            have next := ih (Probe.Hears.unproven
              { probe.socket with
                timeout := some (deadline - read.clock)
                observedReplyPort := some arrival.source.port } hears rfl accepted unproven)
            refine ⟨⟨next.kept.attempts, next.kept.sent, next.kept.endpoint⟩, next.hears,
              fun other => ?_, fun failed => ?_⟩
            · rw [next.received other, deliveredIn_cons_iff, List.mem_append, List.mem_singleton]
              simp only [delivered, Option.some.injEq, exists_eq_left', unproven, true_and]
              rw [or_assoc]
              exact Iff.rfl
            · rcases next.failed failed with ⟨failing, failingMem, fails⟩
              exact ⟨failing, List.mem_cons_of_mem _ failingMem, fails⟩
          · have proven : ¬Unproven arrival := by simp [Unproven, parsed]
            refine ⟨⟨rfl, rfl, rfl⟩, ⟨fun other otherMem => ?_, by simp [ReadEnd.reply?], ?_⟩,
              fun other => ?_, nofun⟩
            · rcases List.mem_append.mp otherMem with earlier | last
              · exact hears.filtered other earlier
              · rw [List.mem_singleton.mp last]
                exact accepted
            · intro replyKind replyAlert same
              cases same
              exact ⟨probe.received, arrival, rfl, hears.silent rfl, parsed, rfl⟩
            · rw [deliveredIn_cons_iff, List.mem_append, List.mem_singleton]
              simp [delivered, proven]

/-! ### The pace of the attempts -/

/-- The time at which an attempt starts, if it is reached. -/
def ProbeWorld.start (world : ProbeWorld) (attempt : ℕ) : ℚ := (world.attempt attempt).now

/-- The equal share of an attempt in the time that is left when it starts. -/
def windowOf (options : ProbeOptions) (world : ProbeWorld) (attempt : ℕ) : ℚ :=
  SharedBudget.share (world.started + options.timeout) (options.retries + 1) world.start attempt

/-- An attempt is worth another flight. -/
def Worthwhile (options : ProbeOptions) (world : ProbeWorld) (attempt : ℕ) : Prop :=
  attempt = 0 ∨ options.nominalBudget * minWindowShare ≤ windowOf options world attempt

/-- Every flight was sent in its share of the time, whole, but for the last. -/
structure Probe.Paced (options : ProbeOptions) (flight : List ByteString) (world : ProbeWorld)
    (probe : Probe) : Prop where
  counted : probe.sent.length = probe.attempts
  within : probe.attempts ≤ options.retries + 1
  windows : ∀ attempt sent, probe.sent[attempt]? = some sent →
    sent.now = world.start attempt ∧ sent.window = windowOf options world attempt ∧
      Worthwhile options world attempt
  records : ∀ attempt sent, probe.sent[attempt]? = some sent →
    sent.records <+: flight ∧ (attempt + 1 < probe.sent.length → sent.records = flight)

/-- The attempts so far have all sent the flight. -/
structure Probe.Underway (options : ProbeOptions) (flight : List ByteString) (world : ProbeWorld)
    (probe : Probe) : Prop where
  paced : probe.Paced options flight world
  whole : ∀ sent ∈ probe.sent, sent.records = flight

theorem window_eq (options : ProbeOptions) (world : ProbeWorld) (attempt : ℕ) :
    (world.started + options.timeout - (world.attempt attempt).now) /
        ((options.retries : ℚ) + 2 - ((attempt + 1 : ℕ) : ℚ)) = windowOf options world attempt := by
  rw [windowOf, SharedBudget.share]
  push_cast
  congr 1
  ring

theorem Probe.Underway.send (underway : probe.Underway options flight world)
    (room : probe.attempts < options.retries + 1)
    (worthwhile : Worthwhile options world probe.attempts) (accepted : ℕ) :
    ({ probe with
      attempts := probe.attempts + 1
      sent := probe.sent ++ [⟨flight.take accepted, (world.attempt probe.attempts).now,
        windowOf options world probe.attempts⟩] } : Probe).Paced options flight world := by
  have counted := underway.paced.counted
  refine ⟨by simp [counted], room, fun attempt sent here => ?_, fun attempt sent here => ?_⟩
  · rcases lt_or_ge attempt probe.sent.length with earlier | last
    · rw [List.getElem?_append_left earlier] at here
      exact underway.paced.windows attempt sent here
    · rw [List.getElem?_append_right last] at here
      rcases Nat.eq_zero_of_le_zero (Nat.le_of_lt_succ (List.getElem?_eq_some_iff.mp here).1) with
        first
      rw [first, List.getElem?_cons_zero, Option.some.injEq] at here
      have same : attempt = probe.attempts := by omega
      rw [same, ← here]
      exact ⟨rfl, rfl, worthwhile⟩
  · rcases lt_or_ge attempt probe.sent.length with earlier | last
    · rw [List.getElem?_append_left earlier] at here
      have sentWhole := underway.whole sent (List.mem_of_getElem? here)
      exact ⟨sentWhole ▸ List.prefix_rfl, fun _ => sentWhole⟩
    · rw [List.getElem?_append_right last] at here
      rcases Nat.eq_zero_of_le_zero (Nat.le_of_lt_succ (List.getElem?_eq_some_iff.mp here).1) with
        first
      rw [first, List.getElem?_cons_zero, Option.some.injEq] at here
      refine ⟨here ▸ List.take_prefix _ _, fun before => ?_⟩
      simp only [List.length_append, List.length_singleton] at before
      omega

theorem Probe.Paced.read {after : Probe} (paced : probe.Paced options flight world)
    (reads : probe.Reads after) : after.Paced options flight world := by
  refine ⟨?_, ?_, ?_, ?_⟩
  · rw [reads.sent, reads.attempts]
    exact paced.counted
  · rw [reads.attempts]
    exact paced.within
  · rw [reads.sent]
    exact paced.windows
  · rw [reads.sent]
    exact paced.records

/-- A datagram is delivered in an attempt that has sent the flight. -/
def ProbeWorld.Delivers (inetPton : InetPton) (options : ProbeOptions) (flight : List ByteString)
    (world : ProbeWorld) (socket : HostFilteredUdpSocket) (attempt : ℕ)
    (arrival : Endpoint.Arrival) : Prop :=
  flight.length ≤ (world.attempt attempt).accepted ∧
    DeliveredIn inetPton socket (world.start attempt + windowOf options world attempt)
      (world.attempt attempt).reads arrival

/-- The socket takes less than the flight, or raises in a read. -/
def ProbeAttempt.Fails (attempt : ProbeAttempt) (flight : List ByteString) : Prop :=
  attempt.accepted < flight.length ∨ ∃ read ∈ attempt.reads, read.Fails

/-- What a probe has come to when its attempts end. -/
structure Probe.Concluded (inetPton : InetPton) (options : ProbeOptions) (flight : List ByteString)
    (world : ProbeWorld) (ended : ProbeEnd) (probe : Probe) : Prop where
  paced : probe.Paced options flight world
  hears : probe.Hears inetPton ended.reply?
  failed : ended = .failed → ∃ attempt, probe.attempts = attempt + 1 ∧
    (world.attempt attempt).Fails flight
  givenUp : ended = .unanswered →
    probe.attempts = options.retries + 1 ∨ ¬Worthwhile options world probe.attempts
  whole : (∀ kind alert rtt, ended = .answered kind alert rtt → 0 < probe.attempts) ∧
    (ended ≠ .failed → ∀ sent ∈ probe.sent, sent.records = flight)

/-- What was delivered in the attempts from one on. -/
def Probe.ReceivedSince (inetPton : InetPton) (options : ProbeOptions) (flight : List ByteString)
    (world : ProbeWorld) (before after : Probe) : Prop :=
  ∀ arrival, arrival ∈ after.received ↔ arrival ∈ before.received ∨
    ∃ attempt, before.attempts ≤ attempt ∧ attempt < after.attempts ∧
      world.Delivers inetPton options flight before.socket attempt arrival

theorem Probe.ReceivedSince.refl (probe : Probe) :
    probe.ReceivedSince inetPton options flight world probe := by
  intro arrival
  refine ⟨.inl, fun received => received.resolve_right ?_⟩
  rintro ⟨attempt, after, before, -⟩
  exact absurd before (not_lt.mpr after)

/-- One attempt, and what comes after it. -/
theorem Probe.ReceivedSince.step {next last : Probe}
    (attempts : next.attempts = probe.attempts + 1) (monotone : next.attempts ≤ last.attempts)
    (endpoint : next.socket.endpoint = probe.socket.endpoint)
    (own : ∀ arrival, arrival ∈ next.received ↔ arrival ∈ probe.received ∨
      world.Delivers inetPton options flight probe.socket probe.attempts arrival)
    (rest : next.ReceivedSince inetPton options flight world last) :
    probe.ReceivedSince inetPton options flight world last := by
  intro arrival
  rw [rest arrival, own arrival, or_assoc]
  refine or_congr_right ?_
  simp only [ProbeWorld.Delivers, deliveredIn_congr endpoint]
  constructor
  · rintro (delivered | ⟨attempt, after, before, delivered⟩)
    · exact ⟨probe.attempts, le_rfl, by omega, delivered⟩
    · exact ⟨attempt, by omega, before, delivered⟩
  · rintro ⟨attempt, after, before, delivered⟩
    rcases after.eq_or_lt with rfl | later
    · exact .inl delivered
    · exact .inr ⟨attempt, by omega, before, delivered⟩

/-- What a run of attempts comes to. -/
structure Probe.Runs (inetPton : InetPton) (options : ProbeOptions) (flight : List ByteString)
    (world : ProbeWorld) (before : Probe) (ended : ProbeEnd) (after : Probe) : Prop where
  concluded : after.Concluded inetPton options flight world ended
  endpoint : after.socket.endpoint = before.socket.endpoint
  monotone : before.attempts ≤ after.attempts
  received : before.ReceivedSince inetPton options flight world after

theorem runAttempts_runs (left : ℕ) (underway : probe.Underway options flight world)
    (hears : probe.Hears inetPton none)
    (passes : probe.attempts + left = options.retries + 1) :
    probe.Runs inetPton options flight world
      (runAttempts inetPton options flight world left probe).1
      (runAttempts inetPton options flight world left probe).2 := by
  induction left generalizing probe with
  | zero =>
      exact ⟨⟨underway.paced, hears, nofun, fun _ => .inl passes, by simp [runAttempts],
        fun _ => underway.whole⟩, rfl, le_rfl, .refl probe⟩
  | succ left ih =>
      rw [runAttempts]
      dsimp only
      rw [window_eq]
      by_cases short : probe.attempts + 1 > 1 ∧
          windowOf options world probe.attempts < options.nominalBudget * minWindowShare
      · rw [if_pos short]
        have later : probe.attempts ≠ 0 := by omega
        refine ⟨⟨underway.paced, hears, nofun, fun _ => .inr ?_, by simp,
          fun _ => underway.whole⟩, rfl, le_rfl, .refl probe⟩
        rintro (first | worthwhile)
        · exact later first
        · exact absurd worthwhile (not_le.mpr short.2)
      · rw [if_neg short]
        have worthwhile : Worthwhile options world probe.attempts := by
          by_cases first : probe.attempts = 0
          · exact .inl first
          · exact .inr (not_lt.mp fun less => short ⟨by omega, less⟩)
        have sent := underway.send (by omega) worthwhile
          (world.attempt probe.attempts).accepted
        by_cases refused : (world.attempt probe.attempts).accepted < flight.length
        · rw [if_pos refused]
          refine ⟨⟨sent, ⟨hears.filtered, hears.silent, by simp [ProbeEnd.reply?]⟩,
            fun _ => ⟨probe.attempts, rfl, .inl refused⟩, by simp, by simp,
            fun unfailed => absurd rfl unfailed⟩, rfl, Nat.le_succ _, ?_⟩
          refine Probe.ReceivedSince.step rfl le_rfl rfl (fun arrival => ?_) (.refl _)
          exact (or_iff_left fun delivered => absurd delivered.1 (not_le.mpr refused)).symm
        · rw [if_neg refused]
          have whole : flight.take (world.attempt probe.attempts).accepted = flight :=
            List.take_of_length_le (not_lt.mp refused)
          rw [whole] at sent ⊢
          generalize sending : ({ probe with
            attempts := probe.attempts + 1
            sent := probe.sent ++ [⟨flight, (world.attempt probe.attempts).now,
              windowOf options world probe.attempts⟩] } : Probe) = next at sent ⊢
          have nextHears : next.Hears inetPton none := by
            rw [← sending]
            exact ⟨hears.filtered, hears.silent, by simp⟩
          have allWhole : ∀ sent ∈ next.sent, sent.records = flight := by
            rw [← sending]
            intro sent sentMem
            rcases List.mem_append.mp sentMem with earlier | last
            · exact underway.whole sent earlier
            · rw [List.mem_singleton.mp last]
          have attempts : next.attempts = probe.attempts + 1 := by rw [← sending]
          have socket : next.socket = probe.socket := by rw [← sending]
          have received : next.received = probe.received := by rw [← sending]
          have reading := readReplies_reading
            ((world.attempt probe.attempts).now + windowOf options world probe.attempts)
            (world.attempt probe.attempts).reads nextHears
          generalize readReplies inetPton _ _ next = result at reading ⊢
          rcases result with ⟨ended, after⟩
          have kept : ∀ sent ∈ after.sent, sent.records = flight := by
            rw [reading.kept.sent]
            exact allWhole
          have afterAttempts : after.attempts = probe.attempts + 1 :=
            reading.kept.attempts.trans attempts
          have afterEndpoint : after.socket.endpoint = probe.socket.endpoint := by
            rw [reading.kept.endpoint, socket]
          have own (arrival : Endpoint.Arrival) : arrival ∈ after.received ↔
              arrival ∈ probe.received ∨
                world.Delivers inetPton options flight probe.socket probe.attempts arrival := by
            rw [reading.received arrival, received, socket]
            exact or_congr_right (and_iff_right (not_lt.mp refused)).symm
          have single := Probe.ReceivedSince.step afterAttempts le_rfl afterEndpoint own (.refl _)
          have monotone : probe.attempts ≤ after.attempts := by omega
          cases ended with
          | answered kind alert returned =>
              refine ⟨⟨sent.read reading.kept, reading.hears, nofun, by simp,
                fun _ _ _ _ => ?_, fun _ => kept⟩, afterEndpoint, monotone, single⟩
              rw [afterAttempts]
              exact Nat.succ_pos _
          | failed =>
              exact ⟨⟨sent.read reading.kept, reading.hears,
                fun _ => ⟨probe.attempts, afterAttempts, .inr (reading.failed rfl)⟩, by simp,
                by simp, fun unfailed => absurd rfl unfailed⟩, afterEndpoint, monotone, single⟩
          | timeUp =>
              have rest := ih ⟨sent.read reading.kept, kept⟩ reading.hears
                (by rw [afterAttempts]; omega)
              exact ⟨rest.concluded, rest.endpoint.trans afterEndpoint,
                monotone.trans rest.monotone,
                .step afterAttempts rest.monotone afterEndpoint own rest.received⟩

/-! ### One probe -/

variable {socket : HostFilteredUdpSocket}

@[simp]
theorem isDtlsServer_reportEnd (port : ℤ) (probe : Probe) (ended : ProbeEnd) :
    (reportEnd port probe ended).isDtlsServer = ended.reply?.isSome := by
  cases ended <;> rfl

theorem not_unproven {arrival : Endpoint.Arrival} {kind : ResponseKind}
    {alert : Option (UInt8 × String)}
    (parsed : parseLivenessResponse arrival.datagram = (some kind, alert)) :
    ¬Unproven arrival := by
  rw [Unproven, parsed]
  simp

/-- What proves a server is what was heard last, and the socket has noted where it came from. -/
theorem Probe.Hears.proves_iff {inetPton : InetPton} {reply : Option Reply}
    (hears : probe.Hears inetPton reply) (responder : ℤ) :
    reply.isSome = true ∧ probe.socket.observedReplyPort = some responder ↔
      ∃ arrival ∈ probe.received, ¬Unproven arrival ∧ arrival.source.port = responder := by
  cases reply with
  | none =>
      refine ⟨fun replied => absurd replied.1 (by simp), ?_⟩
      rintro ⟨arrival, arrivalMem, proven, -⟩
      exact absurd (hears.silent rfl arrival arrivalMem) proven
  | some reply =>
      rcases hears.answered reply.1 reply.2 rfl with
        ⟨earlier, arrival, received, unproven, parsed, observed⟩
      rw [observed]
      constructor
      · rintro ⟨-, same⟩
        exact ⟨arrival, by rw [received]; simp, not_unproven parsed, Option.some.inj same⟩
      · rintro ⟨other, otherMem, otherProven, rfl⟩
        rw [received] at otherMem
        rcases List.mem_append.mp otherMem with before | last
        · exact absurd (unproven other before) otherProven
        · rw [List.mem_singleton.mp last]
          exact ⟨rfl, rfl⟩

theorem Probe.Hears.replied_iff {inetPton : InetPton} {reply : Option Reply}
    (hears : probe.Hears inetPton reply) :
    reply.isSome = true ↔ ∃ arrival ∈ probe.received, ¬Unproven arrival := by
  constructor
  · intro replied
    rcases Option.isSome_iff_exists.mp replied with ⟨⟨kind, alert⟩, rfl⟩
    rcases hears.answered kind alert rfl with ⟨earlier, arrival, received, -, parsed, -⟩
    exact ⟨arrival, by rw [received]; simp, not_unproven parsed⟩
  · rintro ⟨arrival, arrivalMem, proven⟩
    exact ((hears.proves_iff arrival.source.port).mpr ⟨arrival, arrivalMem, proven, rfl⟩).1

theorem probeOpened_runs (inetPton : InetPton) (options : ProbeOptions)
    (flight : List ByteString) (world : ProbeWorld) (port : ℤ) (socket : HostFilteredUdpSocket) :
    ∃ ended, Probe.Runs inetPton options flight world { socket } ended
        (probeOpened inetPton options flight world port socket).2 ∧
      (probeOpened inetPton options flight world port socket).1 =
        reportEnd port (probeOpened inetPton options flight world port socket).2 ended := by
  have underway : Probe.Underway options flight world { socket } := by
    refine ⟨⟨rfl, Nat.zero_le _, ?_, ?_⟩, ?_⟩ <;> simp
  have hears : Probe.Hears inetPton { socket } none := by
    refine ⟨?_, ?_, ?_⟩ <;> simp
  exact ⟨_, runAttempts_runs (options.retries + 1) underway hears (Nat.zero_add _), rfl⟩

/-- The windows of a paced probe, as what was lost leaves them. -/
theorem Probe.Paced.window (paced : probe.Paced options flight world) {attempt : ℕ}
    {sent : SentFlight} (here : probe.sent[attempt]? = some sent) (later : 0 < attempt)
    (positive : 0 < options.timeout) :
    options.nominalBudget / 2 ≤ sent.window ∧
      sent.now + sent.window ≤ world.started + options.timeout := by
  rcases paced.windows attempt sent here with ⟨now, window, worthwhile⟩
  have enough := worthwhile.resolve_left later.ne'
  have length := (List.getElem?_eq_some_iff.mp here).1
  have within : attempt < options.retries + 1 := by
    have counted := paced.counted
    have few := paced.within
    omega
  have nominal : 0 ≤ options.nominalBudget * minWindowShare := by
    rw [ProbeOptions.nominalBudget, minWindowShare]
    positivity
  rw [now, window]
  refine ⟨?_, SharedBudget.end_le_deadline within (nominal.trans enough)⟩
  rw [minWindowShare] at enough
  linarith

/--
A probe sends one flight again and again, at most once more than its retries. Its windows are
equal shares but for what late starts have taken, and it gives up early only when that is more
than half of a share, or the socket fails. It hears what is delivered in its attempts. It reports
a server exactly when the first flight of one is delivered, and then the port it came from; what
proves nothing changes none of this.
-/
theorem probe_paced_and_proven (inetPton : InetPton) (options : ProbeOptions)
    (flight : List ByteString) (world : ProbeWorld) (port : ℤ) (socket : HostFilteredUdpSocket)
    {result : DtlsLivenessResult} {probe : Probe} (positive : 0 < options.timeout)
    (ran : probeOpened inetPton options flight world port socket = (result, probe)) :
    probe.sent.length = result.attempts ∧ result.attempts ≤ options.retries + 1 ∧
    (∀ attempt sent, probe.sent[attempt]? = some sent →
      sent.records <+: flight ∧ (attempt + 1 < result.attempts → sent.records = flight) ∧
      sent.now = world.start attempt ∧
      sent.window = windowOf options world 0 -
        SharedBudget.lost (world.started + options.timeout) (options.retries + 1) world.start
          attempt ∧
      (0 < attempt → options.nominalBudget / 2 ≤ sent.window ∧
        sent.now + sent.window ≤ world.started + options.timeout)) ∧
    (result.errorCode = some "no_dtls_response" → result.attempts < options.retries + 1 →
      windowOf options world 0 - SharedBudget.lost (world.started + options.timeout)
          (options.retries + 1) world.start result.attempts < options.nominalBudget / 2) ∧
    (result.isDtlsServer ∨ result.errorCode = some "no_dtls_response" ∨
      ∃ attempt, result.attempts = attempt + 1 ∧ (world.attempt attempt).Fails flight) ∧
    (∀ arrival, arrival ∈ probe.received ↔ ∃ attempt < result.attempts,
      world.Delivers inetPton options flight socket attempt arrival) ∧
    (∀ arrival ∈ probe.received, socket.Accepts inetPton arrival.source) ∧
    (result.isDtlsServer ↔ ∃ attempt < result.attempts, ∃ arrival,
      world.Delivers inetPton options flight socket attempt arrival ∧ ¬Unproven arrival) ∧
    (result.isDtlsServer → ∃ earlier arrival, probe.received = earlier ++ [arrival] ∧
      (∀ arrival ∈ earlier, Unproven arrival) ∧
      parseLivenessResponse arrival.datagram = (result.responseKind, result.alert) ∧
      result.responderPort = some arrival.source.port) := by
  rcases probeOpened_runs inetPton options flight world port socket with ⟨ended, runs, reported⟩
  rw [ran] at runs reported
  have concluded := runs.concluded
  have reported : result = reportEnd port probe ended := reported
  have attempts : result.attempts = probe.attempts := by rw [reported]; cases ended <;> rfl
  have paced : probe.Paced options flight world := concluded.paced
  have received (arrival : Endpoint.Arrival) : arrival ∈ probe.received ↔
      ∃ attempt < result.attempts,
        world.Delivers inetPton options flight socket attempt arrival := by
    rw [runs.received arrival, attempts]
    simp
  have lostOf {attempt : ℕ} (within : attempt < options.retries + 1) :
      windowOf options world attempt = windowOf options world 0 -
        SharedBudget.lost (world.started + options.timeout) (options.retries + 1) world.start
          attempt := SharedBudget.share_eq within
  have counted := paced.counted
  have few := paced.within
  refine ⟨by rw [attempts, counted], by rw [attempts]; exact few, ?_, ?_, ?_, received, ?_, ?_, ?_⟩
  · intro attempt sent here
    have before := (List.getElem?_eq_some_iff.mp here).1
    have records := paced.records attempt sent here
    have windows := paced.windows attempt sent here
    refine ⟨records.1, fun notLast => records.2 (by omega), windows.1, ?_,
      fun later => paced.window here later positive⟩
    rw [windows.2.1, lostOf (by omega)]
  · intro unanswered early
    have given : ended = .unanswered := by
      rw [reported] at unanswered
      cases ended with
      | answered kind alert rtt => cases unanswered
      | unanswered => rfl
      | failed => simp [reportEnd] at unanswered
    rw [attempts] at early ⊢
    rcases concluded.givenUp given with all | notWorthwhile
    · exact absurd all early.ne
    · have short := not_le.mp (not_or.mp notWorthwhile).2
      rw [lostOf early, minWindowShare] at short
      linarith
  · cases ended with
    | answered kind alert rtt => exact .inl (by rw [reported]; rfl)
    | unanswered => exact .inr (.inl (by rw [reported]; rfl))
    | failed =>
        rw [attempts]
        exact .inr (.inr (concluded.failed rfl))
  · intro arrival arrivalMem
    have accepted := concluded.hears.filtered arrival arrivalMem
    rw [HostFilteredUdpSocket.Accepts, HostFilteredUdpSocket.hostKey, runs.endpoint] at accepted
    exact accepted
  · rw [reported, isDtlsServer_reportEnd, concluded.hears.replied_iff, ← reported]
    simp only [received]
    constructor
    · rintro ⟨arrival, ⟨attempt, before, delivered⟩, proven⟩
      exact ⟨attempt, before, arrival, delivered, proven⟩
    · rintro ⟨attempt, before, arrival, delivered, proven⟩
      exact ⟨arrival, ⟨attempt, before, delivered⟩, proven⟩
  · rw [reported]
    cases ended with
    | answered kind alert rtt => exact fun _ => concluded.hears.answered kind alert rfl
    | unanswered => simp [reportEnd, DtlsLivenessResult.isDtlsServer]
    | failed => simp [reportEnd, DtlsLivenessResult.isDtlsServer]

end Attempts

def handshakeFailure : ByteString :=
  [21, 0xfe, 0xfd, 0, 0, 0, 0, 0, 0, 0, 0, 0, 2, 2, 40]

/-- The second attempt starts half a second late; a datagram that proves nothing arrives in it, and
then an alert. -/
def lateWorld : ProbeWorld where
  getaddrinfo := fun _ _ _ => none
  binds := fun _ => true
  started := 0
  attempt := fun attempt => ⟨attempt * (5 / 2), 1, if attempt = 0 then [] else
    [⟨5 / 2, 5 / 2, [⟨5 / 2, some ⟨[0x16], .inet6 "fe80::1" 5684 0 2⟩⟩], false, 5 / 2⟩,
      ⟨11 / 4, 11 / 4, [⟨11 / 4, some ⟨handshakeFailure, .inet6 "fe80::1" 49700 0 2⟩⟩], false, 3⟩]⟩

theorem late_probe_paced :
    let run := probeOpened samplePton ⟨4, 1⟩ [[0x16]] lateWorld 5684
      (HostFilteredUdpSocket.create linkLocal)
    run.1.attempts ≤ 2 ∧ run.2.sent.length = 2 ∧ run.2.received.length = 2 ∧
      ∃ attempt < run.1.attempts, ∃ arrival, lateWorld.Delivers samplePton ⟨4, 1⟩ [[0x16]]
        (HostFilteredUdpSocket.create linkLocal) attempt arrival ∧ ¬Unproven arrival := by
  have paced := probe_paced_and_proven samplePton ⟨4, 1⟩ [[0x16]] lateWorld 5684
    (HostFilteredUdpSocket.create linkLocal) (by norm_num) Prod.mk.eta.symm
  refine ⟨paced.2.1, ?_, by decide +kernel, paced.2.2.2.2.2.2.2.1.mp (by decide +kernel)⟩
  rw [paced.1]
  decide +kernel

/-! ### Selection -/

section Selection

variable {call : ProbeCall} {flight : List ByteString} {worlds : ℤ → ProbeWorld}
  {ports completed : List ℤ} {preferredPort : Option ℤ}

/-- A probe of one of the ports received the first flight of a server from this port. -/
def ProvenAt (call : ProbeCall) (flight : List ByteString) (worlds : ℤ → ProbeWorld)
    (ports : List ℤ) (responder : ℤ) : Prop :=
  ∃ port ∈ ports, ∃ socket,
    openProbe call.options (worlds port) call.host port call.family = .ok socket ∧
    ∃ arrival ∈ (probeOpened call.inetPton call.options flight (worlds port) port
      socket).2.received, ¬Unproven arrival ∧ arrival.source.port = responder

/-- Whatever order the workers complete in, each port has the result of its worker. -/
theorem get?_byPort (port : ℤ) :
    (completed.foldl (fun byPort port => byPort.set port (workerResult call flight worlds port))
      OrderedDict.empty).get? port =
        if port ∈ completed then some (workerResult call flight worlds port) else none := by
  induction completed using List.reverseRecOn with
  | nil => rfl
  | append_singleton earlier last ih =>
      rw [List.foldl_append, List.foldl_cons, List.foldl_nil, OrderedDict.get?_set, ih]
      by_cases same : port = last
      · simp [same]
      · simp [same]

/-- A probe reports a server at a port exactly when a first flight came from there. -/
theorem reports_iff (inetPton : InetPton) (options : ProbeOptions) (world : ProbeWorld)
    (port responder : ℤ) (socket : HostFilteredUdpSocket) :
    (probeOpened inetPton options flight world port socket).1.isDtlsServer = true ∧
        (probeOpened inetPton options flight world port socket).1.responderPort =
          some responder ↔
      ∃ arrival ∈ (probeOpened inetPton options flight world port socket).2.received,
        ¬Unproven arrival ∧ arrival.source.port = responder := by
  rcases probeOpened_runs inetPton options flight world port socket with ⟨ended, runs, reported⟩
  rw [reported]
  have concluded := runs.concluded
  generalize (probeOpened inetPton options flight world port socket).2 = probe at concluded ⊢
  rw [← concluded.hears.proves_iff responder]
  cases ended with
  | answered kind alert rtt => exact Iff.rfl
  | unanswered => simp [ProbeEnd.reply?]
  | failed => simp [ProbeEnd.reply?]

/-- A proven reply always carries the port that it came from. -/
theorem isSome_responderPort {inetPton : InetPton} {options : ProbeOptions} {world : ProbeWorld}
    {host : String} {port : ℤ} {family : Option AddressFamily} {result : DtlsLivenessResult}
    (probed : probeDtlsPortWithFlight inetPton options flight world host port family = .ok result)
    (server : result.isDtlsServer = true) : result.responderPort.isSome := by
  rw [probeDtlsPortWithFlight] at probed
  generalize openProbe options world host port family = opened at probed
  rcases opened with (_ | _) | socket
  · cases probed
    cases server
  · cases probed
  · cases probed
    rcases probeOpened_runs inetPton options flight world port socket with
      ⟨ended, runs, reported⟩
    rw [reported] at server ⊢
    cases ended with
    | answered kind alert rtt =>
        rcases runs.concluded.hears.answered kind alert rfl with ⟨_, arrival, -, -, -, observed⟩
        rw [reportEnd, observed]
        rfl
    | unanswered => cases server
    | failed => cases server

theorem workerResult_proves (call : ProbeCall) (flight : List ByteString)
    (worlds : ℤ → ProbeWorld) (port responder : ℤ) :
    (workerResult call flight worlds port).isDtlsServer = true ∧
        (workerResult call flight worlds port).responderPort = some responder ↔
      ∃ socket, openProbe call.options (worlds port) call.host port call.family = .ok socket ∧
        ∃ arrival ∈ (probeOpened call.inetPton call.options flight (worlds port) port
          socket).2.received, ¬Unproven arrival ∧ arrival.source.port = responder := by
  rw [workerResult, probeDtlsPortWithFlight]
  rcases openProbe call.options (worlds port) call.host port call.family with
    (_ | _) | socket
  · simp [DtlsLivenessResult.isDtlsServer]
  · simp [DtlsLivenessResult.isDtlsServer]
  · simpa using reports_iff call.inetPton call.options (worlds port) port responder socket

theorem port_workerResult (port : ℤ) : (workerResult call flight worlds port).port = port := by
  rw [workerResult, probeDtlsPortWithFlight]
  rcases openProbe call.options (worlds port) call.host port call.family with
    (_ | _) | socket
  · rfl
  · rfl
  · rcases probeOpened_runs call.inetPton call.options flight (worlds port) port socket with
      ⟨ended, -, reported⟩
    dsimp only
    rw [reported]
    cases ended <;> rfl

theorem mem_responderPorts_iff (responder : ℤ) :
    responder ∈ responderPorts (ports.eraseDups.map (workerResult call flight worlds)) ↔
      ProvenAt call flight worlds ports responder := by
  rw [responderPorts, List.mem_eraseDups, List.mem_filterMap]
  constructor
  · rintro ⟨result, resultMem, same⟩
    rcases List.mem_filter.mp resultMem with ⟨mapped, server⟩
    rcases List.mem_map.mp mapped with ⟨port, portMem, rfl⟩
    exact ⟨port, List.mem_eraseDups.mp portMem,
      (workerResult_proves call flight worlds port responder).mp ⟨server, same⟩⟩
  · rintro ⟨port, portMem, proven⟩
    rcases (workerResult_proves call flight worlds port responder).mpr proven with ⟨server, same⟩
    exact ⟨_, List.mem_filter.mpr
      ⟨List.mem_map_of_mem (List.mem_eraseDups.mpr portMem), server⟩, same⟩

theorem nodup_eraseDups {α : Type} [BEq α] [LawfulBEq α] (list : List α) :
    list.eraseDups.Nodup := by
  induction size : list.length using Nat.strong_induction_on generalizing list with
  | _ limit ih =>
      rcases list with _ | ⟨first, rest⟩
      · exact List.nodup_nil
      · rw [List.eraseDups_cons, List.nodup_cons, List.mem_eraseDups]
        refine ⟨by simp, ih _ ?_ _ rfl⟩
        rw [← size, List.length_cons]
        exact Nat.lt_succ_of_le (List.length_filter_le _ _)

/-- The selection, of distinct ports. -/
theorem selectPort_spec (preferredPort : Option ℤ) (results : List DtlsLivenessResult) :
    (∀ responder, (selectPort preferredPort results).selectedPort = some responder ↔
      responder ∈ responderPorts results ∧ (preferredPort = some responder ∨
        ∀ other ∈ responderPorts results, other = responder)) ∧
    ((selectPort preferredPort results).outcome = .selected ↔
      (selectPort preferredPort results).selectedPort ≠ none) ∧
    ((selectPort preferredPort results).outcome = .unreachable ↔ responderPorts results = []) ∧
    (selectPort preferredPort results).results = results := by
  have distinct : (responderPorts results).Nodup := nodup_eraseDups _
  rw [selectPort]
  generalize responderPorts results = responders at distinct ⊢
  by_cases unheard : responders = []
  · simp [unheard]
  rw [if_pos unheard]
  cases preferred : preferredPort.filter (· ∈ responders) with
  | some port =>
      rcases Option.filter_eq_some_iff.mp preferred with ⟨rfl, portMem⟩
      refine ⟨fun responder => ?_, by simp, by simp [unheard], rfl⟩
      simp only [decide_eq_true_eq] at portMem
      constructor
      · rintro same
        cases same
        exact ⟨portMem, .inl rfl⟩
      · rintro ⟨responderMem, same | only⟩
        · exact same
        · exact congrArg some (only port portMem)
  | none =>
      have notPreferred : ∀ port ∈ responders, preferredPort ≠ some port := by
        rintro port portMem rfl
        simp [portMem] at preferred
      by_cases single : responders.length = 1
      · rcases List.length_eq_one_iff.mp single with ⟨only, rfl⟩
        refine ⟨fun responder => ?_, by simp, by simp, rfl⟩
        simp only [List.length_singleton, if_true, List.head?_cons, Option.some.injEq,
          List.mem_singleton, forall_eq]
        constructor
        · rintro rfl
          exact ⟨rfl, .inr rfl⟩
        · exact fun holds => holds.1.symm
      · rw [if_neg single]
        refine ⟨fun responder => ?_, by simp, by simp [unheard], rfl⟩
        simp only [reduceCtorEq, false_iff, not_and, not_or]
        refine fun responderMem => ⟨notPreferred responder responderMem, fun only => single ?_⟩
        have bound : responders.length ≤ 1 := by
          rcases responders with _ | ⟨first, _ | ⟨second, rest⟩⟩
          · exact Nat.zero_le _
          · exact le_rfl
          · have same := (only first (by simp)).trans (only second (by simp)).symm
            rw [same, List.nodup_cons] at distinct
            exact absurd List.mem_cons_self distinct.1
        have some := List.length_pos_iff.mpr unheard
        omega

/-- The results in the order of the ports, whatever order they were completed in. -/
theorem filterMap_byPort (order : completed.Perm ports.eraseDups) :
    ports.eraseDups.filterMap (completed.foldl (fun byPort port =>
        byPort.set port (workerResult call flight worlds port)) OrderedDict.empty).get? =
      ports.eraseDups.map (workerResult call flight worlds) := by
  rw [← List.filterMap_eq_map]
  refine List.filterMap_congr fun port portMem => ?_
  rw [get?_byPort, if_pos (order.mem_iff.mpr portMem)]
  rfl

theorem probeDtlsPorts_eq (order : completed.Perm ports.eraseDups) :
    probeDtlsPorts call worlds ports preferredPort completed =
      probeDtlsPorts call worlds ports preferredPort ports.eraseDups := by
  rw [probeDtlsPorts, probeDtlsPorts]
  cases call.clientHelloFlight call.mtu with
  | none => rfl
  | some flight => simp only [filterMap_byPort order, filterMap_byPort (List.Perm.refl _)]

/-- The flight could be built, and the first flight of a server came from this port. -/
def Proven (call : ProbeCall) (worlds : ℤ → ProbeWorld) (ports : List ℤ) (responder : ℤ) : Prop :=
  ∃ flight, call.clientHelloFlight call.mtu = some flight ∧
    ProvenAt call flight worlds ports responder

theorem proven_iff (hello : call.clientHelloFlight call.mtu = some flight) (responder : ℤ) :
    Proven call worlds ports responder ↔ ProvenAt call flight worlds ports responder := by
  simp [Proven, hello]

theorem not_proven (hello : call.clientHelloFlight call.mtu = none) (responder : ℤ) :
    ¬Proven call worlds ports responder := by
  simp [Proven, hello]

theorem eq_selectPort (hello : call.clientHelloFlight call.mtu = some flight)
    (order : completed.Perm ports.eraseDups) {result : DtlsPortProbeResult}
    (returned : probeDtlsPorts call worlds ports preferredPort completed = .ok result) :
    result = selectPort preferredPort
      (ports.eraseDups.map (workerResult call flight worlds)) := by
  rw [probeDtlsPorts] at returned
  dsimp only at returned
  split_ifs at returned with empty many
  · cases returned
    rw [empty]
    rfl
  · rw [hello] at returned
    rcases Fallible.bind_eq_ok.mp returned with ⟨_, _, rest⟩
    rcases Fallible.bind_eq_ok.mp rest with ⟨_, _, last⟩
    dsimp only at last
    rw [filterMap_byPort order] at last
    cases last
    rfl

theorem eq_unreachable (hello : call.clientHelloFlight call.mtu = none)
    {result : DtlsPortProbeResult}
    (returned : probeDtlsPorts call worlds ports preferredPort completed = .ok result) :
    result = ⟨.unreachable, none, ports.eraseDups.map withoutClientHello⟩ := by
  rw [probeDtlsPorts] at returned
  dsimp only at returned
  split_ifs at returned with empty many
  · cases returned
    rw [empty]
    rfl
  · rw [hello] at returned
    rcases Fallible.bind_eq_ok.mp returned with ⟨_, _, rest⟩
    rcases Fallible.bind_eq_ok.mp rest with ⟨_, _, last⟩
    cases last
    rfl

theorem selectedPort_eq_some_iff (order : completed.Perm ports.eraseDups)
    {result : DtlsPortProbeResult}
    (returned : probeDtlsPorts call worlds ports preferredPort completed = .ok result)
    (responder : ℤ) :
    result.selectedPort = some responder ↔
      Proven call worlds ports responder ∧ (preferredPort = some responder ∨
        ∀ other, Proven call worlds ports other → other = responder) := by
  cases hello : call.clientHelloFlight call.mtu with
  | none =>
      rw [eq_unreachable hello returned]
      simp [not_proven hello]
  | some flight =>
      rw [eq_selectPort hello order returned]
      simp only [(selectPort_spec _ _).1, mem_responderPorts_iff, proven_iff hello]

theorem outcome_iff (order : completed.Perm ports.eraseDups) {result : DtlsPortProbeResult}
    (returned : probeDtlsPorts call worlds ports preferredPort completed = .ok result) :
    (result.outcome = .selected ↔ result.selectedPort ≠ none) ∧
      (result.outcome = .unreachable ↔ ∀ responder, ¬Proven call worlds ports responder) := by
  cases hello : call.clientHelloFlight call.mtu with
  | none =>
      rw [eq_unreachable hello returned]
      simp [not_proven hello]
  | some flight =>
      have spec := selectPort_spec preferredPort
        (ports.eraseDups.map (workerResult call flight worlds))
      rw [← eq_selectPort hello order returned] at spec
      refine ⟨spec.2.1, spec.2.2.1.trans ?_⟩
      simp only [List.eq_nil_iff_forall_not_mem, mem_responderPorts_iff, proven_iff hello]

/-- Nothing was proven where nothing is selected and nothing is ambiguous. -/
theorem unproven_of_unselected (order : completed.Perm ports.eraseDups)
    {result : DtlsPortProbeResult}
    (returned : probeDtlsPorts call worlds ports preferredPort completed = .ok result)
    (unambiguous : result.outcome ≠ .ambiguous) (unselected : result.selectedPort = none)
    (responder : ℤ) : ¬Proven call worlds ports responder := by
  have outcome := outcome_iff order returned
  cases same : result.outcome with
  | selected => exact absurd unselected (outcome.1.mp same)
  | unreachable => exact outcome.2.mp same responder
  | ambiguous => exact absurd same unambiguous

/-- A probe of one port reports a server exactly when a first flight came from the host. -/
theorem isDtlsServer_iff {world : ProbeWorld} {port : ℤ} {result : DtlsLivenessResult}
    (returned : probeDtlsPort call world port = .ok result) :
    result.isDtlsServer = true ↔ ∃ responder, Proven call (fun _ => world) [port] responder := by
  rcases Fallible.bind_eq_ok.mp returned with ⟨_, _, probed⟩
  cases hello : call.clientHelloFlight call.mtu with
  | none =>
      rw [hello] at probed
      cases probed
      simp [not_proven hello, withoutClientHello, DtlsLivenessResult.isDtlsServer]
  | some flight =>
      rw [hello] at probed
      dsimp only at probed
      have worker : workerResult call flight (fun _ => world) port = result := by
        rw [workerResult, probed]
      have proves (responder : ℤ) := workerResult_proves call flight (fun _ => world) port responder
      rw [worker] at proves
      simp only [proven_iff hello, ProvenAt, List.mem_singleton, exists_eq_left, ← proves]
      refine ⟨fun server => ?_, fun ⟨_, server, _⟩ => server⟩
      rcases responded : result.responderPort with _ | responder
      · have observed := isSome_responderPort probed server
        rw [responded] at observed
        cases observed
      · exact ⟨responder, server, rfl⟩

/--
The results are those of the ports in their order, whatever order the workers complete in. A port
is selected exactly when the first flight of a server came from it, and from no other port or it
is preferred; nothing is reachable exactly when none came.
-/
theorem probeDtlsPorts_selects (call : ProbeCall) (worlds : ℤ → ProbeWorld) (ports : List ℤ)
    (preferredPort : Option ℤ) (completed : List ℤ) {result : DtlsPortProbeResult}
    (order : completed.Perm ports.eraseDups)
    (returned : probeDtlsPorts call worlds ports preferredPort completed = .ok result) :
    (∀ other : List ℤ, other.Perm ports.eraseDups →
      probeDtlsPorts call worlds ports preferredPort other = .ok result) ∧
    result.results.map (·.port) = ports.eraseDups ∧
    (∀ responder, result.selectedPort = some responder ↔
      Proven call worlds ports responder ∧ (preferredPort = some responder ∨
        ∀ other, Proven call worlds ports other → other = responder)) ∧
    (result.outcome = .selected ↔ result.selectedPort ≠ none) ∧
    (result.outcome = .unreachable ↔ ∀ responder, ¬Proven call worlds ports responder) := by
  refine ⟨fun other otherOrder => ?_, ?_, selectedPort_eq_some_iff order returned, ?_⟩
  · rw [probeDtlsPorts_eq otherOrder, ← probeDtlsPorts_eq order, returned]
  · cases hello : call.clientHelloFlight call.mtu with
    | none =>
        rw [eq_unreachable hello returned, List.map_map]
        exact List.map_id _
    | some flight =>
        rw [eq_selectPort hello order returned, (selectPort_spec _ _).2.2.2, List.map_map]
        exact List.map_id'' port_workerResult _
  · exact outcome_iff order returned

/-- A host whose port 5684 answers the second flight with an alert. -/
def alertedCall : ProbeCall where
  inetPton := samplePton
  clientHelloFlight := fun _ => some [[0x16]]
  host := "fe80::1%eth0"
  options := ⟨4, 1⟩
  mtu := 1200
  family := none

def alertingWorld : ProbeWorld where
  getaddrinfo := sampleGetaddrinfo
  binds := fun _ => true
  started := 0
  attempt := fun attempt =>
    ⟨2 * attempt, 1, if attempt = 0 then [] else
      [⟨5 / 2, 5 / 2, [⟨5 / 2, some ⟨handshakeFailure, .inet6 "fe80::1" 5684 0 2⟩⟩], false, 3⟩]⟩

theorem alerting_port_selected :
    Proven alertedCall (fun _ => alertingWorld) [5684, 5685] 5684 ∧
      probeDtlsPorts alertedCall (fun _ => alertingWorld) [5684, 5685] none [5684, 5685] =
        probeDtlsPorts alertedCall (fun _ => alertingWorld) [5684, 5685] none [5685, 5684] := by
  have returned : probeDtlsPorts alertedCall (fun _ => alertingWorld) [5684, 5685] none
      [5685, 5684] = .ok ⟨.selected, some 5684,
        [⟨5684, some .alert, 2, some 3, some (2, "handshake_failure"), none, some 5684⟩,
          ⟨5685, none, 0, none, none, some "endpoint_unavailable", none⟩]⟩ := by
    decide +kernel
  have selects := probeDtlsPorts_selects alertedCall (fun _ => alertingWorld) [5684, 5685] none
    [5685, 5684] (by decide) returned
  refine ⟨((selects.2.2.1 5684).mp rfl).1, ?_⟩
  rw [returned, selects.1 _ (by decide)]

end Selection

end DtlsProbe

end SmartThingsLocal
