import Mathlib.Data.List.TakeWhile
import SmartThingsLocal.Endpoint.Resolution
import SmartThingsLocal.Foundation.Machine

/-!
# The host filter

`HostFilteredUdpSocket` of `protocol/endpoint.py`, over every run of its calls. The filter compares
keys, and an endpoint whose address `inet_pton` does not accept has none: then `recv` returns
whatever arrives. `getaddrinfo` keeps the scope of an address apart from its text, so an endpoint
that the resolver returns has a key, and the filter admits only the target host.
-/

namespace SmartThingsLocal

namespace Endpoint

open Discovery (AddressFamily InetPton)

variable (inetPton : InetPton)

/-- The scope that a key keeps: that of an IPv6 address. -/
def SocketAddress.scope (family : AddressFamily) : SocketAddress → ℤ
  | .inet _ _ => 0
  | .inet6 _ _ _ scopeId => if family = .inet6 then scopeId else 0

/-- `_host_key`. -/
def hostKey (family : AddressFamily) (sockaddr : SocketAddress) :
    Option (AddressFamily × ByteString × ℤ) :=
  match inetPton family sockaddr.host with
  | none => none
  | some packed => some (family, packed, sockaddr.scope family)

/-! ### The socket -/

/-- A datagram and where it came from. -/
structure Arrival where
  datagram : ByteString
  source : SocketAddress

/-- One turn of the loop of `recv`: what the clock reads, then what `recvfrom` returns, nothing
where it raises. -/
structure Turn where
  clock : ℚ
  received : Option Arrival

structure HostFilteredUdpSocket where
  endpoint : ResolvedUdpEndpoint
  timeout : Option ℚ
  observedReplyPort : Option ℤ

/-- How a call of `recv` ends. It returns the datagram of the arrival only. -/
inductive RecvOutcome
  | returned (arrival : Arrival)
  | timedOut
  | raised
  | waiting

/-- What a caller does with the socket; a call of `recv` comes with its surroundings. -/
inductive SocketCall
  | settimeout (timeout : Option ℚ)
  | send (data : ByteString)
  | recv (started : ℚ) (turns : List Turn)

namespace HostFilteredUdpSocket

def create (endpoint : ResolvedUdpEndpoint) : HostFilteredUdpSocket := ⟨endpoint, none, none⟩

/-- The key that is computed when the socket is made. -/
def hostKey (socket : HostFilteredUdpSocket) : Option (AddressFamily × ByteString × ℤ) :=
  Endpoint.hostKey inetPton socket.endpoint.family socket.endpoint.sockaddr

/-- Whether `recv` returns a datagram from this source. -/
def Accepts (socket : HostFilteredUdpSocket) (source : SocketAddress) : Prop :=
  socket.hostKey inetPton = none ∨
    Endpoint.hostKey inetPton socket.endpoint.family source = socket.hostKey inetPton

instance (socket : HostFilteredUdpSocket) (source : SocketAddress) :
    Decidable (socket.Accepts inetPton source) := inferInstanceAs (Decidable (_ ∨ _))

/-- The loop of `recv`. -/
def recvLoop (socket : HostFilteredUdpSocket) (deadline : Option ℚ) :
    List Turn → RecvOutcome × HostFilteredUdpSocket
  | [] => (.waiting, socket)
  | turn :: turns =>
      if deadline.any (· - turn.clock ≤ 0) then (.timedOut, socket)
      else
        match turn.received with
        | none => (.raised, socket)
        | some arrival =>
            if socket.Accepts inetPton arrival.source then
              (.returned arrival, { socket with observedReplyPort := some arrival.source.port })
            else recvLoop socket deadline turns

def recv (socket : HostFilteredUdpSocket) (started : ℚ) (turns : List Turn) :
    RecvOutcome × HostFilteredUdpSocket :=
  socket.recvLoop inetPton (socket.timeout.map (started + ·)) turns

end HostFilteredUdpSocket

/-- `open_host_filtered_udp_socket`, where it is given for which endpoints a socket can be bound. -/
def openHostFilteredUdpSocket (getaddrinfo : Getaddrinfo) (binds : ResolvedUdpEndpoint → Bool)
    (host : String) (port : ℤ) (family : Option AddressFamily) (localPort : Option ℤ)
    (timeout : Option ℚ) : Except EndpointFailure HostFilteredUdpSocket :=
  if localPort.any fun port => ¬(0 ≤ port ∧ port ≤ 65535) then
    .error (.python (.valueError "port must be between 0 and 65535"))
  else if timeout.any (· < 0) then
    .error (.python (.valueError "timeout must be a non-negative number or None"))
  else
    match resolveUdpEndpoints getaddrinfo host port family with
    | .error error => .error error
    | .ok endpoints =>
        match endpoints.find? binds with
        | none => .error (.endpoint .endpointError)
        | some endpoint => .ok { HostFilteredUdpSocket.create endpoint with timeout }

/-- A socket with the datagrams that it has returned and sent. -/
structure SocketRun where
  socket : HostFilteredUdpSocket
  returned : List Arrival
  sent : List (ByteString × SocketAddress)

namespace SocketRun

def start (endpoint : ResolvedUdpEndpoint) : SocketRun := ⟨.create endpoint, [], []⟩

def perform (call : SocketCall) (state : SocketRun) : SocketRun :=
  match call with
  | .settimeout timeout => { state with socket := { state.socket with timeout } }
  | .send data => { state with sent := state.sent ++ [(data, state.socket.endpoint.sockaddr)] }
  | .recv started turns =>
      match state.socket.recv inetPton started turns with
      | (.returned arrival, socket) =>
          { state with socket, returned := state.returned ++ [arrival] }
      | (_, socket) => { state with socket }

end SocketRun

/-! ### Whose datagrams -/

/-- An IPv6 text without its zone. -/
def zoneless (host : String) : String := String.ofList (host.toList.takeWhile (· ≠ '%'))

/-- The bytes of an address; an IPv6 text that `inet_pton` rejects is read without its zone. -/
def addressOf (family : AddressFamily) (host : String) : Option ByteString :=
  (inetPton family host).or
    (if family = .inet6 then inetPton family (zoneless host) else none)

/-- Two socket addresses are of one host: the same address and scope, on any port. -/
def SameHost (family : AddressFamily) (left right : SocketAddress) : Prop :=
  (∃ address, addressOf inetPton family left.host = some address ∧
    addressOf inetPton family right.host = some address) ∧
  left.scope family = right.scope family

/-- Every datagram that the calls return came from the host of the endpoint. -/
def AdmitsHost (endpoint : ResolvedUdpEndpoint) (calls : List SocketCall) : Prop :=
  ∀ arrival ∈ (Machine.run (SocketRun.perform inetPton) calls (.start endpoint)).returned,
    SameHost inetPton endpoint.family endpoint.sockaddr arrival.source

variable {inetPton} {family : AddressFamily} {sockaddr source : SocketAddress}

theorem hostKey_eq_none_iff :
    hostKey inetPton family sockaddr = none ↔ inetPton family sockaddr.host = none := by
  unfold hostKey
  cases inetPton family sockaddr.host <;> simp

/-- Equal keys are of one host. -/
theorem sameHost_of_hostKey (keyed : hostKey inetPton family sockaddr ≠ none)
    (same : hostKey inetPton family source = hostKey inetPton family sockaddr) :
    SameHost inetPton family sockaddr source := by
  unfold hostKey at keyed same
  cases packed : inetPton family sockaddr.host with
  | none =>
      rw [packed] at keyed
      exact absurd rfl keyed
  | some address =>
      cases packedSource : inetPton family source.host with
      | none => simp [packed, packedSource] at same
      | some sourceAddress =>
          simp only [packed, packedSource, Option.some.injEq, Prod.mk.injEq, true_and] at same
          rcases same with ⟨rfl, scope⟩
          exact ⟨⟨sourceAddress, by simp [addressOf, packed], by simp [addressOf, packedSource]⟩,
            scope.symm⟩

namespace HostFilteredUdpSocket

variable {socket after : HostFilteredUdpSocket} {deadline : Option ℚ} {turns : List Turn}

/-- A call returns an accepted arrival, whose port it notes, or leaves the socket as it is. -/
theorem recvLoop_cases (inetPton : InetPton) (socket : HostFilteredUdpSocket)
    (deadline : Option ℚ) (turns : List Turn) :
    (∃ turn arrival, turn ∈ turns ∧ turn.received = some arrival ∧
      socket.Accepts inetPton arrival.source ∧ socket.recvLoop inetPton deadline turns =
        (.returned arrival, { socket with observedReplyPort := some arrival.source.port })) ∨
    ∃ outcome, (∀ arrival, outcome ≠ .returned arrival) ∧
      socket.recvLoop inetPton deadline turns = (outcome, socket) := by
  induction turns with
  | nil => exact .inr ⟨.waiting, by simp, rfl⟩
  | cons turn turns ih =>
      rw [recvLoop]
      split_ifs
      · exact .inr ⟨.timedOut, by simp, rfl⟩
      · cases received : turn.received with
        | none => exact .inr ⟨.raised, by simp, rfl⟩
        | some arrival =>
            dsimp only
            split_ifs with accepts
            · exact .inl ⟨turn, arrival, List.mem_cons_self, received, accepts, rfl⟩
            · exact ih.imp_left fun ⟨own, ownArrival, ownMem, rest⟩ =>
                ⟨own, ownArrival, List.mem_cons_of_mem _ ownMem, rest⟩

end HostFilteredUdpSocket

/-! ### Runs -/

/-- What holds of the socket of an endpoint after any calls. -/
structure SocketRun.Filtered (inetPton : InetPton) (endpoint : ResolvedUdpEndpoint)
    (state : SocketRun) : Prop where
  own : state.socket.endpoint = endpoint
  accepted : ∀ arrival ∈ state.returned, state.socket.Accepts inetPton arrival.source
  observed : state.socket.observedReplyPort = state.returned.getLast?.map (·.source.port)
  sent : ∀ sent ∈ state.sent, sent.2 = endpoint.sockaddr

namespace SocketRun

variable {endpoint : ResolvedUdpEndpoint}

theorem Filtered.perform {state : SocketRun} (call : SocketCall)
    (filtered : state.Filtered inetPton endpoint) :
    (state.perform inetPton call).Filtered inetPton endpoint := by
  cases call with
  | settimeout timeout => exact ⟨filtered.own, filtered.accepted, filtered.observed,
      filtered.sent⟩
  | send data =>
      refine ⟨filtered.own, filtered.accepted, filtered.observed, fun sent sentMem => ?_⟩
      rcases List.mem_append.mp sentMem with earlier | last
      · exact filtered.sent sent earlier
      · rw [List.mem_singleton.mp last]
        exact congrArg ResolvedUdpEndpoint.sockaddr filtered.own
  | recv started turns =>
      unfold SocketRun.perform
      dsimp only
      unfold HostFilteredUdpSocket.recv
      rcases HostFilteredUdpSocket.recvLoop_cases inetPton state.socket
        (state.socket.timeout.map (started + ·)) turns with
        ⟨_, arrival, -, -, accepts, returned⟩ | ⟨outcome, other, kept⟩
      · rw [returned]
        refine ⟨filtered.own, fun own ownMem => ?_, by simp, filtered.sent⟩
        rcases List.mem_append.mp ownMem with earlier | last
        · exact filtered.accepted own earlier
        · rw [List.mem_singleton.mp last]
          exact accepts
      · rw [kept]
        cases outcome with
        | returned arrival => exact absurd rfl (other arrival)
        | _ => exact filtered

theorem filtered_run (inetPton : InetPton) (endpoint : ResolvedUdpEndpoint)
    (calls : List SocketCall) :
    (Machine.run (SocketRun.perform inetPton) calls (.start endpoint)).Filtered inetPton
      endpoint :=
  Machine.invariant_run_all (fun _ call filtered => Filtered.perform call filtered) calls
    ⟨rfl, by simp [start], rfl, by simp [start]⟩

end SocketRun

variable {endpoint : ResolvedUdpEndpoint}

/-- An opened socket is that of a candidate of the resolver, after its first `settimeout`. -/
theorem openHostFilteredUdpSocket_eq (inetPton : InetPton) {getaddrinfo : Getaddrinfo}
    {binds : ResolvedUdpEndpoint → Bool} {host : String} {port : ℤ}
    {family : Option AddressFamily} {localPort : Option ℤ} {timeout : Option ℚ}
    {socket : HostFilteredUdpSocket}
    (opened : openHostFilteredUdpSocket getaddrinfo binds host port family localPort timeout =
      .ok socket) :
    ∃ endpoints endpoint, resolveUdpEndpoints getaddrinfo host port family = .ok endpoints ∧
      endpoint ∈ endpoints ∧ binds endpoint = true ∧
      socket = ((SocketRun.start endpoint).perform inetPton (.settimeout timeout)).socket := by
  unfold openHostFilteredUdpSocket at opened
  split_ifs at opened
  cases resolved : resolveUdpEndpoints getaddrinfo host port family with
  | error error =>
      rw [resolved] at opened
      cases opened
  | ok endpoints =>
      rw [resolved] at opened
      dsimp only at opened
      cases found : endpoints.find? binds with
      | none =>
          rw [found] at opened
          cases opened
      | some endpoint =>
          rw [found] at opened
          cases opened
          exact ⟨endpoints, endpoint, rfl, List.mem_of_find?_eq_some found,
            List.find?_some found, rfl⟩

/-- Without a key the first datagram to arrive is returned, whoever sent it. -/
theorem returned_of_unkeyed (inetPton : InetPton) (endpoint : ResolvedUdpEndpoint)
    (unkeyed : hostKey inetPton endpoint.family endpoint.sockaddr = none) (arrival : Arrival) :
    (Machine.run (SocketRun.perform inetPton) [.recv 0 [⟨0, some arrival⟩]]
      (.start endpoint)).returned = [arrival] := by
  have accepts : (HostFilteredUdpSocket.create endpoint).Accepts inetPton arrival.source :=
    .inl unkeyed
  have outcome : (HostFilteredUdpSocket.create endpoint).recv inetPton 0 [⟨0, some arrival⟩] =
      (.returned arrival, ⟨endpoint, none, some arrival.source.port⟩) := by
    unfold HostFilteredUdpSocket.recv HostFilteredUdpSocket.recvLoop
    rw [if_neg (by simp [HostFilteredUdpSocket.create])]
    exact if_pos accepts
  simp only [Machine.run, SocketRun.perform, SocketRun.start, outcome, List.nil_append]

/-- An endpoint without a key is told apart from the same text on the next interface. -/
theorem exists_foreign (unkeyed : inetPton endpoint.family endpoint.host = none) :
    ∃ source : SocketAddress, source.length = endpoint.sockaddr.length ∧
      ¬SameHost inetPton endpoint.family endpoint.sockaddr source := by
  rcases endpoint with ⟨family, sockaddr, fits, validPort⟩
  cases sockaddr with
  | inet host port =>
      refine ⟨.inet host port, rfl, fun same => ?_⟩
      rcases same.1 with ⟨address, known, -⟩
      cases family with
      | inet =>
          have unparsed : inetPton .inet host = none := unkeyed
          simp [addressOf, SocketAddress.host, unparsed] at known
      | inet6 => cases fits
  | inet6 host port flowinfo scopeId =>
      refine ⟨.inet6 host port flowinfo (scopeId + 1), rfl, fun same => ?_⟩
      cases family with
      | inet => cases fits
      | inet6 =>
          have scope : scopeId = scopeId + 1 := same.2
          omega

/-- The socket returns datagrams of the target host only, in every run of its calls, exactly when
`inet_pton` accepts the address of the endpoint. -/
theorem admitsHost_iff (inetPton : InetPton) (endpoint : ResolvedUdpEndpoint) :
    (∀ calls, AdmitsHost inetPton endpoint calls) ↔
      inetPton endpoint.family endpoint.host ≠ none := by
  constructor
  · intro admits rejected
    rcases exists_foreign rejected with ⟨source, -, foreign⟩
    have returned := returned_of_unkeyed inetPton endpoint (hostKey_eq_none_iff.mpr rejected)
      ⟨[], source⟩
    have admitted := admits [.recv 0 [⟨0, some ⟨[], source⟩⟩]] ⟨[], source⟩
    rw [returned] at admitted
    exact foreign (admitted List.mem_cons_self)
  · intro accepted calls arrival arrivalMem
    have filtered := SocketRun.filtered_run inetPton endpoint calls
    have keyed : hostKey inetPton endpoint.family endpoint.sockaddr ≠ none :=
      mt hostKey_eq_none_iff.mp accepted
    have accepts := filtered.accepted arrival arrivalMem
    simp only [HostFilteredUdpSocket.Accepts, HostFilteredUdpSocket.hostKey, filtered.own]
      at accepts
    exact sameHost_of_hostKey keyed (accepts.resolve_left keyed)

/-! ### What the resolver returns -/

/-- The documented form of the addresses that `getaddrinfo` returns. -/
structure DocumentedAddresses (inetPton : InetPton) (getaddrinfo : Getaddrinfo) : Prop where
  /-- The text is that of an address, written with its zone or without. -/
  numeric : ∀ host port family infos, getaddrinfo host port family = some infos →
    ∀ info ∈ infos, ∀ family sockaddr, info.usable = some (family, sockaddr) →
      inetPton family (zoneless sockaddr.host) ≠ none
  /-- The text has no `%scope_id` part: the scope is a field of its own. -/
  unscoped : ∀ host port family infos, getaddrinfo host port family = some infos →
    ∀ info ∈ infos, ∀ family sockaddr, info.usable = some (family, sockaddr) →
      '%' ∉ sockaddr.host.toList

theorem zoneless_eq_self {host : String} (plain : '%' ∉ host.toList) : zoneless host = host := by
  have whole : host.toList.takeWhile (· ≠ '%') = host.toList := by
    apply List.takeWhile_eq_self_iff.mpr
    intro character characterMem
    simpa using fun same : character = '%' => plain (same ▸ characterMem)
  unfold zoneless
  rw [whole, String.ofList_toList]

section Resolved

variable {getaddrinfo : Getaddrinfo} {host : String} {port : ℤ} {family : Option AddressFamily}
  {endpoints : List ResolvedUdpEndpoint}

/-- An endpoint that the resolver returns has a key. -/
theorem parses_of_resolved (documented : DocumentedAddresses inetPton getaddrinfo)
    (resolved : resolveUdpEndpoints getaddrinfo host port family = .ok endpoints)
    (endpointMem : endpoint ∈ endpoints) : inetPton endpoint.family endpoint.host ≠ none := by
  rcases resolveUdpEndpoints_sound resolved with ⟨-, -, infos, answered, sound⟩
  rcases sound endpoint endpointMem with ⟨info, infoMem, usable⟩
  have numeric := documented.numeric host port family infos answered info infoMem _ _ usable
  rw [zoneless_eq_self (documented.unscoped host port family infos answered info infoMem _ _
    usable)] at numeric
  exact numeric

/-- The same of the socket that is opened, whose first call is `settimeout`. -/
theorem opened_admits_host (documented : DocumentedAddresses inetPton getaddrinfo)
    {binds : ResolvedUdpEndpoint → Bool} {localPort : Option ℤ} {timeout : Option ℚ}
    {socket : HostFilteredUdpSocket}
    (opened : openHostFilteredUdpSocket getaddrinfo binds host port family localPort timeout =
      .ok socket) (calls : List SocketCall) :
    ∀ arrival ∈ (Machine.run (SocketRun.perform inetPton) calls ⟨socket, [], []⟩).returned,
      SameHost inetPton socket.endpoint.family socket.endpoint.sockaddr arrival.source := by
  rcases openHostFilteredUdpSocket_eq inetPton opened with
    ⟨endpoints, endpoint, resolved, endpointMem, -, rfl⟩
  exact (admitsHost_iff inetPton endpoint).mpr
    (parses_of_resolved documented resolved endpointMem) (.settimeout timeout :: calls)

/-- A socket for an endpoint that the resolver returns, also for a host that was written with a
zone, returns datagrams of the target host only, in every run of its calls. -/
theorem resolved_endpoints_admit_host (inetPton : InetPton)
    (documented : DocumentedAddresses inetPton getaddrinfo)
    (resolved : resolveUdpEndpoints getaddrinfo host port family = .ok endpoints) :
    ∀ endpoint ∈ endpoints, ∀ calls, AdmitsHost inetPton endpoint calls :=
  fun endpoint endpointMem => (admitsHost_iff inetPton endpoint).mpr
    (parses_of_resolved documented resolved endpointMem)

end Resolved

/-- A link-local address as the resolver writes it: the zone is the scope. -/
def linkLocal : ResolvedUdpEndpoint :=
  ⟨.inet6, .inet6 "fe80::1" 5684 0 2, rfl, by decide⟩

/-- `inet_pton` on the texts of the example; it takes no zone. -/
def samplePton : InetPton
  | .inet6, "fe80::1" => some ([0xfe, 0x80] ++ List.replicate 13 0 ++ [1])
  | .inet6, "2001:db8::66" => some ([0x20, 0x01, 0x0d, 0xb8] ++ List.replicate 11 0 ++ [0x66])
  | _, _ => none

/-- `getaddrinfo` on the host of the example, whose zone is interface 2. -/
def sampleGetaddrinfo : Getaddrinfo
  | "fe80::1%eth0", 5684, _ => some [.ofEndpoint linkLocal]
  | _, _, _ => none

theorem sample_answers {host : String} {port : ℤ} {family : Option AddressFamily}
    {infos : List AddrInfo} (answered : sampleGetaddrinfo host port family = some infos) :
    infos = [.ofEndpoint linkLocal] := by
  unfold sampleGetaddrinfo at answered
  split at answered
  · exact (Option.some.inj answered).symm
  · cases answered

theorem sample_documented : DocumentedAddresses samplePton sampleGetaddrinfo := by
  have usable : (AddrInfo.ofEndpoint linkLocal).usable =
      some (.inet6, .inet6 "fe80::1" 5684 0 2) := rfl
  constructor <;> intro host port family infos answered info infoMem own sockaddr isUsable <;>
    rw [sample_answers answered, List.mem_singleton] at infoMem <;>
    rw [infoMem, usable] at isUsable <;> cases isUsable
  · decide
  · decide

/-- A host that is written with its zone; of two datagrams, from another host and from another
port of the host itself, the second is returned. -/
theorem linkLocal_admits_host :
    let foreign : Arrival := ⟨[0x16], .inet6 "2001:db8::66" 5684 0 0⟩
    let own : Arrival := ⟨[0x15], .inet6 "fe80::1" 40000 0 2⟩
    let calls := [.recv 0 [⟨0, some foreign⟩, ⟨1, some own⟩]]
    (Machine.run (SocketRun.perform samplePton) calls (.start linkLocal)).returned = [own] ∧
      AdmitsHost samplePton linkLocal calls := by
  intro foreign own calls
  have resolved : resolveUdpEndpoints sampleGetaddrinfo "fe80::1%eth0" 5684 none =
      .ok [linkLocal] := resolveUdpEndpoints_ofEndpoint (by decide) (by decide) rfl
  exact ⟨rfl, resolved_endpoints_admit_host samplePton sample_documented resolved linkLocal
    List.mem_cons_self calls⟩

end Endpoint

end SmartThingsLocal
