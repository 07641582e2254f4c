import SmartThingsLocal.Discovery.DtlsProbe
import SmartThingsLocal.Foundation.Logs
import SmartThingsLocal.Foundation.Machine

/-!
# The port of a bridge

`_resolve_port` of `mqtt_demo/bridge.py` over the connects of a bridge: a configured port, the
port of an earlier connect, one that the device advertises, or one found by a sweep. Each is used
only after a probe, and the probes of a connect are given.
-/

namespace SmartThingsLocal

open DtlsProbe

/-- Which tier produced a port. -/
inductive PortSource
  | configured
  | cached
  | advertised
  | swept
  deriving DecidableEq, Repr

inductive ResolveFailure
  | connectionError (message : String)
  | python (error : PythonError)
  deriving DecidableEq, Repr

/-- What a bridge is configured with, and how it probes. -/
structure PortSettings where
  inetPton : Discovery.InetPton
  clientHelloFlight : ℤ → Option (List ByteString)
  ip : String
  ocfPort : Option ℤ
  defaultObservePort : ℤ

/-- Probes of a set of ports at once, which are completed in some order. -/
structure Sweep (candidates : List ℤ) where
  worlds : ℤ → ProbeWorld
  completed : List ℤ
  order : completed.Perm candidates.eraseDups

def ocfPortBand : List ℤ := (List.range 9).map (49152 + ·)

def ocfStandardSecurePort : ℤ := 5684

namespace PortSettings

/-- `probe_dtls_port` and `probe_dtls_ports` with the options of the gate. -/
def gate (settings : PortSettings) : ProbeCall where
  inetPton := settings.inetPton
  clientHelloFlight := settings.clientHelloFlight
  host := settings.ip
  options := ⟨4, 1⟩
  mtu := 1200
  family := none

def candidatePorts (settings : PortSettings) : List ℤ :=
  (ocfPortBand ++ [ocfStandardSecurePort, settings.defaultObservePort]).eraseDups.mergeSort

end PortSettings

/-- What one connect meets: the probe of a known port, the ports of `_advertised_ports`, and the
probes of both sets. -/
structure ResolveWorld (settings : PortSettings) where
  known : ProbeWorld
  advertised : List ℤ
  advertisedSweep : Sweep advertised
  candidateSweep : Sweep settings.candidatePorts

/-- The port and its source, or why there is none; and `_discovered_port` afterwards. -/
abbrev Resolution : Type := Except ResolveFailure (ℤ × PortSource) × Option ℤ

variable (settings : PortSettings)

/-- One set of candidates; the next one is tried when nothing answers. -/
def tryCandidates {candidates : List ℤ} (sweep : Sweep candidates) (source : PortSource)
    (otherwise : Resolution) : Resolution :=
  if candidates = [] then otherwise
  else
    match probeDtlsPorts settings.gate sweep.worlds candidates none sweep.completed with
    | .error error => (.error (.python error), none)
    | .ok selection =>
        if selection.outcome = .ambiguous then
          (.error (.connectionError "multiple DTLS listeners answered; configure OCF_PORT"), none)
        else
          match selection.selectedPort with
          | none => otherwise
          | some port => (.ok (port, source), some port)

/-- Ask, then sweep. -/
def rediscover (world : ResolveWorld settings) : Resolution :=
  tryCandidates settings world.advertisedSweep .advertised
    (tryCandidates settings world.candidateSweep .swept
      (.error (.connectionError "no live DTLS server found"), none))

/-- `_resolve_port`, with `_discovered_port` before it. -/
def resolvePort (world : ResolveWorld settings) (discovered : Option ℤ) : Resolution :=
  match settings.ocfPort with
  | some pinned =>
      match probeDtlsPort settings.gate world.known pinned with
      | .error error => (.error (.python error), discovered)
      | .ok result =>
          if result.isDtlsServer then (.ok (pinned, .configured), discovered)
          else (.error (.connectionError "configured port is not a DTLS server"), discovered)
  | none =>
      match discovered with
      | none => rediscover settings world
      | some cached =>
          match probeDtlsPort settings.gate world.known cached with
          | .error error => (.error (.python error), discovered)
          | .ok result =>
              if result.isDtlsServer then (.ok (cached, .cached), discovered)
              else rediscover settings world

/-- A connect: what it met, the port that was kept before it, and what it came to. -/
structure ConnectOutcome where
  world : ResolveWorld settings
  discovered : Option ℤ
  resolution : Resolution

/-- The connects of a bridge, with the port that is kept. -/
structure Connects where
  discovered : Option ℤ := none
  outcomes : List (ConnectOutcome settings) := []

variable {settings}

def Connects.connect (world : ResolveWorld settings) (connects : Connects settings) :
    Connects settings :=
  let resolution := resolvePort settings world connects.discovered
  ⟨resolution.2, connects.outcomes ++ [⟨world, connects.discovered, resolution⟩]⟩

/-! ### What a resolved port rests on -/

/-- The first flight of a server came from the host when a port was dialled. -/
def Answers (world : ResolveWorld settings) (port : ℤ) : Prop :=
  ∃ responder, Proven settings.gate (fun _ => world.known) [port] responder

/-- The first flight of a server came from this port and from no other, among some candidates. -/
def OnlyListener (settings : PortSettings) {candidates : List ℤ} (sweep : Sweep candidates)
    (port : ℤ) : Prop :=
  ∀ responder, Proven settings.gate sweep.worlds candidates responder ↔ responder = port

/-- What a connect that resolves a port rests on. -/
inductive Rests (world : ResolveWorld settings) : Option ℤ → ℤ → PortSource → Prop
  | configured {discovered : Option ℤ} {port : ℤ} (pinned : settings.ocfPort = some port)
      (answers : Answers world port) : Rests world discovered port .configured
  | cached {port : ℤ} (unpinned : settings.ocfPort = none) (answers : Answers world port) :
      Rests world (some port) port .cached
  | advertised {discovered : Option ℤ} {port : ℤ} (unpinned : settings.ocfPort = none)
      (silent : ∀ known ∈ discovered, ¬Answers world known)
      (only : OnlyListener settings world.advertisedSweep port) :
      Rests world discovered port .advertised
  | swept {discovered : Option ℤ} {port : ℤ} (unpinned : settings.ocfPort = none)
      (silent : ∀ known ∈ discovered, ¬Answers world known)
      (unadvertised : ∀ other, ¬Proven settings.gate world.advertisedSweep.worlds
        world.advertised other)
      (only : OnlyListener settings world.candidateSweep port) : Rests world discovered port .swept

/-- What a connect can come to: a configured port is not kept, a found one is. -/
inductive Resolves (world : ResolveWorld settings) (discovered : Option ℤ) : Resolution → Prop
  | pinned {port : ℤ} (rests : Rests world discovered port .configured) :
      Resolves world discovered (.ok (port, .configured), discovered)
  | found {port : ℤ} {source : PortSource} (unpinned : settings.ocfPort = none)
      (rests : Rests world discovered port source) :
      Resolves world discovered (.ok (port, source), some port)
  | failed {failure : ResolveFailure} {kept : Option ℤ}
      (lost : kept = none ∨ kept = discovered) :
      Resolves world discovered (.error failure, kept)

/-- A tier that finds a port has one listener; the next tier is tried where there is none. -/
theorem tryCandidates_cases {candidates : List ℤ} (sweep : Sweep candidates) (source : PortSource)
    (otherwise : Resolution) :
    (∃ failure, tryCandidates settings sweep source otherwise = (.error failure, none)) ∨
    (∃ port, tryCandidates settings sweep source otherwise = (.ok (port, source), some port) ∧
      OnlyListener settings sweep port) ∨
    (tryCandidates settings sweep source otherwise = otherwise ∧
      ∀ responder, ¬Proven settings.gate sweep.worlds candidates responder) := by
  rw [tryCandidates]
  by_cases empty : candidates = []
  · refine .inr (.inr ⟨if_pos empty, fun responder proven => ?_⟩)
    rcases proven with ⟨flight, -, port, portMem, -⟩
    rw [empty] at portMem
    cases portMem
  rw [if_neg empty]
  cases probed : probeDtlsPorts settings.gate sweep.worlds candidates none sweep.completed with
  | error error => exact .inl ⟨_, rfl⟩
  | ok selection =>
      dsimp only
      by_cases ambiguous : selection.outcome = .ambiguous
      · rw [if_pos ambiguous]
        exact .inl ⟨_, rfl⟩
      rw [if_neg ambiguous]
      have selects := selectedPort_eq_some_iff sweep.order probed
      cases selected : selection.selectedPort with
      | none =>
          refine .inr (.inr ⟨rfl, ?_⟩)
          exact unproven_of_unselected sweep.order probed ambiguous selected
      | some port =>
          rcases (selects port).mp selected with ⟨proven, preferred | only⟩
          · cases preferred
          · refine .inr (.inl ⟨port, rfl, fun responder => ⟨only responder, ?_⟩⟩)
            rintro rfl
            exact proven

theorem resolves_rediscover (world : ResolveWorld settings) {discovered : Option ℤ}
    (unpinned : settings.ocfPort = none)
    (silent : ∀ known ∈ discovered, ¬Answers world known) :
    Resolves world discovered (rediscover settings world) := by
  rw [rediscover]
  rcases tryCandidates_cases world.advertisedSweep .advertised
      (tryCandidates settings world.candidateSweep .swept
        (.error (.connectionError "no live DTLS server found"), none)) with
    ⟨failure, failed⟩ | ⟨port, found, only⟩ | ⟨next, unadvertised⟩
  · rw [failed]
    exact .failed (.inl rfl)
  · rw [found]
    exact .found unpinned (.advertised unpinned silent only)
  · rw [next]
    rcases tryCandidates_cases world.candidateSweep .swept
        (.error (.connectionError "no live DTLS server found"), none) with
      ⟨failure, failed⟩ | ⟨port, found, only⟩ | ⟨last, -⟩
    · rw [failed]
      exact .failed (.inl rfl)
    · rw [found]
      exact .found unpinned (.swept unpinned silent unadvertised only)
    · rw [last]
      exact .failed (.inl rfl)

theorem resolves_resolvePort (world : ResolveWorld settings) (discovered : Option ℤ) :
    Resolves world discovered (resolvePort settings world discovered) := by
  unfold resolvePort
  rcases pinned : settings.ocfPort with _ | port
  · rcases discovered with _ | cached
    · exact resolves_rediscover world pinned (by simp)
    · dsimp only
      rcases probed : probeDtlsPort settings.gate world.known cached with error | result
      · exact .failed (.inr rfl)
      · have answers := isDtlsServer_iff probed
        by_cases server : result.isDtlsServer = true
        · simp only [server, if_true]
          exact .found pinned (.cached pinned (answers.mp server))
        · simp only [server, Bool.false_eq_true, if_false]
          refine resolves_rediscover world pinned fun known isKnown => ?_
          cases isKnown
          exact fun heard => server (answers.mpr heard)
  · dsimp only
    rcases probed : probeDtlsPort settings.gate world.known port with error | result
    · exact .failed (.inr rfl)
    · by_cases server : result.isDtlsServer = true
      · simp only [server, if_true]
        exact .pinned (.configured pinned ((isDtlsServer_iff probed).mp server))
      · simp only [server, Bool.false_eq_true, if_false]
        exact .failed (.inr rfl)

/-! ### Runs of connects -/

/-- Some connect found the port, by asking or by sweeping. -/
def Found (outcomes : List (ConnectOutcome settings)) (port : ℤ) : Prop :=
  ∃ outcome ∈ outcomes, outcome.resolution.1 = .ok (port, .advertised) ∨
    outcome.resolution.1 = .ok (port, .swept)

/-- Every port that was resolved rests on a probe, and what is kept was found. -/
structure Grounded (connects : Connects settings) : Prop where
  kept : ∀ port ∈ connects.discovered, settings.ocfPort = none ∧ Found connects.outcomes port
  rests : ∀ before outcome after, connects.outcomes = before ++ outcome :: after →
    (∀ known ∈ outcome.discovered, settings.ocfPort = none ∧ Found before known) ∧
      ∀ port source, outcome.resolution.1 = .ok (port, source) →
        Rests outcome.world outcome.discovered port source

theorem Found.append {outcomes : List (ConnectOutcome settings)} {port : ℤ}
    (found : Found outcomes port) (outcome : ConnectOutcome settings) :
    Found (outcomes ++ [outcome]) port := by
  rcases found with ⟨earlier, earlierMem, same⟩
  exact ⟨earlier, List.mem_append_left _ earlierMem, same⟩

theorem Grounded.connect {connects : Connects settings} (grounded : Grounded connects)
    (world : ResolveWorld settings) : Grounded (connects.connect world) := by
  rw [Connects.connect]
  have resolves := resolves_resolvePort world connects.discovered
  generalize resolvePort settings world connects.discovered = resolution at resolves ⊢
  refine ⟨fun port isKept => ?_, fun before outcome after split => ?_⟩
  · cases resolves with
    | pinned rests =>
        rcases grounded.kept port isKept with ⟨unpinned, found⟩
        exact ⟨unpinned, found.append _⟩
    | @found newPort source unpinned rests =>
        cases isKept
        refine ⟨unpinned, ?_⟩
        generalize here : connects.discovered = discovered at rests
        cases rests with
        | configured pinned answers => simp [pinned] at unpinned
        | cached _ answers => exact (grounded.kept _ here).2.append _
        | advertised _ silent only =>
            exact ⟨_, List.mem_append_right _ (List.mem_singleton_self _), .inl rfl⟩
        | swept _ silent unadvertised only =>
            exact ⟨_, List.mem_append_right _ (List.mem_singleton_self _), .inr rfl⟩
    | failed isOld =>
        rcases isOld with nothing | old
        · rw [nothing] at isKept
          cases isKept
        · rw [old] at isKept
          rcases grounded.kept port isKept with ⟨unpinned, found⟩
          exact ⟨unpinned, found.append _⟩
  · rcases List.eq_append_cons_of_concat split with ⟨rfl, rfl, -⟩ | ⟨earlier, -, old⟩
    · refine ⟨grounded.kept, fun port source same => ?_⟩
      cases resolves with
      | pinned rests =>
          cases same
          exact rests
      | found unpinned rests =>
          cases same
          exact rests
      | failed => cases same
    · exact grounded.rests before outcome earlier old

/--
In every run of connects, each port that is resolved rests on a probe of that connect: a
configured or cached one was answered when it was dialled, and an advertised or swept one is the
only port that the first flight of a server came from. A cached port was found by an earlier
connect, and one is looked for only while the cached port does not answer.
-/
theorem resolved_ports_proven (settings : PortSettings) (worlds : List (ResolveWorld settings))
    {before after : List (ConnectOutcome settings)} {outcome : ConnectOutcome settings}
    (connected : (Machine.run Connects.connect worlds {}).outcomes = before ++ outcome :: after)
    {port : ℤ} {source : PortSource} (resolved : outcome.resolution.1 = .ok (port, source)) :
    Rests outcome.world outcome.discovered port source ∧
      ∀ known ∈ outcome.discovered, settings.ocfPort = none ∧ Found before known := by
  have start : Grounded ({} : Connects settings) := ⟨by simp, by simp⟩
  have grounded := Machine.invariant_run_all
    (fun (connects : Connects settings) world (holds : Grounded connects) => holds.connect world)
    worlds start
  rcases grounded.rests before outcome after connected with ⟨kept, rests⟩
  exact ⟨rests port source resolved, kept⟩

/-! ### An appliance that answers from a port of its own -/

/-- A HelloVerifyRequest with a cookie of one octet. -/
def cookieRequest : ByteString :=
  [22, 0xFE, 0xFD, 0, 0, 0, 0, 0, 0, 0, 0, 0, 16,
    3, 0, 0, 4, 0, 0, 0, 0, 0, 0, 0, 4, 0xFE, 0xFD, 1, 7]

def applianceSettings : PortSettings where
  inetPton := fun _ host => if host = "192.0.2.7" then some [192, 0, 2, 7] else none
  clientHelloFlight := fun _ => some [[22]]
  ip := "192.0.2.7"
  ocfPort := none
  defaultObservePort := 49155

/-- Whatever port is dialled, the request for a cookie comes from port 49300. -/
def answeringWorld : ProbeWorld where
  getaddrinfo := fun host port _ =>
    some [⟨some .inet, Endpoint.sockDgram, Endpoint.ipprotoUdp, some (.inet host port)⟩]
  binds := fun _ => true
  started := 0
  attempt := fun attempt => ⟨attempt, 1,
    [⟨attempt, attempt, [⟨attempt, some ⟨cookieRequest, .inet "192.0.2.7" 49300⟩⟩], true,
      attempt⟩]⟩

def applianceConnect : ResolveWorld applianceSettings where
  known := answeringWorld
  advertised := [5684]
  advertisedSweep := ⟨fun _ => answeringWorld, [5684], List.Perm.refl _⟩
  candidateSweep := ⟨fun _ => answeringWorld, applianceSettings.candidatePorts.eraseDups,
    List.Perm.refl _⟩

/-- The port that the first connect found is used by the second one. -/
theorem second_connect_uses_found :
    Rests applianceConnect (some 49300) 49300 .cached ∧
      Found [⟨applianceConnect, none, resolvePort applianceSettings applianceConnect none⟩]
        49300 := by
  have first : (resolvePort applianceSettings applianceConnect none).2 = some 49300 := by
    decide +kernel
  have second : (resolvePort applianceSettings applianceConnect (some 49300)).1 =
      .ok (49300, .cached) := by
    decide +kernel
  have run : (Machine.run Connects.connect [applianceConnect, applianceConnect] {}).outcomes =
      [⟨applianceConnect, none, resolvePort applianceSettings applianceConnect none⟩] ++
        ⟨applianceConnect, some 49300,
          resolvePort applianceSettings applianceConnect (some 49300)⟩ :: [] := by
    rw [← first]
    rfl
  have proven := resolved_ports_proven applianceSettings [applianceConnect, applianceConnect] run
    second
  exact ⟨proven.1, (proven.2 49300 rfl).2⟩

end SmartThingsLocal
