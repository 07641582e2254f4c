import SmartThingsLocal.Foundation.ByteString
import SmartThingsLocal.Foundation.Machine
import SmartThingsLocal.Ocf.StateCache

/-!
# The poll scheduler

The thread of `PollScheduler` as it runs the tiers that are due, one step for each deferral check,
each GET and each application to the cache, among calls of `write_in_progress` from other threads.
Clock readings are arbitrary, but the clock does not run backwards.
-/

namespace SmartThingsLocal

structure PollTier where
  name : String
  intervalS : ℚ
  paths : List (List String)
  activeIntervalS : Option ℚ := none
  isSweep : Bool := false
  deriving DecidableEq

/-- One entry of a `/device/0` response: its href if it is a dictionary with one, and its rep. -/
structure DeviceEntry (V : Type) where
  href : Option String
  rep : Decoded V

/-- What the scheduler is built with, and `cbor2.loads` for a representation and a device tree. -/
structure PollContext (V S : Type) where
  tiers : List PollTier
  isActive : Option (OrderedDict String (Rep V) → Bool)
  activeThrottleThreshold : ℕ
  loads : ByteString → Option (Decoded V)
  loadsTree : ByteString → Option (Option (List (DeviceEntry V)))
  hook : ObservationHook V S

/-- The outcome of a GET. -/
inductive GetOutcome
  | timedOut
  | failed
  | answered (code : ℕ) (body : ByteString)
  deriving DecidableEq, Repr

/-- One pass over the tiers: when it began, the cadence, and the tiers that are left. -/
structure Tick where
  now : ℚ
  effectiveActive : Bool
  rest : List PollTier
  deriving DecidableEq

/-- Where the scheduler thread is between two steps. -/
inductive PollPoint (V : Type)
  | idle
  | running (tick : Tick)
  | polling (tier : PollTier) (paths : List (List String)) (tick : Tick)
  | cleared (tier : PollTier) (path : List String) (paths : List (List String)) (tick : Tick)
  | getting (tier : PollTier) (path : List String) (paths : List (List String)) (tick : Tick)
  | received (tier : PollTier) (path : List String) (rep : Rep V) (paths : List (List String))
      (tick : Tick)
  | sweeping (tier : PollTier) (path : List String) (tick : Tick)
  | sweepGetting (tier : PollTier) (path : List String) (tick : Tick)
  | fanning (indexed : List (String × Decoded V)) (tick : Tick)
  | fanCleared (href : String) (rep : Decoded V) (indexed : List (String × Decoded V))
      (tick : Tick)
  deriving DecidableEq

/-- What the scheduler has done: `deferred` is the deadline that was set for the resource. -/
inductive PollEvent
  | issued (href : String) (time : ℚ)
  | timedOut (href : String) (time : ℚ) (cooldown : ℚ)
  | applied (href : String) (time : ℚ) (deferred : ℚ)
  deriving DecidableEq, Repr

structure PollScheduler (V S : Type) where
  cache : StateCache V S
  nextDue : OrderedDict String ℚ
  deferUntil : OrderedDict String ℚ := .empty
  windowTimeoutCount : ℕ := 0
  lastWindowTimeouts : ℕ := 0
  clock : ℚ
  point : PollPoint V := .idle
  log : List PollEvent := []

/--
The scheduler thread moves on, with its readings of the monotonic and of the wall clock, or another
thread calls in.
-/
inductive PollAction
  | advance (reading : ℚ) (wall : ℕ) (outcome : GetOutcome)
  | writeInProgress (href : String) (settleS : ℚ) (reading : ℚ)
  | takeWindowStats
  deriving DecidableEq, Repr

def pathHref (path : List String) : String := "/" ++ "/".intercalate path

/-- `StateCache.index_device_tree`; there is no list where the body is something else. -/
def indexDeviceTree {V : Type} (body : Option (List (DeviceEntry V))) :
    OrderedDict String (Decoded V) :=
  (body.getD []).foldl (fun out entry =>
    match entry.href with
    | none => out
    | some href => if href ≠ "/device/0" then out.set href entry.rep else out) .empty

namespace PollScheduler

variable {V S : Type} [DecidableEq V]

/-- The scheduler as it is constructed. -/
def new (context : PollContext V S) (cache : StateCache V S) (now : ℚ) : PollScheduler V S where
  cache
  nextDue := context.tiers.foldl (fun due tier => due.set tier.name now) .empty
  clock := now

def cooldownFor (tier : PollTier) : ℚ := max 5 (min 60 (tier.intervalS * 3))

def deferred (scheduler : PollScheduler V S) (href : String) : ℚ :=
  (scheduler.deferUntil.get? href).getD 0

/-- A time-out: the cooldown is set, the timeout counted, and the tier given up. -/
def timeOut (scheduler : PollScheduler V S) (tier : PollTier) (href : String) (tick : Tick) :
    PollScheduler V S :=
  { scheduler with
    windowTimeoutCount := scheduler.windowTimeoutCount + 1
    deferUntil := scheduler.deferUntil.set href (scheduler.clock + cooldownFor tier)
    log := scheduler.log ++ [.timedOut href scheduler.clock (cooldownFor tier)]
    point := .running tick }

/-- A representation of a poll or a sweep reaches the cache, which takes only dictionaries. -/
def apply (context : PollContext V S) (scheduler : PollScheduler V S) (wall : ℕ) (href : String)
    (rep : Decoded V) (source : String) (next : PollPoint V) : PollScheduler V S :=
  { scheduler with
    cache := (scheduler.cache.applyRep context.hook href rep source false wall).1
    log := match rep with
      | .other => scheduler.log
      | .dict _ =>
          scheduler.log ++ [.applied href scheduler.clock (scheduler.deferred href)]
    point := next }

/-- The beginning of `_run_due_tiers`. -/
def beginTick (context : PollContext V S) (scheduler : PollScheduler V S) : PollScheduler V S :=
  let active := context.isActive.any (· scheduler.cache.snapshot)
  let throttled := active ∧ scheduler.lastWindowTimeouts ≥ context.activeThrottleThreshold
  { scheduler with point := .running ⟨scheduler.clock, active ∧ ¬throttled, context.tiers⟩ }

/-- The next tier of a tick. -/
def nextTier (scheduler : PollScheduler V S) (tick : Tick) : PollScheduler V S :=
  match tick.rest with
  | [] => { scheduler with point := .idle }
  | tier :: rest =>
      let tick := { tick with rest }
      if (scheduler.nextDue.get? tier.name).getD 0 > tick.now then
        { scheduler with point := .running tick }
      else
        let interval :=
          if tick.effectiveActive then tier.activeIntervalS.getD tier.intervalS else tier.intervalS
        { scheduler with
          nextDue := scheduler.nextDue.set tier.name (tick.now + interval)
          point :=
            if tier.isSweep then
              match tier.paths with
              | [] => .running tick
              | path :: _ => .sweeping tier path tick
            else .polling tier tier.paths tick }

/-- A polled answer that is worth applying. -/
def pollAnswer (context : PollContext V S) (tier : PollTier) (path : List String)
    (paths : List (List String)) (tick : Tick) (code : ℕ) (body : ByteString) : PollPoint V :=
  if code ≠ 0x45 ∨ body = [] then .polling tier paths tick
  else
    match context.loads body with
    | some (.dict rep) => .received tier path rep paths tick
    | _ => .polling tier paths tick

/-- The answer to a sweep, indexed by href. -/
def sweepAnswer (context : PollContext V S) (tick : Tick) (code : ℕ) (body : ByteString) :
    PollPoint V :=
  if code ≠ 0x45 ∨ body = [] then .running tick
  else
    match context.loadsTree body with
    | none => .running tick
    | some tree => .fanning (indexDeviceTree tree).entries tick

/-- One step of the scheduler thread at the time on the clock. -/
def advance (context : PollContext V S) (scheduler : PollScheduler V S) (wall : ℕ)
    (outcome : GetOutcome) : PollScheduler V S :=
  match scheduler.point with
  | .idle => scheduler.beginTick context
  | .running tick => scheduler.nextTier tick
  | .polling _ [] tick => { scheduler with point := .running tick }
  | .polling tier (path :: paths) tick =>
      { scheduler with
        point :=
          if scheduler.deferred (pathHref path) > scheduler.clock then .polling tier paths tick
          else .cleared tier path paths tick }
  | .cleared tier path paths tick =>
      { scheduler with
        log := scheduler.log ++ [.issued (pathHref path) scheduler.clock]
        point := .getting tier path paths tick }
  | .getting tier path paths tick =>
      match outcome with
      | .timedOut => scheduler.timeOut tier (pathHref path) tick
      | .failed => { scheduler with point := .running tick }
      | .answered code body =>
          { scheduler with point := pollAnswer context tier path paths tick code body }
  | .received tier path rep paths tick =>
      scheduler.apply context wall (pathHref path) (.dict rep) "poll" (.polling tier paths tick)
  | .sweeping tier path tick =>
      { scheduler with
        log := scheduler.log ++ [.issued (pathHref path) scheduler.clock]
        point := .sweepGetting tier path tick }
  | .sweepGetting tier path tick =>
      match outcome with
      | .timedOut => scheduler.timeOut tier (pathHref path) tick
      | .failed => { scheduler with point := .running tick }
      | .answered code body => { scheduler with point := sweepAnswer context tick code body }
  | .fanning [] tick => { scheduler with point := .running tick }
  | .fanning ((href, rep) :: indexed) tick =>
      { scheduler with
        point :=
          if scheduler.deferred href > scheduler.clock then .fanning indexed tick
          else .fanCleared href rep indexed tick }
  | .fanCleared href rep indexed tick =>
      scheduler.apply context wall href rep "sweep" (.fanning indexed tick)

def perform (context : PollContext V S) (action : PollAction) (scheduler : PollScheduler V S) :
    PollScheduler V S :=
  match action with
  | .advance reading wall outcome =>
      { scheduler with clock := max scheduler.clock reading }.advance context wall outcome
  | .writeInProgress href settleS reading =>
      let clock := max scheduler.clock reading
      { scheduler with clock, deferUntil := scheduler.deferUntil.set href (clock + settleS) }
  | .takeWindowStats =>
      { scheduler with
        lastWindowTimeouts := scheduler.windowTimeoutCount
        windowTimeoutCount := 0 }

end PollScheduler

/-! ### What a step can do -/

namespace PollPoint

variable {V : Type}

/-- The resource that was found not to be deferred and is polled or swept now. -/
def checked? : PollPoint V → Option String
  | cleared _ path _ _ | getting _ path _ _ | received _ path _ _ _ => some (pathHref path)
  | fanCleared href _ _ _ => some href
  | _ => none

/-- The resource that a GET is out for. -/
def awaited? : PollPoint V → Option String
  | getting _ path _ _ | sweepGetting _ path _ => some (pathHref path)
  | _ => none

/-- The resource that the next step sends a GET for. -/
def issuing? : PollPoint V → Option String
  | cleared _ path _ _ | sweeping _ path _ => some (pathHref path)
  | _ => none

end PollPoint

variable {V S : Type}

/-- Everything one step of the scheduler thread can do to its deadlines, its point and its log. -/
inductive PollMove (scheduler : PollScheduler V S) : PollScheduler V S → Prop
  | moves {cache : StateCache V S} {nextDue : OrderedDict String ℚ} {point : PollPoint V}
      (checked : ∀ href, point.checked? = some href →
        scheduler.point.checked? = some href ∨ scheduler.deferred href ≤ scheduler.clock)
      (unawaited : point.awaited? = none) :
      PollMove scheduler { scheduler with cache, nextDue, point }
  | issues {href : String} {point : PollPoint V} (issuing : scheduler.point.issuing? = some href)
      (awaited : point.awaited? = some href) (checked : point.checked? = scheduler.point.checked?) :
      PollMove scheduler
        { scheduler with log := scheduler.log ++ [.issued href scheduler.clock], point }
  | timesOut {href : String} {tier : PollTier} {tick : Tick}
      (awaited : scheduler.point.awaited? = some href) :
      PollMove scheduler (scheduler.timeOut tier href tick)
  | applies {href : String} {cache : StateCache V S} {point : PollPoint V}
      (checked : scheduler.point.checked? = some href) (unchecked : point.checked? = none)
      (unawaited : point.awaited? = none) :
      PollMove scheduler
        { scheduler with
          cache
          log := scheduler.log ++ [.applied href scheduler.clock (scheduler.deferred href)]
          point }

theorem pollAnswer_cases (context : PollContext V S) (tier : PollTier) (path : List String)
    (paths : List (List String)) (tick : Tick) (code : ℕ) (body : ByteString) :
    PollScheduler.pollAnswer context tier path paths tick code body = .polling tier paths tick ∨
      ∃ rep, PollScheduler.pollAnswer context tier path paths tick code body =
        .received tier path rep paths tick := by
  rw [PollScheduler.pollAnswer]
  split_ifs
  · exact .inl rfl
  · rcases context.loads body with _ | rep | _
    · exact .inl rfl
    · exact .inr ⟨rep, rfl⟩
    · exact .inl rfl

variable [DecidableEq V]

theorem pollMove_advance (context : PollContext V S) (scheduler : PollScheduler V S) (wall : ℕ)
    (outcome : GetOutcome) : PollMove scheduler (scheduler.advance context wall outcome) := by
  have rests {point : PollPoint V} (cache : StateCache V S) (nextDue : OrderedDict String ℚ)
      (unchecked : point.checked? = none) (unawaited : point.awaited? = none) :
      PollMove scheduler { scheduler with cache, nextDue, point } := by
    refine .moves ?_ unawaited
    rw [unchecked]
    nofun
  rw [PollScheduler.advance]
  rcases here : scheduler.point with _ | tick | ⟨tier, _ | ⟨path, paths⟩, tick⟩ |
    ⟨tier, path, paths, tick⟩ | ⟨tier, path, paths, tick⟩ | ⟨tier, path, rep, paths, tick⟩ |
    ⟨tier, path, tick⟩ | ⟨tier, path, tick⟩ | ⟨_ | ⟨⟨href, rep⟩, indexed⟩, tick⟩ |
    ⟨href, rep, indexed, tick⟩
  · exact rests _ _ rfl rfl
  · rcases tick with ⟨now, active, _ | ⟨tier, rest⟩⟩
    · exact rests _ _ rfl rfl
    · simp only [PollScheduler.nextTier]
      generalize (if active = true then _ else _) = interval
      split_ifs with later
      · exact rests _ _ rfl rfl
      · rcases tier.paths with _ | ⟨path, paths⟩
        · exact rests _ _ rfl rfl
        · exact rests _ _ rfl rfl
      · exact rests _ _ rfl rfl
  · exact rests _ _ rfl rfl
  · dsimp only
    split_ifs with later
    · exact rests _ _ rfl rfl
    · refine .moves (fun href same => .inr ?_) rfl
      cases same
      exact not_lt.mp later
  · exact .issues (by rw [here]; rfl) rfl (by rw [here]; rfl)
  · rcases outcome with _ | _ | ⟨code, body⟩
    · exact .timesOut (by rw [here]; rfl)
    · exact rests _ _ rfl rfl
    · rcases pollAnswer_cases context tier path paths tick code body with polls | ⟨rep, receives⟩
      · dsimp only
        rw [polls]
        exact rests _ _ rfl rfl
      · dsimp only
        rw [receives]
        refine .moves (fun href same => .inl ?_) rfl
        rw [here]
        exact same
  · exact .applies (by rw [here]; rfl) rfl rfl
  · exact .issues (by rw [here]; rfl) rfl (by rw [here]; rfl)
  · rcases outcome with _ | _ | ⟨code, body⟩
    · exact .timesOut (by rw [here]; rfl)
    · exact rests _ _ rfl rfl
    · dsimp only
      rw [PollScheduler.sweepAnswer]
      split_ifs
      · exact rests _ _ rfl rfl
      · rcases context.loadsTree body with _ | tree
        · exact rests _ _ rfl rfl
        · exact rests _ _ rfl rfl
  · exact rests _ _ rfl rfl
  · dsimp only
    split_ifs with later
    · exact rests _ _ rfl rfl
    · refine .moves (fun other same => .inr ?_) rfl
      cases same
      exact not_lt.mp later
  · rcases rep with rep | _
    · exact .applies (by rw [here]; rfl) rfl rfl
    · exact rests _ _ rfl rfl

end SmartThingsLocal
