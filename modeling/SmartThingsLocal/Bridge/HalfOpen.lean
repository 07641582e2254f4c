import SmartThingsLocal.Ocf.Keepalive

/-!
# Forced reconnects

A session that stays unreachable is closed by the bridge: `_on_reachable`, `_on_unreachable` and
`_maybe_force_reconnect` on the callbacks of the session's keepalive. The threads of a bridge share
these variables without a lock; an event is over here before the next one begins.
-/

namespace SmartThingsLocal

/-- `UNREACHABLE_RECONNECT_S`. -/
def unreachableReconnectS : ℚ := 120

/-- What happens during a session: a tick of its keepalive, or a report of the bridge's health. -/
inductive SessionEvent
  | ticked (now : ℚ) (tick : KeepaliveTick)
  | health (now : ℚ)
  deriving DecidableEq, Repr

inductive WatchEvent
  /-- `session_once` has connected and taken the session over. -/
  | connected
  /-- `session_once` has cleared what the last session left. -/
  | cleared
  /-- The keepalive of the session has been made. -/
  | watched
  | during (event : SessionEvent)
  /-- The workers of the session have been retired. -/
  | retired
  /-- `run_forever` has let go of the session. -/
  | dropped
  deriving DecidableEq, Repr

/-- The variables of a bridge that the watchdog has to do with. -/
structure Watchdog where
  session : Bool := false
  keepalive : Option KeepaliveTask := none
  onReachable : Bool := false
  onUnreachable : Bool := false
  unreachableSince : Option ℚ := none
  forceCloseInFlight : Bool := false
  deriving DecidableEq, Repr

namespace Watchdog

/-- `_on_reachable` and `_on_unreachable`, where they are still wired. -/
def hear (now : ℚ) (call : Option KeepaliveCall) (dog : Watchdog) : Watchdog :=
  match call with
  | none => dog
  | some .onReachable =>
      if dog.onReachable then { dog with unreachableSince := none } else dog
  | some .onUnreachable =>
      if dog.onUnreachable then
        { dog with unreachableSince := some (dog.unreachableSince.getD now) }
      else dog

/-- `_maybe_force_reconnect`, with whether it closes the session. -/
def maybeForceReconnect (now : ℚ) (dog : Watchdog) : Bool × Watchdog :=
  match dog.unreachableSince with
  | none => (false, dog)
  | some since =>
      if dog.forceCloseInFlight then (false, dog)
      else if now - since < unreachableReconnectS then (false, dog)
      else if !dog.session then (false, dog)
      else
        (true, { dog with
          forceCloseInFlight := true
          onUnreachable := if dog.keepalive.isSome then false else dog.onUnreachable })

/-- One event, and whether the session is closed for it. -/
def step (event : WatchEvent) (dog : Watchdog) : Bool × Watchdog :=
  match event with
  | .connected => (false, { dog with session := true })
  | .cleared => (false, { dog with unreachableSince := none, forceCloseInFlight := false })
  | .watched =>
      (false, { dog with
        keepalive := some { failThreshold := 3 }, onReachable := true, onUnreachable := true })
  | .during (.ticked now tick) =>
      match dog.keepalive with
      | none => (false, dog)
      | some task =>
          (false, { dog with keepalive := some (task.tick tick).2 }.hear now (task.tick tick).1)
  | .during (.health now) => dog.maybeForceReconnect now
  | .retired =>
      (false, { dog with onReachable := false, onUnreachable := false, keepalive := none })
  | .dropped => (false, { dog with session := false })

def after (dog : Watchdog) (events : List WatchEvent) : Watchdog :=
  events.foldl (fun dog event => (dog.step event).2) dog

/-- Which events the session is closed for. -/
def closings : List WatchEvent → Watchdog → List Bool
  | [], _ => []
  | event :: events, dog => (dog.step event).1 :: closings events (dog.step event).2

/-! ### By what happened before -/

/-- The ticks of a session. -/
def ticksOf (events : List SessionEvent) : List (ℚ × KeepaliveTick) :=
  events.filterMap fun
    | .ticked now tick => some (now, tick)
    | .health _ => none

/-- The ticks that have failed last. -/
def failedLast (ticks : List (ℚ × KeepaliveTick)) : List (ℚ × KeepaliveTick) :=
  (ticks.reverse.takeWhile fun tick => !tick.2.ok).reverse

/-- The third of the ticks that have failed last was long enough ago. -/
def Stale (earlier : List SessionEvent) : SessionEvent → Prop
  | .ticked _ _ => False
  | .health now =>
      ∃ third ∈ (failedLast (ticksOf earlier))[2]?, unreachableReconnectS ≤ now - third.1

/-- A session that has been closed for one of its events. -/
def Forced (events : List SessionEvent) : Prop :=
  ∃ before event later, events = before ++ event :: later ∧ Stale before event

theorem failedLast_concat (ticks : List (ℚ × KeepaliveTick)) (last : ℚ × KeepaliveTick) :
    failedLast (ticks ++ [last]) = if last.2.ok then [] else failedLast ticks ++ [last] := by
  unfold failedLast
  rw [List.reverse_append, List.reverse_singleton, List.singleton_append, List.takeWhile_cons]
  cases last.2.ok <;> simp

theorem failuresInARow_eq (ticks : List (ℚ × KeepaliveTick)) :
    KeepaliveTask.failuresInARow (ticks.map Prod.snd) = (failedLast ticks).length := by
  unfold KeepaliveTask.failuresInARow failedLast
  rw [← List.map_reverse, List.takeWhile_map, List.length_map, List.length_reverse]
  rfl

theorem forced_concat (events : List SessionEvent) (last : SessionEvent) :
    Forced (events ++ [last]) ↔ Forced events ∨ Stale events last := by
  constructor
  · rintro ⟨before, event, later, same, stale⟩
    rcases List.eq_nil_or_concat later with rfl | ⟨rest, newest, rfl⟩
    · rcases List.append_inj' same rfl with ⟨rfl, sameLast⟩
      cases sameLast
      exact .inr stale
    · rw [List.concat_eq_append, ← List.cons_append, ← List.append_assoc] at same
      exact .inl ⟨before, event, rest, (List.append_inj' same rfl).1, stale⟩
  · rintro (⟨before, event, later, rfl, stale⟩ | stale)
    · exact ⟨before, event, later ++ [last], by simp, stale⟩
    · exact ⟨events, last, [], rfl, stale⟩

/-- What a watchdog has come to during a session. -/
structure Watches (events : List SessionEvent) (dog : Watchdog) : Prop where
  session : dog.session = true
  keepalive : ∃ task ∈ dog.keepalive,
    KeepaliveTask.Follows 3 ((ticksOf events).map Prod.snd) task
  onReachable : dog.onReachable = true
  forced : dog.forceCloseInFlight = true ↔ Forced events
  onUnreachable : dog.onUnreachable = true ↔ ¬Forced events
  since : ¬Forced events →
    dog.unreachableSince = (failedLast (ticksOf events))[2]?.map Prod.fst

variable {events : List SessionEvent} {dog : Watchdog}

def reports (times : List ℚ) : List WatchEvent := times.map fun now => .during (.health now)

/-- What happens until the keepalive of a session is made: health is reported before and after
what the last session left is cleared. -/
def opening (early seeding : List ℚ) : List WatchEvent :=
  .connected :: reports early ++ .cleared :: reports seeding ++ [.watched]

theorem ticksOf_ticked (events : List SessionEvent) (now : ℚ) (tick : KeepaliveTick) :
    ticksOf (events ++ [.ticked now tick]) = ticksOf events ++ [(now, tick)] :=
  List.filterMap_append

theorem ticksOf_health (events : List SessionEvent) (now : ℚ) :
    ticksOf (events ++ [.health now]) = ticksOf events :=
  List.filterMap_append.trans (List.append_nil _)

/-- The bridge hears of the third failure in a row, and of the next success. -/
theorem since_due (dog : Watchdog) (ticks : List (ℚ × KeepaliveTick))
    (onReachable : dog.onReachable = true) (onUnreachable : dog.onUnreachable = true)
    (since : dog.unreachableSince = (failedLast ticks)[2]?.map Prod.fst) (now : ℚ)
    (tick : KeepaliveTick) :
    (dog.hear now (KeepaliveTask.due 3 (ticks.map Prod.snd) tick)).unreachableSince =
      (failedLast (ticks ++ [(now, tick)]))[2]?.map Prod.fst := by
  rw [failedLast_concat, KeepaliveTask.due, failuresInARow_eq,
    show KeepaliveTask.limit 3 = 3 from rfl]
  cases ok : tick.ok with
  | true =>
      by_cases many : 3 ≤ (failedLast ticks).length
      · simp [hear, many, onReachable]
      · have absent : (failedLast ticks)[2]? = none := List.getElem?_eq_none (by omega)
        simp [hear, many, since, absent]
  | false =>
      by_cases third : (failedLast ticks).length + 1 = 3
      · have absent : (failedLast ticks)[2]? = none := List.getElem?_eq_none (by omega)
        have isThird : (failedLast ticks ++ [(now, tick)])[2]? = some (now, tick) := by
          rw [List.getElem?_append_right (by omega),
            show 2 - (failedLast ticks).length = 0 by omega]
          rfl
        rw [if_neg (by simp), if_pos third, if_neg (by simp), isThird]
        simp [hear, onUnreachable, since, absent]
      · have length : (failedLast ticks ++ [(now, tick)]).length = (failedLast ticks).length + 1 :=
          List.length_append
        have same : (failedLast ticks ++ [(now, tick)])[2]? = (failedLast ticks)[2]? := by
          rcases Nat.lt_or_ge (failedLast ticks).length 3 with few | many
          · rw [List.getElem?_eq_none (by omega), List.getElem?_eq_none (by omega)]
          · exact List.getElem?_append_left (by omega)
        simp [hear, third, since, same]

/-- What the bridge hears leaves the rest. -/
theorem hear_eq (now : ℚ) (call : Option KeepaliveCall) (dog : Watchdog) :
    ∃ unreachableSince, dog.hear now call = { dog with unreachableSince } := by
  rcases call with _ | _ | _
  · exact ⟨_, rfl⟩
  · rw [hear]
    split_ifs
    · exact ⟨_, rfl⟩
    · exact ⟨_, rfl⟩
  · rw [hear]
    split_ifs
    · exact ⟨_, rfl⟩
    · exact ⟨_, rfl⟩

/-- The watchdog hears of a tick. -/
theorem Watches.ticked (watches : Watches events dog) (now : ℚ) (tick : KeepaliveTick) :
    (dog.step (.during (.ticked now tick))).1 = false ∧
      Watches (events ++ [.ticked now tick]) (dog.step (.during (.ticked now tick))).2 := by
  rcases watches.keepalive with ⟨task, isTask, follows⟩
  rcases follows.tick tick with ⟨called, next⟩
  have forced : Forced (events ++ [.ticked now tick]) ↔ Forced events := by
    rw [forced_concat]
    exact or_iff_left id
  have stepped : dog.step (.during (.ticked now tick)) =
      (false, { dog with keepalive := some (task.tick tick).2 }.hear now
        (KeepaliveTask.due 3 ((ticksOf events).map Prod.snd) tick)) := by
    rw [← called]
    simp only [step, show dog.keepalive = some task from isTask]
  rw [stepped]
  refine ⟨rfl, ?_⟩
  rcases hear_eq now (KeepaliveTask.due 3 ((ticksOf events).map Prod.snd) tick)
    { dog with keepalive := some (task.tick tick).2 } with ⟨unreachableSince, same⟩
  have since : ¬Forced events → unreachableSince =
      (failedLast (ticksOf events ++ [(now, tick)]))[2]?.map Prod.fst := by
    intro unforced
    have due := since_due { dog with keepalive := some (task.tick tick).2 } (ticksOf events)
      watches.onReachable (watches.onUnreachable.mpr unforced) (watches.since unforced) now tick
    rw [same] at due
    exact due
  dsimp only
  rw [same]
  refine ⟨watches.session, ⟨_, rfl, ?_⟩, watches.onReachable, ?_, ?_, ?_⟩
  · rw [ticksOf_ticked, List.map_append]
    exact next
  · rw [forced]
    exact watches.forced
  · rw [forced]
    exact watches.onUnreachable
  · rw [forced, ticksOf_ticked]
    exact since

/-- The watchdog closes a session at the first report that finds it stale. -/
theorem Watches.health (watches : Watches events dog) (now : ℚ) :
    ((dog.step (.during (.health now))).1 = true ↔ Stale events (.health now) ∧ ¬Forced events) ∧
      Watches (events ++ [.health now]) (dog.step (.during (.health now))).2 := by
  have forced := forced_concat events (.health now)
  have leaves (closes : ¬(Stale events (.health now) ∧ ¬Forced events))
      (left : dog.step (.during (.health now)) = (false, dog)) :
      ((dog.step (.during (.health now))).1 = true ↔
          Stale events (.health now) ∧ ¬Forced events) ∧
        Watches (events ++ [.health now]) (dog.step (.during (.health now))).2 := by
    have same : Forced (events ++ [.health now]) ↔ Forced events := by
      rw [forced]
      tauto
    rw [left]
    refine ⟨iff_of_false (by simp) closes, watches.session, ?_, watches.onReachable, ?_, ?_, ?_⟩
    · rw [ticksOf_health]
      exact watches.keepalive
    · rw [same]
      exact watches.forced
    · rw [same]
      exact watches.onUnreachable
    · rw [same, ticksOf_health]
      exact watches.since
  by_cases already : Forced events
  · apply leaves (fun closes => closes.2 already)
    simp only [step, maybeForceReconnect, watches.forced.mpr already, if_true]
    cases dog.unreachableSince <;> rfl
  · have unforced : dog.forceCloseInFlight = false := by
      simpa using mt watches.forced.mp already
    have since := watches.since already
    rcases isThird : (failedLast (ticksOf events))[2]? with _ | third
    · rw [isThird] at since
      apply leaves
      · rintro ⟨⟨third, thirdMem, -⟩, -⟩
        rw [isThird] at thirdMem
        cases thirdMem
      · simp [step, maybeForceReconnect, since]
    · rw [isThird] at since
      change dog.unreachableSince = some third.1 at since
      by_cases early : now - third.1 < unreachableReconnectS
      · apply leaves
        · rintro ⟨⟨other, isOther, late⟩, -⟩
          rw [isThird] at isOther
          cases isOther
          exact absurd early (not_lt.mpr late)
        · simp [step, maybeForceReconnect, since, unforced, early]
      · have stale : Stale events (.health now) := ⟨third, isThird, not_lt.mp early⟩
        have isForced : Forced (events ++ [.health now]) := forced.mpr (.inr stale)
        rcases watches.keepalive with ⟨task, isTask, follows⟩
        have closed : dog.step (.during (.health now)) =
            (true, { dog with forceCloseInFlight := true, onUnreachable := false }) := by
          simp [step, maybeForceReconnect, since, unforced, early, watches.session,
            show dog.keepalive = some task from isTask]
        rw [closed]
        refine ⟨iff_of_true rfl ⟨stale, already⟩, watches.session, ⟨task, isTask, ?_⟩,
          watches.onReachable, iff_of_true rfl isForced,
          iff_of_false (by simp) (by simp [isForced]), fun unforced => absurd isForced unforced⟩
        rw [ticksOf_health]
        exact follows

/-- A run of a session, by induction on the events that are left. -/
theorem Watches.run (watches : Watches events dog) (later : List SessionEvent) :
    Watches (events ++ later) (dog.after (later.map .during)) ∧
      ∀ i, (isEvent : i < later.length) → ((closings (later.map .during) dog)[i]? = some true ↔
        Stale (events ++ later.take i) later[i] ∧ ¬Forced (events ++ later.take i)) := by
  induction later generalizing events dog with
  | nil => exact ⟨by rwa [List.append_nil], fun i isEvent => absurd isEvent (Nat.not_lt_zero i)⟩
  | cons next later ih =>
      have stepped : ((dog.step (.during next)).1 = true ↔ Stale events next ∧ ¬Forced events) ∧
          Watches (events ++ [next]) (dog.step (.during next)).2 := by
        cases next with
        | ticked now tick =>
            rcases watches.ticked now tick with ⟨left, after⟩
            exact ⟨iff_of_false (by simp [left]) fun closes => closes.1, after⟩
        | health now => exact watches.health now
      rcases ih stepped.2 with ⟨watchesAll, closedAll⟩
      rw [List.append_assoc, List.singleton_append] at watchesAll
      refine ⟨watchesAll, fun i isEvent => ?_⟩
      cases i with
      | zero => simpa [closings] using stepped.1
      | succ i =>
          have rest := closedAll i (by simpa using isEvent)
          rw [List.append_assoc, List.singleton_append] at rest
          simpa [closings] using rest

end Watchdog

end SmartThingsLocal
