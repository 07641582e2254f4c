import SmartThingsLocal.Foundation.Machine

/-!
# The keepalive

`KeepaliveTask` tick by tick: a ping, the liveness watchdog, and the callback that is fired. What
it reports is a function of how many ticks have failed in a row.
-/

namespace SmartThingsLocal

/-- The callbacks of a keepalive. -/
inductive KeepaliveCall
  | onReachable
  | onUnreachable
  deriving DecidableEq, Repr

/-- One tick: whether the ping was sent, and what `liveness_fn` answers; there is no answer where
there is no function, or where it raises. -/
structure KeepaliveTick where
  pinged : Bool
  alive : Option Bool
  deriving DecidableEq, Repr

structure KeepaliveTask where
  failThreshold : ℕ
  failStreak : ℕ := 0
  reachable : Bool := true
  pingCount : ℕ := 0
  pingFailCount : ℕ := 0
  deriving DecidableEq, Repr

/-- The tick counts as a success. -/
def KeepaliveTick.ok (tick : KeepaliveTick) : Bool := tick.pinged && tick.alive.getD true

namespace KeepaliveTask

/-- `_tick`, with the callback that it fires. -/
def tick (task : KeepaliveTask) (tick : KeepaliveTick) : Option KeepaliveCall × KeepaliveTask :=
  let task := { task with pingCount := task.pingCount + 1 }
  if tick.ok then
    (if task.reachable then none else some .onReachable,
      { task with reachable := true, failStreak := 0 })
  else
    let task := { task with
      pingFailCount := task.pingFailCount + 1
      failStreak := task.failStreak + 1 }
    if task.reachable ∧ task.failStreak ≥ task.failThreshold then
      (some .onUnreachable, { task with reachable := false })
    else (none, task)

/-- The task after some ticks. -/
def after (task : KeepaliveTask) (ticks : List KeepaliveTick) : KeepaliveTask :=
  ticks.foldl (fun task next => (task.tick next).2) task

/-- The callbacks of some ticks, one place for each. -/
def calls : KeepaliveTask → List KeepaliveTick → List (Option KeepaliveCall)
  | _, [] => []
  | task, next :: ticks => (task.tick next).1 :: calls (task.tick next).2 ticks

/-! ### By the failures in a row -/

/-- How many of the last ticks have failed. -/
def failuresInARow (ticks : List KeepaliveTick) : ℕ :=
  (ticks.reverse.takeWhile fun tick => !tick.ok).length

/-- The failures in a row from which on the appliance is unreachable. -/
def limit (threshold : ℕ) : ℕ := max 1 threshold

/-- The callback that the last of some ticks calls for. -/
def due (threshold : ℕ) (earlier : List KeepaliveTick) (last : KeepaliveTick) :
    Option KeepaliveCall :=
  if last.ok then
    if limit threshold ≤ failuresInARow earlier then some .onReachable else none
  else if failuresInARow earlier + 1 = limit threshold then some .onUnreachable
  else none

theorem failuresInARow_concat (ticks : List KeepaliveTick) (last : KeepaliveTick) :
    failuresInARow (ticks ++ [last]) = if last.ok then 0 else failuresInARow ticks + 1 := by
  unfold failuresInARow
  rw [List.reverse_append, List.reverse_singleton, List.singleton_append, List.takeWhile_cons]
  cases last.ok <;> simp

/-- What a task has come to. -/
structure Follows (threshold : ℕ) (ticks : List KeepaliveTick) (task : KeepaliveTask) : Prop where
  failThreshold : task.failThreshold = threshold
  failStreak : task.failStreak = failuresInARow ticks
  reachable : task.reachable = true ↔ failuresInARow ticks < limit threshold
  pingCount : task.pingCount = ticks.length
  pingFailCount : task.pingFailCount = ticks.countP fun tick => !tick.ok

variable {threshold : ℕ} {ticks : List KeepaliveTick} {task : KeepaliveTask}

theorem follows_new (threshold : ℕ) :
    Follows threshold [] ({ failThreshold := threshold } : KeepaliveTask) where
  failThreshold := rfl
  failStreak := rfl
  reachable := by simp [failuresInARow, limit]
  pingCount := rfl
  pingFailCount := rfl

/-- One tick more: the task follows, and fires what is due. -/
theorem Follows.tick (follows : Follows threshold ticks task) (last : KeepaliveTick) :
    (task.tick last).1 = due threshold ticks last ∧
      Follows threshold (ticks ++ [last]) (task.tick last).2 := by
  have row := failuresInARow_concat ticks last
  have counted : (ticks ++ [last]).countP (fun tick => !tick.ok) =
      ticks.countP (fun tick => !tick.ok) + if last.ok then 0 else 1 := by
    rw [List.countP_append, List.countP_singleton]
    cases last.ok <;> rfl
  have reachable := follows.reachable
  cases succeeds : last.ok with
  | true =>
      rw [succeeds, if_pos rfl] at row
      rw [succeeds, if_pos rfl, Nat.add_zero] at counted
      constructor
      · simp only [KeepaliveTask.tick, due, succeeds, if_true]
        by_cases held : task.reachable = true
        · rw [if_pos held, if_neg (not_le.mpr (reachable.mp held))]
        · rw [if_neg held, if_pos (not_lt.mp fun below => held (reachable.mpr below))]
      · simp only [KeepaliveTask.tick, succeeds, if_true]
        refine ⟨follows.failThreshold, row.symm, ?_, ?_, ?_⟩
        · simp [row, limit]
        · rw [List.length_append, ← follows.pingCount]
          rfl
        · rw [counted]
          exact follows.pingFailCount
  | false =>
      rw [succeeds, if_neg (by simp)] at row
      rw [succeeds, if_neg (by simp)] at counted
      have fires : (task.reachable = true ∧ task.failStreak + 1 ≥ task.failThreshold) ↔
          failuresInARow ticks + 1 = limit threshold := by
        rw [reachable, follows.failStreak, follows.failThreshold]
        unfold limit
        omega
      have length : (ticks ++ [last]).length = task.pingCount + 1 := by
        rw [List.length_append, follows.pingCount]
        rfl
      simp only [KeepaliveTask.tick, due, succeeds, Bool.false_eq_true, if_false]
      by_cases crossed : failuresInARow ticks + 1 = limit threshold
      · rw [if_pos (fires.mpr crossed), if_pos crossed]
        refine ⟨rfl, follows.failThreshold, ?_, ?_, length.symm, ?_⟩
        · rw [row, ← follows.failStreak]
        · simp [row, crossed]
        · rw [counted, ← follows.pingFailCount]
      · rw [if_neg (mt fires.mp crossed), if_neg crossed]
        refine ⟨rfl, follows.failThreshold, ?_, ?_, length.symm, ?_⟩
        · rw [row, ← follows.failStreak]
        · rw [row, reachable]
          omega
        · rw [counted, ← follows.pingFailCount]

/-- A run of ticks, by induction on the ticks that are left. -/
theorem Follows.run (follows : Follows threshold ticks task) (later : List KeepaliveTick) :
    Follows threshold (ticks ++ later) (task.after later) ∧
      ∀ i, (isTick : i < later.length) →
        (task.calls later)[i]? = some (due threshold (ticks ++ later.take i) later[i]) := by
  induction later generalizing ticks task with
  | nil => exact ⟨by rwa [List.append_nil], fun i isTick => absurd isTick (Nat.not_lt_zero i)⟩
  | cons next later ih =>
      rcases follows.tick next with ⟨fired, followsNext⟩
      rcases ih followsNext with ⟨followsAll, firedAll⟩
      rw [List.append_assoc, List.singleton_append] at followsAll
      refine ⟨followsAll, fun i isTick => ?_⟩
      cases i with
      | zero => simp [calls, fired]
      | succ i =>
          have rest := firedAll i (by simpa using isTick)
          rw [List.append_assoc, List.singleton_append] at rest
          simpa [calls] using rest

end KeepaliveTask

/-- The appliance is unreachable from the last of so many failures in a row on, until a tick
succeeds, and the callbacks are fired at these ticks and no others. -/
theorem keepalive_reports (threshold : ℕ) (ticks : List KeepaliveTick) :
    ((KeepaliveTask.after { failThreshold := threshold } ticks).reachable = true ↔
      KeepaliveTask.failuresInARow ticks < KeepaliveTask.limit threshold) ∧
    ∀ i, (isTick : i < ticks.length) →
      (KeepaliveTask.calls { failThreshold := threshold } ticks)[i]? =
        some (KeepaliveTask.due threshold (ticks.take i) ticks[i]) := by
  rcases (KeepaliveTask.follows_new threshold).run ticks with ⟨follows, fired⟩
  exact ⟨follows.reachable, fired⟩

end SmartThingsLocal
