import SmartThingsLocal.Bridge.RetryPacing
import SmartThingsLocal.Foundation.Machine

/-!
# Stopping a bridge

The thread of `run_forever`, through `session_once` and `_run_session_inner`, against any number of
calls of `request_stop` and whatever else closes a session. Sessions are named by `connect_count`,
and so are the events that retire their workers.
-/

namespace SmartThingsLocal

/-- Where the bridge's own thread is. -/
inductive BridgePoint
  | head
  | attempting
  | seeding
  /-- `_session_stop_lock` is held, and `self.stop` has not been looked at. -/
  | publishing
  | joining
  | retiring (raised : Option SessionFault)
  | settling (raised : Option SessionFault)
  | waiting (immediate : Bool)
  | ended
  deriving DecidableEq, Repr

/-- Where a call of `request_stop` is: it sets `self.stop`, and then takes the lock. -/
inductive StopCall
  | called
  | stopSet
  | returned
  deriving DecidableEq, Repr

/-- What the threads share, and where they are. -/
structure BridgeThreads (κ : Type) where
  point : BridgePoint := .head
  stop : Bool := false
  connectCount : ℕ := 0
  session : Option ℕ := none
  closed : ℕ → Bool := fun _ => false
  sessionStop : Option ℕ := none
  started : ℕ → Bool := fun _ => false
  signalled : ℕ → Bool := fun _ => false
  loop : RetryLoop := {}
  passes : List (Option SessionFault × ℚ) := []
  pauses : List ℚ := []
  callers : κ → StopCall := fun _ => .called

inductive BridgeMove (κ : Type)
  /-- The bridge's own thread moves: what the code there raises, and the jitter of a wait. -/
  | bridge (raised : Option SessionFault) (jitter : ℚ)
  | caller (caller : κ)
  /-- The watcher of `self.stop`, or a forced reconnect, closes a session. -/
  | close (session : ℕ)

/-- An event, or a mark, that is set. -/
def marked (marks : ℕ → Bool) (session : ℕ) : ℕ → Bool := Function.update marks session true

theorem marked_apply (marks : ℕ → Bool) (session other : ℕ) :
    marked marks session other = if other = session then true else marks other :=
  Function.update_apply marks session true other

namespace BridgeThreads

variable {κ : Type}

/-- `run_forever`, `session_once` and `_run_session_inner`, up to where the threads can meet. -/
def step (raised : Option SessionFault) (jitter : ℚ) (state : BridgeThreads κ) : BridgeThreads κ :=
  match state.point with
  | .head => { state with point := if state.stop then .ended else .attempting }
  | .attempting =>
      match raised with
      | some fault => { state with point := .settling fault }
      | none =>
          { state with
            point := .seeding
            connectCount := state.connectCount + 1
            session := some (state.connectCount + 1) }
  | .seeding =>
      match raised with
      | some fault => { state with point := .settling fault }
      | none => { state with point := .publishing, sessionStop := some state.connectCount }
  | .publishing =>
      { state with
        point := .joining
        started := marked state.started state.connectCount
        signalled :=
          if state.stop then marked state.signalled state.connectCount else state.signalled }
  | .joining =>
      { state with
        point := .retiring raised
        signalled := marked state.signalled state.connectCount }
  | .retiring raised =>
      { state with
        point := .settling raised
        sessionStop :=
          if state.sessionStop = some state.connectCount then none else state.sessionStop }
  | .settling raised =>
      let settled := state.loop.settle raised
      let state := { state with
        loop := settled.2
        session := none
        closed :=
          match state.session with
          | none => state.closed
          | some session => marked state.closed session }
      if state.stop then { state with point := .ended }
      else
        { state with
          point := .waiting settled.1
          passes := state.passes ++ [(raised, jitter)]
          pauses := state.pauses ++ [settled.2.pause settled.1 jitter] }
  | .waiting immediate =>
      if state.stop then { state with point := .ended }
      else { state with point := .head, loop := state.loop.waited immediate }
  | .ended => state

variable [DecidableEq κ]

/-- `request_stop`; the lock is not free while the event of a session is published. -/
def requestStop (caller : κ) (state : BridgeThreads κ) : BridgeThreads κ :=
  match state.callers caller with
  | .called =>
      { state with stop := true, callers := Function.update state.callers caller .stopSet }
  | .stopSet =>
      if state.point = .publishing then state
      else
        { state with
          signalled :=
            match state.sessionStop with
            | none => state.signalled
            | some session => marked state.signalled session
          callers := Function.update state.callers caller .returned }
  | .returned => state

def perform (action : BridgeMove κ) (state : BridgeThreads κ) : BridgeThreads κ :=
  match action with
  | .bridge raised jitter => state.step raised jitter
  | .caller caller => state.requestStop caller
  | .close session => { state with closed := marked state.closed session }

end BridgeThreads

namespace BridgePoint

/-- The event that is published while the thread is at a point of a session. -/
def handle (session : ℕ) : BridgePoint → Option ℕ
  | .publishing | .joining | .retiring _ => some session
  | _ => none

/-- A point between two sessions. -/
def IsIdle : BridgePoint → Prop
  | .head | .attempting | .waiting _ | .ended => True
  | _ => False

/-- A point of a session whose workers are not to be retired yet. -/
def IsRunning : BridgePoint → Prop
  | .seeding | .publishing | .joining => True
  | _ => False

/-- The variables of the loop once the pause at a point is past. -/
def looped (loop : RetryLoop) : BridgePoint → RetryLoop
  | .waiting immediate => loop.waited immediate
  | _ => loop

/-- The steps that the thread has left once the bridge is stopped. -/
def stepsLeft : BridgePoint → ℕ
  | .ended => 0
  | .head | .waiting _ | .settling _ => 1
  | .retiring _ => 2
  | .joining => 3
  | .publishing => 4
  | .seeding => 5
  | .attempting => 6

end BridgePoint

namespace BridgeThreads

variable {κ : Type}

/-- What holds of the events: that of a session is set once its workers are to stop, also where
`request_stop` comes before it is published. -/
structure Wakes (state : BridgeThreads κ) : Prop where
  stopped : ∀ caller, state.callers caller ≠ .called → state.stop = true
  handle : state.sessionStop = state.point.handle state.connectCount
  started : ∀ session, state.started session = true → session ≤ state.connectCount ∧
    (state.signalled session = true ∨ state.point = .joining ∧ session = state.connectCount)
  signalled : ∀ session, state.signalled session = true → session ≤ state.connectCount ∧
    (session = state.connectCount → state.point.IsRunning → state.stop = true)
  woken : state.point = .joining → (∃ caller, state.callers caller = .returned) →
    state.signalled state.connectCount = true

/-- What holds of the sessions: all but the newest one are closed, and that one too once its thread
is through with it. -/
structure Closes (state : BridgeThreads κ) : Prop where
  current : ∀ session ∈ state.session, session = state.connectCount
  idle : state.point.IsIdle → state.session = none
  closed : ∀ session, 0 < session → session ≤ state.connectCount →
    state.closed session = true ∨ state.session = some session

/-- The pauses are those of the loop. -/
structure Paces (state : BridgeThreads κ) : Prop where
  paced : state.pauses = (RetryLoop.attempts state.passes {}).1
  looped : state.point ≠ .ended →
    state.point.looped state.loop = (RetryLoop.attempts state.passes {}).2

variable {state : BridgeThreads κ}

/-- A pass of the loop that has been settled. -/
theorem attempts_concat (passes : List (Option SessionFault × ℚ)) (raised : Option SessionFault)
    (jitter : ℚ) {loop : RetryLoop} (looped : loop = (RetryLoop.attempts passes {}).2) :
    RetryLoop.attempts (passes ++ [(raised, jitter)]) {} =
      ((RetryLoop.attempts passes {}).1 ++
          [(loop.settle raised).2.pause (loop.settle raised).1 jitter],
        (loop.settle raised).2.waited (loop.settle raised).1) := by
  rw [RetryLoop.attempts_append, ← looped]
  rfl

/-! ### The events -/

theorem Wakes.retired (wakes : Wakes state) (elsewhere : state.point ≠ .joining) {session : ℕ}
    (isStarted : state.started session = true) :
    session ≤ state.connectCount ∧ state.signalled session = true := by
  rcases wakes.started session isStarted with ⟨le, isSignalled | ⟨joining, -⟩⟩
  · exact ⟨le, isSignalled⟩
  · exact absurd joining elsewhere

/-- A step between two points that are not those of the handoff. -/
theorem Wakes.moves (wakes : Wakes state) {after : BridgeThreads κ}
    (elsewhere : state.point ≠ .joining) (next : after.point ≠ .joining)
    (handle : after.sessionStop = after.point.handle state.connectCount)
    (running : after.point.IsRunning → state.point.IsRunning)
    (same : after.callers = state.callers ∧ after.stop = state.stop ∧
      after.connectCount = state.connectCount ∧ after.started = state.started ∧
      after.signalled = state.signalled) : Wakes after := by
  rcases same with ⟨callers, stop, connectCount, started, signalled⟩
  constructor
  · rw [callers, stop]
    exact wakes.stopped
  · rw [connectCount]
    exact handle
  · rw [started, signalled, connectCount]
    intro session isStarted
    rcases wakes.retired elsewhere isStarted with ⟨le, isSignalled⟩
    exact ⟨le, .inl isSignalled⟩
  · rw [signalled, stop, connectCount]
    intro session isSignalled
    rcases wakes.signalled session isSignalled with ⟨le, isStopped⟩
    exact ⟨le, fun newest isRunning => isStopped newest (running isRunning)⟩
  · intro joining
    exact absurd joining next

theorem wakes_step (wakes : Wakes state) (raised : Option SessionFault) (jitter : ℚ) :
    Wakes (state.step raised jitter) := by
  have handle := wakes.handle
  cases point : state.point with
  | head =>
      rw [point] at handle
      simp only [step, point]
      apply wakes.moves (by simp [point]) <;> cases state.stop <;>
        simp [BridgePoint.IsRunning, BridgePoint.handle, handle]
  | attempting =>
      rw [point] at handle
      simp only [step, point]
      cases raised with
      | some fault =>
          apply wakes.moves (by simp [point]) <;>
            simp [BridgePoint.IsRunning, BridgePoint.handle, handle]
      | none =>
          refine ⟨wakes.stopped, handle, ?_, ?_, by simp⟩
          · intro session isStarted
            rcases wakes.retired (by simp [point]) isStarted with ⟨le, isSignalled⟩
            exact ⟨Nat.le_succ_of_le le, .inl isSignalled⟩
          · intro session isSignalled
            have le := (wakes.signalled session isSignalled).1
            exact ⟨Nat.le_succ_of_le le, fun newest => absurd newest (Nat.lt_succ_of_le le).ne⟩
  | seeding =>
      simp only [step, point]
      cases raised with
      | some fault =>
          rw [point] at handle
          apply wakes.moves (by simp [point]) <;>
            simp [BridgePoint.IsRunning, BridgePoint.handle, handle]
      | none =>
          apply wakes.moves (by simp [point]) <;>
            simp [BridgePoint.IsRunning, BridgePoint.handle, point]
  | publishing =>
      rw [point] at handle
      simp only [step, point]
      -- A call that has returned has set the event that `self.stop` is looked at for.
      refine ⟨wakes.stopped, handle, ?_, ?_, ?_⟩ <;> dsimp only
      · intro session isStarted
        rw [marked_apply] at isStarted
        split_ifs at isStarted with newest
        · exact ⟨newest.le, .inr ⟨rfl, newest⟩⟩
        · rcases wakes.retired (by simp [point]) isStarted with ⟨le, isSignalled⟩
          refine ⟨le, .inl ?_⟩
          split_ifs
          · rw [marked_apply, if_neg newest, isSignalled]
          · exact isSignalled
      · intro session isSignalled
        by_cases isStopped : state.stop = true
        · rw [if_pos isStopped, marked_apply] at isSignalled
          refine ⟨?_, fun _ _ => isStopped⟩
          split_ifs at isSignalled with newest
          · exact newest.le
          · exact (wakes.signalled session isSignalled).1
        · rw [if_neg isStopped] at isSignalled
          rcases wakes.signalled session isSignalled with ⟨le, onlyStopped⟩
          exact ⟨le, fun newest _ => onlyStopped newest (by simp [point, BridgePoint.IsRunning])⟩
      · rintro - ⟨caller, hasReturned⟩
        have isStopped := wakes.stopped caller (by simp [hasReturned])
        rw [if_pos isStopped, marked_apply, if_pos rfl]
  | joining =>
      rw [point] at handle
      simp only [step, point]
      refine ⟨wakes.stopped, handle, ?_, ?_, by simp⟩ <;> dsimp only
      · intro session isStarted
        rcases wakes.started session isStarted with ⟨le, isSignalled | ⟨-, newest⟩⟩
        · exact ⟨le, .inl (by simp [marked_apply, isSignalled])⟩
        · exact ⟨le, .inl (by simp [marked_apply, newest])⟩
      · intro session isSignalled
        rw [marked_apply] at isSignalled
        refine ⟨?_, fun _ isRunning => isRunning.elim⟩
        split_ifs at isSignalled with newest
        · exact newest.le
        · exact (wakes.signalled session isSignalled).1
  | retiring raised =>
      rw [point] at handle
      simp only [step, point]
      apply wakes.moves (by simp [point]) <;>
        simp [BridgePoint.IsRunning, BridgePoint.handle, handle]
  | settling raised =>
      rw [point] at handle
      simp only [step, point]
      split_ifs <;> apply wakes.moves (by simp [point]) <;>
        simp [BridgePoint.IsRunning, BridgePoint.handle, handle]
  | waiting immediate =>
      rw [point] at handle
      simp only [step, point]
      split_ifs <;> apply wakes.moves (by simp [point]) <;>
        simp [BridgePoint.IsRunning, BridgePoint.handle, handle]
  | ended =>
      simp only [step, point]
      exact wakes

theorem wakes_requestStop [DecidableEq κ] (wakes : Wakes state) (caller : κ) :
    Wakes (state.requestStop caller) := by
  cases at_ : state.callers caller with
  | called =>
      simp only [requestStop, at_]
      refine ⟨fun _ _ => rfl, wakes.handle, wakes.started, ?_, ?_⟩ <;> dsimp only
      · intro session isSignalled
        exact ⟨(wakes.signalled session isSignalled).1, fun _ _ => rfl⟩
      · rintro joining ⟨other, hasReturned⟩
        apply wakes.woken joining ⟨other, ?_⟩
        rw [Function.update_apply] at hasReturned
        split_ifs at hasReturned
        exact hasReturned
  | stopSet =>
      simp only [requestStop, at_]
      have isStopped : state.stop = true := wakes.stopped caller (by simp [at_])
      by_cases held : state.point = .publishing
      · rw [if_pos held]
        exact wakes
      rw [if_neg held]
      refine ⟨fun _ _ => isStopped, wakes.handle, ?_, ?_, ?_⟩ <;> dsimp only
      · intro session isStarted
        rcases wakes.started session isStarted with ⟨le, isSignalled | ⟨joining, newest⟩⟩
        · refine ⟨le, .inl ?_⟩
          cases state.sessionStop with
          | none => exact isSignalled
          | some published => simp [marked_apply, isSignalled]
        · exact ⟨le, .inr ⟨joining, newest⟩⟩
      · intro session isSignalled
        refine ⟨?_, fun _ _ => isStopped⟩
        cases published : state.sessionStop with
        | none =>
            simp only [published] at isSignalled
            exact (wakes.signalled session isSignalled).1
        | some other =>
            simp only [published, marked_apply] at isSignalled
            split_ifs at isSignalled with same
            · have handle := wakes.handle
              rw [published] at handle
              cases point : state.point <;> rw [point] at handle <;> cases handle <;> exact same.le
            · exact (wakes.signalled session isSignalled).1
      · intro joining _
        have handle := wakes.handle
        rw [joining] at handle
        simp [handle, BridgePoint.handle, marked_apply]
  | returned =>
      simp only [requestStop, at_]
      exact wakes

/-! ### The sessions -/

/-- A step that leaves the sessions, or closes one more. -/
theorem Closes.moves (closes : Closes state) {after : BridgeThreads κ}
    (idle : after.point.IsIdle → after.session = none)
    (same : after.connectCount = state.connectCount ∧ after.session = state.session)
    (closed : ∀ session, state.closed session = true → after.closed session = true) :
    Closes after := by
  rcases same with ⟨connectCount, current⟩
  refine ⟨?_, idle, ?_⟩
  · rw [connectCount, current]
    exact closes.current
  · rw [connectCount, current]
    intro session positive le
    exact (closes.closed session positive le).imp_left (closed session)

theorem closes_step (closes : Closes state) (raised : Option SessionFault) (jitter : ℚ) :
    Closes (state.step raised jitter) := by
  cases point : state.point with
  | head =>
      simp only [step, point]
      exact closes.moves (fun _ => closes.idle (by simp [point, BridgePoint.IsIdle]))
        ⟨rfl, rfl⟩ (fun _ => id)
  | attempting =>
      have none := closes.idle (by simp [point, BridgePoint.IsIdle])
      simp only [step, point]
      cases raised with
      | some fault => exact closes.moves (fun _ => none) ⟨rfl, rfl⟩ (fun _ => id)
      | none =>
          refine ⟨by simp, fun isIdle => isIdle.elim, ?_⟩
          intro session positive le
          rcases Nat.le_succ_iff.mp le with earlier | newest
          · left
            exact (closes.closed session positive earlier).resolve_right (by simp [none])
          · right
            rw [newest]
  | seeding =>
      simp only [step, point]
      cases raised with
      | some fault => exact closes.moves (fun isIdle => isIdle.elim) ⟨rfl, rfl⟩ (fun _ => id)
      | none => exact closes.moves (fun isIdle => isIdle.elim) ⟨rfl, rfl⟩ (fun _ => id)
  | publishing =>
      simp only [step, point]
      exact closes.moves (fun isIdle => isIdle.elim) ⟨rfl, rfl⟩ (fun _ => id)
  | joining =>
      simp only [step, point]
      exact closes.moves (fun isIdle => isIdle.elim) ⟨rfl, rfl⟩ (fun _ => id)
  | retiring raised =>
      simp only [step, point]
      exact closes.moves (fun isIdle => isIdle.elim) ⟨rfl, rfl⟩ (fun _ => id)
  | settling raised =>
      have closed : ∀ session, 0 < session → session ≤ state.connectCount →
          (match state.session with
            | none => state.closed
            | some session => marked state.closed session) session = true := by
        intro session positive le
        rcases closes.closed session positive le with isClosed | open_
        · cases state.session with
          | none => exact isClosed
          | some other => simp [marked_apply, isClosed]
        · simp [open_, marked_apply]
      simp only [step, point]
      split_ifs
      · exact ⟨by simp, fun _ => rfl, fun session positive le => .inl (closed session positive le)⟩
      · exact ⟨by simp, fun _ => rfl, fun session positive le => .inl (closed session positive le)⟩
  | waiting immediate =>
      have none := closes.idle (by simp [point, BridgePoint.IsIdle])
      simp only [step, point]
      split_ifs
      · exact closes.moves (fun _ => none) ⟨rfl, rfl⟩ (fun _ => id)
      · exact closes.moves (fun _ => none) ⟨rfl, rfl⟩ (fun _ => id)
  | ended =>
      simp only [step, point]
      exact closes

/-! ### The pauses -/

theorem paces_step (paces : Paces state) (raised : Option SessionFault) (jitter : ℚ) :
    Paces (state.step raised jitter) := by
  have looped := paces.looped
  cases point : state.point with
  | head =>
      rw [point] at looped
      simp only [step, point]
      refine ⟨paces.paced, ?_⟩
      cases state.stop with
      | true => simp
      | false => exact fun _ => looped (by simp)
  | attempting =>
      rw [point] at looped
      simp only [step, point]
      cases raised with
      | some fault => exact ⟨paces.paced, fun _ => looped (by simp)⟩
      | none => exact ⟨paces.paced, fun _ => looped (by simp)⟩
  | seeding =>
      rw [point] at looped
      simp only [step, point]
      cases raised with
      | some fault => exact ⟨paces.paced, fun _ => looped (by simp)⟩
      | none => exact ⟨paces.paced, fun _ => looped (by simp)⟩
  | publishing =>
      rw [point] at looped
      simp only [step, point]
      exact ⟨paces.paced, fun _ => looped (by simp)⟩
  | joining =>
      rw [point] at looped
      simp only [step, point]
      exact ⟨paces.paced, fun _ => looped (by simp)⟩
  | retiring raised =>
      rw [point] at looped
      simp only [step, point]
      exact ⟨paces.paced, fun _ => looped (by simp)⟩
  | settling raised =>
      rw [point] at looped
      have run := attempts_concat state.passes raised jitter (looped (by simp))
      simp only [step, point]
      split_ifs
      · exact ⟨paces.paced, by simp⟩
      · refine ⟨?_, fun _ => ?_⟩
        · rw [run, paces.paced]
          rfl
        · rw [run]
          rfl
  | waiting immediate =>
      rw [point] at looped
      simp only [step, point]
      split_ifs
      · exact ⟨paces.paced, by simp⟩
      · exact ⟨paces.paced, fun _ => looped (by simp)⟩
  | ended =>
      simp only [step, point]
      exact paces

/-! ### Every interleaving -/

/-- What holds in every interleaving. -/
structure Orderly (state : BridgeThreads κ) : Prop extends Wakes state, Closes state, Paces state

theorem orderly_new : Orderly ({} : BridgeThreads κ) where
  stopped := by simp
  handle := rfl
  started := by simp
  signalled := by simp
  woken := by simp
  current := by simp
  idle := fun _ => rfl
  closed := fun session positive le => absurd positive (by simpa using le)
  paced := rfl
  looped := fun _ => rfl

section Callers

variable [DecidableEq κ]

/-- `request_stop` leaves the sessions and the loop alone. -/
theorem requestStop_eq (caller : κ) (state : BridgeThreads κ) :
    ∃ stop signalled callers, state.requestStop caller =
      { state with stop, signalled, callers } := by
  cases at_ : state.callers caller with
  | called =>
      simp only [requestStop, at_]
      exact ⟨_, _, _, rfl⟩
  | stopSet =>
      simp only [requestStop, at_]
      split_ifs
      · exact ⟨_, _, _, rfl⟩
      · exact ⟨_, _, _, rfl⟩
  | returned =>
      simp only [requestStop, at_]
      exact ⟨_, _, _, rfl⟩

theorem orderly_perform (orderly : Orderly state) (action : BridgeMove κ) :
    Orderly (perform action state) := by
  cases action with
  | bridge raised jitter =>
      exact { wakes_step orderly.toWakes raised jitter, closes_step orderly.toCloses raised jitter,
        paces_step orderly.toPaces raised jitter with }
  | caller caller =>
      have wakes := wakes_requestStop orderly.toWakes caller
      rcases requestStop_eq caller state with ⟨stop, signalled, callers, same⟩
      change Orderly (state.requestStop caller)
      rw [same] at wakes ⊢
      exact { wakes, orderly.toCloses, orderly.toPaces with }
  | close session =>
      have closes : Closes (perform (.close session) state) := by
        refine Closes.moves orderly.toCloses ?_ ⟨rfl, rfl⟩ ?_
        · exact orderly.idle
        · intro other isClosed
          simp [perform, marked_apply, isClosed]
      exact { orderly.toWakes, closes, orderly.toPaces with }

/-! ### Once the bridge is stopped -/

/-- The sessions that can still be connected once the bridge is stopped, with those before. -/
def connectLimit (state : BridgeThreads κ) : ℕ :=
  state.connectCount + if state.point = .attempting then 1 else 0

omit [DecidableEq κ] in
/-- A stopped bridge connects at most the session that it is attempting, and each step takes it
nearer to its end. -/
theorem stopped_step (isStopped : state.stop = true) (raised : Option SessionFault) (jitter : ℚ) :
    (state.step raised jitter).stop = true ∧
      (state.step raised jitter).connectLimit ≤ state.connectLimit ∧
      (state.step raised jitter).point.stepsLeft ≤ state.point.stepsLeft - 1 := by
  cases point : state.point with
  | head => simp [step, connectLimit, BridgePoint.stepsLeft, point, isStopped]
  | attempting =>
      cases raised <;> simp [step, connectLimit, BridgePoint.stepsLeft, point, isStopped]
  | seeding => cases raised <;> simp [step, connectLimit, BridgePoint.stepsLeft, point, isStopped]
  | publishing => simp [step, connectLimit, BridgePoint.stepsLeft, point, isStopped]
  | joining => simp [step, connectLimit, BridgePoint.stepsLeft, point, isStopped]
  | retiring raised => simp [step, connectLimit, BridgePoint.stepsLeft, point, isStopped]
  | settling raised => simp [step, connectLimit, BridgePoint.stepsLeft, point, isStopped]
  | waiting immediate => simp [step, connectLimit, BridgePoint.stepsLeft, point, isStopped]
  | ended => simp [step, connectLimit, BridgePoint.stepsLeft, point, isStopped]

theorem stopped_requestStop (isStopped : state.stop = true) (caller : κ) :
    (state.requestStop caller).stop = true := by
  cases at_ : state.callers caller with
  | called => simp only [requestStop, at_]
  | stopSet =>
      simp only [requestStop, at_]
      split_ifs <;> exact isStopped
  | returned =>
      simp only [requestStop, at_]
      exact isStopped

/-- The steps of the bridge's own thread. -/
def ownSteps (actions : List (BridgeMove κ)) : ℕ :=
  actions.countP fun
    | .bridge _ _ => true
    | _ => false

theorem stopped_run (isStopped : state.stop = true) (later : List (BridgeMove κ)) :
    (Machine.run perform later state).connectLimit ≤ state.connectLimit ∧
      (Machine.run perform later state).point.stepsLeft ≤
        state.point.stepsLeft - ownSteps later := by
  induction later generalizing state with
  | nil => exact ⟨le_rfl, le_rfl⟩
  | cons action later ih =>
      cases action with
      | bridge raised jitter =>
          rcases stopped_step isStopped raised jitter with ⟨still, connects, nearer⟩
          rcases ih still with ⟨connectsLater, nearerLater⟩
          have count : ownSteps (.bridge raised jitter :: later) = ownSteps later + 1 :=
            List.countP_cons_of_pos rfl
          refine ⟨connectsLater.trans connects, nearerLater.trans ?_⟩
          rw [count]
          change (state.step raised jitter).point.stepsLeft - _ ≤ _
          omega
      | caller caller =>
          have still := stopped_requestStop isStopped caller
          rcases requestStop_eq caller state with ⟨stop, signalled, callers, same⟩
          have count : ownSteps (.caller caller :: later) = ownSteps later :=
            List.countP_cons_of_neg (by simp)
          have kept := ih still
          rw [same] at kept
          rw [count, Machine.run, perform, same]
          exact kept
      | close session => exact ih isStopped

theorem ended_of_stepsLeft {point : BridgePoint} (none : point.stepsLeft = 0) : point = .ended := by
  cases point <;> first | rfl | cases none

end Callers

end BridgeThreads

open BridgeThreads in
/-- In every interleaving of the bridge's thread with its callers, a call of `request_stop` that has
returned has woken the workers of the session, workers are never retired before their session ends
for any other reason, all sessions but the newest are closed and the pauses are those of the loop;
and a stopped bridge connects at most the session it is attempting, and ends after at most six
steps of its own, with every session closed and all workers told to stop. -/
theorem bridge_stops {κ : Type} [DecidableEq κ] (actions : List (BridgeMove κ)) :
    Orderly (Machine.run perform actions {}) ∧
      ((Machine.run perform actions {}).stop = true → ∀ later,
        (Machine.run perform (actions ++ later) {}).connectCount ≤
          (Machine.run perform actions {}).connectLimit ∧
        (6 ≤ ownSteps later →
          (Machine.run perform (actions ++ later) {}).point = .ended ∧
          ∀ session, 0 < session →
            session ≤ (Machine.run perform (actions ++ later) {}).connectCount →
            (Machine.run perform (actions ++ later) {}).closed session = true ∧
            ((Machine.run perform (actions ++ later) {}).started session = true →
              (Machine.run perform (actions ++ later) {}).signalled session = true))) := by
  have keeps : ∀ state action, Orderly state → Orderly (perform action state) :=
    fun state action (holds : Orderly state) => orderly_perform (κ := κ) holds action
  have orderly (actions : List (BridgeMove κ)) : Orderly (Machine.run perform actions {}) :=
    Machine.invariant_run_all keeps actions orderly_new
  refine ⟨orderly actions, fun isStopped later => ?_⟩
  have final := orderly (actions ++ later)
  rw [Machine.run_append] at final ⊢
  rcases stopped_run isStopped later with ⟨connects, nearer⟩
  generalize Machine.run perform later (Machine.run perform actions {}) = after at *
  refine ⟨(Nat.le_add_right _ _).trans connects, fun enough => ?_⟩
  have few : (Machine.run perform actions {}).point.stepsLeft ≤ 6 := by
    cases (Machine.run perform actions {}).point <;> simp [BridgePoint.stepsLeft]
  have ended : after.point = .ended := ended_of_stepsLeft (by omega)
  refine ⟨ended, fun session positive le => ⟨?_, fun isStarted => ?_⟩⟩
  · have none := final.idle (by rw [ended]; exact trivial)
    exact (final.closed session positive le).resolve_right (by simp [none])
  · exact (final.toWakes.retired (by simp [ended]) isStarted).2

/-- A stop that comes while the event of a session is published, and the steps after it. -/
theorem stop_meets_handoff :
    let opening : List (BridgeMove Bool) := [.bridge none 1, .bridge none 1, .bridge none 1,
      .caller true, .caller true, .bridge none 1]
    let rest : List (BridgeMove Bool) := [.bridge none 1, .bridge none 1, .bridge none 1,
      .caller true, .bridge none 1, .bridge none 1, .bridge none 1]
    let state := Machine.run BridgeThreads.perform opening {}
    let after := Machine.run BridgeThreads.perform (opening ++ rest) {}
    (state.point = .joining ∧ state.callers true = .stopSet ∧ state.signalled 1 = true) ∧
      after.point = .ended ∧ after.closed 1 = true := by
  refine ⟨by decide, ?_⟩
  have stops := (bridge_stops ([.bridge none 1, .bridge none 1, .bridge none 1,
    .caller true, .caller true, .bridge none 1] : List (BridgeMove Bool))).2 (by decide)
    [.bridge none 1, .bridge none 1, .bridge none 1, .caller true, .bridge none 1, .bridge none 1,
      .bridge none 1]
  have ended := stops.2 (by decide)
  exact ⟨ended.1, (ended.2 1 (by decide) (by decide)).1⟩

end SmartThingsLocal
