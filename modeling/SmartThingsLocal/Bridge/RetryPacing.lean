import SmartThingsLocal.Foundation.Backoff

/-!
# The pauses between sessions

`run_forever` between one `session_once` and the next: which collisions are retried at once, what
counts as an error, and how long the pauses are.
-/

namespace SmartThingsLocal

/-- What `session_once` raises: `PeerInitiatedHandshakeError`, or anything else. -/
inductive SessionFault
  | collided
  | failed
  deriving DecidableEq, Repr

/-- `_PEER_HANDSHAKE_RETRY_S`. -/
def peerHandshakeRetryS : ℚ := 1 / 2

/-- `_PEER_HANDSHAKE_MAX_IMMEDIATE`. -/
def peerHandshakeMaxImmediate : ℕ := 4

/-- The variables of the loop. -/
structure RetryLoop where
  backoff : ℚ := 1
  collisions : ℕ := 0
  errorCount : ℕ := 0
  deriving DecidableEq, Repr

namespace RetryLoop

/-- The `try` of the loop: whether the next session is to follow at once. -/
def settle (raised : Option SessionFault) (loop : RetryLoop) : Bool × RetryLoop :=
  match raised with
  | none => (false, { loop with backoff := 1, collisions := 0 })
  | some .collided =>
      let loop := { loop with collisions := loop.collisions + 1 }
      if loop.collisions ≤ peerHandshakeMaxImmediate then (true, loop)
      else (false, { loop with errorCount := loop.errorCount + 1 })
  | some .failed => (false, { loop with errorCount := loop.errorCount + 1, collisions := 0 })

/-- The time to wait, by what `random.uniform(0.7, 1.3)` has returned. -/
def pause (immediate : Bool) (jitter : ℚ) (loop : RetryLoop) : ℚ :=
  if immediate then peerHandshakeRetryS else min loop.backoff 30 * jitter

/-- The end of the loop, after the wait. -/
def waited (immediate : Bool) (loop : RetryLoop) : RetryLoop :=
  if immediate then loop else { loop with backoff := min (loop.backoff * 2) 30 }

/-- A pass of the loop. -/
def attempt (raised : Option SessionFault) (jitter : ℚ) (loop : RetryLoop) : ℚ × RetryLoop :=
  let (immediate, loop) := loop.settle raised
  (loop.pause immediate jitter, loop.waited immediate)

/-- The pauses of some passes, and what the loop has come to. -/
def attempts : List (Option SessionFault × ℚ) → RetryLoop → List ℚ × RetryLoop
  | [], loop => ([], loop)
  | (raised, jitter) :: later, loop =>
      let (pause, loop) := loop.attempt raised jitter
      let (pauses, loop) := attempts later loop
      (pause :: pauses, loop)

/-! ### By the history -/

/-- The collisions in a row at the end of a history, whose newest pass comes first. -/
def collisionRun (past : List (Option SessionFault)) : ℕ :=
  (past.takeWhile fun raised => raised = some .collided).length

/-- A fault that is not taken for an appliance that opens its own session. -/
def IsError (past : List (Option SessionFault)) (raised : Option SessionFault) : Prop :=
  raised = some .failed ∨
    raised = some .collided ∧ peerHandshakeMaxImmediate ≤ collisionRun past

instance (past : List (Option SessionFault)) (raised : Option SessionFault) :
    Decidable (IsError past raised) :=
  inferInstanceAs (Decidable (_ ∨ _))

/-- The errors of a history. -/
def errors : List (Option SessionFault) → ℕ
  | [] => 0
  | raised :: past => errors past + if IsError past raised then 1 else 0

/-- The pauses since the last session, with the one after it, that were not immediate. -/
def doublings : List (Option SessionFault) → ℕ
  | [] => 0
  | none :: _ => 1
  | raised :: past => doublings past + if IsError past raised then 1 else 0

/-- The pause after a pass. -/
def due (past : List (Option SessionFault)) (raised : Option SessionFault) (jitter : ℚ) : ℚ :=
  match raised with
  | none => jitter
  | some fault =>
      if IsError past fault then Backoff.delay 30 (doublings past) * jitter
      else peerHandshakeRetryS

/-- What the loop has come to. -/
structure Follows (past : List (Option SessionFault)) (loop : RetryLoop) : Prop where
  backoff : loop.backoff = Backoff.delay 30 (doublings past)
  collisions : loop.collisions = collisionRun past
  errorCount : loop.errorCount = errors past

variable {past : List (Option SessionFault)} {loop : RetryLoop}

theorem follows_new : Follows [] {} where
  backoff := (Backoff.delay_zero (by norm_num)).symm
  collisions := rfl
  errorCount := rfl

theorem collisionRun_cons (raised : Option SessionFault) (past : List (Option SessionFault)) :
    collisionRun (raised :: past) =
      if raised = some .collided then collisionRun past + 1 else 0 := by
  unfold collisionRun
  rw [List.takeWhile_cons]
  by_cases collided : raised = some .collided
  · simp [collided]
  · simp [collided]

/-- One pass more, by what `session_once` has raised. -/
theorem Follows.attempt (follows : Follows past loop) (raised : Option SessionFault) (jitter : ℚ) :
    (loop.attempt raised jitter).1 = due past raised jitter ∧
      Follows (raised :: past) (loop.attempt raised jitter).2 := by
  have capped : min loop.backoff 30 = Backoff.delay 30 (doublings past) := by
    rw [follows.backoff]
    exact min_eq_left (min_le_right _ _)
  have doubled : min (loop.backoff * 2) 30 = Backoff.delay 30 (doublings past + 1) := by
    rw [follows.backoff]
    exact Backoff.delay_succ (by norm_num) _
  have run := collisionRun_cons raised past
  cases raised with
  | none =>
      refine ⟨by norm_num [RetryLoop.attempt, settle, pause, due], ?_, run.symm, ?_⟩
      · have first : min (Backoff.delay (30 : ℚ) 0 * 2) 30 = Backoff.delay 30 1 :=
          Backoff.delay_succ (by norm_num) 0
        rw [Backoff.delay_zero (by norm_num)] at first
        exact first
      · simp [RetryLoop.attempt, settle, waited, errors, IsError, follows.errorCount]
  | some fault =>
      cases fault with
      | failed =>
          have isError : IsError past (some .failed) := .inl rfl
          refine ⟨?_, ?_, run.symm, ?_⟩
          · simp [RetryLoop.attempt, settle, pause, due, isError, capped]
          · simpa [RetryLoop.attempt, settle, waited, doublings, isError] using doubled
          · simp [RetryLoop.attempt, settle, waited, errors, isError, follows.errorCount]
      | collided =>
          rw [if_pos rfl] at run
          have same := follows.collisions
          by_cases isError : IsError past (some .collided)
          · have many : ¬loop.collisions + 1 ≤ peerHandshakeMaxImmediate := by
              have := (isError.resolve_left (by simp)).2
              omega
            refine ⟨?_, ?_, ?_, ?_⟩
            · simp [RetryLoop.attempt, settle, pause, due, isError, many, capped]
            · simpa [RetryLoop.attempt, settle, waited, doublings, isError, many] using doubled
            · rw [run, ← same]
              simp [RetryLoop.attempt, settle, waited, many]
            · simp [RetryLoop.attempt, settle, waited, errors, isError, many, follows.errorCount]
          · have few : loop.collisions + 1 ≤ peerHandshakeMaxImmediate := by
              have := mt (fun many => Or.inr ⟨rfl, many⟩) isError
              omega
            refine ⟨?_, ?_, ?_, ?_⟩
            · simp [RetryLoop.attempt, settle, pause, due, isError, few]
            · simp [RetryLoop.attempt, settle, waited, doublings, isError, few, follows.backoff]
            · rw [run, ← same]
              simp [RetryLoop.attempt, settle, waited, few]
            · simp [RetryLoop.attempt, settle, waited, errors, isError, few, follows.errorCount]

/-- What a run of passes has raised, the newest first. -/
def raisedBy (passes : List (Option SessionFault × ℚ)) : List (Option SessionFault) :=
  (passes.map Prod.fst).reverse

/-- A run of passes, by induction on the passes that are left. -/
theorem Follows.attempts (follows : Follows past loop) (later : List (Option SessionFault × ℚ)) :
    Follows (raisedBy later ++ past) (loop.attempts later).2 ∧
      ∀ i, (isPass : i < later.length) → (loop.attempts later).1[i]? =
        some (due (raisedBy (later.take i) ++ past) later[i].1 later[i].2) := by
  induction later generalizing past loop with
  | nil => exact ⟨follows, fun i isPass => absurd isPass (Nat.not_lt_zero i)⟩
  | cons pass later ih =>
      rcases pass with ⟨raised, jitter⟩
      rcases follows.attempt raised jitter with ⟨paused, next⟩
      rcases ih next with ⟨followsAll, pausedAll⟩
      have newest (passes : List (Option SessionFault × ℚ)) :
          raisedBy ((raised, jitter) :: passes) ++ past = raisedBy passes ++ raised :: past := by
        simp [raisedBy]
      rw [newest]
      refine ⟨followsAll, fun i isPass => ?_⟩
      cases i with
      | zero =>
          simp only [RetryLoop.attempts, List.getElem?_cons_zero, paused]
          rfl
      | succ i =>
          rw [List.take_succ_cons, newest]
          exact pausedAll i (Nat.lt_of_succ_lt_succ isPass)

theorem attempts_append (before after : List (Option SessionFault × ℚ)) (loop : RetryLoop) :
    loop.attempts (before ++ after) =
      ((loop.attempts before).1 ++ ((loop.attempts before).2.attempts after).1,
        ((loop.attempts before).2.attempts after).2) := by
  induction before generalizing loop with
  | nil => rfl
  | cons pass before ih =>
      rcases pass with ⟨raised, jitter⟩
      simp only [List.cons_append, RetryLoop.attempts, ih]

theorem length_attempts (passes : List (Option SessionFault × ℚ)) (loop : RetryLoop) :
    (loop.attempts passes).1.length = passes.length := by
  induction passes generalizing loop with
  | nil => rfl
  | cons pass passes ih => simp [RetryLoop.attempts, ih]

/-! ### How fast the loop may be -/

/-- One fault more costs an immediate retry, or a pause that has doubled. -/
theorem settle_fault (fault : SessionFault) (jitter : ℚ) (loop : RetryLoop) :
    ((loop.attempt fault jitter).1 = peerHandshakeRetryS ∧
        (loop.attempt fault jitter).2.backoff = loop.backoff ∧
        (loop.attempt fault jitter).2.collisions = loop.collisions + 1 ∧
        loop.collisions < peerHandshakeMaxImmediate) ∨
      ((loop.attempt fault jitter).1 = min loop.backoff 30 * jitter ∧
        (loop.attempt fault jitter).2.backoff = min (loop.backoff * 2) 30 ∧
        ((loop.attempt fault jitter).2.collisions = 0 ∨
          peerHandshakeMaxImmediate ≤ loop.collisions ∧
            (loop.attempt fault jitter).2.collisions = loop.collisions + 1)) := by
  cases fault with
  | failed =>
      right
      exact ⟨rfl, rfl, .inl rfl⟩
  | collided =>
      by_cases few : loop.collisions + 1 ≤ peerHandshakeMaxImmediate
      · left
        refine ⟨?_, ?_, ?_, few⟩
        · simp [RetryLoop.attempt, settle, pause, few]
        · simp [RetryLoop.attempt, settle, waited, few]
        · simp [RetryLoop.attempt, settle, waited, few]
      · right
        have many : peerHandshakeMaxImmediate ≤ loop.collisions := by omega
        simp [RetryLoop.attempt, settle, pause, waited, few, many]

/-- Of five faults in a row one is waited for, and longer each time. The immediate retries that
are left carry the induction. -/
theorem span_le_pauses {doublings : ℕ} {passes : List (Option SessionFault × ℚ)}
    (backoff : loop.backoff = Backoff.delay 30 doublings)
    (faults : ∀ pass ∈ passes, pass.1 ≠ none ∧ 7 / 10 ≤ pass.2) :
    ∃ count, passes.length + min loop.collisions 4 ≤ 4 + 5 * count ∧
      7 / 10 * Backoff.span 30 doublings count ≤ (loop.attempts passes).1.sum := by
  induction passes generalizing loop doublings with
  | nil => exact ⟨0, by simp, by simp [Backoff.span, RetryLoop.attempts]⟩
  | cons pass passes ih =>
      rcases List.forall_mem_cons.mp faults with ⟨isFault, later⟩
      rcases pass with ⟨_ | fault, jitter⟩
      · exact absurd rfl isFault.1
      rw [show (loop.attempts ((some fault, jitter) :: passes)).1.sum =
        (loop.attempt (some fault) jitter).1 +
          ((loop.attempt (some fault) jitter).2.attempts passes).1.sum from List.sum_cons]
      rcases settle_fault fault jitter loop with ⟨paused, same, run, few⟩ | ⟨paused, doubled, run⟩
      · rcases ih (same.trans backoff) later with ⟨count, many, least⟩
        refine ⟨count, ?_, ?_⟩
        · rw [run] at many
          rw [List.length_cons]
          unfold peerHandshakeMaxImmediate at few
          omega
        · rw [paused, peerHandshakeRetryS]
          linarith
      · rw [backoff, Backoff.delay_succ (by norm_num)] at doubled
        rcases ih doubled later with ⟨count, many, least⟩
        refine ⟨count + 1, ?_, ?_⟩
        · rw [List.length_cons]
          unfold peerHandshakeMaxImmediate at run
          omega
        · have capped : min loop.backoff 30 = Backoff.delay 30 doublings := by
            rw [backoff]
            exact min_eq_left (min_le_right _ _)
          have positive := Backoff.one_le_delay (by norm_num : (1 : ℚ) ≤ 30) doublings
          rw [Backoff.span_succ, paused, capped]
          nlinarith [isFault.2]

theorem due_bounds (past : List (Option SessionFault)) (raised : Option SessionFault) {jitter : ℚ}
    (uniform : 7 / 10 ≤ jitter ∧ jitter ≤ 13 / 10) :
    1 / 2 ≤ due past raised jitter ∧ due past raised jitter ≤ 39 := by
  rcases uniform with ⟨lower, upper⟩
  cases raised with
  | none => constructor <;> rw [due] <;> linarith
  | some fault =>
      rw [due]
      split_ifs
      · have positive := Backoff.one_le_delay (by norm_num : (1 : ℚ) ≤ 30) (doublings past)
        have capped : Backoff.delay 30 (doublings past) ≤ (30 : ℚ) := min_le_right _ _
        constructor <;> nlinarith
      · norm_num [peerHandshakeRetryS]

end RetryLoop

/-- The pauses and the errors of every run of the loop: collisions are retried at once only until
there are too many in a row, all other faults back off, and however the faults are mixed, as many
of them in a row take the time that a fifth of them takes to back off. -/
theorem retries_paced (passes : List (Option SessionFault × ℚ))
    (uniform : ∀ pass ∈ passes, 7 / 10 ≤ pass.2 ∧ pass.2 ≤ 13 / 10) :
    (RetryLoop.attempts passes {}).2.errorCount = RetryLoop.errors (RetryLoop.raisedBy passes) ∧
    (∀ i, (isPass : i < passes.length) → (RetryLoop.attempts passes {}).1[i]? =
      some (RetryLoop.due (RetryLoop.raisedBy (passes.take i)) passes[i].1 passes[i].2)) ∧
    (∀ pause ∈ (RetryLoop.attempts passes {}).1, 1 / 2 ≤ pause ∧ pause ≤ 39) ∧
    ∀ before faults after, passes = before ++ faults ++ after → (∀ pass ∈ faults, pass.1 ≠ none) →
      7 / 10 * Backoff.span 30 0 (faults.length / 5) ≤
        (((RetryLoop.attempts passes {}).1.drop before.length).take faults.length).sum := by
  rcases RetryLoop.follows_new.attempts passes with ⟨follows, paused⟩
  simp only [List.append_nil] at follows paused
  refine ⟨follows.errorCount, paused, ?_, ?_⟩
  · intro pause isPause
    rcases List.mem_iff_getElem?.mp isPause with ⟨i, found⟩
    have isPass : i < passes.length := by
      rw [← RetryLoop.length_attempts passes {}]
      exact (List.getElem?_eq_some_iff.mp found).1
    rw [paused i isPass] at found
    cases found
    exact RetryLoop.due_bounds _ _ (uniform _ (List.getElem_mem isPass))
  · rintro before faults after rfl areFaults
    have followsBefore := (RetryLoop.follows_new.attempts before).1
    have slow : ∀ pass ∈ faults, pass.1 ≠ none ∧ 7 / 10 ≤ pass.2 := fun pass passMem =>
      ⟨areFaults pass passMem, (uniform pass (by simp [passMem])).1⟩
    rcases RetryLoop.span_le_pauses followsBefore.backoff slow with ⟨count, many, least⟩
    have enough : faults.length / 5 ≤ count := by omega
    have longer := Backoff.span_le (by norm_num : (1 : ℚ) ≤ 30) enough
      (RetryLoop.doublings (RetryLoop.raisedBy before ++ []))
    rw [List.append_assoc, RetryLoop.attempts_append, List.drop_left'
      (RetryLoop.length_attempts before {}), RetryLoop.attempts_append, List.take_left'
      (RetryLoop.length_attempts faults _)]
    linarith

/-- A run of collisions, and a session after it. -/
theorem collisions_paced :
    let collided : Option SessionFault × ℚ := (some .collided, 1)
    let passes := [collided, collided, collided, collided, collided, collided, (none, 1),
      (some .failed, 1)]
    RetryLoop.errors (RetryLoop.raisedBy passes) = 3 ∧
      (RetryLoop.attempts passes {}).1 = [1 / 2, 1 / 2, 1 / 2, 1 / 2, 1, 2, 1, 2] ∧
      (RetryLoop.attempts passes {}).2.errorCount = 3 := by
  refine ⟨by decide, by decide +kernel, ?_⟩
  exact (retries_paced [(some .collided, 1), (some .collided, 1), (some .collided, 1),
    (some .collided, 1), (some .collided, 1), (some .collided, 1), (none, 1), (some .failed, 1)]
    (by norm_num)).1.trans (by decide)

end SmartThingsLocal
