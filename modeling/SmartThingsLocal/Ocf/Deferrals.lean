import SmartThingsLocal.Foundation.Logs
import SmartThingsLocal.Ocf.PollScheduler

/-!
# Deferrals

One table of deadlines holds the settle windows of writes and the cooldowns of time-outs. A poll
looks at it before its GET only, a sweep before each application only.
-/

namespace SmartThingsLocal

variable {V S : Type} {scheduler : PollScheduler V S}

namespace PollScheduler

theorem deferred_set (scheduler : PollScheduler V S) (href other : String) (deadline : ℚ) :
    deferred { scheduler with deferUntil := scheduler.deferUntil.set href deadline } other =
      if other = href then deadline else scheduler.deferred other := by
  rw [deferred, OrderedDict.get?_set]
  split_ifs <;> rfl

end PollScheduler

/-! ### Settle windows -/

/-- Nothing is applied while the deadline of its resource lies ahead. -/
def SettleRespected (log : List PollEvent) : Prop :=
  ∀ href time deferred, .applied href time deferred ∈ log → deferred ≤ time

/-- No write begins between the deferral check of its resource and the application. -/
def WritesApart (scheduler : PollScheduler V S) : PollAction → Prop
  | .writeInProgress href _ _ => scheduler.point.checked? ≠ some href
  | _ => True

instance decidableWritesApart (scheduler : PollScheduler V S) :
    ∀ action, Decidable (WritesApart scheduler action)
  | .writeInProgress href _ _ =>
      inferInstanceAs (Decidable (scheduler.point.checked? ≠ some href))
  | .advance _ _ _ | .takeWindowStats => isTrue trivial

structure SettleInvariant (scheduler : PollScheduler V S) : Prop where
  checked : ∀ href, scheduler.point.checked? = some href →
    scheduler.deferred href ≤ scheduler.clock
  applied : SettleRespected scheduler.log

namespace SettleInvariant

theorem passes (invariant : SettleInvariant scheduler) {clock : ℚ}
    (later : scheduler.clock ≤ clock) : SettleInvariant { scheduler with clock } :=
  ⟨fun href checked => (invariant.checked href checked).trans later, invariant.applied⟩

theorem move (invariant : SettleInvariant scheduler) {next : PollScheduler V S}
    (move : PollMove scheduler next) : SettleInvariant next := by
  have silent (event : PollEvent)
      (other : ∀ href time deferred, event ≠ .applied href time deferred) :
      SettleRespected (scheduler.log ++ [event]) := by
    intro href time deferred logged
    rcases List.mem_append.mp logged with earlier | new
    · exact invariant.applied href time deferred earlier
    · exact absurd (List.mem_singleton.mp new).symm (other href time deferred)
  cases move with
  | moves checked unawaited =>
      refine ⟨fun href found => ?_, invariant.applied⟩
      rcases checked href found with before | now
      · exact invariant.checked href before
      · exact now
  | issues issuing awaited checked =>
      refine ⟨fun href found => ?_, silent _ nofun⟩
      exact invariant.checked href (checked.symm.trans found)
  | timesOut awaited => exact ⟨nofun, silent _ nofun⟩
  | @applies href cache point checked unchecked unawaited =>
      refine ⟨fun other found => ?_, fun other time deferred logged => ?_⟩
      · dsimp only at found
        rw [unchecked] at found
        cases found
      · rcases List.mem_append.mp logged with earlier | new
        · exact invariant.applied other time deferred earlier
        · cases List.mem_singleton.mp new
          exact invariant.checked href checked

theorem perform [DecidableEq V] {context : PollContext V S} (invariant : SettleInvariant scheduler)
    (action : PollAction) (apart : WritesApart scheduler action) :
    SettleInvariant (scheduler.perform context action) := by
  cases action with
  | advance reading wall outcome =>
      exact (invariant.passes (le_max_left _ _)).move (pollMove_advance context _ wall outcome)
  | writeInProgress href settleS reading =>
      refine ⟨fun other checked => ?_, invariant.applied⟩
      have different : other ≠ href := by
        rintro rfl
        exact apart checked
      have kept := PollScheduler.deferred_set
        { scheduler with clock := max scheduler.clock reading } href other
        (max scheduler.clock reading + settleS)
      rw [if_neg different] at kept
      exact kept.trans_le ((invariant.checked other checked).trans (le_max_left _ _))
  | takeWindowStats => exact ⟨invariant.checked, invariant.applied⟩

end SettleInvariant

/--
In every run in which no write falls between a deferral check and the application it is for,
nothing is applied while a deadline of its resource lies ahead.
-/
theorem settle_windows_respected [DecidableEq V] (context : PollContext V S)
    (cache : StateCache V S) (now : ℚ) {actions : List PollAction}
    (apart : Machine.Meets (PollScheduler.perform context) WritesApart actions
      (.new context cache now)) :
    SettleRespected (Machine.run (PollScheduler.perform context) actions
      (.new context cache now)).log :=
  (Machine.invariant_run (fun _ action invariant => invariant.perform action) apart
    (⟨nofun, fun _ _ _ => nofun⟩ : SettleInvariant (PollScheduler.new context cache now))).applied

/-! ### Cooldowns -/

/-- Every cooldown of a resource has run out. -/
def Cooled (log : List PollEvent) (href : String) (time : ℚ) : Prop :=
  ∀ timeout cooldown, .timedOut href timeout cooldown ∈ log → timeout + cooldown ≤ time

/-- No GET goes out for a resource that has a cooldown running. -/
def CooldownsHonoured (log : List PollEvent) : Prop :=
  ∀ before href time after, log = before ++ .issued href time :: after → Cooled before href time

/--
No sweep is due while its resource is deferred, and no write shortens a deferral that is still
running.
-/
def DeferralsKept (scheduler : PollScheduler V S) : PollAction → Prop
  | .advance reading _ _ =>
      ∀ href ∈ scheduler.point.issuing?, scheduler.point.checked? = none →
        scheduler.deferred href ≤ max scheduler.clock reading
  | .writeInProgress href settleS reading =>
      scheduler.deferred href ≤ max scheduler.clock reading ∨
        scheduler.deferred href ≤ max scheduler.clock reading + settleS
  | .takeWindowStats => True

instance decidableDeferralsKept (scheduler : PollScheduler V S) :
    ∀ action, Decidable (DeferralsKept scheduler action)
  | .advance reading _ _ => inferInstanceAs (Decidable
      (∀ href ∈ scheduler.point.issuing?, scheduler.point.checked? = none →
        scheduler.deferred href ≤ max scheduler.clock reading))
  | .writeInProgress href settleS reading => inferInstanceAs (Decidable
      (scheduler.deferred href ≤ max scheduler.clock reading ∨
        scheduler.deferred href ≤ max scheduler.clock reading + settleS))
  | .takeWindowStats => isTrue trivial

structure CooldownInvariant (scheduler : PollScheduler V S) : Prop where
  cooling : ∀ href, Cooled scheduler.log href (max (scheduler.deferred href) scheduler.clock)
  ready : ∀ href, scheduler.point.checked? = some href ∨ scheduler.point.awaited? = some href →
    Cooled scheduler.log href scheduler.clock
  honoured : CooldownsHonoured scheduler.log

theorem Cooled.mono {log : List PollEvent} {href : String} {time later : ℚ}
    (cooled : Cooled log href time) (ordered : time ≤ later) : Cooled log href later :=
  fun timeout cooldown logged => (cooled timeout cooldown logged).trans ordered

theorem Cooled.append {log : List PollEvent} {href : String} {time : ℚ} {event : PollEvent}
    (cooled : Cooled log href time)
    (last : ∀ timeout cooldown,
      event = .timedOut href timeout cooldown → timeout + cooldown ≤ time) :
    Cooled (log ++ [event]) href time := by
  intro timeout cooldown logged
  rcases List.mem_append.mp logged with earlier | new
  · exact cooled timeout cooldown earlier
  · exact last timeout cooldown (List.mem_singleton.mp new).symm

theorem CooldownsHonoured.append {log : List PollEvent} {event : PollEvent}
    (honoured : CooldownsHonoured log)
    (last : ∀ href time, event = .issued href time → Cooled log href time) :
    CooldownsHonoured (log ++ [event]) := by
  intro before href time after split
  rcases List.eq_append_cons_of_concat split with ⟨rfl, same, -⟩ | ⟨earlier, -, logged⟩
  · exact last href time same
  · exact honoured before href time earlier logged

theorem PollPoint.checked?_of_issuing {point : PollPoint V} {href other : String}
    (issuing : point.issuing? = some href) (checked : point.checked? = some other) :
    other = href := by
  cases point with
  | cleared tier path paths tick => exact Option.some.inj (checked.symm.trans issuing)
  | sweeping tier path tick => cases checked
  | _ => cases issuing

namespace CooldownInvariant

theorem passes (invariant : CooldownInvariant scheduler) {clock : ℚ}
    (later : scheduler.clock ≤ clock) : CooldownInvariant { scheduler with clock } :=
  ⟨fun href => (invariant.cooling href).mono (max_le_max le_rfl later),
    fun href checked => (invariant.ready href checked).mono later, invariant.honoured⟩

/-- A resource that is not deferred has cooled down. -/
theorem cooled (invariant : CooldownInvariant scheduler) {href : String}
    (due : scheduler.deferred href ≤ scheduler.clock) :
    Cooled scheduler.log href scheduler.clock :=
  (invariant.cooling href).mono (max_le due le_rfl)

theorem move (invariant : CooldownInvariant scheduler) {next : PollScheduler V S}
    (move : PollMove scheduler next)
    (swept : ∀ href ∈ scheduler.point.issuing?, scheduler.point.checked? = none →
      scheduler.deferred href ≤ scheduler.clock) : CooldownInvariant next := by
  cases move with
  | moves checked unawaited =>
      refine ⟨invariant.cooling, fun href found => ?_, invariant.honoured⟩
      rcases found with isChecked | isAwaited
      · rcases checked href isChecked with before | due
        · exact invariant.ready href (.inl before)
        · exact invariant.cooled due
      · dsimp only at isAwaited
        rw [unawaited] at isAwaited
        cases isAwaited
  | @issues href point issuing awaited checked =>
      have cooled : Cooled scheduler.log href scheduler.clock := by
        rcases found : scheduler.point.checked? with _ | other
        · exact invariant.cooled (swept href issuing found)
        · have same := PollPoint.checked?_of_issuing issuing found
          exact invariant.ready href (.inl (same ▸ found))
      refine ⟨fun other => (invariant.cooling other).append nofun, fun other found => ?_,
        invariant.honoured.append ?_⟩
      · refine Cooled.append ?_ nofun
        rcases found with isChecked | isAwaited
        · exact invariant.ready other (.inl (checked.symm.trans isChecked))
        · cases awaited.symm.trans isAwaited
          exact cooled
      · intro other time same
        cases same
        exact cooled
  | @timesOut href tier tick awaited =>
      refine ⟨fun other => ?_, fun other found => ?_, invariant.honoured.append nofun⟩
      case refine_2 => rcases found with impossible | impossible <;> cases impossible
      have deferred := PollScheduler.deferred_set scheduler href other
        (scheduler.clock + PollScheduler.cooldownFor tier)
      by_cases same : other = href
      · subst same
        have cooled := invariant.ready other (.inr awaited)
        apply Cooled.append
        · exact cooled.mono (le_max_right _ _)
        · intro timeout cooldown isTimeout
          cases isTimeout
          rw [if_pos rfl] at deferred
          exact deferred.ge.trans (le_max_left _ _)
      · rw [if_neg same] at deferred
        apply Cooled.append
        · have kept := invariant.cooling other
          rw [← deferred] at kept
          exact kept
        · intro timeout cooldown isTimeout
          cases isTimeout
          exact absurd rfl same
  | @applies href cache point checked unchecked unawaited =>
      refine ⟨fun other => (invariant.cooling other).append nofun, fun other found => ?_,
        invariant.honoured.append nofun⟩
      dsimp only at found
      rw [unchecked, unawaited] at found
      rcases found with impossible | impossible <;> cases impossible

theorem perform [DecidableEq V] {context : PollContext V S}
    (invariant : CooldownInvariant scheduler) (action : PollAction)
    (kept : DeferralsKept scheduler action) :
    CooldownInvariant (scheduler.perform context action) := by
  cases action with
  | advance reading wall outcome =>
      exact (invariant.passes (le_max_left _ _)).move (pollMove_advance context _ wall outcome) kept
  | writeInProgress href settleS reading =>
      have later := le_max_left scheduler.clock reading
      refine ⟨fun other => ?_, fun other found => (invariant.ready other found).mono later,
        invariant.honoured⟩
      have deferred := PollScheduler.deferred_set
        { scheduler with clock := max scheduler.clock reading } href other
        (max scheduler.clock reading + settleS)
      by_cases same : other = href
      · subst same
        rw [if_pos rfl] at deferred
        apply (invariant.cooling other).mono
        rcases kept with expired | extended
        · exact (max_le expired later).trans (le_max_right _ _)
        · exact max_le_max (extended.trans deferred.ge) later
      · rw [if_neg same] at deferred
        exact (invariant.cooling other).mono (max_le_max deferred.ge later)
  | takeWindowStats => exact ⟨invariant.cooling, invariant.ready, invariant.honoured⟩

end CooldownInvariant

/--
In every run in which no sweep is due while its resource is deferred and no write shortens a
deferral, a resource that timed out is left alone for the cooldown of its tier.
-/
theorem cooldowns_honoured [DecidableEq V] (context : PollContext V S) (cache : StateCache V S)
    (now : ℚ) {actions : List PollAction}
    (kept : Machine.Meets (PollScheduler.perform context) DeferralsKept actions
      (.new context cache now)) :
    CooldownsHonoured (Machine.run (PollScheduler.perform context) actions
      (.new context cache now)).log := by
  have initial : CooldownInvariant (PollScheduler.new context cache now) := by
    refine ⟨fun _ _ _ => nofun, fun _ _ _ _ => nofun, ?_⟩
    intro before href time after impossible
    exact absurd impossible.symm (by simp [PollScheduler.new])
  exact (Machine.invariant_run (fun _ action invariant => invariant.perform action) kept
    initial).honoured

/-! ### One tier with one path -/

/-- One tier with one path, polled or swept every ten seconds, or every second while active. -/
def onePathContext (isSweep : Bool) : PollContext ℕ Unit :=
  ⟨[⟨"only", 10, [["a"]], some 1, isSweep⟩], some fun _ => true, 3,
    fun _ => some (.dict OrderedDict.empty), fun _ => none, none⟩

/-- The window of a write keeps a poll off and has run out at the next one, which is applied; a
second write falls after the application. -/
def settledPoll : List PollAction :=
  .writeInProgress "/a" 4 0 :: (List.replicate 5 (.advance 0 0 .failed) ++
    List.replicate 4 (.advance 10 0 .failed) ++
    [.advance 12 0 (.answered 0x45 [1]), .advance 12 0 .failed, .writeInProgress "/a" 4 13])

theorem settle_windows_respected_example :
    SettleRespected (Machine.run (PollScheduler.perform (onePathContext false)) settledPoll
      (.new (onePathContext false) (.new ()) 0)).log ∧
    (Machine.run (PollScheduler.perform (onePathContext false)) settledPoll
      (.new (onePathContext false) (.new ()) 0)).log = [.issued "/a" 10, .applied "/a" 12 4] := by
  constructor
  · apply settle_windows_respected
    decide +kernel
  · decide +kernel

/-- A write that falls between the GET and its answer. -/
theorem poll_overrides_write :
    ¬∀ (context : PollContext ℕ Unit) (cache : StateCache ℕ Unit) (now : ℚ)
      (actions : List PollAction), SettleRespected (Machine.run (PollScheduler.perform context)
        actions (.new context cache now)).log := by
  intro always
  have respected := always (onePathContext false) (.new ()) 0
    [.advance 0 0 .failed, .advance 0 0 .failed, .advance 0 0 .failed, .advance 0 0 .failed,
      .writeInProgress "/a" 4 1, .advance 2 0 (.answered 0x45 [1]), .advance 2 0 .failed]
    "/a" 2 5 (by decide +kernel)
  norm_num at respected

/-- A poll that times out, and a write that only extends the cooldown; the tier is due within the
cooldown, where it skips the resource, and after it. -/
def cooledPoll : List PollAction :=
  List.replicate 4 (.advance 0 0 .failed) ++ [.advance 2 0 .timedOut, .writeInProgress "/a" 4 30] ++
    List.replicate 6 (.advance 31 0 .failed) ++ List.replicate 5 (.advance 41 0 .failed)

theorem cooldowns_honoured_example :
    CooldownsHonoured (Machine.run (PollScheduler.perform (onePathContext false)) cooledPoll
      (.new (onePathContext false) (.new ()) 0)).log ∧
    (Machine.run (PollScheduler.perform (onePathContext false)) cooledPoll
      (.new (onePathContext false) (.new ()) 0)).log =
        [.issued "/a" 0, .timedOut "/a" 2 30, .issued "/a" 41] := by
  constructor
  · apply cooldowns_honoured
    decide +kernel
  · decide +kernel

/-- A sweep that times out is due again before its cooldown has run out. -/
theorem sweep_ignores_cooldown :
    ¬∀ (context : PollContext ℕ Unit) (cache : StateCache ℕ Unit) (now : ℚ)
      (actions : List PollAction), CooldownsHonoured (Machine.run (PollScheduler.perform context)
        actions (.new context cache now)).log := by
  intro always
  have honoured := always (onePathContext true) (.new ()) 0
    [.advance 0 0 .failed, .advance 0 0 .failed, .advance 0 0 .failed, .advance 2 0 .timedOut,
      .advance 3 0 .failed, .advance 3 0 .failed, .advance 3 0 .failed, .advance 3 0 .failed]
    [.issued "/a" 0, .timedOut "/a" 2 30] "/a" 3 [] (by decide +kernel) 2 30 (by decide)
  norm_num at honoured

end SmartThingsLocal
