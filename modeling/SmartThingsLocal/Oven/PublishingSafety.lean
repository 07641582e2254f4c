import SmartThingsLocal.Oven.CommandSafety
import SmartThingsLocal.Oven.StatePublishing

/-!
# When publishing raises nothing

A staged change is published without a `try` statement, so what `flatten`, the clock of a running
cycle, the reason why a program cannot start and `json.dumps` raise reaches the MQTT callback. The
condition is stated on the links, the descriptor's state and the staged program.
-/

namespace SmartThingsLocal

open Raising

namespace Oven

/-- An integer that can stand beside floating-point numbers. -/
def FloatFits (number : ℤ) : Prop := |(number : ℚ)| < Binary64.overflowBound

/-- The candidates of the clock can be formed, and what is left by the chosen one is a number of
which the hours and the time of the finish can be written. -/
structure ClockSafe (publishing : Publishing) (state : ProjectState) : Prop where
  progress : ∀ total ts pct, state.totalS = some total → total ≠ 0 →
    state.progressAnchor = some (ts, pct) → FloatFits total ∧ FloatFits (total * (100 - pct))
  remaining : ∀ ts secs, state.remainingAnchor = some (ts, secs) → FloatFits secs
  chosen : ∀ progress remaining candidate, progressCandidate state = .ok progress →
    remainingCandidate state = .ok remaining → finest (progress ++ remaining) = some candidate →
    ∃ left, candidate.finishEpoch.addRat (-publishing.now) = .finite left ∧
      FitsText ((secondsLeft state (Binary64.roundEven left) + 59) / 60 / 60) ∧
      Returns (publishing.isoformat (heldFinish state candidate.finishEpoch))

/-- The links can be read, the clock of an active cycle can be projected, the reason why the
program cannot start can be put into words, and the sensors are taken. -/
structure PublishSafe (python : Interpreter) (publishing : Publishing) (state : ProjectState)
    (program : Program) (snapshot : Snapshot) : Prop where
  links : LinksReadable python snapshot
  clock : IsActive (value snapshot.links "/operational/state/vs/0" "x.com.samsung.da.state") →
    ClockSafe publishing state
  reason : ∀ spec sensors reason, Commands.parseModeSpec python snapshot.links = .ok spec →
    Commands.flatten python snapshot = .ok sensors →
    programError program spec sensors = some reason → ReasonFits python reason
  taken : ∀ flat sensors, flattened python snapshot = .ok flat →
    project python publishing state program flat = .ok sensors →
    Returns (publishing.handOver sensors)

variable {python : Interpreter} {snapshot : Snapshot} {publishing : Publishing}
  {state : ProjectState} {program : Program} {flat : Flattened}

/-! ### The sensors -/

theorem map_bind {ε α β γ : Type} (computation : Except ε α) (next : α → Except ε β)
    (transform : β → γ) :
    (computation >>= next).map transform =
      computation >>= fun value => (next value).map transform := by
  cases computation <;> rfl

/-- A start reads two of the sensors. -/
theorem map_flattened :
    (flattened python snapshot).map Flattened.sensors = Commands.flatten python snapshot := by
  unfold flattened Commands.flatten Commands.sensorsOf
  simp only [map_bind]
  rfl

theorem returns_flattened_iff :
    Returns (flattened python snapshot) ↔ LinksReadable python snapshot := by
  rw [← Commands.returns_flatten_iff, ← map_flattened, returns_map_iff]

theorem flattened_eq_ok (returned : flattened python snapshot = .ok flat) :
    Commands.parseModeSpec python snapshot.links = .ok flat.spec ∧
      Commands.flatten python snapshot = .ok flat.sensors := by
  refine ⟨?_, by rw [← map_flattened, returned]; rfl⟩
  unfold flattened at returned
  simp only [Fallible.bind_eq_ok] at returned
  rcases returned with ⟨_, -, _, -, _, -, _, -, _, -, _, -, spec, parsed, _, -, _, -, same⟩
  cases same
  exact parsed

/-! ### The clock -/

theorem returns_asFloat_iff {number : ℤ} : Returns (asFloat number) ↔ FloatFits number := by
  rw [FloatFits, ← not_le, ← Binary64.ofRat_eq_infinite_iff]
  unfold asFloat
  rcases ofRat_cases (number : ℚ) with ⟨negative, rounded⟩ | ⟨rounded, finite⟩
  · simp [rounded, not_returns_error]
  · simp [finite, returns_ok]

theorem returns_progressCandidate_iff :
    Returns (progressCandidate state) ↔ ∀ total ts pct, state.totalS = some total → total ≠ 0 →
      state.progressAnchor = some (ts, pct) →
        FloatFits total ∧ FloatFits (total * (100 - pct)) := by
  unfold progressCandidate
  cases duration : state.totalS with
  | none => simp [returns_ok]
  | some total =>
      by_cases zero : total = 0
      · subst zero
        simp only [Option.filter, ne_eq, not_true_eq_false, decide_false, Bool.false_eq_true,
          if_false, returns_ok, true_iff]
        rintro _ _ _ ⟨⟩ nonzero
        exact absurd rfl nonzero
      · cases anchor : state.progressAnchor with
        | none => simp [zero, Option.filter, returns_ok]
        | some anchored =>
            simp only [zero, Option.filter, ne_eq, not_false_eq_true, decide_true, if_true]
            rw [returns_bind_iff_of_forall fun _ => returns_bind_iff_left fun _ =>
              returns_pure _]
            simp only [returns_asFloat_iff]
            constructor
            · rintro fits _ _ _ ⟨⟩ - ⟨⟩
              exact fits
            · intro fits
              exact fits _ _ _ rfl zero rfl

theorem returns_remainingCandidate_iff :
    Returns (remainingCandidate state) ↔
      ∀ ts secs, state.remainingAnchor = some (ts, secs) → FloatFits secs := by
  unfold remainingCandidate
  cases anchor : state.remainingAnchor with
  | none => simp [returns_ok]
  | some anchored =>
      dsimp only
      rw [returns_bind_iff_left fun _ => returns_pure _, returns_asFloat_iff]
      constructor
      · rintro fits _ _ ⟨⟩
        exact fits
      · intro fits
        exact fits _ _ rfl

/-- The clock of a candidate can be written, where there is one. -/
theorem returns_clockFields_iff {fields : Rep PyValue} {chosen : Option Candidate} :
    Returns (remainingOf state publishing.now chosen >>= clockFields publishing state fields) ↔
      ∀ candidate, chosen = some candidate →
        ∃ left, candidate.finishEpoch.addRat (-publishing.now) = .finite left ∧
          FitsText ((secondsLeft state (Binary64.roundEven left) + 59) / 60 / 60) ∧
          Returns (publishing.isoformat (heldFinish state candidate.finishEpoch)) := by
  cases chosen with
  | none =>
      refine iff_of_true ?_ nofun
      exact returns_bind_iff.mpr ⟨returns_ok _, fun _ same => Except.ok.inj same ▸ returns_ok _⟩
  | some candidate =>
      simp only [Option.some.injEq, forall_eq', remainingOf]
      cases difference : candidate.finishEpoch.addRat (-publishing.now) with
      | finite left =>
          have written : Returns (clockFields publishing state fields
              (some (secondsLeft state (Binary64.roundEven left), candidate))) ↔
              FitsText ((secondsLeft state (Binary64.roundEven left) + 59) / 60 / 60) ∧
              Returns (publishing.isoformat (heldFinish state candidate.finishEpoch)) := by
            unfold clockFields
            dsimp only
            rw [returns_bind_iff_of_forall fun _ => returns_bind_iff_left fun _ =>
              returns_pure _, Commands.returns_intStr_iff]
          simp only [Binary64.finite.injEq, exists_eq_left']
          exact written
      | infinite negative =>
          refine iff_of_false (not_returns_error _) ?_
          rintro ⟨left, ⟨⟩, -⟩
      | nan =>
          refine iff_of_false (not_returns_error _) ?_
          rintro ⟨left, ⟨⟩, -⟩

/-- The clock of an active cycle is projected without an exception exactly when it is safe. -/
theorem returns_projectClock_iff :
    Returns (projectClock publishing state flat) ↔
      (isText "active" flat.sensors.machineState = true → ClockSafe publishing state) := by
  unfold projectClock estimateRemaining
  rw [returns_ite_iff, and_iff_left fun _ => returns_ok _]
  refine imp_congr_right fun _ => ?_
  simp only [bind_assoc]
  rw [returns_bind_iff, returns_progressCandidate_iff]
  constructor
  · rintro ⟨fits, rest⟩
    have later (progress : List Candidate) (formed : progressCandidate state = .ok progress) :=
      returns_bind_iff.mp (rest progress formed)
    rcases returns_progressCandidate_iff.mpr fits with ⟨progress, formed⟩
    refine ⟨fits, returns_remainingCandidate_iff.mp (later progress formed).1, ?_⟩
    intro progress remaining candidate progressFormed remainingFormed chosen
    exact returns_clockFields_iff.mp ((later progress progressFormed).2 remaining remainingFormed)
      candidate chosen
  · intro safe
    refine ⟨safe.progress, fun progress progressFormed => returns_bind_iff.mpr
      ⟨returns_remainingCandidate_iff.mpr safe.remaining, fun remaining remainingFormed => ?_⟩⟩
    exact returns_clockFields_iff.mpr fun candidate chosen =>
      safe.chosen progress remaining candidate progressFormed remainingFormed chosen

/-! ### The program and the rest -/

theorem returns_projectProgram_iff {fields : Rep PyValue} :
    Returns (projectProgram python program flat fields) ↔
      ∀ reason, programError program flat.spec flat.sensors = some reason →
        ReasonFits python reason := by
  unfold projectProgram
  dsimp only
  rw [returns_bind_iff_left fun _ => returns_pure _]
  exact Commands.returns_programError_iff

theorem returns_project_iff :
    Returns (project python publishing state program flat) ↔
      (isText "active" flat.sensors.machineState = true → ClockSafe publishing state) ∧
      ∀ reason, programError program flat.spec flat.sensors = some reason →
        ReasonFits python reason := by
  unfold project
  rw [returns_bind_iff_of_forall fun _ => returns_projectProgram_iff, returns_projectClock_iff]

/-- The machine state among the sensors is that of the links. -/
theorem isActive_iff (read : Commands.flatten python snapshot = .ok flat.sensors) :
    IsActive (value snapshot.links "/operational/state/vs/0" "x.com.samsung.da.state") ↔
      isText "active" flat.sensors.machineState = true := by
  rcases Fallible.bind_eq_ok.mp read with ⟨ocf, machine, sensed⟩
  have same : flat.sensors.machineState = ocf := by
    unfold Commands.sensorsOf at sensed
    simp only [Fallible.bind_eq_ok] at sensed
    rcases sensed with ⟨_, -, _, -, _, -, _, -, _, -, _, -, _, -, _, -, sensed⟩
    rw [← Except.ok.inj sensed]
  rw [same]
  constructor
  · rintro ⟨other, own, active⟩
    rw [machine] at own
    cases own
    exact active
  · intro active
    exact ⟨ocf, machine, active⟩

/-- The state is published without an exception exactly when that is safe. -/
theorem returns_publishState_iff :
    Returns (publishState python publishing state program snapshot) ↔
      PublishSafe python publishing state program snapshot := by
  unfold publishState
  simp only [returns_bind_iff, returns_flattened_iff, returns_project_iff]
  constructor
  · rintro ⟨readable, rest⟩
    rcases returns_flattened_iff.mpr readable with ⟨flat, returned⟩
    have read := flattened_eq_ok returned
    rcases rest flat returned with ⟨⟨clock, reason⟩, taken⟩
    refine ⟨readable, fun active => clock ((isActive_iff read.2).mp active), ?_, ?_⟩
    · intro spec sensors own parsed sensed refused
      cases read.1.symm.trans parsed
      cases read.2.symm.trans sensed
      exact reason own refused
    · intro own sensors ownReturned projected
      cases returned.symm.trans ownReturned
      exact (taken sensors projected).1
  · intro safe
    refine ⟨safe.links, fun flat returned => ⟨⟨?_, ?_⟩, fun sensors projected => ⟨?_, ?_⟩⟩⟩
    · intro active
      exact safe.clock ((isActive_iff (flattened_eq_ok returned).2).mpr active)
    · intro reason refused
      exact safe.reason _ _ reason (flattened_eq_ok returned).1 (flattened_eq_ok returned).2 refused
    · exact safe.taken flat sensors returned projected
    · exact fun _ _ => returns_pure _

end Oven

end SmartThingsLocal
