import SmartThingsLocal.Samples.FinishTime
import SmartThingsLocal.Foundation.Binary64

/-!
# The finish time of a cook

`on_observation`, `estimate_remaining` and `project` of the oven descriptor, as far as the finish
time goes. The oven counts down in minutes and in hundredths of the cook, and the descriptor takes
the finer of the two.
-/

namespace SmartThingsLocal

open Oven

namespace OvenFinish

/-- `on_observation` of the operational state; nothing has changed where a number raises, and an
unhashable state raises after the anchors have moved. -/
def onObservation (tables : TextTables) (state : FinishState) (now : ℚ) (href : String)
    (rep : Rep PyValue) : FinishState :=
  if href ≠ operationalHref then state
  else
    let total := hmsToSeconds tables (repValue rep "x.com.samsung.da.operationTime")
    let rem := hmsToSeconds tables (repValue rep "x.com.samsung.da.remainingTime")
    match intOf tables (repValue rep "x.com.samsung.da.progressPercentage") with
    | none => state
    | some prog =>
        match isActiveState samsungStateToOcf (repValue rep "x.com.samsung.da.state") with
        | some false => { total }
        | _ =>
            { state with
              total
              remaining := state.remaining.observe now rem
              progress := state.progress.observe now prog }

structure Candidate where
  source : String
  granule : ℚ
  finish : ℚ

/-- The two fields as candidates, the progress first. -/
def candidates (state : FinishState) : List Candidate :=
  (match state.total, state.progress.anchor with
    | some total, some (since, pct) =>
        if total ≠ 0 then [⟨"progress", total / 100, since + total * (100 - pct) / 100⟩] else []
    | _, _ => []) ++
  (match state.remaining.anchor with
    | some (since, secs) => [⟨"remaining", 60, since + secs⟩]
    | none => [])

/-- `estimate_remaining`: the seconds that remain, and the candidate that they are read from. -/
def estimateRemaining (state : FinishState) (now : ℚ) : Option (ℤ × Candidate) :=
  (List.argmin Candidate.granule (candidates state)).map fun candidate =>
    let remaining := max 0 (Binary64.roundEven (candidate.finish - now))
    (match state.total with
      | some total => if total ≠ 0 then min remaining total else remaining
      | none => remaining, candidate)

/-- `project`, as far as the finish time goes. -/
def project (isoformat : ℚ → String) (state : FinishState) (now : ℚ) (sensors : SensorValues) :
    FinishState × SensorValues :=
  if ¬RunsCycle sensors then (state, sensors)
  else
    match estimateRemaining state now with
    | none => (state, sensors)
    | some (remaining, candidate) =>
        let held := Deadband.settle finishDeadbandS state.finishPublished candidate.finish
        ({ state with finishPublished := some held },
          publishFinish isoformat held remaining (some candidate.source) sensors)

def descriptor (tables : TextTables) (isoformat : ℚ → String) : FinishDescriptor where
  onObservation := onObservation tables
  project := project isoformat

/-- A cook of so many seconds that finishes at a time, as the oven reports it at another. -/
structure Reports (tables : TextTables) (total : ℤ) (finish now : ℚ) (rep : Rep PyValue) :
    Prop where
  operation : hmsToSeconds tables (repValue rep "x.com.samsung.da.operationTime") = some total
  remaining : hmsToSeconds tables (repValue rep "x.com.samsung.da.remainingTime") =
    some (60 * Countdown.left finish 60 now)
  progress : intOf tables (repValue rep "x.com.samsung.da.progressPercentage") =
    some (some (100 - Countdown.left finish (total / 100 : ℚ) now))
  active : isActiveState samsungStateToOcf (repValue rep "x.com.samsung.da.state") = some true

/-- The finish of the finer candidate. -/
def estimate (state : FinishState) : Option ℚ :=
  (List.argmin Candidate.granule (candidates state)).map Candidate.finish

variable {tables : TextTables} {isoformat : ℚ → String}

theorem publishes : (descriptor tables isoformat).Publishes isoformat estimate where
  publishes := by
    intro state now sensors finish runs estimated
    simp only [estimate, Option.map_eq_some_iff] at estimated
    rcases estimated with ⟨candidate, chosen, rfl⟩
    simp [descriptor, project, estimateRemaining, chosen, runs, publishFinish_finishAt]
  otherwise := by
    intro state now sensors either
    by_cases runs : RunsCycle sensors
    · have unestimated : List.argmin Candidate.granule (candidates state) = none := by
        simpa [estimate] using either.resolve_left (not_not.mpr runs)
      simp [descriptor, project, estimateRemaining, unestimated]
    · simp [descriptor, project, runs]

/-- The granule of the finer field of a cook. -/
def granule (total : ℤ) : ℚ := min (total / 100) 60

/-- The anchor of the finer field. -/
def select (total : ℤ) (state : FinishState) : Anchor :=
  if (total / 100 : ℚ) ≤ 60 then state.progress else state.remaining

/-- The seconds that a reading of the finer field leaves. -/
def secondsLeft (total reading : ℤ) : ℚ :=
  if (total / 100 : ℚ) ≤ 60 then total * (100 - reading) / 100 else reading

theorem secondsLeft_injective {total : ℤ} (positive : 0 < total) :
    Function.Injective (secondsLeft total) := by
  intro reading other same
  unfold secondsLeft at same
  split_ifs at same with finer
  · have nonzero : (total : ℚ) ≠ 0 := Int.cast_ne_zero.mpr positive.ne'
    field_simp at same
    exact Int.cast_injective (sub_right_injective same)
  · exact_mod_cast same

/-- What an observation of a cook leaves. -/
theorem onObservation_of_reports {total : ℤ} {finish now : ℚ} {rep : Rep PyValue}
    (reports : Reports tables total finish now rep) (state : FinishState) :
    onObservation tables state now operationalHref rep = { state with
      total := some total
      remaining := state.remaining.observe now (some (60 * Countdown.left finish 60 now))
      progress := state.progress.observe now
        (some (100 - Countdown.left finish (total / 100 : ℚ) now)) } := by
  simp [onObservation, reports.operation, reports.remaining, reports.progress, reports.active]

/-- The candidate that is taken is the finer one. -/
theorem estimate_of_anchors {state : FinishState} {total : ℤ} (positive : 0 < total)
    (cook : state.total = some total) {since reading : ℚ × ℤ}
    (progress : state.progress.anchor = some since)
    (remaining : state.remaining.anchor = some reading) :
    estimate state = (select total state).finish (secondsLeft total) := by
  have both : candidates state =
      [⟨"progress", total / 100, since.1 + total * (100 - since.2) / 100⟩,
        ⟨"remaining", 60, reading.1 + reading.2⟩] := by
    simp [candidates, cook, progress, remaining, positive.ne']
  rw [estimate, both, select]
  by_cases finer : (total / 100 : ℚ) ≤ 60
  · rw [if_pos finer, Anchor.finish, progress]
    simp [List.argmin, List.argAux, secondsLeft, finer, not_lt.mpr finer]
  · rw [if_neg finer, Anchor.finish, remaining]
    simp [List.argmin, List.argAux, secondsLeft, finer, not_le.mp finer]

theorem follows (tables : TextTables) (isoformat : ℚ → String) {total : ℤ} (positive : 0 < total)
    (finish : ℚ) :
    (descriptor tables isoformat).Follows (Reports tables total finish) estimate (select total)
      (secondsLeft total) finish (granule total) where
  positive := by
    have cook : (0 : ℚ) < total := Int.cast_pos.mpr positive
    exact lt_min (by linarith) (by norm_num)
  injective := secondsLeft_injective positive
  reads := by
    intro state now rep reports
    change ∃ value, _ ∧ select total (onObservation tables state now operationalHref rep) = _
    rw [onObservation_of_reports reports]
    unfold select secondsLeft granule
    by_cases finer : (total / 100 : ℚ) ≤ 60
    · refine ⟨100 - Countdown.left finish (total / 100 : ℚ) now, ?_, ?_⟩
      · rw [if_pos finer, min_eq_left finer]
        push_cast
        ring
      · rw [if_pos finer, if_pos finer]
    · refine ⟨60 * Countdown.left finish 60 now, ?_, ?_⟩
      · rw [if_neg finer, min_eq_right (le_of_not_ge finer)]
        push_cast
        ring
      · rw [if_neg finer, if_neg finer]
  estimates := by
    intro state now rep reports
    rcases state.progress.observe_some now (100 - Countdown.left finish (total / 100 : ℚ) now) with
      ⟨since, pct, progress⟩
    rcases state.remaining.observe_some now (60 * Countdown.left finish 60 now) with
      ⟨changed, secs, remaining⟩
    change estimate (onObservation tables state now operationalHref rep) =
      (select total (onObservation tables state now operationalHref rep)).finish _
    rw [onObservation_of_reports reports]
    exact estimate_of_anchors positive rfl progress remaining
  holds := by
    intro state now rep reports
    change (onObservation tables state now operationalHref rep).finishPublished = _
    rw [onObservation_of_reports reports]
  ignores := by
    intro state now href rep other
    simp [descriptor, onObservation, other]
  unheld := fun _ _ => ⟨rfl, rfl⟩

/-- A representation of an oven that does not cook; its progress can be read. -/
structure IsOver (tables : TextTables) (rep : Rep PyValue) : Prop where
  readable : intOf tables (repValue rep "x.com.samsung.da.progressPercentage") ≠ none
  idle : isActiveState samsungStateToOcf (repValue rep "x.com.samsung.da.state") = some false

/-- What is kept of a cook is dropped when it is over. -/
theorem unread_of_over {history : List FinishEvent} {now : ℚ} {rep : Rep PyValue}
    (isOver : IsOver tables rep) :
    ∃ total, Machine.run (descriptor tables isoformat).perform
      (history ++ [.observed now operationalHref rep]) {} = { total } := by
  refine ⟨hmsToSeconds tables (repValue rep "x.com.samsung.da.operationTime"), ?_⟩
  rw [Machine.run_append]
  change onObservation tables _ now operationalHref rep = _
  rcases readable : intOf tables (repValue rep "x.com.samsung.da.progressPercentage") with
    _ | prog
  · exact absurd readable isOver.readable
  · simp [onObservation, readable, isOver.idle]

end OvenFinish

/-- Whatever came before it, a cook that is polled closely enough is given two finish times at most,
the first within a granule of the finer field, and the second as close to the truth as the polls
are. -/
theorem oven_finish_settles (tables : TextTables) (isoformat : ℚ → String) {total : ℤ}
    {finish gap : ℚ} (positive : 0 < total) (gap_le : gap ≤ finishDeadbandS)
    {history events : List FinishEvent}
    (ended : history = [] ∨ ∃ earlier now rep,
      history = earlier ++ [.observed now operationalHref rep] ∧ OvenFinish.IsOver tables rep)
    (honest : Honest (OvenFinish.Reports tables total finish) gap none events) :
    (OvenFinish.descriptor tables isoformat).Settles isoformat finish (min (total / 100) 60) gap
      events (Machine.run (OvenFinish.descriptor tables isoformat).perform history {}) := by
  have unread : ∃ total, Machine.run (OvenFinish.descriptor tables isoformat).perform history {} =
      { total } := by
    rcases ended with rfl | ⟨earlier, now, rep, rfl, isOver⟩
    · exact ⟨none, rfl⟩
    · exact OvenFinish.unread_of_over isOver
  rcases unread with ⟨before, unread⟩
  rw [unread]
  apply FinishDescriptor.settles_of_follows OvenFinish.publishes
    (OvenFinish.follows tables isoformat positive finish) gap_le honest
  · unfold OvenFinish.select
    split_ifs <;> rfl
  · cases before <;> rfl
  · rfl

/-- A cook of ten minutes that is first seen after a hundred seconds. -/
theorem oven_finish_settles_example :
    let running (remaining : String) (progress : ℤ) : Rep PyValue :=
      (((OrderedDict.empty).set "x.com.samsung.da.state" (.str "Run")).set
        "x.com.samsung.da.operationTime" (.str "00:10:00")).set
        "x.com.samsung.da.remainingTime" (.str remaining) |>.set
        "x.com.samsung.da.progressPercentage" (.int progress)
    let active : SensorValues := (OrderedDict.empty).set "machine_state" (.str "active")
    (OvenFinish.descriptor .ascii (fun _ => "")).Settles (fun _ => "") 600
      (min ((600 : ℤ) / 100) 60) 12
      [.observed 100 operationalHref (running "00:09:00" 16), .projected 101 active,
        .observed 112 operationalHref (running "00:09:00" 18), .projected 113 active] {} := by
  intro running active
  apply oven_finish_settles .ascii (fun _ => "") (by norm_num) (by norm_num [finishDeadbandS])
    (.inl rfl)
  have first : Countdown.left (600 : ℚ) 60 100 = 9 := by norm_num [Countdown.left]
  have second : Countdown.left (600 : ℚ) 60 112 = 9 := by norm_num [Countdown.left]
  have early : Countdown.left (600 : ℚ) ((600 : ℤ) / 100) 100 = 84 := by norm_num [Countdown.left]
  have late : Countdown.left (600 : ℚ) ((600 : ℤ) / 100) 112 = 82 := by norm_num [Countdown.left]
  refine ⟨⟨?_, ?_, ?_, rfl⟩, by simp, rfl, ⟨?_, ?_, ?_, rfl⟩, ?_, rfl, trivial⟩
  · decide
  · rw [first]
    decide
  · rw [early]
    rfl
  · decide
  · rw [second]
    decide
  · rw [late]
    rfl
  · norm_num

end SmartThingsLocal
