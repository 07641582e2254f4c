import SmartThingsLocal.Samples.FinishTime

/-!
# The finish time of a dryer cycle

`on_observation` and `project` of the dryer descriptor. The dryer counts whole minutes down.
-/

namespace SmartThingsLocal

open Oven

namespace Dryer

def samsungStateToOcf : List (String × String) :=
  [("Ready", "idle"), ("Run", "active"), ("Running", "active"), ("Pause", "pause"),
    ("Paused", "pause"), ("End", "idle")]

/-- `on_observation`; an unhashable state raises after the anchor has moved. -/
def onObservation (tables : TextTables) (state : FinishState) (now : ℚ) (href : String)
    (rep : Rep PyValue) : FinishState :=
  if href ≠ operationalHref then state
  else
    let rem := hmsToSeconds tables (repValue rep "x.com.samsung.da.remainingTime")
    let remaining := state.remaining.observe now rem
    match isActiveState samsungStateToOcf (repValue rep "x.com.samsung.da.state") with
    | some false => { state with remaining := .unset, finishPublished := none }
    | _ => { state with remaining }

/-- `project`. -/
def project (isoformat : ℚ → String) (state : FinishState) (now : ℚ) (sensors : SensorValues) :
    FinishState × SensorValues :=
  match state.remaining.anchor with
  | none => (state, sensors)
  | some (since, total) =>
      if ¬RunsCycle sensors then (state, sensors)
      else
        let left : ℚ := total - (now - since)
        let remaining := max 0 (left.num.tdiv left.den)
        let held := Deadband.settle finishDeadbandS state.finishPublished (since + total)
        ({ state with finishPublished := some held },
          publishFinish isoformat held remaining none sensors)

def descriptor (tables : TextTables) (isoformat : ℚ → String) : FinishDescriptor where
  onObservation := onObservation tables
  project := project isoformat

/-- A cycle that finishes at a time, as the dryer reports it at another. -/
structure Reports (tables : TextTables) (finish now : ℚ) (rep : Rep PyValue) : Prop where
  remaining : hmsToSeconds tables (repValue rep "x.com.samsung.da.remainingTime") =
    some (60 * Countdown.left finish 60 now)
  active : isActiveState samsungStateToOcf (repValue rep "x.com.samsung.da.state") = some true

/-- The finish that the anchor puts. -/
def estimate (state : FinishState) : Option ℚ := state.remaining.finish fun reading => reading

variable {tables : TextTables} {isoformat : ℚ → String}

theorem publishes : (descriptor tables isoformat).Publishes isoformat estimate where
  publishes := by
    intro state now sensors finish runs estimated
    simp only [estimate, Anchor.finish, Option.map_eq_some_iff] at estimated
    rcases estimated with ⟨⟨since, total⟩, anchored, rfl⟩
    simp [descriptor, project, anchored, runs, publishFinish_finishAt]
  otherwise := by
    intro state now sensors either
    rcases anchored : state.remaining.anchor with _ | ⟨since, total⟩
    · simp [descriptor, project, anchored]
    · have idle : ¬RunsCycle sensors := by
        rcases either with idle | unestimated
        · exact idle
        · simp [estimate, Anchor.finish, anchored] at unestimated
      simp [descriptor, project, anchored, idle]

theorem follows (tables : TextTables) (isoformat : ℚ → String) (finish : ℚ) :
    (descriptor tables isoformat).Follows (Reports tables finish) estimate
      FinishState.remaining (fun reading => reading) finish 60 where
  positive := by norm_num
  injective := Int.cast_injective
  reads := by
    intro state now rep reports
    refine ⟨60 * Countdown.left finish 60 now, by push_cast; ring, ?_⟩
    simp [descriptor, onObservation, reports.active, reports.remaining]
  estimates := fun _ _ _ _ => rfl
  holds := by
    intro state now rep reports
    simp [descriptor, onObservation, reports.active]
  ignores := by
    intro state now href rep other
    simp [descriptor, onObservation, other]
  unheld := fun _ _ => ⟨rfl, rfl⟩

/-- A representation of a dryer that does not run. -/
def IsOver (rep : Rep PyValue) : Prop :=
  isActiveState samsungStateToOcf (repValue rep "x.com.samsung.da.state") = some false

/-- What is kept of a cycle is dropped when it is over. -/
theorem unread_of_over {history : List FinishEvent} {now : ℚ} {rep : Rep PyValue}
    (isOver : IsOver rep) :
    let state := Machine.run (descriptor tables isoformat).perform
      (history ++ [.observed now operationalHref rep]) {}
    state.remaining = {} ∧ state.finishPublished = none := by
  intro state
  have last : state = onObservation tables
      (Machine.run (descriptor tables isoformat).perform history {}) now operationalHref rep :=
    Machine.run_append history _ _
  rw [last, onObservation, if_neg (by simp)]
  dsimp only
  rw [show isActiveState _ _ = _ from isOver]
  exact ⟨rfl, rfl⟩

end Dryer

/-- Whatever came before it, a cycle that is polled closely enough is given two finish times at
most, the first within a minute of the truth, and the second as close to it as the polls are. -/
theorem dryer_finish_settles (tables : TextTables) (isoformat : ℚ → String) {finish gap : ℚ}
    (gap_le : gap ≤ finishDeadbandS) {history events : List FinishEvent}
    (ended : history = [] ∨ ∃ earlier now rep,
      history = earlier ++ [.observed now operationalHref rep] ∧ Dryer.IsOver rep)
    (honest : Honest (Dryer.Reports tables finish) gap none events) :
    (Dryer.descriptor tables isoformat).Settles isoformat finish 60 gap events
      (Machine.run (Dryer.descriptor tables isoformat).perform history {}) := by
  have unread : (Machine.run (Dryer.descriptor tables isoformat).perform history {}).remaining =
      {} ∧ (Machine.run (Dryer.descriptor tables isoformat).perform history
        {}).finishPublished = none := by
    rcases ended with rfl | ⟨earlier, now, rep, rfl, isOver⟩
    · exact ⟨rfl, rfl⟩
    · exact Dryer.unread_of_over isOver
  apply FinishDescriptor.settles_of_follows Dryer.publishes
    (Dryer.follows tables isoformat finish) gap_le honest
  · rw [unread.1]
  · rw [Dryer.estimate, unread.1]
    rfl
  · exact unread.2

/-- A cycle that is first seen between two steps of the countdown. -/
theorem dryer_finish_settles_example :
    let running (remaining : String) : Rep PyValue :=
      ((OrderedDict.empty).set "x.com.samsung.da.state" (.str "Run")).set
        "x.com.samsung.da.remainingTime" (.str remaining)
    let active : SensorValues := (OrderedDict.empty).set "machine_state" (.str "active")
    (Dryer.descriptor .ascii (fun _ => "")).Settles (fun _ => "") 1000 60 13
      [.observed 28 operationalHref (running "00:17:00"), .projected 30 active,
        .observed 41 operationalHref (running "00:16:00"), .projected 42 active] {} := by
  intro running active
  apply dryer_finish_settles .ascii (fun _ => "") (by norm_num [finishDeadbandS]) (.inl rfl)
  have first : Countdown.left (1000 : ℚ) 60 28 = 17 := by norm_num [Countdown.left]
  have second : Countdown.left (1000 : ℚ) 60 41 = 16 := by norm_num [Countdown.left]
  refine ⟨⟨?_, rfl⟩, by simp, rfl, ⟨?_, rfl⟩, ?_, rfl, trivial⟩
  · rw [first]
    decide
  · rw [second]
    decide
  · norm_num

end SmartThingsLocal
