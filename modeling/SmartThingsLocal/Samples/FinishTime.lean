import SmartThingsLocal.Foundation.Deadband
import SmartThingsLocal.Foundation.Machine
import SmartThingsLocal.Foundation.SampledCountdown
import SmartThingsLocal.Oven.Program

/-!
# The finish time of a cycle

The descriptors of the oven and of the dryer anchor the remaining time where it changes, put the
finish of the cycle at the anchor and what was left there, and hold what they publish within a
deadband. The appliance counts down in granules and is polled; this file says what a descriptor
that follows such a countdown publishes.
-/

namespace SmartThingsLocal

open Oven

/-- `FINISH_DEADBAND_S`. -/
def finishDeadbandS : ℚ := 15

def operationalHref : String := "/operational/state/vs/0"

/-- The last reading of a field, and the reading that it last changed to with the time. -/
structure Anchor where
  last : Option ℤ := none
  anchor : Option (ℚ × ℤ) := none
  anchored : last.isSome → anchor.isSome := by simp
  deriving DecidableEq

/-- Before the first reading. -/
def Anchor.unset : Anchor := {}

/-- The keys of `descriptor_state` that the finish time is made of. -/
structure FinishState where
  total : Option ℤ := none
  remaining : Anchor := .unset
  progress : Anchor := .unset
  finishPublished : Option ℚ := none
  deriving DecidableEq

abbrev SensorValues : Type := OrderedDict String PyValue

/-- `on_observation` and `project` of a descriptor, at a time. -/
structure FinishDescriptor where
  onObservation : FinishState → ℚ → String → Rep PyValue → FinishState
  project : FinishState → ℚ → SensorValues → FinishState × SensorValues

namespace Anchor

/-- The anchor moves only where the reading changes. -/
def observe (anchor : Anchor) (now : ℚ) (reading : Option ℤ) : Anchor :=
  if reading = anchor.last then anchor
  else
    { last := reading
      anchor := (reading.map fun value => (now, value)).or anchor.anchor
      anchored := by cases reading <;> simp }

/-- The finish that an anchor puts, by the seconds that a reading leaves. -/
def finish (secondsLeft : ℤ → ℚ) (anchor : Anchor) : Option ℚ :=
  anchor.anchor.map fun (since, reading) => since + secondsLeft reading

end Anchor

/-- `_hms_to_seconds`. -/
def hmsToSeconds (tables : TextTables) (text : PyValue) : Option ℤ :=
  (hmsParts tables text).map fun (h, m, s) => h * 3600 + m * 60 + s

/-- Whether an operational state is `active`; there is no answer for an unhashable value. -/
def isActiveState (samsungStateToOcf : List (String × String)) : PyValue → Option Bool
  | .str state => some ((samsungStateToOcf.lookup state).getD state = "active")
  | .list _ | .dict _ => none
  | _ => some false

/-- Set whole minutes that are left, where they are read from, and the finish time as it is held. -/
def publishFinish (isoformat : ℚ → String) (held : ℚ) (remaining : ℤ) (source : Option String)
    (sensors : SensorValues) : SensorValues :=
  let mins := (remaining + 59) / 60
  let text := decimalText (mins / 60) ++ ':' :: (paddedText (mins % 60) ++ [':', '0', '0'])
  let sensors := (sensors.set "completion_time" (.str (String.ofList text))).set
    "completion_minutes" (.int mins)
  let sensors :=
    match source with
    | none => sensors
    | some source => sensors.set "clock_source" (.str source)
  sensors.set "finish_at" (.str (isoformat held))

theorem publishFinish_finishAt (isoformat : ℚ → String) (held : ℚ) (remaining : ℤ)
    (source : Option String) (sensors : SensorValues) :
    (publishFinish isoformat held remaining source sensors).get? "finish_at" =
      some (.str (isoformat held)) :=
  (OrderedDict.get?_set _ _ _ _).trans (if_pos rfl)

/-- The value of a key of a representation, `None` where there is none. -/
def repValue (rep : Rep PyValue) (key : String) : PyValue := (rep.get? key).getD .none

/-! ### Runs -/

/-- What happens to a descriptor: a representation is observed, or a state is projected. -/
inductive FinishEvent
  | observed (now : ℚ) (href : String) (rep : Rep PyValue)
  | projected (now : ℚ) (sensors : SensorValues)

/-- A state of an appliance that runs a cycle. -/
def RunsCycle (sensors : SensorValues) : Prop :=
  isText "active" ((sensors.get? "machine_state").getD .none) = true

instance (sensors : SensorValues) : Decidable (RunsCycle sensors) :=
  inferInstanceAs (Decidable (_ = true))

namespace FinishDescriptor

variable (descriptor : FinishDescriptor)

def perform (event : FinishEvent) (state : FinishState) : FinishState :=
  match event with
  | .observed now href rep => descriptor.onObservation state now href rep
  | .projected now sensors => (descriptor.project state now sensors).1

/-- The finish time of a state that is published. -/
def published (event : FinishEvent) (state : FinishState) : Option PyValue :=
  match event with
  | .observed _ _ _ => none
  | .projected now sensors => (descriptor.project state now sensors).2.get? "finish_at"

/-- The finish times that a run publishes. -/
def finishes : List FinishEvent → FinishState → List PyValue
  | [], _ => []
  | event :: events, state =>
      (descriptor.published event state).toList ++
        finishes events (descriptor.perform event state)

/-- The estimates that a run publishes the finish time of. -/
def estimates (estimate : FinishState → Option ℚ) : List FinishEvent → FinishState → List ℚ
  | [], _ => []
  | .observed now href rep :: events, state =>
      estimates estimate events (descriptor.onObservation state now href rep)
  | .projected now sensors :: events, state =>
      (if RunsCycle sensors then (estimate state).toList else []) ++
        estimates estimate events (descriptor.project state now sensors).1

end FinishDescriptor

/-- A run in which the operational state is observed as an appliance would have it, in order and
at most so far apart; the observation before the run is given. -/
def Honest (reports : ℚ → Rep PyValue → Prop) (gap : ℚ) : Option ℚ → List FinishEvent → Prop
  | _, [] => True
  | earlier, .projected _ sensors :: events =>
      sensors.get? "finish_at" = none ∧ Honest reports gap earlier events
  | earlier, .observed now href rep :: events =>
      if href = operationalHref then
        reports now rep ∧ (∀ before ∈ earlier, before ≤ now ∧ now ≤ before + gap) ∧
          Honest reports gap (some now) events
      else Honest reports gap earlier events

/-- A descriptor that publishes an estimate within the deadband, and keeps what it has read. -/
structure FinishDescriptor.Publishes (descriptor : FinishDescriptor) (isoformat : ℚ → String)
    (estimate : FinishState → Option ℚ) : Prop where
  publishes : ∀ (state : FinishState) (now : ℚ) {sensors finish},
    RunsCycle sensors → estimate state = some finish →
    (descriptor.project state now sensors).1 = { state with
      finishPublished := some (Deadband.settle finishDeadbandS state.finishPublished finish) } ∧
    (descriptor.project state now sensors).2.get? "finish_at" =
      some (.str (isoformat (Deadband.settle finishDeadbandS state.finishPublished finish)))
  otherwise : ∀ (state : FinishState) (now : ℚ) {sensors},
    ¬RunsCycle sensors ∨ estimate state = none →
    (descriptor.project state now sensors).1 = state ∧
      (descriptor.project state now sensors).2.get? "finish_at" = sensors.get? "finish_at"

/-- A descriptor whose estimate is that of an anchor, which reads a countdown. -/
structure FinishDescriptor.Follows (descriptor : FinishDescriptor)
    (reports : ℚ → Rep PyValue → Prop) (estimate : FinishState → Option ℚ)
    (select : FinishState → Anchor) (secondsLeft : ℤ → ℚ) (finish granule : ℚ) : Prop where
  positive : 0 < granule
  injective : Function.Injective secondsLeft
  reads : ∀ (state : FinishState) {now rep}, reports now rep →
    ∃ value, secondsLeft value = granule * Countdown.left finish granule now ∧
      select (descriptor.onObservation state now operationalHref rep) =
        (select state).observe now (some value)
  estimates : ∀ (state : FinishState) {now rep}, reports now rep →
    estimate (descriptor.onObservation state now operationalHref rep) =
      (select (descriptor.onObservation state now operationalHref rep)).finish secondsLeft
  holds : ∀ {state now rep}, reports now rep →
    (descriptor.onObservation state now operationalHref rep).finishPublished =
      state.finishPublished
  ignores : ∀ {state now href rep}, href ≠ operationalHref →
    descriptor.onObservation state now href rep = state
  unheld : ∀ (state : FinishState) (held : Option ℚ),
    estimate { state with finishPublished := held } = estimate state ∧
      select { state with finishPublished := held } = select state

/-! ### Anchors of a countdown -/

namespace Anchor

/-- A reading leaves an anchor. -/
theorem observe_some (anchor : Anchor) (now : ℚ) (value : ℤ) :
    ∃ since reading, (anchor.observe now (some value)).anchor = some (since, reading) := by
  have last : (anchor.observe now (some value)).last = some value := by
    rw [observe]
    split_ifs with same
    · exact same.symm
    · rfl
  have present := (anchor.observe now (some value)).anchored (by rw [last]; rfl)
  rcases Option.isSome_iff_exists.mp present with ⟨⟨since, reading⟩, anchored⟩
  exact ⟨since, reading, anchored⟩

variable {secondsLeft : ℤ → ℚ} {finish granule gap earlier now : ℚ} {anchor : Anchor}

/-- An anchor that has followed a countdown up to a time; once the reading has changed, it is as
close as the readings are. -/
def Tracks (secondsLeft : ℤ → ℚ) (finish granule error earlier : ℚ) (anchor : Anchor) : Prop :=
  ∃ reading since, anchor.last = some reading ∧ anchor.anchor = some (since, reading) ∧
    secondsLeft reading = granule * Countdown.left finish granule earlier ∧
    finish ≤ since + secondsLeft reading ∧ since + secondsLeft reading < finish + error

theorem tracks_first {value : ℤ} (positive : 0 < granule) (unread : anchor.last = none)
    (reads : secondsLeft value = granule * Countdown.left finish granule now) :
    (anchor.observe now (some value)).Tracks secondsLeft finish granule granule now := by
  refine ⟨value, now, ?_, ?_, reads, ?_, ?_⟩
  · simp [observe, unread]
  · simp [observe, unread]
  · rw [reads]
    exact Countdown.finish_le_estimate positive
  · rw [reads]
    exact Countdown.estimate_lt positive

/-- The next reading of the countdown leaves the anchor, or moves it to where it is accurate. -/
theorem Tracks.observe {error : ℚ} (tracks : anchor.Tracks secondsLeft finish granule error earlier)
    (positive : 0 < granule) (injective : Function.Injective secondsLeft) {value : ℤ}
    (reads : secondsLeft value = granule * Countdown.left finish granule now)
    (order : earlier ≤ now) (near : now ≤ earlier + gap) :
    (anchor.observe now (some value) = anchor ∧
      Countdown.left finish granule now = Countdown.left finish granule earlier ∧
      anchor.Tracks secondsLeft finish granule error now) ∨
      (anchor.observe now (some value)).Tracks secondsLeft finish granule gap now := by
  rcases tracks with ⟨reading, since, last, anchored, tracked, lower, upper⟩
  by_cases same : value = reading
  · left
    subst same
    have unchanged : Countdown.left finish granule now = Countdown.left finish granule earlier :=
      Int.cast_injective (mul_left_cancel₀ positive.ne' (reads.symm.trans tracked))
    exact ⟨by simp [Anchor.observe, last], unchanged, value, since, last, anchored, reads, lower,
      upper⟩
  · right
    have stepped : Countdown.left finish granule now ≠ Countdown.left finish granule earlier := by
      intro unchanged
      rw [unchanged, ← tracked] at reads
      exact same (injective reads)
    have accurate := Countdown.estimate_lt_of_step positive order stepped
    unfold Countdown.estimate at accurate
    refine ⟨value, now, ?_, ?_, reads, ?_, ?_⟩
    · simp [Anchor.observe, last, same]
    · simp [Anchor.observe, last, same]
    · rw [reads]
      exact Countdown.finish_le_estimate positive
    · rw [reads]
      linarith

theorem Tracks.finish_eq {error : ℚ}
    (tracks : anchor.Tracks secondsLeft finish granule error earlier) :
    ∃ estimate, anchor.finish secondsLeft = some estimate ∧ finish ≤ estimate ∧
      estimate < finish + error := by
  rcases tracks with ⟨reading, since, -, anchored, -, lower, upper⟩
  exact ⟨since + secondsLeft reading, by rw [Anchor.finish, anchored]; rfl, lower, upper⟩

end Anchor

/-! ### What a run publishes -/

namespace FinishDescriptor

variable {descriptor : FinishDescriptor} {isoformat : ℚ → String}
  {reports : ℚ → Rep PyValue → Prop} {estimate : FinishState → Option ℚ}
  {select : FinishState → Anchor} {secondsLeft : ℤ → ℚ} {finish granule gap : ℚ}
  {state : FinishState}

section Follows

variable (publishes : descriptor.Publishes isoformat estimate)
  (follows : descriptor.Follows reports estimate select secondsLeft finish granule)
include publishes

/-- A projection leaves what has been read. -/
theorem Publishes.projected (unheld : ∀ (state : FinishState) (held : Option ℚ),
    estimate { state with finishPublished := held } = estimate state ∧
      select { state with finishPublished := held } = select state)
    (state : FinishState) (now : ℚ) (sensors : SensorValues) :
    estimate (descriptor.project state now sensors).1 = estimate state ∧
      select (descriptor.project state now sensors).1 = select state := by
  by_cases runs : RunsCycle sensors
  · rcases estimated : estimate state with _ | value
    · rw [(publishes.otherwise state now (.inr estimated)).1, estimated]
      exact ⟨rfl, rfl⟩
    · rw [(publishes.publishes state now runs estimated).1, (unheld state _).1,
        (unheld state _).2, estimated]
      exact ⟨rfl, rfl⟩
  · rw [(publishes.otherwise state now (.inl runs)).1]
    exact ⟨rfl, rfl⟩

include follows

/-- What is published is the estimates, held within the deadband. -/
theorem finishes_eq {earlier : Option ℚ} {events : List FinishEvent}
    (honest : Honest reports gap earlier events) (state : FinishState) :
    descriptor.finishes events state =
      (Deadband.shown finishDeadbandS state.finishPublished
        (descriptor.estimates estimate events state)).map fun value => .str (isoformat value) := by
  induction events generalizing earlier state with
  | nil => rfl
  | cons event events ih =>
      rw [finishes]
      cases event with
      | observed now href rep =>
          rw [Honest] at honest
          rw [estimates, published, Option.toList_none, List.nil_append, perform]
          split_ifs at honest with operational
          · subst operational
            rw [ih honest.2.2, follows.holds honest.1]
          · rw [ih honest, follows.ignores operational]
      | projected now sensors =>
          rcases honest with ⟨absent, honest⟩
          rw [estimates, published, perform, ih honest]
          by_cases runs : RunsCycle sensors
          · rw [if_pos runs]
            rcases estimated : estimate state with _ | value
            · have silent := publishes.otherwise state now (.inr estimated : ¬RunsCycle sensors ∨ _)
              rw [silent.1, silent.2, absent]
              rfl
            · have shown := publishes.publishes state now runs estimated
              rw [shown.1, shown.2]
              rfl
          · have silent := publishes.otherwise state now (.inl runs)
            rw [if_neg runs, silent.1, silent.2, absent]
            rfl

end Follows

/-- The estimate is that of an anchor that has followed the countdown up to a time. -/
def Tracking (estimate : FinishState → Option ℚ) (select : FinishState → Anchor)
    (secondsLeft : ℤ → ℚ) (finish granule error earlier : ℚ) (state : FinishState) : Prop :=
  (select state).Tracks secondsLeft finish granule error earlier ∧
    estimate state = (select state).finish secondsLeft

theorem Follows.tracking_first
    (follows : descriptor.Follows reports estimate select secondsLeft finish granule)
    (unread : (select state).last = none) {now : ℚ} {rep : Rep PyValue}
    (reported : reports now rep) :
    Tracking estimate select secondsLeft finish granule granule now
      (descriptor.onObservation state now operationalHref rep) := by
  refine ⟨?_, follows.estimates state reported⟩
  rcases follows.reads state reported with ⟨value, reads, observed⟩
  rw [observed]
  exact Anchor.tracks_first follows.positive unread reads

/-- An observation leaves the estimate, or makes it accurate. -/
theorem Follows.tracking_next
    (follows : descriptor.Follows reports estimate select secondsLeft finish granule)
    {error earlier now : ℚ}
    (tracking : Tracking estimate select secondsLeft finish granule error earlier state)
    {rep : Rep PyValue} (reported : reports now rep) (order : earlier ≤ now)
    (near : now ≤ earlier + gap) :
    (estimate (descriptor.onObservation state now operationalHref rep) = estimate state ∧
      Countdown.left finish granule now = Countdown.left finish granule earlier ∧
      Tracking estimate select secondsLeft finish granule error now
        (descriptor.onObservation state now operationalHref rep)) ∨
      Tracking estimate select secondsLeft finish granule gap now
        (descriptor.onObservation state now operationalHref rep) := by
  have estimated := follows.estimates state reported
  rcases follows.reads state reported with ⟨value, reads, observed⟩
  rcases tracking.1.observe follows.positive follows.injective reads order near with
    ⟨same, unchanged, tracks⟩ | tracks
  · left
    rw [same] at observed
    refine ⟨?_, unchanged, ?_, estimated⟩
    · rw [estimated, observed, tracking.2]
    · rw [observed]
      exact tracks
  · right
    refine ⟨?_, estimated⟩
    rw [observed]
    exact tracks

/-- An observation keeps an accurate anchor accurate. -/
theorem Follows.tracking_next_of_accurate
    (follows : descriptor.Follows reports estimate select secondsLeft finish granule)
    {earlier now : ℚ}
    (tracking : Tracking estimate select secondsLeft finish granule gap earlier state)
    {rep : Rep PyValue} (reported : reports now rep) (order : earlier ≤ now)
    (near : now ≤ earlier + gap) :
    Tracking estimate select secondsLeft finish granule gap now
      (descriptor.onObservation state now operationalHref rep) := by
  rcases follows.tracking_next tracking reported order near with ⟨-, -, next⟩ | next
  · exact next
  · exact next

section Runs

variable (publishes : descriptor.Publishes isoformat estimate)
  (follows : descriptor.Follows reports estimate select secondsLeft finish granule)
include publishes follows

theorem Tracking.projected {error earlier : ℚ}
    (tracking : Tracking estimate select secondsLeft finish granule error earlier state) (now : ℚ)
    (sensors : SensorValues) :
    Tracking estimate select secondsLeft finish granule error earlier
      (descriptor.project state now sensors).1 := by
  have same := publishes.projected follows.unheld state now sensors
  unfold Tracking
  rw [same.1, same.2]
  exact tracking

/-- Once the anchor is accurate, the estimates are. -/
theorem estimates_of_accurate {earlier : ℚ} {events : List FinishEvent}
    (tracking : Tracking estimate select secondsLeft finish granule gap earlier state)
    (honest : Honest reports gap (some earlier) events) :
    ∀ value ∈ descriptor.estimates estimate events state,
      finish ≤ value ∧ value < finish + gap := by
  induction events generalizing earlier state with
  | nil => exact List.forall_mem_nil _
  | cons event events ih =>
      cases event with
      | observed now href rep =>
          rw [Honest] at honest
          rw [estimates]
          split_ifs at honest with operational
          · subst operational
            rcases honest.2.1 earlier rfl with ⟨order, near⟩
            have next := follows.tracking_next_of_accurate tracking honest.1 order near
            exact ih next honest.2.2
          · rw [follows.ignores operational]
            exact ih tracking honest
      | projected now sensors =>
          rw [estimates]
          refine List.forall_mem_append.mpr
            ⟨?_, ih (tracking.projected publishes follows now sensors) honest.2⟩
          split_ifs
          · rcases tracking.1.finish_eq with ⟨value, estimated, lower, upper⟩
            rw [tracking.2, estimated]
            exact List.forall_mem_singleton.mpr ⟨lower, upper⟩
          · exact List.forall_mem_nil _

/-- Until the countdown steps the estimate stays, and then the estimates are accurate. -/
theorem estimates_of_tracking {earlier first : ℚ} {events : List FinishEvent}
    (tracking : Tracking estimate select secondsLeft finish granule granule earlier state)
    (estimated : estimate state = some first) (honest : Honest reports gap (some earlier) events) :
    ∃ count accurate, descriptor.estimates estimate events state =
        List.replicate count first ++ accurate ∧
      ∀ value ∈ accurate, finish ≤ value ∧ value < finish + gap := by
  induction events generalizing earlier state with
  | nil => exact ⟨0, [], rfl, List.forall_mem_nil _⟩
  | cons event events ih =>
      cases event with
      | observed now href rep =>
          rw [Honest] at honest
          rw [estimates]
          split_ifs at honest with operational
          · subst operational
            rcases honest.2.1 earlier rfl with ⟨order, near⟩
            rcases follows.tracking_next tracking honest.1 order near with ⟨same, -, next⟩ | next
            · exact ih next (same.trans estimated) honest.2.2
            · exact ⟨0, _, rfl, estimates_of_accurate publishes follows next honest.2.2⟩
          · rw [follows.ignores operational]
            exact ih tracking estimated honest
      | projected now sensors =>
          have next := tracking.projected publishes follows now sensors
          have same := (publishes.projected follows.unheld state now sensors).1
          rcases ih next (same.trans estimated) honest.2 with ⟨count, accurate, rest, band⟩
          rw [estimates, rest]
          split_ifs
          · refine ⟨count + 1, accurate, ?_, band⟩
            rw [estimated, List.replicate_succ]
            rfl
          · exact ⟨count, accurate, rfl, band⟩

/-- The estimates of a cycle that has not been read before. -/
theorem estimates_of_fresh {events : List FinishEvent} (unread : (select state).last = none)
    (unestimated : estimate state = none) (honest : Honest reports gap none events) :
    ∃ first count accurate, descriptor.estimates estimate events state =
        List.replicate count first ++ accurate ∧ (finish ≤ first ∧ first < finish + granule) ∧
      ∀ value ∈ accurate, finish ≤ value ∧ value < finish + gap := by
  induction events generalizing state with
  | nil =>
      have positive := follows.positive
      exact ⟨finish, 0, [], rfl, ⟨le_rfl, by linarith⟩, List.forall_mem_nil _⟩
  | cons event events ih =>
      cases event with
      | observed now href rep =>
          rw [Honest] at honest
          rw [estimates]
          split_ifs at honest with operational
          · subst operational
            have tracking := follows.tracking_first unread honest.1
            rcases tracking.1.finish_eq with ⟨first, estimated, bounds⟩
            rcases estimates_of_tracking publishes follows tracking (tracking.2.trans estimated)
              honest.2.2 with ⟨count, accurate, same, band⟩
            exact ⟨first, count, accurate, same, bounds, band⟩
          · rw [follows.ignores operational]
            exact ih unread unestimated honest
      | projected now sensors =>
          have same := publishes.projected follows.unheld state now sensors
          rw [estimates, unestimated]
          rw [← same.1] at unestimated
          rw [← same.2] at unread
          rcases ih unread unestimated honest.2 with ⟨first, count, accurate, rest, bounds, band⟩
          refine ⟨first, count, accurate, ?_, bounds, band⟩
          rw [rest]
          split_ifs <;> rfl

end Runs

/-! ### After a step -/

/-- What the countdown shows at the observations of a run. -/
def countsSeen (finish granule : ℚ) : List FinishEvent → List ℤ
  | [] => []
  | .projected _ _ :: events => countsSeen finish granule events
  | .observed now href _ :: events =>
      if href = operationalHref then
        Countdown.left finish granule now :: countsSeen finish granule events
      else countsSeen finish granule events

/-- The time of the last observation. -/
def lastSeen : Option ℚ → List FinishEvent → Option ℚ
  | earlier, [] => earlier
  | earlier, .projected _ _ :: events => lastSeen earlier events
  | earlier, .observed now href _ :: events =>
      lastSeen (if href = operationalHref then some now else earlier) events

theorem honest_append {earlier : Option ℚ} {before after : List FinishEvent} :
    Honest reports gap earlier (before ++ after) ↔
      Honest reports gap earlier before ∧ Honest reports gap (lastSeen earlier before) after := by
  induction before generalizing earlier with
  | nil => simp [Honest, lastSeen]
  | cons event before ih =>
      cases event with
      | observed now href rep =>
          rw [List.cons_append, Honest, Honest, lastSeen]
          split_ifs with operational
          · rw [ih, and_assoc, and_assoc]
          · exact ih
      | projected now sensors => rw [List.cons_append, Honest, Honest, ih, and_assoc, lastSeen]

section Stepped

variable (publishes : descriptor.Publishes isoformat estimate)
  (follows : descriptor.Follows reports estimate select secondsLeft finish granule)
include publishes follows

theorem tracking_run_of_accurate {earlier : ℚ} {events : List FinishEvent}
    (tracking : Tracking estimate select secondsLeft finish granule gap earlier state)
    (honest : Honest reports gap (some earlier) events) :
    ∃ last, lastSeen (some earlier) events = some last ∧
      Tracking estimate select secondsLeft finish granule gap last
        (Machine.run descriptor.perform events state) := by
  induction events generalizing earlier state with
  | nil => exact ⟨earlier, rfl, tracking⟩
  | cons event events ih =>
      cases event with
      | observed now href rep =>
          rw [Honest] at honest
          rw [lastSeen, Machine.run, perform]
          split_ifs at honest ⊢ with operational
          · subst operational
            rcases honest.2.1 earlier rfl with ⟨order, near⟩
            have next := follows.tracking_next_of_accurate tracking honest.1 order near
            exact ih next honest.2.2
          · rw [follows.ignores operational]
            exact ih tracking honest
      | projected now sensors =>
          exact ih (tracking.projected publishes follows now sensors) honest.2

/-- The anchor after a run is accurate, unless the countdown has stayed. -/
theorem tracking_run {earlier : ℚ} {events : List FinishEvent}
    (tracking : Tracking estimate select secondsLeft finish granule granule earlier state)
    (honest : Honest reports gap (some earlier) events) :
    (∀ count ∈ countsSeen finish granule events, count = Countdown.left finish granule earlier) ∨
      ∃ last, lastSeen (some earlier) events = some last ∧
        Tracking estimate select secondsLeft finish granule gap last
          (Machine.run descriptor.perform events state) := by
  induction events generalizing earlier state with
  | nil => exact .inl (List.forall_mem_nil _)
  | cons event events ih =>
      cases event with
      | observed now href rep =>
          rw [Honest] at honest
          rw [lastSeen, Machine.run, perform, countsSeen]
          split_ifs at honest ⊢ with operational
          · subst operational
            rcases honest.2.1 earlier rfl with ⟨order, near⟩
            rcases follows.tracking_next tracking honest.1 order near with ⟨-, same, next⟩ | next
            · refine (ih next honest.2.2).imp_left fun stays => ?_
              refine List.forall_mem_cons.mpr ⟨same, fun count countMem => ?_⟩
              rw [stays count countMem, same]
            · exact .inr (tracking_run_of_accurate publishes follows next honest.2.2)
          · rw [follows.ignores operational]
            exact ih tracking honest
      | projected now sensors =>
          exact ih (tracking.projected publishes follows now sensors) honest.2

/-- From a cycle that has not been read before. -/
theorem tracking_run_of_fresh {events : List FinishEvent} (unread : (select state).last = none)
    (honest : Honest reports gap none events) :
    (∀ count ∈ countsSeen finish granule events, ∀ other ∈ countsSeen finish granule events,
        count = other) ∨
      ∃ last, lastSeen none events = some last ∧
        Tracking estimate select secondsLeft finish granule gap last
          (Machine.run descriptor.perform events state) := by
  induction events generalizing state with
  | nil => exact .inl (List.forall_mem_nil _)
  | cons event events ih =>
      cases event with
      | observed now href rep =>
          rw [Honest] at honest
          rw [lastSeen, Machine.run, perform, countsSeen]
          split_ifs at honest ⊢ with operational
          · subst operational
            have tracking := follows.tracking_first unread honest.1
            refine (tracking_run publishes follows tracking honest.2.2).imp_left fun stays => ?_
            have all : ∀ count ∈ Countdown.left finish granule now ::
                countsSeen finish granule events, count = Countdown.left finish granule now :=
              List.forall_mem_cons.mpr ⟨rfl, stays⟩
            exact fun count countMem other otherMem =>
              (all count countMem).trans (all other otherMem).symm
          · rw [follows.ignores operational]
            exact ih unread honest
      | projected now sensors =>
          have same := publishes.projected follows.unheld state now sensors
          rw [← same.2] at unread
          exact ih unread honest.2

end Stepped

/-- What a cycle publishes as its finish: two times at most, the first within a granule of the truth
and the second within the gap of the observations, and what is near the truth once the countdown has
been seen to step. -/
structure Settles (descriptor : FinishDescriptor) (isoformat : ℚ → String)
    (finish granule gap : ℚ) (events : List FinishEvent) (state : FinishState) : Prop where
  twice : ∃ first settled early late, descriptor.finishes events state =
      List.replicate early (.str (isoformat first)) ++
        List.replicate late (.str (isoformat settled)) ∧
    (0 < early → finish ≤ first ∧ first < finish + granule) ∧
    (0 < late → finish ≤ settled ∧ settled < finish + gap)
  accurate : ∀ {before after}, events = before ++ after →
    (∃ count ∈ countsSeen finish granule before, ∃ other ∈ countsSeen finish granule before,
      count ≠ other) →
    ∀ text ∈ descriptor.finishes after (Machine.run descriptor.perform before state),
      ∃ value, text = .str (isoformat value) ∧ |value - finish| < gap + finishDeadbandS

theorem settles_of_follows (publishes : descriptor.Publishes isoformat estimate)
    (follows : descriptor.Follows reports estimate select secondsLeft finish granule)
    (gap_le : gap ≤ finishDeadbandS) {events : List FinishEvent}
    (honest : Honest reports gap none events) (unread : (select state).last = none)
    (unestimated : estimate state = none) (unheld : state.finishPublished = none) :
    descriptor.Settles isoformat finish granule gap events state := by
  have nonneg : (0 : ℚ) ≤ finishDeadbandS := by norm_num [finishDeadbandS]
  have published := finishes_eq publishes follows honest state
  rcases estimates_of_fresh publishes follows unread unestimated honest with
    ⟨first, count, accurate, same, firstBounds, band⟩
  rw [unheld] at published
  refine ⟨?_, ?_⟩
  · have inBand : ∀ value ∈ accurate, finish ≤ value ∧ value ≤ finish + finishDeadbandS := by
      intro value valueMem
      have bounds := band value valueMem
      exact ⟨bounds.1, by linarith [bounds.2]⟩
    rcases Deadband.shown_of_settling nonneg count first inBand with
      ⟨early, late, settled, shown, isAccurate⟩
    refine ⟨first, settled, early, late, ?_, fun _ => firstBounds,
      fun some => band settled (isAccurate some)⟩
    rw [published, same, shown, List.map_append, List.map_replicate, List.map_replicate]
  · rintro before after rfl ⟨count, countMem, other, otherMem, different⟩ text textMem
    rcases honest_append.mp honest with ⟨honestBefore, honestAfter⟩
    rcases tracking_run_of_fresh publishes follows unread honestBefore with
      stays | ⟨last, seen, tracking⟩
    · exact absurd (stays count countMem other otherMem) different
    · rw [seen] at honestAfter
      rw [finishes_eq publishes follows honestAfter] at textMem
      rcases List.mem_map.mp textMem with ⟨value, valueMem, rfl⟩
      rcases Deadband.near_of_mem_shown nonneg valueMem with ⟨estimated, estimatedMem, near⟩
      have bounds := estimates_of_accurate publishes follows tracking honestAfter _ estimatedMem
      refine ⟨value, rfl, ?_⟩
      rw [abs_le] at near
      rw [abs_lt]
      constructor
      · linarith
      · linarith

end FinishDescriptor

end SmartThingsLocal
