import SmartThingsLocal.Oven.NumericCommands

/-!
# Publishing the state of the oven

`maybe_publish_state` as it runs after a change that stays in the bridge: `flatten` with all its
sensors, `project` with the clock, the lamp and the staged program, and the hand-over to
`json.dumps` and to the MQTT client. Nothing of it is in a `try` statement.
-/

namespace SmartThingsLocal

open Raising

namespace Oven

/-! ### Sensors -/

def ofInt : Option ℤ → PyValue
  | none => .none
  | some number => .int number

def ofBool : Option Bool → PyValue
  | none => .none
  | some flag => .bool flag

def ofText : Option String → PyValue
  | none => .none
  | some text => .str text

/-- `value == text`, where there is a value. -/
def comparedWith (text : String) : PyValue → PyValue
  | .none => .none
  | value => .bool (isText text value)

/-- `_fmt_hms`. -/
def fmtHms (tables : TextTables) (seconds : Option String) : Option String := do
  let seconds ← tables.limitedIntText (← seconds).toList
  let s := max seconds 0
  let rest := s % 3600
  return String.ofList (decimalText (s / 3600) ++ ':' :: (paddedText (rest / 60) ++
    ':' :: paddedText (rest % 60)))

/-- What `flatten` returns: the parsed `modeSpec`, the two sensors that a start reads, and all
sensors by name. -/
structure Flattened where
  spec : OrderedDict String ModeSpec
  sensors : Sensors
  fields : Rep PyValue

/-- A field of the first item of a resource. -/
def firstItem (snapshot : Snapshot) (href key : String) : PyValue :=
  ((snapshot.items href).head?.map (entryValue · key)).getD .none

/-- The sensors of `flatten`, in its order. -/
def sensorFields (python : Interpreter) (snapshot : Snapshot) (state : PyValue)
    (temperatures : Option ℤ × Option ℤ) (remoteControlBinary : Option Bool) (mode : PyValue)
    (settings : List (Option String)) (firmware : Option Bool) (progress rssi : Option ℤ) :
    List (String × PyValue) :=
  let links := snapshot.links
  let operationTime := value links "/operational/state/vs/0" "x.com.samsung.da.operationTime"
  let remaining := value links "/operational/state/vs/0" "x.com.samsung.da.remainingTime"
  let door := firstItem snapshot "/doors/vs/0" "x.com.samsung.da.openState"
  let power := value links "/power/vs/0" "x.com.samsung.da.power"
  let kidsLock := value links "/kidslock/vs/0" "x.com.samsung.da.kidsLock"
  let alarm := firstItem snapshot "/alarms/vs/0" "x.com.samsung.da.code"
  let connected := value links "/connected/vs/0" "x.com.samsung.da.connected"
  let setting (name : String) := ((Commands.optionNames.zip settings).lookup name).join
  let seconds (name : String) :=
    (setting name).bind fun text => python.tables.limitedIntText text.toList
  [("machine_state", state),
    ("cycle_active", .bool (isText "active" state)),
    ("oven_state", value links "/oven/vs/0" "x.com.samsung.da.state"),
    ("progress_percentage", ofInt progress),
    ("operation_time", operationTime),
    ("operation_time_minutes", ofInt (hmsToMinutes python.tables operationTime)),
    ("completion_time", remaining),
    ("completion_minutes", ofInt (hmsToMinutes python.tables remaining)),
    ("remaining_time", remaining),
    ("remaining_minutes", ofInt (hmsToMinutes python.tables remaining)),
    ("current_temp_c", ofInt (temperatures.1.filter (· ≠ 0))),
    ("target_temp_c", ofInt (temperatures.2.filter fun temp =>
      Commands.setpointMinC ≤ temp ∧ temp ≤ Commands.setpointMaxC)),
    ("door", door),
    ("door_open", comparedWith "Open" door),
    ("power_state", power),
    ("power_state_binary", comparedWith "On" power),
    ("child_lock", kidsLock),
    ("child_lock_binary", match comparedWith "Ready" kidsLock with
      | .bool ready => .bool !ready
      | missing => missing),
    ("remote_control", value links "/remotectrl/vs/0" "x.com.samsung.da.remoteControlEnabled"),
    ("remote_control_binary", ofBool remoteControlBinary),
    ("mode", mode),
    ("lamp", ofText (setting "UpperLamp")),
    ("sound", ofText (setting "Sound")),
    ("fastpreheat", ofText (setting "fastpreheat")),
    ("natural_steam", ofText (setting "NaturalSteam")),
    ("timer_state", ofText (setting "UpperTimerState")),
    ("timer_current", ofText (fmtHms python.tables (setting "UpperTimerCurrent"))),
    ("timer_set", ofText (fmtHms python.tables (setting "UpperTimerSet"))),
    ("timer_current_seconds", ofInt (seconds "UpperTimerCurrent")),
    ("timer_set_seconds", ofInt (seconds "UpperTimerSet")),
    ("alarm_code", alarm),
    ("alarm_time", firstItem snapshot "/alarms/vs/0" "x.com.samsung.da.triggeredTime"),
    ("alarm_active", .bool (truthy alarm && !isText "OV_E_OFF" alarm)),
    ("connected", connected),
    ("connected_binary", comparedWith "On" connected),
    ("firmware_update_available", ofBool firmware),
    ("wifi_rssi", ofInt rssi)]

/-- Assign some entries to a dictionary. -/
def update (dict : Rep PyValue) (entries : List (String × PyValue)) : Rep PyValue :=
  entries.foldl (fun dict entry => dict.set entry.1 entry.2) dict

/-- `flatten`, with everything that it returns. -/
def flattened (python : Interpreter) (snapshot : Snapshot) :
    Except PythonException Flattened := do
  let links := snapshot.links
  let state ← Commands.machineState
    (value links "/operational/state/vs/0" "x.com.samsung.da.state")
  let temperatures ← Commands.temperatures python.tables (snapshot.items "/temperatures/vs/0")
  let remoteControlBinary ←
    Commands.binary python (value links "/remotectrl/vs/0" "x.com.samsung.da.remoteControlEnabled")
  let mode ← Commands.currentMode (value links "/mode/vs/0" "x.com.samsung.da.modes")
  let settings ← Commands.optionValues (value links "/mode/vs/0" "x.com.samsung.da.options")
  let firmware ← Commands.binary python
    (value links "/otninformation/vs/0" "x.com.samsung.da.newVersionAvailable")
  let spec ← Commands.parseModeSpec python links
  let progress ← Commands.progressPercentage python.tables links state
  let rssi ← Commands.wifiRssiDbm python.tables links
  return ⟨spec, ⟨remoteControlBinary, state⟩, update .empty (sensorFields python snapshot state
    temperatures remoteControlBinary mode settings firmware progress rssi)⟩

/-! ### The clock -/

/-- What the descriptor's state holds besides the staged program. Times are those of
`time.time()`. -/
structure ProjectState where
  totalS : Option ℤ := none
  progressAnchor : Option (ℚ × ℤ) := none
  remainingAnchor : Option (ℚ × ℤ) := none
  finishPublished : Option ℚ := none
  doorChangeTs : Option ℚ := none
  lampChangeTs : Option ℚ := none

/-- What publishing takes from its surroundings: the time, the text of a time, `json.dumps`, the
log of differences (nothing unless it is switched on), and the MQTT client. -/
structure Publishing where
  now : ℚ
  isoformat : Binary64 → Except PythonException String
  dumps : Rep PyValue → Except PythonException String
  logDiffs : Rep PyValue → Except PythonException Unit
  publish : String → Except PythonException Unit

/-- An integer in an operation with a floating-point number. -/
def asFloat (number : ℤ) : Except PythonException ℚ :=
  match Binary64.ofRat number with
  | .finite value => .ok value
  | _ => .error .overflowError

structure Candidate where
  source : String
  granule : Binary64
  finishEpoch : Binary64

def finishDeadbandS : ℚ := 15

/-- The candidate of the progress, where there is a duration. -/
def progressCandidate (state : ProjectState) : Except PythonException (List Candidate) :=
  match state.totalS.filter (· ≠ 0), state.progressAnchor with
  | some total, some (ts, pct) => do
      let granule ← asFloat total
      let left ← asFloat (total * (100 - pct))
      return [⟨"progress", .ofRat (granule / 100), (Binary64.ofRat (left / 100)).addRat ts⟩]
  | _, _ => .ok []

def remainingCandidate (state : ProjectState) : Except PythonException (List Candidate) :=
  match state.remainingAnchor with
  | some (ts, secs) => do
      let left ← asFloat secs
      return [⟨"remaining", .finite 60, .ofRat (ts + left)⟩]
  | none => .ok []

/-- The finer candidate, the first of two that are as fine. -/
def finest : List Candidate → Option Candidate
  | [] => none
  | [candidate] => some candidate
  | first :: second :: _ => some (if second.granule.lt first.granule then second else first)

/-- The whole seconds that are left until a time, at most the duration. -/
def secondsLeft (state : ProjectState) (left : ℤ) : ℤ :=
  (state.totalS.filter (· ≠ 0)).elim (max 0 left) (min (max 0 left) ·)

/-- What is left by the chosen candidate, where there is one. -/
def remainingOf (state : ProjectState) (now : ℚ) :
    Option Candidate → Except PythonException (Option (ℤ × Candidate))
  | none => .ok none
  | some candidate =>
      (round (candidate.finishEpoch.addRat (-now))).map fun left =>
        some (secondsLeft state left, candidate)

/-- `estimate_remaining`. -/
def estimateRemaining (state : ProjectState) (now : ℚ) :
    Except PythonException (Option (ℤ × Candidate)) := do
  let progress ← progressCandidate state
  let remaining ← remainingCandidate state
  remainingOf state now (finest (progress ++ remaining))

/-- The finish time that stays published while the estimate is near it. -/
def heldFinish (state : ProjectState) (finishEpoch : Binary64) : Binary64 :=
  match state.finishPublished with
  | none => finishEpoch
  | some held =>
      match finishEpoch.addRat (-held) with
      | .finite moved => if finishDeadbandS < |moved| then finishEpoch else .finite held
      | .infinite _ => finishEpoch
      | .nan => .finite held

/-- The sensors of the clock, where there is an estimate. -/
def clockFields (publishing : Publishing) (state : ProjectState) (fields : Rep PyValue) :
    Option (ℤ × Candidate) → Except PythonException (Rep PyValue)
  | none => .ok fields
  | some (left, candidate) => do
      let mins := (left + 59) / 60
      let hours ← intStr (mins / 60)
      let finishAt ← publishing.isoformat (heldFinish state candidate.finishEpoch)
      return update fields [
        ("completion_time", .str (hours ++ ":" ++ String.ofList (paddedText (mins % 60)) ++ ":00")),
        ("completion_minutes", .int mins), ("clock_source", .str candidate.source),
        ("finish_at", .str finishAt)]

/-- The clock of an active cycle. -/
def projectClock (publishing : Publishing) (state : ProjectState) (flat : Flattened) :
    Except PythonException (Rep PyValue) :=
  if isText "active" flat.sensors.machineState then
    estimateRemaining state publishing.now >>= clockFields publishing state flat.fields
  else .ok flat.fields

/-- The lamp follows a door that has moved after it. -/
def projectLamp (state : ProjectState) (fields : Rep PyValue) : Rep PyValue :=
  match state.doorChangeTs with
  | none => fields
  | some door =>
      if state.lampChangeTs.all (· < door) then
        match fields.get? "door_open" with
        | some (.bool true) => fields.set "lamp" (.str "On")
        | some (.bool false) => fields.set "lamp" (.str "Off")
        | _ => fields
      else fields

/-! ### The staged program -/

/-- `project_program`. -/
def projectProgram (python : Interpreter) (program : Program) (flat : Flattened)
    (fields : Rep PyValue) : Except PythonException (Rep PyValue) := do
  let spec := flat.spec.get? (program.mode.getD "")
  let startable := (flat.spec.entries.filter (·.2.startable)).map Prod.fst
  let refused ← Commands.programError python program flat.spec flat.sensors
  return update fields [
    ("program_mode", ofText program.mode), ("program_temp_c", ofInt program.tempC),
    ("program_minutes", ofInt program.minutes),
    ("program_startable", .list ((startable.mergeSort (· ≤ ·)).map .str)),
    ("program_temp_min_c", ofInt (spec.bind (·.tempMinC))),
    ("program_temp_max_c", ofInt (spec.bind (·.tempMaxC))),
    ("program_time_min", ofInt (spec.bind (·.timeMin))),
    ("program_time_max", ofInt (spec.bind (·.timeMax))),
    ("program_ready", .bool refused.isNone)]

/-- `project`. -/
def project (python : Interpreter) (publishing : Publishing) (state : ProjectState)
    (program : Program) (flat : Flattened) : Except PythonException (Rep PyValue) := do
  let fields ← projectClock publishing state flat
  projectProgram python program flat (projectLamp state fields)

/-- What becomes of the sensors. -/
def Publishing.handOver (publishing : Publishing) (sensors : Rep PyValue) :
    Except PythonException Unit := do
  publishing.logDiffs sensors
  let text ← publishing.dumps sensors
  publishing.publish text

/-- `maybe_publish_state(force=True)`, up to the two topics that are published inside of
`try` statements. -/
def publishState (python : Interpreter) (publishing : Publishing) (state : ProjectState)
    (program : Program) (snapshot : Snapshot) : Except PythonException (Rep PyValue) := do
  let flat ← flattened python snapshot
  let sensors ← project python publishing state program flat
  publishing.handOver sensors
  return sensors

end Oven

end SmartThingsLocal
