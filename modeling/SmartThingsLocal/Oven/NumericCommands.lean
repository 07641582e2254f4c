import SmartThingsLocal.Oven.Conversions

/-!
# The numeric commands of the oven

The command handlers of the oven that read a number, and what they call, with the exceptions that
each of them raises. `Oven.Program` has the starts without the interpreter's limits on numbers.
-/

namespace SmartThingsLocal

open Raising

namespace Oven

def itemsKey : String := "x.com.samsung.da.items"

/-- The links of an appliance, whose items arrays hold dictionaries. -/
structure Snapshot where
  links : Links
  itemsHold : ∀ href rep array, links.get? href = some rep → rep.get? itemsKey = some array →
    ∃ items : List (List (String × PyValue)), array = .list (items.map .dict)

/-- The dictionaries of an items array, none where there is no array. -/
def Snapshot.items (snapshot : Snapshot) (href : String) : List (List (String × PyValue)) :=
  match value snapshot.links href itemsKey with
  | .list items => items.filterMap fun item =>
      match item with
      | .dict entries => some entries
      | _ => none
  | _ => []

/-- An items array is missing, or holds the dictionaries of the snapshot. -/
theorem Snapshot.items_cases (snapshot : Snapshot) (href : String) :
    value snapshot.links href itemsKey = .none ∧ snapshot.items href = [] ∨
      value snapshot.links href itemsKey = .list ((snapshot.items href).map .dict) := by
  unfold Snapshot.items value
  cases found : snapshot.links.get? href with
  | none => exact .inl ⟨rfl, rfl⟩
  | some rep =>
      cases present : rep.get? itemsKey with
      | none =>
          left
          simp [present]
      | some array =>
          right
          rcases snapshot.itemsHold href rep array found present with ⟨items, rfl⟩
          simp [present]

/-- What a handler returns: a rejection, a change that is sent nowhere, or a write. -/
inductive CommandResult
  | rejected
  | localOnly
  | write (path : List String) (body : List (String × PyValue))
  | batch (path : List String) (elements : List BatchElement)

/-- Assign to a key of a dictionary. -/
def setEntry (entries : List (String × PyValue)) (key : String) (item : PyValue) :
    List (String × PyValue) :=
  if key ∈ entries.map Prod.fst then OrderedDict.replaceEntry key item entries
  else entries ++ [(key, item)]

namespace Commands

/-! ### The mode specification -/

/-- `_spec_int`. -/
def specInt (tables : TextTables) (entry : List (String × PyValue)) (key : String) :
    Except PythonException (Option ℤ) :=
  match entryValue entry key with
  | .none => .ok none
  | declared => if isText notSupported declared then .ok none else int tables declared

/-- What the board declares of one mode. -/
def specOf (tables : TextTables) (entry : List (String × PyValue)) :
    Except PythonException ModeSpec := do
  let tempMinC ← specInt tables entry "tempMinC"
  let tempMaxC ← specInt tables entry "tempMaxC"
  let tempDefaultC ← specInt tables entry "tempDefaultC"
  let tempIntervalC ← specInt tables entry "tempIntervalC"
  return {
    control := entryValue entry "control"
    startable := isText "Start&Setting" (entryValue entry "control")
    tempMinC
    tempMaxC
    tempDefaultC
    tempStepC := if tempIntervalC.getD 0 = 0 then setpointStepC else tempIntervalC.getD 0
    timeMin := hmsToMinutes tables (entryValue entry "timeMin")
    timeMax := hmsToMinutes tables (entryValue entry "timeMax")
    timeDefault := hmsToMinutes tables (entryValue entry "timeDefault") }

/-- `json.loads` where a `ValueError` or `TypeError` is caught. -/
def loads (python : Interpreter) (text : String) : Except PythonException PyValue :=
  handle isConversionError .none (python.loads text)

/-- `parse_mode_spec`. -/
def parseModeSpec (python : Interpreter) (links : Links) :
    Except PythonException (OrderedDict String ModeSpec) :=
  match value links "/mode/vs/0" "x.com.samsung.da.modeSpec" with
  | .str raw => do
      match ← loads python raw with
      | .list items =>
          (modeEntries items).foldlM
            (fun out entry => (specOf python.tables entry.2).map (out.set entry.1)) .empty
      | _ => return .empty
  | _ => .ok .empty

/-! ### Sensors -/

/-- The machine state, which is looked up in a dictionary: an array cannot be hashed. -/
def machineState : PyValue → Except PythonException PyValue
  | .str state => .ok (.str ((samsungStateToOcf.lookup state).getD state))
  | .list _ | .dict _ => .error .typeError
  | other => .ok other

/-- `str(value).lower() == 'true'`, where there is a value. -/
def binary (python : Interpreter) : PyValue → Except PythonException (Option Bool)
  | .none => .ok none
  | flag => (python.str flag).map fun text => some (text.toLower = "true")

/-- The current and the desired temperature of the first item. -/
def temperatures (tables : TextTables) (items : List (List (String × PyValue))) :
    Except PythonException (Option ℤ × Option ℤ) :=
  match items with
  | [] => .ok (none, none)
  | item :: _ => do
      let current ← int tables (entryValue item "x.com.samsung.da.current")
      let desired ← int tables (entryValue item "x.com.samsung.da.desired")
      return (current, desired)

/-- The first of the modes, where there are any. -/
def currentMode (modes : PyValue) : Except PythonException PyValue :=
  if truthy modes then
    match modes with
    | .list items => .ok (items.headD .none)
    | .str text => .ok (.str (text.take 1).toString)
    | .dict _ => .error .keyError
    | _ => .error .typeError
  else .ok .none

/-- `_option_value`. -/
def optionValue (name : String) : List PyValue → Except PythonException (Option String)
  | [] => .ok none
  | .str option :: options =>
      if option.startsWith (name ++ "_") then
        .ok (some (String.ofList ((option.toList.dropWhile (· ≠ '_')).drop 1)))
      else optionValue name options
  | _ :: _ => .error .attributeError

def optionNames : List String :=
  ["UpperLamp", "Sound", "fastpreheat", "NaturalSteam", "UpperTimerState", "UpperTimerCurrent",
    "UpperTimerSet"]

/-- The settings among the options. -/
def optionValues (options : PyValue) : Except PythonException (List (Option String)) :=
  match iterated (if truthy options then options else .list []) with
  | some options => optionNames.mapM (optionValue · options)
  | none => .error .typeError

/-- `wifi_rssi_dbm`. -/
def wifiRssiDbm (tables : TextTables) (links : Links) : Except PythonException (Option ℤ) :=
  match value links "/rm/wifi/vs/0" "x.com.samsung.rm.rssi" with
  | .list items => int tables (items.headD .none)
  | level => int tables level

/-- The progress, which counts during a cycle only. -/
def progressPercentage (tables : TextTables) (links : Links) (state : PyValue) :
    Except PythonException (Option ℤ) :=
  if isText "active" state then
    int tables (value links "/operational/state/vs/0" "x.com.samsung.da.progressPercentage")
  else .ok (some 0)

/--
The rest of `flatten`, as far as it raises or a start depends on it. The times are read inside of
`except Exception`, and the other fields are compared or taken from dictionaries only.
-/
def sensorsOf (python : Interpreter) (snapshot : Snapshot) (state : PyValue) :
    Except PythonException Sensors := do
  let links := snapshot.links
  let _ ← temperatures python.tables (snapshot.items "/temperatures/vs/0")
  let remoteControlBinary ←
    binary python (value links "/remotectrl/vs/0" "x.com.samsung.da.remoteControlEnabled")
  let _ ← currentMode (value links "/mode/vs/0" "x.com.samsung.da.modes")
  let _ ← optionValues (value links "/mode/vs/0" "x.com.samsung.da.options")
  let _ ← binary python (value links "/otninformation/vs/0" "x.com.samsung.da.newVersionAvailable")
  let _ ← parseModeSpec python links
  let _ ← progressPercentage python.tables links state
  let _ ← wifiRssiDbm python.tables links
  return ⟨remoteControlBinary, state⟩

/-- `flatten`. -/
def flatten (python : Interpreter) (snapshot : Snapshot) : Except PythonException Sensors :=
  machineState (value snapshot.links "/operational/state/vs/0" "x.com.samsung.da.state") >>=
    sensorsOf python snapshot

/-! ### The start -/

/-- The reason why a program cannot be sent, as it is logged. -/
def reasonText (python : Interpreter) : ProgramError → Except PythonException String
  | .noProgram => .ok "no program selected"
  | .noModeSpec => .ok "the board publishes no modeSpec, so it declares no startable mode"
  | .unknownMode mode => .ok (mode ++ " is not a mode this board reports")
  | .notStartable mode control => do
      let control ← python.repr control
      return "the board declares " ++ mode ++ " as " ++ control ++ ", not Start&Setting"
  | .needsTemperature mode => .ok (mode ++ " needs a temperature")
  | .belowMinimumTemperature mode temp low => do
      let temp ← intStr temp
      let low ← intStr low
      return temp ++ "C is below " ++ mode ++ " minimum " ++ low ++ "C"
  | .aboveMaximumTemperature mode temp high => do
      let temp ← intStr temp
      let high ← intStr high
      return temp ++ "C is above " ++ mode ++ " maximum " ++ high ++ "C"
  | .needsDuration mode => .ok (mode ++ " needs a duration")
  | .belowMinimumDuration mode minutes low => do
      let minutes ← intStr minutes
      let low ← intStr low
      return minutes ++ "min is below " ++ mode ++ " minimum " ++ low ++ "min"
  | .aboveMaximumDuration mode minutes high => do
      let minutes ← intStr minutes
      let high ← intStr high
      return minutes ++ "min is above " ++ mode ++ " maximum " ++ high ++ "min"
  | .remoteControlOff => .ok "Remote Control is off at the appliance"
  | .cycleRunning => .ok "a cycle is already running"

/-- `_program_error`, with the text of its reason. -/
def programError (python : Interpreter) (program : Program)
    (specAll : OrderedDict String ModeSpec) (sensors : Sensors) :
    Except PythonException (Option String) :=
  match Oven.programError program specAll sensors with
  | none => .ok none
  | some reason => (reasonText python reason).map some

/-- `_hms_wire`. -/
def hmsWire (minutes : ℤ) : Except PythonException String :=
  if FitsText (minutes / 60) then .ok (Oven.hmsWire minutes) else .error .valueError

/-- `str` of a temperature, or of `None`. -/
def desiredText : Option ℤ → Except PythonException String
  | none => .ok "None"
  | some temp => intStr temp

/-- The mode declares a range of temperatures. -/
def DeclaresTemperature (specAll : OrderedDict String ModeSpec) (mode : String) : Prop :=
  ((specAll.get? mode).bind (·.tempMinC)).isSome ∨ ((specAll.get? mode).bind (·.tempMaxC)).isSome

instance (specAll : OrderedDict String ModeSpec) (mode : String) :
    Decidable (DeclaresTemperature specAll mode) := inferInstanceAs (Decidable (_ ∨ _))

/-- The setpoint element of a batch, where the mode has one. -/
def setpointElements (program : Program) (specAll : OrderedDict String ModeSpec)
    (snapshot : Snapshot) : Except PythonException (List BatchElement) :=
  if DeclaresTemperature specAll (program.mode.getD "") then
    let unit := entryValue ((snapshot.items "/temperatures/vs/0").headD []) "x.com.samsung.da.unit"
    let unit := if truthy unit then unit else .str "Celsius"
    (desiredText program.tempC).map fun desired =>
      [⟨"/temperatures/vs/0", .item desired "0" unit⟩]
  else .ok []

def operationTime (program : Program) : Except PythonException (Option String) :=
  match program.minutes with
  | none => .ok none
  | some minutes => (hmsWire minutes).map some

/-- `build_start_batch`. -/
def buildStartBatch (program : Program) (specAll : OrderedDict String ModeSpec)
    (snapshot : Snapshot) : Except PythonException (List BatchElement) := do
  let setpoint ← setpointElements program specAll snapshot
  let operationTime ← operationTime program
  return [⟨"/devices/0", .absent⟩, ⟨"/mode/vs/0", .modes [program.mode.getD ""]⟩] ++ setpoint ++
    [⟨"/operational/state/vs/0", .operation "Run" operationTime⟩]

/-- A number of the request, or what the program has. -/
def requestedNumber (tables : TextTables) (req : List (String × PyValue)) (key : String)
    (number : Option ℤ) : Except PythonException (Option ℤ) :=
  match req.lookup key with
  | none => .ok number
  | some asked => num tables asked >>= int tables

/-- The program that a request asks for. -/
def requested (tables : TextTables) (program : Program) (specAll : OrderedDict String ModeSpec)
    (mode : String) (req : List (String × PyValue)) : Except PythonException Program := do
  let program := { program with mode := some mode }
  let program := (specAll.get? mode).elim program program.applyDefaults
  let tempC ← requestedNumber tables req "temp_c" program.tempC
  let minutes ← requestedNumber tables req "minutes" program.minutes
  return { program with tempC, minutes }

/-! ### The handlers -/

/-- `_program_temp`. -/
def programTemp (tables : TextTables) (state : Option Program) (payload : String) :
    Except PythonException (Option Program × CommandResult) := do
  match ← num tables (.str payload) >>= int tables with
  | none => return (state, .rejected)
  | some temp => return (some { staged state with tempC := some temp }, .localOnly)

/-- `_program_time`. -/
def programTime (tables : TextTables) (state : Option Program) (payload : String) :
    Except PythonException (Option Program × CommandResult) := do
  match ← num tables (.str payload) >>= int tables with
  | none => return (state, .rejected)
  | some minutes =>
      if minutes < 0 then return (state, .rejected)
      else return (some { staged state with minutes := some minutes }, .localOnly)

/-- The end of `_start_program`: the check of the program, and the batch. -/
def finish (python : Interpreter) (state : Option Program) (program : Program)
    (specAll : OrderedDict String ModeSpec) (sensors : Sensors) (snapshot : Snapshot) :
    Except PythonException (Option Program × CommandResult) := do
  match ← programError python program specAll sensors with
  | some _ => return (some (staged state), .rejected)
  | none =>
      let elements ← buildStartBatch program specAll snapshot
      return (some program, .batch ["device", "0"] elements)

/-- What `_start_program` does for a known mode. -/
def startMode (python : Interpreter) (state : Option Program) (snapshot : Snapshot)
    (mode : String) (req : List (String × PyValue)) :
    Except PythonException (Option Program × CommandResult) := do
  let specAll ← parseModeSpec python snapshot.links
  let program ← requested python.tables (staged state) specAll mode req
  let sensors ← flatten python snapshot
  finish python state program specAll sensors snapshot

/-- `_start_program`. -/
def startProgram (python : Interpreter) (state : Option Program) (payload : String)
    (snapshot : Snapshot) : Except PythonException (Option Program × CommandResult) := do
  match ← loads python payload with
  | .dict req =>
      match entryValue req "mode" with
      | .str mode =>
          if mode ∈ programModes then startMode python state snapshot mode req
          else return (state, .rejected)
      | _ => return (state, .rejected)
  | _ => return (state, .rejected)

def setpointMinC : ℤ := 30
def setpointMaxC : ℤ := 270

/-- `_setpoint` behind its `try` statement. -/
def setpointOf (temp : Binary64) (snapshot : Snapshot) : Except PythonException CommandResult := do
  let steps ← round (temp.divRat setpointStepC)
  let temp := steps * setpointStepC
  if ¬(setpointMinC ≤ temp ∧ temp ≤ setpointMaxC) then return .rejected
  else
    match snapshot.items "/temperatures/vs/0" with
    | [] => return .rejected
    | item :: items =>
        let desired := setEntry item "x.com.samsung.da.desired"
          (.str (String.ofList (decimalText temp)))
        return .write ["temperatures", "vs", "0"] [(itemsKey, .list ((desired :: items).map .dict))]

/-- `_setpoint`. -/
def setpoint (tables : TextTables) (payload : String) (snapshot : Snapshot) :
    Except PythonException CommandResult := do
  match ← handle isConversionError none ((toFloat tables (.str payload)).map some) with
  | none => return .rejected
  | some temp => setpointOf temp snapshot

/-- `_cook_time`. -/
def cookTime (tables : TextTables) (payload : String) : Except PythonException CommandResult := do
  match ← handle isConversionError none ((toFloat tables (.str payload) >>= round).map some) with
  | none => return .rejected
  | some minutes =>
      if ¬(0 ≤ minutes ∧ minutes ≤ 1439) then return .rejected
      else
        let hms := PyValue.str (Oven.hmsWire minutes)
        return .write ["operational", "state", "vs", "0"]
          [("x.com.samsung.da.operationTime", hms), ("x.com.samsung.da.remainingTime", hms)]

end Commands

end Oven

namespace Fridge

open Oven

/-- `_fridge_temp` and `_freezer_temp`, which differ in the item they change. -/
def setTemperature (description : String) (tables : TextTables) (payload : String)
    (snapshot : Snapshot) : Except PythonException CommandResult := do
  let desired ← handle isConversionError none
    ((toFloat tables (.str payload) >>= truncate >>= intStr).map some)
  match desired with
  | none => return .rejected
  | some desired =>
      let items := (snapshot.items "/temperatures/vs/0").map fun item =>
        if isText description (entryValue item "x.com.samsung.da.description") then
          setEntry item "x.com.samsung.da.desired" (.str desired)
        else item
      if items = [] then return .rejected
      else return .write ["temperatures", "vs", "0"] [(itemsKey, .list (items.map .dict))]

/-- `_fridge_temp`. -/
def fridgeTemp : TextTables → String → Snapshot → Except PythonException CommandResult :=
  setTemperature "Fridge"

/-- `_freezer_temp`. -/
def freezerTemp : TextTables → String → Snapshot → Except PythonException CommandResult :=
  setTemperature "Freezer"

end Fridge

end SmartThingsLocal
