import SmartThingsLocal.Foundation.DecimalText
import SmartThingsLocal.Ocf.StateCache

/-!
# The oven's cook program

The board's own `modeSpec`, the program that the bridge stages, and the command handlers that start
a cook with it.
-/

namespace SmartThingsLocal

/-- A decoded value of the appliance or of a command. -/
inductive PyValue
  | none
  | bool (value : Bool)
  | int (value : ℤ)
  | float (value : ℚ)
  | nan
  | infinity
  | str (text : String)
  | list (items : List PyValue)
  | dict (entries : List (String × PyValue))

namespace Oven

/-- The resources of the oven by href. -/
abbrev Links : Type := OrderedDict String (Rep PyValue)

/--
`json.loads`, with nothing where it raises; `_int(_num(value))`, which raises for an infinite
number and is `None` for what is no number; and `dict(value)` of what is no dictionary.
-/
structure Context where
  tables : TextTables
  loads : String → Option PyValue
  num : PyValue → Option (Option ℤ)
  dictOf : PyValue → Option (List (String × PyValue))

def setpointStepC : ℤ := 5

def programModes : List String :=
  ["Convection", "TopHeatPluseConvection", "Conventional", "LargeGrill", "SmallGrill",
    "BottomHeatPluseConvection", "PlateWarm", "KeepWarm", "Bottom", "EcoConvection", "FanGrill",
    "Defrost"]

def notSupported : String := "NotSupported"

/-- The value of a key of a resource, `None` where there is none. -/
def value (links : Links) (href key : String) : PyValue :=
  ((links.get? href).bind (·.get? key)).getD .none

def entryValue (entry : List (String × PyValue)) (key : String) : PyValue :=
  (entry.lookup key).getD .none

def isText (text : String) : PyValue → Bool
  | .str other => other = text
  | _ => false

/-! ### The mode specification -/

/-- `_int`, which raises for an infinite number. -/
def intOf (tables : TextTables) : PyValue → Option (Option ℤ)
  | .bool value => some (some (if value then 1 else 0))
  | .int value => some (some value)
  | .float value => some (some (value.num.tdiv value.den))
  | .infinity => none
  | .str text => some (tables.limitedIntText text.toList)
  | _ => some none

/-- `_spec_int`. -/
def specInt (tables : TextTables) (entry : List (String × PyValue)) (key : String) :
    Option (Option ℤ) :=
  if isText notSupported (entryValue entry key) then some none
  else intOf tables (entryValue entry key)

/-- The three integers of a text such as `01:30:00`. -/
def partsOf (read : List Char → Option ℤ) (text : String) : Option (ℤ × ℤ × ℤ) :=
  match text.toList.splitOn ':' with
  | [hours, minutes, seconds] => do
      let h ← read hours
      let m ← read minutes
      let s ← read seconds
      some (h, m, s)
  | _ => none

/-- The parts of a declared duration. -/
def hmsParts (tables : TextTables) : PyValue → Option (ℤ × ℤ × ℤ)
  | .str text => if text = notSupported then none else partsOf tables.limitedIntText text
  | _ => none

/-- `_hms_to_minutes`: minutes, rounded up. -/
def hmsToMinutes (tables : TextTables) (text : PyValue) : Option ℤ :=
  (hmsParts tables text).map fun (h, m, s) => h * 60 + m + if s > 0 then 1 else 0

structure ModeSpec where
  control : PyValue
  startable : Bool
  tempMinC : Option ℤ
  tempMaxC : Option ℤ
  tempDefaultC : Option ℤ
  tempStepC : ℤ
  timeMin : Option ℤ
  timeMax : Option ℤ
  timeDefault : Option ℤ

/-- What the board declares of one mode. -/
def specOf (tables : TextTables) (entry : List (String × PyValue)) : Option ModeSpec := do
  let tempMinC ← specInt tables entry "tempMinC"
  let tempMaxC ← specInt tables entry "tempMaxC"
  let tempDefaultC ← specInt tables entry "tempDefaultC"
  let tempIntervalC ← specInt tables entry "tempIntervalC"
  some {
    control := entryValue entry "control"
    startable := isText "Start&Setting" (entryValue entry "control")
    tempMinC
    tempMaxC
    tempDefaultC
    tempStepC := if tempIntervalC.getD 0 = 0 then setpointStepC else tempIntervalC.getD 0
    timeMin := hmsToMinutes tables (entryValue entry "timeMin")
    timeMax := hmsToMinutes tables (entryValue entry "timeMax")
    timeDefault := hmsToMinutes tables (entryValue entry "timeDefault") }

/-- The entries of a list that name a mode. -/
def modeEntries (items : List PyValue) : List (String × List (String × PyValue)) :=
  items.filterMap fun item =>
    match item with
    | .dict entry =>
        match entryValue entry "mode" with
        | .str mode => some (mode, entry)
        | _ => none
    | _ => none

/-- The entries of the board's `modeSpec`, none where it is missing or does not parse. -/
def declaredModes (context : Context) (links : Links) :
    List (String × List (String × PyValue)) :=
  match value links "/mode/vs/0" "x.com.samsung.da.modeSpec" with
  | .str raw =>
      match context.loads raw with
      | some (.list items) => modeEntries items
      | _ => []
  | _ => []

/-- `parse_mode_spec`, which raises where a bound is infinite. -/
def parseModeSpec (context : Context) (links : Links) : Option (OrderedDict String ModeSpec) :=
  (declaredModes context links).foldlM
    (fun out entry => (specOf context.tables entry.2).map (out.set entry.1)) .empty

/-! ### Sensors -/

/-- The two sensors that a start depends on. -/
structure Sensors where
  remoteControlBinary : Option Bool
  machineState : PyValue

def samsungStateToOcf : List (String × String) :=
  [("Ready", "idle"), ("Run", "active"), ("Running", "active"), ("Pause", "pause"),
    ("Paused", "pause"), ("End", "idle"), ("Stop", "idle")]

/-- The part of `flatten` that a start depends on. -/
def flatten (links : Links) : Sensors where
  remoteControlBinary :=
    match value links "/remotectrl/vs/0" "x.com.samsung.da.remoteControlEnabled" with
    | .none => none
    | .bool enabled => some enabled
    | .str text => some (text.toLower = "true")
    | _ => some false
  machineState :=
    match value links "/operational/state/vs/0" "x.com.samsung.da.state" with
    | .str state => .str ((samsungStateToOcf.lookup state).getD state)
    | other => other

/-! ### The staged program -/

structure Program where
  mode : Option String := none
  tempC : Option ℤ := none
  minutes : Option ℤ := none
  deriving DecidableEq

/-- `_apply_mode_defaults`. -/
def Program.applyDefaults (program : Program) (spec : ModeSpec) : Program :=
  { program with tempC := spec.tempDefaultC, minutes := spec.timeDefault }

/-- Why a program cannot be sent. -/
inductive ProgramError
  | noProgram
  | noModeSpec
  | unknownMode (mode : String)
  | notStartable (mode : String) (control : PyValue)
  | needsTemperature (mode : String)
  | belowMinimumTemperature (mode : String) (temp low : ℤ)
  | aboveMaximumTemperature (mode : String) (temp high : ℤ)
  | needsDuration (mode : String)
  | belowMinimumDuration (mode : String) (minutes low : ℤ)
  | aboveMaximumDuration (mode : String) (minutes high : ℤ)
  | remoteControlOff
  | cycleRunning

/-- One of the two range checks: nothing, or why the number is refused. -/
def rangeError (low high number : Option ℤ) (missing : ProgramError)
    (below above : ℤ → ℤ → ProgramError) : Option ProgramError :=
  if low = none ∧ high = none then none
  else
    match number with
    | none => some missing
    | some number =>
        match low.filter (number < ·), high.filter (number > ·) with
        | some low, _ => some (below number low)
        | none, some high => some (above number high)
        | none, none => none

/-- `_program_error`. -/
def programError (program : Program) (specAll : OrderedDict String ModeSpec)
    (sensors : Sensors) : Option ProgramError :=
  match program.mode.filter (· ≠ "") with
  | none => some .noProgram
  | some mode =>
      if specAll.size = 0 then some .noModeSpec
      else
        match specAll.get? mode with
        | none => some (.unknownMode mode)
        | some spec =>
            if ¬spec.startable then some (.notStartable mode spec.control)
            else
              (rangeError spec.tempMinC spec.tempMaxC program.tempC (.needsTemperature mode)
                  (.belowMinimumTemperature mode) (.aboveMaximumTemperature mode)).or
                ((rangeError spec.timeMin spec.timeMax program.minutes (.needsDuration mode)
                  (.belowMinimumDuration mode) (.aboveMaximumDuration mode)).or
                (if sensors.remoteControlBinary ≠ some true then some .remoteControlOff
                else if isText "active" sensors.machineState then some .cycleRunning
                else none))

/-! ### The start -/

/-- What one element of the batch carries. -/
inductive BatchRep
  | absent
  | modes (names : List String)
  | item (desired : String) (id : String) (unit : PyValue)
  | operation (state : String) (operationTime : Option String)

structure BatchElement where
  href : String
  rep : BatchRep

/-- `_hms_wire`. -/
def hmsWire (minutes : ℤ) : String :=
  String.ofList (paddedText (minutes / 60) ++ ':' :: (paddedText (minutes % 60) ++ [':', '0', '0']))

def truthy : PyValue → Bool
  | .none => false
  | .bool value => value
  | .int value => value ≠ 0
  | .float value => value ≠ 0
  | .nan | .infinity => true
  | .str text => text ≠ ""
  | .list items => !items.isEmpty
  | .dict entries => !entries.isEmpty

/-- What a `for` loop over a value takes, which raises where the value is not iterable. -/
def iterated : PyValue → Option (List PyValue)
  | .list items => some items
  | .dict entries => some (entries.map fun entry => .str entry.1)
  | .str text => some (text.toList.map fun char => .str (String.ofList [char]))
  | _ => none

/-- `dict(value)`. -/
def Context.dict (context : Context) : PyValue → Option (List (String × PyValue))
  | .dict entries => some entries
  | other => context.dictOf other

/-- `_temps_items`, with one empty item where there is none. -/
def tempsItems (context : Context) (links : Links) : Option (List (List (String × PyValue))) :=
  let items := value links "/temperatures/vs/0" "x.com.samsung.da.items"
  if truthy items then do
    let items ← iterated items
    items.mapM context.dict
  else some [[]]

/-- The unit of the first temperature item. -/
def temperatureUnit (context : Context) (links : Links) : Option PyValue :=
  (tempsItems context links).map fun items =>
    let unit := entryValue (items.headD []) "x.com.samsung.da.unit"
    if truthy unit then unit else .str "Celsius"

/-- `build_start_batch`. -/
def buildStartBatch (context : Context) (program : Program)
    (specAll : OrderedDict String ModeSpec) (links : Links) : Option (List BatchElement) := do
  let mode := program.mode.getD ""
  let spec := specAll.get? mode
  let heading : List BatchElement :=
    [⟨"/devices/0", .absent⟩, ⟨"/mode/vs/0", .modes [mode]⟩]
  let setpoint : List BatchElement ←
    if (spec.bind (·.tempMinC)).isSome ∨ (spec.bind (·.tempMaxC)).isSome then do
      let unit ← temperatureUnit context links
      let desired := match program.tempC with
        | none => "None"
        | some temp => String.ofList (decimalText temp)
      some [⟨"/temperatures/vs/0", .item desired "0" unit⟩]
    else some []
  some (heading ++ setpoint ++
    [⟨"/operational/state/vs/0", .operation "Run" (program.minutes.map hmsWire)⟩])

/-! ### Command handlers -/

/-- What a handler returns. -/
inductive Outcome
  | rejected
  | localOnly
  | batch (elements : List BatchElement)

/-- The staged program, which is empty until something is staged. -/
def staged (state : Option Program) : Program := state.getD {}

/-- `_program_mode`. -/
def programMode (context : Context) (state : Option Program) (payload : String) (links : Links) :
    Option (Option Program × Outcome) :=
  if payload ∈ ["None", "", "none"] then some (some {}, .localOnly)
  else if payload ∉ programModes then some (some (staged state), .rejected)
  else do
    let specAll ← parseModeSpec context links
    let program := { staged state with mode := some payload }
    some (some ((specAll.get? payload).elim program program.applyDefaults), .localOnly)

/-- `_program_temp`. -/
def programTemp (context : Context) (state : Option Program) (payload : String) :
    Option (Option Program × Outcome) := do
  match ← context.num (.str payload) with
  | none => some (state, .rejected)
  | some temp => some (some { staged state with tempC := some temp }, .localOnly)

/-- `_program_time`. -/
def programTime (context : Context) (state : Option Program) (payload : String) :
    Option (Option Program × Outcome) := do
  match ← context.num (.str payload) with
  | none => some (state, .rejected)
  | some minutes =>
      if minutes < 0 then some (state, .rejected)
      else some (some { staged state with minutes := some minutes }, .localOnly)

/-- `_start`. -/
def start (context : Context) (state : Option Program) (links : Links) :
    Option (Option Program × Outcome) := do
  let program := staged state
  let specAll ← parseModeSpec context links
  match programError program specAll (flatten links) with
  | some _ => some (some program, .rejected)
  | none =>
      let elements ← buildStartBatch context program specAll links
      some (some program, .batch elements)

/-- The program that a request asks for: the mode's defaults, but what the request says. -/
def requested (context : Context) (program : Program) (specAll : OrderedDict String ModeSpec)
    (mode : String) (req : List (String × PyValue)) : Option Program := do
  let program := { program with mode := some mode }
  let program := (specAll.get? mode).elim program program.applyDefaults
  let tempC ← match req.lookup "temp_c" with
    | none => some program.tempC
    | some temp => context.num temp
  let minutes ← match req.lookup "minutes" with
    | none => some program.minutes
    | some minutes => context.num minutes
  some { program with tempC, minutes }

/-- `_start_program`. -/
def startProgram (context : Context) (state : Option Program) (payload : String)
    (links : Links) : Option (Option Program × Outcome) :=
  match context.loads payload with
  | some (.dict req) =>
      match entryValue req "mode" with
      | .str mode =>
          if mode ∉ programModes then some (state, .rejected)
          else do
            let specAll ← parseModeSpec context links
            let program ← requested context (staged state) specAll mode req
            match programError program specAll (flatten links) with
            | some _ => some (some (staged state), .rejected)
            | none =>
                let elements ← buildStartBatch context program specAll links
                some (some program, .batch elements)
      | _ => some (state, .rejected)
  | _ => some (state, .rejected)

end Oven

end SmartThingsLocal
