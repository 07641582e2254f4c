import SmartThingsLocal.Oven.NumericCommands

/-!
# Numeric commands that raise nothing

An exception of a command handler reaches the MQTT callback. The handlers catch the `TypeError`
and the `ValueError` of their conversions. They do not catch the `OverflowError` of an infinite
number, `_setpoint` converts outside of its `try` statement, and a start reads the board's links.
The condition under which no handler raises is stated on the payload and the links.
-/

namespace SmartThingsLocal

open Raising

namespace Oven

/-! ### What the payload and the links must be -/

/-- The keys of a mode's numbers. -/
def specKeys : List String := ["tempMinC", "tempMaxC", "tempDefaultC", "tempIntervalC"]

/-- `json.loads` does not raise anything but what is caught. -/
def Loads (python : Interpreter) (text : String) : Prop :=
  ∀ error, python.loads text = .error error → isConversionError error = true

/-- The `modeSpec` is loaded, and no number that it declares is infinite. -/
def SpecReadable (python : Interpreter) (links : Links) : Prop :=
  ∀ raw, value links "/mode/vs/0" "x.com.samsung.da.modeSpec" = .str raw →
    Loads python raw ∧ ∀ items, python.loads raw = .ok (.list items) →
      ∀ entry ∈ modeEntries items, ∀ key ∈ specKeys, entryValue entry.2 key ≠ .infinity

/-- Every option before one that is no text comes after an option of this name. -/
def OptionReadable (name : String) : List PyValue → Prop
  | [] => True
  | .str option :: options => option.startsWith (name ++ "_") = true ∨ OptionReadable name options
  | _ :: _ => False

/-- A value that has a first element, or is empty. -/
def HasFirst (modes : PyValue) : Prop :=
  truthy modes = true → (∃ items, modes = .list items) ∨ ∃ text, modes = .str text

/-- A value, or an empty array in place of what is empty. -/
def orEmpty (options : PyValue) : PyValue := if truthy options then options else .list []

/-- The state of a running cycle. -/
def IsActive (state : PyValue) : Prop :=
  ∃ ocf, Commands.machineState state = .ok ocf ∧ isText "active" ocf = true

/-- A value that `str` takes, or `None`. -/
def HasText (python : Interpreter) (flag : PyValue) : Prop :=
  flag = .none ∨ Returns (python.str flag)

/-- A value that can be a key. -/
def Hashable : PyValue → Prop
  | .list _ | .dict _ => False
  | _ => True

/-- The signal strength, or the first of several. -/
def levelOf : PyValue → PyValue
  | .list items => items.headD .none
  | level => level

/-- The links whose reading raises nothing. -/
structure LinksReadable (python : Interpreter) (snapshot : Snapshot) : Prop where
  spec : SpecReadable python snapshot.links
  state : Hashable (value snapshot.links "/operational/state/vs/0" "x.com.samsung.da.state")
  temperatures : ∀ item ∈ (snapshot.items "/temperatures/vs/0").head?,
    entryValue item "x.com.samsung.da.current" ≠ .infinity ∧
      entryValue item "x.com.samsung.da.desired" ≠ .infinity
  remoteControl : HasText python
    (value snapshot.links "/remotectrl/vs/0" "x.com.samsung.da.remoteControlEnabled")
  modes : HasFirst (value snapshot.links "/mode/vs/0" "x.com.samsung.da.modes")
  options : ∃ options,
    iterated (orEmpty (value snapshot.links "/mode/vs/0" "x.com.samsung.da.options")) =
      some options ∧ ∀ name ∈ Commands.optionNames, OptionReadable name options
  firmware : HasText python
    (value snapshot.links "/otninformation/vs/0" "x.com.samsung.da.newVersionAvailable")
  progress : IsActive (value snapshot.links "/operational/state/vs/0" "x.com.samsung.da.state") →
    value snapshot.links "/operational/state/vs/0" "x.com.samsung.da.progressPercentage" ≠
      .infinity
  level : levelOf (value snapshot.links "/rm/wifi/vs/0" "x.com.samsung.rm.rssi") ≠ .infinity

/-- No number of the request overflows. -/
def RequestFinite (tables : TextTables) (req : List (String × PyValue)) : Prop :=
  ∀ key ∈ ["temp_c", "minutes"], ∀ asked, req.lookup key = some asked → ¬Overflows tables asked

/-- The integers that the text of a reason shows. -/
def ProgramError.numbers : ProgramError → List ℤ
  | .belowMinimumTemperature _ temp low => [temp, low]
  | .aboveMaximumTemperature _ temp high => [temp, high]
  | .belowMinimumDuration _ minutes low => [minutes, low]
  | .aboveMaximumDuration _ minutes high => [minutes, high]
  | _ => []

/-- A reason can be put into words. -/
def ReasonFits (python : Interpreter) (reason : ProgramError) : Prop :=
  (∀ number ∈ reason.numbers, FitsText number) ∧
    ∀ mode control, reason = .notStartable mode control → Returns (python.repr control)

/-- The numbers of a program can be written. -/
def BatchFits (program : Program) (specAll : OrderedDict String ModeSpec) : Prop :=
  (Commands.DeclaresTemperature specAll (program.mode.getD "") →
    ∀ temp ∈ program.tempC, FitsText temp) ∧
  ∀ minutes ∈ program.minutes, FitsText (minutes / 60)

/-- What a start says or writes has no integer with too many digits. -/
def StartFits (python : Interpreter) (program : Program) (specAll : OrderedDict String ModeSpec)
    (sensors : Sensors) : Prop :=
  (∀ reason, programError program specAll sensors = some reason → ReasonFits python reason) ∧
  (programError program specAll sensors = none → BatchFits program specAll)

/-- The condition of `_start_program`. -/
def StartSafe (python : Interpreter) (state : Option Program) (payload : String)
    (snapshot : Snapshot) : Prop :=
  Loads python payload ∧
  ∀ req mode, python.loads payload = .ok (.dict req) → entryValue req "mode" = .str mode →
    mode ∈ programModes →
    LinksReadable python snapshot ∧ RequestFinite python.tables req ∧
    ∀ specAll program sensors,
      Commands.parseModeSpec python snapshot.links = .ok specAll →
      Commands.requested python.tables (staged state) specAll mode req = .ok program →
      Commands.flatten python snapshot = .ok sensors →
      StartFits python program specAll sensors

/-! ### The mode specification -/

namespace Commands

variable {python : Interpreter} {tables : TextTables} {links : Links} {snapshot : Snapshot}

theorem returns_specInt_iff {entry : List (String × PyValue)} {key : String} :
    Returns (specInt tables entry key) ↔ entryValue entry key ≠ .infinity := by
  unfold specInt
  cases declared : entryValue entry key with
  | none => simp [returns_ok]
  | str text =>
      dsimp only
      split_ifs
      · simp [returns_ok]
      · exact returns_int_iff
  | _ => simp [isText, returns_int_iff]

theorem returns_specOf_iff {entry : List (String × PyValue)} :
    Returns (specOf tables entry) ↔ ∀ key ∈ specKeys, entryValue entry key ≠ .infinity := by
  unfold specOf
  rw [returns_bind_iff_of_forall fun _ => returns_bind_iff_of_forall fun _ =>
    returns_bind_iff_of_forall fun _ => returns_bind_iff_left fun _ => returns_pure _]
  simp [returns_specInt_iff, specKeys]

theorem returns_loads_iff {text : String} : Returns (loads python text) ↔ Loads python text :=
  returns_handle_iff

/-- A value other than `None` is what was loaded; `None` also stands for a caught error. -/
theorem loads_eq_ok_iff {text : String} {value : PyValue} (present : value ≠ .none) :
    loads python text = .ok value ↔ python.loads text = .ok value := by
  unfold loads
  cases python.loads text with
  | ok value => exact Iff.rfl
  | error error =>
      rw [handle]
      split_ifs <;> simp [present.symm]

theorem returns_specs_iff (items : List PyValue) :
    Returns ((modeEntries items).foldlM
      (fun out entry => (specOf tables entry.2).map (out.set entry.1))
      (OrderedDict.empty : OrderedDict String ModeSpec)) ↔
      ∀ entry ∈ modeEntries items, ∀ key ∈ specKeys, entryValue entry.2 key ≠ .infinity := by
  apply returns_foldlM_iff
  intro out entry
  rw [returns_map_iff, returns_specOf_iff]

theorem returns_parseModeSpec_iff :
    Returns (parseModeSpec python links) ↔ SpecReadable python links := by
  unfold parseModeSpec SpecReadable
  cases declared : value links "/mode/vs/0" "x.com.samsung.da.modeSpec" with
  | str raw =>
      simp only [PyValue.str.injEq, forall_eq']
      rw [returns_bind_iff, returns_loads_iff]
      refine and_congr_right fun _ => ?_
      constructor
      · intro returns items loaded
        exact (returns_specs_iff items).mp (returns _ ((loads_eq_ok_iff (by simp)).mpr loaded))
      · intro specs loaded read
        cases loaded with
        | list items =>
            exact (returns_specs_iff items).mpr (specs items ((loads_eq_ok_iff (by simp)).mp read))
        | _ => exact returns_pure _
  | _ => simp [returns_ok]

/-! ### The sensors -/

theorem returns_machineState_iff {state : PyValue} :
    Returns (machineState state) ↔ Hashable state := by
  cases state <;> simp [machineState, Hashable, returns_ok, not_returns_error]

theorem returns_binary_iff {flag : PyValue} :
    Returns (binary python flag) ↔ HasText python flag := by
  unfold HasText
  cases flag with
  | none => simp [binary, returns_ok]
  | _ => simp [binary, returns_map_iff]

theorem returns_temperatures_iff {items : List (List (String × PyValue))} :
    Returns (temperatures tables items) ↔ ∀ item ∈ items.head?,
      entryValue item "x.com.samsung.da.current" ≠ .infinity ∧
        entryValue item "x.com.samsung.da.desired" ≠ .infinity := by
  cases items with
  | nil => simp [temperatures, returns_ok]
  | cons item items =>
      rw [temperatures, returns_bind_iff_of_forall fun _ => returns_bind_iff_left fun _ =>
        returns_pure _]
      simp [returns_int_iff]

theorem returns_currentMode_iff {modes : PyValue} :
    Returns (currentMode modes) ↔ HasFirst modes := by
  unfold currentMode HasFirst
  rw [returns_ite_iff]
  cases modes <;> simp [returns_ok, not_returns_error]

theorem returns_optionValue_iff {name : String} {options : List PyValue} :
    Returns (optionValue name options) ↔ OptionReadable name options := by
  induction options with
  | nil => simp [optionValue, OptionReadable, returns_ok]
  | cons option options ih =>
      cases option with
      | str option =>
          rw [optionValue, OptionReadable, returns_ite_iff, ih]
          by_cases found : option.startsWith (name ++ "_") = true <;> simp [found, returns_ok]
      | _ => simp [optionValue, OptionReadable, not_returns_error]

theorem returns_optionValues_iff {options : PyValue} :
    Returns (optionValues options) ↔ ∃ items, iterated (orEmpty options) = some items ∧
      ∀ name ∈ optionNames, OptionReadable name items := by
  unfold optionValues
  rw [show (if truthy options then options else .list []) = orEmpty options from rfl]
  cases iterated (orEmpty options) with
  | none => simp [not_returns_error]
  | some items => simp [returns_mapM_iff, returns_optionValue_iff]

theorem returns_wifiRssiDbm_iff :
    Returns (wifiRssiDbm tables links) ↔
      levelOf (value links "/rm/wifi/vs/0" "x.com.samsung.rm.rssi") ≠ .infinity := by
  unfold wifiRssiDbm
  cases value links "/rm/wifi/vs/0" "x.com.samsung.rm.rssi" <;> exact returns_int_iff

theorem returns_progressPercentage_iff {state : PyValue} :
    Returns (progressPercentage tables links state) ↔ (isText "active" state = true →
      value links "/operational/state/vs/0" "x.com.samsung.da.progressPercentage" ≠
        .infinity) := by
  unfold progressPercentage
  rw [returns_ite_iff, returns_int_iff]
  exact and_iff_left fun _ => returns_ok _

theorem returns_sensorsOf_iff {state : PyValue} :
    Returns (sensorsOf python snapshot state) ↔
      Returns (temperatures python.tables (snapshot.items "/temperatures/vs/0")) ∧
      Returns (binary python
        (value snapshot.links "/remotectrl/vs/0" "x.com.samsung.da.remoteControlEnabled")) ∧
      Returns (currentMode (value snapshot.links "/mode/vs/0" "x.com.samsung.da.modes")) ∧
      Returns (optionValues (value snapshot.links "/mode/vs/0" "x.com.samsung.da.options")) ∧
      Returns (binary python
        (value snapshot.links "/otninformation/vs/0" "x.com.samsung.da.newVersionAvailable")) ∧
      Returns (parseModeSpec python snapshot.links) ∧
      Returns (progressPercentage python.tables snapshot.links state) ∧
      Returns (wifiRssiDbm python.tables snapshot.links) := by
  unfold sensorsOf
  dsimp only
  rw [returns_bind_iff_of_forall fun _ => returns_bind_iff_of_forall fun _ =>
    returns_bind_iff_of_forall fun _ => returns_bind_iff_of_forall fun _ =>
    returns_bind_iff_of_forall fun _ => returns_bind_iff_of_forall fun _ =>
    returns_bind_iff_of_forall fun _ => returns_bind_iff_left fun _ => returns_pure _]

/-- The links are read without an exception exactly when they are readable. -/
theorem returns_flatten_iff :
    Returns (flatten python snapshot) ↔ LinksReadable python snapshot := by
  unfold flatten
  simp only [returns_bind_iff, returns_machineState_iff, returns_sensorsOf_iff,
    returns_temperatures_iff, returns_binary_iff, returns_currentMode_iff,
    returns_optionValues_iff, returns_parseModeSpec_iff, returns_progressPercentage_iff,
    returns_wifiRssiDbm_iff]
  constructor
  · rintro ⟨hashable, rest⟩
    rcases returns_machineState_iff.mpr hashable with ⟨state, read⟩
    rcases rest state read with
      ⟨temperatures, remoteControl, modes, options, firmware, spec, -, level⟩
    refine ⟨spec, hashable, temperatures, remoteControl, modes, options, firmware, ?_, level⟩
    rintro ⟨ocf, reads, active⟩
    exact (rest ocf reads).2.2.2.2.2.2.1 active
  · intro readable
    refine ⟨readable.state, fun state read => ⟨readable.temperatures, readable.remoteControl,
      readable.modes, readable.options, readable.firmware, readable.spec, ?_, readable.level⟩⟩
    intro active
    exact readable.progress ⟨state, read, active⟩

/-! ### The start -/

theorem returns_intStr_iff {number : ℤ} : Returns (intStr number) ↔ FitsText number := by
  unfold intStr
  split_ifs with fits <;> simp [fits, returns_ok, not_returns_error]

theorem returns_reasonText_iff {reason : ProgramError} :
    Returns (reasonText python reason) ↔ ReasonFits python reason := by
  unfold ReasonFits
  cases reason with
  | notStartable mode control =>
      rw [reasonText, returns_bind_iff_left fun _ => returns_pure _]
      simp [ProgramError.numbers]
  | belowMinimumTemperature | aboveMaximumTemperature | belowMinimumDuration
  | aboveMaximumDuration =>
      rw [reasonText, returns_bind_iff_of_forall fun _ => returns_bind_iff_left fun _ =>
        returns_pure _]
      simp [ProgramError.numbers, returns_intStr_iff]
  | _ => simp [reasonText, ProgramError.numbers, returns_ok]

theorem returns_programError_iff {program : Program} {specAll : OrderedDict String ModeSpec}
    {sensors : Sensors} :
    Returns (programError python program specAll sensors) ↔
      ∀ reason, Oven.programError program specAll sensors = some reason →
        ReasonFits python reason := by
  unfold programError
  cases Oven.programError program specAll sensors with
  | none => simp [returns_ok]
  | some reason => simp [returns_map_iff, returns_reasonText_iff]

theorem returns_setpointElements_iff {program : Program}
    {specAll : OrderedDict String ModeSpec} :
    Returns (setpointElements program specAll snapshot) ↔
      (DeclaresTemperature specAll (program.mode.getD "") →
        ∀ temp ∈ program.tempC, FitsText temp) := by
  unfold setpointElements
  rw [returns_ite_iff, and_iff_left fun _ => returns_ok _]
  dsimp only
  rw [returns_map_iff]
  cases program.tempC with
  | none => simp [desiredText, returns_ok]
  | some temp => simp [desiredText, returns_intStr_iff]

theorem returns_operationTime_iff {program : Program} :
    Returns (operationTime program) ↔ ∀ minutes ∈ program.minutes, FitsText (minutes / 60) := by
  unfold operationTime
  cases program.minutes with
  | none => simp [returns_ok]
  | some minutes =>
      dsimp only
      unfold hmsWire
      rw [returns_map_iff, returns_ite_iff]
      simp [returns_ok, not_returns_error]

theorem returns_buildStartBatch_iff {program : Program}
    {specAll : OrderedDict String ModeSpec} :
    Returns (buildStartBatch program specAll snapshot) ↔ BatchFits program specAll := by
  unfold buildStartBatch BatchFits
  rw [returns_bind_iff_of_forall fun _ => returns_bind_iff_left fun _ => returns_pure _,
    returns_setpointElements_iff, returns_operationTime_iff]

theorem returns_requestedNumber_iff {req : List (String × PyValue)} {key : String}
    {number : Option ℤ} :
    Returns (requestedNumber tables req key number) ↔
      ∀ asked, req.lookup key = some asked → ¬Overflows tables asked := by
  unfold requestedNumber
  cases req.lookup key with
  | none => simp [returns_ok]
  | some asked => simp [int_num_returns_iff]

theorem returns_requested_iff {program : Program} {specAll : OrderedDict String ModeSpec}
    {mode : String} {req : List (String × PyValue)} :
    Returns (requested tables program specAll mode req) ↔ RequestFinite tables req := by
  unfold requested RequestFinite
  dsimp only
  rw [returns_bind_iff_of_forall fun _ => returns_bind_iff_left fun _ => returns_pure _]
  simp [returns_requestedNumber_iff]

/-- What is left of a start once its program is known. -/
theorem returns_finish_iff {program : Program} {specAll : OrderedDict String ModeSpec}
    {sensors : Sensors} {state : Option Program} :
    Returns (finish python state program specAll sensors snapshot) ↔
      StartFits python program specAll sensors := by
  unfold finish StartFits
  rw [returns_bind_iff, returns_programError_iff]
  refine and_congr_right fun fits => ?_
  unfold programError
  cases Oven.programError program specAll sensors with
  | some reason =>
      refine iff_of_true (fun text shown => ?_) (fun none => by cases none)
      rcases Fallible.map_eq_ok.mp shown with ⟨_, -, rfl⟩
      exact returns_pure _
  | none =>
      have batch : Returns (buildStartBatch program specAll snapshot >>= fun elements =>
          (pure (some program, CommandResult.batch ["device", "0"] elements) :
            Except PythonException (Option Program × CommandResult))) ↔
          BatchFits program specAll := by
        rw [returns_bind_iff_left fun _ => returns_pure _,
          returns_buildStartBatch_iff]
      constructor
      · intro returns _
        exact batch.mp (returns _ rfl)
      · intro fits reason same
        cases same
        exact batch.mpr (fits rfl)

theorem returns_startMode_iff {state : Option Program} {mode : String}
    {req : List (String × PyValue)} :
    Returns (startMode python state snapshot mode req) ↔
      LinksReadable python snapshot ∧ RequestFinite python.tables req ∧
      ∀ specAll program sensors, parseModeSpec python snapshot.links = .ok specAll →
        requested python.tables (staged state) specAll mode req = .ok program →
        flatten python snapshot = .ok sensors → StartFits python program specAll sensors := by
  unfold startMode
  simp only [returns_bind_iff, returns_parseModeSpec_iff, returns_requested_iff,
    returns_flatten_iff, returns_finish_iff]
  constructor
  · rintro ⟨spec, rest⟩
    rcases returns_parseModeSpec_iff.mpr spec with ⟨specAll, parsed⟩
    rcases rest specAll parsed with ⟨finite, afterSpec⟩
    have returns : Returns (requested python.tables (staged state) specAll mode req) :=
      returns_requested_iff.mpr finite
    rcases returns with ⟨program, asked⟩
    rcases afterSpec program asked with ⟨readable, -⟩
    exact ⟨readable, finite, fun own ownProgram sensors ownParsed ownAsked read =>
      ((rest own ownParsed).2 ownProgram ownAsked).2 sensors read⟩
  · rintro ⟨readable, finite, fits⟩
    exact ⟨readable.spec, fun specAll parsed => ⟨finite, fun program asked =>
      ⟨readable, fun sensors read => fits specAll program sensors parsed asked read⟩⟩⟩

/-- `_start_program` raises nothing exactly when its condition is met. -/
theorem returns_startProgram_iff {state : Option Program} {payload : String} :
    Returns (startProgram python state payload snapshot) ↔
      StartSafe python state payload snapshot := by
  unfold startProgram StartSafe
  rw [returns_bind_iff, returns_loads_iff]
  refine and_congr_right fun _ => ?_
  constructor
  · intro returns req mode loaded named known
    have started := returns _ ((loads_eq_ok_iff (by simp)).mpr loaded)
    simp only [named, if_pos known] at started
    exact returns_startMode_iff.mp started
  · intro safe loaded read
    cases loaded with
    | dict req =>
        dsimp only
        cases named : entryValue req "mode" with
        | str mode =>
            dsimp only
            split_ifs with known
            · exact returns_startMode_iff.mpr
                (safe req mode ((loads_eq_ok_iff (by simp)).mp read) named known)
            · exact returns_pure _
        | _ => exact returns_pure _
    | _ => exact returns_pure _

/-! ### The other handlers -/

variable {payload : String}

/-- A conversion of the payload inside of a `try` statement, which refuses infinite numbers with
an error that is not caught. -/
theorem returns_converted_iff {α : Type} {convert : Binary64 → Except PythonException α}
    (finite : ∀ number, (∀ negative, number ≠ .infinite negative) →
      ∀ error, convert number = .error error → isConversionError error = true)
    (infinite : ∀ negative, convert (.infinite negative) = .error .overflowError) :
    Returns (handle isConversionError none
      ((toFloat tables (.str payload) >>= convert).map some)) ↔
      ¬tables.ReadsInfinite payload.toList := by
  rw [returns_handle_iff, ← TextTables.floatText_infinite_iff]
  simp only [toFloat]
  cases reads : tables.floatText payload.toList with
  | none =>
      refine iff_of_true (fun error same => ?_) (by simp)
      cases same
      rfl
  | some number =>
      rw [Fallible.ok_bind]
      constructor
      · rintro caught ⟨negative, same⟩
        cases same
        have raised := caught .overflowError (by rw [infinite]; rfl)
        cases raised
      · intro notInfinite error same
        cases converted : convert number with
        | ok value =>
            rw [converted] at same
            cases same
        | error own =>
            rw [converted] at same
            cases same
            refine finite number (fun negative isInfinite => notInfinite ⟨negative, ?_⟩) _ converted
            rw [isInfinite]

theorem returns_programTemp_iff {state : Option Program} :
    Returns (programTemp tables state payload) ↔ ¬tables.ReadsInfinite payload.toList := by
  unfold programTemp
  rw [returns_bind_iff_left, int_num_returns_iff]
  · rfl
  · intro number
    cases number <;> exact returns_pure _

theorem returns_programTime_iff {state : Option Program} :
    Returns (programTime tables state payload) ↔ ¬tables.ReadsInfinite payload.toList := by
  unfold programTime
  rw [returns_bind_iff_left, int_num_returns_iff]
  · rfl
  · intro number
    cases number with
    | none => exact returns_pure _
    | some minutes =>
        dsimp only
        split_ifs <;> exact returns_pure _

theorem returns_cookTime_iff :
    Returns (cookTime tables payload) ↔ ¬tables.ReadsInfinite payload.toList := by
  unfold cookTime
  rw [returns_bind_iff_left]
  · refine returns_converted_iff (fun number isFinite error same => ?_) fun _ => rfl
    cases number with
    | infinite negative => exact absurd rfl (isFinite negative)
    | finite value => cases same
    | nan =>
        cases same
        rfl
  · intro minutes
    cases minutes with
    | none => exact returns_pure _
    | some minutes =>
        dsimp only
        split_ifs <;> exact returns_pure _

/-- Behind its `try` statement `_setpoint` refuses what is not finite. -/
theorem returns_setpoint_iff :
    Returns (setpoint tables payload snapshot) ↔
      ¬tables.ReadsInfinite payload.toList ∧ ¬tables.ReadsNan payload.toList := by
  have later (temp : Binary64) : Returns (setpointOf temp snapshot) ↔
      Returns (round (temp.divRat setpointStepC)) := by
    unfold setpointOf
    refine returns_bind_iff_left fun steps => ?_
    dsimp only
    split_ifs
    · cases snapshot.items "/temperatures/vs/0" <;> exact returns_pure _
    · exact returns_pure _
  unfold setpoint
  rw [← TextTables.floatText_infinite_iff, ← TextTables.floatText_nan_iff]
  simp only [toFloat]
  cases reads : tables.floatText payload.toList with
  | none => simp [handle, Except.map, isConversionError, returns_pure]
  | some number =>
      rw [Fallible.map_ok, handle, Fallible.ok_bind]
      dsimp only
      rw [later]
      cases number with
      | finite value =>
          rcases TextTables.ofRat_of_floatText reads with ⟨number, rounded⟩
          rcases Binary64.divRat_of_ofRat rounded (by decide : (2 : ℚ) ≤ setpointStepC) with
            ⟨quotient, divided⟩
          rw [divided]
          simp [round, returns_ok]
      | infinite negative => simp [Binary64.divRat, round, not_returns_error]
      | nan => simp [Binary64.divRat, round, not_returns_error]

end Commands

end Oven

namespace Fridge

open Oven

theorem returns_setTemperature_iff {tables : TextTables} {payload : String} {snapshot : Snapshot}
    {description : String} :
    Returns (setTemperature description tables payload snapshot) ↔
      ¬tables.ReadsInfinite payload.toList := by
  unfold setTemperature
  rw [returns_bind_iff_left]
  · rw [bind_assoc]
    refine Commands.returns_converted_iff (fun number isFinite error same => ?_) fun _ => rfl
    cases number with
    | infinite negative => exact absurd rfl (isFinite negative)
    | finite value =>
        -- an integer that is too long to be written is refused with an error that is caught
        simp only [truncate, Fallible.ok_bind, intStr] at same
        split_ifs at same
        cases same
        rfl
    | nan =>
        cases same
        rfl
  · intro desired
    cases desired with
    | none => exact returns_pure _
    | some desired =>
        dsimp only
        split_ifs <;> exact returns_pure _

end Fridge

end SmartThingsLocal
