import SmartThingsLocal.Foundation.Joined
import SmartThingsLocal.Oven.NumericCommands
import SmartThingsLocal.Oven.StartBounds

/-!
# Starts with the interpreter's limits

Where a handler of a program raises nothing, it returns what `Oven.Program` has for it, so a batch
that it sends is inside the declared bounds in the same cases. `str` must be that of the language.
-/

namespace SmartThingsLocal

open Raising

/-- The context of a start, as the interpreter has it. -/
def Interpreter.context (python : Interpreter) : Oven.Context where
  tables := python.tables
  loads := fun text => (python.loads text).toOption
  num := fun value => (Oven.num python.tables value >>= Oven.int python.tables).toOption
  dictOf := fun _ => none

namespace Oven

namespace Commands

/-- `_program_mode`. -/
def programMode (python : Interpreter) (state : Option Program) (payload : String)
    (snapshot : Snapshot) : Except PythonException (Option Program × CommandResult) :=
  if payload ∈ ["None", "", "none"] then return (some {}, .localOnly)
  else if payload ∉ programModes then return (some (staged state), .rejected)
  else do
    let specAll ← parseModeSpec python snapshot.links
    let program := { staged state with mode := some payload }
    return (some ((specAll.get? payload).elim program program.applyDefaults), .localOnly)

/-- `_start`. -/
def start (python : Interpreter) (state : Option Program) (snapshot : Snapshot) :
    Except PythonException (Option Program × CommandResult) := do
  let specAll ← parseModeSpec python snapshot.links
  let sensors ← flatten python snapshot
  finish python state (staged state) specAll sensors snapshot

end Commands

/-- The commands that stage a program or start it. -/
inductive ProgramCommand
  | mode (payload : String)
  | temp (payload : String)
  | time (payload : String)
  | starts (command : StartCommand)

namespace ProgramCommand

def handle (context : Context) (state : Option Program) (links : Links) :
    ProgramCommand → Option (Option Program × Outcome)
  | mode payload => programMode context state payload links
  | temp payload => programTemp context state payload
  | time payload => programTime context state payload
  | starts command => command.handle context state links

/-- The handler with the interpreter's limits. -/
def run (python : Interpreter) (state : Option Program) (snapshot : Snapshot) :
    ProgramCommand → Except PythonException (Option Program × CommandResult)
  | mode payload => Commands.programMode python state payload snapshot
  | temp payload => Commands.programTemp python.tables state payload
  | time payload => Commands.programTime python.tables state payload
  | starts .start => Commands.start python state snapshot
  | starts (.startProgram payload) => Commands.startProgram python state payload snapshot

end ProgramCommand

inductive CommandResult.Matches : CommandResult → Outcome → Prop
  | rejected : Matches .rejected .rejected
  | localOnly : Matches .localOnly .localOnly
  | batch (path : List String) (elements : List BatchElement) :
      Matches (.batch path elements) (.batch elements)

/-- The same staged program and the same result. -/
def Matched (ran : Option Program × CommandResult) (own : Option Program × Outcome) : Prop :=
  ran.1 = own.1 ∧ ran.2.Matches own.2

/-- `str` of a flag. -/
structure StrLaw (python : Interpreter) : Prop where
  bool : ∀ enabled, python.str (.bool enabled) = .ok (if enabled then "True" else "False")
  text : ∀ text, python.str (.str text) = .ok text
  other : ∀ flag text, python.str flag = .ok text → (∀ enabled, flag ≠ .bool enabled) →
    (∀ own, flag ≠ .str own) → text.toLower ≠ "true"

variable {python : Interpreter} {tables : TextTables} {snapshot : Snapshot}
  {state : Option Program} {payload : String}

/-! ### The mode specification -/

theorem int_refines {value : PyValue} : Refines Eq (int tables value) (intOf tables value) := by
  cases value with
  | infinity => exact refines_error _
  | str text =>
      simp only [int, toInt, intOf]
      cases tables.limitedIntText text.toList <;> exact refines_ok rfl
  | _ => exact refines_ok rfl

theorem specInt_refines {entry : List (String × PyValue)} {key : String} :
    Refines Eq (Commands.specInt tables entry key) (specInt tables entry key) := by
  unfold Commands.specInt specInt
  cases declared : entryValue entry key with
  | none => exact refines_ok rfl
  | _ =>
      dsimp only
      split_ifs
      · exact refines_ok rfl
      · exact int_refines

theorem specOf_refines {entry : List (String × PyValue)} :
    Refines Eq (Commands.specOf tables entry) (specOf tables entry) := by
  unfold Commands.specOf specOf
  refine refines_bind specInt_refines ?_
  rintro low _ rfl
  refine refines_bind specInt_refines ?_
  rintro high _ rfl
  refine refines_bind specInt_refines ?_
  rintro default _ rfl
  refine refines_bind specInt_refines ?_
  rintro step _ rfl
  exact refines_ok rfl

theorem parseModeSpec_refines :
    Refines Eq (Commands.parseModeSpec python snapshot.links)
      (parseModeSpec python.context snapshot.links) := by
  unfold Commands.parseModeSpec parseModeSpec declaredModes
  cases declared : value snapshot.links "/mode/vs/0" "x.com.samsung.da.modeSpec" with
  | str raw =>
      dsimp only [Interpreter.context]
      cases loaded : python.loads raw with
      | error error =>
          rw [Commands.loads, loaded, handle]
          split_ifs
          · exact refines_ok rfl
          · exact refines_error error
      | ok items =>
          rw [Commands.loads, loaded, handle, Fallible.ok_bind]
          cases items with
          | list items =>
              refine refines_foldlM (fun entry _ specs own same => ?_) rfl
              cases same
              refine refines_map specOf_refines ?_
              rintro spec _ rfl
              rfl
          | _ => exact refines_ok rfl
  | _ => exact refines_ok rfl

/-! ### The sensors -/

theorem binary_refines (law : StrLaw python) :
    Refines Eq
      (Commands.binary python
        (value snapshot.links "/remotectrl/vs/0" "x.com.samsung.da.remoteControlEnabled"))
      (some (flatten snapshot.links).remoteControlBinary) := by
  unfold flatten
  dsimp only
  cases value snapshot.links "/remotectrl/vs/0" "x.com.samsung.da.remoteControlEnabled" with
  | none => exact refines_ok rfl
  | bool enabled =>
      have yes : "True".toLower = "true" := by decide +kernel
      have no : "False".toLower ≠ "true" := by decide +kernel
      rw [Commands.binary, law.bool]
      · refine refines_ok ?_
        cases enabled <;> simp [yes, no]
      · intro same
        cases same
  | str text =>
      rw [Commands.binary, law.text]
      · exact refines_ok rfl
      · intro same
        cases same
  | _ =>
      intro result shown
      rcases Fallible.map_eq_ok.mp shown with ⟨text, written, rfl⟩
      refine ⟨some false, rfl, ?_⟩
      have differs := law.other _ text written (by simp) (by simp)
      simp [differs]

theorem machineState_refines :
    Refines Eq
      (Commands.machineState
        (value snapshot.links "/operational/state/vs/0" "x.com.samsung.da.state"))
      (some (flatten snapshot.links).machineState) := by
  unfold flatten
  dsimp only
  cases value snapshot.links "/operational/state/vs/0" "x.com.samsung.da.state" with
  | list _ | dict _ => exact refines_error _
  | _ => exact refines_ok rfl

theorem flatten_refines (law : StrLaw python) :
    Refines Eq (Commands.flatten python snapshot) (some (flatten snapshot.links)) := by
  intro sensors ran
  rcases Fallible.bind_eq_ok.mp ran with ⟨state, read, rest⟩
  rcases Fallible.bind_eq_ok.mp rest with ⟨temperatures, -, rest⟩
  rcases Fallible.bind_eq_ok.mp rest with ⟨remoteControl, enabled, rest⟩
  rcases Fallible.bind_eq_ok.mp rest with ⟨mode, -, rest⟩
  rcases Fallible.bind_eq_ok.mp rest with ⟨options, -, rest⟩
  rcases Fallible.bind_eq_ok.mp rest with ⟨firmware, -, rest⟩
  rcases Fallible.bind_eq_ok.mp rest with ⟨spec, -, rest⟩
  rcases Fallible.bind_eq_ok.mp rest with ⟨progress, -, rest⟩
  rcases Fallible.bind_eq_ok.mp rest with ⟨level, -, rest⟩
  cases rest
  rcases machineState_refines state read with ⟨_, same, rfl⟩
  rcases binary_refines law remoteControl enabled with ⟨_, sameControl, rfl⟩
  cases same
  cases sameControl
  exact ⟨_, rfl, rfl⟩

/-! ### The request and the batch -/

theorem requestedNumber_refines {req : List (String × PyValue)} {key : String}
    {number : Option ℤ} :
    Refines Eq (Commands.requestedNumber python.tables req key number)
      ((req.lookup key).elim (some number) python.context.num) := by
  unfold Commands.requestedNumber
  cases req.lookup key with
  | none => exact refines_ok rfl
  | some asked => exact refines_toOption

theorem requested_refines {program : Program} {specAll : OrderedDict String ModeSpec}
    {mode : String} {req : List (String × PyValue)} :
    Refines Eq (Commands.requested python.tables program specAll mode req)
      (requested python.context program specAll mode req) := by
  have sequence : requested python.context program specAll mode req =
      let program := { program with mode := some mode }
      let program := (specAll.get? mode).elim program program.applyDefaults
      ((req.lookup "temp_c").elim (some program.tempC) python.context.num).bind fun tempC =>
        ((req.lookup "minutes").elim (some program.minutes) python.context.num).bind fun minutes =>
          some { program with tempC, minutes } := by
    unfold requested
    cases req.lookup "temp_c" <;> cases req.lookup "minutes" <;> rfl
  rw [sequence]
  refine refines_bind requestedNumber_refines ?_
  rintro temp _ rfl
  refine refines_bind requestedNumber_refines ?_
  rintro minutes _ rfl
  exact refines_ok rfl

theorem tempsItems_headD (context : Context) (snapshot : Snapshot) :
    (tempsItems context snapshot.links).map (·.headD []) =
      some ((snapshot.items "/temperatures/vs/0").headD []) := by
  unfold tempsItems
  dsimp only
  rcases snapshot.items_cases "/temperatures/vs/0" with ⟨missing, none⟩ | listed
  · unfold itemsKey at missing
    rw [missing, none]
    rfl
  · unfold itemsKey at listed
    rw [listed]
    cases snapshot.items "/temperatures/vs/0" with
    | nil => rfl
    | cons item items =>
        have dicts (items : List (List (String × PyValue))) :
            (items.map PyValue.dict).mapM context.dict = some items := by
          induction items with
          | nil => rfl
          | cons item items ih => simp [ih, Context.dict]
        simp only [truthy, iterated, List.map_cons, List.isEmpty_cons, Bool.not_false, if_true,
          Option.bind_eq_bind, Option.bind_some]
        rw [← List.map_cons, dicts]
        rfl

theorem operationTime_refines {program : Program} :
    Refines Eq (Commands.operationTime program) (some (program.minutes.map hmsWire)) := by
  unfold Commands.operationTime
  cases program.minutes with
  | none => exact refines_ok rfl
  | some minutes =>
      dsimp only
      unfold Commands.hmsWire
      split_ifs
      · exact refines_ok rfl
      · exact refines_error _

theorem desiredText_refines {temp : Option ℤ} :
    Refines Eq (Commands.desiredText temp)
      (some (temp.elim "None" fun temp => String.ofList (decimalText temp))) := by
  cases temp with
  | none => exact refines_ok rfl
  | some temp =>
      unfold Commands.desiredText intStr
      dsimp only
      split_ifs
      · exact refines_ok rfl
      · exact refines_error _

/-- The unit of an item, Celsius where it has none. -/
def unitOf (item : List (String × PyValue)) : PyValue :=
  let unit := entryValue item "x.com.samsung.da.unit"
  if truthy unit then unit else .str "Celsius"

theorem temperatureUnit_snapshot (context : Context) (snapshot : Snapshot) :
    temperatureUnit context snapshot.links =
      some (unitOf ((snapshot.items "/temperatures/vs/0").headD [])) := by
  rcases Option.map_eq_some_iff.mp (tempsItems_headD context snapshot) with ⟨items, taken, first⟩
  rw [temperatureUnit, taken, ← first]
  rfl

theorem setpointElements_refines {program : Program} {specAll : OrderedDict String ModeSpec} :
    Refines Eq (Commands.setpointElements program specAll snapshot)
      (some (if Commands.DeclaresTemperature specAll (program.mode.getD "") then
        [⟨"/temperatures/vs/0",
          .item (program.tempC.elim "None" fun temp => String.ofList (decimalText temp)) "0"
            (unitOf ((snapshot.items "/temperatures/vs/0").headD []))⟩]
      else [])) := by
  unfold Commands.setpointElements
  split_ifs
  · intro elements ran
    rcases Fallible.map_eq_ok.mp ran with ⟨desired, written, rfl⟩
    rcases desiredText_refines desired written with ⟨_, same, rfl⟩
    cases same
    exact ⟨_, rfl, rfl⟩
  · exact refines_ok rfl

theorem buildStartBatch_refines (context : Context) {program : Program}
    {specAll : OrderedDict String ModeSpec} :
    Refines Eq (Commands.buildStartBatch program specAll snapshot)
      (buildStartBatch context program specAll snapshot.links) := by
  intro elements ran
  rcases Fallible.bind_eq_ok.mp ran with ⟨setpoint, written, rest⟩
  rcases Fallible.bind_eq_ok.mp rest with ⟨operationTime, timed, ended⟩
  cases ended
  rcases setpointElements_refines setpoint written with ⟨_, same, rfl⟩
  rcases operationTime_refines operationTime timed with ⟨_, sameTime, rfl⟩
  cases same
  cases sameTime
  refine ⟨_, ?_, rfl⟩
  unfold buildStartBatch
  rw [temperatureUnit_snapshot]
  dsimp only
  by_cases declares : Commands.DeclaresTemperature specAll (program.mode.getD "")
  · rw [if_pos declares]
    unfold Commands.DeclaresTemperature at declares
    rw [if_pos declares]
    cases program.tempC <;> rfl
  · rw [if_neg declares]
    unfold Commands.DeclaresTemperature at declares
    rw [if_neg declares]
    rfl

/-! ### The handlers -/

theorem programTemp_refines :
    Refines Matched (Commands.programTemp python.tables state payload)
      (programTemp python.context state payload) := by
  unfold Commands.programTemp programTemp
  refine refines_bind refines_toOption ?_
  rintro temp _ rfl
  cases temp with
  | none => exact refines_ok ⟨rfl, .rejected⟩
  | some temp => exact refines_ok ⟨rfl, .localOnly⟩

theorem programTime_refines :
    Refines Matched (Commands.programTime python.tables state payload)
      (programTime python.context state payload) := by
  unfold Commands.programTime programTime
  refine refines_bind refines_toOption ?_
  rintro minutes _ rfl
  cases minutes with
  | none => exact refines_ok ⟨rfl, .rejected⟩
  | some minutes =>
      dsimp only
      split_ifs
      · exact refines_ok ⟨rfl, .rejected⟩
      · exact refines_ok ⟨rfl, .localOnly⟩

/-- The end of a start, where the program is refused for the same reason. -/
theorem finish_matches {program : Program} {specAll : OrderedDict String ModeSpec}
    {sensors : Sensors} {after : Option Program × CommandResult}
    (ran : Commands.finish python state program specAll sensors snapshot = .ok after) :
    (∃ reason, programError program specAll sensors = some reason ∧
      after = (some (staged state), .rejected)) ∨
    programError program specAll sensors = none ∧
      ∃ elements, buildStartBatch python.context program specAll snapshot.links = some elements ∧
        after = (some program, .batch ["device", "0"] elements) := by
  rcases Fallible.bind_eq_ok.mp ran with ⟨text, checked, rest⟩
  unfold Commands.programError at checked
  cases refused : programError program specAll sensors with
  | some reason =>
      rw [refused] at checked
      rcases Fallible.map_eq_ok.mp checked with ⟨shown, -, rfl⟩
      cases rest
      exact .inl ⟨reason, rfl, rfl⟩
  | none =>
      rw [refused] at checked
      cases checked
      rcases Fallible.bind_eq_ok.mp rest with ⟨elements, built, ended⟩
      cases ended
      rcases buildStartBatch_refines python.context elements built with ⟨_, same, rfl⟩
      exact .inr ⟨rfl, elements, same, rfl⟩

/-- The check of a program against the sensors that are read, and the batch. -/
theorem checked_refines (law : StrLaw python) {program : Program}
    {specAll : OrderedDict String ModeSpec} :
    Refines Matched
      (Commands.flatten python snapshot >>= fun sensors =>
        Commands.finish python state program specAll sensors snapshot)
      (match programError program specAll (flatten snapshot.links) with
      | some _ => some (some (staged state), .rejected)
      | none =>
          (buildStartBatch python.context program specAll snapshot.links).bind fun elements =>
            some (some program, .batch elements)) := by
  intro after ran
  rcases Fallible.bind_eq_ok.mp ran with ⟨sensors, read, ended⟩
  rcases flatten_refines law sensors read with ⟨_, same, rfl⟩
  cases same
  rcases finish_matches ended with ⟨reason, refused, rfl⟩ | ⟨accepted, elements, built, rfl⟩
  · rw [refused]
    exact ⟨_, rfl, rfl, .rejected⟩
  · rw [accepted]
    dsimp only
    rw [built]
    exact ⟨_, rfl, rfl, .batch _ _⟩

theorem programMode_refines :
    Refines Matched (Commands.programMode python state payload snapshot)
      (programMode python.context state payload snapshot.links) := by
  unfold Commands.programMode programMode
  by_cases cleared : payload ∈ ["None", "", "none"]
  · rw [if_pos cleared, if_pos cleared]
    exact refines_ok ⟨rfl, .localOnly⟩
  rw [if_neg cleared, if_neg cleared]
  by_cases unknown : payload ∉ programModes
  · rw [if_pos unknown, if_pos unknown]
    exact refines_ok ⟨rfl, .rejected⟩
  rw [if_neg unknown, if_neg unknown]
  refine refines_bind parseModeSpec_refines ?_
  rintro specAll _ rfl
  exact refines_ok ⟨rfl, .localOnly⟩

theorem start_refines (law : StrLaw python) :
    Refines Matched (Commands.start python state snapshot)
      (start python.context state snapshot.links) := by
  unfold Commands.start start
  refine refines_bind parseModeSpec_refines ?_
  rintro specAll _ rfl
  exact checked_refines law

/-- A start that raises nothing stages and sends what it does without the limits. -/
theorem startProgram_refines (law : StrLaw python) :
    Refines Matched (Commands.startProgram python state payload snapshot)
      (startProgram python.context state payload snapshot.links) := by
  have loads : python.context.loads payload = (python.loads payload).toOption := rfl
  unfold Commands.startProgram startProgram Commands.loads
  rw [loads]
  cases python.loads payload with
  | error error =>
      rw [handle]
      split_ifs
      · exact refines_ok ⟨rfl, .rejected⟩
      · exact refines_error error
  | ok req =>
      rw [handle, Fallible.ok_bind]
      cases req with
      | dict req =>
          dsimp only [Except.toOption]
          cases entryValue req "mode" with
          | str mode =>
              dsimp only
              by_cases known : mode ∈ programModes
              · rw [if_pos known, if_neg (not_not_intro known)]
                refine refines_bind parseModeSpec_refines ?_
                rintro specAll _ rfl
                refine refines_bind requested_refines ?_
                rintro program _ rfl
                exact checked_refines law
              · rw [if_neg known, if_pos known]
                exact refines_ok ⟨rfl, .rejected⟩
          | _ => exact refines_ok ⟨rfl, .rejected⟩
      | _ => exact refines_ok ⟨rfl, .rejected⟩

/-- A command that raises nothing stages and sends what it does without the limits. -/
theorem ProgramCommand.refines (law : StrLaw python) (command : ProgramCommand) :
    Refines Matched (command.run python state snapshot)
      (command.handle python.context state snapshot.links) := by
  cases command with
  | mode payload => exact programMode_refines
  | temp payload => exact programTemp_refines
  | time payload => exact programTime_refines
  | starts command =>
      cases command with
      | start => exact start_refines law
      | startProgram payload => exact startProgram_refines law

/-- With the limits too, only a start sends a batch, and it is inside the bounds of the board
exactly when the program asked for keeps them. -/
theorem ProgramCommand.run_bounds (law : StrLaw python) {command : ProgramCommand}
    {after : Option Program} {path : List String} {elements : List BatchElement}
    (ran : command.run python state snapshot = .ok (after, .batch path elements)) :
    ∃ starting program mode entry, command = .starts starting ∧
      starting.program? python.context state snapshot.links = some program ∧
      program.mode = some mode ∧
      declaredEntry python.context snapshot.links mode = some entry ∧
      (SafeStart python.context snapshot.links elements mode entry ↔
        KeepsBounds python.context snapshot.links program entry) := by
  rcases command.refines law _ ran with ⟨⟨own, outcome⟩, handled, -, sent⟩
  cases sent
  cases command with
  | starts starting =>
      rcases StartCommand.handle_bounds handled with ⟨program, mode, entry, bounds⟩
      exact ⟨starting, program, mode, entry, rfl, bounds⟩
  | mode payload =>
      rw [handle, programMode] at handled
      split_ifs at handled
      · cases handled
      · rcases Option.bind_eq_some_iff.mp handled with ⟨specAll, -, same⟩
        cases same
      · cases handled
  | temp payload =>
      rcases Option.bind_eq_some_iff.mp handled with ⟨_ | temp, -, same⟩ <;> cases same
  | time payload =>
      rcases Option.bind_eq_some_iff.mp handled with ⟨_ | minutes, -, same⟩
      · cases same
      · dsimp only at same
        split_ifs at same <;> cases same

end Oven

end SmartThingsLocal
