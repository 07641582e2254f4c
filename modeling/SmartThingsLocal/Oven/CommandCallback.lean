import SmartThingsLocal.Oven.PublishingSafety
import SmartThingsLocal.Session.RelationOperations

/-!
# Numeric commands in the MQTT callback

`handle_command` looks the handler of a message up by the end of its topic and calls it outside of
any `try` statement, so the callback raises what a numeric handler raises. A staged change is
published by the callback, outside of any `try` statement too; a write is sent inside of one, and
the cache catches what its merge sets off.
-/

namespace SmartThingsLocal

open Raising

namespace Oven

/-- The commands of the two appliances that read a number. -/
inductive NumericCommand
  | programTemp
  | programTime
  | startProgram
  | setpoint
  | cookTime
  | fridgeTemp
  | freezerTemp
  deriving DecidableEq

/-- The handler of a command. Only those of a program have a state. -/
def NumericCommand.handle (python : Interpreter) (state : Option Program) (payload : String)
    (snapshot : Snapshot) : NumericCommand →
      Except PythonException (Option Program × CommandResult)
  | programTemp => Commands.programTemp python.tables state payload
  | programTime => Commands.programTime python.tables state payload
  | startProgram => Commands.startProgram python state payload snapshot
  | setpoint => (Commands.setpoint python.tables payload snapshot).map (state, ·)
  | cookTime => (Commands.cookTime python.tables payload).map (state, ·)
  | fridgeTemp => (Fridge.fridgeTemp python.tables payload snapshot).map (state, ·)
  | freezerTemp => (Fridge.freezerTemp python.tables payload snapshot).map (state, ·)

/-- The condition of a handler on the payload and the links. -/
def NumericCommand.Safe (python : Interpreter) (state : Option Program) (payload : String)
    (snapshot : Snapshot) : NumericCommand → Prop
  | startProgram => StartSafe python state payload snapshot
  | setpoint =>
      ¬python.tables.ReadsInfinite payload.toList ∧ ¬python.tables.ReadsNan payload.toList
  | programTemp | programTime | cookTime | fridgeTemp | freezerTemp =>
      ¬python.tables.ReadsInfinite payload.toList

/-- The program that a payload stages: `_int(_num(payload))` in one of its fields. -/
def NumericCommand.Stages (tables : TextTables) (state : Option Program) (payload : String)
    (program : Program) : NumericCommand → Prop
  | programTemp => ∃ temp, (num tables (.str payload) >>= int tables) = .ok (some temp) ∧
      program = { staged state with tempC := some temp }
  | programTime => ∃ minutes, (num tables (.str payload) >>= int tables) = .ok (some minutes) ∧
      0 ≤ minutes ∧ program = { staged state with minutes := some minutes }
  | _ => False

/-- The numeric handlers of the oven by the ends of their topics. -/
def numericHandlers : List (String × NumericCommand) :=
  [("cmd/setpoint", .setpoint), ("cmd/cook_time", .cookTime), ("cmd/program_temp", .programTemp),
    ("cmd/program_time", .programTime), ("cmd/start_program", .startProgram)]

/-- The numeric handlers of the fridge. -/
def fridgeNumericHandlers : List (String × NumericCommand) :=
  [("cmd/fridge_setpoint", .fridgeTemp), ("cmd/freezer_setpoint", .freezerTemp)]

/-! ### The callback -/

/-- The representation of an element of a batch. -/
def BatchRep.entries : BatchRep → Option (List (String × PyValue))
  | .absent => none
  | .modes names => some [("x.com.samsung.da.modes", .list (names.map .str))]
  | .item desired id unit => some [(itemsKey, .list [.dict
      [("x.com.samsung.da.desired", .str desired), ("x.com.samsung.da.id", .str id),
        ("x.com.samsung.da.unit", unit)]])]
  | .operation state operationTime => some (("x.com.samsung.da.state", .str state) ::
      (operationTime.map fun time => ("x.com.samsung.da.operationTime", PyValue.str time)).toList)

def BatchElement.toPyValue (element : BatchElement) : PyValue :=
  .dict (("href", .str element.href) ::
    (element.rep.entries.map fun rep => ("rep", PyValue.dict rep)).toList)

/-- `_batch_targets`. -/
def batchTargets (elements : List BatchElement) : List (String × List (String × PyValue)) :=
  elements.filterMap fun element => element.rep.entries.map (element.href, ·)

/-- What the callback meets: the descriptor's state and the links when it publishes, whether there
is a session, and the code of a POST, nothing where that raises. -/
structure BridgeSurroundings where
  publishing : Publishing
  project : ProjectState
  latest : Snapshot
  connected : Bool
  post : List String → PyValue → Option ℕ

/-- What the callback has done: the sensors that it has published, or the hrefs that it has
deferred and the representations that it has merged. -/
inductive CallbackResult
  | unknown
  | rejected
  | published (sensors : Rep PyValue)
  | unsent
  | failed (deferred : List String)
  | sent (code : ℕ) (deferred : List String) (merged : List (String × List (String × PyValue)))

/-- A write to a session, and the merge of what it has changed. -/
def BridgeSurroundings.send (surroundings : BridgeSurroundings) (path : List String)
    (body : PyValue) (targets : List (String × List (String × PyValue))) : CallbackResult :=
  if ¬surroundings.connected then .unsent
  else
    let deferred := if targets.isEmpty then [Session.hrefOf path] else targets.map Prod.fst
    match surroundings.post path body with
    | none => .failed deferred
    | some code => .sent code deferred (if code >>> 5 = 2 then targets else [])

/-- `handle_command` behind its handler. -/
def afterHandler (python : Interpreter) (surroundings : BridgeSurroundings)
    (state : Option Program) : CommandResult → Except PythonException CallbackResult
  | .rejected => .ok .rejected
  | .localOnly =>
      (publishState python surroundings.publishing surroundings.project (staged state)
        surroundings.latest).map .published
  | .write path body =>
      .ok (surroundings.send path (.dict body) [(Session.hrefOf path, body)])
  | .batch path elements =>
      .ok (surroundings.send path (.list (elements.map BatchElement.toPyValue))
        (batchTargets elements))

/-- `handle_command`; other commands than the numeric ones are not modelled. -/
def handleCommand (handlers : List (String × NumericCommand)) (suffix : String)
    (python : Interpreter) (surroundings : BridgeSurroundings) (state : Option Program)
    (payload : String) (snapshot : Snapshot) :
    Except PythonException (Option Program × CallbackResult) :=
  match handlers.lookup suffix with
  | some command => do
      let (state, result) ← command.handle python state payload snapshot
      let outcome ← afterHandler python surroundings state result
      return (state, outcome)
  | none => .ok (state, .unknown)

variable {python : Interpreter} {surroundings : BridgeSurroundings} {state : Option Program}
  {payload : String} {snapshot : Snapshot}

namespace NumericCommand

theorem returns_handle_iff (command : NumericCommand) :
    Returns (command.handle python state payload snapshot) ↔
      command.Safe python state payload snapshot := by
  cases command with
  | programTemp => exact Commands.returns_programTemp_iff
  | programTime => exact Commands.returns_programTime_iff
  | startProgram => exact Commands.returns_startProgram_iff
  | setpoint =>
      rw [handle, returns_map_iff]
      exact Commands.returns_setpoint_iff
  | cookTime =>
      rw [handle, returns_map_iff]
      exact Commands.returns_cookTime_iff
  | fridgeTemp | freezerTemp =>
      rw [handle, returns_map_iff]
      exact Fridge.returns_setTemperature_iff

theorem programTemp_localOnly_iff {after : Option Program} :
    Commands.programTemp python.tables state payload = .ok (after, .localOnly) ↔
      ∃ program, programTemp.Stages python.tables state payload program ∧ after = some program := by
  unfold Commands.programTemp Stages
  rw [Fallible.bind_eq_ok]
  constructor
  · rintro ⟨_ | temp, read, result⟩
    · cases result
    · cases result
      exact ⟨_, ⟨temp, read, rfl⟩, rfl⟩
  · rintro ⟨_, ⟨temp, read, rfl⟩, rfl⟩
    exact ⟨some temp, read, rfl⟩

theorem programTime_localOnly_iff {after : Option Program} :
    Commands.programTime python.tables state payload = .ok (after, .localOnly) ↔
      ∃ program, programTime.Stages python.tables state payload program ∧ after = some program := by
  unfold Commands.programTime Stages
  rw [Fallible.bind_eq_ok]
  constructor
  · rintro ⟨_ | minutes, read, result⟩
    · cases result
    · dsimp only at result
      split_ifs at result with negative
      · cases result
      · cases result
        exact ⟨_, ⟨minutes, read, not_lt.mp negative, rfl⟩, rfl⟩
  · rintro ⟨_, ⟨minutes, read, natural, rfl⟩, rfl⟩
    refine ⟨some minutes, read, ?_⟩
    dsimp only
    rw [if_neg (not_lt.mpr natural)]
    rfl

theorem startProgram_sends {after : Option Program} :
    Commands.startProgram python state payload snapshot ≠ .ok (after, .localOnly) := by
  intro result
  rcases Fallible.bind_eq_ok.mp result with ⟨request, -, result⟩
  split at result
  case h_2 => cases result
  split at result
  case h_2 => cases result
  split_ifs at result
  case neg => cases result
  simp only [Commands.startMode, Commands.finish, Fallible.bind_eq_ok] at result
  rcases result with ⟨_, -, _, -, _, -, _ | _, -, result⟩
  · rcases Fallible.bind_eq_ok.mp result with ⟨_, -, result⟩
    cases result
  · cases result

theorem setpoint_sends : Commands.setpoint python.tables payload snapshot ≠ .ok .localOnly := by
  intro result
  rcases Fallible.bind_eq_ok.mp result with ⟨_ | temp, -, result⟩
  · cases result
  · rcases Fallible.bind_eq_ok.mp result with ⟨steps, -, result⟩
    dsimp only at result
    split_ifs at result
    · split at result <;> cases result
    · cases result

theorem cookTime_sends : Commands.cookTime python.tables payload ≠ .ok .localOnly := by
  intro result
  rcases Fallible.bind_eq_ok.mp result with ⟨_ | minutes, -, result⟩
  · cases result
  · dsimp only at result
    split_ifs at result <;> cases result

theorem setTemperature_sends {description : String} :
    Fridge.setTemperature description python.tables payload snapshot ≠ .ok .localOnly := by
  intro result
  rcases Fallible.bind_eq_ok.mp result with ⟨_ | desired, -, result⟩
  · cases result
  · dsimp only at result
    split_ifs at result <;> cases result

/-- A handler that has no state leaves it as it is. -/
theorem map_localOnly {handler : Except PythonException CommandResult} {after : Option Program}
    (sends : handler ≠ .ok .localOnly) : handler.map (state, ·) ≠ .ok (after, .localOnly) := by
  intro result
  rcases Fallible.map_eq_ok.mp result with ⟨own, returned, same⟩
  cases same
  exact sends returned

/-- A handler leaves a change to be published exactly when its payload stages a program. -/
theorem handle_localOnly_iff {command : NumericCommand} {after : Option Program} :
    command.handle python state payload snapshot = .ok (after, .localOnly) ↔
      ∃ program, command.Stages python.tables state payload program ∧ after = some program := by
  have stagesNothing {command : NumericCommand}
      (sends : command.handle python state payload snapshot ≠ .ok (after, .localOnly))
      (nothing : ∀ program, ¬command.Stages python.tables state payload program) :
      command.handle python state payload snapshot = .ok (after, .localOnly) ↔
        ∃ program, command.Stages python.tables state payload program ∧ after = some program := by
    refine iff_of_false sends ?_
    rintro ⟨program, stages, -⟩
    exact nothing program stages
  cases command with
  | programTemp => exact programTemp_localOnly_iff
  | programTime => exact programTime_localOnly_iff
  | startProgram => exact stagesNothing startProgram_sends fun _ => id
  | setpoint => exact stagesNothing (map_localOnly setpoint_sends) fun _ => id
  | cookTime => exact stagesNothing (map_localOnly cookTime_sends) fun _ => id
  | fridgeTemp | freezerTemp =>
      exact stagesNothing (map_localOnly setTemperature_sends) fun _ => id

end NumericCommand

theorem returns_afterHandler_iff {result : CommandResult} :
    Returns (afterHandler python surroundings state result) ↔ (result = .localOnly →
      PublishSafe python surroundings.publishing surroundings.project (staged state)
        surroundings.latest) := by
  cases result with
  | localOnly =>
      rw [afterHandler, returns_map_iff, returns_publishState_iff]
      exact ⟨fun safe _ => safe, fun safe => safe rfl⟩
  | _ => exact iff_of_true (returns_ok _) nofun

/-- The condition of the callback of a message that reaches a numeric handler. -/
structure NumericCommand.CallbackSafe (python : Interpreter) (surroundings : BridgeSurroundings)
    (state : Option Program) (payload : String) (snapshot : Snapshot)
    (command : NumericCommand) : Prop where
  handler : command.Safe python state payload snapshot
  publishing : ∀ program, command.Stages python.tables state payload program →
    PublishSafe python surroundings.publishing surroundings.project program surroundings.latest

theorem returns_handleCommand_iff (handlers : List (String × NumericCommand)) (suffix : String) :
    Returns (handleCommand handlers suffix python surroundings state payload snapshot) ↔
      ∀ command, handlers.lookup suffix = some command →
        command.CallbackSafe python surroundings state payload snapshot := by
  unfold handleCommand
  cases handlers.lookup suffix with
  | none => simp [returns_ok]
  | some command =>
      simp only [Option.some.injEq, forall_eq']
      rw [returns_bind_iff, NumericCommand.returns_handle_iff]
      constructor
      · rintro ⟨safe, rest⟩
        refine ⟨safe, fun program stages => ?_⟩
        have handled : command.handle python state payload snapshot =
            .ok (some program, .localOnly) :=
          NumericCommand.handle_localOnly_iff.mpr ⟨program, stages, rfl⟩
        have published := rest _ handled
        rw [returns_bind_iff_left fun _ => returns_pure _, returns_afterHandler_iff] at published
        exact published rfl
      · intro safe
        refine ⟨safe.handler, ?_⟩
        rintro ⟨after, result⟩ handled
        rw [returns_bind_iff_left fun _ => returns_pure _, returns_afterHandler_iff]
        rintro rfl
        rcases NumericCommand.handle_localOnly_iff.mp handled with ⟨program, stages, rfl⟩
        exact safe.publishing program stages

/--
Each handler raises nothing exactly under its condition. The callback of a message, to its end,
raises nothing exactly under the condition of the handler that it calls and, where the payload
stages a program, under that of publishing it.
-/
theorem numericCommand_returns_iff (python : Interpreter) (surroundings : BridgeSurroundings)
    (state : Option Program) (payload : String) (snapshot : Snapshot) :
    (∀ command : NumericCommand, Returns (command.handle python state payload snapshot) ↔
      command.Safe python state payload snapshot) ∧
    ∀ handlers suffix,
      Returns (handleCommand handlers suffix python surroundings state payload snapshot) ↔
        ∀ command, handlers.lookup suffix = some command →
          command.CallbackSafe python surroundings state payload snapshot :=
  ⟨NumericCommand.returns_handle_iff, returns_handleCommand_iff⟩

/-! ### Payloads that are not caught -/

/-- A start that asks for an infinite temperature. -/
def infiniteStart : String := "\x7b\"mode\": \"Convection\", \"temp_c\": Infinity\x7d"

/-- As much of the interpreter as that payload needs. -/
def sampleInterpreter : Interpreter where
  tables := .ascii
  loads := fun text =>
    if text = infiniteStart then .ok (.dict [("mode", .str "Convection"), ("temp_c", .infinity)])
    else .error .valueError
  str := fun _ => .ok ""
  repr := fun _ => .ok ""

def noLinks : Snapshot where
  links := .empty
  itemsHold := by
    intro href rep array present
    cases present

/-- The links of an oven whose signal strength is infinite. -/
def infiniteLevel : Snapshot where
  links := OrderedDict.empty.set "/rm/wifi/vs/0"
    (OrderedDict.empty.set "x.com.samsung.rm.rssi" .infinity)
  itemsHold := by
    intro href rep array present found
    rw [OrderedDict.get?_set] at present
    split_ifs at present
    · cases present
      rw [OrderedDict.get?_set, if_neg (by decide), OrderedDict.get?_empty] at found
      cases found
    · cases present

/-- Surroundings that raise nothing, with a session that takes every write. -/
def sampleBridge (latest : Snapshot) : BridgeSurroundings where
  publishing := ⟨0, fun _ => .ok "", fun _ => .ok "", fun _ => .ok (), fun _ => .ok ()⟩
  project := {}
  latest := latest
  connected := true
  post := fun _ _ => some 0x44

/-- The callback raises what publishing a staged program raises. -/
theorem handleCommand_stages {handlers : List (String × NumericCommand)} {suffix : String}
    {command : NumericCommand} {program : Program} {exception : PythonException}
    (found : handlers.lookup suffix = some command)
    (stages : command.Stages python.tables state payload program)
    (raises : publishState python surroundings.publishing surroundings.project program
      surroundings.latest = .error exception) :
    handleCommand handlers suffix python surroundings state payload snapshot =
      .error exception := by
  unfold handleCommand
  rw [found]
  dsimp only
  rw [NumericCommand.handle_localOnly_iff.mpr ⟨program, stages, rfl⟩, Fallible.ok_bind]
  simp only [afterHandler, staged, Option.getD_some, raises]
  rfl

theorem publishState_infiniteLevel (program : Program) :
    publishState sampleInterpreter (sampleBridge infiniteLevel).publishing {} program
      infiniteLevel = .error .overflowError := rfl

/-- An infinite number gets out of every handler, and a nan out of `_setpoint`; a staged
temperature is published in vain where the signal strength is infinite. -/
theorem numericCommand_raises :
    (∀ command : NumericCommand, command ≠ .startProgram →
      command.handle sampleInterpreter none "inf" noLinks = .error .overflowError) ∧
    NumericCommand.startProgram.handle sampleInterpreter none infiniteStart noLinks =
      .error .overflowError ∧
    NumericCommand.setpoint.handle sampleInterpreter none "nan" noLinks = .error .valueError ∧
    handleCommand numericHandlers "cmd/program_temp" sampleInterpreter (sampleBridge noLinks) none
      "inf" noLinks = .error .overflowError ∧
    handleCommand numericHandlers "cmd/program_temp" sampleInterpreter
      (sampleBridge infiniteLevel) none "180" infiniteLevel = .error .overflowError ∧
    handleCommand fridgeNumericHandlers "cmd/fridge_setpoint" sampleInterpreter
      (sampleBridge noLinks) none "inf" noLinks = .error .overflowError ∧
    ¬∀ command python state payload snapshot,
      Returns (NumericCommand.handle python state payload snapshot command) := by
  refine ⟨?_, rfl, rfl, rfl, ?_, rfl, ?_⟩
  · rintro (_ | _ | _ | _ | _ | _ | _) other
    case startProgram => exact absurd rfl other
    all_goals rfl
  · exact handleCommand_stages rfl ⟨180, by decide +kernel, rfl⟩ (publishState_infiniteLevel _)
  · intro returns
    exact not_returns_error PythonException.overflowError
      (returns .programTemp sampleInterpreter none "inf" noLinks)

end Oven

end SmartThingsLocal
