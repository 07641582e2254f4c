import SmartThingsLocal.Oven.Program

/-!
# Starts within the declared bounds

What a start has to keep of the board's own declaration, taken exactly, and when the handlers keep
it: they compare whole degrees without their unit and whole minutes rounded up.
-/

namespace SmartThingsLocal

namespace Oven

/-! ### The declaration -/

/-- The last entry that the board lists for a mode. -/
def declaredEntry (context : Context) (links : Links) (mode : String) :
    Option (List (String × PyValue)) :=
  (declaredModes context links).reverse.lookup mode

/-- A declared temperature, with its fraction; a text declares what `int` reads of it. -/
def declaredCelsius (tables : TextTables) (entry : List (String × PyValue)) (key : String) :
    Option ℚ :=
  if isText notSupported (entryValue entry key) then none
  else
    match entryValue entry key with
    | .bool value => some (if value then 1 else 0)
    | .int value => some value
    | .float value => some value
    | .str text => (tables.limitedIntText text.toList).map (↑)
    | _ => none

/-- A duration to the second. -/
def secondsOf (parts : ℤ × ℤ × ℤ) : ℤ := parts.1 * 3600 + parts.2.1 * 60 + parts.2.2

def declaredSeconds (tables : TextTables) (entry : List (String × PyValue)) (key : String) :
    Option ℤ :=
  (hmsParts tables (entryValue entry key)).map secondsOf

/-- The temperature that a number stands for in a unit. -/
def celsius (unit : PyValue) (temp : ℤ) : Option ℚ :=
  if isText "Celsius" unit then some temp
  else if isText "Fahrenheit" unit then some ((temp - 32) * 5 / 9)
  else none

/-- Within the bounds that there are. -/
def Within {α : Type} [LE α] (low high : Option α) (number : α) : Prop :=
  (∀ bound ∈ low, bound ≤ number) ∧ ∀ bound ∈ high, number ≤ bound

/-- A temperature is written that the mode declares, within its bounds. -/
def SafeTemperature (tables : TextTables) (entry : List (String × PyValue)) (desired : String)
    (unit : PyValue) : Prop :=
  (declaredCelsius tables entry "tempMinC" ≠ none ∨
    declaredCelsius tables entry "tempMaxC" ≠ none) ∧
  ∃ temp degrees, tables.intText desired.toList = some temp ∧ celsius unit temp = some degrees ∧
    Within (declaredCelsius tables entry "tempMinC") (declaredCelsius tables entry "tempMaxC")
      degrees

/-- A duration is written that the mode declares, within its bounds. -/
def SafeDuration (tables : TextTables) (entry : List (String × PyValue)) (text : String) : Prop :=
  (declaredSeconds tables entry "timeMin" ≠ none ∨
    declaredSeconds tables entry "timeMax" ≠ none) ∧
  ∃ parts, partsOf tables.intText text = some parts ∧
    Within (declaredSeconds tables entry "timeMin") (declaredSeconds tables entry "timeMax")
      (secondsOf parts)

/-- A batch that starts the oven inside the bounds of the board. -/
structure SafeStart (context : Context) (links : Links) (elements : List BatchElement)
    (mode : String) (entry : List (String × PyValue)) : Prop where
  declared : declaredEntry context links mode = some entry
  modes : ∀ element ∈ elements, ∀ names, element.rep = .modes names → names = [mode]
  startable : isText "Start&Setting" (entryValue entry "control") = true
  remote : (flatten links).remoteControlBinary = some true
  inactive : isText "active" (flatten links).machineState = false
  temperature : ∀ element ∈ elements, ∀ desired id unit, element.rep = .item desired id unit →
    SafeTemperature context.tables entry desired unit
  duration : ∀ element ∈ elements, ∀ state text, element.rep = .operation state (some text) →
    SafeDuration context.tables entry text

/-! ### The condition -/

/-- The commands that start a cook. -/
inductive StartCommand
  | start
  | startProgram (payload : String)

def StartCommand.handle (context : Context) (state : Option Program) (links : Links) :
    StartCommand → Option (Option Program × Outcome)
  | start => Oven.start context state links
  | startProgram payload => Oven.startProgram context state payload links

/-- The program that a command asks for. -/
def StartCommand.program? (context : Context) (state : Option Program) (links : Links) :
    StartCommand → Option Program
  | start => some (staged state)
  | startProgram payload =>
      match context.loads payload with
      | some (.dict req) =>
          match entryValue req "mode" with
          | .str mode => do
              let specAll ← parseModeSpec context links
              requested context (staged state) specAll mode req
          | _ => none
      | _ => none

/-- Toward zero, as `int` takes a float. -/
def truncated (number : ℚ) : ℤ := number.num.tdiv number.den

/-- The minutes that a duration is rounded up to. -/
def roundedMinutes (parts : ℤ × ℤ × ℤ) : ℤ :=
  parts.1 * 60 + parts.2.1 + if parts.2.2 > 0 then 1 else 0

/-- How many seconds a duration is short of the minutes it is rounded up to. -/
def shortfall (seconds : ℤ) : ℤ := if seconds > 0 then 60 - seconds else -seconds

/--
The number is not the whole part of a bound with a fraction that it misses, in a unit that is
Celsius; in another unit it is within the bounds after conversion.
-/
def KeepsTemperature (tables : TextTables) (entry : List (String × PyValue)) (unit : PyValue)
    (temp : ℤ) : Prop :=
  if isText "Celsius" unit then
    (∀ low ∈ declaredCelsius tables entry "tempMinC", temp = truncated low → low ≤ temp) ∧
      ∀ high ∈ declaredCelsius tables entry "tempMaxC", temp = truncated high → temp ≤ high
  else
    ∃ degrees, celsius unit temp = some degrees ∧
      Within (declaredCelsius tables entry "tempMinC") (declaredCelsius tables entry "tempMaxC")
        degrees

/--
There is a bound, and the minutes are far enough from a bound that is not on a whole minute: below
the rounded maximum by what it was rounded up, above the minimum by the seconds that it has beyond
a minute.
-/
def KeepsDuration (tables : TextTables) (entry : List (String × PyValue)) (minutes : ℤ) : Prop :=
  (hmsToMinutes tables (entryValue entry "timeMin") ≠ none ∨
    hmsToMinutes tables (entryValue entry "timeMax") ≠ none) ∧
  (∀ low ∈ hmsParts tables (entryValue entry "timeMin"), 60 < low.2.2 →
    low.2.2 - 60 ≤ 60 * (minutes - roundedMinutes low)) ∧
  ∀ high ∈ hmsParts tables (entryValue entry "timeMax"), high.2.2 ≠ 0 →
    shortfall high.2.2 ≤ 60 * (roundedMinutes high - minutes)

/-- When a start with a program keeps the bounds of the board. -/
structure KeepsBounds (context : Context) (links : Links) (program : Program)
    (entry : List (String × PyValue)) : Prop where
  temperature : ∀ temp ∈ program.tempC, ∀ unit ∈ temperatureUnit context links,
    declaredCelsius context.tables entry "tempMinC" ≠ none ∨
      declaredCelsius context.tables entry "tempMaxC" ≠ none →
      KeepsTemperature context.tables entry unit temp
  duration : ∀ minutes ∈ program.minutes, KeepsDuration context.tables entry minutes

/-! ### Reading the declaration -/

theorem truncated_intCast (number : ℤ) : truncated number = number := by
  simp [truncated]

/-- A number is less than one away from its whole part. -/
theorem truncated_bounds (number : ℚ) :
    number < truncated number + 1 ∧ (truncated number : ℚ) < number + 1 := by
  have positive : (0 : ℚ) < number.den := by exact_mod_cast number.den_pos
  have split : (number.num : ℚ) = number.den * truncated number + number.num.tmod number.den := by
    rw [truncated]
    exact_mod_cast (Int.mul_tdiv_add_tmod number.num number.den).symm
  have small : |((number.num.tmod number.den : ℤ) : ℚ)| < number.den := by
    have below := Nat.mod_lt number.num.natAbs number.den_pos
    rw [← Int.cast_abs, Int.abs_eq_natAbs, Int.natAbs_tmod, Int.natAbs_natCast]
    exact_mod_cast below
  rw [abs_lt] at small
  have number_eq : number * number.den = number.num := Rat.mul_den_eq_num number
  constructor <;> nlinarith [small.1, small.2]

theorem specInt_eq {tables : TextTables} {entry : List (String × PyValue)} {key : String}
    {bound : Option ℤ} (read : specInt tables entry key = some bound) :
    (declaredCelsius tables entry key).map truncated = bound := by
  rw [specInt] at read
  rw [declaredCelsius]
  split_ifs at read ⊢
  · exact Option.some.inj read
  · cases held : entryValue entry key <;> rw [held] at read
    case infinity => cases read
    case bool value =>
      rw [← Option.some.inj read]
      cases value <;> rfl
    case int value =>
      rw [← Option.some.inj read]
      exact congrArg some (truncated_intCast value)
    case str text =>
      rw [← Option.some.inj read]
      dsimp only
      rw [Option.map_map]
      rcases tables.limitedIntText text.toList with _ | number
      · rfl
      · exact congrArg some (truncated_intCast number)
    all_goals exact Option.some.inj read

/-- What a mode's specification keeps of its entry. -/
structure ReadFrom (tables : TextTables) (entry : List (String × PyValue)) (spec : ModeSpec) :
    Prop where
  startable : spec.startable = isText "Start&Setting" (entryValue entry "control")
  tempMinC : (declaredCelsius tables entry "tempMinC").map truncated = spec.tempMinC
  tempMaxC : (declaredCelsius tables entry "tempMaxC").map truncated = spec.tempMaxC
  timeMin : spec.timeMin = hmsToMinutes tables (entryValue entry "timeMin")
  timeMax : spec.timeMax = hmsToMinutes tables (entryValue entry "timeMax")

theorem readFrom_specOf {tables : TextTables} {entry : List (String × PyValue)} {spec : ModeSpec}
    (read : specOf tables entry = some spec) : ReadFrom tables entry spec := by
  simp only [specOf, Option.bind_eq_bind, Option.bind_eq_some_iff] at read
  rcases read with ⟨tempMinC, readMin, tempMaxC, readMax, _, _, _, _, same⟩
  rw [← Option.some.inj same]
  exact ⟨rfl, specInt_eq readMin, specInt_eq readMax, rfl, rfl⟩

/-- A mode that is found was read from the last entry for it. -/
theorem readFrom_foldlM {tables : TextTables} {entries : List (String × List (String × PyValue))}
    {out specAll : OrderedDict String ModeSpec} {mode : String} {spec : ModeSpec}
    (parsed : entries.foldlM (fun out entry => (specOf tables entry.2).map (out.set entry.1)) out =
      some specAll) (found : specAll.get? mode = some spec) :
    (∃ entry, entries.reverse.lookup mode = some entry ∧ ReadFrom tables entry spec) ∨
      entries.reverse.lookup mode = none ∧ out.get? mode = some spec := by
  induction entries using List.reverseRecOn generalizing specAll with
  | nil =>
      cases parsed
      exact .inr ⟨rfl, found⟩
  | append_singleton entries last ih =>
      rw [List.foldlM_append] at parsed
      simp only [List.foldlM_cons, List.foldlM_nil, Option.bind_eq_bind,
        Option.bind_eq_some_iff] at parsed
      rcases parsed with ⟨earlier, parsedEarlier, _, isSet, same⟩
      rcases Option.map_eq_some_iff.mp isSet with ⟨lastSpec, read, rfl⟩
      cases same
      rw [OrderedDict.get?_set] at found
      rw [List.reverse_append, List.reverse_singleton, List.singleton_append, List.lookup_cons]
      split_ifs at found with isLast
      · cases found
        rw [beq_iff_eq.mpr isLast]
        exact .inl ⟨last.2, rfl, readFrom_specOf read⟩
      · rw [beq_eq_false_iff_ne.mpr isLast]
        exact ih parsedEarlier found

theorem readFrom_parseModeSpec {context : Context} {links : Links}
    {specAll : OrderedDict String ModeSpec} {mode : String} {spec : ModeSpec}
    (parsed : parseModeSpec context links = some specAll) (found : specAll.get? mode = some spec) :
    ∃ entry, declaredEntry context links mode = some entry ∧
      ReadFrom context.tables entry spec :=
  (readFrom_foldlM parsed found).resolve_right (by
    rintro ⟨_, impossible⟩
    cases impossible)

/-! ### The checks -/

/-- A range check that passes has no bounds, or a number within them. -/
theorem within_of_rangeError {low high number : Option ℤ} {missing : ProgramError}
    {below above : ℤ → ℤ → ProgramError}
    (passed : rangeError low high number missing below above = none) :
    low = none ∧ high = none ∨ ∃ value, number = some value ∧ Within low high value := by
  unfold rangeError at passed
  split_ifs at passed with unbounded
  · exact .inl unbounded
  · rcases number with _ | value
    · cases passed
    · refine .inr ⟨value, rfl, ?_⟩
      dsimp only at passed
      split at passed
      · cases passed
      · cases passed
      · rename_i noLow noHigh
        constructor
        · intro bound isLow
          rw [Option.mem_def.mp isLow] at noLow
          simpa using noLow
        · intro bound isHigh
          rw [Option.mem_def.mp isHigh] at noHigh
          simpa using noHigh

/-- What the checks of a program establish. -/
structure Startable (program : Program) (specAll : OrderedDict String ModeSpec)
    (sensors : Sensors) (mode : String) (spec : ModeSpec) : Prop where
  selected : program.mode = some mode
  found : specAll.get? mode = some spec
  startable : spec.startable = true
  temperature : spec.tempMinC = none ∧ spec.tempMaxC = none ∨
    ∃ temp, program.tempC = some temp ∧ Within spec.tempMinC spec.tempMaxC temp
  duration : spec.timeMin = none ∧ spec.timeMax = none ∨
    ∃ minutes, program.minutes = some minutes ∧ Within spec.timeMin spec.timeMax minutes
  remote : sensors.remoteControlBinary = some true
  inactive : isText "active" sensors.machineState = false

theorem startable_of_programError {program : Program} {specAll : OrderedDict String ModeSpec}
    {sensors : Sensors} (passed : programError program specAll sensors = none) :
    ∃ mode spec, Startable program specAll sensors mode spec := by
  rw [programError] at passed
  rcases modeEq : program.mode.filter (· ≠ "") with _ | mode
  · rw [modeEq] at passed
    cases passed
  · have selected := (Option.filter_eq_some_iff.mp modeEq).1
    rw [modeEq] at passed
    dsimp only at passed
    rcases found : specAll.get? mode with _ | spec
    · rw [found] at passed
      split_ifs at passed
    · rw [found] at passed
      dsimp only at passed
      by_cases empty : specAll.size = 0
      · rw [if_pos empty] at passed
        cases passed
      by_cases startable : spec.startable = true
      · rw [if_neg empty, if_neg (not_not.mpr startable), Option.or_eq_none_iff,
          Option.or_eq_none_iff] at passed
        rcases passed with ⟨temperature, duration, sensed⟩
        split_ifs at sensed with remote inactive
        exact ⟨mode, spec, selected, found, startable, within_of_rangeError temperature,
          within_of_rangeError duration, not_not.mp remote, Bool.eq_false_iff.mpr inactive⟩
      · rw [if_neg empty, if_pos startable] at passed
        cases passed

/-! ### The texts -/

/-- What is written of some minutes is read back as their hours and minutes. -/
theorem partsOf_hmsWire (tables : TextTables) (minutes : ℤ) :
    partsOf tables.intText (hmsWire minutes) = some (minutes / 60, minutes % 60, 0) := by
  have plain (n : ℤ) : ':' ∉ paddedText n := by
    intro colonMem
    rcases mem_paddedText colonMem with same | isDigit
    · cases same
    · cases isDigit
  have parts : (hmsWire minutes).toList.splitOn ':' =
      [paddedText (minutes / 60), paddedText (minutes % 60), ['0', '0']] := by
    rw [hmsWire, String.toList_ofList, List.splitOn_append_cons_self_of_not_mem (plain _),
      List.splitOn_append_cons_self_of_not_mem (plain _)]
    rfl
  have zero : tables.intText ['0', '0'] = some 0 :=
    TextTables.intText_digits (List.cons_ne_nil _ _) (by simp [Char.isDigit])
  rw [partsOf, parts]
  dsimp only
  rw [TextTables.intText_paddedText, TextTables.intText_paddedText, zero]
  rfl

/-! ### When the bounds are kept -/

/-- Seconds are counted from the minutes that they are rounded up to. -/
theorem secondsOf_eq (parts : ℤ × ℤ × ℤ) :
    secondsOf parts = 60 * roundedMinutes parts - shortfall parts.2.2 := by
  rw [secondsOf, roundedMinutes, shortfall]
  split_ifs <;> omega

theorem hmsToMinutes_eq (tables : TextTables) (text : PyValue) :
    hmsToMinutes tables text = (hmsParts tables text).map roundedMinutes := rfl

/-- For minutes that pass the check, the duration written is safe exactly when they keep it. -/
theorem safeDuration_iff {tables : TextTables} {entry : List (String × PyValue)} {minutes : ℤ}
    (passed : Within (hmsToMinutes tables (entryValue entry "timeMin"))
      (hmsToMinutes tables (entryValue entry "timeMax")) minutes) :
    SafeDuration tables entry (hmsWire minutes) ↔ KeepsDuration tables entry minutes := by
  have written : secondsOf (minutes / 60, minutes % 60, 0) = 60 * minutes := by
    change minutes / 60 * 3600 + minutes % 60 * 60 + 0 = 60 * minutes
    omega
  simp only [hmsToMinutes_eq, Within, Option.forall_mem_map] at passed
  simp only [SafeDuration, KeepsDuration, declaredSeconds, hmsToMinutes_eq, ne_eq,
    Option.map_eq_none_iff, partsOf_hmsWire, Option.some.injEq, exists_eq_left', written, Within,
    Option.forall_mem_map]
  apply and_congr_right
  intro _
  apply and_congr
  · apply forall₂_congr
    intro low isLow
    have above := passed.1 low isLow
    rw [secondsOf_eq, shortfall]
    split_ifs <;> omega
  · apply forall₂_congr
    intro high isHigh
    have below := passed.2 high isHigh
    rw [secondsOf_eq, shortfall]
    split_ifs <;> omega

/-- For a temperature that passes the check, the setpoint is safe exactly when it keeps it. -/
theorem safeTemperature_iff {tables : TextTables} {entry : List (String × PyValue)}
    {unit : PyValue} {temp : ℤ}
    (declared : declaredCelsius tables entry "tempMinC" ≠ none ∨
      declaredCelsius tables entry "tempMaxC" ≠ none)
    (passed : Within ((declaredCelsius tables entry "tempMinC").map truncated)
      ((declaredCelsius tables entry "tempMaxC").map truncated) temp) :
    SafeTemperature tables entry (String.ofList (decimalText temp)) unit ↔
      KeepsTemperature tables entry unit temp := by
  have read : tables.intText (String.ofList (decimalText temp)).toList = some temp := by
    rw [String.toList_ofList, TextTables.intText_decimalText]
  have safe_iff : SafeTemperature tables entry (String.ofList (decimalText temp)) unit ↔
      ∃ degrees, celsius unit temp = some degrees ∧
        Within (declaredCelsius tables entry "tempMinC") (declaredCelsius tables entry "tempMaxC")
          degrees := by
    rw [SafeTemperature, and_iff_right declared]
    simp only [read, Option.some.injEq, existsAndEq, true_and]
  rw [safe_iff, KeepsTemperature]
  split_ifs with isCelsius
  · simp only [celsius, if_pos isCelsius, Option.some.injEq, exists_eq_left']
    simp only [Within, Option.forall_mem_map] at passed
    apply and_congr
    · apply forall₂_congr
      intro low isLow
      have above := passed.1 low isLow
      refine ⟨fun kept _ => kept, fun kept => ?_⟩
      rcases above.eq_or_lt with whole | whole
      · exact kept whole.symm
      · have next : (truncated low : ℚ) + 1 ≤ temp := by exact_mod_cast whole
        exact ((truncated_bounds low).1.trans_le next).le
    · apply forall₂_congr
      intro high isHigh
      have below := passed.2 high isHigh
      refine ⟨fun kept _ => kept, fun kept => ?_⟩
      rcases below.eq_or_lt with whole | whole
      · exact kept whole
      · have next : (temp : ℚ) + 1 ≤ truncated high := by exact_mod_cast whole
        exact le_of_add_le_add_right (next.trans (truncated_bounds high).2.le)
  · rfl

/-! ### The batch -/

/-- What a start writes: a setpoint only where the mode has a bound for it. -/
theorem buildStartBatch_cases {context : Context} {program : Program}
    {specAll : OrderedDict String ModeSpec} {sensors : Sensors} {links : Links} {mode : String}
    {spec : ModeSpec} {elements : List BatchElement}
    (startable : Startable program specAll sensors mode spec)
    (built : buildStartBatch context program specAll links = some elements) :
    ∃ setpoint : List BatchElement,
      elements = [⟨"/devices/0", .absent⟩, ⟨"/mode/vs/0", .modes [mode]⟩] ++ setpoint ++
        [⟨"/operational/state/vs/0", .operation "Run" (program.minutes.map hmsWire)⟩] ∧
      ((spec.tempMinC = none ∧ spec.tempMaxC = none ∧ setpoint = []) ∨
        (spec.tempMinC ≠ none ∨ spec.tempMaxC ≠ none) ∧
        ∃ temp unit, program.tempC = some temp ∧ Within spec.tempMinC spec.tempMaxC temp ∧
          temperatureUnit context links = some unit ∧
          setpoint =
            [⟨"/temperatures/vs/0", .item (String.ofList (decimalText temp)) "0" unit⟩]) := by
  rw [buildStartBatch, startable.selected, Option.getD_some, startable.found] at built
  dsimp only [Option.bind_eq_bind, Option.bind_some] at built
  split_ifs at built with bounded
  · have declared : spec.tempMinC ≠ none ∨ spec.tempMaxC ≠ none := by
      simpa only [Option.isSome_iff_ne_none] using bounded
    rcases Option.bind_eq_some_iff.mp built with ⟨unit, isUnit, same⟩
    rcases startable.temperature with ⟨noLow, noHigh⟩ | ⟨temp, tempEq, within⟩
    · exact absurd declared (by simp [noLow, noHigh])
    · rw [tempEq] at same
      exact ⟨_, (Option.some.inj same).symm,
        .inr ⟨declared, temp, unit, tempEq, within, isUnit, rfl⟩⟩
  · rw [not_or, Option.not_isSome_iff_eq_none, Option.not_isSome_iff_eq_none] at bounded
    exact ⟨_, (Option.some.inj built).symm, .inl ⟨bounded.1, bounded.2, rfl⟩⟩

/-- What an element of a batch carries, if it is not the setpoint. -/
theorem rep_of_mem_batch {mode : String} {setpoint : List BatchElement} {time : Option String}
    {element : BatchElement}
    (isElement : element ∈ [⟨"/devices/0", .absent⟩, ⟨"/mode/vs/0", .modes [mode]⟩] ++ setpoint ++
      [⟨"/operational/state/vs/0", .operation "Run" time⟩]) :
    element.rep = .absent ∨ element.rep = .modes [mode] ∨ element ∈ setpoint ∨
      element.rep = .operation "Run" time := by
  simp only [List.mem_append, List.mem_cons, List.not_mem_nil, or_false] at isElement
  rcases isElement with ((rfl | rfl) | isSetpoint) | rfl
  · exact .inl rfl
  · exact .inr (.inl rfl)
  · exact .inr (.inr (.inl isSetpoint))
  · exact .inr (.inr (.inr rfl))

theorem Startable.safeDuration_iff {context : Context} {program : Program}
    {specAll : OrderedDict String ModeSpec} {sensors : Sensors} {mode : String} {spec : ModeSpec}
    {entry : List (String × PyValue)} {minutes : ℤ}
    (startable : Startable program specAll sensors mode spec)
    (readFrom : ReadFrom context.tables entry spec) (isMinutes : program.minutes = some minutes) :
    SafeDuration context.tables entry (hmsWire minutes) ↔
      KeepsDuration context.tables entry minutes := by
  apply Oven.safeDuration_iff
  rw [← readFrom.timeMin, ← readFrom.timeMax]
  rcases startable.duration with ⟨noLow, noHigh⟩ | ⟨checked, checkedEq, within⟩
  · rw [noLow, noHigh]
    exact ⟨nofun, nofun⟩
  · rwa [Option.some.inj (checkedEq.symm.trans isMinutes)] at within

/-- A start that passes the checks is inside the declared bounds exactly when the program is. -/
theorem safeStart_iff {context : Context} {program : Program}
    {specAll : OrderedDict String ModeSpec} {links : Links} {mode : String} {spec : ModeSpec}
    {entry : List (String × PyValue)} {elements : List BatchElement}
    (startable : Startable program specAll (flatten links) mode spec)
    (declared : declaredEntry context links mode = some entry)
    (readFrom : ReadFrom context.tables entry spec)
    (built : buildStartBatch context program specAll links = some elements) :
    SafeStart context links elements mode entry ↔ KeepsBounds context links program entry := by
  rcases buildStartBatch_cases startable built with ⟨setpoint, rfl, shape⟩
  simp only [← readFrom.tempMinC, ← readFrom.tempMaxC, ne_eq, Option.map_eq_none_iff] at shape
  constructor
  · intro safe
    constructor
    · intro temp isTemp unit isUnit bounded
      rcases shape with ⟨noLow, noHigh, -⟩ |
        ⟨-, checked, written, isChecked, within, isWritten, rfl⟩
      · exact absurd bounded (by simp [noLow, noHigh])
      · cases isChecked.symm.trans isTemp
        cases isWritten.symm.trans isUnit
        exact (safeTemperature_iff bounded within).mp
          (safe.temperature ⟨"/temperatures/vs/0", _⟩ (by simp) _ "0" _ rfl)
    · intro minutes isMinutes
      have written : program.minutes.map hmsWire = some (hmsWire minutes) :=
        congrArg (Option.map hmsWire) isMinutes
      apply (startable.safeDuration_iff readFrom isMinutes).mp
      apply safe.duration ⟨"/operational/state/vs/0", .operation "Run" (some (hmsWire minutes))⟩ ?_
        "Run" _ rfl
      rw [written]
      exact List.mem_append_right _ (List.mem_singleton_self _)
  · intro keeps
    have setpoint_rep : ∀ element ∈ setpoint, ∃ temp unit, program.tempC = some temp ∧
        (declaredCelsius context.tables entry "tempMinC" ≠ none ∨
          declaredCelsius context.tables entry "tempMaxC" ≠ none) ∧
        element.rep = .item (String.ofList (decimalText temp)) "0" unit ∧
        SafeTemperature context.tables entry (String.ofList (decimalText temp)) unit := by
      intro element isElement
      rcases shape with ⟨-, -, rfl⟩ | ⟨bounded, temp, unit, isTemp, within, isUnit, rfl⟩
      · cases isElement
      · rw [List.mem_singleton.mp isElement]
        have kept := keeps.temperature temp isTemp unit isUnit bounded
        exact ⟨temp, unit, isTemp, bounded, rfl, (safeTemperature_iff bounded within).mpr kept⟩
    refine ⟨declared, ?_, readFrom.startable ▸ startable.startable, startable.remote,
      startable.inactive, ?_, ?_⟩
    · intro element isElement names repEq
      rcases rep_of_mem_batch isElement with isRep | isRep | isSetpoint | isRep
      · cases isRep.symm.trans repEq
      · exact (BatchRep.modes.inj (isRep.symm.trans repEq)).symm
      · rcases setpoint_rep element isSetpoint with ⟨temp, unit, -, -, isRep, -⟩
        cases isRep.symm.trans repEq
      · cases isRep.symm.trans repEq
    · intro element isElement desired id unit repEq
      rcases rep_of_mem_batch isElement with isRep | isRep | isSetpoint | isRep
      · cases isRep.symm.trans repEq
      · cases isRep.symm.trans repEq
      · rcases setpoint_rep element isSetpoint with ⟨temp, written, -, -, isRep, safe⟩
        cases isRep.symm.trans repEq
        exact safe
      · cases isRep.symm.trans repEq
    · intro element isElement state text repEq
      rcases rep_of_mem_batch isElement with isRep | isRep | isSetpoint | isRep
      · cases isRep.symm.trans repEq
      · cases isRep.symm.trans repEq
      · rcases setpoint_rep element isSetpoint with ⟨temp, unit, -, -, isRep, -⟩
        cases isRep.symm.trans repEq
      · have timed := (BatchRep.operation.inj (isRep.symm.trans repEq)).2
        rcases Option.map_eq_some_iff.mp timed with ⟨minutes, isMinutes, rfl⟩
        exact (startable.safeDuration_iff readFrom isMinutes).mpr (keeps.duration minutes isMinutes)

/-! ### The handlers -/

/-- A request is refused with the staged program as it was, or its program passed the checks. -/
theorem startProgram_cases {context : Context} {state after : Option Program} {links : Links}
    {payload : String} {outcome : Outcome}
    (handled : startProgram context state payload links = some (after, outcome)) :
    outcome = .rejected ∧ staged after = staged state ∨
    ∃ program specAll elements, outcome = .batch elements ∧
      (StartCommand.startProgram payload).program? context state links = some program ∧
      parseModeSpec context links = some specAll ∧
      programError program specAll (flatten links) = none ∧
      buildStartBatch context program specAll links = some elements := by
  unfold startProgram at handled
  split at handled
  · rename_i req loaded
    split at handled
    · rename_i mode modeEq
      split_ifs at handled
      · rcases Option.bind_eq_some_iff.mp handled with ⟨specAll, parsed, asked⟩
        rcases Option.bind_eq_some_iff.mp asked with ⟨program, isRequested, checked⟩
        have isProgram :
            (StartCommand.startProgram payload).program? context state links = some program := by
          unfold StartCommand.program?
          simp only [loaded, modeEq, parsed, Option.bind_eq_bind, Option.bind_some, isRequested]
        rcases passed : programError program specAll (flatten links) with _ | error
        · rw [passed] at checked
          rcases Option.bind_eq_some_iff.mp checked with ⟨elements, isBuilt, same⟩
          cases same
          exact .inr ⟨program, specAll, elements, rfl, isProgram, parsed, passed, isBuilt⟩
        · rw [passed] at checked
          cases checked
          exact .inl ⟨rfl, rfl⟩
      · cases handled
        exact .inl ⟨rfl, rfl⟩
    · cases handled
      exact .inl ⟨rfl, rfl⟩
  · cases handled
    exact .inl ⟨rfl, rfl⟩

/-- A batch was built from a program that passed the checks. -/
theorem StartCommand.handle_batch {context : Context} {state after : Option Program}
    {links : Links} {command : StartCommand} {elements : List BatchElement}
    (handled : command.handle context state links = some (after, .batch elements)) :
    ∃ program specAll, command.program? context state links = some program ∧
      parseModeSpec context links = some specAll ∧
      programError program specAll (flatten links) = none ∧
      buildStartBatch context program specAll links = some elements := by
  cases command with
  | start =>
      rw [handle, Oven.start] at handled
      rcases Option.bind_eq_some_iff.mp handled with ⟨specAll, parsed, checked⟩
      refine ⟨staged state, specAll, rfl, parsed, ?_⟩
      rcases passed : programError (staged state) specAll (flatten links) with _ | error
      · rw [passed] at checked
        rcases Option.bind_eq_some_iff.mp checked with ⟨built, isBuilt, same⟩
        cases same
        exact ⟨rfl, isBuilt⟩
      · rw [passed] at checked
        cases checked
  | startProgram payload =>
      rcases startProgram_cases handled with ⟨impossible, -⟩ |
        ⟨program, specAll, built, same, isProgram, parsed, passed, isBuilt⟩
      · cases impossible
      · cases same
        exact ⟨program, specAll, isProgram, parsed, passed, isBuilt⟩

/-- A batch is inside the bounds of the board exactly when the program asked for keeps them. -/
theorem StartCommand.handle_bounds {context : Context} {state after : Option Program}
    {links : Links} {command : StartCommand} {elements : List BatchElement}
    (handled : command.handle context state links = some (after, .batch elements)) :
    ∃ program mode entry, command.program? context state links = some program ∧
      program.mode = some mode ∧ declaredEntry context links mode = some entry ∧
      (SafeStart context links elements mode entry ↔ KeepsBounds context links program entry) := by
  rcases handle_batch handled with ⟨program, specAll, isProgram, parsed, passed, built⟩
  rcases startable_of_programError passed with ⟨mode, spec, startable⟩
  rcases readFrom_parseModeSpec parsed startable.found with ⟨entry, declared, readFrom⟩
  exact ⟨program, mode, entry, isProgram, startable.selected, declared,
    safeStart_iff startable declared readFrom built⟩

end Oven

end SmartThingsLocal
