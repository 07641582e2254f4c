import SmartThingsLocal.Foundation.Machine

/-!
# Cancelled connects

`ConnectCancellation` between the attempts of `connect` that wait on it and the threads that set
it. An attempt has a signal that owns its wake sockets, and may share their writer with the signal
of its session's lifecycle. Every method of a signal is a step, as it holds the lock.
-/

namespace SmartThingsLocal

/-- How `_drive_dtls_handshake` ends; it may also raise an exception that is neither an `SSL.Error`
nor an `OSError`. -/
inductive DriveResult
  | completed
  | cancelled
  | backend
  | io
  | timedOut
  | raised
  deriving DecidableEq, Repr

/-- How `connect` ends: `SessionClosedError`, an error before its handshake, an error of the
handshake, an exception that leaves it, a peer whose identity cannot be read, or a session. -/
inductive ConnectReport
  | closed
  | unopened
  | failed
  | raised
  | unauthenticated
  | connected
  deriving DecidableEq, Repr

/-- Where an attempt is. -/
inductive ConnectPoint (ι : Type)
  /-- The signals that are left to check, before the socket is open or with it. -/
  | checking (opened : Bool) (left : List ι)
  | opening
  | subscribing
  | sharing (signal : ι)
  /-- The writer could not be shared, and is taken off its signals again. -/
  | abandoning (signal : ι)
  | releasing
  | driving
  | unsharing (signal : ι) (result : DriveResult)
  | unsubscribing (result : DriveResult) (interrupted : Bool)
  | publishing
  | ended (report : ConnectReport)
  deriving DecidableEq, Repr

/-- The signals of an attempt: `cancel` and the session's own one, or only that. -/
structure AttemptSignals (ι : Type) where
  owner : ι
  shared : Option ι
  apart : shared ≠ some owner

/-- An attempt, the octets in its wake socket, and whether the writer of it has been closed, or
written to afterwards, or has not taken an octet. -/
structure ConnectAttempt (ι : Type) where
  point : ConnectPoint ι
  wakes : ℕ := 0
  closed : Bool := false
  strayed : Bool := false
  missed : Bool := false

/-- What surrounds the next step of an attempt: whether a call in it raises, whether the writer does
not take an octet, and how the handshake ends. -/
structure AttemptInput where
  fails : Bool
  unwritten : Bool
  result : DriveResult

namespace AttemptSignals

variable {ι : Type} (signals : AttemptSignals ι)

/-- The signal of the session's lifecycle. -/
def lifecycle : ι := signals.shared.getD signals.owner

/-- The signals, in the order in which they are checked. -/
def all : List ι := signals.shared.toList ++ [signals.owner]

end AttemptSignals

namespace ConnectAttempt

variable {ι : Type} [DecidableEq ι]

/-- An octet for the wake socket, where the writer takes it. -/
def wake (unwritten : Bool) (attempt : ConnectAttempt ι) : ConnectAttempt ι :=
  { attempt with
    wakes := if unwritten then attempt.wakes else attempt.wakes + 1
    strayed := attempt.strayed || attempt.closed
    missed := attempt.missed || unwritten }

/-- What `_subscribe_writer` writes to the wake socket; it has attached the writer before. -/
def attach (isSet : ι → Bool) (signal : ι) (unwritten : Bool) (attempt : ConnectAttempt ι) :
    ConnectAttempt ι :=
  if isSet signal then attempt.wake unwritten else attempt

/-- The next step of `connect`. -/
def step (signals : AttemptSignals ι) (isSet : ι → Bool) (input : AttemptInput)
    (writers : ι → Bool) (attempt : ConnectAttempt ι) : (ι → Bool) × ConnectAttempt ι :=
  match attempt.point with
  | .checking opened [] =>
      (writers, { attempt with point := if opened then .subscribing else .opening })
  | .checking opened (signal :: left) =>
      (writers, { attempt with
        point := if isSet signal then .ended .closed else .checking opened left })
  | .opening =>
      (writers, { attempt with
        point := if input.fails then .ended .unopened else .checking true signals.all })
  | .subscribing =>
      if input.fails then (writers, { attempt with point := .ended .unopened })
      else if isSet signals.owner ∧ input.unwritten then
        -- `_subscribe` closes the sockets, but leaves the writer with the signal
        (Function.update writers signals.owner true,
          { attempt.wake true with closed := true, point := .ended .unopened })
      else
        (Function.update writers signals.owner true,
          { attempt.attach isSet signals.owner input.unwritten with
            point :=
              match signals.shared with
              | none => .driving
              | some signal => .sharing signal })
  | .sharing signal =>
      (Function.update writers signal true,
        { attempt.attach isSet signal input.unwritten with
          point := if isSet signal ∧ input.unwritten then .abandoning signal else .driving })
  | .abandoning signal =>
      (Function.update writers signal false, { attempt with point := .releasing })
  | .releasing =>
      (Function.update writers signals.owner false,
        { attempt with closed := true, point := .ended .unopened })
  | .driving =>
      -- the wake socket can be read once it holds an octet
      if input.result = .cancelled ∧ attempt.wakes = 0 then (writers, attempt)
      else
        (writers, { attempt with
          point :=
            match signals.shared with
            | none => .unsubscribing input.result false
            | some signal => .unsharing signal input.result })
  | .unsharing signal result =>
      (Function.update writers signal false,
        { attempt with point := .unsubscribing result (isSet signal) })
  | .unsubscribing result interrupted =>
      (Function.update writers signals.owner false,
        { attempt with
          closed := true
          point :=
            if result = .raised then .ended .raised
            else if result = .cancelled ∨ (isSet signals.owner || interrupted) = true ∧
                result ≠ .completed then
              .ended .closed
            else if result = .completed then .publishing
            else .ended .failed })
  | .publishing =>
      (writers, { attempt with
        point :=
          if input.fails then .ended .unauthenticated
          else if isSet signals.lifecycle then .ended .closed
          else .ended .connected })
  | .ended _ => (writers, attempt)

end ConnectAttempt

/-- The signals, and the attempts that wait on them. -/
structure Cancellations (ι κ : Type) where
  isSet : ι → Bool
  writers : κ → ι → Bool
  attempts : κ → ConnectAttempt ι

inductive CancellationAction (ι κ : Type)
  /-- `ConnectCancellation.set`, with the attempts whose writers do not take an octet. -/
  | set (signal : ι) (unwritten : κ → Bool)
  | attempt (attempt : κ) (input : AttemptInput)

namespace Cancellations

variable {ι κ : Type} [DecidableEq ι] [DecidableEq κ]

/-- Nothing is cancelled, and every attempt is about to check its signals. -/
def new (signals : κ → AttemptSignals ι) : Cancellations ι κ where
  isSet := fun _ => false
  writers := fun _ _ => false
  attempts := fun attempt => { point := .checking false (signals attempt).all }

def perform (signals : κ → AttemptSignals ι) (action : CancellationAction ι κ)
    (state : Cancellations ι κ) : Cancellations ι κ :=
  match action with
  | .set signal unwritten =>
      if state.isSet signal then state
      else
        { state with
          isSet := Function.update state.isSet signal true
          attempts := fun attempt =>
            if state.writers attempt signal then (state.attempts attempt).wake (unwritten attempt)
            else state.attempts attempt }
  | .attempt attempt input =>
      let next := (state.attempts attempt).step (signals attempt) state.isSet input
        (state.writers attempt)
      { state with
        writers := Function.update state.writers attempt next.1
        attempts := Function.update state.attempts attempt next.2 }

end Cancellations

/-! ### One attempt -/

namespace ConnectPoint

variable {ι : Type}

/-- The signals that the writer is attached to at a point. -/
def attached (signals : AttemptSignals ι) : ConnectPoint ι → List ι
  | .sharing _ | .releasing | .unsubscribing _ _ => [signals.owner]
  | .abandoning _ | .driving | .unsharing _ _ => signals.all
  | _ => []

/-- The points of an attempt up to where its handshake is left. -/
def IsUnderway : ConnectPoint ι → Prop
  | .abandoning _ | .releasing | .unsubscribing _ _ | .publishing | .ended _ => False
  | _ => True

def IsEnded : ConnectPoint ι → Prop
  | .ended _ => True
  | _ => False

/-- The signals that a point names are those of the attempt. -/
def Names (signals : AttemptSignals ι) : ConnectPoint ι → Prop
  | .sharing signal | .abandoning signal | .unsharing signal _ => signals.shared = some signal
  | .unsubscribing _ interrupted => signals.shared = none → interrupted = false
  | _ => True

/-- A signal that is set is not lost on an attempt at a point. -/
def Heeds (signals : AttemptSignals ι) (signal : ι) : ConnectPoint ι → Prop
  | .unsubscribing _ interrupted => signal = signals.owner ∨ interrupted = true
  | .ended report => report ≠ .failed ∧ (signal = signals.lifecycle → report ≠ .connected)
  | _ => True

end ConnectPoint

namespace ConnectAttempt

variable {ι : Type} {signals : AttemptSignals ι} {isSet writers : ι → Bool}
  {attempt : ConnectAttempt ι}

/-- The writer is attached where the attempt has it, it wakes the attempt once one of its signals
is set, and nothing is written to it once it is closed. A writer that stays after its attempt is
with a signal that has been set before. -/
structure Attends (signals : AttemptSignals ι) (isSet writers : ι → Bool)
    (attempt : ConnectAttempt ι) : Prop where
  names : attempt.point.Names signals
  attached : ¬attempt.point.IsEnded →
    ∀ signal, writers signal = true ↔ signal ∈ attempt.point.attached signals
  stays : attempt.point.IsEnded → ∀ signal, writers signal = true →
    isSet signal = true ∧ attempt.missed = true ∧ attempt.point = .ended .unopened
  wakes : attempt.point.IsUnderway →
    (0 < attempt.wakes → ∃ signal ∈ attempt.point.attached signals, isSet signal = true) ∧
    (attempt.missed = false → (∃ signal ∈ attempt.point.attached signals, isSet signal = true) →
      0 < attempt.wakes)
  closed : attempt.closed = true →
    ¬attempt.point.IsUnderway ∧ attempt.point.attached signals = []
  strayed : attempt.strayed = false

theorem not_isEnded_of_isUnderway {point : ConnectPoint ι} (underway : point.IsUnderway) :
    ¬point.IsEnded := by
  cases point <;> first | exact id | exact underway.elim

theorem attends_new (signals : AttemptSignals ι) (isSet : ι → Bool) :
    Attends signals isSet (fun _ => false) { point := .checking false signals.all } where
  names := trivial
  attached := by simp [ConnectPoint.attached]
  stays := by simp [ConnectPoint.IsEnded]
  wakes := by simp [ConnectPoint.attached]
  closed := by simp
  strayed := rfl

theorem Attends.isOpen (attends : Attends signals isSet writers attempt)
    (underway : attempt.point.IsUnderway) : attempt.closed = false := by
  simpa using fun closed => (attends.closed closed).1 underway

/-- A step that leaves the writer. -/
theorem Attends.moves (attends : Attends signals isSet writers attempt) {point : ConnectPoint ι}
    (names : point.Names signals)
    (attached : point.attached signals = attempt.point.attached signals)
    (underway : point.IsUnderway → attempt.point.IsUnderway) (unended : ¬attempt.point.IsEnded)
    (detached : point.IsEnded → attempt.point.attached signals = []) :
    Attends signals isSet writers { attempt with point } where
  names := names
  attached := by
    rw [attached]
    exact fun _ => attends.attached unended
  stays := by
    intro isEnded signal writes
    have isAttached := (attends.attached unended signal).mp writes
    rw [detached isEnded] at isAttached
    cases isAttached
  wakes := by
    rw [attached]
    exact fun isUnderway => attends.wakes (underway isUnderway)
  closed := by
    rw [attached]
    exact fun isClosed => ⟨mt underway (attends.closed isClosed).1, (attends.closed isClosed).2⟩
  strayed := attends.strayed

/-- The signals but the shared one. -/
theorem mem_owner_iff {signal : ι} (shared : signals.shared = some signal) (other : ι) :
    other ∈ [signals.owner] ↔ other ≠ signal ∧ other ∈ signals.all := by
  have apart : signals.owner ≠ signal := fun same => signals.apart (by rw [shared, same])
  simp only [AttemptSignals.all, shared, Option.toList_some, List.singleton_append, List.mem_cons,
    List.not_mem_nil, or_false]
  constructor
  · rintro rfl
    exact ⟨apart, .inr rfl⟩
  · rintro ⟨other_ne, same | same⟩
    · exact absurd same other_ne
    · exact same

variable [DecidableEq ι]

/-- A signal that is set wakes the attempts that its writers belong to. -/
theorem Attends.set (attends : Attends signals isSet writers attempt) {signal : ι}
    (fresh : isSet signal = false) (unwritten : Bool) :
    Attends signals (Function.update isSet signal true) writers
      (if writers signal then attempt.wake unwritten else attempt) := by
  by_cases writes : writers signal = true
  · have unended : ¬attempt.point.IsEnded := by
      intro isEnded
      have stays := (attends.stays isEnded signal writes).1
      rw [fresh] at stays
      cases stays
    have isAttached := (attends.attached unended signal).mp writes
    have isOpen : attempt.closed = false := by
      rcases closed : attempt.closed with _ | _
      · rfl
      · have := (attends.closed closed).2
        simp [this] at isAttached
    rw [if_pos writes]
    refine ⟨attends.names, attends.attached, fun isEnded => absurd isEnded unended, fun _ => ?_,
      attends.closed, ?_⟩
    · refine ⟨fun _ => ⟨signal, isAttached, Function.update_self _ _ _⟩, fun unmissed _ => ?_⟩
      rcases Bool.or_eq_false_iff.mp unmissed with ⟨-, rfl⟩
      exact Nat.succ_pos _
    · simp [wake, attends.strayed, isOpen]
  · rw [if_neg writes]
    refine ⟨attends.names, attends.attached, fun isEnded other otherWrites => ?_,
      fun underway => ?_, attends.closed, attends.strayed⟩
    · have stays := attends.stays isEnded other otherWrites
      refine ⟨?_, stays.2⟩
      rw [Function.update_apply, stays.1]
      exact ite_self _
    · have unended := not_isEnded_of_isUnderway underway
      have same : (∃ other ∈ attempt.point.attached signals,
          Function.update isSet signal true other = true) ↔
            ∃ other ∈ attempt.point.attached signals, isSet other = true := by
        refine exists_congr fun other => and_congr_right fun isAttached => ?_
        have apart : other ≠ signal := by
          rintro rfl
          exact writes ((attends.attached unended other).mpr isAttached)
        rw [Function.update_of_ne apart]
      rw [same]
      exact attends.wakes underway

/-- The writer is with one signal more. -/
theorem Attends.writes (attends : Attends signals isSet writers attempt) {signal : ι}
    {point : ConnectPoint ι} (underway : attempt.point.IsUnderway)
    (attached : ∀ other, other ∈ point.attached signals ↔
      other = signal ∨ other ∈ attempt.point.attached signals) (other : ι) :
    Function.update writers signal true other = true ↔ other ∈ point.attached signals := by
  rw [attached, Function.update_apply]
  split_ifs with same
  · simp [same]
  · rw [attends.attached (not_isEnded_of_isUnderway underway)]
    simp [same]

/-- A writer that is attached to one signal more; a signal that is set already wakes at once. -/
theorem Attends.attach (attends : Attends signals isSet writers attempt) {signal : ι}
    {unwritten : Bool} (taken : ¬(isSet signal = true ∧ unwritten = true))
    {point : ConnectPoint ι} (names : point.Names signals) (underway : attempt.point.IsUnderway)
    (goesOn : point.IsUnderway)
    (attached : ∀ other, other ∈ point.attached signals ↔
      other = signal ∨ other ∈ attempt.point.attached signals) :
    Attends signals isSet (Function.update writers signal true)
      { attempt.attach isSet signal unwritten with point } := by
  have isOpen := attends.isOpen underway
  have ongoing := not_isEnded_of_isUnderway goesOn
  rw [ConnectAttempt.attach]
  by_cases already : isSet signal = true
  · have written : unwritten = false := by simpa [already] using taken
    rw [if_pos already]
    refine ⟨names, fun _ => attends.writes underway attached, fun ends => absurd ends ongoing,
      fun _ => ⟨fun _ => ?_, fun _ _ => ?_⟩, ?_, ?_⟩
    · exact ⟨signal, (attached signal).mpr (.inl rfl), already⟩
    · simp [wake, written]
    · simp [wake, isOpen]
    · simp [wake, attends.strayed, isOpen]
  · have same : (∃ other ∈ point.attached signals, isSet other = true) ↔
        ∃ other ∈ attempt.point.attached signals, isSet other = true := by
      constructor
      · rintro ⟨other, isAttached, otherSet⟩
        rcases (attached other).mp isAttached with rfl | isAttached
        · exact absurd otherSet already
        · exact ⟨other, isAttached, otherSet⟩
      · rintro ⟨other, isAttached, otherSet⟩
        exact ⟨other, (attached other).mpr (.inr isAttached), otherSet⟩
    rw [if_neg already]
    refine ⟨names, fun _ => attends.writes underway attached, fun ends => absurd ends ongoing,
      fun _ => ?_, by simp [isOpen], attends.strayed⟩
    dsimp only
    rw [same]
    exact attends.wakes underway

/-- A writer that could not be shared is taken off its signals from here on. -/
theorem Attends.abandon (attends : Attends signals isSet writers attempt) {signal : ι}
    (shared : signals.shared = some signal) (underway : attempt.point.IsUnderway)
    (attached : ∀ other, other ∈ signals.all ↔
      other = signal ∨ other ∈ attempt.point.attached signals) :
    Attends signals isSet (Function.update writers signal true)
      { attempt.wake true with point := .abandoning signal } where
  names := shared
  attached := fun _ => attends.writes underway attached
  stays := fun isEnded => isEnded.elim
  wakes := fun isUnderway => isUnderway.elim
  closed := by simp [wake, attends.isOpen underway]
  strayed := by simp [wake, attends.strayed, attends.isOpen underway]

/-- A writer that could not be attached stays with its signal, which is set. -/
theorem Attends.strand (attends : Attends signals isSet writers attempt) {signal : ι}
    (already : isSet signal = true) (underway : attempt.point.IsUnderway)
    (alone : attempt.point.attached signals = []) :
    Attends signals isSet (Function.update writers signal true)
      { attempt.wake true with closed := true, point := .ended .unopened } where
  names := trivial
  attached := fun unended => absurd trivial unended
  stays := by
    intro _ other writes
    rw [Function.update_apply] at writes
    split_ifs at writes with same
    · exact ⟨same ▸ already, by simp [wake], rfl⟩
    · have isAttached := (attends.attached (not_isEnded_of_isUnderway underway) other).mp writes
      rw [alone] at isAttached
      cases isAttached
  wakes := fun isUnderway => isUnderway.elim
  closed := fun _ => ⟨id, rfl⟩
  strayed := by simp [wake, attends.strayed, attends.isOpen underway]

/-- A writer that is taken off one signal, and does not matter any more. -/
theorem Attends.detach (attends : Attends signals isSet writers attempt) (signal : ι)
    {point : ConnectPoint ι} (closed : Bool) (names : point.Names signals)
    (unended : ¬attempt.point.IsEnded) (left : ¬point.IsUnderway)
    (isClosed : closed = true ∨ point.IsEnded → point.attached signals = [])
    (attached : ∀ other, other ∈ point.attached signals ↔
      other ≠ signal ∧ other ∈ attempt.point.attached signals) :
    Attends signals isSet (Function.update writers signal false)
      { attempt with point, closed } := by
  have writes (other : ι) : Function.update writers signal false other = true ↔
      other ∈ point.attached signals := by
    rw [attached, Function.update_apply]
    split_ifs with same
    · simp [same]
    · rw [attends.attached unended]
      simp [same]
  refine ⟨names, fun _ => writes, fun isEnded other stays => ?_,
    fun underway => absurd underway left, fun closes => ⟨left, isClosed (.inl closes)⟩,
    attends.strayed⟩
  have isAttached := (writes other).mp stays
  rw [isClosed (.inr isEnded)] at isAttached
  cases isAttached

theorem attends_step (attends : Attends signals isSet writers attempt) (input : AttemptInput) :
    Attends signals isSet (attempt.step signals isSet input writers).1
      (attempt.step signals isSet input writers).2 := by
  have names := attends.names
  cases point : attempt.point with
  | checking opened left =>
      cases left with
      | nil =>
          simp only [step, point]
          cases opened <;> apply attends.moves <;>
            simp [ConnectPoint.Names, ConnectPoint.attached, ConnectPoint.IsUnderway,
              ConnectPoint.IsEnded, point]
      | cons signal left =>
          simp only [step, point]
          cases isSet signal <;> apply attends.moves <;>
            simp [ConnectPoint.Names, ConnectPoint.attached, ConnectPoint.IsUnderway,
              ConnectPoint.IsEnded, point]
  | opening =>
      simp only [step, point]
      cases input.fails <;> apply attends.moves <;>
        simp [ConnectPoint.Names, ConnectPoint.attached, ConnectPoint.IsUnderway,
          ConnectPoint.IsEnded, point]
  | subscribing =>
      have underway : attempt.point.IsUnderway := by rw [point]; trivial
      simp only [step, point]
      split_ifs with fails raises
      · apply attends.moves <;>
          simp [ConnectPoint.Names, ConnectPoint.attached, ConnectPoint.IsUnderway,
            ConnectPoint.IsEnded, point]
      · exact attends.strand raises.1 underway (by rw [point]; rfl)
      · cases shared : signals.shared <;> apply attends.attach raises _ underway <;>
          simp [ConnectPoint.Names, ConnectPoint.attached, ConnectPoint.IsUnderway, point,
            AttemptSignals.all, shared]
  | sharing signal =>
      have underway : attempt.point.IsUnderway := by rw [point]; trivial
      rw [point] at names
      have shared : signals.shared = some signal := names
      have attached (other : ι) : other ∈ signals.all ↔
          other = signal ∨ other ∈ attempt.point.attached signals := by
        simp [ConnectPoint.attached, point, AttemptSignals.all, shared]
      simp only [step, point]
      split_ifs with raises
      · rw [ConnectAttempt.attach, if_pos raises.1, raises.2]
        exact attends.abandon shared underway attached
      · exact attends.attach raises trivial underway trivial attached
  | abandoning signal =>
      rw [point] at names
      simp only [step, point]
      refine attends.detach signal attempt.closed trivial (by simp [point, ConnectPoint.IsEnded]) id
        ?_ ?_
      · rintro (closed | isEnded)
        · have attached := (attends.closed closed).2
          simp [point, ConnectPoint.attached, AttemptSignals.all] at attached
        · exact isEnded.elim
      · rw [point]
        exact mem_owner_iff names
  | releasing =>
      simp only [step, point]
      refine attends.detach signals.owner true trivial (by simp [point, ConnectPoint.IsEnded]) id
        (fun _ => rfl) ?_
      simp [ConnectPoint.attached, point]
  | driving =>
      simp only [step, point]
      split_ifs
      · exact attends
      · cases shared : signals.shared <;> apply attends.moves <;>
          simp [ConnectPoint.Names, ConnectPoint.attached, ConnectPoint.IsUnderway,
            ConnectPoint.IsEnded, point, AttemptSignals.all, shared]
  | unsharing signal result =>
      rw [point] at names
      have shared : signals.shared = some signal := names
      simp only [step, point]
      refine attends.detach signal attempt.closed ?_ (by simp [point, ConnectPoint.IsEnded]) id
        ?_ ?_
      · simp [ConnectPoint.Names, shared]
      · rintro (closed | isEnded)
        · have underway := (attends.closed closed).1
          simp [point, ConnectPoint.IsUnderway] at underway
        · exact isEnded.elim
      · rw [point]
        exact mem_owner_iff shared
  | unsubscribing result interrupted =>
      have unended : ¬attempt.point.IsEnded := by simp [point, ConnectPoint.IsEnded]
      simp only [step, point]
      split_ifs <;>
        refine attends.detach signals.owner true trivial unended id (fun _ => rfl) ?_ <;>
        simp [ConnectPoint.attached, point]
  | publishing =>
      simp only [step, point]
      split_ifs <;> apply attends.moves <;>
        simp [ConnectPoint.Names, ConnectPoint.attached, ConnectPoint.IsUnderway,
          ConnectPoint.IsEnded, point]
  | ended report =>
      simp only [step, point]
      exact attends

/-- A signal that is set stays heeded. -/
theorem heeds_step (writers : ι → Bool) (names : attempt.point.Names signals) {signal : ι}
    (isOwn : signal ∈ signals.all) (set : isSet signal = true)
    (heeds : attempt.point.Heeds signals signal) (input : AttemptInput) :
    (attempt.step signals isSet input writers).2.point.Heeds signals signal := by
  cases point : attempt.point with
  | checking opened left =>
      cases left with
      | nil =>
          simp only [step, point]
          cases opened <;> exact trivial
      | cons other left =>
          simp only [step, point]
          cases isSet other
          · exact trivial
          · exact ⟨by simp, by simp⟩
  | opening =>
      simp only [step, point]
      cases input.fails
      · exact trivial
      · exact ⟨by simp, by simp⟩
  | subscribing =>
      simp only [step, point]
      split_ifs
      · exact ⟨by simp, by simp⟩
      · exact ⟨by simp, by simp⟩
      · cases signals.shared <;> exact trivial
  | sharing other =>
      simp only [step, point]
      split_ifs <;> exact trivial
  | abandoning other =>
      simp only [step, point]
      exact trivial
  | releasing =>
      simp only [step, point]
      exact ⟨by simp, by simp⟩
  | driving =>
      simp only [step, point]
      split_ifs
      · rw [point]
        exact trivial
      · cases shared : signals.shared with
        | none => exact .inl (by simpa [AttemptSignals.all, shared] using isOwn)
        | some other => exact trivial
  | unsharing other result =>
      rw [point] at names
      have shared : signals.shared = some other := names
      simp only [step, point]
      rcases (by simpa [AttemptSignals.all, shared] using isOwn : signal = other ∨ _) with
        rfl | isOwner
      · exact .inr set
      · exact .inl isOwner
  | unsubscribing result interrupted =>
      rw [point] at heeds
      have interrupts : (isSet signals.owner || interrupted) = true := by
        rcases heeds with rfl | isInterrupted
        · simp [set]
        · simp [isInterrupted]
      simp only [step, point]
      split_ifs with raises closes completed
      · exact ⟨by simp, by simp⟩
      · exact ⟨by simp, by simp⟩
      · exact trivial
      · exact absurd (.inr ⟨interrupts, completed⟩) closes
  | publishing =>
      simp only [step, point]
      split_ifs with fails closes
      · exact ⟨by simp, by simp⟩
      · exact ⟨by simp, by simp⟩
      · refine ⟨by simp, ?_⟩
        rintro rfl
        exact absurd set closes
  | ended report =>
      rw [point] at heeds
      simp only [step, point]
      exact heeds

end ConnectAttempt

/-! ### Every interleaving -/

namespace Cancellations

variable {ι κ : Type} [DecidableEq ι] [DecidableEq κ] {signals : κ → AttemptSignals ι}
  {state : Cancellations ι κ}

/-- Every attempt attends to its signals. -/
def Attended (signals : κ → AttemptSignals ι) (state : Cancellations ι κ) : Prop :=
  ∀ attempt, ConnectAttempt.Attends (signals attempt) state.isSet (state.writers attempt)
    (state.attempts attempt)

theorem attended_perform (attended : Attended signals state) (action : CancellationAction ι κ) :
    Attended signals (perform signals action state) := by
  intro attempt
  cases action with
  | set signal unwritten =>
      rw [perform]
      split_ifs with already
      · exact attended attempt
      · exact (attended attempt).set (by simpa using already) (unwritten attempt)
  | attempt moving input =>
      by_cases same : attempt = moving
      · subst same
        have stepped := ConnectAttempt.attends_step (attended attempt) input
        simpa [perform] using stepped
      · simpa [perform, same] using attended attempt

/-- What an attempt is heeding. -/
def Heeding (signals : κ → AttemptSignals ι) (signal : ι) (attempt : κ)
    (state : Cancellations ι κ) : Prop :=
  Attended signals state ∧ state.isSet signal = true ∧
    (state.attempts attempt).point.Heeds (signals attempt) signal

theorem heeding_perform {signal : ι} {attempt : κ} (isOwn : signal ∈ (signals attempt).all)
    (heeding : Heeding signals signal attempt state) (action : CancellationAction ι κ) :
    Heeding signals signal attempt (perform signals action state) := by
  rcases heeding with ⟨attended, set, heeds⟩
  refine ⟨attended_perform attended action, ?_⟩
  cases action with
  | set other unwritten =>
      rw [perform]
      split_ifs
      · exact ⟨set, heeds⟩
      · refine ⟨?_, ?_⟩
        · dsimp only
          rw [Function.update_apply, set]
          exact ite_self _
        · dsimp only
          split_ifs <;> exact heeds
  | attempt moving input =>
      refine ⟨set, ?_⟩
      by_cases same : attempt = moving
      · subst same
        have stepped := ConnectAttempt.heeds_step (state.writers attempt)
          (attended attempt).names isOwn set heeds input
        simpa [perform] using stepped
      · simpa [perform, same] using heeds

end Cancellations

/-- In every interleaving an attempt that waits on its sockets can read its wake socket just when
one of its signals is set, unless its writer has not taken an octet, and no writer is written to
once it is closed. A writer that stays with a signal after its attempt is one that has not taken the
octet of a signal that was set already, and nothing is written to it. An attempt one of whose
signals is set before its handshake is left never ends with an error of the handshake, nor with a
session if the signal is that of its lifecycle. -/
theorem cancellation_heeded {ι κ : Type} [DecidableEq ι] [DecidableEq κ]
    (signals : κ → AttemptSignals ι) (actions : List (CancellationAction ι κ)) (attempt : κ) :
    let state := Machine.run (Cancellations.perform signals) actions (.new signals)
    ((state.attempts attempt).point = .driving →
      (0 < (state.attempts attempt).wakes →
        ∃ signal ∈ (signals attempt).all, state.isSet signal = true) ∧
      ((state.attempts attempt).missed = false →
        (∃ signal ∈ (signals attempt).all, state.isSet signal = true) →
          0 < (state.attempts attempt).wakes)) ∧
    (state.attempts attempt).strayed = false ∧
    (∀ report, (state.attempts attempt).point = .ended report →
      ∀ signal, state.writers attempt signal = true →
        report = .unopened ∧ (state.attempts attempt).missed = true ∧
          state.isSet signal = true) ∧
    ∀ signal ∈ (signals attempt).all, state.isSet signal = true →
      (state.attempts attempt).point.IsUnderway → ∀ later report,
      ((Machine.run (Cancellations.perform signals) (actions ++ later)
        (.new signals)).attempts attempt).point = .ended report →
      report ≠ .failed ∧ (signal = (signals attempt).lifecycle → report ≠ .connected) := by
  intro state
  have fresh : Cancellations.Attended signals (.new signals) := fun attempt =>
    ConnectAttempt.attends_new (signals attempt) _
  have keeps : ∀ state action, Cancellations.Attended signals state →
      Cancellations.Attended signals (Cancellations.perform signals action state) :=
    fun _ action attended => Cancellations.attended_perform attended action
  have attended : Cancellations.Attended signals state :=
    Machine.invariant_run_all keeps actions fresh
  have attends := attended attempt
  refine ⟨fun driving => ?_, attends.strayed, fun report ended signal writes => ?_, ?_⟩
  · have wakes := attends.wakes
    rw [driving] at wakes
    exact wakes trivial
  · have stays := attends.stays (by rw [ended]; trivial) signal writes
    rw [ended] at stays
    exact ⟨ConnectPoint.ended.inj stays.2.2, stays.2.1, stays.1⟩
  · intro signal isOwn set underway later report ended
    have heeds : (state.attempts attempt).point.Heeds (signals attempt) signal := by
      cases point : (state.attempts attempt).point <;> rw [point] at underway <;>
        first | exact trivial | exact underway.elim
    have keepsHeeding : ∀ state action, Cancellations.Heeding signals signal attempt state →
        Cancellations.Heeding signals signal attempt
          (Cancellations.perform signals action state) :=
      fun _ action heeding => Cancellations.heeding_perform isOwn heeding action
    have heeding : Cancellations.Heeding signals signal attempt
        (Machine.run (Cancellations.perform signals) later state) :=
      Machine.invariant_run_all keepsHeeding later ⟨attended, set, heeds⟩
    rw [Machine.run_append] at ended
    have heedsEnd := heeding.2.2
    rw [show ((Machine.run (Cancellations.perform signals) later state).attempts attempt).point = _
      from ended] at heedsEnd
    exact heedsEnd

end SmartThingsLocal
