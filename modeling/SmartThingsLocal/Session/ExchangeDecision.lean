import SmartThingsLocal.Session.BlockwiseGet
import SmartThingsLocal.Session.Reader

/-!
# What decides a block exchange

The reader can dispatch several frames before the thread that waits in
`_exchange_block` looks into its container. The first terminal frame, a response
for the requested offset or a reset, should decide the exchange. It does as long
as no other response replaces an unread one for the requested offset, and no reset
arrives while an unread stale block is in the container.
-/

namespace SmartThingsLocal

open Session

/-- A frame that ends an exchange. -/
inductive TerminalFrame
  | response (message : CoapMessage)
  | reset
  deriving DecidableEq, Repr

/-- What the exchange ends with. -/
def TerminalFrame.outcome : TerminalFrame → Except SmartThingsLocalError CoapMessage
  | .response message => .ok message
  | .reset => .error .sessionResetError

/-- The ends of an exchange that no frame brings about: deadline, dead session, failed send. -/
def GaveUp (result : Except SmartThingsLocalError CoapMessage) : Prop :=
  result = .error .sessionTimeoutError ∨ result = .error .sessionClosedError ∨
    result = .error .endpointError

/--
The session, its reader, the thread of one registered exchange, and the first terminal
frame that was dispatched to it.
-/
structure DecisionState where
  session : Session
  reader : DispatchPoint
  transfer : BlockTransfer
  block : BlockExchange
  point : ExchangePoint
  first : Option TerminalFrame

/-- A datagram arrives, the reader or the exchange moves, or another thread changes the session. -/
inductive DecisionAction
  | receive (datagram : ByteString)
  | advance (now : ℚ)
  | exchange (now : ℚ) (delivered : Bool)
  | others (session : Session)

namespace DecisionState

/-- The record of the exchange. -/
def record (state : DecisionState) : PendingRequest :=
  state.session.registry.requests state.block.request

/-- Whether a response is for the requested offset. -/
def answers (state : DecisionState) (message : CoapMessage) : Bool :=
  blockNumMatches message state.transfer.accumulator.expectedNumber state.transfer.accumulator.szx

/-- The exchange has returned or failed. -/
def Ended (state : DecisionState) : Prop := ∃ result, state.point = .leaving result

/-- What the next look into the container finds. -/
def found (state : DecisionState) : Option (Except SmartThingsLocalError CoapMessage) :=
  (readContainer state.record state.transfer.accumulator.expectedNumber
    state.transfer.accumulator.szx).1

/-- The terminal frame that the reader's next step dispatches to the exchange. -/
def dispatches (state : DecisionState) : Option TerminalFrame :=
  match state.reader with
  | .resolve message =>
      if (state.session.registry.resolve message).1 = some state.block.request ∧
          state.answers message then some (.response message)
      else none
  | .reset mid =>
      if (state.session.registry.reset mid).1 = some state.block.request then some .reset else none
  | _ => none

def perform (action : DecisionAction) (state : DecisionState) : DecisionState :=
  match action with
  | .receive datagram =>
      if state.reader = .idle then
        { state with reader := (Session.receive state.session datagram).1 }
      else state
  | .advance now =>
      let (session, reader, _) := dispatchStep state.session now state.reader
      { state with session, reader, first := state.first.or state.dispatches }
  | .exchange now delivered =>
      let (session, point, _) :=
        exchangeStep state.session now delivered state.transfer state.block state.point
      { state with session, point }
  | .others session => { state with session }

/-- The exchange has just been registered in a session. -/
def start (session : Session) (reader : DispatchPoint) (transfer : BlockTransfer)
    (block : BlockExchange) : DecisionState where
  session := { session with
    registry := session.registry.modifyRequest block.request fun _ => {} }
  reader := reader
  transfer := transfer
  block := block
  point := .checking 0
  first := none

/-- What has happened to the exchange goes back to the frame. -/
structure DecidedBy (state : DecisionState) (frame : TerminalFrame) : Prop where
  waiting : ¬state.Ended → state.found = some frame.outcome ∧
    (state.record.event = true ∨ state.reader = .wake state.block.request)
  ended : ∀ result, state.point = .leaving result → result = frame.outcome ∨ GaveUp result

/-- The first terminal frame decides the exchange, and before it nothing does. -/
structure Decided (state : DecisionState) : Prop where
  byFirst : ∀ frame, state.first = some frame → state.DecidedBy frame
  undecided : state.first = none → (¬state.Ended → state.found = none) ∧
    ∀ result, state.point = .leaving result → GaveUp result

end DecisionState

/--
No other response replaces an unread one for the requested offset, no reset arrives
while an unread stale block is in the container, and other threads leave the record alone.
-/
def KeepsFirst (state : DecisionState) : DecisionAction → Prop
  | .advance _ => ¬state.Ended → state.record.err = none → ∀ held ∈ state.record.message,
      (∀ message ∈ state.reader.resolving?,
        (state.session.registry.resolve message).1 = some state.block.request →
          state.answers held = true → message = held) ∧
      ∀ mid ∈ state.reader.resetting?,
        (state.session.registry.reset mid).1 = some state.block.request →
          state.answers held = true
  | .others session =>
      session.registry.requests state.block.request = state.record
  | _ => True

instance (state : DecisionState) : Decidable state.Ended :=
  match isAt : state.point with
  | .leaving result => isTrue ⟨result, isAt⟩
  | .checking _ | .sending _ | .reading _ | .waiting _ _ _ | .polling _ _ _ _ =>
      isFalse fun ⟨result, left⟩ => by cases isAt.symm.trans left

instance (state : DecisionState) : ∀ action, Decidable (KeepsFirst state action)
  | .advance _ => inferInstanceAs (Decidable (¬state.Ended → state.record.err = none → _))
  | .others _ => inferInstanceAs (Decidable (_ = state.record))
  | .receive _ | .exchange _ _ => inferInstanceAs (Decidable True)

/-! ### The thread -/

theorem gaveUp_of_checkLive {liveness : Liveness} {error : SmartThingsLocalError}
    (failed : liveness.checkLive = .error error) : GaveUp (.error error) := by
  simp only [Liveness.checkLive] at failed
  split_ifs at failed <;> cases failed <;> exact .inr (.inl rfl)

theorem gaveUp_of_sendDgram {liveness : Liveness} {delivered : Bool}
    {error : SmartThingsLocalError} (failed : liveness.sendDgram delivered = .error error) :
    GaveUp (.error error) := by
  simp only [Liveness.sendDgram] at failed
  split_ifs at failed <;> cases failed
  · exact .inr (.inl rfl)
  · exact .inr (.inr rfl)

theorem gaveUp_of_afterWait {deadline now : ℚ} {attempt : ℕ} {acknowledged : Bool}
    {result : Except SmartThingsLocalError CoapMessage}
    (left : afterWait deadline now attempt acknowledged = .leaving result) : GaveUp result := by
  simp only [afterWait, afterAttempt] at left
  split_ifs at left <;> cases left <;> exact .inl rfl

/-- Outside the locked read the thread changes nothing and only ends by giving up. -/
theorem exchangeStep_elsewhere (session : Session) (now : ℚ) (delivered : Bool)
    (transfer : BlockTransfer) (block : BlockExchange) {point : ExchangePoint}
    (elsewhere : ∀ attempt, point ≠ .reading attempt) (inside : ∀ result, point ≠ .leaving result) :
    (exchangeStep session now delivered transfer block point).1 = session ∧
      ∀ result, (exchangeStep session now delivered transfer block point).2.1 = .leaving result →
        GaveUp result := by
  cases point with
  | checking attempt =>
      simp only [exchangeStep]
      cases live : session.liveness.checkLive with
      | error error =>
          refine ⟨rfl, ?_⟩
          rintro _ ⟨⟩
          exact gaveUp_of_checkLive live
      | ok =>
          dsimp only
          split_ifs
          · refine ⟨rfl, ?_⟩
            rintro _ ⟨⟩
            exact .inl rfl
          · exact ⟨rfl, by simp⟩
  | sending attempt =>
      simp only [exchangeStep]
      cases sent : session.liveness.sendDgram delivered with
      | error error =>
          refine ⟨rfl, ?_⟩
          rintro _ ⟨⟩
          exact gaveUp_of_sendDgram sent
      | ok => exact ⟨rfl, by simp⟩
  | reading attempt => exact absurd rfl (elsewhere attempt)
  | waiting attempt deadline acknowledged =>
      simp only [exchangeStep]
      split_ifs
      · exact ⟨rfl, fun result => gaveUp_of_afterWait⟩
      · exact ⟨rfl, by simp⟩
  | polling attempt deadline sliceEnd acknowledged =>
      simp only [exchangeStep]
      split_ifs
      · exact ⟨rfl, by simp⟩
      · exact ⟨rfl, by simp⟩
      · cases live : session.liveness.checkLive with
        | error error =>
            refine ⟨rfl, ?_⟩
            rintro _ ⟨⟩
            exact gaveUp_of_checkLive live
        | ok => exact ⟨rfl, by simp⟩
  | leaving result => exact absurd rfl (inside result)

namespace DecisionState

variable {state : DecisionState} {frame : TerminalFrame}

/-- A locked read ends the exchange with what it finds. -/
theorem exchange_reading_found {attempt : ℕ} {result : Except SmartThingsLocalError CoapMessage}
    (reading : state.point = .reading attempt) (isFound : state.found = some result) (now : ℚ)
    (delivered : Bool) : (perform (.exchange now delivered) state).point = .leaving result := by
  simp only [found, record] at isFound
  simp only [perform, reading, exchangeStep, isFound]

/-- A look that finds nothing leaves nothing to be found. -/
theorem readContainer_none {record : PendingRequest} {num szx : ℕ}
    (nothing : (readContainer record num szx).1 = none) :
    (readContainer (readContainer record num szx).2 num szx).1 = none := by
  rcases record with ⟨event, message, err, acknowledged, expected⟩
  cases err with
  | some error => simp [readContainer] at nothing
  | none =>
      cases message with
      | none => rfl
      | some message =>
          simp only [readContainer] at nothing ⊢
          split_ifs at nothing ⊢
          rfl

/-- A locked read that finds nothing. -/
theorem exchange_reading_none {attempt : ℕ} (reading : state.point = .reading attempt)
    (nothing : state.found = none) (now : ℚ) (delivered : Bool) :
    (perform (.exchange now delivered) state).found = none ∧
      ∀ result, (perform (.exchange now delivered) state).point = .leaving result →
        GaveUp result := by
  simp only [found, record] at nothing
  simp only [perform, reading, exchangeStep, nothing]
  have later := readContainer_none nothing
  split
  · refine ⟨?_, fun result => gaveUp_of_afterWait⟩
    simpa [found, record, Registry.modifyRequest] using later
  · refine ⟨?_, by simp⟩
    simpa [found, record, Registry.modifyRequest] using later

theorem decided_exchange (decided : state.Decided) (now : ℚ) (delivered : Bool) :
    (perform (.exchange now delivered) state).Decided := by
  by_cases ended : state.Ended
  · rcases ended with ⟨result, leaving⟩
    have same : perform (.exchange now delivered) state = state := by
      simp only [perform, leaving, exchangeStep]
      rw [← leaving]
    rwa [same]
  by_cases reads : ∃ attempt, state.point = .reading attempt
  · rcases reads with ⟨attempt, reading⟩
    refine ⟨?_, ?_⟩
    · intro frame isFirst
      have isFound := ((decided.byFirst frame isFirst).waiting ended).1
      have left := exchange_reading_found reading isFound now delivered
      refine ⟨fun running => absurd ⟨_, left⟩ running, ?_⟩
      intro result isResult
      rw [left] at isResult
      cases isResult
      exact .inl rfl
    · intro none
      have nothing := (decided.undecided none).1 ended
      rcases exchange_reading_none reading nothing now delivered with ⟨later, gaveUp⟩
      exact ⟨fun _ => later, gaveUp⟩
  · rcases exchangeStep_elsewhere state.session now delivered state.transfer state.block
      (not_exists.mp reads) (not_exists.mp ended) with ⟨same, gaveUp⟩
    have record : (perform (.exchange now delivered) state).record = state.record := by
      simp only [DecisionState.record, perform, same]
    have found : (perform (.exchange now delivered) state).found = state.found := by
      simp only [DecisionState.found, record]
      rfl
    refine ⟨?_, ?_⟩
    · intro frame isFirst
      rcases (decided.byFirst frame isFirst).waiting ended with ⟨isFound, woken⟩
      refine ⟨fun _ => ⟨found.trans isFound, ?_⟩, fun result left => .inr (gaveUp result left)⟩
      rwa [record]
    · intro none
      exact ⟨fun _ => found.trans ((decided.undecided none).1 ended), gaveUp⟩

/-! ### The reader -/

/-- The error is looked at before the response. -/
theorem found_eq (state : DecisionState) : state.found =
    (state.record.err.map Except.error <|>
      (state.record.message.filter state.answers).map Except.ok) := by
  unfold found readContainer answers
  cases state.record.err with
  | some error => rfl
  | none =>
      cases state.record.message with
      | none => rfl
      | some message =>
          dsimp only
          split_ifs with matching <;> simp [Option.filter, matching]

/-- What is found only depends on the error and the response. -/
theorem found_congr {after : DecisionState}
    (message : after.record.message = state.record.message)
    (err : after.record.err = state.record.err) (transfer : after.transfer = state.transfer) :
    after.found = state.found := by
  have answers : after.answers = state.answers := by
    funext message
    simp only [DecisionState.answers, transfer]
  rw [found_eq, found_eq, message, err, answers]

theorem found_none (nothing : state.found = none) :
    state.record.err = none ∧ ∀ held ∈ state.record.message, state.answers held = false := by
  rw [found_eq] at nothing
  cases err : state.record.err with
  | some error => simp [err] at nothing
  | none =>
      refine ⟨rfl, ?_⟩
      rintro held isHeld
      rw [Option.mem_def.mp isHeld] at nothing
      simpa [err, Option.filter] using nothing

/-- A frame that is found is either a reset or an unread response. -/
theorem found_some (isFound : state.found = some frame.outcome) :
    (∃ error, state.record.err = some error ∧ frame.outcome = .error error) ∨
      state.record.err = none ∧ ∃ held, state.record.message = some held ∧
        state.answers held = true ∧ frame.outcome = .ok held := by
  rw [found_eq] at isFound
  cases err : state.record.err with
  | some error =>
      left
      refine ⟨error, rfl, ?_⟩
      simpa [err] using isFound.symm
  | none =>
      right
      cases message : state.record.message with
      | none => simp [err, message] at isFound
      | some held =>
          refine ⟨rfl, held, rfl, ?_⟩
          by_cases matching : state.answers held = true
          · exact ⟨matching, by simpa [err, message, Option.filter, matching] using isFound.symm⟩
          · simp [err, message, Option.filter, matching] at isFound

/-- Another response for the exchange changes nothing while an unread one is for its offset. -/
theorem found_answered {after : DecisionState} {message : CoapMessage}
    (keeps : state.record.err = none → ∀ held ∈ state.record.message,
      state.answers held = true → message = held)
    (holds : after.record.message = some message) (err : after.record.err = state.record.err)
    (transfer : after.transfer = state.transfer)
    (isFound : state.found = some frame.outcome) : after.found = some frame.outcome := by
  rcases found_some isFound with ⟨error, failed, isError⟩ | ⟨unfailed, held, isHeld, matching, _⟩
  · rw [found_eq, err, failed, isError]
    rfl
  · have same := keeps unfailed held isHeld matching
    rw [← isFound]
    exact found_congr (by rw [holds, isHeld, same]) err transfer

/-- After a frame that was dispatched to the exchange, what is found goes back to the first one. -/
theorem Decided.dispatched {after : DecisionState} (decided : state.Decided)
    (first : after.first = state.first.or state.dispatches) (point : after.point = state.point)
    (wakes : after.reader = .wake after.block.request)
    (kept : ∀ frame : TerminalFrame, ¬state.Ended → state.found = some frame.outcome →
      after.found = some frame.outcome)
    (found : ¬state.Ended → state.found = none →
      after.found = state.dispatches.map TerminalFrame.outcome) : after.Decided := by
  have running : ¬after.Ended → ¬state.Ended := by
    simp only [Ended, point]
    exact id
  cases already : state.first with
  | some frame =>
      have before := decided.byFirst frame already
      have first : after.first = some frame := by rw [first, already]; rfl
      refine ⟨?_, by simp [first]⟩
      rintro other isOther
      cases first.symm.trans isOther
      refine ⟨fun notEnded => ⟨?_, .inr wakes⟩, ?_⟩
      · exact kept frame (running notEnded) (before.waiting (running notEnded)).1
      · rw [point]
        exact before.ended
  | none =>
      rcases decided.undecided already with ⟨nothing, gaveUp⟩
      have first : after.first = state.dispatches := by rw [first, already]; rfl
      refine ⟨?_, ?_⟩
      · intro frame isFirst
        rw [first] at isFirst
        refine ⟨fun notEnded => ⟨?_, .inr wakes⟩, ?_⟩
        · rw [found (running notEnded) (nothing (running notEnded)), isFirst]
          rfl
        · rw [point]
          exact fun result left => .inr (gaveUp result left)
      · intro none
        rw [first] at none
        refine ⟨fun notEnded => ?_, by rwa [point]⟩
        rw [found (running notEnded) (nothing (running notEnded)), none]
        rfl

theorem decided_advance (decided : state.Decided) {now : ℚ}
    (keeps : KeepsFirst state (.advance now)) : (perform (.advance now) state).Decided := by
  have step := dispatchStep_record state.block.request state.session now state.reader
  cases step with
  | apart unanswered unrejected message err woken =>
      have found : (perform (.advance now) state).found = state.found := found_congr message err rfl
      have nothing : state.dispatches = none := by
        unfold dispatches
        cases isAt : state.reader <;> simp_all
      have first : (perform (.advance now) state).first = state.first := by
        simp [perform, nothing]
      refine ⟨?_, ?_⟩
      · intro frame isFirst
        have before := decided.byFirst frame (first ▸ isFirst)
        refine ⟨fun running => ?_, before.ended⟩
        rcases before.waiting running with ⟨isFound, wakes⟩
        exact ⟨found.trans isFound, .inl (woken wakes)⟩
      · intro none
        have before := decided.undecided (first ▸ none)
        exact ⟨fun running => found.trans (before.1 running), before.2⟩
  | answered message resolving own record wakes =>
      have holds : (perform (.advance now) state).record.message = some message := by
        simp [DecisionState.record, perform, record]
      have err : (perform (.advance now) state).record.err = state.record.err := by
        simp [DecisionState.record, perform, record]
      have dispatches : state.dispatches =
          if state.answers message then some (.response message) else none := by
        simp [DecisionState.dispatches, resolving, own]
      refine decided.dispatched ?_ ?_ wakes ?_ ?_
      · rfl
      · rfl
      · intro frame running isFound
        refine found_answered ?_ holds err rfl isFound
        intro unfailed held isHeld
        exact (keeps running unfailed held isHeld).1 message (by rw [resolving]; rfl) own
      · intro running nothing
        have answers : (perform (.advance now) state).answers = state.answers := rfl
        rw [found_eq, holds, err, (found_none nothing).1, answers, dispatches]
        by_cases matching : state.answers message = true
        · simp [matching, Option.filter, TerminalFrame.outcome]
        · simp [matching, Option.filter]
  | rejected mid resetting own record wakes =>
      have dispatches : state.dispatches = some .reset := by
        simp [DecisionState.dispatches, resetting, own]
      refine decided.dispatched ?_ ?_ wakes ?_ ?_
      · rfl
      · rfl
      · intro frame running isFound
        -- something is found, so the reset leaves the record as it is
        have occupied : ¬(state.record.message = none ∧ state.record.err = none) := by
          rintro ⟨unanswered, unfailed⟩
          rw [found_eq, unanswered, unfailed] at isFound
          cases isFound
        rw [← isFound]
        have same : (perform (.advance now) state).record = state.record :=
          record.trans (if_neg occupied)
        exact found_congr (by rw [same]) (by rw [same]) rfl
      · intro running nothing
        rcases found_none nothing with ⟨unfailed, stale⟩
        have empty : state.record.message = none := by
          cases holds : state.record.message with
          | none => rfl
          | some held =>
              have matching := (keeps running unfailed held holds).2 mid
                (by rw [resetting]; rfl) own
              rw [stale held holds] at matching
              cases matching
        have failed := congrArg PendingRequest.err (record.trans (if_pos ⟨empty, unfailed⟩))
        have err : (perform (.advance now) state).record.err = some .sessionResetError := failed
        rw [found_eq, err, dispatches]
        rfl

theorem decided_perform (state : DecisionState) (action : DecisionAction) (decided : state.Decided)
    (keeps : KeepsFirst state action) : (perform action state).Decided := by
  cases action with
  | receive datagram =>
      simp only [perform]
      split_ifs with idle
      · refine ⟨?_, decided.undecided⟩
        intro frame isFirst
        have before := decided.byFirst frame isFirst
        refine ⟨fun running => ?_, before.ended⟩
        rcases before.waiting running with ⟨isFound, woken | waking⟩
        · exact ⟨isFound, .inl woken⟩
        · rw [idle] at waking
          cases waking
      · exact decided
  | advance now => exact decided_advance decided keeps
  | exchange now delivered => exact decided_exchange decided now delivered
  | others session =>
      have record : (perform (.others session) state).record = state.record := keeps
      have found : (perform (.others session) state).found = state.found :=
        found_congr (by rw [record]) (by rw [record]) rfl
      refine ⟨?_, ?_⟩
      · intro frame isFirst
        have before := decided.byFirst frame isFirst
        refine ⟨fun running => ?_, before.ended⟩
        rw [found, record]
        exact before.waiting running
      · intro none
        have before := decided.undecided none
        exact ⟨fun running => found.trans (before.1 running), before.2⟩

end DecisionState

/--
The first terminal frame that is dispatched to an exchange decides it: until the thread
has looked, it is what the container holds and the thread is woken for it, and a thread
that has not given up has ended with it. This holds in every run in which an unread
response for the offset is not replaced and no reset meets an unread stale block.
-/
theorem exchange_decided_by_first (session : Session) (reader : DispatchPoint)
    (transfer : BlockTransfer) (block : BlockExchange) {actions : List DecisionAction}
    (meets : Machine.Meets DecisionState.perform KeepsFirst actions
      (.start session reader transfer block)) :
    ∀ frame ∈ (Machine.run DecisionState.perform actions
        (.start session reader transfer block)).first,
      (Machine.run DecisionState.perform actions
        (.start session reader transfer block)).DecidedBy frame := by
  have initial : (DecisionState.start session reader transfer block).Decided := by
    refine ⟨?_, fun _ => ⟨fun _ => ?_, ?_⟩⟩
    · intro frame isFirst
      cases isFirst
    · simp [DecisionState.found_eq, DecisionState.record, DecisionState.start,
        Registry.modifyRequest]
    · intro result left
      cases left
  exact (Machine.invariant_run DecisionState.decided_perform meets initial).byFirst

/-- The exchange for the second 1024-byte block of a GET, under token 7 and Message ID 2. -/
def secondBlock : DecisionState :=
  let session := Session.started ⟨false, false, false, false, false⟩ 1 0
  .start { session with registry := (session.registry.registerPendingRequest [7] {}).2 } .idle
    { restarted := false, tok := [7], etag := none, deadline := 15
      accumulator := {
        token := [7], maxBlocks := 1024, maxPayloadBytes := 1048576, acceptedContentFormats := none
        tokenFits := by decide, maxBlocksPos := by decide, maxPayloadBytesPos := by decide
        expectedNumber := 1, negotiatedSzx := some 6, etag := none, contentFormat := none
        size2 := none, payload := [], blocksReceived := 1, code := some 0x45, complete := false } }
    ⟨2, 0, []⟩

/-- A datagram that is taken and dispatched to the end. -/
def frame (datagram : ByteString) : List DecisionAction :=
  [.receive datagram, .advance 0, .advance 0]

/-- The first block again, a duplicate of the response to the request before. -/
def staleBlock : ByteString := [0x61, 0x45, 0, 1, 7, 0xD1, 10, 0x0E, 0xFF, 1]

def awaitedBlock : ByteString := [0x61, 0x45, 0, 2, 7, 0xD1, 10, 0x1E, 0xFF, 2]

def resetFrame : ByteString := [0x70, 0, 0, 2]

/-- A stale block that is read before the awaited one, and a reset after it. -/
theorem exchange_decided_by_first_example :
    let actions := frame staleBlock ++
      [.exchange 0 true, .exchange 0 true, .exchange 0 true] ++ frame awaitedBlock ++
      frame resetFrame ++ [.exchange 0 true, .exchange 0 true, .exchange 0 true]
    let final := Machine.run DecisionState.perform actions secondBlock
    let message := ⟨2, 0x45, 2, [7], [(23, [0x1E])], [2]⟩
    final.point = .leaving (.ok message) ∧ final.DecidedBy (.response message) :=
  ⟨by decide +kernel, exchange_decided_by_first _ _ _ _ (by decide +kernel) _ (by decide +kernel)⟩

/--
A stale block behind the awaited one takes its place in the container, and a reset behind
a stale block is not recorded; in both cases nothing is left to be found.
-/
theorem exchange_not_decided_by_first :
    let message := ⟨2, 0x45, 2, [7], [(23, [0x1E])], [2]⟩
    let answered := Machine.run DecisionState.perform (frame awaitedBlock ++ frame staleBlock)
      secondBlock
    let rejected := Machine.run DecisionState.perform (frame staleBlock ++ frame resetFrame)
      secondBlock
    (answered.first = some (.response message) ∧ ¬answered.DecidedBy (.response message)) ∧
      rejected.first = some .reset ∧ ¬rejected.DecidedBy .reset := by
  intro message answered rejected
  have nothing : answered.found = none ∧ rejected.found = none := by decide +kernel
  refine ⟨⟨by decide +kernel, ?_⟩, by decide +kernel, ?_⟩
  · intro decided
    have found := (decided.waiting (by decide +kernel)).1
    rw [nothing.1] at found
    cases found
  · intro decided
    have found := (decided.waiting (by decide +kernel)).1
    rw [nothing.2] at found
    cases found

end SmartThingsLocal
