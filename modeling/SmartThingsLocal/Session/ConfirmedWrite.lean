import SmartThingsLocal.Session.Post
import SmartThingsLocal.Session.Reader

/-!
# A confirmed write

A response that the reader dispatched before it died is a write the device
confirmed, and `post` should return it. Between two locked reads of its container
`post` checks that the reader is alive, sends, and lets its wait run out; a response
that lands there is only returned if none of these fails before the next read.
-/

namespace SmartThingsLocal

open Session

/-- The reader thread: at work, after clearing `_reader_running`, and gone. -/
inductive ReaderThread
  | dispatching (point : DispatchPoint)
  | stopped
  | exited
  deriving DecidableEq, Repr

/-- The session, its reader, one `post`, and the responses dispatched to it before it failed. -/
structure PostState where
  session : Session
  reader : ReaderThread
  point : PostPoint
  responses : List CoapMessage

/-- A datagram arrives, the reader moves on or is torn down, or the `post` moves on. -/
inductive PostAction
  | receive (datagram : ByteString)
  | advance (now : ℚ)
  | stop
  | drain
  | post (now : ℚ) (delivered : Bool)

/-- What `post` returns for a response. -/
def CoapMessage.postResult (message : CoapMessage) : PostResult := (message.code, message.payload)

/-- A registered write and where its attempts are. -/
def PostPoint.exchange? : PostPoint → Option (WriteExchange × PostStage)
  | .exchange call stage => some (call, stage)
  | _ => none

namespace PostState

/-- The record of a registered write. -/
def record (state : PostState) (call : WriteExchange) : PendingRequest :=
  state.session.registry.requests call.request

/-- The response that the reader's next step dispatches to the write, unless it has failed. -/
def dispatched? (state : PostState) (call : WriteExchange) : Option CoapMessage :=
  match state.reader with
  | .dispatching (.resolve message) =>
      if (state.session.registry.resolve message).1 = some call.request ∧
          (state.record call).err = none then some message
      else none
  | _ => none

def perform (settings : WriteSettings) (arguments : PostArguments) (action : PostAction)
    (state : PostState) : PostState :=
  match action with
  | .receive datagram =>
      if state.reader = .dispatching .idle then
        { state with reader := .dispatching (Session.receive state.session datagram).1 }
      else state
  | .advance now =>
      match state.reader with
      | .dispatching point =>
          let (session, next, _) := dispatchStep state.session now point
          { state with
            session
            reader := .dispatching next
            responses := state.responses ++
              (state.point.exchange?.bind fun entry => state.dispatched? entry.1).toList }
      | _ => state
  | .stop =>
      if state.reader = .dispatching .idle then
        { state with
          session := { state.session with
            liveness := { state.session.liveness with readerRunning := false } }
          reader := .stopped }
      else state
  | .drain =>
      if state.reader = .stopped then
        { state with
          session := { state.session with
            registry := state.session.registry.closePendingRequests }
          reader := .exited }
      else state
  | .post now delivered =>
      let (session, point, _) := postStep settings arguments state.session now delivered state.point
      { state with session, point }

/-- A `post` that is about to start in some session with some reader. -/
def start (session : Session) (reader : ReaderThread) : PostState := ⟨session, reader, .start, []⟩

end PostState

/--
A step outside the locked reads that does not end the write: the session is live where it
is checked, the first send is taken, and no wait or budget runs out.
-/
def PostStage.GoesOn (settings : WriteSettings) (session : Session) (deadline now : ℚ)
    (delivered : Bool) : PostStage → Prop
  | .checking _ _ | .waiting _ _ (.checking _) => session.liveness.checkLive = .ok ()
  | .sending attempt =>
      session.liveness.sendDgram true = .ok () ∧ (attempt = 0 → delivered = true)
  | .waiting attempt acknowledged (.slicing waitDeadline) =>
      now < waitDeadline ∨ acknowledged = false ∧ lastAttempt settings attempt = false
  | .retrying _ => settings.minReqInterval < deadline - now
  | _ => True

/-- The write has failed and not yet left its exchange. -/
def PostStage.Failed : PostStage → Prop
  | .leaving (.error _) => True
  | _ => False

/--
While its container holds an unread response the write is not ended outside a locked
read, and no response is dispatched to a write that has failed and not yet left.
-/
def KeepsAnswer (settings : WriteSettings) (state : PostState) : PostAction → Prop
  | .post now delivered => ∀ entry ∈ state.point.exchange?,
      (state.record entry.1).message ≠ none → (state.record entry.1).err = none →
        entry.2.GoesOn settings state.session entry.1.deadline now delivered
  | .advance _ => ∀ entry ∈ state.point.exchange?,
      entry.2.Failed → state.dispatched? entry.1 = none
  | _ => True

instance (settings : WriteSettings) (session : Session) (deadline now : ℚ) (delivered : Bool)
    (stage : PostStage) : Decidable (stage.GoesOn settings session deadline now delivered) := by
  unfold PostStage.GoesOn
  split <;> infer_instance

instance (stage : PostStage) : Decidable stage.Failed := by
  unfold PostStage.Failed
  split <;> infer_instance

instance (settings : WriteSettings) (state : PostState) :
    ∀ action, Decidable (KeepsAnswer settings state action)
  | .post _ _ | .advance _ => inferInstanceAs (Decidable (∀ entry ∈ state.point.exchange?, _))
  | .receive _ | .stop | .drain => inferInstanceAs (Decidable True)

/-! ### The thread -/

variable {settings : WriteSettings}

/-- Outside the locked reads nothing changes, and a write that goes on is not ended. -/
theorem postStage_outside (settings : WriteSettings) (session : Session) (now : ℚ)
    (delivered : Bool) (call : WriteExchange) {stage : PostStage}
    (elsewhere : ∀ attempt, stage ≠ .reading attempt)
    (inside : ∀ result, stage ≠ .leaving result) :
    (postStage settings session now delivered call stage).1 = session ∧
      ∀ result, (postStage settings session now delivered call stage).2.1 = .leaving result →
        (∃ error, result = .error error) ∧
          ¬stage.GoesOn settings session call.deadline now delivered := by
  cases stage with
  | pacing attempt => exact ⟨rfl, by simp [postStage]⟩
  | looking attempt =>
      simp only [postStage]
      split <;> exact ⟨rfl, by simp⟩
  | checking attempt acknowledged =>
      simp only [postStage]
      cases live : session.liveness.checkLive with
      | error error =>
          refine ⟨rfl, ?_⟩
          rintro _ ⟨⟩
          exact ⟨⟨error, rfl⟩, by simp [PostStage.GoesOn, live]⟩
      | ok =>
          refine ⟨?_, ?_⟩
          · dsimp only
            split <;> rfl
          · dsimp only
            split <;> simp
  | sending attempt =>
      simp only [postStage, PostStage.GoesOn, Liveness.sendDgram]
      split_ifs with dead taken
      · refine ⟨by simp, ?_⟩
        intro result left
        simp only [reduceCtorEq, false_and, if_false, PostStage.leaving.injEq] at left
        exact ⟨⟨_, left.symm⟩, by simp⟩
      · exact ⟨rfl, by simp⟩
      · by_cases first : attempt = 0
        · refine ⟨by simp [first], ?_⟩
          intro result left
          simp only [first, ne_eq, not_true_eq_false, and_false, if_false,
            PostStage.leaving.injEq] at left
          exact ⟨⟨_, left.symm⟩, by simp [first, taken]⟩
        · simp [first]
  | reading attempt => exact absurd rfl (elsewhere attempt)
  | waiting attempt acknowledged wait =>
      cases wait with
      | entering perWait => exact ⟨rfl, by simp [postStage, waitStep]⟩
      | slicing deadline =>
          simp only [postStage, PostStage.GoesOn]
          by_cases early : now < deadline
          · simp [waitStep_early session call.request early]
          · simp only [waitStep_late session call.request (not_lt.mp early)]
            split_ifs with ends
            · refine ⟨rfl, ?_⟩
              rintro _ ⟨⟩
              refine ⟨⟨_, rfl⟩, ?_⟩
              rcases ends with acked | last
              · simp [early, acked]
              · simp [early, last]
            · exact ⟨rfl, by simp⟩
      | polling deadline sliceEnd =>
          simp only [postStage, waitStep]
          split_ifs <;> exact ⟨rfl, by simp⟩
      | checking deadline =>
          simp only [postStage, waitStep, PostStage.GoesOn]
          cases live : session.liveness.checkLive with
          | error error =>
              refine ⟨rfl, ?_⟩
              rintro _ ⟨⟩
              exact ⟨⟨error, rfl⟩, by simp⟩
          | ok => exact ⟨rfl, by simp⟩
  | retrying attempt =>
      simp only [postStage]
      split_ifs with late
      · refine ⟨rfl, ?_⟩
        rintro _ ⟨⟩
        exact ⟨⟨_, rfl⟩, by simpa [PostStage.GoesOn] using late⟩
      · exact ⟨rfl, by simp⟩
  | leaving result => exact absurd rfl (inside result)

/-- What is known about the responses of a write that is in its attempts. -/
structure PostStage.Keeps (stage : PostStage) (record : PendingRequest)
    (responses : List CoapMessage) (woken : Prop) : Prop where
  returned : ∀ result, stage = .leaving (.ok result) →
    ∃ message ∈ responses, result = message.postResult
  failed : stage.Failed → responses = []
  held : ∀ message ∈ record.message, record.err = none → message ∈ responses
  answered : responses ≠ [] → record.err = none ∧ record.message ≠ none
  woken : responses ≠ [] → (∀ result, stage ≠ .leaving result) → woken

/-- A step of the write keeps what is known, and a locked read ends it with a response it holds. -/
theorem Keeps.postStage {session : Session} {now : ℚ} {delivered : Bool} {call : WriteExchange}
    {stage : PostStage} {responses : List CoapMessage} {waking : Prop}
    (inside : ∀ result, stage ≠ .leaving result)
    (keeps : stage.Keeps (session.registry.requests call.request) responses
      ((session.registry.requests call.request).event = true ∨ waking))
    (goesOn : (session.registry.requests call.request).message ≠ none →
      (session.registry.requests call.request).err = none →
        stage.GoesOn settings session call.deadline now delivered) :
    (Session.postStage settings session now delivered call stage).2.1.Keeps
      ((Session.postStage settings session now delivered call stage).1.registry.requests
        call.request)
      responses
      (((Session.postStage settings session now delivered call stage).1.registry.requests
        call.request).event = true ∨ waking) := by
  by_cases reads : ∃ attempt, stage = .reading attempt
  · rcases reads with ⟨attempt, rfl⟩
    simp only [Session.postStage]
    cases err : (session.registry.requests call.request).err with
    | some error =>
        have none : responses = [] := by
          by_contra some
          rw [(keeps.answered some).1] at err
          cases err
        subst none
        exact ⟨by simp, fun _ => rfl, keeps.held, by simp, by simp⟩
    | none =>
        cases holds : (session.registry.requests call.request).message with
        | some message =>
            have isHeld := keeps.held message (by simp [holds]) err
            refine ⟨?_, by simp [PostStage.Failed], keeps.held, keeps.answered, by simp⟩
            rintro _ ⟨⟩
            exact ⟨message, isHeld, rfl⟩
        | none =>
            have none : responses = [] := by
              by_contra some
              exact (keeps.answered some).2 holds
            subst none
            dsimp only
            split_ifs
            · refine ⟨by simp, fun _ => rfl, ?_, by simp, by simp⟩
              simp [Registry.modifyRequest, holds]
            · refine ⟨by simp, fun _ => rfl, ?_, by simp, by simp⟩
              simp [Registry.modifyRequest, holds]
  · rcases postStage_outside settings session now delivered call (not_exists.mp reads) inside with
      ⟨same, ends⟩
    rw [same]
    refine ⟨?_, ?_, keeps.held, keeps.answered, fun some _ => keeps.woken some inside⟩
    · intro result left
      rcases (ends _ left).1 with ⟨error, isError⟩
      cases isError
    · intro failed
      by_contra some
      rcases keeps.answered some with ⟨unfailed, isAnswered⟩
      unfold PostStage.Failed at failed
      split at failed
      · rename_i error left
        exact (ends _ left).2 (goesOn isAnswered unfailed)
      · exact failed

/-- A change of the record that adds nothing the write would return. -/
theorem PostStage.Keeps.change {stage : PostStage}
    {record after : PendingRequest} {responses : List CoapMessage} {woken wokenAfter : Prop}
    (keeps : stage.Keeps record responses woken) (message : after.message = record.message)
    (err : record.message ≠ none → after.err = record.err) (wakes : woken → wokenAfter) :
    stage.Keeps after responses wokenAfter := by
  refine ⟨keeps.returned, keeps.failed, ?_, ?_, fun some inside => wakes (keeps.woken some inside)⟩
  · intro held isHeld unfailed
    rw [message] at isHeld
    refine keeps.held held isHeld ?_
    rwa [← err (by simp [Option.mem_def.mp isHeld])]
  · intro some
    rcases keeps.answered some with ⟨unfailed, isAnswered⟩
    rw [message, err isAnswered]
    exact ⟨unfailed, isAnswered⟩

theorem postStep_exchange (settings : WriteSettings) (arguments : PostArguments)
    (session : Session) (now : ℚ) (delivered : Bool) (call : WriteExchange) {stage : PostStage}
    (inside : ∀ result, stage ≠ .leaving result) :
    postStep settings arguments session now delivered (.exchange call stage) =
      ((postStage settings session now delivered call stage).1,
        .exchange call (postStage settings session now delivered call stage).2.1,
        (postStage settings session now delivered call stage).2.2) := by
  cases stage with
  | leaving result => exact absurd rfl (inside result)
  | _ => rfl

/-- A registration starts with an empty container. -/
theorem keeps_registered {registry allocated : Registry} {tok : ByteString} {mid : ℕ}
    {request : RequestId} {waking : Prop}
    (registered : registry.registerPendingRequest tok {} = (.ok (mid, request), allocated)) :
    PostStage.Keeps (.pacing 0) (allocated.requests request) []
      ((allocated.requests request).event = true ∨ waking) := by
  have requests := (Registry.registerPendingRequest_eq registered).2.2.2
  refine ⟨by simp, fun _ => rfl, ?_, by simp, by simp⟩
  simp [requests]

namespace PostState

/-- Whether the thread has been or is about to be woken. -/
def Woken (state : PostState) (call : WriteExchange) : Prop :=
  (state.record call).event = true ∨ state.reader = .dispatching (.wake call.request)

/-- What is known about the responses, wherever the write is. -/
def Kept (state : PostState) : Prop :=
  match state.point with
  | .exchange call stage => stage.Keeps (state.record call) state.responses (state.Woken call)
  | .finished result => state.responses ≠ [] →
      ∃ message ∈ state.responses, result = .ok message.postResult
  | _ => state.responses = []

theorem kept_post {arguments : PostArguments} {state : PostState} {now : ℚ} {delivered : Bool}
    (kept : state.Kept) (goesOn : KeepsAnswer settings state (.post now delivered)) :
    (perform settings arguments (.post now delivered) state).Kept := by
  rcases state with ⟨session, reader, point, responses⟩
  cases point with
  | start =>
      simp only [perform, postStep]
      cases session.liveness.checkLive with
      | error error =>
          intro some
          exact absurd kept some
      | ok => exact kept
  | allocate => exact kept
  | register tok =>
      change responses = [] at kept
      subst kept
      simp only [perform, postStep, Kept]
      generalize registered : session.registry.registerPendingRequest tok {} = outcome
      rcases outcome with ⟨error | ⟨mid, request⟩, allocated⟩
      · simp
      · dsimp only
        cases buildCoap Coap.typeCon Coap.methodPost mid tok
            (postOptions arguments ++ arguments.extraOptions) arguments.body with
        | error error => simp
        | ok datagram => exact keeps_registered registered
  | finished result => exact kept
  | exchange call stage =>
      by_cases leaves : ∃ result, stage = .leaving result
      · rcases leaves with ⟨result, rfl⟩
        cases result with
        | ok result =>
            intro _
            rcases PostStage.Keeps.returned kept result rfl with ⟨message, isResponse, same⟩
            exact ⟨message, isResponse, by rw [same]; rfl⟩
        | error error =>
            intro some
            exact absurd (PostStage.Keeps.failed kept trivial) some
      · have step := Keeps.postStage (not_exists.mp leaves) kept
          (goesOn (call, stage) rfl)
        simp only [perform, postStep_exchange settings arguments session now delivered call
          (not_exists.mp leaves)]
        exact step

/-- What the reader dispatches is taken into account, unless the write has failed. -/
theorem keeps_answered {stage : PostStage} {record after : PendingRequest}
    {responses : List CoapMessage} {woken wokenAfter : Prop} {message : CoapMessage}
    (keeps : stage.Keeps record responses woken)
    (holds : after = { record with message := some message }) (wakes : wokenAfter)
    (inTime : record.err = none → ¬stage.Failed) :
    stage.Keeps after (responses ++ (if record.err = none then some message else none).toList)
      wokenAfter := by
  subst holds
  by_cases unfailed : record.err = none
  · rw [if_pos unfailed]
    refine ⟨?_, fun failed => absurd failed (inTime unfailed), ?_, ?_, fun _ _ => wakes⟩
    · intro result left
      rcases keeps.returned result left with ⟨earlier, isResponse, same⟩
      exact ⟨earlier, List.mem_append_left _ isResponse, same⟩
    · simp
    · simp [unfailed]
  · have none : responses = [] := by
      by_contra some
      exact unfailed (keeps.answered some).1
    subst none
    rw [if_neg unfailed, Option.toList_none, List.append_nil]
    refine ⟨keeps.returned, fun _ => rfl, ?_, by simp, by simp⟩
    intro _ _ isUnfailed
    exact absurd isUnfailed unfailed

theorem kept_advance {arguments : PostArguments} {state : PostState} {now : ℚ}
    (kept : state.Kept) (inTime : KeepsAnswer settings state (.advance now)) :
    (perform settings arguments (.advance now) state).Kept := by
  rcases state with ⟨session, reader, point, responses⟩
  cases reader with
  | stopped | exited => exact kept
  | dispatching at_ =>
      cases point with
      | start | allocate | register =>
          simp only [Kept] at kept
          simp [perform, Kept, kept, PostPoint.exchange?]
      | finished result => simpa [perform, Kept, PostPoint.exchange?] using kept
      | exchange call stage =>
          have keeps : stage.Keeps (session.registry.requests call.request) responses
              ((session.registry.requests call.request).event = true ∨
                ReaderThread.dispatching at_ = .dispatching (.wake call.request)) := kept
          change stage.Keeps ((dispatchStep session now at_).1.registry.requests call.request)
            (responses ++ (dispatched? ⟨session, .dispatching at_, .exchange call stage, responses⟩
              call).toList)
            (((dispatchStep session now at_).1.registry.requests call.request).event = true ∨
              ReaderThread.dispatching (dispatchStep session now at_).2.1 =
                .dispatching (.wake call.request))
          have step := dispatchStep_record call.request session now at_
          cases step with
          | apart unanswered _ message err woken =>
              have nothing : dispatched? ⟨session, .dispatching at_, .exchange call stage,
                  responses⟩ call = none := by
                unfold dispatched?
                cases at_ <;> simp_all
              rw [nothing, Option.toList_none, List.append_nil]
              apply keeps.change message (fun _ => err)
              rintro (already | waking)
              · exact .inl (woken (.inl already))
              · exact .inl (woken (.inr (ReaderThread.dispatching.inj waking)))
          | answered message resolving own record wakes =>
              have dispatched : dispatched? ⟨session, .dispatching at_, .exchange call stage,
                  responses⟩ call =
                  if (session.registry.requests call.request).err = none then some message
                  else none := by
                simp [dispatched?, resolving, own, PostState.record]
              rw [dispatched]
              refine keeps_answered keeps record ?_ ?_
              · exact .inr (congrArg ReaderThread.dispatching wakes)
              · intro unfailed failed
                have none := inTime (call, stage) rfl failed
                rw [dispatched, if_pos unfailed] at none
                cases none
          | rejected mid resetting own record wakes =>
              have nothing : dispatched? ⟨session, .dispatching at_, .exchange call stage,
                  responses⟩ call = none := by
                simp [dispatched?, resetting]
              rw [nothing, Option.toList_none, List.append_nil]
              apply keeps.change
              · rw [record]
                split_ifs <;> rfl
              · intro isAnswered
                rw [record, if_neg fun empty => isAnswered empty.1]
              · intro _
                exact .inr (congrArg ReaderThread.dispatching wakes)

/-- The teardown fails no answered write. -/
theorem close_record (registry : Registry) (request : RequestId) :
    (registry.closePendingRequests.requests request).message =
        (registry.requests request).message ∧
      ((registry.requests request).message ≠ none →
        (registry.closePendingRequests.requests request).err =
          (registry.requests request).err) ∧
      ((registry.requests request).event = true →
        (registry.closePendingRequests.requests request).event = true) := by
  refine ⟨(Registry.close_leaves request).message, ?_, ?_⟩
  · intro answered
    simp only [Registry.closePendingRequests, Registry.failUnanswered, if_neg answered]
    split_ifs <;> rfl
  · intro woken
    simp only [Registry.closePendingRequests]
    split_ifs
    · rfl
    · exact woken

/-- The reader does something else than waking the write, and leaves its record woken. -/
theorem Kept.reader {state after : PostState} (kept : state.Kept)
    (point : after.point = state.point) (responses : after.responses = state.responses)
    (awake : ∀ request, state.reader ≠ .dispatching (.wake request))
    (record : ∀ call, (after.record call).message = (state.record call).message ∧
      ((state.record call).message ≠ none → (after.record call).err = (state.record call).err) ∧
      ((state.record call).event = true → (after.record call).event = true)) : after.Kept := by
  unfold Kept at kept ⊢
  rw [point, responses]
  cases isAt : state.point with
  | start | allocate | register | finished => simpa [isAt] using kept
  | exchange call stage =>
      rw [isAt] at kept
      apply kept.change (record call).1 (record call).2.1
      rintro (already | waking)
      · exact .inl ((record call).2.2 already)
      · exact absurd waking (awake call.request)

theorem kept_perform {arguments : PostArguments} (state : PostState) (action : PostAction)
    (kept : state.Kept) (keeps : KeepsAnswer settings state action) :
    (perform settings arguments action state).Kept := by
  cases action with
  | receive datagram =>
      simp only [perform]
      split_ifs with idle
      · exact kept.reader rfl rfl (by simp [idle]) fun call => ⟨rfl, fun _ => rfl, id⟩
      · exact kept
  | advance now => exact kept_advance kept keeps
  | stop =>
      simp only [perform]
      split_ifs with idle
      · exact kept.reader rfl rfl (by simp [idle]) fun call => ⟨rfl, fun _ => rfl, id⟩
      · exact kept
  | drain =>
      simp only [perform]
      split_ifs with stopped
      · exact kept.reader rfl rfl (by simp [stopped]) fun call => close_record _ _
      · exact kept
  | post now delivered => exact kept_post kept keeps

end PostState

/-! ### Returning -/

/-- How many steps a write with an unread response and a woken thread needs at most. -/
def PostStage.rank : PostStage → ℕ
  | .leaving _ => 1
  | .reading _ => 2
  | .looking _ | .sending _ | .waiting _ _ (.polling _ _) => 3
  | .pacing _ | .checking _ _ => 4
  | .retrying _ => 5
  | .waiting _ _ (.slicing _) => 6
  | .waiting _ _ (.entering _) | .waiting _ _ (.checking _) => 7

def PostPoint.rank : PostPoint → ℕ
  | .exchange _ stage => stage.rank
  | _ => 0

theorem rank_postStage {session : Session} {now : ℚ} {delivered : Bool} {call : WriteExchange}
    {stage : PostStage} (inside : ∀ result, stage ≠ .leaving result)
    (woken : (session.registry.requests call.request).event = true)
    (answered : (session.registry.requests call.request).message ≠ none)
    (unfailed : (session.registry.requests call.request).err = none)
    (goesOn : stage.GoesOn settings session call.deadline now delivered) :
    (postStage settings session now delivered call stage).1 = session ∧
      (postStage settings session now delivered call stage).2.1.rank < stage.rank := by
  cases stage with
  | pacing attempt => exact ⟨rfl, by simp [postStage, PostStage.rank]⟩
  | looking attempt => simp [postStage, answered, PostStage.rank]
  | checking attempt acknowledged =>
      have live : session.liveness.checkLive = .ok () := goesOn
      cases acknowledged <;> simp [postStage, live, PostStage.rank]
  | sending attempt =>
      rcases goesOn with ⟨live, first⟩
      simp only [Liveness.sendDgram] at live
      split_ifs at live with dead
      by_cases isFirst : attempt = 0
      · simp [postStage, Liveness.sendDgram, dead, first isFirst, PostStage.rank]
      · cases delivered <;> simp [postStage, Liveness.sendDgram, dead, isFirst, PostStage.rank]
  | reading attempt =>
      cases holds : (session.registry.requests call.request).message with
      | none => exact absurd holds answered
      | some message => simp [postStage, unfailed, holds, PostStage.rank]
  | waiting attempt acknowledged wait =>
      cases wait with
      | entering perWait => exact ⟨rfl, by simp [postStage, waitStep, PostStage.rank]⟩
      | slicing deadline =>
          by_cases early : now < deadline
          · simp [postStage, waitStep_early session call.request early, PostStage.rank]
          · rcases goesOn with inTime | ⟨unacknowledged, notLast⟩
            · exact absurd inTime early
            · simp [postStage, waitStep_late session call.request (not_lt.mp early),
                unacknowledged, notLast, PostStage.rank]
      | polling deadline sliceEnd => simp [postStage, waitStep, woken, PostStage.rank]
      | checking deadline =>
          have live : session.liveness.checkLive = .ok () := goesOn
          simp [postStage, waitStep, live, PostStage.rank]
  | retrying attempt =>
      have inTime : settings.minReqInterval < call.deadline - now := goesOn
      simp [postStage, not_le.mpr inTime, PostStage.rank]
  | leaving result => exact absurd rfl (inside result)

namespace PostState

/-- The thread of a registered write is awake unless the write has ended. -/
def Awake (state : PostState) : Prop :=
  ∀ entry ∈ state.point.exchange?, (∀ result, entry.2 ≠ .leaving result) →
    (state.record entry.1).event = true

/-- A step of an answered write whose thread is awake lowers the rank. -/
theorem rank_perform {arguments : PostArguments} {state : PostState} {now : ℚ} {delivered : Bool}
    (kept : state.Kept) (answered : state.responses ≠ []) (awake : state.Awake)
    (goesOn : KeepsAnswer settings state (.post now delivered))
    (running : ∀ result, state.point ≠ .finished result) :
    (perform settings arguments (.post now delivered) state).Awake ∧
      (perform settings arguments (.post now delivered) state).point.rank < state.point.rank := by
  rcases state with ⟨session, reader, point, responses⟩
  cases point with
  | start | allocate | register => exact absurd kept answered
  | finished result => exact absurd rfl (running result)
  | exchange call stage =>
      by_cases leaves : ∃ result, stage = .leaving result
      · rcases leaves with ⟨result, rfl⟩
        refine ⟨?_, Nat.one_pos⟩
        intro entry isEntry
        cases isEntry
      · have keeps : stage.Keeps (session.registry.requests call.request) responses _ := kept
        rcases keeps.answered answered with ⟨unfailed, isAnswered⟩
        have woken := awake (call, stage) rfl (not_exists.mp leaves)
        rcases rank_postStage (not_exists.mp leaves) woken isAnswered unfailed
          (goesOn (call, stage) rfl isAnswered unfailed) with ⟨same, lower⟩
        simp only [perform, postStep_exchange settings arguments session now delivered call
          (not_exists.mp leaves), same]
        refine ⟨?_, lower⟩
        rintro entry isEntry _
        cases isEntry
        exact woken

/-- An answered write whose thread is awake returns within as many steps as its rank. -/
theorem finished_of_rank {arguments : PostArguments} {times : List (ℚ × Bool)} {state : PostState}
    (kept : state.Kept) (answered : state.responses ≠ []) (awake : state.Awake)
    (long : state.point.rank ≤ times.length)
    (meets : Machine.Meets (perform settings arguments) (KeepsAnswer settings)
      (times.map fun time => .post time.1 time.2) state) :
    ∃ result, (Machine.run (perform settings arguments)
      (times.map fun time => .post time.1 time.2) state).point = .finished result := by
  induction times generalizing state with
  | nil =>
      rcases state with ⟨session, reader, point, responses⟩
      cases point with
      | start | allocate | register => exact absurd kept answered
      | finished result => exact ⟨result, rfl⟩
      | exchange call stage =>
          cases stage with
          | waiting attempt acknowledged wait => cases wait <;> cases long
          | _ => cases long
  | cons time times ih =>
      rcases meets with ⟨goesOn, meets⟩
      have keptAfter : (perform settings arguments (.post time.1 time.2) state).Kept :=
        kept_perform state (.post time.1 time.2) kept goesOn
      by_cases running : ∃ result, state.point = .finished result
      · rcases running with ⟨result, done⟩
        have same : perform settings arguments (.post time.1 time.2) state = state := by
          simp only [perform, done, postStep]
          rw [← done]
        rw [List.map_cons, Machine.run, same]
        rw [same] at meets
        exact ih kept answered awake (by simp [done, PostPoint.rank]) meets
      · rcases rank_perform kept answered awake goesOn (not_exists.mp running) with
          ⟨awakeAfter, lower⟩
        apply ih keptAfter answered awakeAfter _ meets
        have := lower.trans_le long
        rw [List.length_cons] at this
        exact Nat.lt_succ_iff.mp this

/-- A thread that the reader is not about to wake has been woken for the response. -/
theorem Kept.awake {state : PostState} (kept : state.Kept) (answered : state.responses ≠ [])
    (quiet : ∀ request, state.reader ≠ .dispatching (.wake request)) : state.Awake := by
  rintro ⟨call, stage⟩ isEntry inside
  rcases state with ⟨session, reader, point, responses⟩
  cases point with
  | exchange =>
      cases isEntry
      rcases PostStage.Keeps.woken kept answered inside with woken | waking
      · exact woken
      · exact absurd waking (quiet call.request)
  | _ => cases isEntry

/-- The thread dispatches no response. -/
theorem responses_posts (settings : WriteSettings) (arguments : PostArguments)
    (times : List (ℚ × Bool)) (state : PostState) :
    (Machine.run (perform settings arguments)
      (times.map fun time => .post time.1 time.2) state).responses = state.responses := by
  induction times generalizing state with
  | nil => rfl
  | cons time times ih => exact ih _

theorem rank_le (point : PostPoint) : point.rank ≤ 7 := by
  cases point with
  | exchange call stage =>
      cases stage with
      | waiting attempt acknowledged wait => cases wait <;> simp [PostPoint.rank, PostStage.rank]
      | _ => simp [PostPoint.rank, PostStage.rank]
  | _ => simp [PostPoint.rank]

end PostState

/--
A response that was dispatched to a `post` before it failed is what it returns, and it
does return: at the latest seven steps after the reader has woken its thread. This holds in
every run in which an unread response is not passed over by a failing liveness check or
send or by the end of a wait or of the budget.
-/
theorem post_returns_dispatched_response (settings : WriteSettings) (arguments : PostArguments)
    (session : Session) (reader : ReaderThread) {actions : List PostAction}
    (meets : Machine.Meets (PostState.perform settings arguments) (KeepsAnswer settings) actions
      (.start session reader)) :
    let final := Machine.run (PostState.perform settings arguments) actions (.start session reader)
    final.responses ≠ [] →
      (∀ result, final.point = .finished result →
        ∃ message ∈ final.responses, result = .ok message.postResult) ∧
      ((∀ request, final.reader ≠ .dispatching (.wake request)) →
        ∀ times : List (ℚ × Bool), 7 ≤ times.length →
          Machine.Meets (PostState.perform settings arguments) (KeepsAnswer settings)
            (times.map fun time => .post time.1 time.2) final →
          ∃ message ∈ final.responses, (Machine.run (PostState.perform settings arguments)
            (times.map fun time => .post time.1 time.2) final).point =
              .finished (.ok message.postResult)) := by
  intro final answered
  have kept : final.Kept := Machine.invariant_run PostState.kept_perform meets rfl
  refine ⟨?_, ?_⟩
  · intro result done
    simp only [PostState.Kept, done] at kept
    exact kept answered
  · intro quiet times long later
    rcases PostState.finished_of_rank kept answered (kept.awake answered quiet)
      ((PostState.rank_le _).trans long) later with ⟨result, done⟩
    have keptAfter := Machine.invariant_run PostState.kept_perform later kept
    have same := PostState.responses_posts settings arguments times final
    simp only [PostState.Kept, done, same] at keptAfter
    rcases keptAfter answered with ⟨message, isResponse, rfl⟩
    exact ⟨message, isResponse, done⟩

/-- One attempt, and five requests a second. -/
def singleAttempt : WriteSettings := ⟨1, 1 / 5⟩

def smallWrite : PostArguments := ⟨["a"], [0xA0], 8, [], []⟩

/-- A live session whose reader is idle and that has a `post` about to start. -/
def beforePost : PostState :=
  .start (Session.started ⟨false, false, false, false, false⟩ 0 0) (.dispatching .idle)

/-- The write is answered and the reader dies. -/
def answeredAndStopped : List PostAction :=
  [.receive [0x64, 0x44, 0, 1, 0, 0, 0, 1, 0xFF, 7], .advance 1, .advance 1, .stop, .drain]

/-- Start, allocate, register, pace, look, check, send, read and begin to wait. -/
def untilWaiting : List PostAction := List.replicate 9 (.post 0 true)

/-- The response and the end of the reader come while the thread waits: the response is returned. -/
theorem post_returns_dispatched_response_example :
    let actions := untilWaiting ++ [.post 0 true] ++ answeredAndStopped ++
      List.replicate 3 (.post 1 true)
    let final := Machine.run (PostState.perform singleAttempt smallWrite) actions beforePost
    final.responses ≠ [] ∧ final.point = .finished (.ok (0x44, [7])) ∧
      ∀ result, final.point = .finished result →
        ∃ message ∈ final.responses, result = .ok message.postResult :=
  ⟨by decide +kernel, by decide +kernel,
    (post_returns_dispatched_response singleAttempt smallWrite _ _ (by decide +kernel)
      (by decide +kernel)).1⟩

/--
The same two events after a slice of the wait ran out and before the liveness check
behind it, and before the first liveness check: the confirmed write is a closed session.
-/
theorem post_reports_closed_session :
    let duringWait := Machine.run (PostState.perform singleAttempt smallWrite)
      (untilWaiting ++ [.post 0 true, .post 1 true] ++ answeredAndStopped ++
        [.post 1 true, .post 1 true]) beforePost
    let beforeCheck := Machine.run (PostState.perform singleAttempt smallWrite)
      (List.replicate 5 (.post 0 true) ++ answeredAndStopped ++ [.post 1 true, .post 1 true])
      beforePost
    (duringWait.responses ≠ [] ∧
      duringWait.point = .finished (.error (.session .sessionClosedError))) ∧
      beforeCheck.responses ≠ [] ∧
        beforeCheck.point = .finished (.error (.session .sessionClosedError)) := by
  decide +kernel

end SmartThingsLocal
