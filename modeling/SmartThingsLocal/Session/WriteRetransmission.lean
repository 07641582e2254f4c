import SmartThingsLocal.Session.ConfirmedWrite
import SmartThingsLocal.Session.RepeatingCalls
import SmartThingsLocal.Session.UploadSlices

/-!
# The retransmissions of a write

`post` and `_exchange_block1` repeat one datagram in two loops of the same form. Both are the
steps of a retransmission: `post` with the attempts its session allows, a chunk of an upload
with three. `post` builds its datagram after it has registered the exchange and before its
`try`, so that the exchange is left in the registries if the datagram cannot be built; what
`post` checks of its arguments rules this out.
-/

namespace SmartThingsLocal

open Session Retransmission

/-- The sends that a session allows `post`; the constructor of a session allows at least one. -/
def WriteSettings.attempts (settings : WriteSettings) : ℕ := max 1 settings.writeMaxAttempts

/-- Where the attempts of `post` are in its retransmission. -/
def PostStage.progress : PostStage → Stage
  | .pacing attempt | .looking attempt | .sending attempt => .unsent attempt
  | .checking attempt acknowledged => if acknowledged then .reading attempt else .unsent attempt
  | .reading attempt => .reading attempt
  | .waiting attempt acknowledged _ =>
      if acknowledged then .reading attempt else .unanswered attempt
  | .retrying attempt => .unsent (attempt + 1)
  | .leaving _ => .over

/-- The step reads the container under the lock. -/
def PostStage.looks : PostStage → Bool
  | .looking _ | .reading _ => true
  | _ => false

def ChunkStage.progress : ChunkStage → Stage
  | .pacing attempt | .looking attempt | .sending attempt => .unsent attempt
  | .checking attempt acknowledged => if acknowledged then .reading attempt else .unsent attempt
  | .reading attempt => .reading attempt
  | .waiting attempt acknowledged _ =>
      if acknowledged then .reading attempt else .unanswered attempt
  | .retrying attempt => .unsent (attempt + 1)
  | .leaving _ => .over

def ChunkStage.looks : ChunkStage → Bool
  | .looking _ | .reading _ => true
  | _ => false

/-- `post` for a body of at most one block. -/
def postCaller (settings : WriteSettings) (arguments : PostArguments) : Caller PostPoint where
  step := postStep settings arguments
  attempting?
    | .exchange call stage =>
        some ⟨⟨call.tok, call.mid, call.request⟩, call.datagram, stage.progress⟩
    | _ => none
  looks
    | .exchange _ stage => stage.looks
    | _ => false

/-- `post` for a body of more than one block, one exchange for each chunk. -/
def uploadCaller (settings : WriteSettings) (arguments : PostArguments) : Caller UploadPoint where
  step := uploadStep settings arguments
  attempting?
    | .exchange upload call stage =>
        some ⟨⟨upload.tok, call.mid, call.request⟩, call.datagram, stage.progress⟩
    | _ => none
  looks
    | .exchange _ _ stage => stage.looks
    | _ => false

variable {settings : WriteSettings} {arguments : PostArguments}

/-! ### One step of the two loops -/

/-- What a step inside of an exchange may do. -/
structure Repeating (limit : ℕ) (session next : Session) (request : RequestId)
    (datagram : ByteString) (stage : Stage) (looks : Bool) (effects : List Effect)
    (nextStage : Stage) : Prop where
  step : Step limit PendingRequest.Settled (session.registry.requests request) datagram stage
    ((if looks then [.looked (session.registry.requests request)] else []) ++
      (effects.filterMap Effect.sentDatagram?).map .sent) nextStage
  indices : Registry.SameIndices session.registry next.registry
  settled : Registry.StaysSettled session.registry next.registry

variable {limit : ℕ} {session : Session} {request : RequestId} {datagram : ByteString}
  {stage next : Stage}

/-- A step that neither looks nor sends. -/
theorem Repeating.silent (step : Step limit PendingRequest.Settled
    (session.registry.requests request) datagram stage [] next) :
    Repeating limit session session request datagram stage false [] next :=
  ⟨step, .refl _, .refl _⟩

/-- A step that looks. -/
theorem Repeating.look (step : Step limit PendingRequest.Settled
    (session.registry.requests request) datagram stage
    [.looked (session.registry.requests request)] next) :
    Repeating limit session session request datagram stage true [] next :=
  ⟨step, .refl _, .refl _⟩

/-- A look that finds nothing clears the event. -/
theorem Repeating.clear (step : Step limit PendingRequest.Settled
    (session.registry.requests request) datagram stage
    [.looked (session.registry.requests request)] next) :
    Repeating limit session { session with
      registry := session.registry.modifyRequest request fun record =>
        { record with event := false } } request datagram stage true [] next := by
  refine ⟨step, ⟨rfl, rfl, rfl⟩, ?_⟩
  dsimp only
  apply Registry.modifyRequest_staysSettled
  exact fun _ => id

/-- Looking before a send, with neither a response nor an error there. -/
theorem Repeating.checks (attempt : ℕ)
    (message : (session.registry.requests request).message = none)
    (err : (session.registry.requests request).err = none) :
    Repeating limit session session request datagram (.unsent attempt) true []
      (if (session.registry.requests request).acknowledged then .reading attempt
        else .unsent attempt) := by
  apply Repeating.look
  split_ifs with acknowledged
  · exact .found attempt
  · apply Step.lookOpen
    simp [PendingRequest.Settled, message, err, acknowledged]

/-- Looking before a wait, with neither a response nor an error there. -/
theorem Repeating.reads (attempt : ℕ)
    (message : (session.registry.requests request).message = none)
    (err : (session.registry.requests request).err = none) :
    Repeating limit session { session with
      registry := session.registry.modifyRequest request fun record =>
        { record with event := false } } request datagram (.reading attempt) true []
      (if (session.registry.requests request).acknowledged then .reading attempt
        else .unanswered attempt) := by
  apply Repeating.clear
  split_ifs with acknowledged
  · exact .foundAgain attempt
  · apply Step.awaits
    simp [PendingRequest.Settled, message, err, acknowledged]

/-- Where a wait leads to. -/
def WaitOutcome.Leads (limit attempt : ℕ) (acknowledged : Bool) (next : Stage) :
    WaitOutcome → Prop
  | .goesOn _ => next = if acknowledged then .reading attempt else .unanswered attempt
  | .woken => next = .reading attempt
  | .expired => next = .over ∨
      acknowledged = false ∧ attempt ≠ limit - 1 ∧ next = .unsent (attempt + 1)
  | .closed _ => next = .over

/-- Only a wait that expires before an ACK is followed by another attempt. -/
theorem Repeating.wait (outcome : WaitOutcome) {attempt : ℕ} {acknowledged : Bool}
    (leads : outcome.Leads limit attempt acknowledged next) :
    Repeating limit session session request datagram
      (if acknowledged then .reading attempt else .unanswered attempt) false [] next := by
  apply Repeating.silent
  cases outcome with
  | goesOn point =>
      cases leads
      exact .idle _
  | woken =>
      cases leads
      cases acknowledged with
      | true => exact .idle _
      | false => exact .wake _
  | expired =>
      rcases leads with rfl | ⟨rfl, notLast, rfl⟩
      · exact .giveUp _
      · exact .retry attempt notLast
  | closed error =>
      cases leads
      exact .giveUp _

/-- A step of `post` inside of its exchange. -/
theorem postStage_repeating (settings : WriteSettings) (session : Session) (now : ℚ)
    (delivered : Bool) (call : WriteExchange) {stage : PostStage}
    (inside : ∀ result, stage ≠ .leaving result) :
    Repeating settings.attempts session
      (postStage settings session now delivered call stage).1 call.request call.datagram
      stage.progress stage.looks (postStage settings session now delivered call stage).2.2
      (postStage settings session now delivered call stage).2.1.progress := by
  cases stage with
  | pacing attempt => exact .silent (.idle _)
  | looking attempt =>
      simp only [postStage]
      split_ifs with answered
      · exact .look (.found attempt)
      · simp only [not_or, not_not] at answered
        exact .checks attempt answered.1 answered.2
  | checking attempt acknowledged =>
      simp only [postStage]
      split
      · exact .silent (.giveUp _)
      · cases acknowledged with
        | true => exact .silent (.idle _)
        | false => exact .silent (.idle _)
  | sending attempt =>
      simp only [postStage]
      split
      · exact ⟨.send attempt, .refl _, .refl _⟩
      · split_ifs
        · exact .silent (.skip attempt)
        · exact .silent (.giveUp _)
  | reading attempt =>
      simp only [postStage]
      split
      · exact .look (.ends _)
      · exact .look (.ends _)
      · rename_i err message
        split_ifs
        · exact .clear (.ends _)
        · exact .reads attempt message err
  | waiting attempt acknowledged wait =>
      generalize waited : waitStep session call.request now wait = outcome
      simp only [postStage, waited]
      cases outcome with
      | goesOn point => exact .wait (.goesOn point) rfl
      | woken => exact .wait .woken rfl
      | expired =>
          dsimp only
          split_ifs with last
          · exact .wait .expired (.inl rfl)
          · simp only [not_or, Bool.not_eq_true, lastAttempt, decide_eq_false_iff_not] at last
            have notLast : attempt ≠ settings.attempts - 1 := by
              simp only [WriteSettings.attempts]
              omega
            exact .wait .expired (.inr ⟨last.1, notLast, rfl⟩)
      | closed error => exact .wait (.closed error) rfl
  | retrying attempt =>
      simp only [postStage]
      split_ifs
      · exact .silent (.giveUp _)
      · exact .silent (.idle _)
  | leaving result => exact absurd rfl (inside result)

/-- A step of `_exchange_block1` inside of its exchange. -/
theorem chunkStage_repeating (settings : WriteSettings) (session : Session) (now : ℚ)
    (delivered : Bool) (deadline : ℚ) (call : ChunkExchange) {stage : ChunkStage}
    (inside : ∀ result, stage ≠ .leaving result) :
    Repeating blockMaxAttempts session
      (chunkStage settings session now delivered deadline call stage).1 call.request call.datagram
      stage.progress stage.looks
      (chunkStage settings session now delivered deadline call stage).2.2
      (chunkStage settings session now delivered deadline call stage).2.1.progress := by
  cases stage with
  | pacing attempt => exact .silent (.idle _)
  | looking attempt =>
      simp only [chunkStage]
      split
      · exact .look (.ends _)
      · exact .look (.ends _)
      · rename_i err message
        exact .checks attempt message err
  | checking attempt acknowledged =>
      simp only [chunkStage]
      split
      · exact .silent (.giveUp _)
      · split_ifs with late isAcknowledged
        · exact .silent (.giveUp _)
        · rw [isAcknowledged]
          exact .silent (.idle _)
        · rw [Bool.not_eq_true] at isAcknowledged
          rw [isAcknowledged]
          exact .silent (.idle _)
  | sending attempt =>
      simp only [chunkStage]
      split
      · exact ⟨.send attempt, .refl _, .refl _⟩
      · split_ifs
        · exact .silent (.skip attempt)
        · exact .silent (.giveUp _)
  | reading attempt =>
      simp only [chunkStage]
      split
      · exact .look (.ends _)
      · exact .look (.ends _)
      · rename_i err message
        split_ifs
        · exact .clear (.ends _)
        · exact .reads attempt message err
        · exact .reads attempt message err
  | waiting attempt acknowledged wait =>
      generalize waited : waitStep session call.request now wait = outcome
      simp only [chunkStage, waited]
      cases outcome with
      | goesOn point => exact .wait (.goesOn point) rfl
      | woken => exact .wait .woken rfl
      | expired =>
          dsimp only
          split_ifs with last
          · exact .wait .expired (.inl rfl)
          · simp only [not_or, Bool.not_eq_true, lastBlockAttempt, decide_eq_false_iff_not] at last
            exact .wait .expired (.inr ⟨last.1, last.2, rfl⟩)
      | closed error => exact .wait (.closed error) rfl
  | retrying attempt =>
      simp only [chunkStage]
      split_ifs
      · exact .silent (.giveUp _)
      · exact .silent (.idle _)
  | leaving result => exact absurd rfl (inside result)

/-! ### The two calls -/

/-- What `post` has checked suffices to build its datagram. -/
theorem post_datagram {tok : ByteString} {mid : ℕ} (valid : arguments.Valid)
    (tokLength : tok.length = 4) (midFits : mid < 2 ^ 16) :
    ∃ datagram, buildCoap Coap.typeCon Coap.methodPost mid tok
      (postOptions arguments ++ arguments.extraOptions) arguments.body = .ok datagram := by
  have encodable : ∀ option ∈ postOptions arguments ++ arguments.extraOptions,
      option.1 ≤ OptionBytes.maxExtended ∧ option.2.length ≤ OptionBytes.maxExtended := by
    intro option optionMem
    have short : ([] : ByteString).length ≤ 3 := Nat.zero_le 3
    apply listedOptions_encodable valid ⟨0, false, 0, 1, 1, []⟩ short
    simp only [listedOptions, one_ne_zero, if_false, List.append_nil, List.mem_append] at *
    tauto
  refine ⟨_, buildCoap_eq _ _ _ _ _ _ ⟨show Coap.typeCon ≤ 3 by decide,
    show Coap.methodPost ≤ 255 by decide, midFits, tokLength.trans_le (by decide),
    representable_sortByNumber (fun option optionMem => (encodable option optionMem).1)
      (fun option optionMem => (encodable option optionMem).2)⟩⟩

/-- The token that `post` has allocated is encodable. -/
def PostPoint.Proper : PostPoint → Prop
  | .register tok => tok.length = 4
  | _ => True

theorem proper_postStep (session : Session) (now : ℚ) (delivered : Bool) (point : PostPoint) :
    (postStep settings arguments session now delivered point).2.1.Proper := by
  cases point with
  | start =>
      simp only [postStep]
      split <;> exact trivial
  | allocate => exact ByteString.length_ofNat _ _
  | register tok =>
      simp only [postStep]
      split
      · exact trivial
      · split <;> exact trivial
  | exchange call stage =>
      by_cases leaves : ∃ result, stage = .leaving result
      · rcases leaves with ⟨result, rfl⟩
        exact trivial
      · rw [postStep_exchange _ _ _ _ _ _ (not_exists.mp leaves)]
        exact trivial
  | finished result => exact trivial

theorem moves_postStep (valid : arguments.Valid) (session : Session) (now : ℚ) (delivered : Bool)
    {point : PostPoint} (proper : point.Proper) :
    (postCaller settings arguments).Moves settings.attempts session point
      (postStep settings arguments session now delivered point) := by
  cases point with
  | start =>
      simp only [postStep]
      split
      · exact .outside rfl rfl (.refl _)
      · exact .outside rfl rfl (.refl _)
  | allocate => exact .outside rfl rfl ⟨rfl, rfl, rfl⟩
  | register tok =>
      simp only [postStep]
      generalize registered : session.registry.registerPendingRequest tok {} = outcome
      rcases outcome with ⟨error | ⟨mid, request⟩, registry⟩
      · exact .outside rfl rfl (Registry.registerPendingRequest_sameIndices registered)
      · rcases post_datagram valid proper
          (Registry.registerPendingRequest_mid_lt registered) with ⟨datagram, built⟩
        simp only [built]
        exact .registers rfl rfl registered (.inl ⟨rfl, _, _, built⟩)
  | exchange call stage =>
      by_cases leaves : ∃ result, stage = .leaving result
      · rcases leaves with ⟨result, rfl⟩
        exact .leaves rfl rfl rfl rfl
      · rw [postStep_exchange _ _ _ _ _ _ (not_exists.mp leaves)]
        have repeating := postStage_repeating settings session now delivered call
          (not_exists.mp leaves)
        exact .attempts rfl rfl repeating.indices repeating.settled repeating.step
  | finished result => exact .outside rfl rfl (.refl _)

theorem keeps_postCaller (valid : arguments.Valid) :
    (postCaller settings arguments).Keeps settings.attempts PostPoint.Proper := by
  refine ⟨Nat.lt_of_lt_of_le Nat.one_pos (le_max_left _ _), ?_, ?_⟩
  · intro session now delivered point _
    exact proper_postStep session now delivered point
  · intro session now delivered point proper
    exact moves_postStep valid session now delivered proper

theorem moves_uploadStep (session : Session) (now : ℚ) (delivered : Bool) (point : UploadPoint) :
    (uploadCaller settings arguments).Moves blockMaxAttempts session point
      (uploadStep settings arguments session now delivered point) := by
  cases point with
  | start =>
      simp only [uploadStep]
      split
      · exact .outside rfl rfl (.refl _)
      · split
        · exact .outside rfl rfl (.refl _)
        · exact .outside rfl rfl (.refl _)
  | allocate => exact .outside rfl rfl ⟨rfl, rfl, rfl⟩
  | chunking upload =>
      simp only [uploadStep]
      cases session.liveness.checkLive with
      | error error => split_ifs <;> exact .outside rfl rfl (.refl _)
      | ok => split_ifs <;> exact .outside rfl rfl (.refl _)
  | register upload chunk =>
      simp only [uploadStep]
      split
      · exact .outside rfl rfl (.refl _)
      · generalize registered : session.registry.registerPendingRequest upload.tok
          { expectedBlock1 := some ⟨chunk.start, chunk.stop, chunk.more⟩ } = outcome
        rcases outcome with ⟨error | ⟨mid, request⟩, registry⟩
        · exact .outside rfl rfl (Registry.registerPendingRequest_sameIndices registered)
        · dsimp only
          split
          · exact .registers rfl rfl registered (.inr rfl)
          · rename_i built
            exact .registers rfl rfl registered (.inl ⟨rfl, _, _, built⟩)
  | exchange upload call stage =>
      by_cases leaves : ∃ result, stage = .leaving result
      · rcases leaves with ⟨failure | message, rfl⟩
        · exact .leaves rfl rfl rfl rfl
        · simp only [uploadStep]
          split
          · exact .leaves rfl rfl rfl rfl
          · exact .leaves rfl rfl rfl rfl
          · exact .leaves rfl rfl rfl rfl
      · rw [uploadStep_exchange _ _ _ _ _ _ _ (not_exists.mp leaves)]
        have repeating := chunkStage_repeating settings session now delivered upload.deadline call
          (not_exists.mp leaves)
        exact .attempts rfl rfl repeating.indices repeating.settled repeating.step
  | finished result => exact .outside rfl rfl (.refl _)

theorem keeps_uploadCaller :
    (uploadCaller settings arguments).Keeps blockMaxAttempts fun _ => True := by
  refine ⟨Nat.succ_pos 2, fun _ _ _ _ _ => trivial, ?_⟩
  intro session now delivered point _
  exact moves_uploadStep session now delivered point

/-! ### Runs -/

/-- `post` has not registered its exchange yet. -/
def PostPoint.Unregistered : PostPoint → Prop
  | .start | .allocate | .register _ => True
  | .exchange .. | .finished _ => False

/-- `post` registers one exchange. -/
structure Single (state : CallState PostPoint) : Prop where
  atMostOne : state.transcripts.length ≤ 1
  unregistered : state.point.Unregistered → state.transcripts.length = 0

theorem unregistered_postStep {session : Session} {now : ℚ} {delivered : Bool} {point : PostPoint}
    (unregistered :
      (postStep settings arguments session now delivered point).2.1.Unregistered) :
    point.Unregistered := by
  cases point with
  | start | allocate | register => exact trivial
  | exchange call stage =>
      by_cases leaves : ∃ result, stage = .leaving result
      · rcases leaves with ⟨result, rfl⟩
        exact unregistered
      · rw [postStep_exchange _ _ _ _ _ _ (not_exists.mp leaves)] at unregistered
        exact unregistered
  | finished result => exact unregistered

theorem unregistered_of_registers {session : Session} {now : ℚ} {delivered : Bool}
    {point : PostPoint} (before : (postCaller settings arguments).attempting? point = none)
    (after : (postCaller settings arguments).attempting?
      (postStep settings arguments session now delivered point).2.1 ≠ none) :
    point.Unregistered ∧
      ¬ (postStep settings arguments session now delivered point).2.1.Unregistered := by
  constructor
  · cases point with
    | start | allocate | register => exact trivial
    | exchange call stage => cases before
    | finished result => exact absurd rfl after
  · intro unregistered
    apply after
    generalize (postStep settings arguments session now delivered point).2.1 = next at unregistered
    cases next with
    | start | allocate | register => rfl
    | exchange | finished => exact unregistered.elim

theorem single_perform (state : CallState PostPoint) (action : CallAction)
    (single : Single state) : Single ((postCaller settings arguments).perform action state) := by
  cases action with
  | other action =>
      simp only [Caller.perform]
      split_ifs
      · exact single
      · exact ⟨single.atMostOne, single.unregistered⟩
  | call now delivered =>
      have point := Caller.point_call (postCaller settings arguments) state now delivered
      rcases Caller.length_call (postCaller settings arguments) state now delivered with
        same | ⟨before, after, another⟩
      · refine ⟨same.trans_le single.atMostOne, fun unregistered => ?_⟩
        rw [point] at unregistered
        exact same.trans (single.unregistered (unregistered_postStep unregistered))
      · rw [point] at after
        rcases unregistered_of_registers before after with ⟨unregistered, registered⟩
        refine ⟨?_, fun stillUnregistered => ?_⟩
        · rw [another, single.unregistered unregistered]
        · rw [point] at stillUnregistered
          exact absurd stillUnregistered registered

/--
In every interleaving with the reader, the teardown and other calls, a write sends only what
its transcripts show. `post` has at most one exchange and sends at most as often as its session
allows; an upload sends each chunk at most three times. All sends of an exchange are the same
datagram under its token and its Message ID, none follows a locked look that found a response,
an error or an ACK, and an exchange that the call does not stand at any more is in neither
index.
-/
theorem writes_repeat_one_datagram (settings : WriteSettings) {arguments : PostArguments}
    (passed : postChecks arguments = .ok ()) (callbacks : Callbacks) (mid tokCounter : ℕ)
    (actions : List CallAction) :
    let posted := Machine.run (postCaller settings arguments).perform actions
      (.start callbacks mid tokCounter .start)
    let uploaded := Machine.run (uploadCaller settings arguments).perform actions
      (.start callbacks mid tokCounter .start)
    posted.Faithful (postCaller settings arguments) settings.attempts ∧
      posted.transcripts.length ≤ 1 ∧ posted.sent.length ≤ settings.attempts ∧
      uploaded.Faithful (uploadCaller settings arguments) blockMaxAttempts := by
  intro posted uploaded
  have kept : posted.Kept (postCaller settings arguments) settings.attempts PostPoint.Proper := by
    apply Machine.invariant_run_all
      (CallState.kept_perform (keeps_postCaller (valid_of_postChecks passed)))
    exact CallState.kept_start callbacks mid tokCounter trivial rfl
  have single : Single posted := by
    apply Machine.invariant_run_all single_perform
    exact ⟨Nat.zero_le 1, fun _ => rfl⟩
  have keptUpload : uploaded.Kept (uploadCaller settings arguments) blockMaxAttempts
      fun _ => True := by
    apply Machine.invariant_run_all (CallState.kept_perform keeps_uploadCaller)
    exact CallState.kept_start callbacks mid tokCounter trivial rfl
  refine ⟨kept.faithful, single.atMostOne, ?_, keptUpload.faithful⟩
  rw [kept.faithful.sent]
  have repeats := kept.faithful.repeats
  cases transcripts : posted.transcripts with
  | nil => exact Nat.zero_le _
  | cons transcript earlier =>
      have alone : earlier = [] := by simpa [transcripts] using single.atMostOne
      rw [transcripts] at repeats
      simpa [alone] using (repeats transcript List.mem_cons_self).few

/-- A write whose first attempt expires and that has been sent again. -/
def sentAgain : List CallAction :=
  List.replicate 9 (.call 0 true) ++ List.replicate 6 (.call 5 true)

theorem writes_repeat_one_datagram_example :
    let posted := Machine.run (postCaller ⟨2, 1 / 5⟩ smallWrite).perform sentAgain
      (.start ⟨false, false, false, false, false⟩ 0 0 .start)
    posted.sent.length = 2 ∧ posted.Faithful (postCaller ⟨2, 1 / 5⟩ smallWrite) 2 := by
  have passed : postChecks smallWrite = .ok () := by decide +kernel
  refine ⟨by decide +kernel, ?_⟩
  exact (writes_repeat_one_datagram ⟨2, 1 / 5⟩ passed _ 0 0 sentAgain).1

end SmartThingsLocal
