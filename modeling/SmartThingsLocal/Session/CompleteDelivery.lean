import SmartThingsLocal.Coap.Block2Assembly
import SmartThingsLocal.Session.RefetchWorker

/-!
# Only complete representations are delivered

An inline delivery carries the payload of a live 2.05 notification that is a
representation as a whole, and a delivery of the re-read worker carries what the
responses that its GET has taken in the run add up to. A re-read that fails, ends in
another code or is superseded delivers nothing: its number is given up and never
queued again.
-/

namespace SmartThingsLocal

open Session

/-- No Block2 option, or a single one of at most three bytes for block 0 with no more to come. -/
def WholeBody (message : CoapMessage) : Prop :=
  optionValues message.options Coap.block2 = [] ∨
    ∃ value, optionValues message.options Coap.block2 = [value] ∧ value.length ≤ 3 ∧
      (blockFields value).1 = 0 ∧ (blockFields value).2.1 = 0

/-- The transfer of a re-read: its token, and the responses that its GET has taken so far. -/
structure Reread where
  tok : ByteString
  taken : List CoapMessage
  deriving DecidableEq

/-- What a step of the worker makes of it: a GET starts, again or for the first time, on a new
token, and a block exchange that ends with a response hands it to the transfer. -/
def Reread.after (session : Session) (reread : Reread) : WorkerPoint → Reread
  | .reading _ (.start _) => ⟨session.registry.nextTok.1, []⟩
  | .reading _ (.exchange _ _ (.leaving (.ok message))) =>
      { reread with taken := reread.taken ++ [message] }
  | _ => reread

/-- The session with the transfer that its worker has in hand. -/
structure WatchedSystem where
  system : System
  reread : Reread

def WatchedSystem.perform (action : SystemAction) (state : WatchedSystem) : WatchedSystem where
  system := state.system.perform action
  reread :=
    match action with
    | .work _ _ => state.reread.after state.system.session state.system.worker
    | _ => state.reread

/-- The transfer that the worker has in hand after a run. -/
def rereadAfter (start : System) (actions : List SystemAction) : Reread :=
  (Machine.run WatchedSystem.perform actions ⟨start, ⟨[], []⟩⟩).reread

/-- The accumulator of a transfer that was fed with its responses, in order. -/
def Reread.Assembles (reread : Reread) (accumulator : Block2Accumulator) : Prop :=
  ∃ fresh,
    Block2Accumulator.create reread.tok Coap.maxBlock2Blocks Coap.maxBlock2PayloadBytes none =
      .ok fresh ∧ (fresh.respondAll reread.taken).2 = accumulator

/-- The payload of the transfer, which has finished with code 2.05. -/
def Reread.Completed (reread : Reread) (payload : ByteString) : Prop :=
  ∃ accumulator, reread.Assembles accumulator ∧ accumulator.complete = true ∧
    accumulator.code = some 0x45 ∧ payload = accumulator.payload

/-- The payload of a live 2.05 notification of the path that is a representation as a whole. -/
def NotifiedCompletely (log : List Event) (href : String) (payload : ByteString) : Prop :=
  ∃ message, .live message href ∈ log ∧ message.code = 0x45 ∧ WholeBody message ∧
    payload = message.payload

/-- The payload of the transfer that the worker has read at some step of the run. -/
def ReadCompletely (start : System) (actions : List SystemAction) (point : WorkerPoint)
    (payload : ByteString) : Prop :=
  ∃ before now delivered after, actions = before ++ .work now delivered :: after ∧
    (Machine.run System.perform before start).worker = point ∧
    (rereadAfter start before).Completed payload

/-- Whatever an event of a run hands to a notification callback is complete. -/
def Event.Complete (start : System) (actions : List SystemAction) : Event → Prop
  | .live _ _ => True
  | .reader _ effect => ∀ href payload, effect.delivered? = some (href, payload) →
      NotifiedCompletely (Machine.run System.perform actions start).log href payload
  | .worker point effect => ∀ href payload, effect.delivered? = some (href, payload) →
      ReadCompletely start actions point payload

/-- What the reader knows about the notification it holds. -/
def DispatchPoint.Noticed (log : List Event) : DispatchPoint → Prop
  | .order message href _ => .live message href ∈ log
  | .probation message href _ blockwise =>
      .live message href ∈ log ∧ message.code = 0x45 ∧
        blockwiseRefetch message.options = some blockwise
  | .settled delivery blockwise => ∃ message, .live message delivery.href ∈ log ∧
      message.code = 0x45 ∧ blockwiseRefetch message.options = some blockwise ∧
      delivery.payload = message.payload
  | _ => True

/-- What the GET holds is what its responses add up to. -/
def GetPoint.Transferring (reread : Reread) : GetPoint → Prop
  | .request transfer | .exchange transfer _ _ =>
      transfer.tok = reread.tok ∧ reread.Assembles transfer.accumulator
  | .finished (.ok result) => result.code = some 0x45 → reread.Completed result.payload
  | _ => True

def WorkerPoint.Transferring (reread : Reread) : WorkerPoint → Prop
  | .reading _ getter => getter.Transferring reread
  | .current _ payload | .sequencing _ payload => reread.Completed payload
  | .delivering _ delivery => reread.Completed delivery.payload
  | _ => True

/-! ### Inline deliveries -/

theorem wholeBody_of_inline {message : CoapMessage}
    (inline : blockwiseRefetch message.options = some false) : WholeBody message := by
  unfold blockwiseRefetch at inline
  split at inline
  · rename_i absent
    exact .inl absent
  · rename_i value single
    split_ifs at inline with long
    simp only [Option.some.injEq, Bool.or_eq_false_iff, bne_eq_false_iff_eq] at inline
    exact .inr ⟨value, single, not_lt.mp long, inline.2, inline.1⟩
  · cases inline

theorem delivered_of_deliver {callbacks : Callbacks} {delivery : ObserveDelivery} {effect : Effect}
    {href : String} {payload : ByteString} (effectMem : effect ∈ deliver callbacks delivery)
    (delivered : effect.delivered? = some (href, payload)) :
    href = delivery.href ∧ payload = delivery.payload := by
  unfold deliver at effectMem
  split_ifs at effectMem <;> simp only [List.mem_singleton, List.not_mem_nil] at effectMem <;>
    subst effectMem <;> cases delivered <;> exact ⟨rfl, rfl⟩

theorem NotifiedCompletely.append {log : List Event} {href : String} {payload : ByteString}
    (notified : NotifiedCompletely log href payload) (events : List Event) :
    NotifiedCompletely (log ++ events) href payload := by
  rcases notified with ⟨message, live, rest⟩
  exact ⟨message, List.mem_append_left _ live, rest⟩

theorem DispatchPoint.Noticed.append {log : List Event} {point : DispatchPoint}
    (noticed : point.Noticed log) (events : List Event) : point.Noticed (log ++ events) := by
  cases point with
  | order message href query => exact List.mem_append_left _ noticed
  | probation message href query blockwise =>
      exact ⟨List.mem_append_left _ noticed.1, noticed.2⟩
  | settled delivery blockwise =>
      rcases noticed with ⟨message, live, rest⟩
      exact ⟨message, List.mem_append_left _ live, rest⟩
  | _ => trivial

/-- What a step of the reader knows afterwards, and what it delivers. -/
theorem advances_noticed {session next : Session} {now : ℚ} {point nextPoint : DispatchPoint}
    {effects : List Effect} {log : List Event} (noticed : point.Noticed log)
    (step : Advances session now point next nextPoint effects) :
    nextPoint.Noticed (log ++ liveEvents session point) ∧
      ∀ effect ∈ effects, ∀ href payload, effect.delivered? = some (href, payload) →
        NotifiedCompletely log href payload := by
  have quiet {effect : Effect} (quiet : effect.delivered? = none) :
      ∀ href payload, effect.delivered? = some (href, payload) →
        NotifiedCompletely log href payload := by
    intro href payload delivered
    rw [quiet] at delivered
    cases delivered
  cases step with
  | registry registry before after carried =>
      refine ⟨?_, by simp⟩
      cases nextPoint <;> trivial
  | identified live => exact ⟨by simp [DispatchPoint.Noticed, liveEvents, live], by simp⟩
  | retired failure =>
      refine ⟨trivial, ?_⟩
      intro effect effectMem
      split_ifs at effectMem <;> simp at effectMem
      subst effectMem
      exact quiet rfl
  | ignored _ => exact ⟨trivial, by simp⟩
  | @sequenced message _ _ _ _ success blocks _ _ =>
      refine ⟨⟨message, List.mem_append_left _ noticed, success, blocks, rfl⟩, ?_⟩
      intro effect effectMem
      rw [List.mem_singleton.mp effectMem]
      exact quiet rfl
  | @promoted message _ _ _ _ success blocks _ _ =>
      refine ⟨⟨message, List.mem_append_left _ noticed, success, blocks, rfl⟩, ?_⟩
      intro effect effectMem
      rw [List.mem_singleton.mp effectMem]
      exact quiet rfl
  | onProbation success blocks _ _ =>
      refine ⟨⟨List.mem_append_left _ noticed, success, blocks⟩, ?_⟩
      intro effect effectMem
      rw [List.mem_singleton.mp effectMem]
      exact quiet rfl
  | @confirmed message _ _ _ _ =>
      refine ⟨⟨message, List.mem_append_left _ noticed.1, noticed.2.1, noticed.2.2, rfl⟩, ?_⟩
      intro effect effectMem
      split_ifs at effectMem <;> simp at effectMem
      subst effectMem
      exact quiet rfl
  | lapsed _ =>
      refine ⟨trivial, ?_⟩
      intro effect effectMem
      split_ifs at effectMem <;> simp at effectMem
      subst effectMem
      exact quiet rfl
  | @queued delivery =>
      refine ⟨trivial, ?_⟩
      intro effect effectMem
      rcases RefetchQueue.queue_cases session.refetch
        ⟨delivery.href, delivery.query, delivery.legacy⟩ delivery.registration with
        ⟨_, _, full⟩ | queued
      · simp [full] at effectMem
      · simp only [queued, List.mem_singleton] at effectMem
        subst effectMem
        exact quiet rfl
  | @delivered delivery =>
      refine ⟨trivial, ?_⟩
      intro effect effectMem href payload delivered
      rcases delivered_of_deliver effectMem delivered with ⟨rfl, rfl⟩
      rcases noticed with ⟨message, live, success, blocks, same⟩
      exact ⟨message, live, success, wholeBody_of_inline blocks, same⟩

/-! ### Deliveries of the worker -/

theorem Reread.Assembles.respond {reread : Reread} {accumulator : Block2Accumulator}
    (assembles : reread.Assembles accumulator) (message : CoapMessage) :
    Reread.Assembles { reread with taken := reread.taken ++ [message] }
      (accumulator.respond message).2 := by
  rcases assembles with ⟨fresh, created, rfl⟩
  exact ⟨fresh, created, congrArg Prod.snd (fresh.respondAll_append reread.taken message)⟩

/-- A call that reports completion leaves the accumulator complete. -/
theorem complete_of_respond {accumulator after : Block2Accumulator} {message : CoapMessage}
    (completed : accumulator.respond message = (.ok .complete, after)) : after.complete = true := by
  rcases Block2Accumulator.taken_cases completed (by decide) with
    ⟨-, -, rfl⟩ | ⟨_, more, _, _, -, status, rfl⟩
  · rfl
  · cases more with
    | true => cases status
    | false => rfl

theorem receiveBlock_transferring {reread : Reread} {transfer : BlockTransfer}
    (own : transfer.tok = reread.tok) (assembles : reread.Assembles transfer.accumulator)
    (message : CoapMessage) :
    (receiveBlock transfer message).Transferring
      { reread with taken := reread.taken ++ [message] } := by
  have next := assembles.respond message
  unfold receiveBlock
  split_ifs
  · trivial
  · trivial
  · generalize outcome : transfer.accumulator.respond message = result at next
    rcases result with ⟨_ | _ | _ | _, after⟩
    · trivial
    · exact ⟨own, next⟩
    · exact ⟨own, next⟩
    · intro content
      exact ⟨after, next, complete_of_respond outcome, content, rfl⟩

/-- One step of the GET, with what it takes. -/
theorem getStep_transferring (arguments : GetArguments) (session : Session) (now : ℚ)
    (delivered : Bool) {reread : Reread} {point : GetPoint} (job : RefetchJob)
    (transferring : point.Transferring reread) :
    (getStep arguments session now delivered point).2.1.Transferring
      (reread.after session (.reading job point)) := by
  cases point with
  | start restarted =>
      simp only [getStep]
      split
      · trivial
      · rename_i accumulator created
        exact ⟨rfl, accumulator, created, rfl⟩
  | request transfer =>
      simp only [getStep]
      split
      · trivial
      · split
        · trivial
        · split
          · trivial
          · exact transferring
  | finished result => exact transferring
  | exchange transfer block point =>
      by_cases leaves : ∃ result, point = .leaving result
      · rcases leaves with ⟨result, rfl⟩
        cases result with
        | error error => trivial
        | ok message => exact receiveBlock_transferring transferring.1 transferring.2 message
      · have unmoved : reread.after session (.reading job (.exchange transfer block point)) =
            reread := by
          cases point with
          | leaving result => exact absurd ⟨result, rfl⟩ leaves
          | _ => rfl
        rw [getStep_exchange arguments session now delivered transfer block
          (not_exists.mp leaves), unmoved]
        exact transferring

/-- What a step of the worker has read afterwards, and what it delivers. -/
theorem works_transferring {session next : Session} {now : ℚ} {delivered : Bool}
    {point nextPoint : WorkerPoint} {effects : List Effect} {reread : Reread}
    (transferring : point.Transferring reread)
    (step : Works session now delivered point next nextPoint effects) :
    nextPoint.Transferring (reread.after session point) ∧
      ∀ effect ∈ effects, ∀ href payload, effect.delivered? = some (href, payload) →
        reread.Completed payload := by
  cases step with
  | rests _ idleNext => exact ⟨by cases nextPoint <;> trivial, by simp⟩
  | takes _ => exact ⟨trivial, by simp⟩
  | drops => exact ⟨trivial, by simp⟩
  | starts _ => exact ⟨trivial, by simp⟩
  | @reads job getter unfinished =>
      refine ⟨getStep_transferring _ session now delivered job transferring, ?_⟩
      intro effect effectMem href payload handed
      rcases (getStep_onlySends _ session now delivered getter).sent effect effectMem with
        ⟨datagram, rfl⟩
      cases handed
  | completes content _ => exact ⟨transferring content, by simp⟩
  | confirms _ => exact ⟨transferring, by simp⟩
  | composes => exact ⟨transferring, by simp⟩
  | delivers =>
      refine ⟨trivial, ?_⟩
      intro effect effectMem href payload handed
      rcases delivered_of_deliver effectMem handed with ⟨rfl, rfl⟩
      exact transferring

/-! ### Runs -/

/-- Watching the transfer changes nothing in the run. -/
theorem watched_system (actions : List SystemAction) (start : WatchedSystem) :
    (Machine.run WatchedSystem.perform actions start).system =
      Machine.run System.perform actions start.system := by
  induction actions generalizing start with
  | nil => rfl
  | cons action actions ih => exact ih _

theorem rereadAfter_concat (start : System) (actions : List SystemAction)
    (action : SystemAction) :
    rereadAfter start (actions ++ [action]) =
      match action with
      | .work _ _ => (rereadAfter start actions).after
          (Machine.run System.perform actions start).session
          (Machine.run System.perform actions start).worker
      | _ => rereadAfter start actions := by
  unfold rereadAfter
  rw [Machine.run_append]
  have system := watched_system actions ⟨start, ⟨[], []⟩⟩
  cases action <;> simp [Machine.run, WatchedSystem.perform, system]

theorem ReadCompletely.concat {start : System} {actions : List SystemAction}
    {point : WorkerPoint} {payload : ByteString}
    (read : ReadCompletely start actions point payload) (action : SystemAction) :
    ReadCompletely start (actions ++ [action]) point payload := by
  rcases read with ⟨before, now, delivered, after, rfl, rest⟩
  exact ⟨before, now, delivered, after ++ [action], by simp, rest⟩

theorem Event.Complete.concat {start : System} {actions : List SystemAction} {event : Event}
    (complete : event.Complete start actions) (action : SystemAction)
    (grows : (Machine.run System.perform actions start).log <+:
      (Machine.run System.perform (actions ++ [action]) start).log) :
    event.Complete start (actions ++ [action]) := by
  cases event with
  | live _ _ => trivial
  | reader point effect =>
      intro href payload delivered
      rcases grows with ⟨events, same⟩
      rw [← same]
      exact (complete href payload delivered).append events
  | worker point effect =>
      intro href payload delivered
      exact (complete href payload delivered).concat action

structure DeliveryInvariant (start : System) (actions : List SystemAction) (state : System) :
    Prop where
  reader : state.reader.Noticed state.log
  worker : state.worker.Transferring (rereadAfter start actions)
  log : ∀ event ∈ state.log, event.Complete start actions

theorem delivery_concat {start : System} {actions : List SystemAction} (action : SystemAction)
    (invariant : DeliveryInvariant start actions (Machine.run System.perform actions start)) :
    DeliveryInvariant start (actions ++ [action])
      (Machine.run System.perform (actions ++ [action]) start) := by
  have reread := rereadAfter_concat start actions action
  have step : Machine.run System.perform (actions ++ [action]) start =
      (Machine.run System.perform actions start).perform action := by
    rw [Machine.run_append]
    rfl
  -- The events of the step come after those of the shorter run.
  have logged (events : List Event)
      (grown : ((Machine.run System.perform actions start).perform action).log =
        (Machine.run System.perform actions start).log ++ events)
      (complete : ∀ event ∈ events, event.Complete start (actions ++ [action])) :
      ∀ event ∈ ((Machine.run System.perform actions start).perform action).log,
        event.Complete start (actions ++ [action]) := by
    intro event eventMem
    rw [grown] at eventMem
    rcases List.mem_append.mp eventMem with earlier | new
    · apply (invariant.log event earlier).concat action
      rw [step, grown]
      exact List.prefix_append _ _
    · exact complete event new
  rw [step]
  generalize reached : Machine.run System.perform actions start = state at *
  rcases state with ⟨session, reader, worker, log⟩
  cases action with
  | receive datagram =>
      simp only [System.perform] at logged ⊢
      split_ifs at logged ⊢ with idle
      · rcases receive_cases session datagram with ⟨unordered, acksOnly, _⟩
        refine ⟨?_, reread ▸ invariant.worker, logged _ rfl ?_⟩
        · dsimp only
          generalize (receive session datagram).1 = taken at unordered
          cases taken <;> trivial
        · intro event eventMem
          rcases List.mem_map.mp eventMem with ⟨effect, effectMem, rfl⟩
          rcases acksOnly effect effectMem with ⟨sent, rfl⟩
          intro href payload handed
          cases handed
      · exact ⟨invariant.reader, reread ▸ invariant.worker, logged [] (by simp) (by simp)⟩
  | advance now =>
      rcases advances_noticed invariant.reader (dispatchStep_advances session now reader) with
        ⟨noticed, complete⟩
      simp only [System.perform, List.append_assoc] at logged ⊢
      refine ⟨?_, reread ▸ invariant.worker, logged _ rfl ?_⟩
      · rw [← List.append_assoc]
        exact noticed.append _
      · intro event eventMem
        rcases List.mem_append.mp eventMem with live | caused
        · cases event with
          | live _ _ => trivial
          | _ => cases reader <;> simp [liveEvents] at live
        · rcases List.mem_map.mp caused with ⟨effect, effectMem, rfl⟩
          intro href payload delivered
          rw [step]
          simp only [System.perform, List.append_assoc]
          exact (complete effect effectMem href payload delivered).append _
  | work now delivered =>
      rcases works_transferring invariant.worker (workerStep_works session now delivered worker)
        with ⟨transferring, complete⟩
      refine ⟨invariant.reader.append _, reread ▸ transferring, logged _ rfl ?_⟩
      intro event eventMem
      rcases List.mem_map.mp eventMem with ⟨effect, effectMem, rfl⟩
      intro href payload handed
      exact ⟨actions, now, delivered, [], rfl, by rw [reached],
        complete effect effectMem href payload handed⟩
  | others other =>
      exact ⟨invariant.reader, reread ▸ invariant.worker, logged [] (by simp [System.perform])
        (by simp)⟩

theorem delivery_run (actions : List SystemAction) {start : System} (idle : start.reader = .idle)
    (parked : start.worker.job? = none) (unlogged : start.log = []) :
    DeliveryInvariant start actions (Machine.run System.perform actions start) := by
  induction actions using List.reverseRecOn with
  | nil =>
      refine ⟨?_, ?_, ?_⟩
      · simp [Machine.run, idle, DispatchPoint.Noticed]
      · cases worker : start.worker <;> simp [worker, WorkerPoint.job?] at parked <;>
          simp [Machine.run, worker, WorkerPoint.Transferring]
      · simp [Machine.run, unlogged]
  | append_singleton actions action ih => exact delivery_concat action ih

/-! ### Re-reads that end without a delivery -/

/-- The re-read has failed, has ended in another code, or is superseded. -/
def WorkerPoint.Failed (refetch : RefetchQueue) : WorkerPoint → Prop
  | .reading _ (.finished (.error _)) => True
  | .reading job (.finished (.ok result)) =>
      result.code ≠ some 0x45 ∨ superseded refetch job = true
  | _ => False

/-- Nothing is delivered for the re-read with this number. -/
def Undelivered (n : ℕ) (log : List Event) : Prop :=
  ∀ point effect job, .worker point effect ∈ log → point.job? = some job → job.seq = n →
    effect.delivered? = none

/-- A number that is neither queued nor in hand, and is not given out again. -/
structure Spent (n : ℕ) (state : System) : Prop where
  gone : RefetchQueue.Gone n state.session.refetch
  free : ∀ job, state.worker.job? = some job → job.seq ≠ n

/-- The number in hand is not queued, and a number that led to a delivery is spent. -/
structure NumberInvariant (state : System) : Prop where
  numbered : state.session.refetch.Numbered
  inHand : ∀ job, state.worker.job? = some job → RefetchQueue.Gone job.seq state.session.refetch
  delivered : ∀ n, Undelivered n state.log ∨ Spent n state

theorem failed_step {session : Session} {point : WorkerPoint} (now : ℚ) (delivered : Bool)
    (failed : point.Failed session.refetch) :
    workerStep session now delivered point = (session, .idle, []) := by
  cases point with
  | reading job getter =>
      cases getter with
      | finished result =>
          cases result with
          | error error => rfl
          | ok result =>
              simp only [workerStep]
              rcases failed with code | stale
              · exact if_pos code
              · by_cases content : result.code ≠ some 0x45
                · exact if_pos content
                · exact (if_neg content).trans (if_pos stale)
      | _ => exact failed.elim
  | _ => exact failed.elim

/-- A step of the worker delivers nothing, or it ends the re-read. -/
theorem works_quiet {session next : Session} {now : ℚ} {delivered : Bool}
    {point nextPoint : WorkerPoint} {effects : List Effect}
    (step : Works session now delivered point next nextPoint effects) :
    (∀ effect ∈ effects, effect.delivered? = none) ∨ nextPoint.job? = none := by
  cases step with
  | @reads job getter unfinished =>
      left
      intro effect effectMem
      rcases (getStep_onlySends _ session now delivered getter).sent effect effectMem with
        ⟨datagram, rfl⟩
      rfl
  | delivers => exact .inr rfl
  | _ => exact .inl (by simp)

theorem works_inHand {session next : Session} {now : ℚ} {delivered : Bool}
    {point nextPoint : WorkerPoint} {effects : List Effect}
    (step : Works session now delivered point next nextPoint effects)
    (numbered : session.refetch.Numbered)
    (inHand : ∀ job, point.job? = some job → RefetchQueue.Gone job.seq session.refetch) :
    ∀ job, nextPoint.job? = some job → RefetchQueue.Gone job.seq next.refetch := by
  cases step with
  | rests _ idleNext => simp [idleNext]
  | @takes job oldest =>
      intro other isTaken
      cases isTaken
      refine ⟨numbered.bounded _ _ _ oldest, ?_⟩
      intro key registration found
      simp only [OrderedDict.get?_erase] at found
      split_ifs at found with same
      exact same (numbered.distinct _ _ _ _ _ found oldest)
  | drops | delivers => simp [WorkerPoint.job?]
  | @reads job getter unfinished =>
      rw [(getStep_onlySends _ session now delivered getter).registry]
      exact inHand
  | _ => exact inHand

/-- Only the worker's steps for a number log deliveries for it. -/
theorem undelivered_perform {n : ℕ} {state : System} (action : SystemAction)
    (undelivered : Undelivered n state.log)
    (quiet : ∀ now delivered, action = .work now delivered → ∀ job,
      state.worker.job? = some job → job.seq = n →
        ∀ effect ∈ (workerStep state.session now delivered state.worker).2.2,
          effect.delivered? = none) : Undelivered n (state.perform action).log := by
  intro point effect job logged held same
  cases action with
  | receive datagram =>
      simp only [System.perform] at logged
      split_ifs at logged
      · simp only [List.mem_append, List.mem_map, reduceCtorEq, and_false, exists_false,
          or_false] at logged
        exact undelivered point effect job logged held same
      · exact undelivered point effect job logged held same
  | advance now =>
      simp only [System.perform, List.mem_append, List.mem_map, reduceCtorEq, and_false,
        exists_false, or_false] at logged
      rcases logged with earlier | live
      · exact undelivered point effect job earlier held same
      · cases reader : state.reader <;> simp [reader, liveEvents] at live
  | work now delivered =>
      simp only [System.perform, List.mem_append, List.mem_map] at logged
      rcases logged with earlier | ⟨caused, causedMem, isEvent⟩
      · exact undelivered point effect job earlier held same
      · cases isEvent
        exact quiet now delivered rfl job held same effect causedMem
  | others session => exact undelivered point effect job logged held same

theorem spent_perform {n : ℕ} {state : System} (action : SystemAction)
    (discards : OnlyDiscards state action) (spent : Spent n state) :
    Spent n (state.perform action) := by
  refine ⟨gone_perform action discards spent.gone, ?_⟩
  cases action with
  | receive datagram =>
      simp only [System.perform]
      split_ifs <;> exact spent.free
  | work now delivered =>
      intro job held same
      rcases (workerStep_works state.session now delivered state.worker).job held with
        before | ⟨_, queued⟩
      · exact spent.free job before same
      · rw [same] at queued
        exact spent.gone.absent job.key job.registration queued
  | _ => exact spent.free

theorem number_perform (state : System) (action : SystemAction) (invariant : NumberInvariant state)
    (discards : OnlyDiscards state action) : NumberInvariant (state.perform action) := by
  refine ⟨numbered_perform action discards invariant.numbered, ?_, ?_⟩
  · cases action with
    | work now delivered =>
        exact works_inHand (workerStep_works state.session now delivered state.worker)
          invariant.numbered invariant.inHand
    | receive datagram =>
        simp only [System.perform]
        split_ifs <;> exact invariant.inHand
    | advance now =>
        intro job held
        exact gone_perform (.advance now) trivial (invariant.inHand job held)
    | others session =>
        intro job held
        exact (invariant.inHand job held).discard discards
  · intro n
    rcases invariant.delivered n with undelivered | spent
    · by_cases ends : ∃ now delivered, action = .work now delivered ∧
          (workerStep state.session now delivered state.worker).2.1.job? = none ∧
          ∃ job, state.worker.job? = some job ∧ job.seq = n
      · rcases ends with ⟨now, delivered, rfl, ended, job, held, rfl⟩
        right
        refine ⟨gone_perform _ discards (invariant.inHand job held), ?_⟩
        intro other otherHeld
        simp only [System.perform, ended] at otherHeld
        cases otherHeld
      · left
        apply undelivered_perform action undelivered
        intro now delivered isWork job held same
        rcases works_quiet (workerStep_works state.session now delivered state.worker) with
          quiet | ended
        · exact quiet
        · exact absurd ⟨now, delivered, isWork, ended, job, held, same⟩ ends
    · exact .inr (spent_perform action discards spent)

/-- Once spent without a delivery, a number never leads to one. -/
theorem undelivered_run {n : ℕ} {state : System} {actions : List SystemAction}
    (discards : Machine.Meets System.perform OnlyDiscards actions state) (spent : Spent n state)
    (undelivered : Undelivered n state.log) :
    Undelivered n (Machine.run System.perform actions state).log := by
  have keeps (state : System) (action : SystemAction)
      (abandoned : Spent n state ∧ Undelivered n state.log) (discards : OnlyDiscards state action) :
      Spent n (state.perform action) ∧ Undelivered n (state.perform action).log := by
    refine ⟨spent_perform action discards abandoned.1, ?_⟩
    apply undelivered_perform action abandoned.2
    intro _ _ _ job held same
    exact absurd same (abandoned.1.free job held)
  exact (Machine.invariant_run keeps discards ⟨spent, undelivered⟩).2

/-- A re-read that the worker gives up is never delivered. -/
theorem failed_undelivered {state : System} {now : ℚ} {delivered : Bool} {job : RefetchJob}
    {actions : List SystemAction} (invariant : NumberInvariant state)
    (failed : state.worker.Failed state.session.refetch) (held : state.worker.job? = some job)
    (discards : Machine.Meets System.perform OnlyDiscards actions
      (state.perform (.work now delivered))) :
    Undelivered job.seq
      (Machine.run System.perform actions (state.perform (.work now delivered))).log := by
  have step := failed_step now delivered failed
  apply undelivered_run discards
  · refine ⟨gone_perform (.work now delivered) trivial (invariant.inHand job held), ?_⟩
    intro other otherHeld
    simp only [System.perform, step] at otherHeld
    cases otherHeld
  · rcases invariant.delivered job.seq with undelivered | spent
    · apply undelivered_perform _ undelivered
      intro now delivered _ _ _ _ effect effectMem
      simp [failed_step now delivered failed] at effectMem
    · exact absurd rfl (spent.free job held)

/--
What is delivered inline is the payload of a live 2.05 notification that is a
representation as a whole; what the worker delivers is the payload of a transfer that
finished with code 2.05, on the token and with the responses of the run; and a re-read
that has failed, ended in another code or is superseded delivers nothing, then or later.
-/
theorem only_complete_deliveries {start : System} (idle : start.reader = .idle)
    (parked : start.worker.job? = none) (unlogged : start.log = [])
    (numbered : start.session.refetch.Numbered) {actions : List SystemAction}
    (discards : Machine.Meets System.perform OnlyDiscards actions start) :
    (∀ event ∈ (Machine.run System.perform actions start).log, event.Complete start actions) ∧
    ∀ before now delivered after job, actions = before ++ .work now delivered :: after →
      (Machine.run System.perform before start).worker.Failed
        (Machine.run System.perform before start).session.refetch →
      (Machine.run System.perform before start).worker.job? = some job →
        Undelivered job.seq (Machine.run System.perform actions start).log := by
  refine ⟨(delivery_run actions idle parked unlogged).log, ?_⟩
  rintro before now delivered after job rfl failed held
  have initial : NumberInvariant start := by
    refine ⟨numbered, by simp [parked], fun n => .inl ?_⟩
    intro point effect job logged
    simp [unlogged] at logged
  rcases Machine.meets_append.mp discards with ⟨discardsBefore, discardsAfter⟩
  have reached := Machine.invariant_run number_perform discardsBefore initial
  rw [Machine.run_append]
  exact failed_undelivered reached failed held discardsAfter.2

/-- The session in which `/a` is observed on the token 7, before anything has arrived. -/
def notifiedSystem : System :=
  ⟨.observing ⟨true, false, false, false, true⟩ [7] "/a" [], .idle, .idle, []⟩

/-- The first block of a representation is notified, and the worker reads all of it. -/
def rereadRun : List SystemAction :=
  dispatchedTo [0x51, 0x45, 0, 1, 7, 0x61, 5, 0xD1, 4, 0x08, 0xFF, 1] 0 ++
    List.replicate 7 (.work 0 true) ++
    dispatchedTo [0x54, 0x45, 0, 2, 0, 0, 0, 1, 0xFF, 1, 2] 0 ++ List.replicate 6 (.work 0 true)

/-- The worker delivers what the single response of its GET carries. -/
theorem only_complete_deliveries_example :
    (Machine.run System.perform rereadRun notifiedSystem).log.filterMap Event.delivered? =
      [("/a", [1, 2])] ∧
    (rereadAfter notifiedSystem rereadRun).taken.map (·.payload) = [[1, 2]] ∧
    ∀ event ∈ (Machine.run System.perform rereadRun notifiedSystem).log,
      event.Complete notifiedSystem rereadRun := by
  refine ⟨by decide +kernel, by decide +kernel, (only_complete_deliveries ?_ ?_ ?_ ?_ ?_).1⟩
  · rfl
  · rfl
  · rfl
  · exact ⟨fun key n registration queued => (by cases queued), fun key other n registration
      otherRegistration queued => (by cases queued)⟩
  · apply Machine.meets_of_forall
    intro action actionMem state
    cases action with
    | others session => simp [rereadRun, dispatchedTo] at actionMem
    | _ => trivial

end SmartThingsLocal
