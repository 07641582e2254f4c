import SmartThingsLocal.Session.BlockwiseGet
import SmartThingsLocal.Session.Reader

/-!
# The re-read worker

`_refetch_loop` and `_refetch_one` as the worker thread runs them, one step for
each block under a lock, each step of the GET and each callback; everything one
step of the worker can do; and the session with its reader and its worker as one
machine. The log keeps each effect with the point its thread was at.
-/

namespace SmartThingsLocal

open Session

/-- A re-read that was taken from the queue. -/
structure RefetchJob where
  key : RefetchKey
  seq : ℕ
  registration : Bool
  deriving DecidableEq, Repr

/-- Where the worker is between two steps. -/
inductive WorkerPoint
  | idle
  | waiting
  | exited
  | picked (job : RefetchJob)
  | reading (job : RefetchJob) (getter : GetPoint)
  | current (job : RefetchJob) (payload : ByteString)
  | sequencing (job : RefetchJob) (payload : ByteString)
  | delivering (job : RefetchJob) (delivery : ObserveDelivery)
  deriving DecidableEq, Repr

namespace Session

/-- The arguments of the GET that reads a relation again. -/
def refetchArguments (key : RefetchKey) : GetArguments where
  pathSegs := (key.href.splitToList (· == '/')).filter (· ≠ "")
  query := key.query
  timeout := refetchTimeout
  extraOptions := []

/-- A newer notification has queued another re-read under the same key. -/
def superseded (refetch : RefetchQueue) (job : RefetchJob) : Bool :=
  ((refetch.pending.get? job.key).getD (0, false)).1 > job.seq

/-- One step of the worker at time `now`; `delivered` says whether the socket takes a send. -/
def workerStep (session : Session) (now : ℚ) (delivered : Bool) :
    WorkerPoint → Session × WorkerPoint × List Effect
  | .idle => (session, if session.liveness.refetchAlive then .waiting else .exited, [])
  | .waiting =>
      match session.refetch.pending.first with
      | none => (session, if session.liveness.refetchAlive then .waiting else .exited, [])
      | some (key, (seq, registration)) =>
          let refetch := { session.refetch with pending := session.refetch.pending.erase key }
          ({ session with refetch }, .picked ⟨key, seq, registration⟩, [])
  | .exited => (session, .exited, [])
  | .picked job =>
      if session.relations.relationActive job.key then
        (session, .reading job (.start false), [])
      else (session, .idle, [])
  | .reading _ (.finished (.error _)) => (session, .idle, [])
  | .reading job (.finished (.ok result)) =>
      if result.code ≠ some 0x45 then (session, .idle, [])
      else if superseded session.refetch job then (session, .idle, [])
      else (session, .current job result.payload, [])
  | .reading job getter =>
      let (next, nextGetter, effects) :=
        getStep (refetchArguments job.key) session now delivered getter
      (next, .reading job nextGetter, effects)
  | .current job payload =>
      if session.relations.relationActive job.key then (session, .sequencing job payload, [])
      else (session, .idle, [])
  | .sequencing job payload =>
      let sequence := session.relations.sequenceFor job.key.href job.key.query
      (session, .delivering job ⟨job.key.href, payload, job.key.query, job.registration, sequence,
        job.key.legacy⟩, [])
  | .delivering _ delivery => (session, .idle, deliver session.callbacks delivery)

end Session

/-- The re-read that the worker has in hand. -/
def WorkerPoint.job? : WorkerPoint → Option RefetchJob
  | .picked job | .reading job _ | .current job _ | .sequencing job _ | .delivering job _ =>
      some job
  | _ => none

/-- Everything one step of the worker can do. -/
inductive Works (session : Session) (now : ℚ) (delivered : Bool) :
    WorkerPoint → Session → WorkerPoint → List Effect → Prop
  | rests {point next : WorkerPoint} (idle : point.job? = none) (idleNext : next.job? = none) :
      Works session now delivered point session next []
  | takes {job : RefetchJob}
      (oldest : session.refetch.pending.get? job.key = some (job.seq, job.registration)) :
      Works session now delivered .waiting
        { session with refetch := { session.refetch with
          pending := session.refetch.pending.erase job.key } } (.picked job) []
  | drops {point : WorkerPoint} : Works session now delivered point session .idle []
  | starts {job : RefetchJob} (active : session.relations.relationActive job.key = true) :
      Works session now delivered (.picked job) session (.reading job (.start false)) []
  | reads {job : RefetchJob} {getter : GetPoint}
      (unfinished : ∀ result, getter ≠ .finished result) :
      Works session now delivered (.reading job getter)
        (getStep (refetchArguments job.key) session now delivered getter).1
        (.reading job (getStep (refetchArguments job.key) session now delivered getter).2.1)
        (getStep (refetchArguments job.key) session now delivered getter).2.2
  | completes {job : RefetchJob} {result : GetResult} (content : result.code = some 0x45)
      (newest : superseded session.refetch job = false) :
      Works session now delivered (.reading job (.finished (.ok result))) session
        (.current job result.payload) []
  | confirms {job : RefetchJob} {payload : ByteString}
      (active : session.relations.relationActive job.key = true) :
      Works session now delivered (.current job payload) session (.sequencing job payload) []
  | composes {job : RefetchJob} {payload : ByteString} :
      Works session now delivered (.sequencing job payload) session
        (.delivering job ⟨job.key.href, payload, job.key.query, job.registration,
          session.relations.sequenceFor job.key.href job.key.query, job.key.legacy⟩) []
  | delivers {job : RefetchJob} {delivery : ObserveDelivery} :
      Works session now delivered (.delivering job delivery) session .idle
        (deliver session.callbacks delivery)

/-- The step function does nothing else. -/
theorem workerStep_works (session : Session) (now : ℚ) (delivered : Bool) (point : WorkerPoint) :
    Works session now delivered point (workerStep session now delivered point).1
      (workerStep session now delivered point).2.1
      (workerStep session now delivered point).2.2 := by
  have parked (alive : Bool) : (if alive then WorkerPoint.waiting else .exited).job? = none := by
    cases alive <;> rfl
  cases point with
  | idle => exact .rests rfl (parked _)
  | waiting =>
      simp only [workerStep]
      split
      · exact .rests rfl (parked _)
      · rename_i key seq registration oldest
        exact @Works.takes session now delivered ⟨key, seq, registration⟩
          (OrderedDict.get?_of_first oldest)
  | exited => exact .rests rfl rfl
  | picked job =>
      simp only [workerStep]
      split
      · exact .starts ‹_›
      · exact .drops
  | reading job getter =>
      cases getter with
      | finished result =>
          cases result with
          | error error => exact .drops
          | ok result =>
              simp only [workerStep]
              split_ifs with failure stale
              · exact .drops
              · exact .drops
              · exact .completes (not_not.mp failure) (by simpa using stale)
      | _ => exact .reads (by simp)
  | current job payload =>
      simp only [workerStep]
      split
      · exact .confirms ‹_›
      · exact .drops
  | sequencing job payload => exact .composes
  | delivering job delivery => exact .delivers

/-- The worker keeps its job, gives it up, or takes another one from the queue. -/
theorem Works.job {session next : Session} {now : ℚ} {delivered : Bool}
    {point nextPoint : WorkerPoint} {effects : List Effect}
    (step : Works session now delivered point next nextPoint effects) {job : RefetchJob}
    (held : nextPoint.job? = some job) :
    point.job? = some job ∨ point.job? = none ∧
      session.refetch.pending.get? job.key = some (job.seq, job.registration) := by
  cases step with
  | rests _ idleNext =>
      rw [idleNext] at held
      cases held
  | takes oldest =>
      cases held
      exact .inr ⟨rfl, oldest⟩
  | drops | delivers => cases held
  | _ => exact .inl held

theorem Works.relations {session next : Session} {now : ℚ} {delivered : Bool}
    {point nextPoint : WorkerPoint} {effects : List Effect}
    (step : Works session now delivered point next nextPoint effects) :
    next.relations = session.relations := by
  cases step with
  | reads _ => rw [(getStep_onlySends _ session now delivered _).registry]
  | _ => rfl

/-! ### The queue -/

namespace RefetchQueue

/-- Entries are removed, and no number is given out. -/
structure Discards (before after : RefetchQueue) : Prop where
  seq : after.seq = before.seq
  entries : ∀ key entry, after.pending.get? key = some entry →
    before.pending.get? key = some entry

/-- Every entry has a number of its own that has been given out. -/
structure Numbered (queue : RefetchQueue) : Prop where
  bounded : ∀ key n registration, queue.pending.get? key = some (n, registration) → n ≤ queue.seq
  distinct : ∀ key other n registration otherRegistration,
    queue.pending.get? key = some (n, registration) →
      queue.pending.get? other = some (n, otherRegistration) → key = other

/-- A number that has been given out and is not queued any more. -/
structure Gone (n : ℕ) (queue : RefetchQueue) : Prop where
  bounded : n ≤ queue.seq
  absent : ∀ key registration, queue.pending.get? key ≠ some (n, registration)

variable {queue after : RefetchQueue} {key : RefetchKey} {n : ℕ} {registration : Bool}

theorem Discards.refl (queue : RefetchQueue) : queue.Discards queue := ⟨rfl, fun _ _ => id⟩

theorem Discards.erase (queue : RefetchQueue) (key : RefetchKey) :
    queue.Discards { queue with pending := queue.pending.erase key } := by
  refine ⟨rfl, ?_⟩
  intro other entry found
  simp only [OrderedDict.get?_erase] at found
  split_ifs at found
  exact found

theorem Numbered.discard (numbered : queue.Numbered) (discards : queue.Discards after) :
    after.Numbered := by
  refine ⟨?_, ?_⟩
  · intro key n registration found
    rw [discards.seq]
    exact numbered.bounded key n registration (discards.entries key _ found)
  · intro key other n registration otherRegistration found foundOther
    exact numbered.distinct key other n registration otherRegistration
      (discards.entries key _ found) (discards.entries other _ foundOther)

theorem Gone.discard (gone : Gone n queue) (discards : queue.Discards after) : Gone n after := by
  refine ⟨by rw [discards.seq]; exact gone.bounded, ?_⟩
  intro key registration found
  exact gone.absent key registration (discards.entries key _ found)

/-- A full queue takes no new key; otherwise the key gets the next number. -/
theorem queue_cases (queue : RefetchQueue) (key : RefetchKey) (registration : Bool) :
    (queue.pending.contains key = false ∧ maxPendingRefetch ≤ queue.pending.size ∧
      queueRefetch queue key registration = (queue, [])) ∨
    queueRefetch queue key registration =
      ({ pending := queue.pending.set key (queue.seq + 1, registration), seq := queue.seq + 1 },
        [.queued key (queue.seq + 1) registration]) := by
  unfold queueRefetch
  split_ifs with full
  · exact .inl ⟨full.1, full.2, rfl⟩
  · exact .inr rfl

theorem Numbered.enqueue (numbered : queue.Numbered) (key : RefetchKey) (registration : Bool) :
    (queueRefetch queue key registration).1.Numbered := by
  rcases queue_cases queue key registration with ⟨_, _, full⟩ | queued
  · rw [full]
    exact numbered
  · rw [queued]
    refine ⟨?_, ?_⟩
    · intro other n otherRegistration found
      simp only [OrderedDict.get?_set] at found ⊢
      split_ifs at found
      · cases found
        exact le_rfl
      · exact (numbered.bounded other n _ found).trans (Nat.le_succ _)
    · intro first second n firstRegistration secondRegistration foundFirst foundSecond
      simp only [OrderedDict.get?_set] at foundFirst foundSecond
      split_ifs at foundFirst foundSecond with isFirst isSecond isSecond
      · exact isFirst.trans isSecond.symm
      · cases foundFirst
        have := numbered.bounded second _ _ foundSecond
        omega
      · cases foundSecond
        have := numbered.bounded first _ _ foundFirst
        omega
      · exact numbered.distinct first second n _ _ foundFirst foundSecond

theorem Gone.enqueue (gone : Gone n queue) (key : RefetchKey) (registration : Bool) :
    Gone n (queueRefetch queue key registration).1 := by
  rcases queue_cases queue key registration with ⟨_, _, full⟩ | queued
  · rw [full]
    exact gone
  · rw [queued]
    refine ⟨gone.bounded.trans (Nat.le_succ _), ?_⟩
    intro other otherRegistration found
    simp only [OrderedDict.get?_set] at found
    split_ifs at found
    · cases found
      have := gone.bounded
      omega
    · exact gone.absent other otherRegistration found

end RefetchQueue

/-! ### The session as a machine -/

/-- What has happened: a notification met its relation, or a thread caused an effect. -/
inductive Event
  | live (message : CoapMessage) (href : String)
  | reader (point : DispatchPoint) (effect : Effect)
  | worker (point : WorkerPoint) (effect : Effect)
  deriving DecidableEq, Repr

/-- The path and the payload that an event hands to a notification callback. -/
def Event.delivered? : Event → Option (String × ByteString)
  | .live _ _ => none
  | .reader _ effect | .worker _ effect => effect.delivered?

/-- The relation that the token of a message is registered for. -/
def liveEvents (session : Session) : DispatchPoint → List Event
  | .identify message => (session.relations.tokens.get? message.token).toList.map (.live message)
  | _ => []

/-- The session with its reader and its worker, and what has happened so far. -/
structure System where
  session : Session
  reader : DispatchPoint
  worker : WorkerPoint
  log : List Event

/-- A datagram arrives, the reader or the worker moves on, or another thread changes the session. -/
inductive SystemAction
  | receive (datagram : ByteString)
  | advance (now : ℚ)
  | work (now : ℚ) (delivered : Bool)
  | others (session : Session)

def System.perform (action : SystemAction) (state : System) : System :=
  match action with
  | .receive datagram =>
      if state.reader = .idle then
        let (reader, effects) := receive state.session datagram
        { state with reader, log := state.log ++ effects.map (.reader .idle) }
      else state
  | .advance now =>
      let (session, reader, effects) := dispatchStep state.session now state.reader
      { state with
        session, reader
        log := state.log ++ liveEvents state.session state.reader ++
          effects.map (.reader state.reader) }
  | .work now delivered =>
      let (session, worker, effects) := workerStep state.session now delivered state.worker
      { state with session, worker, log := state.log ++ effects.map (.worker state.worker) }
  | .others session => { state with session }

/-- A datagram that is taken and dispatched to the end at one time. -/
def dispatchedTo (datagram : ByteString) (now : ℚ) : List SystemAction :=
  .receive datagram :: List.replicate 5 (.advance now)

/-- Other threads only remove queued re-reads. -/
def OnlyDiscards (state : System) : SystemAction → Prop
  | .others session => state.session.refetch.Discards session.refetch
  | _ => True

/-- An action removes queued re-reads, or queues one. -/
theorem perform_refetch (state : System) (action : SystemAction)
    (discards : OnlyDiscards state action) :
    state.session.refetch.Discards (state.perform action).session.refetch ∨
      ∃ key registration, (state.perform action).session.refetch =
        (queueRefetch state.session.refetch key registration).1 := by
  have same : state.session.refetch.Discards state.session.refetch := .refl _
  cases action with
  | receive datagram =>
      simp only [System.perform]
      split_ifs <;> exact .inl same
  | advance now =>
      have step := dispatchStep_advances state.session now state.reader
      simp only [System.perform]
      generalize dispatchStep state.session now state.reader = result at step ⊢
      rcases result with ⟨next, nextPoint, effects⟩
      generalize state.reader = point at step
      cases step with
      | queued => exact .inr ⟨_, _, rfl⟩
      | _ => exact .inl same
  | work now delivered =>
      have step := workerStep_works state.session now delivered state.worker
      simp only [System.perform]
      generalize workerStep state.session now delivered state.worker = result at step ⊢
      rcases result with ⟨next, nextPoint, effects⟩
      generalize state.worker = point at step
      cases step with
      | takes _ => exact .inl (.erase _ _)
      | reads _ =>
          rw [(getStep_onlySends _ state.session now delivered _).registry]
          exact .inl same
      | _ => exact .inl same
  | others session => exact .inl discards

theorem perform_seq_le (state : System) (action : SystemAction)
    (discards : OnlyDiscards state action) :
    state.session.refetch.seq ≤ (state.perform action).session.refetch.seq := by
  rcases perform_refetch state action discards with removed | ⟨key, registration, queued⟩
  · exact removed.seq.ge
  · rw [queued]
    rcases RefetchQueue.queue_cases state.session.refetch key registration with ⟨_, _, full⟩ | added
    · rw [full]
    · rw [added]
      exact Nat.le_succ _

theorem numbered_perform {state : System} (action : SystemAction)
    (discards : OnlyDiscards state action) (numbered : state.session.refetch.Numbered) :
    (state.perform action).session.refetch.Numbered := by
  rcases perform_refetch state action discards with removed | ⟨key, registration, queued⟩
  · exact numbered.discard removed
  · rw [queued]
    exact numbered.enqueue key registration

theorem gone_perform {state : System} {n : ℕ} (action : SystemAction)
    (discards : OnlyDiscards state action) (gone : RefetchQueue.Gone n state.session.refetch) :
    RefetchQueue.Gone n (state.perform action).session.refetch := by
  rcases perform_refetch state action discards with removed | ⟨key, registration, queued⟩
  · exact gone.discard removed
  · rw [queued]
    exact gone.enqueue key registration

end SmartThingsLocal
