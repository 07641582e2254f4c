import SmartThingsLocal.Foundation.Logs
import SmartThingsLocal.Session.RefetchWorker

/-!
# Re-reads that roll an observation back

A re-read should not be delivered once a newer notification of its relation has been
accepted. The worker only compares numbers in its queue, so this holds as long as
every notification accepted while a wanted re-read of the relation is outstanding
queues that re-read again before the worker's last look at the queue.
-/

namespace SmartThingsLocal

open Session ObserveRelations

/-- A relation: the path and the query it is registered with. -/
def RefetchKey.relation (key : RefetchKey) : String × Query := (key.href, key.query)

/-- The recording of a notification of the relation. -/
def Event.accepts (relation : String × Query) : Event → Bool
  | .reader (.order _ href query) (.accepted _ _ _) => (href, query) = relation
  | _ => false

/-- The queueing of the re-read with this number. -/
def Event.queues (n : ℕ) : Event → Bool
  | .reader _ (.queued _ m _) => m = n
  | _ => false

/-- The number of the re-read of the relation that the worker delivers. -/
def Event.rereads? (relation : String × Query) : Event → Option ℕ
  | .worker (.delivering job _) _ => if job.key.relation = relation then some job.seq else none
  | _ => none

/-- A notification of the relation was accepted after the re-read with this number was queued. -/
def newerAccepted (relation : String × Query) (n : ℕ) (log : List Event) : Bool :=
  (log.dropWhile fun event => !event.queues n).any (Event.accepts relation)

/-- No re-read of the relation is delivered after a newer notification was accepted. -/
def NeverRolledBack (relation : String × Query) (log : List Event) : Prop :=
  ∀ before event n, before ++ [event] <+: log → event.rereads? relation = some n →
    newerAccepted relation n before = false

/-! ### When the worker's check is enough -/

/-- The key that the reader is about to queue a re-read under. -/
def DispatchPoint.queues? : DispatchPoint → Option RefetchKey
  | .probation _ href query true => some ⟨href, query, false⟩
  | .settled delivery true => some ⟨delivery.href, delivery.query, delivery.legacy⟩
  | _ => none

/-- The re-read in hand before the worker has looked at the queue again. -/
def WorkerPoint.unchecked? : WorkerPoint → Option RefetchJob
  | .picked job | .reading job _ => some job
  | _ => none

theorem WorkerPoint.job_of_unchecked {point : WorkerPoint} {job : RefetchJob}
    (held : point.unchecked? = some job) : point.job? = some job := by
  cases point <;> first | exact held | cases held

/-- The re-read that the worker is about to find not superseded. -/
def WorkerPoint.passing? (refetch : RefetchQueue) : WorkerPoint → Option RefetchJob
  | .reading job (.finished (.ok result)) =>
      if result.code = some 0x45 ∧ superseded refetch job = false then some job else none
  | _ => none

theorem WorkerPoint.unchecked_of_passing {refetch : RefetchQueue} {point : WorkerPoint}
    {job : RefetchJob} (passing : job ∈ point.passing? refetch) : point.unchecked? = some job := by
  unfold passing? at passing
  split at passing
  · split_ifs at passing
    · exact passing
    · cases passing
  · cases passing

/-- A checked re-read of the relation that will be delivered with these indices. -/
def WorkerPoint.committed (relation : String × Query) (relations : ObserveRelations) :
    WorkerPoint → Bool
  | .current job _ => job.key.relation = relation ∧ relations.relationActive job.key
  | .sequencing job _ | .delivering job _ => job.key.relation = relation
  | _ => false

/-- The keys of the relation that have a re-read queued or in hand and are active. -/
def System.wanted (state : System) (relation : String × Query) (relations : ObserveRelations) :
    List RefetchKey :=
  (state.session.refetch.pending.keys ++ (state.worker.unchecked?.map RefetchJob.key).toList).filter
    fun key => key.relation = relation ∧ relations.relationActive key

/-- How a 2.05 notification is recorded: as a legacy one or not, and the indices afterwards. -/
def recorded (relations : ObserveRelations) (message : CoapMessage) (now : ℚ) :
    Option (Bool × ObserveRelations) :=
  match observeValue message.options with
  | .malformed => none
  | .sequence value =>
      match relations.acceptSequence message.token value now with
      | (none, _) => none
      | (some _, after) => some (false, after)
  | .absent =>
      match relations.acceptPlain message.token message.mid with
      | (.ignored, _) => none
      | (.legacy, after) => some (true, after)
      | (.probation, after) => some (false, after)

/-- Recording the notification leaves no wanted re-read that it does not queue again. -/
def RecordsInOrder (relation : String × Query) (state : System) (message : CoapMessage)
    (now : ℚ) : Prop :=
  ∀ outcome ∈ recorded state.session.relations message now,
    state.worker.committed relation outcome.2 = false ∧
      ∀ key ∈ state.wanted relation outcome.2,
        blockwiseRefetch message.options = some true ∧ key.legacy = outcome.1

/-- The condition on a step of the reader. -/
def ReaderInOrder (relation : String × Query) (state : System) (now : ℚ) : DispatchPoint → Prop
  | .order message href query =>
      (href, query) = relation → message.code = 0x45 → blockwiseRefetch message.options ≠ none →
        RecordsInOrder relation state message now
  | .probation message href query true =>
      state.session.relations.onProbation message.token href query message.mid = false →
        ⟨href, query, false⟩ ∉ state.wanted relation state.session.relations
  | .settled delivery true =>
      state.session.refetch.pending.contains ⟨delivery.href, delivery.query, delivery.legacy⟩ =
          false →
        maxPendingRefetch ≤ state.session.refetch.pending.size →
          ⟨delivery.href, delivery.query, delivery.legacy⟩ ∉
            state.wanted relation state.session.relations
  | _ => True

/--
While a wanted re-read of the relation is outstanding, only notifications that queue it
again are accepted and they find room in the queue; none is accepted once the worker
has looked at the queue, and the worker does not look at it between the acceptance of
a notification and its queueing.
-/
def InOrder (relation : String × Query) (state : System) : SystemAction → Prop
  | .advance now => ReaderInOrder relation state now state.reader
  | .work _ _ => ∀ job ∈ state.worker.passing? state.session.refetch,
      state.reader.queues? = some job.key → job.key ∉ state.wanted relation state.session.relations
  | _ => True

/--
Other threads make no relation active, register nothing under the token of the message
in hand, and only remove queued re-reads that are not wanted any more.
-/
structure Undisturbed (relation : String × Query) (state : System) (session : Session) : Prop where
  discards : state.session.refetch.Discards session.refetch
  inactive : ∀ key entry, key.relation = relation →
    state.session.refetch.pending.get? key = some entry →
      session.refetch.pending.get? key = none → session.relations.relationActive key = false
  active : ∀ key, key.relation = relation → session.relations.relationActive key = true →
    state.session.relations.relationActive key = true
  registered : ∀ message href, state.reader.message? = some message →
    session.relations.tokens.get? message.token = some href →
      state.session.relations.tokens.get? message.token = some href ∧
        session.relations.query message.token = state.session.relations.query message.token

def OthersUndisturbing (relation : String × Query) (state : System) : SystemAction → Prop
  | .others session => Undisturbed relation state session
  | _ => True

instance (relation : String × Query) (state : System) (message : CoapMessage) (now : ℚ) :
    Decidable (RecordsInOrder relation state message now) :=
  inferInstanceAs (Decidable (∀ outcome ∈ recorded state.session.relations message now, _))

instance (relation : String × Query) (state : System) (now : ℚ) :
    ∀ point, Decidable (ReaderInOrder relation state now point)
  | .order _ _ _ => inferInstanceAs (Decidable (_ → _ → _ → _))
  | .probation _ _ _ true => inferInstanceAs (Decidable (_ → _))
  | .settled _ true => inferInstanceAs (Decidable (_ → _ → _))
  | .probation _ _ _ false | .settled _ false | .idle | .acknowledge _ | .reset _ | .resolve _
  | .wake _ | .identify _ => inferInstanceAs (Decidable True)

instance (relation : String × Query) (state : System) :
    ∀ action, Decidable (InOrder relation state action)
  | .advance now => inferInstanceAs (Decidable (ReaderInOrder relation state now state.reader))
  | .work _ _ =>
      inferInstanceAs (Decidable (∀ job ∈ state.worker.passing? state.session.refetch, _))
  | .receive _ | .others _ => inferInstanceAs (Decidable True)

/-! ### The log -/

variable {relation : String × Query} {n : ℕ} {log : List Event}

/-- Events that accept nothing on the relation make no re-read stale. -/
theorem newerAccepted_append {events : List Event} (fresh : newerAccepted relation n log = false)
    (quiet : ∀ event ∈ events, event.accepts relation = false) :
    newerAccepted relation n (log ++ events) = false := by
  unfold newerAccepted at fresh ⊢
  rw [List.dropWhile_append]
  split_ifs
  · rw [List.any_eq_false]
    intro event eventMem
    simpa using quiet event ((List.dropWhile_sublist _).mem eventMem)
  · rw [List.any_append, fresh, Bool.false_or, List.any_eq_false]
    intro event eventMem
    simpa using quiet event eventMem

/-- Nothing is accepted after a re-read that has just been queued. -/
theorem newerAccepted_queued {event : Event} (unused : ∀ event ∈ log, event.queues n = false)
    (quiet : event.accepts relation = false) :
    newerAccepted relation n (log ++ [event]) = false := by
  have skipped : ∀ event ∈ log, (!event.queues n) = true := by
    intro event eventMem
    simp [unused event eventMem]
  unfold newerAccepted
  rw [List.dropWhile_append_of_pos skipped, List.any_eq_false]
  intro other otherMem
  rw [List.mem_singleton.mp ((List.dropWhile_sublist _).mem otherMem)]
  simpa using quiet

theorem NeverRolledBack.append {events : List Event} (never : NeverRolledBack relation log)
    (quiet : ∀ event ∈ events, event.rereads? relation = none) :
    NeverRolledBack relation (log ++ events) := by
  induction events generalizing log with
  | nil =>
      rw [List.append_nil]
      exact never
  | cons event events ih =>
      rcases List.forall_mem_cons.mp quiet with ⟨quietEvent, quietRest⟩
      have extended : NeverRolledBack relation (log ++ [event]) := by
        intro before other n isPrefix rereads
        rcases List.concat_prefix_concat isPrefix with ⟨-, rfl⟩ | earlier
        · rw [quietEvent] at rereads
          cases rereads
        · exact never before other n earlier rereads
      have whole := ih extended quietRest
      rwa [List.append_assoc] at whole

/-- A delivery of a re-read that is not stale. -/
theorem NeverRolledBack.deliver {event : Event} (never : NeverRolledBack relation log)
    (fresh : event.rereads? relation = some n → newerAccepted relation n log = false)
    (number : ∀ m, event.rereads? relation = some m → m = n) :
    NeverRolledBack relation (log ++ [event]) := by
  intro before other m isPrefix rereads
  rcases List.concat_prefix_concat isPrefix with ⟨rfl, rfl⟩ | earlier
  · cases number m rereads
    exact fresh rereads
  · exact never before other m earlier rereads

/-! ### The invariant -/

/-- What keeps an unchecked re-read from being delivered too late. -/
def Guarded (relation : String × Query) (refetch : RefetchQueue) (queueing : Option RefetchKey)
    (log : List Event) (key : RefetchKey) (n : ℕ) : Prop :=
  newerAccepted relation n log = false ∨ queueing = some key ∨
    ∃ m registration, refetch.pending.get? key = some (m, registration) ∧ n < m

/-- The queued re-reads and the one in hand, as far as they are active. -/
structure Outstanding (relation : String × Query) (active : RefetchKey → Prop)
    (refetch : RefetchQueue) (worker : WorkerPoint) (queueing : Option RefetchKey)
    (log : List Event) : Prop where
  queued : ∀ key n registration, key.relation = relation →
    refetch.pending.get? key = some (n, registration) → active key →
      newerAccepted relation n log = false ∨ queueing = some key
  unchecked : ∀ job, worker.unchecked? = some job → job.key.relation = relation →
    active job.key → Guarded relation refetch queueing log job.key job.seq
  current : ∀ job payload, worker = .current job payload → job.key.relation = relation →
    active job.key → newerAccepted relation job.seq log = false
  certain : ∀ job, ((∃ payload, worker = .sequencing job payload) ∨
      ∃ delivery, worker = .delivering job delivery) → job.key.relation = relation →
    newerAccepted relation job.seq log = false

/-- The token of the notification in hand is registered for no other relation. -/
def DispatchPoint.Registered (relations : ObserveRelations) : DispatchPoint → Prop
  | .order message href query | .probation message href query _ =>
      ∀ registered, relations.tokens.get? message.token = some registered →
        registered = href ∧ relations.query message.token = query
  | _ => True

/-- Nothing is registered under the token in hand by other threads. -/
theorem DispatchPoint.Registered.keep {point : DispatchPoint} {before after : ObserveRelations}
    (registered : point.Registered before)
    (kept : ∀ message href, point.message? = some message →
      after.tokens.get? message.token = some href →
        before.tokens.get? message.token = some href ∧
          after.query message.token = before.query message.token) : point.Registered after := by
  cases point with
  | order message _ _ | probation message _ _ _ =>
      intro found isFound
      rcases kept message found rfl isFound with ⟨earlier, sameQuery⟩
      rw [sameQuery]
      exact registered found earlier
  | _ => trivial

structure RollbackInvariant (relation : String × Query) (state : System) : Prop where
  numbered : state.session.refetch.Numbered
  logged : ∀ event ∈ state.log, ∀ n, event.queues n = true → n ≤ state.session.refetch.seq
  inHand : ∀ job, state.worker.job? = some job → job.seq ≤ state.session.refetch.seq
  registered : state.reader.Registered state.session.relations
  outstanding : Outstanding relation
    (fun key => state.session.relations.relationActive key = true)
    state.session.refetch state.worker state.reader.queues? state.log
  never : NeverRolledBack relation state.log

variable {active after : RefetchKey → Prop} {refetch : RefetchQueue} {worker : WorkerPoint}
  {queueing next : Option RefetchKey}

/-- Fewer active keys, and the reader goes on queueing what is wanted. -/
theorem Outstanding.extend {events : List Event}
    (outstanding : Outstanding relation active refetch worker queueing log)
    (fewer : ∀ key, key.relation = relation → after key → active key)
    (kept : ∀ key, key.relation = relation → after key → queueing = some key →
      (∃ entry, refetch.pending.get? key = some entry) ∨
        (∃ job, worker.unchecked? = some job ∧ job.key = key) → next = some key)
    (quiet : ∀ event ∈ events, event.accepts relation = false) :
    Outstanding relation after refetch worker next (log ++ events) := by
  refine ⟨?_, ?_, ?_, ?_⟩
  · intro key n registration same found isActive
    rcases outstanding.queued key n registration same found (fewer key same isActive) with
      fresh | queueing
    · exact .inl (newerAccepted_append fresh quiet)
    · exact .inr (kept key same isActive queueing (.inl ⟨_, found⟩))
  · intro job held same isActive
    rcases outstanding.unchecked job held same (fewer job.key same isActive) with
      fresh | queueing | superseding
    · exact .inl (newerAccepted_append fresh quiet)
    · exact .inr (.inl (kept job.key same isActive queueing (.inr ⟨job, held, rfl⟩)))
    · exact .inr (.inr superseding)
  · intro job payload held same isActive
    exact newerAccepted_append
      (outstanding.current job payload held same (fewer job.key same isActive)) quiet
  · intro job held same
    exact newerAccepted_append (outstanding.certain job held same) quiet

theorem mem_wanted {state : System} {relations : ObserveRelations} {key : RefetchKey} :
    key ∈ state.wanted relation relations ↔
      ((∃ entry, state.session.refetch.pending.get? key = some entry) ∨
        ∃ job, state.worker.unchecked? = some job ∧ job.key = key) ∧
      key.relation = relation ∧ relations.relationActive key = true := by
  simp only [System.wanted, List.mem_filter, List.mem_append, OrderedDict.mem_keys_iff,
    Option.mem_toList, Option.map_eq_some_iff, Bool.decide_and, Bool.and_eq_true, decide_eq_true_eq,
    Bool.decide_eq_true]

/-- A step of the worker to a point that holds no re-read, or one about which the same is known. -/
theorem Outstanding.carry {nextWorker : WorkerPoint}
    (outstanding : Outstanding relation active refetch worker queueing log)
    (rest : RefetchQueue)
    (queued : ∀ key entry, rest.pending.get? key = some entry →
      refetch.pending.get? key = some entry)
    (unchecked : ∀ job, nextWorker.unchecked? = some job → job.key.relation = relation →
      active job.key → Guarded relation rest queueing log job.key job.seq)
    (current : ∀ job payload, nextWorker = .current job payload → job.key.relation = relation →
      active job.key → newerAccepted relation job.seq log = false)
    (certain : ∀ job, ((∃ payload, nextWorker = .sequencing job payload) ∨
        ∃ delivery, nextWorker = .delivering job delivery) → job.key.relation = relation →
      newerAccepted relation job.seq log = false) :
    Outstanding relation active rest nextWorker queueing log where
  queued key n registration same found := outstanding.queued key n registration same
    (queued key _ found)
  unchecked := unchecked
  current := current
  certain := certain

/-- A notification is accepted, and the reader goes on to queue what it leaves wanted. -/
theorem Outstanding.accept {state : System} {relations : ObserveRelations}
    (committed : state.worker.committed relation relations = false)
    (requeued : ∀ key ∈ state.wanted relation relations, next = some key) (log : List Event) :
    Outstanding relation (fun key => relations.relationActive key = true)
      state.session.refetch state.worker next log := by
  refine ⟨?_, ?_, ?_, ?_⟩
  · intro key n registration same found isActive
    exact .inr (requeued key (mem_wanted.mpr ⟨.inl ⟨_, found⟩, same, isActive⟩))
  · intro job held same isActive
    exact .inr (.inl (requeued job.key (mem_wanted.mpr ⟨.inr ⟨job, held, rfl⟩, same, isActive⟩)))
  · intro job payload held same isActive
    simp [held, WorkerPoint.committed, same, isActive] at committed
  · rintro job (⟨payload, held⟩ | ⟨delivery, held⟩) same <;>
      simp [held, WorkerPoint.committed, same] at committed

/-- The re-read of a key gets a new number. -/
theorem Outstanding.enqueue {state : System} {key : RefetchKey} {registration : Bool}
    {event : Event}
    (logged : ∀ event ∈ state.log, ∀ n, event.queues n = true → n ≤ state.session.refetch.seq)
    (inHand : ∀ job, state.worker.job? = some job → job.seq ≤ state.session.refetch.seq)
    (outstanding : Outstanding relation active state.session.refetch state.worker (some key)
      state.log) (quiet : event.accepts relation = false) :
    Outstanding relation active
      { pending :=
          state.session.refetch.pending.set key (state.session.refetch.seq + 1, registration)
        seq := state.session.refetch.seq + 1 } state.worker none (state.log ++ [event]) := by
  have still {n : ℕ} (fresh : newerAccepted relation n state.log = false) :
      newerAccepted relation n (state.log ++ [event]) = false :=
    newerAccepted_append fresh (by simpa using quiet)
  refine ⟨?_, ?_, ?_, ?_⟩
  · intro other n otherRegistration same found isActive
    simp only [OrderedDict.get?_set] at found
    left
    split_ifs at found with isKey
    · cases found
      apply newerAccepted_queued _ quiet
      intro earlier earlierMem
      by_contra queues
      have := logged earlier earlierMem _ (by simpa using queues)
      omega
    · rcases outstanding.queued other n otherRegistration same found isActive with fresh | queueing
      · exact still fresh
      · cases queueing
        exact absurd rfl isKey
  · intro job held same isActive
    by_cases isKey : job.key = key
    · refine .inr (.inr ⟨state.session.refetch.seq + 1, registration, by simp [isKey], ?_⟩)
      exact Nat.lt_succ_of_le (inHand job (WorkerPoint.job_of_unchecked held))
    · rcases outstanding.unchecked job held same isActive with
        fresh | queueing | ⟨m, other, found, newer⟩
      · exact .inl (still fresh)
      · cases queueing
        exact absurd rfl isKey
      · exact .inr (.inr ⟨m, other, by simp [isKey, found], newer⟩)
  · intro job payload held same isActive
    exact still (outstanding.current job payload held same isActive)
  · intro job held same
    exact still (outstanding.certain job held same)

/-! ### Steps of the reader -/

variable {session : Session} {point nextPoint : DispatchPoint} {effects : List Effect}
  {now : ℚ}

/-- An event that changes nothing about the re-reads of the relation. -/
structure Event.Quiet (relation : String × Query) (event : Event) : Prop where
  accepts : event.accepts relation = false
  rereads : event.rereads? relation = none
  queues : ∀ n, event.queues n = false

theorem liveEvents_quiet (relation : String × Query) (session : Session) (point : DispatchPoint) :
    ∀ event ∈ liveEvents session point, event.Quiet relation := by
  intro event eventMem
  cases point with
  | identify message =>
      simp only [liveEvents, List.mem_map] at eventMem
      rcases eventMem with ⟨href, _, rfl⟩
      exact ⟨rfl, rfl, fun _ => rfl⟩
  | _ => cases eventMem

theorem RollbackInvariant.note {state : System} {events : List Event}
    (invariant : RollbackInvariant relation state)
    (quiet : ∀ event ∈ events, event.Quiet relation) :
    RollbackInvariant relation { state with log := state.log ++ events } where
  numbered := invariant.numbered
  logged := by
    intro event eventMem n queues
    rcases List.mem_append.mp eventMem with earlier | new
    · exact invariant.logged event earlier n queues
    · rw [(quiet event new).queues n] at queues
      cases queues
  inHand := invariant.inHand
  registered := invariant.registered
  outstanding := invariant.outstanding.extend (fun _ _ => id) (fun _ _ _ isQueueing _ => isQueueing)
    fun event eventMem => (quiet event eventMem).accepts
  never := invariant.never.append fun event eventMem => (quiet event eventMem).rereads

theorem advances_registered {next : Session} (registered : point.Registered session.relations)
    (step : Advances session now point next nextPoint effects) :
    nextPoint.Registered next.relations := by
  cases step with
  | registry registry before after carried => cases nextPoint <;> trivial
  | @identified message href live =>
      intro found isFound
      rw [live] at isFound
      cases isFound
      exact ⟨rfl, rfl⟩
  | onProbation success blocks observed taken =>
      have touches := acceptPlain_touchesOnly taken
      intro found isFound
      rw [touches.tokens] at isFound
      have query := registered found isFound
      rwa [ObserveRelations.query, ← touches.queries] at query
  | _ => trivial

theorem advances_logged {next : Session} (step : Advances session now point next nextPoint effects)
    {effect : Effect} (effectMem : effect ∈ effects) {n : ℕ}
    (queues : (Event.reader point effect).queues n = true) : n ≤ next.refetch.seq := by
  cases step with
  | @queued delivery =>
      rcases RefetchQueue.queue_cases session.refetch
        ⟨delivery.href, delivery.query, delivery.legacy⟩ delivery.registration with
        ⟨_, _, full⟩ | queued
      · simp [full] at effectMem
      · simp only [queued, List.mem_singleton] at effectMem ⊢
        subst effectMem
        simp only [Event.queues, decide_eq_true_eq] at queues
        exact queues.ge
  | @delivered delivery =>
      unfold deliver at effectMem
      split_ifs at effectMem <;> simp at effectMem <;> subst effectMem <;> cases queues
  | sequenced | promoted | onProbation =>
      rw [List.mem_singleton.mp effectMem] at queues
      cases queues
  | retired | confirmed | lapsed =>
      split_ifs at effectMem <;> simp at effectMem
      subst effectMem
      cases queues
  | _ => cases effectMem

/-- Recording a notification of another relation makes no key of the relation active. -/
theorem foreign_active {message : CoapMessage} {href : String} {query : Query}
    {relations : ObserveRelations} {key : RefetchKey}
    (registered : (DispatchPoint.order message href query).Registered session.relations)
    (touches : TouchesOnly message.token session.relations relations)
    (foreign : (href, query) ≠ relation) (same : key.relation = relation)
    (isActive : relations.relationActive key = true) :
    session.relations.relationActive key = true := by
  apply touches.relationActive _ isActive
  intro isRegistered isQuery
  rcases registered key.href isRegistered with ⟨rfl, rfl⟩
  apply foreign
  rw [← same, isQuery]
  rfl

/-- An accepted notification, of this relation or of another one. -/
theorem accepted_outstanding {worker : WorkerPoint} {log events : List Event}
    {message : CoapMessage} {href : String} {query : Query} {legacy blockwise : Bool}
    {relations : ObserveRelations}
    (registered : (DispatchPoint.order message href query).Registered session.relations)
    (outstanding : Outstanding relation
      (fun key => session.relations.relationActive key = true) session.refetch worker none log)
    (inOrder : ReaderInOrder relation ⟨session, .order message href query, worker, log⟩ now
      (.order message href query))
    (success : message.code = 0x45)
    (blocks : blockwiseRefetch message.options = some blockwise)
    (outcome : recorded session.relations message now = some (legacy, relations))
    (touches : TouchesOnly message.token session.relations relations)
    (queueing : next = if blockwise then some ⟨href, query, legacy⟩ else none)
    (quiet : (href, query) ≠ relation → ∀ event ∈ events, event.accepts relation = false) :
    Outstanding relation (fun key => relations.relationActive key = true) session.refetch worker
      next (log ++ events) := by
  by_cases own : (href, query) = relation
  · rcases inOrder own success (by simp [blocks]) (legacy, relations) outcome with
      ⟨committed, requeued⟩
    apply Outstanding.accept committed
    intro key isWanted
    rcases requeued key isWanted with ⟨again, sameLegacy⟩
    rw [blocks] at again
    cases again
    rw [queueing, if_pos rfl]
    have same := own.trans (mem_wanted.mp isWanted).2.1.symm
    rw [RefetchKey.relation, Prod.mk.injEq] at same
    cases key
    simp_all
  · apply outstanding.extend _ _ (quiet own)
    · intro key same isActive
      exact foreign_active registered touches own same isActive
    · intro key _ _ isQueueing
      cases isQueueing

theorem advances_outstanding {next : Session} {worker : WorkerPoint} {log : List Event}
    (invariant : RollbackInvariant relation ⟨session, point, worker, log⟩)
    (inOrder : ReaderInOrder relation ⟨session, point, worker, log⟩ now point)
    (step : Advances session now point next nextPoint effects) :
    Outstanding relation (fun key => next.relations.relationActive key = true) next.refetch worker
      nextPoint.queues? (log ++ effects.map (.reader point)) := by
  have outstanding : Outstanding relation
      (fun key => session.relations.relationActive key = true) session.refetch worker
      point.queues? log := invariant.outstanding
  cases step with
  | registry registry before after carried =>
      apply outstanding.extend (fun _ _ => id) _ (by simp)
      intro key _ _ isQueueing
      cases point with
      | order _ _ _ | probation _ _ _ _ | settled _ _ => exact before.elim
      | _ => cases isQueueing
  | identified live =>
      apply outstanding.extend (fun _ _ => id) _ (by simp)
      intro key _ _ isQueueing
      cases isQueueing
  | retired failure =>
      apply outstanding.extend (fun _ _ => relationActive_of_retire)
      · intro key _ _ isQueueing
        cases isQueueing
      · split_ifs <;> simp [Event.accepts]
  | ignored success =>
      apply outstanding.extend (fun _ _ => id) _ (by simp)
      intro key _ _ isQueueing
      cases isQueueing
  | @sequenced message href query blockwise value success blocks observed fresh =>
      have outcome : recorded session.relations message now =
          some (false, (session.relations.acceptSequence message.token value now).2) := by
        simp [recorded, observed, acceptSequence, fresh]
      apply accepted_outstanding invariant.registered outstanding inOrder success blocks outcome
      · exact acceptSequence_touchesOnly _ _ _ _
      · cases blockwise <;> rfl
      · simp [Event.accepts]
  | @promoted message href query blockwise relations success blocks observed taken =>
      have outcome : recorded session.relations message now = some (true, relations) := by
        simp [recorded, observed, taken]
      apply accepted_outstanding invariant.registered outstanding inOrder success blocks outcome
      · exact acceptPlain_touchesOnly taken
      · cases blockwise <;> rfl
      · simp [Event.accepts]
  | @onProbation message href query blockwise relations success blocks observed taken =>
      have outcome : recorded session.relations message now = some (false, relations) := by
        simp [recorded, observed, taken]
      apply accepted_outstanding invariant.registered outstanding inOrder success blocks outcome
      · exact acceptPlain_touchesOnly taken
      · cases blockwise <;> rfl
      · simp [Event.accepts]
  | @confirmed message href query blockwise still =>
      apply outstanding.extend (fun _ _ => id)
      · intro key _ _ isQueueing _
        cases blockwise <;> exact isQueueing
      · split_ifs <;> simp [Event.accepts]
  | @lapsed message href query blockwise gone =>
      apply outstanding.extend (fun _ _ => id)
      · intro key same isActive isQueueing isOutstanding
        cases blockwise with
        | false => cases isQueueing
        | true =>
            cases isQueueing
            exact absurd (mem_wanted.mpr ⟨isOutstanding, same, isActive⟩) (inOrder gone)
      · split_ifs <;> simp [Event.accepts]
  | @queued delivery =>
      rcases RefetchQueue.queue_cases session.refetch
        ⟨delivery.href, delivery.query, delivery.legacy⟩ delivery.registration with
        ⟨absent, full, unchanged⟩ | queued
      · rw [unchanged]
        apply outstanding.extend (fun _ _ => id) _ (by simp)
        intro key same isActive isQueueing isOutstanding
        cases isQueueing
        exact absurd (mem_wanted.mpr ⟨isOutstanding, same, isActive⟩) (inOrder absent full)
      · rw [queued]
        exact Outstanding.enqueue invariant.logged invariant.inHand outstanding rfl
  | @delivered delivery =>
      apply outstanding.extend (fun _ _ => id)
      · intro key _ _ isQueueing
        cases isQueueing
      · unfold deliver
        split_ifs <;> simp [Event.accepts]

/-! ### Steps of the worker -/

theorem superseded_of_newer {job : RefetchJob} {m : ℕ} {registration : Bool}
    (found : refetch.pending.get? job.key = some (m, registration)) (newer : job.seq < m) :
    superseded refetch job = true := by
  simp [superseded, found, newer]

/-- A worker that has no re-read in hand, or goes on with one that is no less certain. -/
theorem works_outstanding {next : Session} {worker nextWorker : WorkerPoint} {delivered : Bool}
    {log : List Event}
    (outstanding : Outstanding relation
      (fun key => session.relations.relationActive key = true) session.refetch worker queueing log)
    (inOrder : ∀ job ∈ worker.passing? session.refetch, queueing = some job.key →
      job.key.relation = relation → session.relations.relationActive job.key = false)
    (step : Works session now delivered worker next nextWorker effects) :
    Outstanding relation (fun key => next.relations.relationActive key = true) next.refetch
      nextWorker queueing log := by
  cases step with
  | rests idle idleNext =>
      apply outstanding.carry session.refetch (fun _ _ => id)
      · intro job held
        have inHand := WorkerPoint.job_of_unchecked held
        rw [idleNext] at inHand
        cases inHand
      · rintro job payload rfl
        cases idleNext
      · rintro job (⟨_, rfl⟩ | ⟨_, rfl⟩) <;> cases idleNext
  | @takes job oldest =>
      apply outstanding.carry _ (RefetchQueue.Discards.erase _ _).entries
      · intro other held same isActive
        cases held
        rcases outstanding.queued job.key _ _ same oldest isActive with fresh | isQueueing
        · exact .inl fresh
        · exact .inr (.inl isQueueing)
      · simp
      · simp
  | drops =>
      apply outstanding.carry session.refetch (fun _ _ => id) <;> simp [WorkerPoint.unchecked?]
  | @starts job active =>
      apply outstanding.carry session.refetch (fun _ _ => id)
      · intro other held
        exact outstanding.unchecked other held
      · simp
      · simp
  | @reads job getter unfinished =>
      rw [(getStep_onlySends _ session now delivered getter).registry]
      apply outstanding.carry session.refetch (fun _ _ => id)
      · intro other held
        exact outstanding.unchecked other held
      · simp
      · simp
  | @completes job result content newest =>
      apply outstanding.carry session.refetch (fun _ _ => id)
      · simp [WorkerPoint.unchecked?]
      · intro other payload held same isActive
        cases held
        rcases outstanding.unchecked job rfl same isActive with
          fresh | isQueueing | ⟨m, registration, found, newer⟩
        · exact fresh
        · have passing : job ∈ (WorkerPoint.reading job (.finished (.ok result))).passing?
              session.refetch := by
            simp [WorkerPoint.passing?, content, newest]
          have inactive := inOrder job passing isQueueing same
          rw [inactive] at isActive
          cases isActive
        · rw [superseded_of_newer found newer] at newest
          cases newest
      · simp
  | @confirms job payload active =>
      apply outstanding.carry session.refetch (fun _ _ => id)
      · simp [WorkerPoint.unchecked?]
      · simp
      · rintro other (⟨_, held⟩ | ⟨_, held⟩) same <;> cases held
        exact outstanding.current job payload rfl same active
  | @composes job payload =>
      apply outstanding.carry session.refetch (fun _ _ => id)
      · simp [WorkerPoint.unchecked?]
      · simp
      · rintro other (⟨_, held⟩ | ⟨_, held⟩) same <;> cases held
        exact outstanding.certain job (.inl ⟨payload, rfl⟩) same
  | delivers =>
      apply outstanding.carry session.refetch (fun _ _ => id) <;> simp [WorkerPoint.unchecked?]

/-- Only the last step of a re-read delivers it. -/
theorem works_rereads {next : Session} {worker nextWorker : WorkerPoint} {delivered : Bool}
    (step : Works session now delivered worker next nextWorker effects) :
    (∀ effect ∈ effects, (Event.worker worker effect).rereads? relation = none) ∨
      ∃ job delivery, worker = .delivering job delivery ∧
        (effects = [] ∨ ∃ effect, effects = [effect]) := by
  cases step with
  | @delivers job delivery =>
      refine .inr ⟨job, delivery, rfl, ?_⟩
      unfold deliver
      split_ifs <;> simp
  | reads _ => exact .inl fun _ _ => rfl
  | _ => exact .inl (by simp)

/-! ### Runs -/

theorem rollback_receive {state : System} (datagram : ByteString)
    (invariant : RollbackInvariant relation state) :
    RollbackInvariant relation (state.perform (.receive datagram)) := by
  rcases state with ⟨session, point, worker, log⟩
  simp only [System.perform]
  split_ifs with idle
  · subst idle
    rcases receive_cases session datagram with ⟨unordered, acksOnly, _⟩
    have quiet : ∀ event ∈ (receive session datagram).2.map (Event.reader .idle),
        event.Quiet relation := by
      intro event eventMem
      rcases List.mem_map.mp eventMem with ⟨effect, effectMem, rfl⟩
      rcases acksOnly effect effectMem with ⟨sent, rfl⟩
      exact ⟨rfl, rfl, fun _ => rfl⟩
    have noted := invariant.note quiet
    refine ⟨noted.numbered, noted.logged, noted.inHand, ?_, ?_, noted.never⟩
    · dsimp only
      generalize (receive session datagram).1 = taken at unordered
      cases taken <;> trivial
    · apply invariant.outstanding.extend (fun _ _ => id)
      · intro key _ _ isQueueing
        cases isQueueing
      · exact fun event eventMem => (quiet event eventMem).accepts
  · exact invariant

theorem rollback_advance {state : System} (invariant : RollbackInvariant relation state)
    (inOrder : ReaderInOrder relation state now state.reader) :
    RollbackInvariant relation (state.perform (.advance now)) := by
  have grows := perform_seq_le state (.advance now) trivial
  have numbered := numbered_perform (.advance now) trivial invariant.numbered
  rcases state with ⟨session, point, worker, log⟩
  have step := dispatchStep_advances session now point
  have noted := invariant.note (liveEvents_quiet relation session point)
  have outstanding := advances_outstanding noted inOrder step
  refine ⟨numbered, ?_, ?_, advances_registered invariant.registered step, outstanding, ?_⟩
  · intro event eventMem n queues
    rcases List.mem_append.mp eventMem with earlier | new
    · exact (noted.logged event earlier n queues).trans grows
    · rcases List.mem_map.mp new with ⟨effect, effectMem, rfl⟩
      exact advances_logged step effectMem queues
  · exact fun job held => (invariant.inHand job held).trans grows
  · apply noted.never.append
    intro event eventMem
    rcases List.mem_map.mp eventMem with ⟨effect, _, rfl⟩
    rfl

theorem rollback_work {state : System} {delivered : Bool}
    (invariant : RollbackInvariant relation state)
    (inOrder : InOrder relation state (.work now delivered)) :
    RollbackInvariant relation (state.perform (.work now delivered)) := by
  have grows := perform_seq_le state (.work now delivered) trivial
  have numbered := numbered_perform (.work now delivered) trivial invariant.numbered
  rcases state with ⟨session, point, worker, log⟩
  have step := workerStep_works session now delivered worker
  have outstanding := works_outstanding invariant.outstanding (by
    intro job passing isQueueing same
    by_contra isActive
    have held := WorkerPoint.unchecked_of_passing passing
    exact inOrder job passing isQueueing
      (mem_wanted.mpr ⟨.inr ⟨job, held, rfl⟩, same, by simpa using isActive⟩)) step
  refine ⟨numbered, ?_, ?_, ?_, ?_, ?_⟩
  · intro event eventMem n queues
    rcases List.mem_append.mp eventMem with earlier | new
    · exact (invariant.logged event earlier n queues).trans grows
    · rcases List.mem_map.mp new with ⟨effect, _, rfl⟩
      cases queues
  · intro job held
    rcases step.job held with before | ⟨_, queued⟩
    · exact (invariant.inHand job before).trans grows
    · exact (invariant.numbered.bounded _ _ _ queued).trans grows
  · have registered := invariant.registered
    simp only [System.perform]
    rw [step.relations]
    exact registered
  · apply outstanding.extend (fun _ _ => id) (fun _ _ _ isQueueing _ => isQueueing)
    intro event eventMem
    rcases List.mem_map.mp eventMem with ⟨effect, _, rfl⟩
    rfl
  · rcases works_rereads step with none | ⟨job, delivery, rfl, nothing | ⟨effect, single⟩⟩
    · apply invariant.never.append
      intro event eventMem
      rcases List.mem_map.mp eventMem with ⟨effect, effectMem, rfl⟩
      exact none effect effectMem
    · simp only [System.perform, nothing, List.map_nil, List.append_nil]
      exact invariant.never
    · simp only [System.perform, single, List.map_singleton]
      apply invariant.never.deliver (n := job.seq)
      · intro rereads
        apply invariant.outstanding.certain job (.inr ⟨delivery, rfl⟩)
        by_contra other
        simp [Event.rereads?, other] at rereads
      · intro m rereads
        simp only [Event.rereads?] at rereads
        split_ifs at rereads
        cases rereads
        rfl

theorem rollback_others {state : System} {session : Session}
    (invariant : RollbackInvariant relation state)
    (undisturbed : Undisturbed relation state session) :
    RollbackInvariant relation (state.perform (.others session)) := by
  have discards := undisturbed.discards
  refine ⟨invariant.numbered.discard discards, ?_, ?_, ?_, ?_, invariant.never⟩
  · intro event eventMem n queues
    exact (invariant.logged event eventMem n queues).trans discards.seq.ge
  · exact fun job held => (invariant.inHand job held).trans discards.seq.ge
  · exact invariant.registered.keep undisturbed.registered
  · have outstanding := invariant.outstanding
    refine ⟨?_, ?_, ?_, outstanding.certain⟩
    · intro key n registration same found isActive
      exact outstanding.queued key n registration same (discards.entries key _ found)
        (undisturbed.active key same isActive)
    · intro job held same isActive
      rcases outstanding.unchecked job held same (undisturbed.active job.key same isActive) with
        fresh | isQueueing | ⟨m, registration, found, newer⟩
      · exact .inl fresh
      · exact .inr (.inl isQueueing)
      · cases still : session.refetch.pending.get? job.key with
        | none =>
            have inactive := undisturbed.inactive job.key _ same found still
            exact absurd (inactive.symm.trans isActive) Bool.false_ne_true
        | some entry =>
            have earlier := discards.entries job.key entry still
            rw [found] at earlier
            cases earlier
            exact .inr (.inr ⟨m, registration, still, newer⟩)
    · intro job payload held same isActive
      exact outstanding.current job payload held same (undisturbed.active job.key same isActive)

theorem rollback_perform (state : System) (action : SystemAction)
    (invariant : RollbackInvariant relation state)
    (condition : InOrder relation state action ∧ OthersUndisturbing relation state action) :
    RollbackInvariant relation (state.perform action) := by
  cases action with
  | receive datagram => exact rollback_receive datagram invariant
  | advance now => exact rollback_advance invariant condition.1
  | work now delivered => exact rollback_work invariant condition.1
  | others session => exact rollback_others invariant condition.2

/--
In every run that is in order, no re-read of the relation is delivered after a newer
notification of it was accepted.
-/
theorem refetch_never_rolls_back (relation : String × Query) {start : System}
    (idle : start.reader = .idle) (parked : start.worker.job? = none) (unlogged : start.log = [])
    (numbered : start.session.refetch.Numbered) {actions : List SystemAction}
    (inOrder : Machine.Meets System.perform (InOrder relation) actions start)
    (undisturbed : Machine.Meets System.perform (OthersUndisturbing relation) actions start) :
    NeverRolledBack relation (Machine.run System.perform actions start).log := by
  have unchecked : start.worker.unchecked? = none := by
    by_contra held
    rcases Option.ne_none_iff_exists'.mp held with ⟨job, held⟩
    rw [WorkerPoint.job_of_unchecked held] at parked
    cases parked
  have initial : RollbackInvariant relation start := by
    refine ⟨numbered, by simp [unlogged], by simp [parked], ?_, ⟨?_, ?_, ?_, ?_⟩, ?_⟩
    · simp [idle, DispatchPoint.Registered]
    · intro _ _ _ _ _ _
      simp [unlogged, newerAccepted]
    · simp [unchecked]
    · intro _ _ _ _ _
      simp [unlogged, newerAccepted]
    · intro _ _ _
      simp [unlogged, newerAccepted]
    · intro before event n isPrefix
      simp [unlogged] at isPrefix
  exact (Machine.invariant_run rollback_perform (Machine.meets_and inOrder undisturbed)
    initial).never

/-- A relation with a rich callback whose worker is idle. -/
def observed : System where
  session := .observing ⟨true, false, false, false, true⟩ [7] "/a" []
  reader := .idle
  worker := .idle
  log := []

/-- A notification in blocks is read again before the next one arrives. -/
theorem refetch_never_rolls_back_example :
    let log := (Machine.run System.perform
      (dispatchedTo [0x51, 0x45, 0, 1, 7, 0x61, 5, 0xD1, 4, 0x08, 0xFF, 1] 0 ++
        List.replicate 7 (.work 0 true) ++
        dispatchedTo [0x54, 0x45, 0, 2, 0, 0, 0, 1, 0xFF, 1, 2] 0 ++
        List.replicate 6 (.work 0 true) ++
        dispatchedTo [0x51, 0x45, 0, 3, 7, 0x61, 6, 0xFF, 9] 0) observed).log
    log.filterMap Event.delivered? = [("/a", [1, 2]), ("/a", [9])] ∧
      NeverRolledBack ("/a", []) log := by
  refine ⟨by decide +kernel, refetch_never_rolls_back _ ?_ ?_ ?_ ?_ ?_ ?_⟩
  · rfl
  · rfl
  · rfl
  · exact ⟨fun key n registration queued => (by cases queued), fun key other n registration
      otherRegistration queued => (by cases queued)⟩
  · decide +kernel
  · apply Machine.meets_of_forall
    intro action actionMem state
    cases action with
    | others session => simp [dispatchedTo] at actionMem
    | _ => trivial

/-- The next notification arrives while the worker reads, and the older representation follows. -/
theorem refetch_rolls_back :
    let actions := dispatchedTo [0x51, 0x45, 0, 1, 7, 0x61, 5, 0xD1, 4, 0x08, 0xFF, 1] 0 ++
      List.replicate 7 (.work 0 true) ++
      dispatchedTo [0x54, 0x45, 0, 2, 0, 0, 0, 1, 0xFF, 1, 2] 0 ++
      dispatchedTo [0x51, 0x45, 0, 3, 7, 0x61, 6, 0xFF, 9] 0 ++
      List.replicate 6 (.work 0 true)
    let log := (Machine.run System.perform actions observed).log
    log.filterMap Event.delivered? = [("/a", [9]), ("/a", [1, 2])] ∧
      Machine.Meets System.perform (OthersUndisturbing ("/a", [])) actions observed ∧
      ¬NeverRolledBack ("/a", []) log := by
  intro actions log
  refine ⟨by decide +kernel, ?_, ?_⟩
  · apply Machine.meets_of_forall
    intro action actionMem state
    cases action with
    | others session => simp [actions, dispatchedTo] at actionMem
    | _ => trivial
  · intro never
    have reread : (log.getLast?.bind fun event => event.rereads? ("/a", [])) = some 1 := by
      decide +kernel
    have stale : newerAccepted ("/a", []) 1 log.dropLast = true := by decide +kernel
    rcases Option.bind_eq_some_iff.mp reread with ⟨event, isLast, rereads⟩
    have whole : log.dropLast ++ [event] <+: log := by
      rw [List.dropLast_append_getLast? event isLast]
    have fresh := never log.dropLast event 1 whole rereads
    rw [stale] at fresh
    cases fresh

end SmartThingsLocal
