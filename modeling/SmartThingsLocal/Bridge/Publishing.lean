import SmartThingsLocal.Foundation.ByteString
import SmartThingsLocal.Foundation.Machine
import SmartThingsLocal.Foundation.Threads
import SmartThingsLocal.Ocf.StateCache

/-!
# The published state

Each thread that applies a representation calls `maybe_publish_state` on its way out. The snapshot,
the comparison, the assignment of `last_state_pub` and the publish are steps of their own, and no
lock joins them.
-/

namespace SmartThingsLocal

/-- The descriptor of an appliance, and how its sensors are written. -/
structure PublishContext (V S Sensors : Type) where
  hook : ObservationHook V S
  flatten : OrderedDict String (Rep V) → Sensors
  project : Option (S → Sensors → Sensors)
  dumps : Sensors → ByteString

/-- The arguments of one `apply_rep`, and the time at which it stores. -/
structure CacheUpdate (V : Type) where
  href : String
  rep : Rep V
  source : String
  merge : Bool
  now : ℕ

/--
The cache, the last state assigned, and the last payload published. The counters are read by no
step: `changes` of the cache, the latest change that `lastStatePub` accounts for, the assignments
so far, and the assignment that was published last.
-/
structure PublishState (V S Sensors : Type) where
  cache : StateCache V S
  publishGate : Bool
  lastStatePub : Option Sensors
  published : Option ByteString
  changes : ℕ := 0
  settled : ℕ := 0
  assigned : ℕ := 0
  sent : ℕ := 0

/-- Where a thread is in `apply_rep` and `maybe_publish_state`. -/
inductive PublishPoint (V Sensors : Type)
  | idle
  | stored (href : String) (resulting : Rep V)
  | notified
  | snapped (links : OrderedDict String (Rep V)) (seen : ℕ)
  | projected (sensors : Sensors) (seen : ℕ)
  | differing (sensors : Sensors) (seen : ℕ)
  | assigned (sensors : Sensors) (ticket : ℕ)
  deriving DecidableEq

namespace PublishContext

variable {V S Sensors : Type}

/-- `flatten` of the links, and `project` where the descriptor has one. -/
def sensorsOf (context : PublishContext V S Sensors) (links : OrderedDict String (Rep V))
    (descriptorState : S) : Sensors :=
  match context.project with
  | none => context.flatten links
  | some project => project descriptorState (context.flatten links)

variable [DecidableEq Sensors]

/-- One step of a thread, which begins another update when it is idle. -/
def step (context : PublishContext V S Sensors) {θ : Type} (_ : θ) (update : CacheUpdate V)
    (shared : PublishState V S Sensors) :
    PublishPoint V Sensors → PublishState V S Sensors × PublishPoint V Sensors
  | .idle =>
      ({ shared with
        cache := shared.cache.storeRep update.href update.rep update.source update.merge update.now
        changes := shared.changes + 1 },
        .stored update.href (StateCache.resulting (shared.cache.get update.href) update.rep
          update.merge))
  | .stored href resulting =>
      ({ shared with
        cache := shared.cache.observe context.hook href resulting
        changes := shared.changes + 1 }, .notified)
  | .notified =>
      if shared.publishGate then (shared, .snapped shared.cache.snapshot shared.changes)
      else (shared, .idle)
  | .snapped links seen =>
      (shared, .projected (context.sensorsOf links shared.cache.descriptorState) seen)
  | .projected sensors seen =>
      if some sensors = shared.lastStatePub then
        ({ shared with settled := max shared.settled seen }, .idle)
      else (shared, .differing sensors seen)
  | .differing sensors seen =>
      ({ shared with
        lastStatePub := some sensors
        settled := seen
        assigned := shared.assigned + 1 }, .assigned sensors (shared.assigned + 1))
  | .assigned sensors ticket =>
      ({ shared with published := some (context.dumps sensors), sent := ticket }, .idle)

/-- The sensors of what is cached. -/
def current (context : PublishContext V S Sensors) (shared : PublishState V S Sensors) : Sensors :=
  context.sensorsOf shared.cache.snapshot shared.cache.descriptorState

end PublishContext

open Threads

variable {V S Sensors θ : Type} [DecidableEq Sensors] [DecidableEq θ]

omit [DecidableEq Sensors] [DecidableEq θ] in
/-- The next step of a thread does not fall behind those of others. -/
def PublishPoint.InOrder (shared : PublishState V S Sensors) : PublishPoint V Sensors → Prop
  | .differing _ seen => shared.settled ≤ seen
  | .assigned _ ticket => shared.sent ≤ ticket
  | _ => True

/--
`last_state_pub` is not assigned from an older snapshot than it accounts for, and payloads are
published in the order in which it was assigned.
-/
def PublishesInOrder (state : Threads θ (PublishState V S Sensors) (PublishPoint V Sensors))
    (action : θ × CacheUpdate V) : Prop :=
  (state.point action.1).InOrder state.shared

instance decidablePublishesInOrder
    (state : Threads θ (PublishState V S Sensors) (PublishPoint V Sensors))
    (action : θ × CacheUpdate V) : Decidable (PublishesInOrder state action) :=
  match own : state.point action.1 with
  | .differing _ seen => decidable_of_iff (state.shared.settled ≤ seen) (by
      rw [PublishesInOrder, own, PublishPoint.InOrder])
  | .assigned _ ticket => decidable_of_iff (state.shared.sent ≤ ticket) (by
      rw [PublishesInOrder, own, PublishPoint.InOrder])
  | .idle | .stored _ _ | .notified | .snapped _ _ | .projected _ _ =>
      isTrue (by rw [PublishesInOrder, own]; trivial)

namespace PublishContext

variable (context : PublishContext V S Sensors)

/-- What a thread carries is no older than it says. -/
def Carries (shared : PublishState V S Sensors) : PublishPoint V Sensors → Prop
  | .snapped links seen =>
      seen ≤ shared.changes ∧ (seen = shared.changes → links = shared.cache.snapshot)
  | .projected sensors seen | .differing sensors seen =>
      seen ≤ shared.changes ∧ (seen = shared.changes → sensors = context.current shared)
  | .assigned sensors ticket =>
      ticket ≤ shared.assigned ∧
        (ticket = shared.assigned → shared.lastStatePub = some sensors)
  | _ => True

/-- A thread has yet to compare what the latest change left. -/
def Pending (changes : ℕ) : PublishPoint V Sensors → Prop
  | .stored _ _ | .notified => True
  | .snapped _ seen | .projected _ seen | .differing _ seen => seen = changes
  | _ => False

/-- The latest change is accounted for or under way, and so is the latest assignment. -/
structure PublishInvariant
    (state : Threads θ (PublishState V S Sensors) (PublishPoint V Sensors)) : Prop where
  gate : state.shared.publishGate = true
  carries : ∀ thread, context.Carries state.shared (state.point thread)
  settled_le : state.shared.settled ≤ state.shared.changes
  settled : 0 < state.shared.changes → state.shared.settled = state.shared.changes →
    state.shared.lastStatePub = some (context.current state.shared)
  pending : 0 < state.shared.changes → state.shared.settled = state.shared.changes ∨
    ∃ thread, Pending state.shared.changes (state.point thread)
  sent_le : state.shared.sent ≤ state.shared.assigned
  sent : state.shared.sent = state.shared.assigned →
    state.shared.published = state.shared.lastStatePub.map context.dumps
  sending : state.shared.sent < state.shared.assigned →
    ∃ thread sensors, state.point thread = .assigned sensors state.shared.assigned

namespace PublishInvariant

variable {context} {shared : PublishState V S Sensors} {point : θ → PublishPoint V Sensors}
  {thread : θ} {next : PublishPoint V Sensors}

omit [DecidableEq Sensors] in
theorem carries_update {after : PublishState V S Sensors} (own : context.Carries after next)
    (others : ∀ other, other ≠ thread → context.Carries after (point other)) (other : θ) :
    context.Carries after (Function.update point thread next other) := by
  by_cases same : other = thread
  · subst same
    rw [Function.update_self]
    exact own
  · rw [Function.update_of_ne same]
    exact others other same

omit [DecidableEq Sensors] in
/-- The thread that has still to publish is another one. -/
theorem sending_update {ticket : ℕ} (moves : ∀ sensors, point thread ≠ .assigned sensors ticket)
    (sending : ∃ other sensors, point other = .assigned sensors ticket) :
    ∃ other sensors, Function.update point thread next other = .assigned sensors ticket := by
  rcases sending with ⟨other, sensors, holds⟩
  refine ⟨other, sensors, ?_⟩
  rw [Function.update_of_ne, holds]
  rintro rfl
  exact moves sensors holds

omit [DecidableEq Sensors] in
theorem pending_update {changes : ℕ} (still : Pending changes (point thread) → Pending changes next)
    (pending : ∃ other, Pending changes (point other)) :
    ∃ other, Pending changes (Function.update point thread next other) := by
  rcases pending with ⟨other, holds⟩
  refine ⟨other, ?_⟩
  by_cases same : other = thread
  · subst same
    rw [Function.update_self]
    exact still holds
  · rw [Function.update_of_ne same]
    exact holds

omit [DecidableEq Sensors] in
/-- A thread moves on without touching what is shared. -/
theorem quiet (invariant : context.PublishInvariant ⟨shared, point⟩)
    (carries : context.Carries shared next)
    (still : Pending shared.changes (point thread) → Pending shared.changes next)
    (unassigned : ∀ sensors ticket, point thread ≠ .assigned sensors ticket) :
    context.PublishInvariant ⟨shared, Function.update point thread next⟩ := by
  refine ⟨invariant.gate, carries_update carries fun other _ => invariant.carries other,
    invariant.settled_le, invariant.settled, fun some => ?_, invariant.sent_le, invariant.sent,
    fun behind => sending_update (fun sensors => unassigned sensors _) (invariant.sending behind)⟩
  exact (invariant.pending some).imp_right (pending_update still)

omit [DecidableEq Sensors] [DecidableEq θ] in
theorem carries_changed {held : PublishPoint V Sensors} (carries : context.Carries shared held)
    (cache : StateCache V S) :
    context.Carries { shared with cache, changes := shared.changes + 1 } held := by
  have older {seen changes : ℕ} {P : Prop} (before : seen ≤ changes) :
      seen ≤ changes + 1 ∧ (seen = changes + 1 → P) := ⟨by omega, by omega⟩
  cases held with
  | snapped links seen => exact older carries.1
  | projected sensors seen => exact older carries.1
  | differing sensors seen => exact older carries.1
  | assigned sensors ticket => exact carries
  | _ => trivial

omit [DecidableEq Sensors] in
/-- A thread changes the cache, and has to look at it afterwards. -/
theorem changed (invariant : context.PublishInvariant ⟨shared, point⟩) (cache : StateCache V S)
    (carries : ∀ after, context.Carries after next)
    (pending : ∀ changes, Pending changes next)
    (unassigned : ∀ sensors ticket, point thread ≠ .assigned sensors ticket) :
    context.PublishInvariant
      ⟨{ shared with cache, changes := shared.changes + 1 },
        Function.update point thread next⟩ := by
  have settled_le := invariant.settled_le
  dsimp only at settled_le
  refine ⟨invariant.gate, carries_update (carries _) fun other _ =>
      carries_changed (invariant.carries other) cache, ?_, ?_, fun _ => .inr ⟨thread, ?_⟩,
    invariant.sent_le, invariant.sent, fun behind =>
      sending_update (fun sensors => unassigned sensors _) (invariant.sending behind)⟩
  · dsimp only
    omega
  · dsimp only
    omega
  · dsimp only
    rw [Function.update_self]
    exact pending _

omit [DecidableEq Sensors] in
/-- Nothing differs from the last state, which accounts for what the thread saw from now on. -/
theorem suppressed (invariant : context.PublishInvariant ⟨shared, point⟩) {sensors : Sensors}
    {seen : ℕ} (here : point thread = .projected sensors seen)
    (equal : some sensors = shared.lastStatePub) :
    context.PublishInvariant
      ⟨{ shared with settled := max shared.settled seen }, Function.update point thread .idle⟩ := by
  have carries := invariant.carries thread
  dsimp only at carries
  rw [here] at carries
  rcases carries with ⟨seen_le, exactly⟩
  have settled_le := invariant.settled_le
  dsimp only at settled_le
  refine ⟨invariant.gate, carries_update trivial fun other _ => ?_, max_le settled_le seen_le,
    fun some accounted => ?_, fun some => ?_, invariant.sent_le, invariant.sent, fun behind =>
      sending_update (fun sensors => by rw [here]; nofun) (invariant.sending behind)⟩
  · have earlier := invariant.carries other
    dsimp only at earlier
    cases held : point other <;> rw [held] at earlier <;> exact earlier
  · dsimp only at accounted some ⊢
    rcases max_choice shared.settled seen with older | newer
    · exact invariant.settled some (older ▸ accounted)
    · rw [newer] at accounted
      rw [← equal, exactly accounted]
      rfl
  · rcases invariant.pending some with accounted | ⟨other, pending⟩
    · left
      dsimp only at accounted ⊢
      omega
    · by_cases same : other = thread
      · subst same
        dsimp only at pending ⊢
        rw [here] at pending
        have latest : seen = shared.changes := pending
        left
        omega
      · refine .inr ⟨other, ?_⟩
        dsimp only
        rw [Function.update_of_ne same]
        exact pending

omit [DecidableEq Sensors] in
/-- The last state is assigned from a snapshot that is not too old. -/
theorem assigned (invariant : context.PublishInvariant ⟨shared, point⟩) {sensors : Sensors}
    {seen : ℕ} (here : point thread = .differing sensors seen) (recent : shared.settled ≤ seen) :
    context.PublishInvariant
      ⟨{ shared with
          lastStatePub := some sensors
          settled := seen
          assigned := shared.assigned + 1 },
        Function.update point thread (.assigned sensors (shared.assigned + 1))⟩ := by
  have carries := invariant.carries thread
  dsimp only at carries
  rw [here] at carries
  rcases carries with ⟨seen_le, exactly⟩
  have sent_le := invariant.sent_le
  dsimp only at sent_le
  refine ⟨invariant.gate, carries_update ⟨le_rfl, fun _ => rfl⟩ fun other _ => ?_, seen_le,
    fun _ accounted => ?_, fun some => ?_, ?_, ?_, fun _ => ⟨thread, sensors, ?_⟩⟩
  · have earlier := invariant.carries other
    dsimp only at earlier
    cases held : point other with
    | assigned _ ticket =>
        rw [held] at earlier
        have ticket_le := earlier.1
        exact ⟨by dsimp only; omega, by dsimp only; omega⟩
    | _ =>
        rw [held] at earlier
        exact earlier
  · exact congrArg some (exactly accounted)
  · rcases invariant.pending some with accounted | ⟨other, pending⟩
    · left
      dsimp only at accounted ⊢
      omega
    · by_cases same : other = thread
      · subst same
        dsimp only at pending ⊢
        rw [here] at pending
        exact .inl pending
      · refine .inr ⟨other, ?_⟩
        dsimp only
        rw [Function.update_of_ne same]
        exact pending
  · dsimp only
    omega
  · dsimp only
    omega
  · exact Function.update_self ..

omit [DecidableEq Sensors] in
/-- A payload is published after those that were assigned before it. -/
theorem published (invariant : context.PublishInvariant ⟨shared, point⟩) {sensors : Sensors}
    {ticket : ℕ} (here : point thread = .assigned sensors ticket)
    (recent : shared.sent ≤ ticket) :
    context.PublishInvariant
      ⟨{ shared with published := some (context.dumps sensors), sent := ticket },
        Function.update point thread .idle⟩ := by
  have carries := invariant.carries thread
  dsimp only at carries
  rw [here] at carries
  rcases carries with ⟨ticket_le, exactly⟩
  refine ⟨invariant.gate, carries_update trivial fun other _ => ?_, invariant.settled_le,
    invariant.settled, fun some => ?_, ticket_le, fun latest => ?_, fun behind => ?_⟩
  · have earlier := invariant.carries other
    dsimp only at earlier
    cases held : point other <;> rw [held] at earlier <;> exact earlier
  · refine (invariant.pending some).imp_right (pending_update ?_)
    intro pending
    dsimp only at pending
    rw [here] at pending
    exact pending.elim
  · dsimp only at latest ⊢
    rw [exactly latest, Option.map_some]
  · dsimp only at behind ⊢
    refine sending_update ?_ (invariant.sending (recent.trans_lt behind))
    intro other same
    rw [here] at same
    cases same
    exact absurd behind (lt_irrefl _)

/-- Each step that publishes in order keeps the invariant. -/
theorem perform {state : Threads θ (PublishState V S Sensors) (PublishPoint V Sensors)}
    (invariant : context.PublishInvariant state) (action : θ × CacheUpdate V)
    (inOrder : PublishesInOrder state action) :
    context.PublishInvariant (Threads.perform context.step action state) := by
  rcases state with ⟨shared, point⟩
  rcases action with ⟨thread, update⟩
  have own := invariant.carries thread
  simp only [Threads.perform, PublishesInOrder] at inOrder own ⊢
  cases here : point thread with
  | idle => exact invariant.changed _ (fun _ => trivial) (fun _ => trivial) (by simp [here])
  | stored href resulting =>
      exact invariant.changed _ (fun _ => trivial) (fun _ => trivial) (by simp [here])
  | notified =>
      have carries : context.Carries shared (.snapped shared.cache.snapshot shared.changes) :=
        ⟨le_rfl, fun _ => rfl⟩
      rw [step, if_pos invariant.gate]
      exact invariant.quiet carries (fun _ => rfl) (by simp [here])
  | snapped links seen =>
      rw [here] at own
      have carries : context.Carries shared
          (.projected (context.sensorsOf links shared.cache.descriptorState) seen) := by
        refine ⟨own.1, fun latest => ?_⟩
        rw [own.2 latest]
        rfl
      exact invariant.quiet carries (by rw [here]; exact id) (by simp [here])
  | projected sensors seen =>
      rw [here] at own
      rw [step]
      split_ifs with equal
      · exact invariant.suppressed here equal
      · have carries : context.Carries shared (.differing sensors seen) := own
        exact invariant.quiet carries (by rw [here]; exact id) (by simp [here])
  | differing sensors seen =>
      rw [here] at inOrder
      exact invariant.assigned here inOrder
  | assigned sensors ticket =>
      rw [here] at inOrder
      exact invariant.published here inOrder

end PublishInvariant

/-- The threads after some steps, all of them idle at first. -/
def after (context : PublishContext V S Sensors) (start : PublishState V S Sensors)
    (actions : List (θ × CacheUpdate V)) :
    Threads θ (PublishState V S Sensors) (PublishPoint V Sensors) :=
  Machine.run (Threads.perform context.step) actions ⟨start, fun _ => .idle⟩

end PublishContext

end SmartThingsLocal
