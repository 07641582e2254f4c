import SmartThingsLocal.Foundation.Machine
import SmartThingsLocal.Ocf.StateCache

/-!
# Two writers of one resource

`apply_optimistic` reads and merges under one acquisition of the lock and stores under another.
Here it runs against one `apply_rep`, each block under the lock one step and each call of the
observation hook another.
-/

namespace SmartThingsLocal

open StateCache

/-- The arguments of the two calls. -/
structure TwoWrites (V S : Type) where
  hook : ObservationHook V S
  href : String
  body : Decoded V
  rep : Decoded V
  source : String
  merge : Bool

/-- Where a writer is between two steps. -/
inductive WriterPoint (V : Type)
  | called
  | merged (rep : Rep V)
  | stored (resulting : Rep V)
  | returned
  deriving DecidableEq

structure TwoWriters (V S : Type) where
  cache : StateCache V S
  optimistic : WriterPoint V
  writer : WriterPoint V

/-- The writer that moves, and the time it reads. -/
inductive WriterAction
  | optimistic (now : ℕ)
  | writer (now : ℕ)
  deriving DecidableEq, Repr

namespace TwoWrites

variable {V S : Type} [DecidableEq V]

omit [DecidableEq V] in
/-- One step of `apply_optimistic`. -/
def optimisticStep (writes : TwoWrites V S) (cache : StateCache V S) (now : ℕ) :
    WriterPoint V → StateCache V S × WriterPoint V
  | .called =>
      match writes.body with
      | .other => (cache, .returned)
      | .dict body => (cache, .merged (cache.mergedBody writes.href body))
  | .merged rep =>
      (cache.storeRep writes.href rep "optimistic" false now,
        .stored (resulting (cache.get writes.href) rep false))
  | .stored resulting => (cache.observe writes.hook writes.href resulting, .returned)
  | .returned => (cache, .returned)

omit [DecidableEq V] in
/-- One step of `apply_rep`. -/
def writerStep (writes : TwoWrites V S) (cache : StateCache V S) (now : ℕ) :
    WriterPoint V → StateCache V S × WriterPoint V
  | .called =>
      match writes.rep with
      | .other => (cache, .returned)
      | .dict rep =>
          (cache.storeRep writes.href rep writes.source writes.merge now,
            .stored (resulting (cache.get writes.href) rep writes.merge))
  | .stored resulting => (cache.observe writes.hook writes.href resulting, .returned)
  | point => (cache, point)

omit [DecidableEq V] in
def perform (writes : TwoWrites V S) (action : WriterAction) (state : TwoWriters V S) :
    TwoWriters V S :=
  match action with
  | .optimistic now =>
      let (cache, optimistic) := writes.optimisticStep state.cache now state.optimistic
      { state with cache, optimistic }
  | .writer now =>
      let (cache, writer) := writes.writerStep state.cache now state.writer
      { state with cache, writer }

omit [DecidableEq V] in
/-- The two writers after some steps. -/
def after (writes : TwoWrites V S) (cache : StateCache V S) (schedule : List WriterAction) :
    TwoWriters V S :=
  Machine.run writes.perform schedule ⟨cache, .called, .called⟩

/-- What is cached after both calls, `apply_optimistic` first. -/
def optimisticFirst (writes : TwoWrites V S) (cache : StateCache V S) : Option (Rep V) :=
  (((cache.applyOptimistic writes.hook writes.href writes.body 0).1.applyRep writes.hook
    writes.href writes.rep writes.source writes.merge 0).1).get writes.href

/-- What is cached after both calls, `apply_rep` first. -/
def writerFirst (writes : TwoWrites V S) (cache : StateCache V S) : Option (Rep V) :=
  (((cache.applyRep writes.hook writes.href writes.rep writes.source writes.merge 0).1
    ).applyOptimistic writes.hook writes.href writes.body 0).1.get writes.href

/-- What is cached is what one of the two serial orders leaves. -/
def Serializable (writes : TwoWrites V S) (cache : StateCache V S) (cached : Option (Rep V)) :
    Prop :=
  sameRep cached (writes.optimisticFirst cache) = true ∨
    sameRep cached (writes.writerFirst cache) = true

omit [DecidableEq V] in
/-- The representation only says what was held before of the keys that the body leaves alone. -/
def Undisturbing (writes : TwoWrites V S) (prior : Option (Rep V)) : Prop :=
  match writes.body, writes.rep with
  | .dict body, .dict rep =>
      ∀ key, body.get? key = none →
        rep.get? key = (prior.getD .empty).get? key ∨
          writes.merge = true ∧ rep.get? key = none
  | _, _ => True

/-! ### The steps of the two calls -/

omit [DecidableEq V] in
/-- A call that has stored its result, or that had nothing to store. -/
def Finished (point : WriterPoint V) : Prop := point = .returned ∨ ∃ rep, point = .stored rep

omit [DecidableEq V] in
def merging (held : Option (Rep V)) (body : Rep V) : Rep V := (held.getD .empty).update body

omit [DecidableEq V] in
/-- What `apply_optimistic` makes of what is held. -/
def afterOptimistic (writes : TwoWrites V S) (held : Option (Rep V)) : Option (Rep V) :=
  match writes.body with
  | .other => held
  | .dict body => some (merging held body)

omit [DecidableEq V] in
/-- What `apply_rep` makes of what is held. -/
def afterWriter (writes : TwoWrites V S) (held : Option (Rep V)) : Option (Rep V) :=
  match writes.rep with
  | .other => held
  | .dict rep => some (resulting held rep writes.merge)

/-- How far the two calls are, with what is cached. -/
inductive Progress (writes : TwoWrites V S) (prior : Option (Rep V)) :
    Option (Rep V) → WriterPoint V → WriterPoint V → Prop
  | neither : Progress writes prior prior .called .called
  | read {body : Rep V} (isDict : writes.body = .dict body) :
      Progress writes prior prior (.merged (merging prior body)) .called
  | optimistic {point : WriterPoint V} (finished : Finished point) :
      Progress writes prior (writes.afterOptimistic prior) point .called
  | writer {point : WriterPoint V} (finished : Finished point) :
      Progress writes prior (writes.afterWriter prior) .called point
  | overtaken {body : Rep V} {point : WriterPoint V} (isDict : writes.body = .dict body)
      (finished : Finished point) :
      Progress writes prior (writes.afterWriter prior) (.merged (merging prior body)) point
  | readAfter {body : Rep V} {point : WriterPoint V} (isDict : writes.body = .dict body)
      (finished : Finished point) :
      Progress writes prior (writes.afterWriter prior)
        (.merged (merging (writes.afterWriter prior) body)) point
  | optimisticFirst {point other : WriterPoint V} (finished : Finished point)
      (otherFinished : Finished other) :
      Progress writes prior (writes.afterWriter (writes.afterOptimistic prior)) point other
  | writerFirst {point other : WriterPoint V} (finished : Finished point)
      (otherFinished : Finished other) :
      Progress writes prior (writes.afterOptimistic (writes.afterWriter prior)) point other
  | lost {body : Rep V} {point other : WriterPoint V} (isDict : writes.body = .dict body)
      (finished : Finished point) (otherFinished : Finished other) :
      Progress writes prior (some (merging prior body)) point other

variable {writes : TwoWrites V S} {cache : StateCache V S} {now : ℕ} {point : WriterPoint V}

omit [DecidableEq V]

theorem optimisticStep_finished (finished : Finished point) :
    Finished (writes.optimisticStep cache now point).2 ∧
      (writes.optimisticStep cache now point).1.get writes.href = cache.get writes.href := by
  rcases finished with rfl | ⟨rep, rfl⟩
  · exact ⟨.inl rfl, rfl⟩
  · exact ⟨.inl rfl, get_observe⟩

theorem writerStep_finished (finished : Finished point) :
    Finished (writes.writerStep cache now point).2 ∧
      (writes.writerStep cache now point).1.get writes.href = cache.get writes.href := by
  rcases finished with rfl | ⟨rep, rfl⟩
  · exact ⟨.inl rfl, rfl⟩
  · exact ⟨.inl rfl, get_observe⟩

theorem optimisticStep_called :
    (Finished (writes.optimisticStep cache now .called).2 ∧ writes.body = .other ∧
      (writes.optimisticStep cache now .called).1 = cache) ∨
    ∃ body, writes.body = .dict body ∧ writes.optimisticStep cache now .called =
      (cache, .merged (merging (cache.get writes.href) body)) := by
  rw [optimisticStep]
  rcases writes.body with body | _
  · exact .inr ⟨body, rfl, rfl⟩
  · exact .inl ⟨.inl rfl, rfl, rfl⟩

theorem optimisticStep_merged (rep : Rep V) :
    Finished (writes.optimisticStep cache now (.merged rep)).2 ∧
      (writes.optimisticStep cache now (.merged rep)).1.get writes.href = some rep := by
  refine ⟨.inr ⟨_, rfl⟩, ?_⟩
  rw [optimisticStep, get_storeRep, if_pos rfl, resulting_replace]

variable (writes cache now) in
theorem writerStep_called :
    Finished (writes.writerStep cache now .called).2 ∧
      (writes.writerStep cache now .called).1.get writes.href =
        writes.afterWriter (cache.get writes.href) := by
  rw [writerStep, afterWriter]
  rcases writes.rep with rep | _
  · exact ⟨.inr ⟨_, rfl⟩, by rw [get_storeRep, if_pos rfl]⟩
  · exact ⟨.inl rfl, rfl⟩

theorem afterOptimistic_other (isOther : writes.body = .other) (held : Option (Rep V)) :
    writes.afterOptimistic held = held := by
  rw [afterOptimistic, isOther]

theorem afterOptimistic_dict {body : Rep V} (isDict : writes.body = .dict body)
    (held : Option (Rep V)) : writes.afterOptimistic held = some (merging held body) := by
  rw [afterOptimistic, isDict]

variable {prior : Option (Rep V)} {optimistic writer : WriterPoint V}

theorem progress_optimistic
    (progress : Progress writes prior (cache.get writes.href) optimistic writer) (now : ℕ) :
    Progress writes prior ((writes.optimisticStep cache now optimistic).1.get writes.href)
      (writes.optimisticStep cache now optimistic).2 writer := by
  generalize held : cache.get writes.href = cached at progress
  cases progress with
  | neither =>
      rcases optimisticStep_called with ⟨finished, isOther, kept⟩ | ⟨body, isDict, step⟩
      · have reached : Progress writes prior (writes.afterOptimistic prior) _ .called :=
          .optimistic finished
        rw [afterOptimistic_other isOther] at reached
        rw [kept, held]
        exact reached
      · rw [step, held]
        exact .read isDict
  | read isDict =>
      rcases optimisticStep_merged _ with ⟨finished, stored⟩
      rw [stored, ← afterOptimistic_dict isDict prior]
      exact .optimistic finished
  | optimistic finished =>
      rcases optimisticStep_finished finished with ⟨still, kept⟩
      rw [kept, held]
      exact .optimistic still
  | writer finished =>
      rcases optimisticStep_called with ⟨returned, isOther, kept⟩ | ⟨body, isDict, step⟩
      · rw [kept, held, ← afterOptimistic_other isOther (writes.afterWriter prior)]
        exact .writerFirst returned finished
      · rw [step, held]
        exact .readAfter isDict finished
  | overtaken isDict finished =>
      rcases optimisticStep_merged _ with ⟨returned, stored⟩
      rw [stored]
      exact .lost isDict returned finished
  | readAfter isDict finished =>
      rcases optimisticStep_merged _ with ⟨returned, stored⟩
      rw [stored, ← afterOptimistic_dict isDict (writes.afterWriter prior)]
      exact .writerFirst returned finished
  | optimisticFirst finished otherFinished =>
      rcases optimisticStep_finished finished with ⟨still, kept⟩
      rw [kept, held]
      exact .optimisticFirst still otherFinished
  | writerFirst finished otherFinished =>
      rcases optimisticStep_finished finished with ⟨still, kept⟩
      rw [kept, held]
      exact .writerFirst still otherFinished
  | lost isDict finished otherFinished =>
      rcases optimisticStep_finished finished with ⟨still, kept⟩
      rw [kept, held]
      exact .lost isDict still otherFinished

theorem progress_writer
    (progress : Progress writes prior (cache.get writes.href) optimistic writer) (now : ℕ) :
    Progress writes prior ((writes.writerStep cache now writer).1.get writes.href) optimistic
      (writes.writerStep cache now writer).2 := by
  generalize held : cache.get writes.href = cached at progress
  have called := writes.writerStep_called cache now
  rw [held] at called
  cases progress with
  | neither =>
      rw [called.2]
      exact .writer called.1
  | read isDict =>
      rw [called.2]
      exact .overtaken isDict called.1
  | optimistic finished =>
      rw [called.2]
      exact .optimisticFirst finished called.1
  | writer finished =>
      rcases writerStep_finished finished with ⟨still, kept⟩
      rw [kept, held]
      exact .writer still
  | overtaken isDict finished =>
      rcases writerStep_finished finished with ⟨still, kept⟩
      rw [kept, held]
      exact .overtaken isDict still
  | readAfter isDict finished =>
      rcases writerStep_finished finished with ⟨still, kept⟩
      rw [kept, held]
      exact .readAfter isDict still
  | optimisticFirst finished otherFinished =>
      rcases writerStep_finished otherFinished with ⟨still, kept⟩
      rw [kept, held]
      exact .optimisticFirst finished still
  | writerFirst finished otherFinished =>
      rcases writerStep_finished otherFinished with ⟨still, kept⟩
      rw [kept, held]
      exact .writerFirst finished still
  | lost isDict finished otherFinished =>
      rcases writerStep_finished otherFinished with ⟨still, kept⟩
      rw [kept, held]
      exact .lost isDict finished still

/-- How far the calls are after any schedule. -/
theorem progress_after (writes : TwoWrites V S) (cache : StateCache V S)
    (schedule : List WriterAction) :
    Progress writes (cache.get writes.href) ((writes.after cache schedule).cache.get writes.href)
      (writes.after cache schedule).optimistic (writes.after cache schedule).writer := by
  have keeps (state : TwoWriters V S) (action : WriterAction)
      (progress : Progress writes (cache.get writes.href) (state.cache.get writes.href)
        state.optimistic state.writer) :
      Progress writes (cache.get writes.href) ((writes.perform action state).cache.get writes.href)
        (writes.perform action state).optimistic (writes.perform action state).writer := by
    cases action with
    | optimistic now => exact progress_optimistic progress now
    | writer now => exact progress_writer progress now
  exact Machine.invariant_run_all keeps schedule .neither

/-! ### What the serial orders leave -/

variable [DecidableEq V]

theorem get_applyOptimistic (cache : StateCache V S) (now : ℕ) :
    (cache.applyOptimistic writes.hook writes.href writes.body now).1.get writes.href =
      writes.afterOptimistic (cache.get writes.href) := by
  unfold applyOptimistic afterOptimistic
  rcases writes.body with body | _
  · dsimp only
    rw [get_applyRep, resulting_replace]
    rfl
  · rfl

theorem get_applyRep_writer (cache : StateCache V S) (now : ℕ) :
    (cache.applyRep writes.hook writes.href writes.rep writes.source writes.merge now).1.get
      writes.href = writes.afterWriter (cache.get writes.href) := by
  rw [afterWriter]
  rcases writes.rep with rep | _
  · exact get_applyRep
  · rfl

theorem optimisticFirst_eq : writes.optimisticFirst cache =
    writes.afterWriter (writes.afterOptimistic (cache.get writes.href)) := by
  rw [optimisticFirst, get_applyRep_writer, get_applyOptimistic]

theorem writerFirst_eq : writes.writerFirst cache =
    writes.afterOptimistic (writes.afterWriter (cache.get writes.href)) := by
  rw [writerFirst, get_applyOptimistic, get_applyRep_writer]

omit [DecidableEq V] in
theorem get?_merging (held : Option (Rep V)) (body : Rep V) (key : String) :
    (merging held body).get? key = (body.get? key).or ((held.getD .empty).get? key) :=
  OrderedDict.get?_update _ _ _

/-- The order with `apply_optimistic` last is what it stores, exactly if nothing was disturbed. -/
theorem sameRep_writerFirst_iff {body rep : Rep V} (held : Option (Rep V)) :
    sameRep (some (merging held body)) (some (merging (some (resulting held rep writes.merge))
      body)) = true ↔
      ∀ key, body.get? key = none → rep.get? key = (held.getD .empty).get? key ∨
        writes.merge = true ∧ rep.get? key = none := by
  rw [sameRep_some]
  refine forall_congr' fun key => ?_
  rw [get?_merging, get?_merging, Option.getD_some]
  rcases body.get? key with _ | value
  · rw [Option.none_or, Option.none_or]
    rcases writes.merge with _ | _
    · rw [resulting_replace]
      simp [eq_comm]
    · rw [get?_resulting_merge]
      rcases rep.get? key with _ | content
      · simp
      · simp [eq_comm]
  · simp

/-- A representation that comes last and changes nothing has disturbed nothing. -/
theorem undisturbing_of_sameRep {body rep : Rep V} {held : Option (Rep V)}
    (unchanged : sameRep (some (merging held body))
      (some (resulting (some (merging held body)) rep writes.merge)) = true) :
    ∀ key, body.get? key = none → rep.get? key = (held.getD .empty).get? key ∨
      writes.merge = true ∧ rep.get? key = none := by
  intro key absent
  have agree := sameRep_some.mp unchanged key
  rw [get?_merging, absent, Option.none_or] at agree
  rcases merge : writes.merge with _ | _
  · rw [merge, resulting_replace] at agree
    exact .inl agree.symm
  · rw [merge, get?_resulting_merge, Option.getD_some, get?_merging, absent,
      Option.none_or] at agree
    rcases content : rep.get? key with _ | value
    · exact .inr ⟨rfl, rfl⟩
    · rw [content] at agree
      exact .inl agree.symm

/--
The two calls always leave what one of the serial orders leaves, exactly when the representation
tells nothing new of the keys outside the body.
-/
theorem serializable_iff_undisturbing (writes : TwoWrites V S) (cache : StateCache V S) :
    (∀ schedule, (writes.after cache schedule).optimistic = .returned →
      (writes.after cache schedule).writer = .returned →
        writes.Serializable cache ((writes.after cache schedule).cache.get writes.href)) ↔
      writes.Undisturbing (cache.get writes.href) := by
  constructor
  · intro always
    rw [Undisturbing]
    rcases isBody : writes.body with body | _
    · rcases isRep : writes.rep with rep | _
      · have between := always [.optimistic 0, .writer 0, .optimistic 0, .optimistic 0, .writer 0]
        simp only [after, Machine.run, perform, optimisticStep, writerStep, isBody, isRep,
          mergedBody, get_observe, get_storeRep, resulting_replace, if_pos, Serializable,
          optimisticFirst_eq, writerFirst_eq, afterOptimistic, afterWriter, true_implies] at between
        rcases between with last | first
        · exact undisturbing_of_sameRep last
        · exact (sameRep_writerFirst_iff _).mp first
      · trivial
    · trivial
  · intro undisturbing schedule returned otherReturned
    have progress := progress_after writes cache schedule
    rw [returned, otherReturned] at progress
    rw [Serializable, optimisticFirst_eq, writerFirst_eq]
    generalize (writes.after cache schedule).cache.get writes.href = cached at progress ⊢
    cases progress with
    | optimisticFirst => exact .inl (sameRep_refl _)
    | writerFirst => exact .inr (sameRep_refl _)
    | lost isDict =>
        refine .inr ?_
        rw [Undisturbing, isDict] at undisturbing
        rw [afterOptimistic_dict isDict, afterWriter]
        rcases isRep : writes.rep with rep | _
        · rw [isRep] at undisturbing
          exact (sameRep_writerFirst_iff _).mpr undisturbing
        · exact sameRep_refl _

/-- A representation that arrives between the two blocks is overwritten with an older one. -/
theorem representation_lost :
    ¬∀ (writes : TwoWrites ℕ Unit) (cache : StateCache ℕ Unit) (schedule : List WriterAction),
      (writes.after cache schedule).optimistic = .returned →
        (writes.after cache schedule).writer = .returned →
          writes.Serializable cache ((writes.after cache schedule).cache.get writes.href) := by
  intro always
  have lost := always
    ⟨none, "/a", .dict (OrderedDict.empty.set "x" 1), .dict (OrderedDict.empty.set "y" 2),
      "observe", true⟩ (.new ())
    [.optimistic 0, .writer 0, .optimistic 0, .optimistic 0, .writer 0] rfl rfl
  rw [Serializable] at lost
  revert lost
  decide

end TwoWrites

end SmartThingsLocal
