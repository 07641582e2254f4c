import Mathlib.Tactic

/-!
# Threads on a shared state

Any number of threads on one shared state, moving one at a time in any order. An
invariant that says something of the shared state and something of each thread holds
in every run if a thread keeps its own part, and whatever a thread guarantees of its
changes leaves the parts of the others true.
-/

/-- The shared state and where each thread is. -/
structure Threads (θ σ π : Type) where
  shared : σ
  point : θ → π

namespace Threads

variable {θ σ π ι : Type} [DecidableEq θ]

/-- One thread moves on an input. -/
def perform (step : θ → ι → σ → π → σ × π) (action : θ × ι) (state : Threads θ σ π) :
    Threads θ σ π :=
  let next := step action.1 action.2 state.shared (state.point action.1)
  ⟨next.1, Function.update state.point action.1 next.2⟩

/-- An invariant of the shared state and of every thread. -/
def Holds (common : σ → Prop) (own : θ → σ → π → Prop) (state : Threads θ σ π) : Prop :=
  common state.shared ∧ ∀ thread, own thread state.shared (state.point thread)

/-- The proof rule of rely and guarantee. -/
structure Noninterfering (step : θ → ι → σ → π → σ × π) (common : σ → Prop)
    (own : θ → σ → π → Prop) (guarantee : θ → σ → σ → Prop) : Prop where
  keeps : ∀ thread input shared point, common shared → own thread shared point →
    common (step thread input shared point).1 ∧
      own thread (step thread input shared point).1 (step thread input shared point).2
  guarantees : ∀ thread input shared point, common shared → own thread shared point →
    guarantee thread shared (step thread input shared point).1
  stable : ∀ {thread other shared after point}, other ≠ thread → guarantee thread shared after →
    common shared → own other shared point → own other after point

variable {step : θ → ι → σ → π → σ × π} {common : σ → Prop} {own : θ → σ → π → Prop}
  {guarantee : θ → σ → σ → Prop}

theorem Noninterfering.perform (rule : Noninterfering step common own guarantee)
    (state : Threads θ σ π) (action : θ × ι) (holds : state.Holds common own) :
    (Threads.perform step action state).Holds common own := by
  rcases holds with ⟨isCommon, isOwn⟩
  rcases action with ⟨thread, input⟩
  have kept := rule.keeps thread input state.shared (state.point thread) isCommon (isOwn thread)
  refine ⟨kept.1, ?_⟩
  intro other
  by_cases same : other = thread
  · subst same
    simpa [Threads.perform] using kept.2
  · have promised := rule.guarantees thread input state.shared (state.point thread) isCommon
      (isOwn thread)
    simpa [Threads.perform, same] using rule.stable same promised isCommon (isOwn other)

/-! ### Locks -/

/-- What a thread can do to a lock: leave it, take it when it is free, or release it. -/
def LockMoves (thread : θ) (before after : Option θ) : Prop :=
  after = before ∨ before = none ∧ after = some thread ∨ before = some thread ∧ after = none

omit [DecidableEq θ] in
theorem LockMoves.refl (thread : θ) (lock : Option θ) : LockMoves thread lock lock := .inl rfl

omit [DecidableEq θ] in
/-- A thread keeps its lock while another one moves. -/
theorem LockMoves.kept {thread other : θ} {before after : Option θ}
    (moves : LockMoves thread before after)
    (apart : other ≠ thread) (held : before = some other) : after = some other := by
  rcases moves with same | ⟨free, _⟩ | ⟨own, _⟩
  · rw [same, held]
  · rw [held] at free
    cases free
  · rw [held] at own
    exact absurd (Option.some.inj own) apart

end Threads
