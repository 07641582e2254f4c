import Mathlib.Tactic

/-!
# Retransmission of a message

A sender repeats one datagram until a shared record of the exchange is settled or its attempts
are used up. In each attempt it looks at the record, sends at most once and waits; only an
attempt whose last look found the record open is followed by another one. The log of a sender
that keeps to these steps shows a bounded number of sends, all of the same datagram, and no send
after a look that found the record settled, as long as a settled record stays settled.
-/

namespace Retransmission

universe u v

variable {ρ : Type u} {δ : Type v}

/-- What a sender does that others can see: it looks at the record, or sends a datagram. -/
inductive Event (ρ : Type u) (δ : Type v)
  | looked (record : ρ)
  | sent (datagram : δ)

/-- The datagram of a send. -/
def Event.sent? : Event ρ δ → Option δ
  | .looked _ => none
  | .sent datagram => some datagram

/-- The event is a look that finds the record settled. -/
def Event.Settles (settled : ρ → Prop) : Event ρ δ → Prop
  | .looked record => settled record
  | .sent _ => False

/-- The datagrams of a log, in order. -/
def sends (log : List (Event ρ δ)) : List δ := log.filterMap Event.sent?

/-- Nothing is sent after a look that finds the record settled. -/
def Stops (settled : ρ → Prop) (log : List (Event ρ δ)) : Prop :=
  log.Pairwise fun earlier later => earlier.Settles settled → later.sent? = none

/-- Where a sender is. -/
inductive Stage
  | unsent (attempt : ℕ)
  | reading (attempt : ℕ)
  | unanswered (attempt : ℕ)
  | over
  deriving DecidableEq, Repr

/-- The attempt is one of the first `limit`. -/
def Stage.Within (limit : ℕ) : Stage → Prop
  | .unsent attempt | .reading attempt | .unanswered attempt => attempt < limit
  | .over => True

/-- The sends that are still possible. -/
def Stage.budget (limit : ℕ) : Stage → ℕ
  | .unsent attempt => limit - attempt
  | .reading attempt | .unanswered attempt => limit - (attempt + 1)
  | .over => 0

/-- The sender does not send before it has looked again. -/
def Stage.Quiet : Stage → Prop
  | .reading _ | .over => True
  | .unsent _ | .unanswered _ => False

/-- A step of a sender of `datagram`, with what it does and where it leads. -/
inductive Step (limit : ℕ) (settled : ρ → Prop) (record : ρ) (datagram : δ) :
    Stage → List (Event ρ δ) → Stage → Prop
  | idle (stage : Stage) : Step limit settled record datagram stage [] stage
  | skip (attempt : ℕ) :
      Step limit settled record datagram (.unsent attempt) [] (.reading attempt)
  | send (attempt : ℕ) : Step limit settled record datagram
      (.unsent attempt) [.sent datagram] (.reading attempt)
  | wake (attempt : ℕ) :
      Step limit settled record datagram (.unanswered attempt) [] (.reading attempt)
  | retry (attempt : ℕ) (notLast : attempt ≠ limit - 1) :
      Step limit settled record datagram (.unanswered attempt) [] (.unsent (attempt + 1))
  | giveUp (stage : Stage) : Step limit settled record datagram stage [] .over
  | lookOpen (attempt : ℕ) (isOpen : ¬ settled record) : Step limit settled record datagram
      (.unsent attempt) [.looked record] (.unsent attempt)
  | awaits (attempt : ℕ) (isOpen : ¬ settled record) : Step limit settled record datagram
      (.reading attempt) [.looked record] (.unanswered attempt)
  | found (attempt : ℕ) : Step limit settled record datagram
      (.unsent attempt) [.looked record] (.reading attempt)
  | foundAgain (attempt : ℕ) : Step limit settled record datagram
      (.reading attempt) [.looked record] (.reading attempt)
  | ends (stage : Stage) : Step limit settled record datagram stage [.looked record] .over

/-- What the log of a sender shows. -/
structure Repeats (limit : ℕ) (settled : ρ → Prop) (log : List (Event ρ δ)) : Prop where
  few : (sends log).length ≤ limit
  same : ∀ sent ∈ sends log, ∀ other ∈ sends log, sent = other
  stops : Stops settled log

/-- What a sender keeps: after a look that found the record settled it is quiet. -/
structure Keeps (limit : ℕ) (settled : ρ → Prop) (record : ρ) (datagram : δ) (stage : Stage)
    (log : List (Event ρ δ)) : Prop where
  within : stage.Within limit
  few : (sends log).length + stage.budget limit ≤ limit
  same : ∀ sent ∈ sends log, sent = datagram
  stops : Stops settled log
  quiet : (∃ event ∈ log, event.Settles settled) → settled record ∧ stage.Quiet

variable {limit : ℕ} {settled : ρ → Prop} {record later : ρ} {datagram : δ} {stage next : Stage}
  {log events : List (Event ρ δ)}

@[simp]
theorem sends_append (log events : List (Event ρ δ)) :
    sends (log ++ events) = sends log ++ sends events := by
  apply List.filterMap_append

@[simp] theorem sends_nil : sends ([] : List (Event ρ δ)) = [] := rfl

@[simp] theorem sends_looked (record : ρ) : sends [(.looked record : Event ρ δ)] = [] := rfl

@[simp] theorem sends_sent (datagram : δ) : sends [(.sent datagram : Event ρ δ)] = [datagram] := rfl

/-- An attempt that has not sent leaves its send unused. -/
theorem reading_budget_le (limit attempt : ℕ) :
    (Stage.reading attempt).budget limit ≤ (Stage.unsent attempt).budget limit :=
  Nat.sub_le_sub_left (Nat.le_succ attempt) limit

/-- Looks alone do not break the rule. -/
theorem Stops.append (stops : Stops settled log) (silent : ∀ event ∈ events, event.sent? = none) :
    Stops settled (log ++ events) := by
  apply List.pairwise_append.mpr
  refine ⟨stops, ?_, ?_⟩
  · apply List.pairwise_of_forall_mem_list
    intro earlier _ later laterMem _
    exact silent later laterMem
  · intro earlier _ later laterMem _
    exact silent later laterMem

/-- A send keeps the rule while no look has found the record settled. -/
theorem Stops.send (stops : Stops settled log) (unsettled : ∀ event ∈ log, ¬ event.Settles settled)
    (datagram : δ) : Stops settled (log ++ [.sent datagram]) := by
  apply List.pairwise_append.mpr
  refine ⟨stops, List.pairwise_singleton _ _, ?_⟩
  intro earlier earlierMem later _ settles
  exact absurd settles (unsettled earlier earlierMem)

/-- A sender that is done does nothing but look. -/
theorem Step.of_over (step : Step limit settled record datagram .over events next) :
    next = .over ∧ sends events = [] := by
  cases step <;> exact ⟨rfl, rfl⟩

theorem Keeps.start (positive : 0 < limit) (record : ρ) (datagram : δ) :
    Keeps limit settled record datagram (.unsent 0) [] := by
  refine ⟨positive, ?_, ?_, .nil, ?_⟩ <;> simp [Stage.budget]

/-- A sender that never sends. -/
theorem Keeps.never (record : ρ) (datagram : δ) :
    Keeps limit settled record datagram .over [] := by
  refine ⟨trivial, ?_, ?_, .nil, ?_⟩ <;> simp [Stage.budget]

/-- Steps that are neither a look nor a send. -/
theorem Keeps.silent (keeps : Keeps limit settled record datagram stage log)
    (within : next.Within limit) (spends : next.budget limit ≤ stage.budget limit)
    (quiet : stage.Quiet → next.Quiet) :
    Keeps limit settled record datagram next (log ++ []) := by
  rw [List.append_nil]
  refine ⟨within, ?_, keeps.same, keeps.stops, ?_⟩
  · exact (Nat.add_le_add_left spends _).trans keeps.few
  · intro seen
    exact (keeps.quiet seen).imp id quiet

/-- A look has to lead to a quiet stage only if it finds the record settled. -/
theorem Keeps.look (keeps : Keeps limit settled record datagram stage log)
    (within : next.Within limit) (spends : next.budget limit ≤ stage.budget limit)
    (quiet : settled record → next.Quiet) :
    Keeps limit settled record datagram next (log ++ [.looked record]) := by
  refine ⟨within, ?_, ?_, ?_, ?_⟩
  · rw [sends_append, sends_looked, List.append_nil]
    exact (Nat.add_le_add_left spends _).trans keeps.few
  · simpa using keeps.same
  · apply keeps.stops.append
    simp [Event.sent?]
  · rintro ⟨event, eventMem, settles⟩
    have isSettled : settled record := by
      rcases List.mem_append.mp eventMem with earlier | isLast
      · exact (keeps.quiet ⟨event, earlier, settles⟩).1
      · rwa [List.mem_singleton.mp isLast] at settles
    exact ⟨isSettled, quiet isSettled⟩

theorem Keeps.send {attempt : ℕ}
    (keeps : Keeps limit settled record datagram (.unsent attempt) log) :
    Keeps limit settled record datagram (.reading attempt) (log ++ [.sent datagram]) := by
  have unsettled : ∀ event ∈ log, ¬ event.Settles settled := by
    intro event eventMem settles
    exact (keeps.quiet ⟨event, eventMem, settles⟩).2
  have inside : attempt < limit := keeps.within
  refine ⟨inside, ?_, ?_, keeps.stops.send unsettled datagram, ?_⟩
  · have few := keeps.few
    simp only [Stage.budget, sends_append, sends_sent, List.length_append,
      List.length_singleton] at few ⊢
    omega
  · intro sent sentMem
    rw [sends_append, sends_sent] at sentMem
    rcases List.mem_append.mp sentMem with earlier | isLast
    · exact keeps.same sent earlier
    · exact List.mem_singleton.mp isLast
  · rintro ⟨event, eventMem, settles⟩
    rcases List.mem_append.mp eventMem with earlier | isLast
    · exact absurd settles (unsettled event earlier)
    · rw [List.mem_singleton.mp isLast] at settles
      exact settles.elim

/-- One step of a sender. -/
theorem Keeps.step (keeps : Keeps limit settled record datagram stage log)
    (step : Step limit settled record datagram stage events next) :
    Keeps limit settled record datagram next (log ++ events) := by
  have within := keeps.within
  cases step with
  | idle => exact keeps.silent within le_rfl id
  | skip attempt =>
      have reads : (Stage.reading attempt).Within limit := within
      exact keeps.silent reads (reading_budget_le limit attempt) fun _ => trivial
  | send attempt => exact keeps.send
  | wake attempt => exact keeps.silent within le_rfl fun _ => trivial
  | retry attempt notLast =>
      have another : attempt + 1 < limit := by
        simp only [Stage.Within] at within
        omega
      exact keeps.silent another le_rfl id
  | giveUp => exact keeps.silent trivial (Nat.zero_le _) fun _ => trivial
  | lookOpen attempt isOpen => exact keeps.look within le_rfl fun found => absurd found isOpen
  | awaits attempt isOpen => exact keeps.look within le_rfl fun found => absurd found isOpen
  | found attempt =>
      have reads : (Stage.reading attempt).Within limit := within
      exact keeps.look reads (reading_budget_le limit attempt) fun _ => trivial
  | foundAgain attempt => exact keeps.look within le_rfl fun _ => trivial
  | ends => exact keeps.look trivial (Nat.zero_le _) fun _ => trivial

/-- Others change the record, and a settled record stays settled. -/
theorem Keeps.observe (keeps : Keeps limit settled record datagram stage log)
    (stays : settled record → settled later) :
    Keeps limit settled later datagram stage log := by
  refine ⟨keeps.within, keeps.few, keeps.same, keeps.stops, ?_⟩
  intro seen
  exact (keeps.quiet seen).imp stays id

theorem Keeps.repeats (keeps : Keeps limit settled record datagram stage log) :
    Repeats limit settled log := by
  refine ⟨(Nat.le_add_right _ _).trans keeps.few, ?_, keeps.stops⟩
  intro sent sentMem other otherMem
  rw [keeps.same sent sentMem, keeps.same other otherMem]

end Retransmission
