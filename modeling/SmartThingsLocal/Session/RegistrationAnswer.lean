import SmartThingsLocal.Foundation.Logs
import SmartThingsLocal.Session.Freshness

/-!
# The answer to a registration

A delivery or queued re-read flagged as the registration's answer should be the
one caused by the first message accepted on the token. The flag is taken from
the Observe index alone when a message carries an Observe value, so it is right
as long as no such message is accepted after an optionless one.
-/

namespace SmartThingsLocal

open Session ObserveRelations

/-- A delivery or a queued re-read that is called the registration's answer. -/
def Effect.flagged : Effect → Bool
  | .observeDelivery delivery => delivery.registration
  | .queued _ _ registration => registration
  | _ => false

/-- The recording of a message in the relation indices. -/
def Effect.acceptance : Effect → Bool
  | .accepted _ _ _ => true
  | _ => false

/--
Whether the message recorded last is one of the token, and the effects that the
messages of the token caused so far.
-/
def attribution (tok : ByteString) (seen : Bool × List Effect) (effect : Effect) :
    Bool × List Effect :=
  match effect with
  | .accepted token _ _ =>
      if token = tok then (true, seen.2 ++ [effect]) else (false, seen.2)
  | _ => if seen.1 then (true, seen.2 ++ [effect]) else seen

def attributed (tok : ByteString) (trace : List Effect) : Bool × List Effect :=
  trace.foldl (attribution tok) (false, [])

/-- The effects caused by the messages of one token. -/
def caused (tok : ByteString) (trace : List Effect) : List Effect := (attributed tok trace).2

/-- How many messages were accepted. -/
def acceptedCount (trace : List Effect) : ℕ := trace.countP Effect.acceptance

/-- Nothing so far is called the registration's answer. -/
def Unflagged (trace : List Effect) : Prop := ∀ effect ∈ trace, effect.flagged = false

/-- Exactly one message is accepted, and nothing is called the registration's answer yet. -/
def FirstPending (trace : List Effect) : Prop := acceptedCount trace = 1 ∧ Unflagged trace

/-- What is called the registration's answer is the first to be and caused by the first message. -/
def OnlyFirstFlagged (trace : List Effect) : Prop :=
  ∀ before effect, before ++ [effect] <+: trace → effect.flagged = true → FirstPending before

/--
No well-formed message with an Observe value is ordered while an optionless message
of the token is recorded.
-/
def NotAfterOptionless (tok : ByteString) (state : ReaderState) : ReaderAction → Prop
  | .advance _ => ∀ message ∈ state.point.ordering?, message.token = tok →
      blockwiseRefetch message.options ≠ none → observeValue message.options ≠ .malformed →
        observeValue message.options ≠ .absent →
          state.session.relations.plainResponseMids.get? tok = none ∧
            tok ∉ state.session.relations.legacyTokens
  | _ => True

instance (tok : ByteString) (state : ReaderState) :
    ∀ action, Decidable (NotAfterOptionless tok state action)
  | .advance _ => inferInstanceAs (Decidable (∀ message ∈ state.point.ordering?, _))
  | .receive _ => inferInstanceAs (Decidable True)
  | .others _ => inferInstanceAs (Decidable True)

/-- A token on which nothing is recorded yet. -/
structure FreshToken (tok : ByteString) (relations : ObserveRelations) : Prop where
  sequences : relations.sequences.get? tok = none
  plain : relations.plainResponseMids.get? tok = none
  legacy : tok ∉ relations.legacyTokens

/-! ### Effects of a token -/

theorem acceptedCount_concat (trace : List Effect) (effect : Effect) :
    acceptedCount (trace ++ [effect]) =
      acceptedCount trace + if effect.acceptance then 1 else 0 := by
  simp [acceptedCount, List.countP_append, List.countP_cons]

/-- One more effect may be flagged right after the first accepted message. -/
theorem OnlyFirstFlagged.concat {trace : List Effect} {effect : Effect}
    (flags : OnlyFirstFlagged trace) (first : effect.flagged = true → FirstPending trace) :
    OnlyFirstFlagged (trace ++ [effect]) := by
  intro before other isPrefix flagged
  rcases List.concat_prefix_concat isPrefix with ⟨rfl, rfl⟩ | earlier
  · exact first flagged
  · exact flags before other earlier flagged

/-- Before anything is accepted nothing is flagged. -/
theorem OnlyFirstFlagged.unflagged_of_none {trace : List Effect} (flags : OnlyFirstFlagged trace)
    (none : acceptedCount trace = 0) : Unflagged trace := by
  intro effect effectMem
  by_contra flagged
  rcases List.append_of_mem effectMem with ⟨before, after, rfl⟩
  have first := flags before effect ⟨after, by simp⟩ (by simpa using flagged)
  simp only [acceptedCount, List.countP_append] at none
  have counted : before.countP Effect.acceptance = 1 := first.1
  omega

theorem FirstPending.of_accepted {trace : List Effect} {effect : Effect}
    (flags : OnlyFirstFlagged trace) (none : acceptedCount trace = 0)
    (acceptance : effect.acceptance = true) (unflagged : effect.flagged = false) :
    FirstPending (trace ++ [effect]) := by
  refine ⟨by simp [acceptedCount_concat, none, acceptance], ?_⟩
  intro other otherMem
  rcases List.mem_append.mp otherMem with earlier | last
  · exact flags.unflagged_of_none none other earlier
  · rwa [List.mem_singleton.mp last]

theorem FirstPending.concat {trace : List Effect} {effect : Effect} (pending : FirstPending trace)
    (unaccepted : effect.acceptance = false) (unflagged : effect.flagged = false) :
    FirstPending (trace ++ [effect]) := by
  refine ⟨by simp [acceptedCount_concat, pending.1, unaccepted], ?_⟩
  intro other otherMem
  rcases List.mem_append.mp otherMem with earlier | last
  · exact pending.2 other earlier
  · rwa [List.mem_singleton.mp last]

theorem attributed_concat (tok : ByteString) (trace : List Effect) (effect : Effect) :
    attributed tok (trace ++ [effect]) = attribution tok (attributed tok trace) effect := by
  simp [attributed]

theorem attribution_of_unaccepted (tok : ByteString) (seen : Bool × List Effect) {effect : Effect}
    (unaccepted : effect.acceptance = false) :
    attribution tok seen effect = if seen.1 then (true, seen.2 ++ [effect]) else seen := by
  cases effect <;> first | rfl | cases unaccepted

/-! ### The invariant -/

/-- A point at which the reader is about to call a notification the registration's answer. -/
def DispatchPoint.Flagging : DispatchPoint → Prop
  | .probation _ _ _ _ => True
  | .settled delivery _ => delivery.registration = true
  | _ => False

/-- What the reader has done on a token, as far as the registration's answer is concerned. -/
structure Answered (tok : ByteString) (relations : ObserveRelations) (flagging : Prop)
    (seen : Bool × List Effect) : Prop where
  fresh : FreshToken tok relations → acceptedCount seen.2 = 0
  pending : flagging → seen.1 = true → FirstPending seen.2
  flags : OnlyFirstFlagged seen.2

variable {tok : ByteString} {relations after : ObserveRelations} {flagging next : Prop}
  {seen : Bool × List Effect}

/-- Other indices of the token, as long as they are not fresh again, and a weaker pending flag. -/
theorem Answered.weaken (answered : Answered tok relations flagging seen)
    (fresh : FreshToken tok after → FreshToken tok relations) (weaker : next → flagging) :
    Answered tok after next seen :=
  ⟨fun isFresh => answered.fresh (fresh isFresh), fun isNext => answered.pending (weaker isNext),
    answered.flags⟩

theorem Answered.unaccepted {effect : Effect} (answered : Answered tok relations flagging seen)
    (unaccepted : effect.acceptance = false) (flagged : effect.flagged = true → flagging)
    (weaker : next → flagging ∧ effect.flagged = false) :
    Answered tok relations next (attribution tok seen effect) := by
  rw [attribution_of_unaccepted tok seen unaccepted]
  by_cases own : seen.1 = true
  · rw [if_pos own]
    refine ⟨?_, ?_, ?_⟩
    · intro fresh
      simp [acceptedCount_concat, answered.fresh fresh, unaccepted]
    · intro isNext _
      exact (answered.pending (weaker isNext).1 own).concat unaccepted (weaker isNext).2
    · apply answered.flags.concat
      intro isFlagged
      exact answered.pending (flagged isFlagged) own
  · rw [if_neg own]
    exact answered.weaken id fun isNext => (weaker isNext).1

/-- Effects that accept nothing and are not flagged change nothing. -/
theorem Answered.unaccepted_all {trace effects : List Effect}
    (answered : Answered tok relations flagging (attributed tok trace))
    (plain : ∀ effect ∈ effects, effect.acceptance = false ∧ effect.flagged = false) :
    Answered tok relations flagging (attributed tok (trace ++ effects)) := by
  induction effects generalizing trace with
  | nil =>
      rw [List.append_nil]
      exact answered
  | cons effect effects ih =>
      rcases List.forall_mem_cons.mp plain with ⟨⟨unaccepted, unflagged⟩, rest⟩
      have whole : Answered tok relations flagging
          (attributed tok (trace ++ [effect] ++ effects)) := by
        apply ih _ rest
        rw [attributed_concat]
        exact answered.unaccepted unaccepted (by simp [unflagged]) fun isNext => ⟨isNext, unflagged⟩
      rwa [List.append_assoc] at whole

theorem Answered.accepted {token : ByteString} {sequence : Option ℕ} {now : ℚ}
    (answered : Answered tok relations flagging seen)
    (other : token ≠ tok → FreshToken tok after → FreshToken tok relations)
    (own : token = tok → ¬FreshToken tok after ∧ (next → FreshToken tok relations)) :
    Answered tok after next (attribution tok seen (.accepted token sequence now)) := by
  by_cases same : token = tok
  · rw [attribution, if_pos same]
    refine ⟨fun isFresh => absurd isFresh (own same).1, ?_, ?_⟩
    · intro isNext _
      exact .of_accepted answered.flags (answered.fresh ((own same).2 isNext)) rfl rfl
    · apply answered.flags.concat
      simp [Effect.flagged]
  · rw [attribution, if_neg same]
    exact ⟨fun isFresh => answered.fresh (other same isFresh), by simp, answered.flags⟩

structure RegistrationInvariant (tok : ByteString) (state : ReaderState) : Prop where
  success : ∀ message, state.point.message? = some message → message.token = tok →
    message.code = 0x45
  answered : Answered tok state.session.relations state.point.Flagging (attributed tok state.trace)

/-- Retiring another token does not make a token fresh. -/
theorem FreshToken.of_retire {other : ByteString} (distinct : tok ≠ other)
    (fresh : FreshToken tok (relations.retire other)) : FreshToken tok relations where
  sequences := by simpa [retire, distinct] using fresh.sequences
  plain := by simpa [retire, distinct] using fresh.plain
  legacy := by simpa [retire, distinct] using fresh.legacy

/-- Neither does recording an Observe value for another token. -/
theorem FreshToken.of_acceptSequence {other : ByteString} {value : ℕ} {now : ℚ}
    (distinct : tok ≠ other)
    (fresh : FreshToken tok (relations.acceptSequence other value now).2) :
    FreshToken tok relations := by
  unfold acceptSequence at fresh
  dsimp only at fresh
  split_ifs at fresh
  · rcases fresh with ⟨sequences, plain, legacy⟩
    refine ⟨?_, ?_, ?_⟩
    · simpa [distinct] using sequences
    · simpa [distinct] using plain
    · simpa [distinct] using legacy
  · exact fresh

theorem registration_step {session next : Session} {point nextPoint : DispatchPoint}
    {trace effects : List Effect} {now : ℚ}
    (invariant : RegistrationInvariant tok ⟨session, point, trace⟩)
    (condition : NotAfterOptionless tok ⟨session, point, trace⟩ (.advance now))
    (step : Advances session now point next nextPoint effects) :
    RegistrationInvariant tok ⟨next, nextPoint, trace ++ effects⟩ := by
  have answered : Answered tok session.relations point.Flagging (attributed tok trace) :=
    invariant.answered
  cases step with
  | registry registry before after carried =>
      rw [List.append_nil]
      refine ⟨?_, answered.weaken id ?_⟩
      · intro message held
        apply invariant.success message
        rcases carried with nothing | same
        · rw [nothing] at held
          cases held
        · rwa [← same]
      · cases nextPoint <;> simp_all [DispatchPoint.Flagging, DispatchPoint.Unordered]
  | identified live =>
      rw [List.append_nil]
      exact ⟨invariant.success, answered.weaken id False.elim⟩
  | @retired message href query failure =>
      have other : tok ≠ message.token := by
        intro same
        exact failure (invariant.success message rfl same.symm)
      refine ⟨by simp [DispatchPoint.message?], ?_⟩
      have retired : Answered tok (session.relations.retire message.token) False
          (attributed tok trace) := by
        apply answered.weaken _ False.elim
        intro fresh
        exact .of_retire other fresh
      apply retired.unaccepted_all
      split_ifs <;> simp [Effect.acceptance, Effect.flagged]
  | ignored _ =>
      rw [List.append_nil]
      exact ⟨by simp [DispatchPoint.message?], answered.weaken id False.elim⟩
  | @sequenced message href query blockwise value success blocks observed fresh =>
      refine ⟨by simp [DispatchPoint.message?], ?_⟩
      dsimp only
      rw [attributed_concat]
      apply answered.accepted
      · intro other isFresh
        exact .of_acceptSequence (Ne.symm other) isFresh
      · intro same
        have plain := condition message rfl same (by simp [blocks]) (by simp [observed])
          (by simp [observed])
        refine ⟨?_, ?_⟩
        · intro isFresh
          have recorded := isFresh.sequences
          simp [acceptSequence, same, same ▸ fresh] at recorded
        · intro registration
          simp only [DispatchPoint.Flagging, observation, Option.isNone_iff_eq_none, same]
            at registration
          exact ⟨registration, plain.1, plain.2⟩
  | @promoted message href query blockwise relations success blocks observed taken =>
      rcases acceptPlain_legacy taken with ⟨known, _, rfl⟩
      refine ⟨by simp [DispatchPoint.message?], ?_⟩
      dsimp only
      rw [attributed_concat]
      apply answered.accepted
      · intro other isFresh
        exact ⟨isFresh.sequences, isFresh.plain, fun legacy =>
          isFresh.legacy (Finset.mem_insert_of_mem legacy)⟩
      · intro same
        refine ⟨?_, ?_⟩
        · intro isFresh
          exact isFresh.legacy (by simp [same])
        · intro registration
          cases registration
  | @onProbation message href query blockwise relations success blocks observed taken =>
      rcases acceptPlain_probation taken with ⟨unrecorded, notLegacy, unsequenced, rfl⟩
      refine ⟨invariant.success, ?_⟩
      dsimp only
      rw [attributed_concat]
      apply answered.accepted
      · intro other isFresh
        exact ⟨isFresh.sequences, by simpa [Ne.symm other] using isFresh.plain, isFresh.legacy⟩
      · intro same
        rw [same] at unrecorded notLegacy unsequenced
        refine ⟨?_, ?_⟩
        · intro isFresh
          have recorded := isFresh.plain
          simp [same] at recorded
        · intro _
          exact ⟨by simpa [OrderedDict.contains] using unsequenced, unrecorded, notLegacy⟩
  | @confirmed message href query blockwise still =>
      refine ⟨by simp [DispatchPoint.message?],
        (answered.weaken id fun _ => trivial).unaccepted_all ?_⟩
      split_ifs <;> simp [Effect.acceptance, Effect.flagged]
  | lapsed _ =>
      have idle := answered.weaken id False.elim
      refine ⟨by simp [DispatchPoint.message?], idle.unaccepted_all ?_⟩
      split_ifs <;> simp [Effect.acceptance, Effect.flagged]
  | @queued delivery =>
      refine ⟨by simp [DispatchPoint.message?], ?_⟩
      dsimp only [queueRefetch]
      split_ifs
      · rw [List.append_nil]
        exact answered.weaken id False.elim
      · rw [attributed_concat]
        exact answered.unaccepted rfl id False.elim
  | @delivered delivery =>
      refine ⟨by simp [DispatchPoint.message?], ?_⟩
      dsimp only [deliver]
      have idle := answered.weaken id False.elim
      split_ifs
      · rw [attributed_concat]
        exact answered.unaccepted rfl id False.elim
      all_goals exact idle.unaccepted_all (by simp [Effect.acceptance, Effect.flagged])

theorem registration_perform {tok : ByteString} (state : ReaderState) (action : ReaderAction)
    (invariant : RegistrationInvariant tok state)
    (condition : KeepsRelation tok state action ∧ NotAfterOptionless tok state action) :
    RegistrationInvariant tok (state.perform action) := by
  rcases state with ⟨session, point, trace⟩
  have answered : Answered tok session.relations point.Flagging (attributed tok trace) :=
    invariant.answered
  cases action with
  | receive datagram =>
      simp only [ReaderState.perform]
      split_ifs with idle
      · rcases receive_cases session datagram with ⟨unordered, acksOnly, classified⟩
        refine ⟨?_, ?_⟩
        · intro message taken same
          rcases classified message taken with ⟨acknowledgement, response⟩
          exact condition.1 message acknowledgement response same
        · have waiting : Answered tok session.relations (receive session datagram).1.Flagging
              (attributed tok trace) := by
            apply answered.weaken id
            generalize (receive session datagram).1 = taken at unordered
            cases taken <;> simp_all [DispatchPoint.Flagging, DispatchPoint.Unordered]
          apply waiting.unaccepted_all
          intro effect effectMem
          rcases acksOnly effect effectMem with ⟨sent, rfl⟩
          exact ⟨rfl, rfl⟩
      · exact invariant
  | advance now =>
      exact registration_step invariant condition.2 (dispatchStep_advances session now point)
  | others other =>
      refine ⟨invariant.success, answered.weaken ?_ id⟩
      intro fresh
      have same := condition.1
      exact ⟨same.sequences ▸ fresh.sequences, same.plain ▸ fresh.plain,
        fun legacy => fresh.legacy (same.legacy.mpr legacy)⟩

/--
What is called the answer to a registration is called so once, for the first message
accepted on the token, in every run in which no message with an Observe value is
ordered while an optionless one is recorded.
-/
theorem registration_answered_once (tok : ByteString) {start : ReaderState}
    (idle : start.point = .idle) (untraced : start.trace = []) {actions : List ReaderAction}
    (meets : Machine.Meets ReaderState.perform
      (fun state action => KeepsRelation tok state action ∧ NotAfterOptionless tok state action)
      actions start) :
    OnlyFirstFlagged (caused tok (Machine.run ReaderState.perform actions start).trace) := by
  have initial : RegistrationInvariant tok start := by
    refine ⟨?_, ?_, ?_, ?_⟩
    · simp [idle, DispatchPoint.message?]
    · simp [untraced, attributed, acceptedCount]
    · simp [idle, DispatchPoint.Flagging]
    · intro before effect isPrefix
      simp [untraced, attributed] at isPrefix
  exact (Machine.invariant_run registration_perform meets initial).answered.flags

/-- A relation with a rich callback that has received nothing yet. -/
def registered : ReaderState where
  session := .observing ⟨true, false, false, false, true⟩ [7] "/a" []
  point := .idle
  trace := []

/-- Two messages with Observe values: the first is the answer, the second is not. -/
theorem registration_answered_once_example :
    let trace := (Machine.run ReaderState.perform
      (dispatched [0x51, 0x45, 0, 1, 7, 0x61, 5, 0xFF, 1] 0 ++
        dispatched [0x51, 0x45, 0, 2, 7, 0x61, 6, 0xFF, 2] 1) registered).trace
    (caused [7] trace).map Effect.flagged = [false, true, false, false] ∧
      OnlyFirstFlagged (caused [7] trace) := by
  have first : classifyCoapResponse [0x51, 0x45, 0, 1, 7, 0x61, 5, 0xFF, 1] none none =
      .ok ⟨.response, ⟨1, 0x45, 1, [7], [(6, [5])], [1]⟩, none⟩ := by decide +kernel
  have second : classifyCoapResponse [0x51, 0x45, 0, 2, 7, 0x61, 6, 0xFF, 2] none none =
      .ok ⟨.response, ⟨1, 0x45, 2, [7], [(6, [6])], [2]⟩, none⟩ := by decide +kernel
  have keeps := Machine.meets_append.mpr ⟨keepsRelation_dispatched [7] 0 registered first rfl,
    keepsRelation_dispatched [7] 1 _ second rfl⟩
  exact ⟨by decide +kernel, registration_answered_once [7] rfl rfl
    (Machine.meets_and keeps (by decide +kernel))⟩

/-- An optionless answer and then a message with an Observe value: both are called the answer. -/
theorem registration_answered_twice :
    let actions := dispatched [0x51, 0x45, 0, 1, 7, 0xFF, 1] 0 ++
      dispatched [0x51, 0x45, 0, 2, 7, 0x61, 5, 0xFF, 2] 1
    Machine.Meets ReaderState.perform (KeepsRelation [7]) actions registered ∧
      ¬OnlyFirstFlagged
        (caused [7] (Machine.run ReaderState.perform actions registered).trace) := by
  have first : classifyCoapResponse [0x51, 0x45, 0, 1, 7, 0xFF, 1] none none =
      .ok ⟨.response, ⟨1, 0x45, 1, [7], [], [1]⟩, none⟩ := by decide +kernel
  have second : classifyCoapResponse [0x51, 0x45, 0, 2, 7, 0x61, 5, 0xFF, 2] none none =
      .ok ⟨.response, ⟨1, 0x45, 2, [7], [(6, [5])], [2]⟩, none⟩ := by decide +kernel
  refine ⟨Machine.meets_append.mpr ⟨keepsRelation_dispatched [7] 0 _ first rfl,
    keepsRelation_dispatched [7] 1 _ second rfl⟩, ?_⟩
  intro flags
  have trace : caused [7] (Machine.run ReaderState.perform
      (dispatched [0x51, 0x45, 0, 1, 7, 0xFF, 1] 0 ++
        dispatched [0x51, 0x45, 0, 2, 7, 0x61, 5, 0xFF, 2] 1) registered).trace =
      [.accepted [7] none 0, .observeDelivery ⟨"/a", [1], [], true, none, false⟩,
        .accepted [7] (some 5) 1] ++ [.observeDelivery ⟨"/a", [2], [], true, some 5, false⟩] := by
    decide +kernel
  rw [trace] at flags
  have once := (flags _ _ List.prefix_rfl rfl).1
  revert once
  decide

end SmartThingsLocal
