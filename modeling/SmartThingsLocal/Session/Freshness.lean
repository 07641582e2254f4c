import SmartThingsLocal.Session.Reader
import SmartThingsLocal.Foundation.SerialNumber

/-!
# Observe freshness

The Observe values accepted on one token, in order: each is serially newer than
the one before it unless more than 128 seconds lie between them, and so, over a
stretch without such a gap that advances by less than half the circle, newer
than every one before it. A stale or malformed notification changes nothing.
-/

namespace SmartThingsLocal

open Session ObserveRelations SerialNumber

/-- The Observe values accepted on a token with their receipt times, oldest first. -/
def acceptedOn (tok : ByteString) (trace : List Effect) : List (ℕ × ℚ) :=
  trace.filterMap fun
    | .accepted token (some value) receivedAt =>
        if token = tok then some (value, receivedAt) else none
    | _ => none

/-- A 24-bit value is newer than another. -/
abbrev NewerSequence (earlier later : ℕ) : Prop :=
  Newer observeSequenceModulus observeSequenceHalfRange earlier later

/-- Two values accepted one after the other. -/
def Consecutive (earlier later : ℕ × ℚ) : Prop :=
  later.2 - earlier.2 ≤ observeSequenceReset → NewerSequence earlier.1 later.1

/--
Every response on the token is a 2.05, so that the relation stays live, and other
threads leave the token's indices alone.
-/
def KeepsRelation (tok : ByteString) (state : ReaderState) : ReaderAction → Prop
  | .receive datagram => ∀ message acknowledgement,
      classifyCoapResponse datagram none none = .ok ⟨.response, message, acknowledgement⟩ →
        message.token = tok → message.code = 0x45
  | .advance _ => True
  | .others session => SameFor tok state.session.relations session.relations

structure FreshnessInvariant (tok : ByteString) (state : ReaderState) : Prop where
  success : ∀ message, state.point.message? = some message → message.token = tok →
    message.code = 0x45
  chain : (acceptedOn tok state.trace).IsChain Consecutive
  last : ∀ entry, (acceptedOn tok state.trace).getLast? = some entry →
    state.session.relations.sequences.get? tok = some entry

theorem acceptedOn_append (tok : ByteString) (before after : List Effect) :
    acceptedOn tok (before ++ after) = acceptedOn tok before ++ acceptedOn tok after :=
  List.filterMap_append

theorem consecutive_of_fresh {previous : ℕ × ℚ} {value : ℕ} {now : ℚ}
    (fresh : sequenceIsFresh (some previous) value now = true) :
    Consecutive previous (value, now) := by
  intro near
  simp only [sequenceIsFresh, if_neg (not_lt.mpr near), decide_eq_true_eq] at fresh
  exact fresh

/-- A step that accepts nothing on the token and leaves its Observe value keeps the invariant. -/
theorem FreshnessInvariant.extend {tok : ByteString} {state next : ReaderState}
    (invariant : FreshnessInvariant tok state)
    (success : ∀ message, next.point.message? = some message → message.token = tok →
      message.code = 0x45)
    (unaccepted : acceptedOn tok next.trace = acceptedOn tok state.trace)
    (sequences : next.session.relations.sequences.get? tok =
      state.session.relations.sequences.get? tok) : FreshnessInvariant tok next := by
  refine ⟨success, ?_, ?_⟩
  · rw [unaccepted]
    exact invariant.chain
  · rw [unaccepted, sequences]
    exact invariant.last

theorem freshness_step {tok : ByteString} {session next : Session} {point nextPoint : DispatchPoint}
    {trace effects : List Effect} {now : ℚ}
    (invariant : FreshnessInvariant tok ⟨session, point, trace⟩)
    (step : Advances session now point next nextPoint effects) :
    FreshnessInvariant tok ⟨next, nextPoint, trace ++ effects⟩ := by
  have quiet (effects : List Effect) (none : acceptedOn tok effects = []) :
      acceptedOn tok (trace ++ effects) = acceptedOn tok trace := by
    rw [acceptedOn_append, none, List.append_nil]
  cases step with
  | registry registry before after carried =>
      refine invariant.extend ?_ (quiet [] rfl) rfl
      intro message held
      apply invariant.success message
      rcases carried with nothing | same
      · rw [nothing] at held
        cases held
      · rwa [← same]
  | identified live => exact invariant.extend invariant.success (quiet [] rfl) rfl
  | @retired message href query failure =>
      have other : tok ≠ message.token := by
        intro same
        exact failure (invariant.success message rfl same.symm)
      refine invariant.extend (by simp [DispatchPoint.message?]) (quiet _ ?_) ?_
      · split_ifs <;> rfl
      · simp [retire, other]
  | ignored _ => exact invariant.extend (by simp [DispatchPoint.message?]) (quiet [] rfl) rfl
  | @sequenced message href query blockwise value success blocks observed fresh =>
      by_cases same : message.token = tok
      · have appended : acceptedOn tok (trace ++ [.accepted message.token (some value) now]) =
            acceptedOn tok trace ++ [(value, now)] := by
          rw [acceptedOn_append]
          simp [acceptedOn, same]
        rw [same] at fresh
        refine ⟨by simp [DispatchPoint.message?], ?_, ?_⟩
        · rw [appended]
          refine invariant.chain.append (List.isChain_singleton _) ?_
          intro previous isLast later isHead
          cases isHead
          rw [invariant.last previous isLast] at fresh
          exact consecutive_of_fresh fresh
        · intro entry isLast
          rw [appended, List.getLast?_concat] at isLast
          cases isLast
          simp [acceptSequence, same, fresh]
      · refine invariant.extend (by simp [DispatchPoint.message?]) (quiet _ ?_) ?_
        · simp [acceptedOn, same]
        · simp [acceptSequence, fresh, Ne.symm same]
  | promoted success blocks observed taken =>
      rcases acceptPlain_legacy taken with ⟨_, _, rfl⟩
      exact invariant.extend (by simp [DispatchPoint.message?]) (quiet _ rfl) rfl
  | onProbation success blocks observed taken =>
      rcases acceptPlain_probation taken with ⟨_, _, _, rfl⟩
      exact invariant.extend invariant.success (quiet _ rfl) rfl
  | confirmed _ =>
      refine invariant.extend (by simp [DispatchPoint.message?]) (quiet _ ?_) rfl
      split_ifs <;> rfl
  | lapsed _ =>
      refine invariant.extend (by simp [DispatchPoint.message?]) (quiet _ ?_) rfl
      split_ifs <;> rfl
  | queued =>
      refine invariant.extend (by simp [DispatchPoint.message?]) (quiet _ ?_) rfl
      unfold queueRefetch
      split_ifs <;> rfl
  | delivered =>
      refine invariant.extend (by simp [DispatchPoint.message?]) (quiet _ ?_) rfl
      unfold deliver
      split_ifs <;> rfl

theorem freshness_perform {tok : ByteString} (state : ReaderState) (action : ReaderAction)
    (invariant : FreshnessInvariant tok state) (keeps : KeepsRelation tok state action) :
    FreshnessInvariant tok (state.perform action) := by
  rcases state with ⟨session, point, trace⟩
  cases action with
  | receive datagram =>
      simp only [ReaderState.perform]
      split_ifs with idle
      · rcases receive_cases session datagram with ⟨_, acksOnly, classified⟩
        refine invariant.extend ?_ ?_ rfl
        · intro message taken same
          rcases classified message taken with ⟨acknowledgement, response⟩
          exact keeps message acknowledgement response same
        · have unaccepted : acceptedOn tok (receive session datagram).2 = [] := by
            apply List.filterMap_eq_nil_iff.mpr
            intro effect effectMem
            rcases acksOnly effect effectMem with ⟨sent, rfl⟩
            rfl
          rw [acceptedOn_append, unaccepted, List.append_nil]
      · exact invariant
  | advance now => exact freshness_step invariant (dispatchStep_advances session now point)
  | others other =>
      exact invariant.extend invariant.success rfl keeps.sequences

/-- A stretch of accepted values without a gap is a chain of newer values. -/
theorem newer_of_consecutive {segment : List (ℕ × ℚ)} (chain : segment.IsChain Consecutive)
    (noGap : segment.IsChain fun earlier later => later.2 - earlier.2 ≤ observeSequenceReset) :
    (segment.map Prod.fst).IsChain NewerSequence := by
  rw [List.isChain_map]
  induction segment with
  | nil => exact List.isChain_nil
  | cons first rest ih =>
      cases rest with
      | nil => exact List.isChain_singleton _
      | cons second rest =>
          rw [List.isChain_cons_cons] at chain noGap ⊢
          exact ⟨chain.1 noGap.1, ih chain.2 noGap.2⟩

/-! ### Notifications that change nothing -/

/-- An option that is repeated or longer than three bytes. -/
def OptionMalformed (options : List CoapOption) (number : ℕ) : Prop :=
  (optionValues options number).length > 1 ∨
    ∃ value ∈ optionValues options number, value.length > 3

/-- An Observe value that is not newer than the one recorded at most 128 seconds earlier. -/
def Stale (relations : ObserveRelations) (message : CoapMessage) (now : ℚ) : Prop :=
  ∃ value previous, optionValues message.options Coap.observe = [value] ∧
    relations.sequences.get? message.token = some previous ∧
    now - previous.2 ≤ observeSequenceReset ∧
    ¬NewerSequence previous.1 (ByteString.toNat value)

/-- A notification that the ordering must not let through. -/
def Discarded (relations : ObserveRelations) (message : CoapMessage) (now : ℚ) : Prop :=
  OptionMalformed message.options Coap.observe ∨ OptionMalformed message.options Coap.block2 ∨
    Stale relations message now

/-- One value that is too long, or more values than one. -/
theorem OptionMalformed.values {options : List CoapOption} {number : ℕ}
    (malformed : OptionMalformed options number) :
    (∃ value, optionValues options number = [value] ∧ value.length > 3) ∨
      ∃ first second rest, optionValues options number = first :: second :: rest := by
  rcases values : optionValues options number with _ | ⟨first, _ | ⟨second, rest⟩⟩
  · rcases malformed with repeated | ⟨value, valueMem, -⟩
    · rw [values, List.length_nil] at repeated
      omega
    · rw [values] at valueMem
      cases valueMem
  · rcases malformed with repeated | ⟨value, valueMem, long⟩
    · rw [values, List.length_singleton] at repeated
      omega
    · rw [values, List.mem_singleton] at valueMem
      exact .inl ⟨first, rfl, valueMem ▸ long⟩
  · exact .inr ⟨first, second, rest, rfl⟩

theorem blockwiseRefetch_of_malformed {options : List CoapOption}
    (malformed : OptionMalformed options Coap.block2) : blockwiseRefetch options = none := by
  rcases malformed.values with ⟨value, single, long⟩ | ⟨first, second, rest, repeated⟩
  · simp only [blockwiseRefetch, single, if_pos long]
  · simp only [blockwiseRefetch, repeated]

theorem observeValue_of_malformed {options : List CoapOption}
    (malformed : OptionMalformed options Coap.observe) : observeValue options = .malformed := by
  rcases malformed.values with ⟨value, single, long⟩ | ⟨first, second, rest, repeated⟩
  · simp only [observeValue, single, if_pos long]
  · simp only [observeValue, repeated]

theorem order_of_discarded {session : Session} {message : CoapMessage} {now : ℚ} (href : String)
    (query : Query) (success : message.code = 0x45)
    (discarded : Discarded session.relations message now) :
    dispatchStep session now (.order message href query) = (session, .idle, []) := by
  simp only [dispatchStep, success, ne_eq, not_true_eq_false, if_false]
  cases blocks : blockwiseRefetch message.options with
  | none => rfl
  | some blockwise =>
      rcases discarded with observe | block2 | ⟨value, previous, single, recorded, near, old⟩
      · simp only [orderNotification, observeValue_of_malformed observe]
      · rw [blockwiseRefetch_of_malformed block2] at blocks
        cases blocks
      · by_cases long : value.length > 3
        · have malformed : OptionMalformed message.options Coap.observe :=
            .inr ⟨value, by rw [single]; exact List.mem_singleton_self value, long⟩
          simp only [orderNotification, observeValue_of_malformed malformed]
        · have notFresh : sequenceIsFresh (some previous) (ByteString.toNat value) now = false := by
            simp only [sequenceIsFresh, if_neg (not_lt.mpr near), decide_eq_false_iff_not]
            exact old
          simp only [orderNotification, observeValue, single, if_neg long, acceptSequence, recorded,
            notFresh]
          rfl

/-- Dispatching it changes no relation index and no queued re-read, and only sends an ACK. -/
theorem dispatchCoap_of_discarded {session : Session} {datagram : ByteString}
    {message : CoapMessage} {acknowledgement : Option ByteString} {now : ℚ}
    (classified : classifyCoapResponse datagram none none =
      .ok ⟨.response, message, acknowledgement⟩)
    (success : message.code = 0x45) (discarded : Discarded session.relations message now) :
    (dispatchCoap session now datagram).1.relations = session.relations ∧
      (dispatchCoap session now datagram).1.refetch = session.refetch ∧
      ∀ effect ∈ (dispatchCoap session now datagram).2, ∃ sent, effect = .sent sent := by
  have acksOnly := (receive_cases session datagram).2.1
  have taken : (receive session datagram).1 = .resolve message := by
    simp [receive, classified]
  have run : (runDispatch now 5 session (.resolve message)).1.relations = session.relations ∧
      (runDispatch now 5 session (.resolve message)).1.refetch = session.refetch ∧
      (runDispatch now 5 session (.resolve message)).2.2 = [] := by
    rw [runDispatch_succ]
    generalize resolved : session.registry.resolve message = outcome
    rcases outcome with ⟨_ | request, registry⟩
    · simp only [dispatchStep, resolved]
      rw [runDispatch_succ]
      cases live : session.relations.tokens.get? message.token with
      | none => simp [dispatchStep, live]
      | some href =>
          simp only [dispatchStep, live]
          rw [runDispatch_succ, order_of_discarded href _ success discarded]
          simp
    · simp only [dispatchStep, resolved]
      rw [runDispatch_succ]
      simp [dispatchStep]
  simp only [dispatchCoap, taken]
  refine ⟨run.1, run.2.1, ?_⟩
  rw [run.2.2, List.append_nil]
  exact acksOnly

/--
Consecutive values accepted on a token at most 128 seconds apart are each newer than
the one before; over a stretch without a gap that advances by less than half the
circle no value is accepted twice and none follows a newer one; and a stale or
malformed notification changes no relation index and causes no delivery and no
re-read.
-/
theorem observe_freshness (tok : ByteString) {start : ReaderState} (idle : start.point = .idle)
    (untraced : start.trace = []) {actions : List ReaderAction}
    (keeps : Machine.Meets ReaderState.perform (KeepsRelation tok) actions start) :
    (acceptedOn tok (Machine.run ReaderState.perform actions start).trace).IsChain Consecutive ∧
    (∀ segment, segment <:+: acceptedOn tok (Machine.run ReaderState.perform actions start).trace →
      segment.IsChain (fun earlier later => later.2 - earlier.2 ≤ observeSequenceReset) →
      totalAdvance observeSequenceModulus (segment.map Prod.fst) < observeSequenceHalfRange →
      segment.Pairwise fun earlier later =>
        earlier.1 ≠ later.1 ∧ ¬NewerSequence later.1 earlier.1) ∧
    (∀ session datagram message acknowledgement now,
      classifyCoapResponse datagram none none = .ok ⟨.response, message, acknowledgement⟩ →
      message.code = 0x45 → Discarded session.relations message now →
      (dispatchCoap session now datagram).1.relations = session.relations ∧
        (dispatchCoap session now datagram).1.refetch = session.refetch ∧
        ∀ effect ∈ (dispatchCoap session now datagram).2, ∃ sent, effect = .sent sent) := by
  have initial : FreshnessInvariant tok start := by
    refine ⟨?_, ?_, ?_⟩
    · simp [idle, DispatchPoint.message?]
    · simp [untraced, acceptedOn]
    · simp [untraced, acceptedOn]
  have reached := Machine.invariant_run freshness_perform keeps initial
  refine ⟨reached.chain, ?_, ?_⟩
  · intro segment isInfix noGap total
    have chain := List.IsChain.infix reached.chain isInfix
    have newer := pairwise_newer (by decide) (newer_of_consecutive chain noGap) total
    rw [List.pairwise_map] at newer
    apply newer.imp
    intro earlier later isNewer
    exact ⟨isNewer.ne, isNewer.not_newer (by decide)⟩
  · intro session datagram message acknowledgement now classified success discarded
    exact dispatchCoap_of_discarded classified success discarded

/-- Dispatching a 2.05 message keeps every relation. -/
theorem keepsRelation_dispatched (tok : ByteString) {datagram : ByteString} {message : CoapMessage}
    {acknowledgement : Option ByteString} (now : ℚ) (state : ReaderState)
    (classified : classifyCoapResponse datagram none none =
      .ok ⟨.response, message, acknowledgement⟩) (success : message.code = 0x45) :
    Machine.Meets ReaderState.perform (KeepsRelation tok) (dispatched datagram now) state := by
  refine ⟨?_, trivial, trivial, trivial, trivial, trivial, trivial⟩
  intro other acknowledgement response _
  rw [classified] at response
  cases response
  exact success

/-- Values 5 and 7 are accepted on a token, and the 5 that arrives again in between is not. -/
theorem observe_freshness_example :
    let accepted := acceptedOn [7] (Machine.run ReaderState.perform
      (dispatched [0x51, 0x45, 0, 1, 7, 0x61, 5, 0xFF, 1] 0 ++
        dispatched [0x51, 0x45, 0, 2, 7, 0x61, 5, 0xFF, 1] 1 ++
        dispatched [0x51, 0x45, 0, 3, 7, 0x61, 7, 0xFF, 1] 2)
      ⟨.observing ⟨true, false, false, false, true⟩ [7] "/a" [], .idle, []⟩).trace
    accepted = [(5, 0), (7, 2)] ∧ accepted.IsChain Consecutive := by
  have message (mid sequence : UInt8) (now : ℚ) (state : ReaderState)
      (classified :
        classifyCoapResponse [0x51, 0x45, 0, mid, 7, 0x61, sequence, 0xFF, 1] none none =
        .ok ⟨.response, ⟨1, 0x45, mid.toNat, [7], [(6, [sequence])], [1]⟩, none⟩) :=
    keepsRelation_dispatched [7] now state classified rfl
  refine ⟨by decide +kernel, (observe_freshness [7] ?_ ?_ ?_).1⟩
  · rfl
  · rfl
  · apply Machine.meets_append.mpr
    refine ⟨?_, message 3 7 2 _ (by decide +kernel)⟩
    exact Machine.meets_append.mpr
      ⟨message 1 5 0 _ (by decide +kernel), message 2 5 1 _ (by decide +kernel)⟩

end SmartThingsLocal
