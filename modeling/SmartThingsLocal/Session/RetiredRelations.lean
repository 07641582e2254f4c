import SmartThingsLocal.Session.Reader

/-!
# Retired Observe relations

Every index of an Observe relation should only hold tokens that are registered,
and a notification should only be delivered for a token that is. The reader looks
a token up in one block and records its notification in the next, without looking
again, so both hold as long as no token is retired between the two.
-/

namespace SmartThingsLocal

open Session

namespace ObserveRelations

/-- One of the indices beside the registration holds the token. -/
def Indexed (relations : ObserveRelations) (tok : ByteString) : Prop :=
  relations.sequences.contains tok = true ∨ relations.plainResponseMids.contains tok = true ∨
    tok ∈ relations.legacyTokens ∨ relations.legacyMids.contains tok = true

/-- The indices hold registered tokens only. -/
def IndexedLive (relations : ObserveRelations) : Prop :=
  ∀ tok, relations.Indexed tok → relations.tokens.contains tok = true

variable {relations after : ObserveRelations} {tok : ByteString} {mid : ℕ}

theorem IndexedLive.retire (live : relations.IndexedLive) (tok : ByteString) :
    (relations.retire tok).IndexedLive := by
  intro other indexed
  by_cases same : other = tok
  · simp [Indexed, ObserveRelations.retire, OrderedDict.contains, same] at indexed
  · have registered := live other
    simp only [Indexed, ObserveRelations.retire, OrderedDict.contains, OrderedDict.get?_erase,
      Finset.mem_erase, ne_eq, same, not_false_eq_true, true_and, if_false]
      at indexed registered ⊢
    exact registered indexed

theorem IndexedLive.register (live : relations.IndexedLive) (tok : ByteString) (href : String)
    (query : Query) : (relations.register tok href query).IndexedLive := by
  intro other indexed
  have registered := live other indexed
  simp only [ObserveRelations.register, OrderedDict.contains, OrderedDict.get?_set] at registered ⊢
  split_ifs
  · rfl
  · exact registered

/-- A change that puts at most one token, a registered one, into the indices. -/
theorem IndexedLive.record (live : relations.IndexedLive) (tokens : after.tokens = relations.tokens)
    (registered : relations.tokens.contains tok = true)
    (others : ∀ other, other ≠ tok → after.Indexed other → relations.Indexed other) :
    after.IndexedLive := by
  intro other indexed
  rw [tokens]
  by_cases same : other = tok
  · rwa [same]
  · exact live other (others other same indexed)

theorem IndexedLive.acceptSequence (live : relations.IndexedLive)
    (registered : relations.tokens.contains tok = true) (value : ℕ) (now : ℚ) :
    (relations.acceptSequence tok value now).2.IndexedLive := by
  simp only [ObserveRelations.acceptSequence]
  split_ifs
  · refine live.record ?_ registered ?_
    · rfl
    · intro other distinct indexed
      simpa [Indexed, OrderedDict.contains, distinct] using indexed
  · exact live

theorem IndexedLive.acceptPlain_legacy (live : relations.IndexedLive)
    (registered : relations.tokens.contains tok = true)
    (taken : relations.acceptPlain tok mid = (.legacy, after)) : after.IndexedLive := by
  rcases ObserveRelations.acceptPlain_legacy taken with ⟨_, _, rfl⟩
  refine live.record ?_ registered ?_
  · rfl
  · intro other distinct indexed
    simpa [Indexed, OrderedDict.contains, distinct] using indexed

theorem IndexedLive.acceptPlain_probation (live : relations.IndexedLive)
    (registered : relations.tokens.contains tok = true)
    (taken : relations.acceptPlain tok mid = (.probation, after)) : after.IndexedLive := by
  rcases ObserveRelations.acceptPlain_probation taken with ⟨_, _, _, rfl⟩
  refine live.record ?_ registered ?_
  · rfl
  · intro other distinct indexed
    simpa [Indexed, OrderedDict.contains, distinct] using indexed

end ObserveRelations

/-- A notification that is delivered to a callback or queued for a re-read. -/
def Effect.delivers : Effect → Bool
  | .observeDelivery _ | .notification _ _ | .legacyNotification _ _ | .queued _ _ _ => true
  | _ => false

/-- A notification that is queued for a re-read. -/
def Effect.requeues : Effect → Bool
  | .queued _ _ _ => true
  | _ => false

/--
A delivery, whether its token was registered at the last block the reader ran under the
state lock, and whether it was when the delivery was made.
-/
structure TokenDelivery where
  effect : Effect
  liveWhenRecorded : Bool
  liveWhenDelivered : Bool
  deriving DecidableEq, Repr

/--
The session, where its reader is, the token of the notification in the reader's hands,
whether that token was registered at the reader's last block under the state lock, and
what was delivered so far.
-/
structure RelationState where
  session : Session
  point : DispatchPoint
  token : ByteString
  live : Bool
  deliveries : List TokenDelivery

/-- A datagram arrives, the reader moves on, or a block of another thread changes the relations. -/
inductive RelationAction
  | receive (datagram : ByteString)
  | advance (now : ℚ)
  | subscribe (tok : ByteString) (href : String) (query : Query)
  | retire (tok : ByteString)
  | clear
  | others (session : Session)

/-- The notification that is being ordered or rechecked, if the reader is at such a block. -/
def DispatchPoint.recording? : DispatchPoint → Option CoapMessage
  | .order message _ _ | .probation message _ _ _ => some message
  | _ => none

namespace RelationState

def start (callbacks : Callbacks) : RelationState :=
  ⟨Session.started callbacks 0 0, .idle, [], false, []⟩

/-- What `_clear_observe_relations` leaves. -/
def cleared : ObserveRelations where
  tokens := .empty
  queries := .empty
  plainResponseMids := .empty
  legacyTokens := ∅
  legacyMids := .empty
  sequences := .empty

/-- A new relation gets a token that is not registered. -/
def perform (action : RelationAction) (state : RelationState) : RelationState :=
  let relations := state.session.relations
  match action with
  | .receive datagram =>
      if state.point = .idle then
        { state with point := (Session.receive state.session datagram).1 }
      else state
  | .advance now =>
      let (session, point, effects) := dispatchStep state.session now state.point
      let registered := relations.tokens.contains state.token
      { session, point
        token := (state.point.recording?.map CoapMessage.token).getD state.token
        live := (state.point.recording?.map fun message =>
          relations.tokens.contains message.token).getD state.live
        deliveries := state.deliveries ++
          (effects.filter Effect.delivers).map fun effect => ⟨effect, state.live, registered⟩ }
  | .subscribe tok href query =>
      if relations.tokens.contains tok then state
      else { state with
        session := { state.session with relations := relations.register tok href query } }
  | .retire tok =>
      { state with session := { state.session with relations := relations.retire tok } }
  | .clear => { state with session := { state.session with relations := cleared } }
  | .others session => { state with session := { session with relations } }

end RelationState

/-- The reader only records a well-formed 2.05 notification while its token is registered. -/
def RecordsLive (state : RelationState) : RelationAction → Prop
  | .advance _ => ∀ message ∈ state.point.ordering?, message.code = 0x45 →
      blockwiseRefetch message.options ≠ none → observeValue message.options ≠ .malformed →
        state.session.relations.tokens.contains message.token = true
  | _ => True

instance (state : RelationState) : ∀ action, Decidable (RecordsLive state action)
  | .advance _ => inferInstanceAs (Decidable (∀ message ∈ state.point.ordering?, _))
  | .receive _ | .subscribe _ _ _ | .retire _ | .clear | .others _ =>
      inferInstanceAs (Decidable True)

/-- The notification is about to be queued for a re-read. -/
def DispatchPoint.Requeues : DispatchPoint → Prop
  | .settled _ blockwise => blockwise = true
  | _ => False

/-- The reader only queues a re-read while the token of the notification is registered. -/
def RequeuesLive (state : RelationState) : RelationAction → Prop
  | .advance _ => state.point.Requeues →
      state.session.relations.tokens.contains state.token = true
  | _ => True

namespace RelationState

/-- What holds between two blocks, when the reader only records while the token is registered. -/
structure LiveInvariant (state : RelationState) : Prop where
  indexed : state.session.relations.IndexedLive
  inHand : ¬state.point.Unordered → state.point.recording? = none → state.live = true
  recorded : ∀ delivery ∈ state.deliveries, delivery.liveWhenRecorded = true

/-- What holds as well when it also only queues a re-read while the token is registered. -/
def RequeuedLive (state : RelationState) : Prop :=
  ∀ delivery ∈ state.deliveries, delivery.effect.requeues = true →
    delivery.liveWhenDelivered = true

variable {session next : Session} {point nextPoint : DispatchPoint} {effects : List Effect}
  {now : ℚ}

/-- Only a settled notification is delivered. -/
theorem delivers_settled (step : Advances session now point next nextPoint effects)
    {effect : Effect} (effectMem : effect ∈ effects.filter Effect.delivers) :
    ¬point.Unordered ∧ point.recording? = none := by
  cases step with
  | queued | delivered => exact ⟨id, rfl⟩
  | registry | identified | ignored => simp at effectMem
  | sequenced | promoted | onProbation => simp [Effect.delivers] at effectMem
  | retired | confirmed | lapsed =>
      split_ifs at effectMem <;> simp [Effect.delivers] at effectMem

/-- Only a re-read is queued when the point asks for one. -/
theorem requeues_of_queued (step : Advances session now point next nextPoint effects)
    {effect : Effect} (effectMem : effect ∈ effects) (requeues : effect.requeues = true) :
    point.Requeues := by
  cases step with
  | queued => rfl
  | registry | identified | ignored => cases effectMem
  | sequenced | promoted | onProbation => simp_all [Effect.requeues]
  | retired | confirmed | lapsed =>
      split_ifs at effectMem <;> simp_all [Effect.requeues]
  | delivered =>
      simp only [deliver] at effectMem
      split_ifs at effectMem <;> simp_all [Effect.requeues]

/-- Recording a notification of a registered token keeps the indices live. -/
theorem indexedLive_advances (step : Advances session now point next nextPoint effects)
    (live : session.relations.IndexedLive)
    (registered : ∀ message ∈ point.ordering?, message.code = 0x45 →
      blockwiseRefetch message.options ≠ none → observeValue message.options ≠ .malformed →
        session.relations.tokens.contains message.token = true) :
    next.relations.IndexedLive := by
  cases step with
  | retired failure => exact live.retire _
  | sequenced success blocks observed fresh =>
      have isRegistered := registered _ rfl success (by simp [blocks]) (by simp [observed])
      exact live.acceptSequence isRegistered _ now
  | promoted success blocks observed taken =>
      have isRegistered := registered _ rfl success (by simp [blocks]) (by simp [observed])
      exact live.acceptPlain_legacy isRegistered taken
  | onProbation success blocks observed taken =>
      have isRegistered := registered _ rfl success (by simp [blocks]) (by simp [observed])
      exact live.acceptPlain_probation isRegistered taken
  | _ => exact live

/-- A notification is settled in a block in which its token is registered. -/
theorem registered_of_settled (step : Advances session now point next nextPoint effects)
    (registered : ∀ message ∈ point.ordering?, message.code = 0x45 →
      blockwiseRefetch message.options ≠ none → observeValue message.options ≠ .malformed →
        session.relations.tokens.contains message.token = true)
    (ordered : ¬nextPoint.Unordered) (settled : nextPoint.recording? = none) :
    ∃ message, point.recording? = some message ∧
      session.relations.tokens.contains message.token = true := by
  cases step with
  | registry _ _ after => exact absurd after ordered
  | @sequenced message _ _ _ _ success blocks observed fresh =>
      exact ⟨message, rfl, registered _ rfl success (by simp [blocks]) (by simp [observed])⟩
  | @promoted message _ _ _ _ success blocks observed taken =>
      exact ⟨message, rfl, registered _ rfl success (by simp [blocks]) (by simp [observed])⟩
  | @confirmed message href query blockwise still =>
      simp only [ObserveRelations.onProbation, decide_eq_true_eq] at still
      exact ⟨message, rfl, OrderedDict.contains_iff.mpr ⟨href, still.1⟩⟩
  | identified | onProbation => simp [DispatchPoint.recording?] at settled
  | retired | ignored | lapsed | queued | delivered => exact absurd trivial ordered

theorem live_advance (state : RelationState) (invariant : state.LiveInvariant)
    (records : RecordsLive state (.advance now)) :
    (perform (.advance now) state).LiveInvariant := by
  have step := dispatchStep_advances state.session now state.point
  refine ⟨indexedLive_advances step invariant.indexed records, ?_, ?_⟩
  · intro ordered settled
    rcases registered_of_settled step records ordered settled with ⟨message, recording, registered⟩
    simp [perform, recording, registered]
  · intro delivery deliveryMem
    rcases List.mem_append.mp deliveryMem with earlier | new
    · exact invariant.recorded delivery earlier
    · rcases List.mem_map.mp new with ⟨effect, effectMem, rfl⟩
      rcases delivers_settled step effectMem with ⟨ordered, settled⟩
      exact invariant.inHand ordered settled

theorem live_perform (state : RelationState) (action : RelationAction)
    (invariant : state.LiveInvariant) (records : RecordsLive state action) :
    (perform action state).LiveInvariant := by
  cases action with
  | receive datagram =>
      simp only [perform]
      split_ifs
      · have unordered := (receive_cases state.session datagram).1
        exact ⟨invariant.indexed, fun ordered => absurd unordered ordered, invariant.recorded⟩
      · exact invariant
  | advance now => exact live_advance state invariant records
  | subscribe tok href query =>
      simp only [perform]
      split_ifs
      · exact invariant
      · exact ⟨invariant.indexed.register tok href query, invariant.inHand, invariant.recorded⟩
  | retire tok => exact ⟨invariant.indexed.retire tok, invariant.inHand, invariant.recorded⟩
  | clear =>
      refine ⟨?_, invariant.inHand, invariant.recorded⟩
      intro tok indexed
      simp [perform, cleared, ObserveRelations.Indexed, OrderedDict.contains] at indexed
  | others session => exact ⟨invariant.indexed, invariant.inHand, invariant.recorded⟩

theorem requeued_perform (state : RelationState) (action : RelationAction)
    (invariant : state.RequeuedLive) (requeues : RequeuesLive state action) :
    (perform action state).RequeuedLive := by
  cases action with
  | advance now =>
      have step := dispatchStep_advances state.session now state.point
      intro delivery deliveryMem isRequeue
      rcases List.mem_append.mp deliveryMem with earlier | new
      · exact invariant delivery earlier isRequeue
      · rcases List.mem_map.mp new with ⟨effect, effectMem, rfl⟩
        apply requeues
        exact requeues_of_queued step (List.mem_of_mem_filter effectMem) isRequeue
  | receive | subscribe =>
      simp only [perform]
      split_ifs <;> exact invariant
  | retire | clear | others => exact invariant

end RelationState

/--
In every run in which the reader only records a notification while its token is
registered, the indices hold registered tokens only, and every notification is delivered
or queued for a token that was registered at the reader's last block under the state
lock. A token is also registered when its re-read is queued if the reader only queues one
then.
-/
theorem no_activity_on_retired (callbacks : Callbacks) {actions : List RelationAction}
    (meets : Machine.Meets RelationState.perform RecordsLive actions (.start callbacks)) :
    let final := Machine.run RelationState.perform actions (.start callbacks)
    final.session.relations.IndexedLive ∧
      (∀ delivery ∈ final.deliveries, delivery.liveWhenRecorded = true) ∧
      (Machine.Meets RelationState.perform RequeuesLive actions (.start callbacks) →
        final.RequeuedLive) := by
  have initial : (RelationState.start callbacks).LiveInvariant := by
    refine ⟨?_, ?_, ?_⟩
    · intro tok indexed
      simp [RelationState.start, Session.started, ObserveRelations.Indexed,
        OrderedDict.contains] at indexed
    · intro ordered
      exact absurd trivial ordered
    · intro delivery deliveryMem
      cases deliveryMem
  have final := Machine.invariant_run RelationState.live_perform meets initial
  refine ⟨final.indexed, final.recorded, ?_⟩
  intro requeues
  apply Machine.invariant_run RelationState.requeued_perform requeues
  intro delivery deliveryMem
  cases deliveryMem

/-- A notification that is received and recorded, with what other threads do in between. -/
def recordedWith (datagram : ByteString) (between : List RelationAction) : List RelationAction :=
  [.receive datagram, .advance 0, .advance 0] ++ between ++ [.advance 0, .advance 0]

/-- A relation that is notified and then retired. -/
theorem no_activity_on_retired_example :
    let actions := [.subscribe [7] "/a" []] ++
      recordedWith [0x51, 0x45, 0, 1, 7, 0x61, 5, 0xFF, 1] [] ++ [.retire [7]]
    let final := Machine.run RelationState.perform actions
      (.start ⟨true, false, false, false, false⟩)
    final.deliveries = [⟨.notification "/a" [1], true, true⟩] ∧
      final.session.relations.IndexedLive :=
  ⟨by decide +kernel, (no_activity_on_retired _ (by decide +kernel)).1⟩

/-- Unsubscribing between the lookup and the record: the retired token is recorded and notified. -/
theorem activity_on_retired :
    let actions := [.subscribe [7] "/a" []] ++
      recordedWith [0x51, 0x45, 0, 1, 7, 0x61, 5, 0xFF, 1] [.retire [7]]
    let final := Machine.run RelationState.perform actions
      (.start ⟨true, false, false, false, false⟩)
    ¬final.session.relations.IndexedLive ∧
      ¬∀ delivery ∈ final.deliveries, delivery.liveWhenRecorded = true := by
  refine ⟨?_, by decide +kernel⟩
  intro live
  have registered := live [7] (.inl (by decide +kernel))
  revert registered
  decide +kernel

end SmartThingsLocal
