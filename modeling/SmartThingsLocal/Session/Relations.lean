import SmartThingsLocal.Session.State

/-!
# Observe relations

The blocks of `DtlsCoapSession` that read or change the relation indices: the
freshness of an Observe value, recording a notification with or without one,
retiring a token, and what the re-read worker asks about a relation.
-/

namespace SmartThingsLocal

namespace ObserveRelations

/-- The registration of a relation in `_subscribe_locked`. -/
def register (relations : ObserveRelations) (tok : ByteString) (href : String) (query : Query) :
    ObserveRelations :=
  { relations with
    tokens := relations.tokens.set tok href
    queries := relations.queries.set tok query }

/-- `_retire_observe_token_locked`: remove a token from every index. -/
def retire (relations : ObserveRelations) (tok : ByteString) : ObserveRelations :=
  { tokens := relations.tokens.erase tok
    queries := relations.queries.erase tok
    plainResponseMids := relations.plainResponseMids.erase tok
    legacyTokens := relations.legacyTokens.erase tok
    legacyMids := relations.legacyMids.erase tok
    sequences := relations.sequences.erase tok }

/-- The query a token is registered with. -/
def query (relations : ObserveRelations) (tok : ByteString) : Query :=
  (relations.queries.get? tok).getD []

/-- `_observe_sequence_is_fresh`. -/
def sequenceIsFresh (previous : Option (ℕ × ℚ)) (current : ℕ) (receivedAt : ℚ) : Bool :=
  match previous with
  | none => true
  | some (previousValue, previousReceivedAt) =>
      if receivedAt - previousReceivedAt > Session.observeSequenceReset then true
      else
        let delta := ((current : ℤ) - previousValue) % Session.observeSequenceModulus
        0 < delta ∧ delta < Session.observeSequenceHalfRange

/--
Record a notification that carries an Observe value: whether it is the
registration's answer, or `none` when it is stale.
-/
def acceptSequence (relations : ObserveRelations) (tok : ByteString) (sequence : ℕ)
    (receivedAt : ℚ) : Option Bool × ObserveRelations :=
  let previous := relations.sequences.get? tok
  if sequenceIsFresh previous sequence receivedAt then
    (some previous.isNone, { relations with
      sequences := relations.sequences.set tok (sequence, receivedAt)
      plainResponseMids := relations.plainResponseMids.erase tok
      legacyTokens := relations.legacyTokens.erase tok
      legacyMids := relations.legacyMids.erase tok })
  else (none, relations)

/-- How a notification without an Observe value is taken. -/
inductive PlainOutcome
  | ignored
  | probation
  | legacy
  deriving DecidableEq, Repr

/-- Record a notification without an Observe value. -/
def acceptPlain (relations : ObserveRelations) (tok : ByteString) (mid : ℕ) :
    PlainOutcome × ObserveRelations :=
  if relations.sequences.contains tok then (.ignored, relations)
  else if tok ∈ relations.legacyTokens then
    if relations.legacyMids.get? tok = some mid then (.ignored, relations)
    else (.legacy, { relations with legacyMids := relations.legacyMids.set tok mid })
  else
    match relations.plainResponseMids.get? tok with
    | none =>
        (.probation, { relations with
          plainResponseMids := relations.plainResponseMids.set tok mid })
    | some initialMid =>
        if initialMid = mid then (.ignored, relations)
        else
          (.legacy, { relations with
            legacyTokens := insert tok relations.legacyTokens
            legacyMids := relations.legacyMids.set tok mid })

/-- The check after the pending callback: the relation is still the one on probation. -/
def onProbation (relations : ObserveRelations) (tok : ByteString) (href : String)
    (query : Query) (mid : ℕ) : Bool :=
  relations.tokens.get? tok = some href ∧ relations.query tok = query ∧
    relations.plainResponseMids.get? tok = some mid ∧ tok ∉ relations.legacyTokens ∧
    relations.sequences.contains tok = false

/-- The tokens registered for a relation, oldest first. -/
def tokensOf (relations : ObserveRelations) (href : String) (query : Query) : List ByteString :=
  (relations.tokens.entries.filter fun entry =>
    entry.2 = href ∧ relations.query entry.1 = query).map Prod.fst

/-- `_observe_sequence_for`: the Observe value last recorded for a relation. -/
def sequenceFor (relations : ObserveRelations) (href : String) (query : Query) : Option ℕ :=
  ((relations.tokensOf href query).filterMap relations.sequences.get?).head?.map Prod.fst

/-- Whether a token keeps a re-read of its relation wanted. -/
def tokenActive (relations : ObserveRelations) (legacy : Bool) (tok : ByteString) : Bool :=
  if legacy then tok ∈ relations.legacyTokens
  else relations.sequences.contains tok ∨
    relations.plainResponseMids.contains tok ∧ tok ∉ relations.legacyTokens

/-- `_observe_relation_active`. -/
def relationActive (relations : ObserveRelations) (key : RefetchKey) : Bool :=
  (relations.tokensOf key.href key.query).any (relations.tokenActive key.legacy)

/-! ### What recording a notification changes -/

variable {relations after : ObserveRelations} {tok : ByteString} {mid : ℕ}

/-- A message taken as a legacy notification only touches the legacy indices. -/
theorem acceptPlain_legacy (taken : relations.acceptPlain tok mid = (.legacy, after)) :
    (tok ∈ relations.legacyTokens ∨ ∃ initialMid,
      relations.plainResponseMids.get? tok = some initialMid) ∧
    relations.sequences.contains tok = false ∧
    after = { relations with
      legacyTokens := insert tok relations.legacyTokens
      legacyMids := relations.legacyMids.set tok mid } := by
  unfold acceptPlain at taken
  split_ifs at taken with sequenced legacy repeated
  · cases taken
  · cases taken
  · cases taken
    exact ⟨.inl legacy, by simpa using sequenced, by rw [Finset.insert_eq_of_mem legacy]⟩
  · split at taken
    · cases taken
    · rename_i initialMid recorded
      split_ifs at taken
      · cases taken
      cases taken
      exact ⟨.inr ⟨initialMid, recorded⟩, by simpa using sequenced, rfl⟩

/-- The first optionless message of a token puts it on probation. -/
theorem acceptPlain_probation (taken : relations.acceptPlain tok mid = (.probation, after)) :
    relations.plainResponseMids.get? tok = none ∧ tok ∉ relations.legacyTokens ∧
    relations.sequences.contains tok = false ∧
    after = { relations with plainResponseMids := relations.plainResponseMids.set tok mid } := by
  unfold acceptPlain at taken
  split_ifs at taken with sequenced legacy repeated
  · cases taken
  · cases taken
  · cases taken
  · split at taken
    · rename_i unrecorded
      cases taken
      exact ⟨unrecorded, legacy, by simpa using sequenced, rfl⟩
    · split_ifs at taken <;> cases taken

/-- The indices hold the same for a token. -/
structure SameFor (tok : ByteString) (before after : ObserveRelations) : Prop where
  tokens : after.tokens.get? tok = before.tokens.get? tok
  queries : after.queries.get? tok = before.queries.get? tok
  plain : after.plainResponseMids.get? tok = before.plainResponseMids.get? tok
  legacy : tok ∈ after.legacyTokens ↔ tok ∈ before.legacyTokens
  legacyMids : after.legacyMids.get? tok = before.legacyMids.get? tok
  sequences : after.sequences.get? tok = before.sequences.get? tok

/-! ### Active relations -/

theorem relationActive_iff {key : RefetchKey} : relations.relationActive key = true ↔
    ∃ tok, relations.tokens.get? tok = some key.href ∧ relations.query tok = key.query ∧
      relations.tokenActive key.legacy tok = true := by
  simp only [relationActive, tokensOf, List.any_map, List.any_filter, List.any_eq_true,
    Function.comp_apply, Bool.and_eq_true, decide_eq_true_eq]
  refine ⟨?_, ?_⟩
  · rintro ⟨⟨tok, href⟩, registered, ⟨rfl, query⟩, active⟩
    exact ⟨tok, OrderedDict.mem_entries_iff.mp registered, query, active⟩
  · rintro ⟨tok, registered, query, active⟩
    exact ⟨(tok, key.href), OrderedDict.mem_entries_iff.mpr registered, ⟨rfl, query⟩, active⟩

theorem tokenActive_congr {other : ByteString}
    (legacyTokens : other ∈ after.legacyTokens ↔ other ∈ relations.legacyTokens)
    (sequences : after.sequences.get? other = relations.sequences.get? other)
    (plain : after.plainResponseMids.get? other = relations.plainResponseMids.get? other)
    (legacy : Bool) : after.tokenActive legacy other = relations.tokenActive legacy other := by
  cases legacy with
  | true => exact decide_eq_decide.mpr legacyTokens
  | false =>
      apply decide_eq_decide.mpr
      simp only [OrderedDict.contains, sequences, plain, legacyTokens]

/-- Retiring a token makes no relation active. -/
theorem relationActive_of_retire {key : RefetchKey}
    (active : (relations.retire tok).relationActive key = true) :
    relations.relationActive key = true := by
  rw [relationActive_iff] at active ⊢
  rcases active with ⟨other, registered, query, wanted⟩
  by_cases same : other = tok
  · simp [retire, same] at registered
  · refine ⟨other, by simpa [retire, same] using registered, ?_, ?_⟩
    · simpa [retire, ObserveRelations.query, same] using query
    · have asBefore : (relations.retire tok).tokenActive key.legacy other =
          relations.tokenActive key.legacy other := by
        apply tokenActive_congr <;> simp [retire, same]
      rwa [← asBefore]

/-- A change that registers nothing and leaves every other token as wanted as it was. -/
structure TouchesOnly (tok : ByteString) (before after : ObserveRelations) : Prop where
  tokens : after.tokens = before.tokens
  queries : after.queries = before.queries
  active : ∀ other legacy, other ≠ tok →
    after.tokenActive legacy other = before.tokenActive legacy other

theorem acceptSequence_touchesOnly (relations : ObserveRelations) (tok : ByteString) (value : ℕ)
    (now : ℚ) : TouchesOnly tok relations (relations.acceptSequence tok value now).2 := by
  unfold acceptSequence
  dsimp only
  split_ifs
  · refine ⟨rfl, rfl, ?_⟩
    intro other legacy distinct
    apply tokenActive_congr <;> simp [distinct]
  · exact ⟨rfl, rfl, fun _ _ _ => rfl⟩

theorem acceptPlain_touchesOnly {outcome : PlainOutcome}
    (taken : relations.acceptPlain tok mid = (outcome, after)) :
    TouchesOnly tok relations after := by
  cases outcome with
  | legacy =>
      rcases acceptPlain_legacy taken with ⟨_, _, rfl⟩
      refine ⟨rfl, rfl, ?_⟩
      intro other legacy distinct
      apply tokenActive_congr <;> simp [distinct]
  | probation =>
      rcases acceptPlain_probation taken with ⟨_, _, _, rfl⟩
      refine ⟨rfl, rfl, ?_⟩
      intro other legacy distinct
      apply tokenActive_congr <;> simp [distinct]
  | ignored =>
      have same : after = relations := by
        unfold acceptPlain at taken
        split_ifs at taken
        · cases taken
          rfl
        · cases taken
          rfl
        · cases taken
        · split at taken
          · cases taken
          · split_ifs at taken
            · cases taken
              rfl
            · cases taken
      rw [same]
      exact ⟨rfl, rfl, fun _ _ _ => rfl⟩

/-- Recording a message of one relation makes no other relation active. -/
theorem TouchesOnly.relationActive {key : RefetchKey} (touches : TouchesOnly tok relations after)
    (foreign : relations.tokens.get? tok = some key.href → relations.query tok ≠ key.query)
    (active : after.relationActive key = true) : relations.relationActive key = true := by
  rw [relationActive_iff] at active ⊢
  rcases active with ⟨other, registered, query, wanted⟩
  rw [touches.tokens] at registered
  rw [ObserveRelations.query, touches.queries] at query
  refine ⟨other, registered, query, ?_⟩
  rwa [← touches.active other key.legacy]
  rintro rfl
  exact foreign registered query

end ObserveRelations

/-- A started session with one relation registered and nothing received yet. -/
def Session.observing (callbacks : Callbacks) (tok : ByteString) (href : String) (query : Query) :
    Session :=
  let session := Session.started callbacks 0 0
  { session with relations := session.relations.register tok href query }

end SmartThingsLocal
