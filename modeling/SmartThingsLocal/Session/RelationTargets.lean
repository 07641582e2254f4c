import SmartThingsLocal.Session.RelationSends

/-!
# The targets of a relation operation

What a refresh or an unsubscription does to the relation indices: the tokens of the
target hrefs are gone from all of them, each registration that was sent adds one relation,
and the relations of every other href are as they were. Whether a registration was sent
is a function of the state in which it begins and of the surroundings. A draw may be a
token that the refresh has just retired: then it is the token of a new relation, with
nothing left of the old one.
-/

namespace SmartThingsLocal

open Session Stateful Fallible

theorem eraseDups_concat {α : Type} [BEq α] [LawfulBEq α] (list : List α) (last : α) :
    (list ++ [last]).eraseDups =
      if last ∈ list.eraseDups then list.eraseDups else list.eraseDups ++ [last] := by
  rw [List.eraseDups_append]
  split_ifs with present
  · simp [List.removeAll, List.mem_eraseDups.mp present]
  · rw [List.mem_eraseDups] at present
    simp [List.removeAll, present, List.eraseDups_cons]

namespace ObserveRelations

variable {before between after : ObserveRelations} {tok : ByteString}

theorem SameFor.refl (tok : ByteString) (relations : ObserveRelations) :
    SameFor tok relations relations :=
  ⟨rfl, rfl, rfl, Iff.rfl, rfl, rfl⟩

theorem SameFor.trans (first : SameFor tok before between) (second : SameFor tok between after) :
    SameFor tok before after :=
  ⟨second.tokens.trans first.tokens, second.queries.trans first.queries,
    second.plain.trans first.plain, second.legacy.trans first.legacy,
    second.legacyMids.trans first.legacyMids, second.sequences.trans first.sequences⟩

theorem SameFor.query (same : SameFor tok before after) : after.query tok = before.query tok := by
  unfold ObserveRelations.query
  rw [same.queries]

/-- A token that is in none of the indices. -/
structure Gone (tok : ByteString) (relations : ObserveRelations) : Prop where
  tokens : relations.tokens.get? tok = none
  queries : relations.queries.get? tok = none
  plain : relations.plainResponseMids.get? tok = none
  legacy : tok ∉ relations.legacyTokens
  legacyMids : relations.legacyMids.get? tok = none
  sequences : relations.sequences.get? tok = none

/-- The relation of a token of which no more is known than its path and its query. -/
structure Begun (tok : ByteString) (href : String) (query : Query) (relations : ObserveRelations) :
    Prop where
  tokens : relations.tokens.get? tok = some href
  query : relations.query tok = query
  plain : relations.plainResponseMids.get? tok = none
  legacy : tok ∉ relations.legacyTokens
  legacyMids : relations.legacyMids.get? tok = none
  sequences : relations.sequences.get? tok = none

theorem Gone.register {relations : ObserveRelations} (gone : Gone tok relations) (href : String)
    (query : Query) : Begun tok href query (relations.register tok href query) where
  tokens := by simp [ObserveRelations.register]
  query := by simp [ObserveRelations.register, ObserveRelations.query]
  plain := gone.plain
  legacy := gone.legacy
  legacyMids := gone.legacyMids
  sequences := gone.sequences

theorem SameFor.begun {href : String} {query : Query} (same : SameFor tok before after)
    (begun : Begun tok href query before) : Begun tok href query after :=
  ⟨same.tokens.trans begun.tokens, same.query.trans begun.query, same.plain.trans begun.plain,
    fun legacy => begun.legacy (same.legacy.mp legacy), same.legacyMids.trans begun.legacyMids,
    same.sequences.trans begun.sequences⟩

theorem gone_retire (relations : ObserveRelations) (tok : ByteString) :
    Gone tok (relations.retire tok) := by
  constructor <;> simp [retire]

theorem SameFor.gone (same : SameFor tok before after) (gone : Gone tok before) : Gone tok after :=
  ⟨same.tokens.trans gone.tokens, same.queries.trans gone.queries, same.plain.trans gone.plain,
    fun legacy => gone.legacy (same.legacy.mp legacy), same.legacyMids.trans gone.legacyMids,
    same.sequences.trans gone.sequences⟩

theorem sameFor_retire {other : ByteString} (apart : other ≠ tok) (relations : ObserveRelations) :
    SameFor other relations (relations.retire tok) := by
  constructor <;> simp [retire, apart]

theorem Gone.retire {other : ByteString} {relations : ObserveRelations}
    (gone : Gone tok relations) :
    Gone tok (relations.retire other) := by
  constructor
  all_goals simp [ObserveRelations.retire, gone.tokens, gone.queries, gone.plain, gone.legacy,
    gone.legacyMids, gone.sequences]

/-- Retire the tokens of some relations. -/
def retireAll (relations : ObserveRelations) (observations : List Observation) :
    ObserveRelations :=
  observations.foldl (fun relations observation => relations.retire observation.tok) relations

theorem sameFor_retireAll (relations : ObserveRelations) {observations : List Observation}
    (apart : ∀ observation ∈ observations, tok ≠ observation.tok) :
    SameFor tok relations (relations.retireAll observations) := by
  induction observations generalizing relations with
  | nil => exact .refl tok relations
  | cons observation observations ih =>
      rcases List.forall_mem_cons.mp apart with ⟨first, rest⟩
      exact (sameFor_retire first relations).trans (ih _ rest)

theorem Gone.retireAll {relations : ObserveRelations} (gone : Gone tok relations)
    (observations : List Observation) : Gone tok (relations.retireAll observations) := by
  induction observations generalizing relations with
  | nil => exact gone
  | cons observation observations ih => exact ih gone.retire

theorem gone_retireAll (relations : ObserveRelations) {observations : List Observation}
    {observation : Observation} (observationMem : observation ∈ observations) :
    Gone observation.tok (relations.retireAll observations) := by
  induction observations generalizing relations with
  | nil => cases observationMem
  | cons first rest ih =>
      rcases List.mem_cons.mp observationMem with rfl | restMem
      · exact (gone_retire relations observation.tok).retireAll rest
      · exact ih _ restMem

theorem entries_retireAll (relations : ObserveRelations) (observations : List Observation) :
    (relations.retireAll observations).tokens.entries =
      relations.tokens.entries.filter fun entry => entry.1 ∉ observations.map Observation.tok := by
  induction observations generalizing relations with
  | nil => simp [retireAll]
  | cons observation observations ih =>
      refine (ih (relations.retire observation.tok)).trans ?_
      show (List.filter _ relations.tokens.entries).filter _ = _
      rw [List.filter_filter]
      refine List.filter_congr fun entry _ => ?_
      rw [← Bool.decide_and, decide_eq_decide, List.map_cons, List.mem_cons, not_or, and_comm]

/-- The relations of some hrefs are among the registered ones, with their queries. -/
theorem mem_observationsOf {relations : ObserveRelations} {hrefs : List String}
    {observation : Observation} :
    observation ∈ OperationState.observationsOf relations hrefs ↔
      relations.tokens.get? observation.tok = some observation.href ∧ observation.href ∈ hrefs ∧
        observation.query = relations.query observation.tok := by
  rcases observation with ⟨own, href, query⟩
  simp only [OperationState.observationsOf, List.mem_map, List.mem_filter, Prod.exists,
    decide_eq_true_eq, OrderedDict.mem_entries_iff, Observation.mk.injEq]
  constructor
  · rintro ⟨tok, observed, ⟨registered, target⟩, rfl, rfl, rfl⟩
    exact ⟨registered, target, rfl⟩
  · rintro ⟨registered, target, rfl⟩
    exact ⟨own, href, ⟨registered, target⟩, rfl, rfl, rfl⟩

/-- Retiring the relations of some hrefs leaves those of the others, in their order. -/
theorem entries_retireAll_observationsOf (relations : ObserveRelations) (hrefs : List String) :
    (relations.retireAll (OperationState.observationsOf relations hrefs)).tokens.entries =
      relations.tokens.entries.filter fun entry => entry.2 ∉ hrefs := by
  rw [entries_retireAll]
  refine List.filter_congr fun entry entryMem => ?_
  have registered := OrderedDict.mem_entries_iff.mp entryMem
  rw [decide_eq_decide, not_iff_not]
  constructor
  · intro tokMem
    rcases List.mem_map.mp tokMem with ⟨observation, observationMem, same⟩
    rcases mem_observationsOf.mp observationMem with ⟨observed, target, -⟩
    rw [same, registered] at observed
    exact Option.some.inj observed ▸ target
  · intro target
    exact List.mem_map.mpr ⟨⟨entry.1, entry.2, relations.query entry.1⟩,
      mem_observationsOf.mpr ⟨registered, target, rfl⟩, rfl⟩

theorem sameFor_register {other : ByteString} (apart : other ≠ tok) (relations : ObserveRelations)
    (href : String) (query : Query) :
    SameFor other relations (relations.register tok href query) := by
  constructor <;> simp [register, apart]

end ObserveRelations

/-- A registration that was tried, and the state in which it began. -/
structure RegistrationAttempt where
  registration : Registration
  start : OperationState

namespace RegistrationAttempt

variable (surroundings : OperationSurroundings)

/-- What it has handed to `_send_dgram`. -/
def send? (attempt : RegistrationAttempt) : Option SendAttempt :=
  (OperationState.registrationSend surroundings attempt.registration attempt.start).map Prod.snd

/-- The token that it has got, if its datagram was sent. -/
def tok? (attempt : RegistrationAttempt) : Option ByteString :=
  match OperationState.registrationSend surroundings attempt.registration attempt.start with
  | some (tok, ⟨_, none⟩) => some tok
  | _ => none

def succeeded (attempt : RegistrationAttempt) : Bool := (attempt.tok? surroundings).isSome

/-- The relation that a successful attempt adds. -/
def relation? (attempt : RegistrationAttempt) : Option (ByteString × String) :=
  (attempt.tok? surroundings).map fun tok => (tok, attempt.registration.href)

variable {surroundings} {attempt : RegistrationAttempt} {tok : ByteString}

theorem tok?_eq_some : attempt.tok? surroundings = some tok ↔
    ∃ datagram, OperationState.registrationSend surroundings attempt.registration attempt.start =
      some (tok, ⟨datagram, none⟩) := by
  unfold tok?
  constructor
  · intro issued
    split at issued
    · rename_i datagram made
      cases issued
      exact ⟨datagram, made⟩
    · cases issued
  · rintro ⟨datagram, made⟩
    rw [made]

theorem tok?_eq_none : attempt.tok? surroundings = none ↔
    ∀ tok datagram, OperationState.registrationSend surroundings attempt.registration
      attempt.start ≠ some (tok, ⟨datagram, none⟩) := by
  rw [Option.eq_none_iff_forall_not_mem]
  simp only [Option.mem_def, tok?_eq_some, not_exists, ne_eq]

end RegistrationAttempt

namespace OperationState

variable {surroundings : OperationSurroundings}

/-- Each attempt begins in the state that the one before it has left. -/
def Chained (surroundings : OperationSurroundings) :
    List RegistrationAttempt → OperationState → OperationState → Prop
  | [], before, after => after = before
  | attempt :: attempts, before, after => attempt.start = before ∧
      Chained surroundings attempts
        (exec (subscribe surroundings attempt.registration.path attempt.registration.query)
          before).2 after

/-- What some registrations have done, one after the other. -/
structure Registers (surroundings : OperationSurroundings) (attempts : List RegistrationAttempt)
    (before after : OperationState) : Prop where
  entries : after.relations.tokens.entries =
    before.relations.tokens.entries ++ attempts.filterMap (·.relation? surroundings)
  queries : ∀ attempt ∈ attempts, ∀ tok, attempt.tok? surroundings = some tok →
    after.relations.query tok = attempt.registration.query
  untouched : ∀ tok, before.relations.tokens.contains tok = true →
    ObserveRelations.SameFor tok before.relations after.relations
  gone : ∀ tok, ObserveRelations.Gone tok before.relations →
    ObserveRelations.Gone tok after.relations ∨
      ∃ attempt ∈ attempts, attempt.tok? surroundings = some tok ∧
        ObserveRelations.Begun tok attempt.registration.href attempt.registration.query
          after.relations
  refetch : after.refetch = before.refetch
  sends : after.sends = before.sends ++ attempts.filterMap (·.send? surroundings)

variable {before between after : OperationState}
  {attempts later : List RegistrationAttempt}

theorem Registers.nil (before : OperationState) : Registers surroundings [] before before :=
  ⟨by simp, nofun, fun tok _ => .refl tok _, fun _ => .inl, rfl, by simp⟩

theorem Registers.contains (registers : Registers surroundings attempts before after)
    {attempt : RegistrationAttempt} (attemptMem : attempt ∈ attempts) {tok : ByteString}
    (issued : attempt.tok? surroundings = some tok) :
    after.relations.tokens.contains tok = true := by
  rw [OrderedDict.contains_iff]
  refine ⟨attempt.registration.href, OrderedDict.mem_entries_iff.mp ?_⟩
  rw [registers.entries]
  refine List.mem_append_right _ (List.mem_filterMap.mpr ⟨attempt, attemptMem, ?_⟩)
  simp [RegistrationAttempt.relation?, issued]

theorem Registers.append (first : Registers surroundings attempts before between)
    (second : Registers surroundings later between after) :
    Registers surroundings (attempts ++ later) before after where
  entries := by rw [second.entries, first.entries, List.filterMap_append, List.append_assoc]
  queries attempt attemptMem tok issued := by
    rcases List.mem_append.mp attemptMem with firstMem | secondMem
    · rw [(second.untouched tok (first.contains firstMem issued)).query]
      exact first.queries attempt firstMem tok issued
    · exact second.queries attempt secondMem tok issued
  untouched tok held := by
    have same := first.untouched tok held
    refine same.trans (second.untouched tok ?_)
    rw [OrderedDict.contains, same.tokens]
    exact held
  gone tok gone := by
    rcases first.gone tok gone with still | ⟨attempt, firstMem, issued, begun⟩
    · rcases second.gone tok still with last | ⟨attempt, secondMem, issued⟩
      · exact .inl last
      · exact .inr ⟨attempt, List.mem_append_right _ secondMem, issued⟩
    · refine .inr ⟨attempt, List.mem_append_left _ firstMem, issued, ?_⟩
      exact (second.untouched tok (first.contains firstMem issued)).begun begun
  refetch := second.refetch.trans first.refetch
  sends := by rw [second.sends, first.sends, List.filterMap_append, List.append_assoc]

theorem validatedTextOptions_eq {values result : List String} {name : String} {allowEmpty : Bool}
    (accepted : (validatedTextOptions values name allowEmpty).mapError GetFailure.python =
      .ok result) : result = values :=
  (textOptionsFrom_ok (eq_ok_of_mapError accepted)).1

/-- A registration that gets no further than its checks. -/
theorem registers_of_unsent {attempt : RegistrationAttempt} (start : attempt.start = before)
    (unsent : registrationSend surroundings attempt.registration before = none)
    (unseen : Unseen before after) :
    attempt.tok? surroundings = none ∧ Registers surroundings [attempt] before after := by
  have none : attempt.tok? surroundings = none := by
    rw [RegistrationAttempt.tok?_eq_none, start, unsent]
    simp
  refine ⟨none, ?_⟩
  constructor
  · simp [unseen.relations, RegistrationAttempt.relation?, none]
  · simp [none]
  · intro tok _
    rw [unseen.relations]
    exact .refl tok _
  · intro tok gone
    rw [unseen.relations]
    exact .inl gone
  · exact unseen.refetch
  · simp [unseen.sends, RegistrationAttempt.send?, start, unsent]

section Registration

variable {path : List String} {query : Query} {tok : ByteString} {draws : ℕ}
  {send : Option SendAttempt}

/-- The state in which the datagram of a registration is sent. -/
def registering (before : OperationState) (draws : ℕ) (tok : ByteString) (path : List String)
    (query : Query) : OperationState :=
  { before with
    checks := before.checks + 2, draws
    relations := before.relations.register tok (hrefOf path) query }

theorem apart_of_held {other : ByteString} (free : before.relations.tokens.contains tok = false)
    (held : before.relations.tokens.contains other = true) : other ≠ tok := by
  rintro rfl
  rw [free] at held
  cases held

theorem Sends.registers {datagram : ByteString}
    (free : before.relations.tokens.contains tok = false)
    (made : registrationSend surroundings ⟨path, hrefOf path, query⟩ before =
      some (tok, ⟨datagram, none⟩))
    (sent : Sends surroundings Coap.observeRegister tok path query
      (before.registering draws tok path query) after)
    (handed : observeSend surroundings Coap.observeRegister tok path query
      (before.registering draws tok path query) = some ⟨datagram, none⟩) :
    Registers surroundings [⟨⟨path, hrefOf path, query⟩, before⟩] before after := by
  have issued : RegistrationAttempt.tok? surroundings ⟨⟨path, hrefOf path, query⟩, before⟩ =
      some tok := RegistrationAttempt.tok?_eq_some.mpr ⟨datagram, made⟩
  have relations : after.relations = before.relations.register tok (hrefOf path) query :=
    sent.relations
  constructor
  · rw [relations]
    show (before.relations.tokens.set tok (hrefOf path)).entries = _
    rw [OrderedDict.entries_set_of_absent free]
    simp [RegistrationAttempt.relation?, issued]
  · intro attempt attemptMem own isOwn
    rw [List.mem_singleton.mp attemptMem] at isOwn ⊢
    cases issued.symm.trans isOwn
    rw [relations]
    simp [ObserveRelations.register, ObserveRelations.query]
  · intro other held
    rw [relations]
    exact ObserveRelations.sameFor_register (apart_of_held free held) _ _ _
  · intro other gone
    rw [relations]
    by_cases same : other = tok
    · subst same
      exact .inr ⟨_, List.mem_singleton_self _, issued, gone.register _ _⟩
    · exact .inl ((ObserveRelations.sameFor_register same _ _ _).gone gone)
  · exact sent.refetch
  · rw [sent.sends, handed]
    simp [registering, RegistrationAttempt.send?, made]

/-- A registration whose send fails is retired again. -/
theorem Sends.registers_failed (free : before.relations.tokens.contains tok = false)
    (made : registrationSend surroundings ⟨path, hrefOf path, query⟩ before =
      send.map fun send => (tok, send))
    (failed : ∀ datagram, send ≠ some ⟨datagram, none⟩)
    (sent : Sends surroundings Coap.observeRegister tok path query
      (before.registering draws tok path query) after)
    (handed : observeSend surroundings Coap.observeRegister tok path query
      (before.registering draws tok path query) = send) :
    RegistrationAttempt.tok? surroundings ⟨⟨path, hrefOf path, query⟩, before⟩ = none ∧
      Registers surroundings [⟨⟨path, hrefOf path, query⟩, before⟩] before
        { after with relations := after.relations.retire tok } := by
  have none : RegistrationAttempt.tok? surroundings ⟨⟨path, hrefOf path, query⟩, before⟩ =
      none := by
    rw [RegistrationAttempt.tok?_eq_none]
    intro own datagram
    rw [made]
    intro same
    rcases Option.map_eq_some_iff.mp same with ⟨handed, sent, pair⟩
    cases pair
    exact failed datagram sent
  have relations : after.relations = before.relations.register tok (hrefOf path) query :=
    sent.relations
  refine ⟨none, ?_⟩
  constructor
  · show (after.relations.tokens.erase tok).entries = _
    rw [relations]
    show ((before.relations.tokens.set tok (hrefOf path)).erase tok).entries = _
    rw [OrderedDict.erase_set_of_absent free]
    simp [RegistrationAttempt.relation?, none]
  · simp [none]
  · intro other held
    have apart := apart_of_held free held
    refine ObserveRelations.SameFor.trans ?_
      (ObserveRelations.sameFor_retire apart after.relations)
    rw [relations]
    exact ObserveRelations.sameFor_register apart _ _ _
  · intro other gone
    left
    by_cases same : other = tok
    · subst same
      exact ObserveRelations.gone_retire _ _
    · apply (ObserveRelations.sameFor_retire same after.relations).gone
      rw [relations]
      exact (ObserveRelations.sameFor_register same _ _ _).gone gone
  · exact sent.refetch
  · show after.sends = _
    rw [sent.sends, handed]
    cases send <;> simp [registering, RegistrationAttempt.send?, made]

end Registration

/-- A subscription adds one relation under a token that was free, exactly if its datagram is
sent. -/
theorem ensures_subscribe (path : List String) (query : Query) (before : OperationState) :
    Ensures
      (fun tok after => RegistrationAttempt.tok? surroundings
          ⟨⟨path, hrefOf path, query⟩, before⟩ = some tok ∧
        Registers surroundings [⟨⟨path, hrefOf path, query⟩, before⟩] before after)
      (fun _ after => RegistrationAttempt.tok? surroundings
          ⟨⟨path, hrefOf path, query⟩, before⟩ = none ∧
        Registers surroundings [⟨⟨path, hrefOf path, query⟩, before⟩] before after)
      (subscribe surroundings path query) before := by
  have unsent {after : OperationState}
      (quiet : registrationSend surroundings ⟨path, hrefOf path, query⟩ before = none)
      (unseen : Unseen before after) : RegistrationAttempt.tok? surroundings
          ⟨⟨path, hrefOf path, query⟩, before⟩ = none ∧
        Registers surroundings [⟨⟨path, hrefOf path, query⟩, before⟩] before after :=
    registers_of_unsent rfl quiet unseen
  refine ensures_checkLive_bind (fun error dead => unsent ?_ ⟨rfl, rfl, rfl⟩) fun live => ?_
  · simp [registrationSend, dead, Except.toOption]
  refine ensures_readOnly_bind (fun error refused => unsent ?_ ⟨rfl, rfl, rfl⟩)
    fun kept accepted => ?_
  · cases validated : validatedTextOptions path "path_segs" false with
    | error _ => simp [registrationSend, validated, Except.toOption]
    | ok _ =>
        rw [validated] at refused
        cases refused
  cases validatedTextOptions_eq accepted
  have pathAccepted := eq_ok_of_mapError accepted
  refine ensures_readOnly_bind (fun error refused => unsent ?_ ⟨rfl, rfl, rfl⟩)
    fun kept accepted => ?_
  · cases validated : validatedTextOptions query "query" false with
    | error _ => simp [registrationSend, validated, Except.toOption]
    | ok _ =>
        rw [validated] at refused
        cases refused
  cases validatedTextOptions_eq accepted
  have queryAccepted := eq_ok_of_mapError accepted
  refine ensures_checkLive_bind (fun error dead => unsent ?_ ⟨rfl, rfl, rfl⟩) fun still => ?_
  · simp [registrationSend, dead, Except.toOption]
  have made : registrationSend surroundings ⟨path, hrefOf path, query⟩ before =
      (freeDraw surroundings before.relations.tokens observeTokenAllocAttempts
        before.draws).bind fun tok => (observeSend surroundings Coap.observeRegister tok path query
          { before with checks := before.checks + 2 }).map fun send => (tok, send) := by
    simp only [registrationSend, live, pathAccepted, queryAccepted, still, Except.toOption,
      Option.bind_eq_bind, Option.bind_some, Option.pure_def, Option.map_eq_bind]
    rfl
  refine (ensures_nextAvailableObserveTok _ _).bind ?_ ?_
  · rintro tok _ ⟨drawn, draws, rfl⟩
    have free := (freeDraw_eq_some drawn).1
    dsimp only at drawn free
    rw [drawn, Option.bind_some] at made
    refine ensures_modify_bind ((ensures_sendObserve _ tok path query
      (before.registering draws tok path query)).attempt_bind ?_ ?_)
    · rintro ⟨⟩ after ⟨⟨datagram, handed⟩, sent⟩
      have made : registrationSend surroundings ⟨path, hrefOf path, query⟩ before =
          some (tok, ⟨datagram, none⟩) := made.trans (congrArg (Option.map _) handed)
      exact ensures_pure ⟨RegistrationAttempt.tok?_eq_some.mpr ⟨datagram, made⟩,
        sent.registers free made handed⟩
    · rintro error after ⟨failed, sent⟩
      exact ensures_modify_bind (ensures_throw (sent.registers_failed free made failed rfl))
  · rintro error _ ⟨taken, draws, rfl⟩
    refine unsent ?_ ⟨rfl, rfl, rfl⟩
    dsimp only at taken
    rw [made, taken, Option.bind_none]

/-! ### The loops -/

/-- The hrefs with a relation that was sent, in order and without repeats. -/
def successfulHrefs (surroundings : OperationSurroundings) (attempts : List RegistrationAttempt) :
    List String :=
  (attempts.filter (·.succeeded surroundings)).map fun attempt => attempt.registration.href

theorem ensures_registerAll (registrations : List Registration)
    (hrefs : ∀ registration ∈ registrations, registration.href = hrefOf registration.path)
    (earlier : List String) (failures : ℕ) (before : OperationState) :
    Ensures
      (fun counted after => ∃ attempts, attempts.map RegistrationAttempt.registration =
          registrations ∧ Chained surroundings attempts before after ∧
        Registers surroundings attempts before after ∧
        counted = ((earlier ++ successfulHrefs surroundings attempts).eraseDups,
          failures + attempts.countP fun attempt => !attempt.succeeded surroundings))
      (fun _ _ => False)
      (registerAll surroundings registrations (earlier.eraseDups, failures)) before := by
  induction registrations generalizing earlier failures before with
  | nil => exact ensures_pure ⟨[], rfl, rfl, .nil before, by simp [successfulHrefs]⟩
  | cons registration registrations ih =>
      rcases List.forall_mem_cons.mp hrefs with ⟨href, rest⟩
      rcases registration with ⟨path, named, query⟩
      change named = hrefOf path at href
      subst href
      refine (ensures_subscribe path query before).with_exec.attempt_bind ?_ ?_
      · rintro tok between ⟨⟨issued, first⟩, ran⟩
        have succeeded : RegistrationAttempt.succeeded surroundings
            ⟨⟨path, hrefOf path, query⟩, before⟩ = true := by
          simp [RegistrationAttempt.succeeded, issued]
        have later := ih rest (earlier ++ [hrefOf path]) failures between
        rw [eraseDups_concat] at later
        dsimp only
        rw [← apply_ite fun successful => registerAll surroundings registrations
          (successful, failures)]
        refine later.mono ?_ fun _ _ => id
        rintro counted after ⟨attempts, attempted, chained, second, rfl⟩
        refine ⟨⟨⟨path, hrefOf path, query⟩, before⟩ :: attempts, ?_, ⟨rfl, ?_⟩,
          first.append second, ?_⟩
        · rw [List.map_cons, attempted]
        · rw [ran]
          exact chained
        · rw [List.append_assoc, List.countP_cons_of_neg (by simp [succeeded])]
          simp [successfulHrefs, succeeded]
      · rintro error between ⟨⟨unissued, first⟩, ran⟩
        have failed : RegistrationAttempt.succeeded surroundings
            ⟨⟨path, hrefOf path, query⟩, before⟩ = false := by
          simp [RegistrationAttempt.succeeded, unissued]
        refine (ih rest earlier (failures + 1) between).mono ?_ fun _ _ => id
        rintro counted after ⟨attempts, attempted, chained, second, rfl⟩
        refine ⟨⟨⟨path, hrefOf path, query⟩, before⟩ :: attempts, ?_, ⟨rfl, ?_⟩,
          first.append second, ?_⟩
        · rw [List.map_cons, attempted]
        · rw [ran]
          exact chained
        · rw [List.countP_cons_of_pos (by simp [failed]), Nat.add_right_comm,
            Nat.add_assoc failures]
          simp [successfulHrefs, failed]

/-- What some deregistrations hand to `_send_dgram`, one after the other. -/
def deregistrationSends (surroundings : OperationSurroundings)
    (segments : Observation → List String) :
    List Observation → OperationState → List (Option SendAttempt)
  | [], _ => []
  | observation :: observations, state =>
      let after := (exec (sendObserveDereg surroundings observation.tok (segments observation)
        observation.query) state).2
      observeSend surroundings Coap.observeDeregister observation.tok (segments observation)
          observation.query state ::
        deregistrationSends surroundings segments observations
          { after with relations := after.relations.retire observation.tok }

/-- Every one of them was sent. -/
def AllSent (sends : List (Option SendAttempt)) : Prop :=
  ∀ send ∈ sends, ∃ datagram, send = some ⟨datagram, none⟩

/-- Relations that are deregistered go, and each hands over a datagram that takes it back. -/
structure Deregisters (surroundings : OperationSurroundings) (segments : Observation → List String)
    (observations : List Observation) (before after : OperationState) : Prop where
  relations : after.relations = before.relations.retireAll observations
  refetch : after.refetch = before.refetch
  sends : after.sends = before.sends ++
    (deregistrationSends surroundings segments observations before).filterMap id

theorem Deregisters.nil (segments : Observation → List String) (before : OperationState) :
    Deregisters surroundings segments [] before before :=
  ⟨rfl, rfl, by simp [deregistrationSends]⟩

theorem Deregisters.cons {segments : Observation → List String} {observation : Observation}
    {observations : List Observation} {result : Except GetFailure Unit}
    (ran : exec (sendObserveDereg surroundings observation.tok (segments observation)
      observation.query) before = (result, between))
    (sent : Sends surroundings Coap.observeDeregister observation.tok (segments observation)
      observation.query before between)
    (rest : Deregisters surroundings segments observations
      { between with relations := between.relations.retire observation.tok } after) :
    Deregisters surroundings segments (observation :: observations) before after where
  relations := by
    rw [rest.relations]
    show (between.relations.retire _).retireAll _ = _
    rw [sent.relations]
    rfl
  refetch := rest.refetch.trans sent.refetch
  sends := by
    rw [rest.sends, deregistrationSends, ran]
    dsimp only
    rw [sent.sends]
    cases observeSend surroundings Coap.observeDeregister observation.tok (segments observation)
      observation.query before <;> simp

/-- Each of the datagrams takes back one of the relations. -/
theorem request_of_deregistrationSends {segments : Observation → List String}
    {observations : List Observation} {send : SendAttempt}
    (handed : some send ∈ deregistrationSends surroundings segments observations before) :
    ∃ observation ∈ observations, ∃ mid, observeRequest Coap.observeDeregister mid observation.tok
      (segments observation) observation.query = .ok send.datagram := by
  induction observations generalizing before with
  | nil => exact absurd handed List.not_mem_nil
  | cons observation observations ih =>
      rcases List.mem_cons.mp handed with own | later
      · rcases request_of_observeSend own.symm with ⟨mid, built⟩
        exact ⟨observation, List.mem_cons_self, mid, built⟩
      · rcases ih later with ⟨other, otherMem, request⟩
        exact ⟨other, List.mem_cons_of_mem _ otherMem, request⟩

theorem ensures_deregisterAll (observations : List Observation) (before : OperationState) :
    Ensures
      (fun _ after => Deregisters surroundings
        (fun observation => Lifecycle.hrefSegments observation.href) observations before after)
      (fun _ _ => False) (deregisterAll surroundings observations) before := by
  induction observations generalizing before with
  | nil => exact ensures_pure (.nil _ before)
  | cons observation observations ih =>
      refine (ensures_sendObserve _ _ _ _ before).with_exec.attempt_bind ?_ ?_
      · rintro ⟨⟩ between ⟨⟨-, sent⟩, ran⟩
        exact ensures_modify_bind ((ih _).mono (fun _ _ rest => .cons ran sent rest)
          fun _ _ => id)
      · rintro error between ⟨⟨-, sent⟩, ran⟩
        exact ensures_modify_bind ((ih _).mono (fun _ _ rest => .cons ran sent rest)
          fun _ _ => id)

/-! ### What is validated and kept -/

theorem observePathsFrom_ok {count : ℕ} {result targets : List (List String × String)}
    {paths : List (List String)} {earlier : List String}
    (known : result.map Prod.snd = earlier.eraseDups)
    (accepted : observePathsFrom count result paths = .ok targets) :
    targets.map Prod.snd = (earlier ++ paths.map hrefOf).eraseDups ∧
      ∀ target ∈ targets, target ∈ result ∨ target.1 ∈ paths ∧ target.2 = hrefOf target.1 := by
  induction paths generalizing count result earlier with
  | nil =>
      cases accepted
      exact ⟨by simpa using known, fun target => .inl⟩
  | cons path paths ih =>
      rcases ite_error_eq_ok.mp accepted with ⟨-, accepted⟩
      rcases bind_eq_ok.mp accepted with ⟨normalized, validated, accepted⟩
      cases (textOptionsFrom_ok validated).1
      have next := eraseDups_concat earlier (hrefOf path)
      rw [← known] at next
      dsimp only at accepted
      split_ifs at accepted with repeated
      · rw [if_pos repeated] at next
        rcases ih next.symm accepted with ⟨hrefs, sources⟩
        refine ⟨by rw [hrefs, List.map_cons, List.append_assoc]; rfl, fun target targetMem => ?_⟩
        exact (sources target targetMem).imp_right (.imp_left (List.mem_cons_of_mem _))
      · rw [if_neg repeated] at next
        rcases ih (by rw [next]; simp) accepted with ⟨hrefs, sources⟩
        refine ⟨by rw [hrefs, List.map_cons, List.append_assoc]; rfl, fun target targetMem => ?_⟩
        rcases sources target targetMem with kept | ⟨later, href⟩
        · rcases List.mem_append.mp kept with old | new
          · exact .inl old
          · cases List.mem_singleton.mp new
            exact .inr ⟨List.mem_cons_self, rfl⟩
        · exact .inr ⟨List.mem_cons_of_mem _ later, href⟩

theorem observeQueryOverridesFrom_ok {targetHrefs : List String}
    {overrides result : List (String × Query)}
    (accepted : observeQueryOverridesFrom targetHrefs overrides = .ok result) :
    result = overrides := by
  induction overrides generalizing result with
  | nil =>
      cases accepted
      rfl
  | cons entry overrides ih =>
      rcases ite_error_eq_ok.mp accepted with ⟨-, accepted⟩
      rcases bind_eq_ok.mp accepted with ⟨validated, kept, accepted⟩
      rcases bind_eq_ok.mp accepted with ⟨rest, restKept, accepted⟩
      cases accepted
      cases (textOptionsFrom_ok kept).1
      rw [ih restKept]

/-- The override of an href is the one that the caller gave. -/
theorem lookup_of_validated {queriesByHref : Option (OrderedDict String Query)}
    {targetHrefs : List String} {overrides : List (String × Query)}
    (accepted : validatedObserveQueryOverrides queriesByHref targetHrefs = .ok overrides)
    (href : String) : overrides.lookup href = queriesByHref.bind fun given => given.get? href := by
  rcases queriesByHref with _ | given
  · cases accepted
    rfl
  · rcases ite_error_eq_ok.mp accepted with ⟨-, accepted⟩
    rw [observeQueryOverridesFrom_ok accepted]
    rfl

/-- The queries that an href's relations are held with, oldest first. -/
def heldQueries (relations : ObserveRelations) (href : String) : List Query :=
  (observationsOf relations [href]).map Observation.query

theorem preservedQueries_eq (observations : List Observation) (href : String) :
    preservedQueries observations href =
      ((observations.filter fun observation => observation.href = href).map
        Observation.query).eraseDups := by
  induction observations using List.reverseRecOn with
  | nil => rfl
  | append_singleton observations last ih =>
      have step : preservedQueries (observations ++ [last]) href =
          if last.href = href ∧ last.query ∉ preservedQueries observations href then
            preservedQueries observations href ++ [last.query]
          else preservedQueries observations href := by
        unfold preservedQueries
        rw [List.foldl_append]
        rfl
      rw [step, List.filter_append, List.map_append]
      by_cases same : last.href = href
      · have kept : [last].filter (fun observation => observation.href = href) = [last] := by
          simp [same]
        rw [kept, List.map_singleton, eraseDups_concat, ← ih]
        by_cases repeated : last.query ∈ preservedQueries observations href
        · rw [if_pos repeated, if_neg fun new => new.2 repeated]
        · rw [if_neg repeated, if_pos ⟨same, repeated⟩]
      · have dropped : [last].filter (fun observation => observation.href = href) = [] := by
          simp [same]
        rw [dropped, List.map_nil, List.append_nil, if_neg fun new => same new.1, ih]

theorem filter_observationsOf (relations : ObserveRelations) {hrefs : List String} {href : String}
    (target : href ∈ hrefs) :
    (observationsOf relations hrefs).filter (fun observation => observation.href = href) =
      observationsOf relations [href] := by
  unfold observationsOf
  rw [List.filter_map, List.filter_filter]
  congr 1
  refine List.filter_congr fun entry _ => ?_
  by_cases same : entry.2 = href
  · simp [same, target]
  · simp [same]

/-- The queries that an href is registered with again. -/
def wantedQueries (relations : ObserveRelations) (override : Option Query) (href : String) :
    List Query :=
  match override with
  | some query => [query]
  | none => if heldQueries relations href = [] then [[]] else (heldQueries relations href).eraseDups

theorem refreshQueries_eq (relations : ObserveRelations) (overrides : List (String × Query))
    {hrefs : List String} {href : String} (target : href ∈ hrefs) :
    refreshQueries overrides (observationsOf relations hrefs) href =
      wantedQueries relations (overrides.lookup href) href := by
  unfold refreshQueries wantedQueries
  rcases overrides.lookup href with _ | query
  · dsimp only
    rw [preservedQueries_eq, filter_observationsOf relations target]
    unfold heldQueries
    rcases (observationsOf relations [href]).map Observation.query with _ | ⟨first, rest⟩
    · rfl
    · rw [List.eraseDups_cons, if_neg (List.cons_ne_nil _ _)]
  · rfl

/-! ### Whole operations -/

/-- The checks that a refresh passes, and the targets that they leave. -/
structure Accepted (surroundings : OperationSurroundings) (paths : List (List String))
    (queriesByHref : Option (OrderedDict String Query)) (targets : List (List String × String))
    (before : OperationState) : Prop where
  live : (surroundings.liveness before.checks).checkLive = .ok ()
  paths : validatedObservePaths paths = .ok targets
  overrides : ∃ overrides,
    validatedObserveQueryOverrides queriesByHref (targets.map Prod.snd) = .ok overrides

/-- The state in which the registrations of a refresh begin. -/
def deregistered (surroundings : OperationSurroundings) (hrefs : List String)
    (before : OperationState) : OperationState :=
  (exec (do
    deregisterAll surroundings (observationsOf before.relations hrefs)
    discardRefetchesForHrefs hrefs) { before with checks := before.checks + 1 }).2

/-- The segments under which a refresh takes a relation back. -/
def refreshSegments (observation : Observation) : List String :=
  Lifecycle.hrefSegments observation.href

/-- What a refresh has done when it returns. -/
structure Refreshed (surroundings : OperationSurroundings)
    (queriesByHref : Option (OrderedDict String Query)) (targets : List (List String × String))
    (attempts : List RegistrationAttempt) (before after : OperationState) : Prop where
  attempted : attempts.map RegistrationAttempt.registration = targets.flatMap fun target =>
    (wantedQueries before.relations (queriesByHref.bind fun given => given.get? target.2)
      target.2).map fun query => ⟨target.1, target.2, query⟩
  chained : Chained surroundings attempts
    (deregistered surroundings (targets.map Prod.snd) before) after
  fresh : ∀ attempt ∈ attempts, ∀ tok, attempt.tok? surroundings = some tok →
    attempt.start.relations.tokens.contains tok = false ∧ ∃ draw, attempt.start.draws ≤ draw ∧
      draw < attempt.start.draws + observeTokenAllocAttempts ∧ tok = surroundings.urandom draw
  others : ∀ tok href, before.relations.tokens.get? tok = some href →
    href ∉ targets.map Prod.snd → ObserveRelations.SameFor tok before.relations after.relations
  gone : ∀ tok href, before.relations.tokens.get? tok = some href → href ∈ targets.map Prod.snd →
    ObserveRelations.Gone tok after.relations ∨
      ∃ attempt ∈ attempts, attempt.tok? surroundings = some tok ∧
        ObserveRelations.Begun tok attempt.registration.href attempt.registration.query
          after.relations
  relations : after.relations.tokens.entries =
    (before.relations.tokens.entries.filter fun entry => entry.2 ∉ targets.map Prod.snd) ++
      attempts.filterMap (·.relation? surroundings)
  queries : ∀ attempt ∈ attempts, ∀ tok, attempt.tok? surroundings = some tok →
    after.relations.query tok = attempt.registration.query
  sends : after.sends = before.sends ++
    (deregistrationSends surroundings refreshSegments
      (observationsOf before.relations (targets.map Prod.snd))
      { before with checks := before.checks + 1 }).filterMap id ++
    attempts.filterMap (·.send? surroundings)

/-- The sends of an unsubscription. -/
def unsubscribeSends (surroundings : OperationSurroundings) (path : List String)
    (before : OperationState) : List (Option SendAttempt) :=
  deregistrationSends surroundings (fun _ => path) (observationsOf before.relations [hrefOf path])
    { before with checks := before.checks + 1 }

/-- What an unsubscription has done once its path is accepted. -/
structure Unsubscribed (surroundings : OperationSurroundings) (path : List String)
    (before after : OperationState) : Prop where
  live : (surroundings.liveness before.checks).checkLive = .ok ()
  accepted : validatedTextOptions path "path_segs" false = .ok path
  others : ∀ tok href, before.relations.tokens.get? tok = some href → href ≠ hrefOf path →
    ObserveRelations.SameFor tok before.relations after.relations
  gone : ∀ tok, before.relations.tokens.get? tok = some (hrefOf path) →
    ObserveRelations.Gone tok after.relations
  relations : after.relations.tokens.entries =
    before.relations.tokens.entries.filter fun entry => entry.2 ≠ hrefOf path
  sends : after.sends = before.sends ++ (unsubscribeSends surroundings path before).filterMap id

section Deregistered

variable {segments : Observation → List String} {hrefs : List String} {tok : ByteString}
  {href : String} {begun : OperationState}

theorem sameFor_deregistered
    (deregisters : Deregisters surroundings segments (observationsOf before.relations hrefs)
      begun after) (same : begun.relations = before.relations)
    (registered : before.relations.tokens.get? tok = some href) (other : href ∉ hrefs) :
    ObserveRelations.SameFor tok before.relations after.relations := by
  rw [deregisters.relations, same]
  apply ObserveRelations.sameFor_retireAll
  rintro observation observationMem rfl
  rcases ObserveRelations.mem_observationsOf.mp observationMem with ⟨observed, target, -⟩
  rw [registered] at observed
  exact other (Option.some.inj observed ▸ target)

theorem gone_deregistered
    (deregisters : Deregisters surroundings segments (observationsOf before.relations hrefs)
      begun after) (same : begun.relations = before.relations)
    (registered : before.relations.tokens.get? tok = some href) (target : href ∈ hrefs) :
    ObserveRelations.Gone tok after.relations := by
  have observationMem : ⟨tok, href, before.relations.query tok⟩ ∈
      observationsOf before.relations hrefs :=
    ObserveRelations.mem_observationsOf.mpr ⟨registered, target, rfl⟩
  rw [deregisters.relations, same]
  exact ObserveRelations.gone_retireAll before.relations observationMem

end Deregistered

/-- Deregistrations and then registrations. -/
theorem Refreshed.of_registers {queriesByHref : Option (OrderedDict String Query)}
    {targets : List (List String × String)} {discarded : OperationState}
    (attempted : attempts.map RegistrationAttempt.registration = targets.flatMap fun target =>
      (wantedQueries before.relations (queriesByHref.bind fun given => given.get? target.2)
        target.2).map fun query => ⟨target.1, target.2, query⟩)
    (deregisters : Deregisters surroundings refreshSegments
      (observationsOf before.relations (targets.map Prod.snd))
      { before with checks := before.checks + 1 } between)
    (discards : discarded.relations = between.relations) (sends : discarded.sends = between.sends)
    (reached : deregistered surroundings (targets.map Prod.snd) before = discarded)
    (chained : Chained surroundings attempts discarded after)
    (registers : Registers surroundings attempts discarded after) :
    Refreshed surroundings queriesByHref targets attempts before after where
  attempted := attempted
  chained := by
    rw [reached]
    exact chained
  fresh attempt _ tok issued := by
    rcases RegistrationAttempt.tok?_eq_some.mp issued with ⟨datagram, made⟩
    exact (registrationSend_eq_some made).1
  others tok href registered other := by
    have same := sameFor_deregistered deregisters rfl registered other
    refine same.trans ?_
    rw [← discards] at same ⊢
    refine registers.untouched tok ?_
    rw [OrderedDict.contains, same.tokens, registered]
    rfl
  gone tok href registered target := by
    have gone := gone_deregistered deregisters rfl registered target
    rw [← discards] at gone
    exact registers.gone tok gone
  relations := by
    rw [registers.entries, discards, deregisters.relations,
      ObserveRelations.entries_retireAll_observationsOf]
  queries := registers.queries
  sends := by rw [registers.sends, sends, deregisters.sends]

theorem ensures_refreshObserves (paths : List (List String))
    (queriesByHref : Option (OrderedDict String Query)) (before : OperationState) :
    Ensures
      (fun counted after => ∃ targets attempts,
        Accepted surroundings paths queriesByHref targets before ∧
        Refreshed surroundings queriesByHref targets attempts before after ∧
        counted = ((successfulHrefs surroundings attempts).eraseDups,
          attempts.countP fun attempt => !attempt.succeeded surroundings))
      (fun _ after => Unseen before after ∧
        ∀ targets, ¬Accepted surroundings paths queriesByHref targets before)
      (refreshObserves surroundings paths queriesByHref) before := by
  refine ensures_checkLive_bind (fun error dead => ⟨⟨rfl, rfl, rfl⟩, ?_⟩) fun live => ?_
  · rintro targets ⟨live, -, -⟩
    rw [dead] at live
    cases live
  refine ensures_readOnly_bind (fun error refused => ⟨⟨rfl, rfl, rfl⟩, ?_⟩) fun targets paths => ?_
  · rintro targets ⟨-, paths, -⟩
    rw [paths] at refused
    cases refused
  have paths := eq_ok_of_mapError paths
  refine ensures_readOnly_bind (fun error refused => ⟨⟨rfl, rfl, rfl⟩, ?_⟩)
    fun overrides overridden => ?_
  · rintro others ⟨-, own, overrides, overridden⟩
    cases paths.symm.trans own
    rw [overridden] at refused
    cases refused
  have overridden := eq_ok_of_mapError overridden
  have none : ([] : List (List String × String)).map Prod.snd = ([] : List String).eraseDups := rfl
  refine ensures_get_bind ((ensures_deregisterAll _ _).with_exec.bind ?_
    fun _ _ impossible => impossible.1.elim)
  rintro ⟨⟩ between ⟨deregisters, ran⟩
  refine ensures_modify_bind ((ensures_registerAll _ ?_ [] 0 _).mono ?_ fun _ _ => False.elim)
  · intro registration registrationMem
    rcases List.mem_flatMap.mp registrationMem with ⟨target, targetMem, queried⟩
    rcases List.mem_map.mp queried with ⟨query, -, rfl⟩
    exact ((observePathsFrom_ok none paths).2 target targetMem).resolve_left List.not_mem_nil |>.2
  · rintro counted after ⟨attempts, attempted, chained, registers, rfl⟩
    refine ⟨targets, attempts, ⟨live, paths, overrides, overridden⟩, ?_,
      by rw [List.nil_append, Nat.zero_add]⟩
    refine .of_registers ?_ deregisters ?_ ?_ ?_ chained registers
    · rw [attempted]
      refine List.flatMap_congr fun target targetMem => ?_
      rw [refreshQueries_eq before.relations overrides (List.mem_map_of_mem targetMem),
        lookup_of_validated overridden]
    · rfl
    · rfl
    · unfold deregistered
      rw [exec_bind, ran]
      rfl

/-- The loop reports a failure exactly if a deregistration was not sent. -/
theorem ensures_unsubscribeAll (path : List String) (observations : List Observation)
    (firstError : Option GetFailure) (before : OperationState) :
    Ensures (fun failure after =>
        Deregisters surroundings (fun _ => path) observations before after ∧
        (failure = none ↔ firstError = none ∧
          AllSent (deregistrationSends surroundings (fun _ => path) observations before)))
      (fun _ _ => False) (unsubscribeAll surroundings path observations firstError) before := by
  induction observations generalizing firstError before with
  | nil => exact ensures_pure ⟨.nil _ before, by simp [AllSent, deregistrationSends]⟩
  | cons observation observations ih =>
      refine (ensures_sendObserve _ _ _ _ before).with_exec.attempt_bind ?_ ?_
      · rintro ⟨⟩ between ⟨⟨⟨datagram, handed⟩, sent⟩, ran⟩
        refine ensures_modify_bind ((ih firstError _).mono ?_ fun _ _ => id)
        rintro failure after ⟨rest, failures⟩
        refine ⟨.cons ran sent rest, failures.trans (and_congr_right fun _ => ?_)⟩
        rw [deregistrationSends, sendObserveDereg, ran]
        simp [AllSent, handed]
      · rintro error between ⟨⟨failed, sent⟩, ran⟩
        have unsent : ¬AllSent (deregistrationSends surroundings (fun _ => path)
            (observation :: observations) before) := by
          intro allSent
          rcases allSent _ List.mem_cons_self with ⟨datagram, handed⟩
          exact failed datagram handed
        refine ensures_modify_bind ?_
        cases firstError with
        | none =>
            refine (ih (some error) _).mono ?_ fun _ _ => id
            rintro failure after ⟨rest, failures⟩
            exact ⟨.cons ran sent rest, by simp [failures, unsent]⟩
        | some first =>
            refine (ih (some first) _).mono ?_ fun _ _ => id
            rintro failure after ⟨rest, failures⟩
            exact ⟨.cons ran sent rest, by simp [failures]⟩

theorem ensures_unsubscribe (path : List String) (before : OperationState) :
    Ensures
      (fun count after => Unsubscribed surroundings path before after ∧
        AllSent (unsubscribeSends surroundings path before) ∧
        count = (heldQueries before.relations (hrefOf path)).length)
      (fun _ after => Unseen before after ∧
          ((surroundings.liveness before.checks).checkLive ≠ .ok () ∨
            validatedTextOptions path "path_segs" false ≠ .ok path) ∨
        Unsubscribed surroundings path before after ∧
          ¬AllSent (unsubscribeSends surroundings path before))
      (unsubscribe surroundings path) before := by
  refine ensures_checkLive_bind (fun error dead => .inl ⟨⟨rfl, rfl, rfl⟩, .inl ?_⟩) fun live => ?_
  · simp [dead]
  refine ensures_readOnly_bind (fun error refused => .inl ⟨⟨rfl, rfl, rfl⟩, .inr ?_⟩)
    fun kept accepted => ?_
  · intro accepted
    rw [accepted] at refused
    cases refused
  cases validatedTextOptions_eq accepted
  have accepted := eq_ok_of_mapError accepted
  refine ensures_get_bind ((ensures_unsubscribeAll path _ none _).bind ?_ fun _ _ => False.elim)
  rintro firstError between ⟨deregisters, failures⟩
  refine ensures_modify_bind ?_
  have unsubscribed {after : OperationState} (discards : after.relations = between.relations)
      (sends : after.sends = between.sends) : Unsubscribed surroundings path before after := by
    refine ⟨live, accepted, fun tok href registered other => ?_, fun tok registered => ?_, ?_, ?_⟩
    · rw [discards]
      exact sameFor_deregistered deregisters rfl registered (by simpa using other)
    · rw [discards]
      exact gone_deregistered deregisters rfl registered (List.mem_singleton_self _)
    · rw [discards, deregisters.relations, ObserveRelations.entries_retireAll_observationsOf]
      simp
    · rw [sends]
      exact deregisters.sends
  cases firstError with
  | none =>
      exact ensures_pure ⟨unsubscribed rfl rfl, (failures.mp rfl).2, by simp [heldQueries]⟩
  | some error =>
      refine ensures_throw (.inr ⟨unsubscribed rfl rfl, fun allSent => ?_⟩)
      cases failures.mpr ⟨rfl, allSent⟩

/-- The targets of a refresh: each path's href once, in order. -/
theorem Accepted.targets {paths : List (List String)}
    {queriesByHref : Option (OrderedDict String Query)} {targets : List (List String × String)}
    (accepted : Accepted surroundings paths queriesByHref targets before) :
    targets.map Prod.snd = (paths.map hrefOf).eraseDups ∧
      ∀ target ∈ targets, target.1 ∈ paths ∧ target.2 = hrefOf target.1 := by
  have none : ([] : List (List String × String)).map Prod.snd = ([] : List String).eraseDups := rfl
  rcases observePathsFrom_ok none accepted.paths with ⟨hrefs, sources⟩
  exact ⟨hrefs, fun target targetMem =>
    (sources target targetMem).resolve_left List.not_mem_nil⟩

end OperationState

/--
A refresh returns exactly if its checks pass; otherwise it changes nothing. It retires
the relations of its targets, tries each wanted query of each target once and keeps those
whose datagram was sent, under tokens that no relation has when they are drawn, and
reports them; a token of a target is gone, or it was drawn again and is the token of a new
relation with nothing left of the old one. An unsubscription retires exactly the relations
of its path, and fails exactly if a check or a send does. No other relation changes.
-/
theorem relation_operations_touch_their_targets (surroundings : OperationSurroundings)
    (before : OperationState) :
    (∀ paths queriesByHref, Ensures
      (fun counted after => ∃ targets attempts,
        OperationState.Accepted surroundings paths queriesByHref targets before ∧
        (targets.map Prod.snd = (paths.map hrefOf).eraseDups ∧
          ∀ target ∈ targets, target.1 ∈ paths ∧ target.2 = hrefOf target.1) ∧
        OperationState.Refreshed surroundings queriesByHref targets attempts before after ∧
        counted = ((OperationState.successfulHrefs surroundings attempts).eraseDups,
          attempts.countP fun attempt => !attempt.succeeded surroundings))
      (fun _ after => OperationState.Unseen before after ∧ ∀ targets,
        ¬OperationState.Accepted surroundings paths queriesByHref targets before)
      (OperationState.refreshObserves surroundings paths queriesByHref) before) ∧
    ∀ path, Ensures
      (fun count after => OperationState.Unsubscribed surroundings path before after ∧
        OperationState.AllSent (OperationState.unsubscribeSends surroundings path before) ∧
        count = (OperationState.heldQueries before.relations (hrefOf path)).length)
      (fun _ after => OperationState.Unseen before after ∧
          ((surroundings.liveness before.checks).checkLive ≠ .ok () ∨
            validatedTextOptions path "path_segs" false ≠ .ok path) ∨
        OperationState.Unsubscribed surroundings path before after ∧
          ¬OperationState.AllSent (OperationState.unsubscribeSends surroundings path before))
      (OperationState.unsubscribe surroundings path) before := by
  refine ⟨fun paths queriesByHref => ?_, fun path =>
    OperationState.ensures_unsubscribe path before⟩
  refine (OperationState.ensures_refreshObserves paths queriesByHref before).mono ?_
    fun _ _ refused => refused
  rintro counted after ⟨targets, attempts, accepted, refreshed, same⟩
  exact ⟨targets, attempts, accepted, accepted.targets, refreshed, same⟩

namespace OperationState

/-- Surroundings in which every check passes. -/
def sampleSurroundings (urandom : ℕ → UInt8) (delivered : ℕ → Bool) : OperationSurroundings where
  urandom draw := List.replicate observeTokenLen (urandom draw)
  length_urandom _ := List.length_replicate
  liveness _ := ⟨false, true, true, true, false⟩
  delivered := delivered

/-- Two relations of one path and one of another. -/
def sampleBefore : OperationState :=
  let session := Session.started ⟨true, true, true, true, true⟩ 0 0
  { registry := session.registry
    refetch := session.refetch
    relations := ((session.relations.register [1] "/a" ["b"]).register (List.replicate 8 9) "/a"
      []).register [3] "/c" [] }

end OperationState

/-- Of the two relations of `/a` only the second is registered again. -/
theorem relation_operations_touch_their_targets_example :
    let surroundings := OperationState.sampleSurroundings UInt8.ofNat fun send => send ≠ 2
    let before := OperationState.sampleBefore
    let outcome := exec (OperationState.refreshObserves surroundings [["a"], ["a"]] none) before
    outcome.1 = .ok (["/a"], 1) ∧
      outcome.2.relations.tokens.entries = [([3], "/c"), (List.replicate 8 1, "/a")] ∧
      outcome.2.sends.map (·.error) = [none, none, some .endpointError, none] ∧
      ∃ targets attempts, OperationState.Refreshed surroundings none targets attempts before
        outcome.2 := by
  intro surroundings before outcome
  have returned : outcome.1 = .ok (["/a"], 1) := by decide +kernel
  refine ⟨returned, by decide +kernel, by decide +kernel, ?_⟩
  have touched := (relation_operations_touch_their_targets surroundings before).1
    [["a"], ["a"]] none
  unfold Ensures at touched
  rw [show exec (OperationState.refreshObserves surroundings [["a"], ["a"]] none) before =
    (.ok (["/a"], 1), outcome.2) from Prod.ext returned rfl] at touched
  rcases touched with ⟨targets, attempts, -, -, refreshed, -⟩
  exact ⟨targets, attempts, refreshed⟩

/-- A draw may be the token that the refresh has just retired, which then stays registered. -/
theorem retired_token_drawn_again :
    let surroundings := OperationState.sampleSurroundings (fun _ => 9) fun _ => true
    let before := OperationState.sampleBefore
    let outcome := exec (OperationState.refreshObserves surroundings [["a"]]
      (some (OrderedDict.empty.set "/a" []))) before
    outcome.1 = .ok (["/a"], 0) ∧
      before.relations.tokens.get? (List.replicate 8 9) = some "/a" ∧
      ¬ObserveRelations.Gone (List.replicate 8 9) outcome.2.relations := by
  refine ⟨by decide +kernel, by decide +kernel, fun gone => ?_⟩
  exact absurd gone.tokens (by decide +kernel)

end SmartThingsLocal
