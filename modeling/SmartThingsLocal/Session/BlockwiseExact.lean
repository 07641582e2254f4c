import SmartThingsLocal.Coap.Block2Assembly
import SmartThingsLocal.Session.BlockwiseGet
import SmartThingsLocal.Session.Reader

/-!
# A blockwise GET never mixes versions

The server holds any number of versions of a resource, each under its own ETag,
and answers with true slices of them. The thread of a GET, the reader and the
other threads run in any order. A 2.05 result is then one version as a whole: the
responses taken into the accumulator carry the ETag of the first one, and each
continues what has been assembled.
-/

namespace SmartThingsLocal

open Session Fallible

/-- A 2.05 response carries exactly one ETag and a true slice of the version it names. -/
def HonestVersion (versions : ByteString → ByteString) (message : CoapMessage) : Prop :=
  message.code = 0x45 → ∃ etag, optionValues message.options Coap.etag = [etag] ∧
    Block2Accumulator.HonestResponse (versions etag) message

/-- A response that was received on the token, from an honest server. -/
structure Answer (versions : ByteString → ByteString) (responses : List CoapMessage)
    (tok : ByteString) (message : CoapMessage) : Prop where
  received : message ∈ responses
  token : message.token = tok
  honest : HonestVersion versions message

/-- One version as a whole, or the code of a response that is not a 2.05. -/
def GetResult.Sound (versions : ByteString → ByteString) (responses : List CoapMessage)
    (result : GetResult) : Prop :=
  (result.code = some 0x45 ∧ ∃ etag, result.payload = versions etag) ∨
    ∃ message ∈ responses, message.token = result.tok ∧ message.code ≠ 0x45 ∧
      result.code = some message.code

/-- What has been assembled is a part of the version whose ETag is being compared. -/
structure BlockTransfer.Exact (versions : ByteString → ByteString) (tokens : Set ByteString)
    (transfer : BlockTransfer) : Prop where
  token : transfer.tok ∈ tokens
  empty : transfer.accumulator.blocksReceived = 0 →
    ∀ representation, Block2Accumulator.Assembled representation transfer.accumulator
  version : transfer.accumulator.blocksReceived ≠ 0 → transfer.accumulator.code = some 0x45 →
    ∃ etag, transfer.etag = some etag ∧
      Block2Accumulator.Assembled (versions etag) transfer.accumulator

/-- A registered request that only its own token leads to. -/
structure Awaited (versions : ByteString → ByteString) (responses : List CoapMessage)
    (registry : Registry) (tok : ByteString) (request : RequestId) : Prop where
  allocated : request < registry.nextRequest
  onlyToken : ∀ other, registry.pending.get? other = some request → other = tok
  answer : ∀ message, (registry.requests request).message = some message →
    Answer versions responses tok message

def ExchangePoint.response? : ExchangePoint → Option CoapMessage
  | .leaving (.ok message) => some message
  | _ => none

/-- What holds between two steps of the thread. -/
def GetPoint.Exact (versions : ByteString → ByteString) (tokens : Set ByteString)
    (responses : List CoapMessage) (registry : Registry) : GetPoint → Prop
  | .start _ => True
  | .request transfer => transfer.Exact versions tokens
  | .exchange transfer block point =>
      transfer.Exact versions tokens ∧
        Awaited versions responses registry transfer.tok block.request ∧
        ∀ message, point.response? = some message →
          Answer versions responses transfer.tok message
  | .finished (.ok result) => result.Sound versions responses
  | .finished (.error _) => True

variable {versions : ByteString → ByteString} {tokens : Set ByteString}
  {responses : List CoapMessage}

/-! ### Taking in a response -/

namespace Block2Accumulator

variable {acc : Block2Accumulator} {message : CoapMessage} {metadata : Metadata} {more : Bool}
  {responseSzx : Option ℕ} {nextOffset : ℕ}

/-- The code of the metadata is the code of the response, and the code so far if there is one. -/
theorem nextMetadata_code (checked : nextMetadata acc message = .ok metadata) :
    metadata.code = some message.code ∧
      (acc.blocksReceived ≠ 0 → acc.code = some message.code) := by
  unfold nextMetadata at checked
  rcases bind_eq_ok.mp checked with ⟨etag, _, checked⟩
  rcases bind_eq_ok.mp checked with ⟨contentFormat, _, checked⟩
  rcases bind_eq_ok.mp checked with ⟨size2, _, checked⟩
  rcases ite_error_eq_ok.mp checked with ⟨_, checked⟩
  by_cases first : acc.blocksReceived = 0
  · rw [if_pos first] at checked
    cases checked
    exact ⟨rfl, fun later => absurd first later⟩
  · rw [if_neg first] at checked
    rcases ite_error_eq_ok.mp checked with ⟨same, checked⟩
    rcases ite_error_eq_ok.mp checked with ⟨_, checked⟩
    rcases ite_error_eq_ok.mp checked with ⟨_, checked⟩
    cases checked
    have code := (not_not.mp same).symm
    exact ⟨code, fun _ => code⟩

end Block2Accumulator

/-- An honest 2.05 that does not change the ETag carries the one that is compared. -/
theorem comparedEtag_eq {transfer : BlockTransfer} {message : CoapMessage} {etag : ByteString}
    (success : message.code >>> 5 = 2) (carried : optionValues message.options Coap.etag = [etag])
    (unchanged : etagChanged transfer message = false)
    (known : transfer.accumulator.blocksReceived ≠ 0 → transfer.etag ≠ none) :
    comparedEtag transfer message = some etag := by
  unfold comparedEtag
  by_cases first : transfer.accumulator.blocksReceived = 0
  · rw [if_pos ⟨success, first⟩, carried]
    rfl
  · rw [if_neg fun both => first both.2]
    simp only [etagChanged, carried, success, List.head?_cons, decide_eq_false_iff_not] at unchanged
    by_contra other
    exact unchanged ⟨trivial, first, known first, Ne.symm other⟩

/-- After an honest 2.05 block the accumulator still holds a part of one version. -/
theorem accepted_assembled {transfer : BlockTransfer} {message : CoapMessage}
    {metadata : Block2Accumulator.Metadata} {more : Bool} {responseSzx : Option ℕ} {nextOffset : ℕ}
    (soFar : transfer.Exact versions tokens) (honest : HonestVersion versions message)
    (unchanged : etagChanged transfer message = false)
    (accepted : Block2Accumulator.Accepted transfer.accumulator message metadata more responseSzx
      nextOffset) (content : message.code = 0x45) :
    ∃ etag, comparedEtag transfer message = some etag ∧
      Block2Accumulator.Assembled (versions etag) (transfer.accumulator.respond message).2 := by
  rcases honest content with ⟨etag, carried, slice⟩
  have code := (Block2Accumulator.nextMetadata_code accepted.metadata_eq).2
  have known : transfer.accumulator.blocksReceived ≠ 0 →
      transfer.etag ≠ none := by
    intro later
    rw [content] at code
    rcases soFar.version later (code later) with ⟨compared, isCompared, _⟩
    simp [isCompared]
  have compared := comparedEtag_eq slice.success carried unchanged known
  refine ⟨etag, compared, Block2Accumulator.assembled_respond ?_ slice⟩
  by_cases first : transfer.accumulator.blocksReceived = 0
  · exact soFar.empty first _
  · rw [content] at code
    rcases soFar.version first (code first) with ⟨same, isSame, assembled⟩
    rw [comparedEtag, if_neg fun both => first both.2, isSame] at compared
    cases compared
    exact assembled

/-- A response that is taken in leaves one version, or finishes with one or another code. -/
theorem receiveBlock_exact {transfer : BlockTransfer} {message : CoapMessage}
    (soFar : transfer.Exact versions tokens)
    (answer : Answer versions responses transfer.tok message)
    (registry : Registry) :
    (receiveBlock transfer message).Exact versions tokens responses registry := by
  unfold receiveBlock
  by_cases changed : etagChanged transfer message = true
  · rw [if_pos changed]
    split_ifs <;> trivial
  rw [if_neg changed]
  have unchanged : etagChanged transfer message = false := by simpa using changed
  rcases Block2Accumulator.respond_cases transfer.accumulator message with
    ⟨error, failed⟩ | repeated | ⟨failure, _, _, finished⟩ |
      ⟨metadata, more, responseSzx, nextOffset, accepted, extended⟩
  · rw [failed]
    trivial
  · rw [repeated]
    refine ⟨soFar.token, soFar.empty, ?_⟩
    intro later
    have same : comparedEtag transfer message = transfer.etag :=
      if_neg fun both => later both.2
    rw [same]
    exact soFar.version later
  · rw [finished]
    refine .inr ⟨message, answer.received, answer.token, ?_, rfl⟩
    intro content
    rw [content] at failure
    exact failure rfl
  · have code := (Block2Accumulator.nextMetadata_code accepted.metadata_eq).1
    have assembled := accepted_assembled soFar answer.honest unchanged accepted
    rw [extended] at assembled ⊢
    cases more with
    | true =>
        refine ⟨soFar.token, fun none => by simp [Block2Accumulator.afterBlock] at none, ?_⟩
        intro _ content
        simp only [Block2Accumulator.afterBlock, if_true, code, Option.some.injEq] at content
        exact assembled content
    | false =>
        by_cases content : message.code = 0x45
        · rcases assembled content with ⟨etag, _, whole⟩
          exact .inl ⟨by simp [Block2Accumulator.afterBlock, code, content], etag, whole.whole rfl⟩
        · exact .inr ⟨message, answer.received, answer.token, content,
            by simp [Block2Accumulator.afterBlock, code]⟩

/-! ### The steps of the thread -/

/-- A look into the container keeps the response, drops it, or returns it. -/
theorem readContainer_cases (record : PendingRequest) (num szx : ℕ) :
    ((readContainer record num szx).2.message = none ∨
      (readContainer record num szx).2.message = record.message) ∧
    ∀ message, (readContainer record num szx).1 = some (.ok message) →
      record.message = some message := by
  unfold readContainer
  split
  · exact ⟨.inr rfl, by simp⟩
  · rename_i message _ held
    split_ifs
    · refine ⟨.inr rfl, ?_⟩
      intro found isFound
      cases isFound
      exact held
    · exact ⟨.inl rfl, by simp⟩
  · exact ⟨.inr rfl, by simp⟩

theorem response?_afterWait (deadline now : ℚ) (attempt : ℕ) (acknowledged : Bool) :
    (afterWait deadline now attempt acknowledged).response? = none := by
  unfold afterWait afterAttempt
  split_ifs <;> rfl

/--
A step of `_exchange_block` writes to its own record only, adds no response to it,
and leaves with the response it holds.
-/
theorem exchangeStep_cases (session : Session) (now : ℚ) (delivered : Bool)
    (transfer : BlockTransfer) (block : BlockExchange) (point : ExchangePoint) :
    (∃ record : PendingRequest,
      (record.message = none ∨
        record.message = (session.registry.requests block.request).message) ∧
      (exchangeStep session now delivered transfer block point).1.registry =
        session.registry.modifyRequest block.request fun _ => record) ∧
    ∀ message, (exchangeStep session now delivered transfer block point).2.1.response? =
        some message →
      point.response? = some message ∨
        (session.registry.requests block.request).message = some message := by
  have unchanged : session.registry = session.registry.modifyRequest block.request
      fun _ => session.registry.requests block.request := by
    simp [Registry.modifyRequest]
  cases point with
  | checking attempt =>
      refine ⟨⟨_, .inr rfl, ?_⟩, ?_⟩
      · simp only [exchangeStep]
        repeat' split
        all_goals exact unchanged
      · simp only [exchangeStep]
        repeat' split
        all_goals simp [ExchangePoint.response?]
  | sending attempt =>
      refine ⟨⟨_, .inr rfl, ?_⟩, ?_⟩
      · simp only [exchangeStep]
        split <;> exact unchanged
      · simp only [exchangeStep]
        split <;> simp [ExchangePoint.response?]
  | reading attempt =>
      rcases readContainer_cases (session.registry.requests block.request)
        transfer.accumulator.expectedNumber transfer.accumulator.szx with ⟨kept, found⟩
      refine ⟨⟨_, kept, ?_⟩, ?_⟩
      · simp only [exchangeStep]
        repeat' split
        all_goals rfl
      · intro message
        simp only [exchangeStep]
        split
        · rename_i result isFound
          cases result with
          | error error => simp [ExchangePoint.response?]
          | ok other =>
              intro isResponse
              cases isResponse
              exact .inr (found _ isFound)
        · split
          · rw [response?_afterWait]
            simp
          · simp [ExchangePoint.response?]
  | waiting attempt deadline acknowledged =>
      refine ⟨⟨_, .inr rfl, ?_⟩, ?_⟩
      · simp only [exchangeStep]
        split <;> exact unchanged
      · simp only [exchangeStep]
        split
        · simp [response?_afterWait]
        · simp [ExchangePoint.response?]
  | polling attempt deadline sliceEnd acknowledged =>
      refine ⟨⟨_, .inr rfl, ?_⟩, ?_⟩
      · simp only [exchangeStep]
        repeat' split
        all_goals exact unchanged
      · simp only [exchangeStep]
        repeat' split
        all_goals simp [ExchangePoint.response?]
  | leaving result => exact ⟨⟨_, .inr rfl, unchanged⟩, fun message held => .inl held⟩

/-- A fresh transfer has assembled nothing. -/
theorem created_exact {tok : ByteString} {accumulator : Block2Accumulator}
    (created : Block2Accumulator.create tok Coap.maxBlock2Blocks Coap.maxBlock2PayloadBytes none =
      .ok accumulator) (minted : tok ∈ tokens) (restarted : Bool) (deadline : ℚ) :
    BlockTransfer.Exact versions tokens ⟨restarted, tok, accumulator, none, deadline⟩ := by
  refine ⟨minted,
    fun _ representation => (Block2Accumulator.create_assembled created representation).1, ?_⟩
  unfold Block2Accumulator.create at created
  split_ifs at created
  cases created
  intro later
  exact absurd rfl later

/-- A registration makes a request that is awaited on its token. -/
theorem registered_awaited {registry allocated : Registry} {tok : ByteString} {mid : ℕ}
    {request : RequestId} (bounded : registry.Bounded)
    (registered : registry.registerPendingRequest tok {} = (.ok (mid, request), allocated)) :
    Awaited versions responses allocated tok request := by
  rcases Registry.registerPendingRequest_eq registered with ⟨rfl, next, pending, requests⟩
  refine ⟨next.ge, ?_, ?_⟩
  · intro other pends
    rw [pending, OrderedDict.get?_set] at pends
    split_ifs at pends with same
    · exact same
    · exact absurd (bounded other _ pends) (lt_irrefl _)
  · intro message held
    simp [requests] at held

theorem getStep_exact (arguments : GetArguments) {session : Session} (now : ℚ) (delivered : Bool)
    {point : GetPoint} (bounded : session.registry.Bounded)
    (minted : ∀ restarted, point = .start restarted → session.registry.nextTok.1 ∈ tokens)
    (holds : point.Exact versions tokens responses session.registry) :
    (getStep arguments session now delivered point).1.registry.Bounded ∧
      (getStep arguments session now delivered point).2.1.Exact versions tokens responses
        (getStep arguments session now delivered point).1.registry := by
  cases point with
  | start restarted =>
      simp only [getStep]
      split
      · exact ⟨bounded, trivial⟩
      · rename_i accumulator created
        exact ⟨bounded, created_exact created (minted restarted rfl) restarted _⟩
  | request transfer =>
      simp only [getStep]
      split
      · exact ⟨bounded, trivial⟩
      generalize registered :
        session.registry.registerPendingRequest transfer.tok {} = outcome
      rcases outcome with ⟨error | ⟨mid, request⟩, registry⟩
      · rcases Registry.registerPendingRequest_error registered with ⟨pending, _, next⟩
        refine ⟨?_, trivial⟩
        intro tok request pends
        dsimp only at pends ⊢
        rw [pending] at pends
        rw [next]
        exact bounded tok request pends
      · dsimp only
        split
        · exact ⟨bounded.register registered, trivial⟩
        · exact ⟨bounded.register registered, holds, registered_awaited bounded registered,
            by simp [ExchangePoint.response?]⟩
  | finished result => exact ⟨bounded, holds⟩
  | exchange transfer block point =>
      rcases holds with ⟨soFar, awaited, answered⟩
      by_cases leaves : ∃ result, point = .leaving result
      · rcases leaves with ⟨result, rfl⟩
        refine ⟨?_, ?_⟩
        · cases result <;>
            exact (Registry.unregister_leaves block.request block.request transfer.tok
              block.mid).bounded bounded
        · cases result with
          | error error => trivial
          | ok message => exact receiveBlock_exact soFar (answered message rfl) _
      · rw [getStep_exchange arguments session now delivered transfer block
          (not_exists.mp leaves)]
        rcases exchangeStep_cases session now delivered transfer block point with
          ⟨⟨record, kept, registry⟩, response⟩
        dsimp only
        rw [registry]
        refine ⟨bounded, soFar, ⟨awaited.allocated, awaited.onlyToken, ?_⟩, ?_⟩
        · intro message held
          simp only [Registry.modifyRequest, Function.update_self] at held
          rcases kept with none | same
          · rw [none] at held
            cases held
          · rw [same] at held
            exact awaited.answer message held
        · intro message isResponse
          rcases response message isResponse with before | held
          · exact answered message before
          · exact awaited.answer message held

/-! ### Runs -/

/-- The session, its reader, the thread of a GET, and the responses received so far. -/
structure GetState where
  session : Session
  reader : DispatchPoint
  getter : GetPoint
  responses : List CoapMessage

/-- A datagram arrives, the reader or the GET moves on, or another thread changes the session. -/
inductive GetAction
  | receive (datagram : ByteString)
  | advance (now : ℚ)
  | get (now : ℚ) (delivered : Bool)
  | others (session : Session)

def GetState.perform (arguments : GetArguments) (action : GetAction) (state : GetState) :
    GetState :=
  match action with
  | .receive datagram =>
      if state.reader = .idle then
        let reader := (receive state.session datagram).1
        { state with reader, responses := state.responses ++ reader.message?.toList }
      else state
  | .advance now =>
      let (session, reader, _) := dispatchStep state.session now state.reader
      { state with session, reader }
  | .get now delivered =>
      let (session, getter, _) := getStep arguments state.session now delivered state.getter
      { state with session, getter }
  | .others session => { state with session }

/-- The request that the thread waits for. -/
def GetPoint.request? : GetPoint → Option RequestId
  | .exchange _ block _ => some block.request
  | _ => none

/--
Every 2.05 that arrives on one of the tokens is honest, the GET uses such a token, and
no other thread answers its request.
-/
def HonestServer (versions : ByteString → ByteString) (tokens : Set ByteString) (state : GetState) :
    GetAction → Prop
  | .receive datagram => ∀ message acknowledgement,
      classifyCoapResponse datagram none none = .ok ⟨.response, message, acknowledgement⟩ →
        message.token ∈ tokens → HonestVersion versions message
  | .advance _ => True
  | .get _ _ => ∀ restarted, state.getter = .start restarted →
      state.session.registry.nextTok.1 ∈ tokens
  | .others session =>
      (state.session.registry.Bounded → session.registry.Bounded) ∧
        ∀ request, state.getter.request? = some request →
          Registry.Leaves request state.session.registry session.registry

structure ExactInvariant (versions : ByteString → ByteString) (tokens : Set ByteString)
    (state : GetState) : Prop where
  bounded : state.session.registry.Bounded
  reader : ∀ message, state.reader.message? = some message →
    message ∈ state.responses ∧ (message.token ∈ tokens → HonestVersion versions message)
  getter : state.getter.Exact versions tokens state.responses state.session.registry

/-- More responses, and changes that leave the request alone. -/
theorem GetPoint.Exact.extend {registry after : Registry} {point : GetPoint}
    {later : List CoapMessage} (holds : point.Exact versions tokens responses registry)
    (leaves : ∀ request, point.request? = some request → Registry.Leaves request registry after)
    (grows : responses ⊆ later) : point.Exact versions tokens later after := by
  have still {tok : ByteString} {message : CoapMessage}
      (answer : Answer versions responses tok message) : Answer versions later tok message :=
    ⟨grows answer.received, answer.token, answer.honest⟩
  cases point with
  | start _ => trivial
  | request transfer => exact holds
  | finished result =>
      cases result with
      | error _ => trivial
      | ok result =>
          rcases holds with whole | ⟨message, received, other⟩
          · exact .inl whole
          · exact .inr ⟨message, grows received, other⟩
  | exchange transfer block point =>
      rcases holds with ⟨soFar, awaited, answered⟩
      have left := leaves block.request rfl
      refine ⟨soFar, ⟨?_, ?_, ?_⟩, fun message held => still (answered message held)⟩
      · exact awaited.allocated.trans_le left.allocated
      · exact fun other pends => awaited.onlyToken other (left.tokens other pends)
      · intro message held
        rw [left.message] at held
        exact still (awaited.answer message held)

/-- The reader resolves a request with a response it has received. -/
theorem GetPoint.Exact.resolve {registry : Registry} {point : GetPoint} {message : CoapMessage}
    {request : RequestId} (holds : point.Exact versions tokens responses registry)
    (received : message ∈ responses)
    (honest : message.token ∈ tokens → HonestVersion versions message)
    (pends : registry.pending.get? message.token = some request) :
    point.Exact versions tokens responses (registry.modifyRequest request fun record =>
      { record with message := some message }) := by
  cases point with
  | start _ => trivial
  | request transfer => exact holds
  | finished result => cases result <;> exact holds
  | exchange transfer block point =>
      by_cases own : request = block.request
      · subst own
        rcases holds with ⟨soFar, awaited, answered⟩
        have token := awaited.onlyToken _ pends
        refine ⟨soFar, ⟨awaited.allocated, awaited.onlyToken, ?_⟩, answered⟩
        intro other held
        simp only [Registry.modifyRequest, Function.update_self, Option.some.injEq] at held
        subst held
        exact ⟨received, token, honest (token ▸ soFar.token)⟩
      · apply holds.extend _ (List.Subset.refl _)
        intro other isOther
        cases isOther
        exact Registry.modifyRequest_leaves fun same => absurd same own

theorem exact_perform (arguments : GetArguments) (state : GetState) (action : GetAction)
    (invariant : ExactInvariant versions tokens state)
    (condition : HonestServer versions tokens state action) :
    ExactInvariant versions tokens (state.perform arguments action) := by
  rcases state with ⟨session, reader, getter, responses⟩
  cases action with
  | receive datagram =>
      simp only [GetState.perform]
      split_ifs with idle
      · refine ⟨invariant.bounded, ?_, ?_⟩
        · intro message taken
          rcases (receive_cases session datagram).2.2 message taken with ⟨_, response⟩
          exact ⟨by simp [taken], condition message _ response⟩
        · exact invariant.getter.extend (fun request _ => .refl _ _)
            (List.subset_append_left _ _)
      · exact invariant
  | advance now =>
      have carried {message : CoapMessage} :
          (dispatchStep session now reader).2.1.message? = some message →
            reader.message? = some message :=
        (dispatchStep_advances session now reader).message
      have reads := invariant.reader
      rcases dispatchStep_registry session now reader with
        leaves | ⟨message, request, rfl, pends, _, registry⟩
      · refine ⟨(leaves 0).bounded invariant.bounded,
          fun message held => reads message (carried held), ?_⟩
        exact invariant.getter.extend (fun request _ => leaves request) (List.Subset.refl _)
      · rcases reads message rfl with ⟨received, honest⟩
        refine ⟨?_, fun other held => reads other (carried held), ?_⟩
        · simp only [GetState.perform]
          rw [registry]
          exact invariant.bounded
        · simp only [GetState.perform]
          rw [registry]
          exact invariant.getter.resolve received honest pends
  | get now delivered =>
      rcases getStep_exact arguments now delivered invariant.bounded condition invariant.getter with
        ⟨bounded, getter⟩
      exact ⟨bounded, invariant.reader, getter⟩
  | others other =>
      exact ⟨condition.1 invariant.bounded, invariant.reader,
        invariant.getter.extend condition.2 (List.Subset.refl _)⟩

/--
However the responses of an honest server are lost, repeated, delayed and reordered, a
GET that returns with code 2.05 returns one version as a whole, and one that returns
with another code returns the code of a response that is not a 2.05.
-/
theorem blockwise_get_one_version (versions : ByteString → ByteString) (tokens : Set ByteString)
    (arguments : GetArguments) {start : GetState} (begins : start.getter = .start false)
    (idle : start.reader = .idle) (bounded : start.session.registry.Bounded)
    {actions : List GetAction}
    (meets : Machine.Meets (GetState.perform arguments) (HonestServer versions tokens) actions
      start) :
    ∀ result,
      (Machine.run (GetState.perform arguments) actions start).getter = .finished (.ok result) →
        result.Sound versions
          (Machine.run (GetState.perform arguments) actions start).responses := by
  have initial : ExactInvariant versions tokens start := by
    refine ⟨bounded, ?_, ?_⟩
    · simp [idle, DispatchPoint.message?]
    · simp [begins, GetPoint.Exact]
  have reached := (Machine.invariant_run (exact_perform arguments) meets initial).getter
  intro result finished
  rw [finished] at reached
  exact reached

/-- One block request that is sent once and answered by one datagram. -/
def answeredBy (datagram : ByteString) : List GetAction :=
  List.replicate 3 (.get 0 true) ++ .receive datagram :: List.replicate 2 (.advance 0) ++
    List.replicate 2 (.get 0 true)

theorem honestServer_answeredBy {datagram : ByteString} {message : CoapMessage}
    {acknowledgement : Option ByteString}
    (classified : classifyCoapResponse datagram none none =
      .ok ⟨.response, message, acknowledgement⟩) (honest : HonestVersion versions message) :
    ∀ action ∈ answeredBy datagram, ∀ state, HonestServer versions Set.univ state action := by
  intro action actionMem state
  cases action with
  | receive other =>
      have same : other = datagram := by simpa [answeredBy, List.mem_replicate] using actionMem
      subst same
      intro received _ response _
      rw [classified] at response
      cases response
      exact honest
  | advance _ => trivial
  | get _ _ => exact fun _ _ => trivial
  | others _ => simp [answeredBy] at actionMem

/-- Seventeen bytes under the ETag 9, sent in blocks of sixteen. -/
theorem blockwise_get_one_version_example :
    let versions (etag : ByteString) : ByteString := if etag = [9] then List.replicate 17 7 else []
    let state := Machine.run (GetState.perform ⟨["a"], [], 10, []⟩)
      ([.get 0 true] ++
        answeredBy ([0x54, 0x45, 0, 1, 0, 0, 0, 1, 0x41, 9, 0xD1, 6, 0x08, 0xFF] ++
          List.replicate 16 7) ++
        answeredBy [0x54, 0x45, 0, 2, 0, 0, 0, 1, 0x41, 9, 0xD1, 6, 0x10, 0xFF, 7])
      ⟨.started ⟨true, false, false, false, true⟩ 0 0, .idle, .start false, []⟩
    state.getter = .finished (.ok ⟨some 0x45, List.replicate 17 7, 2, [0, 0, 0, 1]⟩) ∧
      GetResult.Sound versions state.responses
        ⟨some 0x45, List.replicate 17 7, 2, [0, 0, 0, 1]⟩ := by
  intro versions state
  have finished : state.getter =
      .finished (.ok ⟨some 0x45, List.replicate 17 7, 2, [0, 0, 0, 1]⟩) := by decide +kernel
  refine ⟨finished, blockwise_get_one_version versions Set.univ _ rfl rfl ?_ ?_ _ finished⟩
  · intro tok request pends
    cases pends
  · apply Machine.meets_of_forall
    intro action actionMem
    rcases List.mem_append.mp actionMem with actionMem | second
    rcases List.mem_append.mp actionMem with start | first
    · intro state
      cases List.mem_singleton.mp start
      exact fun _ _ => trivial
    · have classified : classifyCoapResponse
          ([0x54, 0x45, 0, 1, 0, 0, 0, 1, 0x41, 9, 0xD1, 6, 0x08, 0xFF] ++ List.replicate 16 7)
          none none = .ok ⟨.response, ⟨1, 0x45, 1, [0, 0, 0, 1], [(4, [9]), (23, [0x08])],
            List.replicate 16 7⟩, none⟩ := by decide +kernel
      refine honestServer_answeredBy classified ?_ action first
      exact fun _ => ⟨[9], rfl, .slice rfl rfl rfl (by decide) (by decide)⟩
    · have classified : classifyCoapResponse
          [0x54, 0x45, 0, 2, 0, 0, 0, 1, 0x41, 9, 0xD1, 6, 0x10, 0xFF, 7] none none =
          .ok ⟨.response, ⟨1, 0x45, 2, [0, 0, 0, 1], [(4, [9]), (23, [0x10])], [7]⟩, none⟩ := by
        decide +kernel
      refine honestServer_answeredBy classified ?_ action second
      exact fun _ => ⟨[9], rfl, .slice rfl rfl rfl (by decide) (by decide)⟩

end SmartThingsLocal
