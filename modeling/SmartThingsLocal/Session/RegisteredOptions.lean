import Mathlib.Data.String.Basic
import SmartThingsLocal.Foundation.Joined
import SmartThingsLocal.Session.RefetchWorker
import SmartThingsLocal.Session.RelationTargets
import SmartThingsLocal.Session.TerminalQuiescence

/-!
# The options of a relation

A registration sends the segments of its path as they are, and the session keeps them
joined, as an href. The GETs that take a relation back or read it again split the href
at its slashes. So they carry the options of the registration exactly when no segment
has a slash in it.
-/

namespace SmartThingsLocal

open Stateful Session

/-- The Uri-Path and the Uri-Query values that a datagram carries. -/
def uriOptions (datagram : ByteString) :
    Except SmartThingsLocalError (List ByteString × List ByteString) :=
  (parseCoap datagram).map fun message =>
    (optionValues message.options Coap.uriPath, optionValues message.options Coap.uriQuery)

/-- The options of a path and a query. -/
def textOptions (path : List String) (query : Query) : List ByteString × List ByteString :=
  (path.map optionBytesOf, query.map optionBytesOf)

/-- The relation that a deregistration by `close` is for. -/
def SendCaller.observation? : SendCaller → Option Observation
  | .dereg observation _ | .orderlyDereg observation _ _ => some observation
  | _ => none

/-- A datagram that takes back the relation of a token. -/
def IsDeregistration (tok datagram : ByteString) : Prop :=
  ∃ message, parseCoap datagram = .ok message ∧ message.token = tok ∧
    optionValues message.options Coap.observe = [Coap.observeDeregister]

/-- The tokens of all relations were drawn for them. -/
def ObserveRelations.Drawn (relations : ObserveRelations) : Prop :=
  ∀ tok href, relations.tokens.get? tok = some href → tok.length = observeTokenLen

/-- A datagram that the session sends for a relation that it has. -/
inductive SentFor (tok : ByteString) (href : String) (query : Query) : ByteString → Prop
  | refresh {surroundings : OperationSurroundings} {before : OperationState}
      {paths : List (List String)} {queriesByHref : Option (OrderedDict String Query)}
      {send : SendAttempt} (drawn : before.relations.Drawn)
      (registered : before.relations.tokens.get? tok = some href)
      (queried : before.relations.query tok = query)
      (sent : send ∈ ((exec (OperationState.refreshObserves surroundings paths queriesByHref)
        before).2.sends.drop before.sends.length))
      (deregisters : IsDeregistration tok send.datagram) : SentFor tok href query send.datagram
  | close {actions : List (ThreadId × LifecycleInput)} {sent : SentDatagram}
      (logged : sent ∈ (Machine.run Lifecycle.perform actions Lifecycle.start).shared.sends)
      (caller : sent.caller.observation? = some ⟨tok, href, query⟩) :
      SentFor tok href query sent.datagram
  | reread {start : System} {actions : List SystemAction} {point : WorkerPoint} {job : RefetchJob}
      {datagram : ByteString} (parked : start.worker.job? = none) (unlogged : start.log = [])
      (logged : .worker point (.sent datagram) ∈ (Machine.run System.perform actions start).log)
      (held : point.job? = some job) (named : job.key.href = href)
      (queried : job.key.query = query) :
      SentFor tok href query datagram

/-- What is sent for a relation has the options of its path and its query. -/
def KeepsOptions (path : List String) (query : Query) : Prop :=
  ∀ tok datagram, tok.length = observeTokenLen → SentFor tok (hrefOf path) query datagram →
    uriOptions datagram = .ok (textOptions path query)

/-- Arguments that `subscribe` accepts. -/
structure Subscribable (path : List String) (query : Query) : Prop where
  path : validatedTextOptions path "path_segs" false = .ok path
  query : validatedTextOptions query "query" false = .ok query

/-! ### Options in a datagram -/

theorem optionValues_map {α : Type} (values : List α) (encode : α → ByteString)
    (own number : ℕ) :
    optionValues (values.map fun value => (own, encode value)) number =
      if own = number then values.map encode else [] := by
  unfold optionValues
  split_ifs with same
  · rw [List.filter_eq_self.mpr (by simp [same]), List.map_map]
    rfl
  · rw [List.filter_eq_nil_iff.mpr (by simp [same]), List.map_nil]

theorem optionValues_sortByNumber (options : List CoapOption) (number : ℕ) :
    optionValues (sortByNumber options) number = optionValues options number := by
  unfold optionValues
  rw [sortByNumber_filter]

/-- A GET whose other options are neither path nor query. -/
theorem uriOptions_of_buildCoap {mid : ℕ} {tok datagram : ByteString} {path : List String}
    {query : Query} {rest : List CoapOption}
    (built : buildCoap Coap.typeCon Coap.methodGet mid tok
      (path.map (fun segment => (Coap.uriPath, optionBytesOf segment)) ++
        query.map (fun value => (Coap.uriQuery, optionBytesOf value)) ++ rest) [] = .ok datagram)
    (token_length_le : tok.length ≤ 8)
    (others : ∀ option ∈ rest, option.1 ≠ Coap.uriPath ∧ option.1 ≠ Coap.uriQuery) :
    uriOptions datagram = .ok (textOptions path query) := by
  have none (number : ℕ) (apart : ∀ option ∈ rest, option.1 ≠ number) :
      optionValues rest number = [] := by
    unfold optionValues
    rw [List.filter_eq_nil_iff.mpr (by simpa using apart), List.map_nil]
  unfold uriOptions
  rw [parseCoap_of_buildCoap built (by decide) (by decide) token_length_le]
  simp only [Except.map, optionValues_sortByNumber, optionValues_append, optionValues_map,
    none _ fun option optionMem => (others option optionMem).1,
    none _ fun option optionMem => (others option optionMem).2]
  simp [textOptions, Coap.uriPath, Coap.uriQuery]

namespace OperationState

variable {observe tok datagram : ByteString} {mid : ℕ} {path : List String} {query : Query}

theorem uriOptions_observeRequest
    (built : observeRequest observe mid tok path query = .ok datagram) (short : tok.length ≤ 8) :
    uriOptions datagram = .ok (textOptions path query) :=
  uriOptions_of_buildCoap built short (by simp [Coap.observe, Coap.accept, Coap.uriPath,
    Coap.uriQuery])

/-- The token and the Observe value of such a GET are those it was built with. -/
theorem deregisters_observeRequest {own : ByteString}
    (built : observeRequest observe mid tok path query = .ok datagram) (short : tok.length ≤ 8)
    (deregisters : IsDeregistration own datagram) :
    own = tok ∧ observe = Coap.observeDeregister := by
  rcases deregisters with ⟨message, reads, token, observed⟩
  rw [parseCoap_of_buildCoap built (by decide) (by decide) short] at reads
  cases reads
  refine ⟨token.symm, ?_⟩
  simp only [optionValues_sortByNumber, optionValues_append, optionValues_map] at observed
  simpa [Coap.observe, Coap.accept, Coap.uriPath, Coap.uriQuery, optionValues] using observed

end OperationState

/-! ### The bytes of a text option -/

theorem toList_loop (bytes : ByteArray) (i : ℕ) (earlier : List UInt8) :
    ByteArray.toList.loop bytes i earlier = earlier.reverse ++ bytes.data.toList.drop i := by
  fun_induction ByteArray.toList.loop bytes i earlier with
  | case1 i earlier within ih =>
      rw [ih, List.reverse_cons, List.append_assoc, List.singleton_append]
      congr 1
      have inside : i < bytes.data.toList.length := within
      rw [List.drop_eq_getElem_cons inside]
      congr 1
      exact getElem!_pos bytes.data i within
  | case2 i earlier beyond =>
      have outside : bytes.data.toList.length ≤ i := not_lt.mp beyond
      rw [List.drop_of_length_le outside, List.append_nil]

theorem optionBytesOf_eq (value : String) :
    optionBytesOf value = value.toList.flatMap String.utf8EncodeChar := by
  unfold optionBytesOf ByteArray.toList
  rw [toList_loop]
  show value.toByteArray.data.toList = _
  rw [← String.utf8Encode_toList]
  exact List.toList_data_toByteArray

theorem optionBytesOf_injective : Function.Injective optionBytesOf := by
  intro left right same
  unfold optionBytesOf ByteArray.toList at same
  rw [toList_loop, toList_loop] at same
  exact String.toByteArray_inj.mp (ByteArray.ext (Array.toList_inj.mp same))

theorem ne_empty_of_optionBytesOf {value : String} (nonempty : optionBytesOf value ≠ []) :
    value ≠ "" := by
  rintro rfl
  exact nonempty (by rw [optionBytesOf_eq]; rfl)

/-- A part of a value has no more bytes. -/
theorem length_optionBytesOf_le {part whole : String} (within : part.toList.Sublist whole.toList) :
    (optionBytesOf part).length ≤ (optionBytesOf whole).length := by
  rw [optionBytesOf_eq, optionBytesOf_eq]
  exact (within.flatMap String.utf8EncodeChar).length_le

/-! ### The href of a path -/

theorem toList_hrefOf (path : List String) :
    (hrefOf path).toList = '/' :: ['/'].intercalate (path.map String.toList) := by
  unfold hrefOf
  rw [String.toList_append, String.toList_intercalate]
  rfl

namespace Lifecycle

variable {path : List String} {segment : String} {href : String}

theorem hrefSegments_hrefOf (nonempty : ∀ segment ∈ path, segment ≠ "")
    (free : ∀ segment ∈ path, '/' ∉ segment.toList) : hrefSegments (hrefOf path) = path := by
  unfold hrefSegments
  rw [toList_hrefOf, List.splitOn_joined]
  · simp
  · simpa using nonempty
  · simpa using free

theorem free_of_mem_hrefSegments (split : segment ∈ hrefSegments href) :
    '/' ∉ segment.toList := by
  rcases List.mem_map.mp split with ⟨piece, pieceMem, rfl⟩
  rw [String.toList_ofList]
  exact List.not_mem_of_mem_splitOn (List.mem_filter.mp pieceMem).1

/-- A path survives as an href exactly when no segment of it has a slash. -/
theorem hrefSegments_hrefOf_iff (nonempty : ∀ segment ∈ path, segment ≠ "") :
    hrefSegments (hrefOf path) = path ↔ ∀ segment ∈ path, '/' ∉ segment.toList := by
  refine ⟨?_, hrefSegments_hrefOf nonempty⟩
  intro same segment segmentMem
  rw [← same] at segmentMem
  exact free_of_mem_hrefSegments segmentMem

end Lifecycle

theorem pathSegs_refetchArguments (key : RefetchKey) :
    (refetchArguments key).pathSegs = Lifecycle.hrefSegments key.href := by
  unfold refetchArguments Lifecycle.hrefSegments
  dsimp only
  rw [String.splitToList_of_valid, List.splitOn_eq_splitOnP, List.filter_map]
  congr 2
  funext piece
  simp

/-! ### Deregistrations by `close` -/

/-- A deregistration is built from its relation. -/
def SendCaller.Requests (caller : SendCaller) (datagram : ByteString) : Prop :=
  ∀ observation, caller.observation? = some observation →
    ∃ mid, Lifecycle.observeDereg mid observation = some datagram

def LifecyclePoint.Requests : LifecyclePoint → Prop
  | .sendLock caller datagram | .sendCheck caller datagram | .sendTransmit caller datagram =>
      caller.Requests datagram
  | _ => True

namespace Lifecycle

/-- Every deregistration that `close` has sent is built from its relation. -/
def Requested (shared : Lifecycle) : Prop :=
  ∀ sent ∈ shared.sends, sent.caller.Requests sent.datagram

theorem requests_afterSend (caller : SendCaller) : (afterSend caller).Requests := by
  cases caller <;> exact trivial

theorem requests_afterQuiesce (caller : QuiesceCaller) : (afterQuiesce caller).Requests := by
  cases caller <;> exact trivial

theorem requests_begin {shared : Lifecycle} (call : LifecycleCall) (requested : shared.Requested) :
    (begin shared call).1.Requested ∧ (begin shared call).2.Requests := by
  cases call with
  | sendDgram datagram => exact ⟨requested, nofun⟩
  | _ => exact ⟨requested, trivial⟩

theorem requests_go {shared : Lifecycle} {point : LifecyclePoint} (thread : ThreadId)
    (mid : Option ℕ) (requested : shared.Requested) (requests : point.Requests) :
    (go thread mid shared point).1.Requested ∧ (go thread mid shared point).2.Requests := by
  cases point with
  | sendLock caller datagram =>
      simp only [go]
      split <;> exact ⟨requested, requests⟩
  | sendCheck caller datagram =>
      simp only [go]
      split
      · exact ⟨requested, trivial⟩
      · exact ⟨requested, requests⟩
  | sendTransmit caller datagram =>
      simp only [go]
      split
      · exact ⟨requested, trivial⟩
      · refine ⟨?_, trivial⟩
        intro sent sentMem
        rcases List.mem_append.mp sentMem with earlier | now
        · exact requested sent earlier
        · rw [List.mem_singleton.mp now]
          exact requests
  | sendUnlock caller => exact ⟨requested, requests_afterSend caller⟩
  | quiesceDrain caller => exact ⟨requested, requests_afterQuiesce caller⟩
  | deregBuild observation rest =>
      simp only [go]
      split
      · exact ⟨requested, trivial⟩
      · exact ⟨requested, fun own same => ⟨mid, Option.some.inj same ▸ ‹_›⟩⟩
  | orderlyBuild observation rest previous =>
      simp only [go]
      split
      · exact ⟨requested, trivial⟩
      · exact ⟨requested, fun own same => ⟨mid, Option.some.inj same ▸ ‹_›⟩⟩
  | closeSweep quiesced rest =>
      cases rest with
      | nil => exact ⟨requested, trivial⟩
      | cons observation rest => cases quiesced <;> exact ⟨requested, trivial⟩
  | _ =>
      simp only [go]
      repeat' split
      all_goals exact ⟨requested, trivial⟩

theorem requests_step {shared : Lifecycle} {point : LifecyclePoint} (thread : ThreadId)
    (input : LifecycleInput) (requested : shared.Requested) (requests : point.Requests) :
    (step thread input shared point).1.Requested ∧
      (step thread input shared point).2.Requests := by
  cases input with
  | go mid => exact requests_go thread mid requested requests
  | call call =>
      by_cases idle : point = .idle
      · rw [idle]
        exact requests_begin call requested
      · cases call with
        | sendDgram datagram =>
            cases point with
            | idle => exact absurd rfl idle
            | operating => exact ⟨requested, nofun⟩
            | _ => exact ⟨requested, requests⟩
        | _ =>
            cases point with
            | idle => exact absurd rfl idle
            | _ => exact ⟨requested, requests⟩

theorem requesting : Threads.Noninterfering step Requested
    (fun _ _ point => LifecyclePoint.Requests point) (fun _ _ _ => True) where
  keeps thread input _ _ requested requests := requests_step thread input requested requests
  guarantees _ _ _ _ _ _ := trivial
  stable _ _ _ requests := requests

theorem requested_run (actions : List (ThreadId × LifecycleInput)) :
    (Machine.run perform actions start).shared.Requested := by
  have initial : start.Holds Requested fun _ _ point => LifecyclePoint.Requests point :=
    ⟨fun _ sentMem => absurd sentMem List.not_mem_nil, fun _ => trivial⟩
  exact (Machine.invariant_run_all (fun state action => requesting.perform state action) actions
    initial).1

/-- It is the deregistration that `refresh_observes` sends, too. -/
theorem observeDereg_eq_some {mid : Option ℕ} {observation : Observation} {datagram : ByteString} :
    observeDereg mid observation = some datagram ↔ ∃ allocated, mid = some allocated ∧
      OperationState.observeRequest Coap.observeDeregister allocated observation.tok
        (hrefSegments observation.href) observation.query = .ok datagram := by
  cases mid with
  | none => exact iff_of_false nofun (by simp)
  | some allocated =>
      have same : observeDereg (some allocated) observation =
          (OperationState.observeRequest Coap.observeDeregister allocated observation.tok
            (hrefSegments observation.href) observation.query).toOption := rfl
      rw [same]
      simp only [Option.some.injEq, exists_eq_left']
      rcases OperationState.observeRequest _ _ _ _ _ with error | built <;>
        simp [Except.toOption]

end Lifecycle

/-! ### Re-reads -/

/-- A datagram is a GET of the worker with these arguments. -/
def Reads (arguments : GetArguments) (datagram : ByteString) : Prop :=
  ∃ tok mid number szx, tok.length = 4 ∧
    buildGetRequest Coap.typeCon mid tok arguments.pathSegs arguments.query (some Coap.cfCbor)
      number szx arguments.extraOptions = .ok datagram

/-- The requests of a GET have its arguments. -/
def GetPoint.Requests (arguments : GetArguments) : GetPoint → Prop
  | .request transfer => transfer.tok.length = 4
  | .exchange transfer current _ => transfer.tok.length = 4 ∧ Reads arguments current.datagram
  | _ => True

theorem requests_receiveBlock {arguments : GetArguments} {transfer : BlockTransfer}
    (message : CoapMessage) (named : transfer.tok.length = 4) :
    (receiveBlock transfer message).Requests arguments := by
  unfold receiveBlock
  split_ifs
  · exact trivial
  · exact trivial
  · split
    · exact trivial
    · exact trivial
    · exact named

theorem sent_of_exchangeStep {session : Session} {now : ℚ} {delivered : Bool}
    {transfer : BlockTransfer} {exchange : BlockExchange} {point : ExchangePoint}
    {datagram : ByteString}
    (sent : .sent datagram ∈ (exchangeStep session now delivered transfer exchange point).2.2) :
    datagram = exchange.datagram := by
  cases point with
  | sending attempt =>
      simp only [exchangeStep] at sent
      split at sent
      · simp at sent
      · simpa using sent
  | _ =>
      simp only [exchangeStep] at sent
      repeat' split at sent
      all_goals simp at sent

theorem requests_getStep {arguments : GetArguments} (session : Session) (now : ℚ)
    (delivered : Bool) {point : GetPoint} (requests : point.Requests arguments) :
    (getStep arguments session now delivered point).2.1.Requests arguments ∧
      ∀ datagram, .sent datagram ∈ (getStep arguments session now delivered point).2.2 →
        Reads arguments datagram := by
  have silent : ∀ datagram, Effect.sent datagram ∈ ([] : List Effect) →
      Reads arguments datagram := by simp
  cases point with
  | start restarted =>
      simp only [getStep]
      split
      · exact ⟨trivial, silent⟩
      · exact ⟨ByteString.length_ofNat _ _, silent⟩
  | request transfer =>
      simp only [getStep]
      split
      · exact ⟨trivial, silent⟩
      · split
        · exact ⟨trivial, silent⟩
        · split
          · exact ⟨trivial, silent⟩
          · exact ⟨⟨requests, _, _, _, _, requests, ‹_›⟩, silent⟩
  | finished result => exact ⟨trivial, silent⟩
  | exchange transfer exchange point =>
      by_cases leaves : ∃ result, point = .leaving result
      · rcases leaves with ⟨error | message, rfl⟩
        · exact ⟨trivial, silent⟩
        · exact ⟨requests_receiveBlock message requests.1, silent⟩
      · rw [getStep_exchange arguments session now delivered transfer exchange
          (not_exists.mp leaves)]
        refine ⟨requests, ?_⟩
        intro datagram sent
        rw [sent_of_exchangeStep sent]
        exact requests.2

/-- What the worker has sent for a re-read is a GET with its arguments. -/
structure RereadInvariant (state : System) : Prop where
  point : ∀ job getter, state.worker = .reading job getter →
    getter.Requests (refetchArguments job.key)
  log : ∀ point job datagram, .worker point (.sent datagram) ∈ state.log →
    point.job? = some job → Reads (refetchArguments job.key) datagram

theorem not_sent_deliver (callbacks : Callbacks) (delivery : ObserveDelivery)
    (datagram : ByteString) : .sent datagram ∉ deliver callbacks delivery := by
  unfold deliver
  split_ifs <;> simp

theorem Works.rereads {session next : Session} {now : ℚ} {delivered : Bool}
    {point nextPoint : WorkerPoint} {effects : List Effect}
    (step : Works session now delivered point next nextPoint effects)
    (requests : ∀ job getter, point = .reading job getter →
      getter.Requests (refetchArguments job.key)) :
    (∀ job getter, nextPoint = .reading job getter →
      getter.Requests (refetchArguments job.key)) ∧
    ∀ job datagram, .sent datagram ∈ effects → point.job? = some job →
      Reads (refetchArguments job.key) datagram := by
  cases step with
  | rests _ idleNext =>
      refine ⟨?_, fun _ _ => nofun⟩
      rintro job getter rfl
      cases idleNext
  | starts _ =>
      refine ⟨?_, fun _ _ => nofun⟩
      intro job getter same
      cases same
      exact trivial
  | @reads job getter _ =>
      have kept := requests_getStep session now delivered (requests job getter rfl)
      refine ⟨?_, ?_⟩
      · intro own nextGetter same
        cases same
        exact kept.1
      · intro own datagram sent held
        cases held
        exact kept.2 datagram sent
  | delivers =>
      exact ⟨fun _ _ => nofun, fun _ datagram sent =>
        absurd sent (not_sent_deliver _ _ datagram)⟩
  | _ => exact ⟨fun _ _ => nofun, fun _ _ => nofun⟩

theorem rereads_perform (state : System) (action : SystemAction)
    (invariant : RereadInvariant state) : RereadInvariant (state.perform action) := by
  cases action with
  | receive datagram =>
      simp only [System.perform]
      split_ifs
      · refine { invariant with log := ?_ }
        intro point job sent logged
        rcases List.mem_append.mp logged with earlier | now
        · exact invariant.log point job sent earlier
        · simp at now
      · exact invariant
  | advance now =>
      refine { invariant with log := ?_ }
      intro point job sent logged
      simp only [System.perform, List.mem_append] at logged
      rcases logged with (earlier | live) | own
      · exact invariant.log point job sent earlier
      · unfold liveEvents at live
        split at live <;> simp at live
      · simp at own
  | work now delivered =>
      have step := (workerStep_works state.session now delivered state.worker).rereads
        invariant.point
      refine ⟨step.1, ?_⟩
      intro point job sent logged held
      simp only [System.perform, List.mem_append, List.mem_map] at logged
      rcases logged with earlier | ⟨effect, effectMem, same⟩
      · exact invariant.log point job sent earlier held
      · cases same
        exact step.2 job sent effectMem held
  | others session => exact ⟨invariant.point, invariant.log⟩

theorem block_of_buildGetRequest {mid szx : ℕ} {tok datagram : ByteString} {path : List String}
    {query : Query} {accept : Option ByteString} {number : Option ℕ}
    {extraOptions : List CoapOption}
    (built : buildGetRequest Coap.typeCon mid tok path query accept number szx extraOptions =
      .ok datagram) :
    ∃ block : List CoapOption, (∀ option ∈ block, option.1 = Coap.block2) ∧
      buildCoap Coap.typeCon Coap.methodGet mid tok
        (path.map (fun segment => (Coap.uriPath, optionBytesOf segment)) ++
          query.map (fun value => (Coap.uriQuery, optionBytesOf value)) ++
          accept.toList.map (fun value => (Coap.accept, value)) ++ block ++ extraOptions) [] =
        .ok datagram := by
  unfold buildGetRequest at built
  cases number with
  | none => exact ⟨[], nofun, built⟩
  | some number =>
      dsimp only at built
      split_ifs at built with oversize
      · cases built
      · rcases Fallible.bind_eq_ok.mp built with ⟨block, encoded, built⟩
        rcases Fallible.map_eq_ok.mp encoded with ⟨value, -, rfl⟩
        exact ⟨_, by simp, built⟩

theorem uriOptions_of_reads {key : RefetchKey} {datagram : ByteString}
    (reads : Reads (refetchArguments key) datagram) :
    uriOptions datagram = .ok (textOptions (Lifecycle.hrefSegments key.href) key.query) := by
  rcases reads with ⟨tok, mid, number, szx, named, built⟩
  rcases block_of_buildGetRequest built with ⟨block, blockOption, built⟩
  rw [pathSegs_refetchArguments, List.append_assoc, List.append_assoc] at built
  refine uriOptions_of_buildCoap built (by omega) ?_
  intro option optionMem
  simp only [refetchArguments, Option.toList_some, List.map_cons, List.map_nil, List.append_nil,
    List.singleton_append, List.mem_cons] at optionMem
  rcases optionMem with rfl | fromBlock
  · exact ⟨by decide, by decide⟩
  · rw [blockOption option fromBlock]
    exact ⟨by decide, by decide⟩

/-! ### What is sent for a relation -/

theorem exec_refreshObserves_sends (surroundings : OperationSurroundings)
    (paths : List (List String)) (queriesByHref : Option (OrderedDict String Query))
    (before : OperationState) {tok : ByteString} {send : SendAttempt}
    (drawn : before.relations.Drawn)
    (sent : send ∈ ((exec (OperationState.refreshObserves surroundings paths queriesByHref)
      before).2.sends.drop before.sends.length))
    (deregisters : IsDeregistration tok send.datagram) :
    ∃ (observation : Observation) (mid : ℕ),
      before.relations.tokens.get? tok = some observation.href ∧
      observation.query = before.relations.query tok ∧
      OperationState.observeRequest Coap.observeDeregister mid tok
        (Lifecycle.hrefSegments observation.href) observation.query = .ok send.datagram := by
  have refreshed := @OperationState.ensures_refreshObserves surroundings paths queriesByHref before
  unfold Ensures at refreshed
  generalize exec (OperationState.refreshObserves surroundings paths queriesByHref) before =
    outcome at refreshed sent
  rcases outcome with ⟨error | counted, after⟩
  · rw [refreshed.1.sends, List.drop_length] at sent
    exact absurd sent List.not_mem_nil
  rcases refreshed with ⟨targets, attempts, -, refreshed, -⟩
  rw [refreshed.sends, List.append_assoc, List.drop_left] at sent
  rcases List.mem_append.mp sent with taken | registered
  · rcases List.mem_filterMap.mp taken with ⟨_, handed, rfl⟩
    rcases OperationState.request_of_deregistrationSends handed with
      ⟨observation, observationMem, mid, built⟩
    rcases ObserveRelations.mem_observationsOf.mp observationMem with ⟨registered, -, queried⟩
    have short : observation.tok.length ≤ 8 := (drawn _ _ registered).le
    rcases OperationState.deregisters_observeRequest built short deregisters with ⟨rfl, -⟩
    exact ⟨observation, mid, registered, queried, built⟩
  · rcases List.mem_filterMap.mp registered with ⟨attempt, attemptMem, sent⟩
    rcases Option.map_eq_some_iff.mp sent with ⟨⟨own, handed⟩, made, rfl⟩
    rcases OperationState.registrationSend_eq_some made with ⟨⟨-, draw, -, -, rfl⟩, mid, built⟩
    have short : (surroundings.urandom draw).length ≤ 8 := (surroundings.length_urandom draw).le
    rcases OperationState.deregisters_observeRequest built short deregisters with ⟨-, other⟩
    exact absurd other (by decide)

/-- Each such datagram has the segments of the href. -/
theorem uriOptions_of_sentFor {tok : ByteString} {href : String} {query : Query}
    {datagram : ByteString} (short : tok.length ≤ 8) (sent : SentFor tok href query datagram) :
    uriOptions datagram = .ok (textOptions (Lifecycle.hrefSegments href) query) := by
  cases sent with
  | refresh drawn registered queried sent deregisters =>
      rcases exec_refreshObserves_sends _ _ _ _ drawn sent deregisters with
        ⟨observation, mid, sameHref, sameQuery, built⟩
      rw [registered] at sameHref
      rw [queried] at sameQuery
      rw [← Option.some.inj sameHref, sameQuery] at built
      exact OperationState.uriOptions_observeRequest built short
  | @close actions sent logged caller =>
      rcases Lifecycle.requested_run actions sent logged _ caller with ⟨mid, built⟩
      rcases Lifecycle.observeDereg_eq_some.mp built with ⟨allocated, -, built⟩
      exact OperationState.uriOptions_observeRequest built short
  | @reread start actions point job _ parked unlogged logged held named queried =>
      have initial : RereadInvariant start := by
        refine ⟨?_, by simp [unlogged]⟩
        intro job getter reading
        rw [reading] at parked
        cases parked
      have invariant := Machine.invariant_run_all rereads_perform actions initial
      rw [← named, ← queried]
      exact uriOptions_of_reads (invariant.log point job datagram logged held)

/-! ### A relation that is taken back -/

theorem Subscribable.nonempty {path : List String} {query : Query}
    (subscribable : Subscribable path query) : ∀ segment ∈ path, segment ≠ "" :=
  fun segment segmentMem => ne_empty_of_optionBytesOf
    (textOptionsFrom_nonempty subscribable.path segment segmentMem)

/-- The segments of an accepted path's href can be encoded. -/
theorem Subscribable.length_hrefSegments_le {path : List String} {query : Query}
    (subscribable : Subscribable path query) :
    ∀ segment ∈ Lifecycle.hrefSegments (hrefOf path),
      (optionBytesOf segment).length ≤ maxRequestOptionBytes := by
  intro segment segmentMem
  rcases List.mem_map.mp segmentMem with ⟨piece, pieceMem, rfl⟩
  rcases List.mem_filter.mp pieceMem with ⟨split, nonempty⟩
  rw [toList_hrefOf] at split
  rcases List.sublist_of_mem_splitOn_joined split (of_decide_eq_true nonempty) with
    ⟨whole, wholeMem, within⟩
  rcases List.mem_map.mp wholeMem with ⟨given, givenMem, rfl⟩
  have bounded := (textOptionsFrom_ok subscribable.path).2 given givenMem
  refine (length_optionBytesOf_le ?_).trans bounded
  rwa [String.toList_ofList]

/-- A request whose values are bounded is encoded. -/
theorem observeRequest_of_bounded {observe tok : ByteString} {mid : ℕ} {path : List String}
    {query : Query} (short : tok.length ≤ 8) (observed : observe.length ≤ 1)
    (paths : ∀ segment ∈ path, (optionBytesOf segment).length ≤ maxRequestOptionBytes)
    (queries : ∀ value ∈ query, (optionBytesOf value).length ≤ maxRequestOptionBytes) :
    ∃ datagram, OperationState.observeRequest observe mid tok path query = .ok datagram := by
  unfold OperationState.observeRequest
  dsimp only
  rw [buildCoap_mod]
  have type_le : Coap.typeCon ≤ 3 := by decide
  have code_le : Coap.methodGet ≤ 255 := by decide
  refine ⟨_, buildCoap_eq _ _ _ _ _ _ ⟨type_le, code_le, Nat.mod_lt _ (by decide), short,
    representable_sortByNumber ?_ ?_⟩⟩
  · simp [or_imp, forall_and, Coap.uriPath, Coap.uriQuery, Coap.observe, Coap.accept,
      OptionBytes.maxExtended]
  · unfold OptionBytes.maxExtended
    unfold maxRequestOptionBytes at paths queries
    intro option optionMem
    rcases List.mem_append.mp optionMem with text | own
    · rcases List.mem_append.mp text with fromPath | fromQuery
      · rcases List.mem_map.mp fromPath with ⟨segment, segmentMem, rfl⟩
        exact (paths segment segmentMem).trans (by decide)
      · rcases List.mem_map.mp fromQuery with ⟨value, valueMem, rfl⟩
        exact (queries value valueMem).trans (by decide)
    · simp only [List.mem_cons, List.not_mem_nil, or_false] at own
      rcases own with rfl | rfl
      · exact observed.trans (by decide)
      · decide

/-- A session is connected, has a relation, and is closed as far as the first send. -/
def closing (observation : Observation) : List (ThreadId × LifecycleInput) :=
  (0, .call (.connect 0)) :: List.replicate 4 (0, .go none) ++
    (0, .call (.relations [observation])) :: (0, .call .close) ::
      List.replicate 9 (0, .go (some 0))

theorem sends_closing {observation : Observation} {datagram : ByteString}
    (built : Lifecycle.observeDereg (some 0) observation = some datagram) :
    (Machine.run Lifecycle.perform (closing observation) Lifecycle.start).shared.sends =
      [⟨0, .dereg observation [], datagram, some 0⟩] := by
  simp [closing, Machine.run, Lifecycle.perform, Threads.perform, Lifecycle.step, Lifecycle.begin,
    Lifecycle.go, Lifecycle.start, Lifecycle.new, built]

/-- The relation that a subscription has registered, and its datagram. -/
structure Subscribed (path : List String) (query : Query) (tok : ByteString)
    (before after : OperationState) : Prop where
  drawn : tok.length = observeTokenLen
  registered : after.relations.tokens.get? tok = some (hrefOf path)
  queried : after.relations.query tok = query
  sent : ∃ datagram, after.sends = before.sends ++ [⟨datagram, none⟩] ∧
    uriOptions datagram = .ok (textOptions path query)

theorem ensures_subscribed (surroundings : OperationSurroundings) (path : List String)
    (query : Query) (before : OperationState) :
    Ensures (fun tok after => Subscribed path query tok before after) (fun _ _ => True)
      (OperationState.subscribe surroundings path query) before := by
  refine (OperationState.ensures_subscribe path query before).mono ?_ fun _ _ _ => trivial
  rintro tok after ⟨issued, registers⟩
  rcases RegistrationAttempt.tok?_eq_some.mp issued with ⟨datagram, made⟩
  rcases OperationState.registrationSend_eq_some made with ⟨⟨-, draw, -, -, rfl⟩, mid, built⟩
  have length := surroundings.length_urandom draw
  refine ⟨length, ?_, registers.queries _ (List.mem_singleton_self _) _ issued, datagram, ?_,
    OperationState.uriOptions_observeRequest built length.le⟩
  · rw [← OrderedDict.mem_entries_iff, registers.entries]
    simp [RegistrationAttempt.relation?, issued]
  · rw [registers.sends]
    simp [RegistrationAttempt.send?, made]

theorem keepsOptions_iff {path : List String} {query : Query}
    (subscribable : Subscribable path query) :
    KeepsOptions path query ↔ ∀ segment ∈ path, '/' ∉ segment.toList := by
  rw [← Lifecycle.hrefSegments_hrefOf_iff subscribable.nonempty]
  constructor
  · intro keeps
    let tok : ByteString := List.replicate observeTokenLen 0
    have drawn : tok.length = observeTokenLen := List.length_replicate
    have encoded : ∃ datagram, OperationState.observeRequest Coap.observeDeregister 0 tok
        (Lifecycle.hrefSegments (hrefOf path)) query = .ok datagram :=
      observeRequest_of_bounded drawn.le le_rfl subscribable.length_hrefSegments_le
        (textOptionsFrom_ok subscribable.query).2
    rcases encoded with ⟨datagram, built⟩
    have built : Lifecycle.observeDereg (some 0) ⟨tok, hrefOf path, query⟩ = some datagram :=
      Lifecycle.observeDereg_eq_some.mpr ⟨0, rfl, built⟩
    have sent : SentFor tok (hrefOf path) query datagram := by
      refine @SentFor.close _ _ _ (closing ⟨tok, hrefOf path, query⟩)
        ⟨0, .dereg _ [], datagram, some 0⟩ ?_ rfl
      rw [sends_closing built]
      exact List.mem_singleton_self _
    have kept := keeps tok datagram drawn sent
    rw [uriOptions_of_sentFor drawn.le sent] at kept
    have same := congrArg Prod.fst (Except.ok.inj kept)
    exact List.map_injective_iff.mpr optionBytesOf_injective same
  · intro survives tok datagram drawn sent
    rw [uriOptions_of_sentFor drawn.le sent, survives]

/--
A subscription sends the options of its path and query. Whatever is sent later for its
relation has the same options, and different paths have different hrefs, exactly when no
segment has a slash in it.
-/
theorem relation_keeps_its_options (registrations : List (List String × Query))
    (accepted : ∀ registration ∈ registrations, Subscribable registration.1 registration.2) :
    (∀ registration ∈ registrations, ∀ surroundings before, Ensures
      (fun tok after => Subscribed registration.1 registration.2 tok before after)
      (fun _ _ => True)
      (OperationState.subscribe surroundings registration.1 registration.2) before) ∧
    (((∀ registration ∈ registrations, KeepsOptions registration.1 registration.2) ∧
        ∀ first ∈ registrations, ∀ second ∈ registrations, first.1 ≠ second.1 →
          hrefOf first.1 ≠ hrefOf second.1) ↔
      ∀ registration ∈ registrations, ∀ segment ∈ registration.1, '/' ∉ segment.toList) := by
  refine ⟨fun registration _ surroundings before => ensures_subscribed surroundings _ _ before, ?_⟩
  constructor
  · rintro ⟨keeps, -⟩ registration registrationMem
    exact (keepsOptions_iff (accepted registration registrationMem)).mp
      (keeps registration registrationMem)
  · intro free
    refine ⟨fun registration registrationMem =>
      (keepsOptions_iff (accepted registration registrationMem)).mpr
        (free registration registrationMem), ?_⟩
    intro first firstMem second secondMem apart same
    apply apart
    rw [← Lifecycle.hrefSegments_hrefOf (accepted first firstMem).nonempty (free first firstMem),
      same, Lifecycle.hrefSegments_hrefOf (accepted second secondMem).nonempty
        (free second secondMem)]

/-- Two paths without a slash in a segment keep their options. -/
theorem relation_keeps_its_options_example :
    KeepsOptions ["a", "b"] ["if=baseline"] ∧ KeepsOptions ["a"] [] := by
  have keeps := ((relation_keeps_its_options [(["a", "b"], ["if=baseline"]), (["a"], [])] (by
    intro registration registrationMem
    simp only [List.mem_cons, List.not_mem_nil, or_false] at registrationMem
    rcases registrationMem with rfl | rfl
    · exact ⟨by decide +kernel, by decide +kernel⟩
    · exact ⟨by decide +kernel, by decide +kernel⟩)).2.mpr (by decide +kernel)).1
  exact ⟨keeps _ List.mem_cons_self, keeps _ (List.mem_cons_of_mem _ List.mem_cons_self)⟩

/-- A slash in a segment is sent back as two segments, and the href is that of another path. -/
theorem relation_loses_its_options :
    Subscribable ["a/b"] [] ∧ Subscribable ["a", "b"] [] ∧ ¬KeepsOptions ["a/b"] [] ∧
      hrefOf ["a/b"] = hrefOf ["a", "b"] := by
  have slashed : Subscribable ["a/b"] [] := ⟨by decide +kernel, by decide +kernel⟩
  refine ⟨slashed, ⟨by decide +kernel, by decide +kernel⟩, ?_, by decide +kernel⟩
  rw [keepsOptions_iff slashed]
  decide +kernel

end SmartThingsLocal
