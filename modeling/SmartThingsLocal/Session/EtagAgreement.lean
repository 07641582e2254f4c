import SmartThingsLocal.Session.BlockwiseExact

/-!
# Two comparisons of ETags

`_blockwise_get_once` compares the ETag of a block with the first block's before it gives
the block to its accumulator, which compares it again. The accumulator tolerates a block
without an ETag; the session takes it for a change. So a GET agrees with the accumulator
exactly when no later block omits the ETag that the first one carried.
-/

namespace SmartThingsLocal

open Session Fallible

/-- The ETag that a GET reads off a response: the first one. -/
def CoapMessage.etag? (message : CoapMessage) : Option ByteString :=
  (optionValues message.options Coap.etag).head?

/-- The response answers the block that an accumulator expects next. -/
def Block2Accumulator.Expects (acc : Block2Accumulator) (message : CoapMessage) : Prop :=
  blockNumMatches message acc.expectedNumber acc.szx = true

instance (acc : Block2Accumulator) (message : CoapMessage) : Decidable (acc.Expects message) :=
  inferInstanceAs (Decidable (_ = true))

/--
`_blockwise_get_once` on the responses that arrive for its requests, one after the other.
`_exchange_block` drops those that answer another block.
-/
def blockwiseGetOnce (transfer : BlockTransfer) : List CoapMessage → GetPoint
  | [] => .request transfer
  | message :: responses =>
      if transfer.accumulator.Expects message then
        match receiveBlock transfer message with
        | .request next => blockwiseGetOnce next responses
        | point => point
      else blockwiseGetOnce transfer responses

/-- A transfer as an attempt begins it. -/
structure BlockTransfer.Fresh (transfer : BlockTransfer) : Prop where
  created : Block2Accumulator.create transfer.tok Coap.maxBlock2Blocks Coap.maxBlock2PayloadBytes
    none = .ok transfer.accumulator
  etag : transfer.etag = none

/-- Successive responses of which none is refused and the last one completes the representation. -/
inductive Assembles : Block2Accumulator → List CoapMessage → Block2Accumulator → Prop
  | complete {acc after : Block2Accumulator} {message : CoapMessage}
      (completed : acc.respond message = (.ok .complete, after)) : Assembles acc [message] after
  | next {acc between after : Block2Accumulator} {message : CoapMessage}
      {responses : List CoapMessage} {status : Block2Status}
      (taken : acc.respond message = (.ok status, between)) (unfinished : status ≠ .complete)
      (rest : Assembles between responses after) : Assembles acc (message :: responses) after

/-- No block that is expected omits its ETag, if there is one to compare with. -/
def CarriesEtag (known : Option ByteString) (acc : Block2Accumulator) : List CoapMessage → Prop
  | [] => True
  | message :: responses =>
      (known ≠ none → message.code >>> 5 = 2 → acc.Expects message → message.etag? ≠ none) ∧
        CarriesEtag known (acc.respond message).2 responses

/-- No block after the first one omits the ETag that the first one carried. -/
def KeepsEtag (acc : Block2Accumulator) : List CoapMessage → Prop
  | [] => True
  | first :: responses => CarriesEtag first.etag? (acc.respond first).2 responses

/-- A GET returns the code and the payload that an accumulator has assembled. -/
def GetPoint.Returns (assembled : Block2Accumulator) (point : GetPoint) : Prop :=
  ∃ result, point = .finished (.ok result) ∧ result.code = assembled.code ∧
    result.payload = assembled.payload

/-! ### The accumulator -/

namespace Block2Accumulator

variable {acc next : Block2Accumulator} {message : CoapMessage} {status : Block2Status}

/-- The block that is asked for starts where the payload ends. -/
def Aligned (acc : Block2Accumulator) : Prop :=
  acc.complete = false → acc.payload.length = acc.expectedNumber * 2 ^ (acc.szx + 4)

theorem aligned_respond (aligned : acc.Aligned) (message : CoapMessage) :
    (acc.respond message).2.Aligned := by
  rcases respond_cases acc message with
    ⟨error, failed⟩ | repeated | ⟨_, _, _, finished⟩ | ⟨_, more, _, _, accepted, extended⟩
  · rw [failed]
    exact aligned
  · rw [repeated]
    exact aligned
  · rw [finished]
    exact nofun
  · rw [extended]
    cases more with
    | false => exact nofun
    | true =>
        intro unfinished
        rcases accepted.placed.of_more rfl with ⟨szx, rfl, rfl, divides⟩
        simp only [afterBlock, if_true, Block2Accumulator.szx, Option.getD_some,
          Nat.one_shiftLeft, List.length_append]
        exact (Nat.div_mul_cancel divides).symm

theorem extend_ne_duplicate (message : CoapMessage) (more : Bool) (responseSzx : Option ℕ)
    (nextOffset : ℕ) (acc : Block2Accumulator) :
    (Stateful.exec (extend message more responseSzx nextOffset) acc).1 ≠ .ok .duplicate := by
  rcases extend_cases message more responseSzx nextOffset acc with
    ⟨error, failed⟩ | ⟨_, _, _, _, extended⟩
  · rw [failed]
    exact nofun
  · rw [extended]
    cases more <;> exact nofun

/-- A duplicate is a success block before the end of the payload. -/
theorem respond_duplicate (repeated : (acc.respond message).1 = .ok .duplicate) :
    message.code >>> 5 = 2 ∧ ∃ encoded number bit szx,
      optionValues message.options Coap.block2 = [encoded] ∧
      blockFields encoded = (number, bit, szx) ∧
      number * 2 ^ (szx + 4) < acc.payload.length := by
  simp only [respond, addResponse, Stateful.exec_get_bind, Stateful.exec_refuseIf_bind] at repeated
  split_ifs at repeated with done token mtype empty failure
  · simp only [Stateful.exec_refuseIf_bind, Stateful.exec_set_bind] at repeated
    split_ifs at repeated
    cases repeated
  refine ⟨not_not.mp failure, ?_⟩
  simp only [Stateful.exec_readOnly_bind] at repeated
  cases read : acc.blockOption message.options with
  | error error =>
      rw [read] at repeated
      cases repeated
  | ok block =>
      rw [read] at repeated
      rcases block with ⟨number, more, _ | szx⟩
      · exact absurd repeated (extend_ne_duplicate _ _ _ _ _)
      · rcases blockOption_eq_some read with ⟨encoded, bit, single, fields, rfl⟩
        refine ⟨encoded, number, bit, szx, single, fields, ?_⟩
        by_contra later
        simp only [Stateful.exec_readOnly_bind] at repeated
        cases placed : acc.blockOffset number (bit != 0) szx message.payload with
        | error error =>
            rw [placed] at repeated
            cases repeated
        | ok place =>
            rw [placed] at repeated
            cases place with
            | none =>
                simp only [blockOffset, Nat.one_shiftLeft] at placed
                rw [if_neg later] at placed
                split_ifs at placed <;> cases placed
            | some nextOffset => exact absurd repeated (extend_ne_duplicate _ _ _ _ _)

/-- Of the responses that are not refused, the duplicates are those that are not expected. -/
theorem expects_iff (aligned : acc.Aligned) (unfinished : acc.complete = false)
    (taken : acc.respond message = (.ok status, next)) :
    acc.Expects message ↔ status ≠ .duplicate := by
  have reached := aligned unfinished
  unfold Expects blockNumMatches
  by_cases repeated : status = .duplicate
  · subst repeated
    refine iff_of_false ?_ (not_not.mpr rfl)
    rcases respond_duplicate (by rw [taken]) with ⟨success, encoded, number, bit, szx, single,
      fields, earlier⟩
    simp only [success, ne_eq, not_true_eq_false, if_false, single, fields, Nat.shiftLeft_eq,
      decide_eq_true_eq]
    omega
  · refine iff_of_true ?_ repeated
    rcases taken_cases taken repeated with ⟨failure, -⟩ | ⟨_, more, _, _, accepted, -⟩
    · rw [if_pos failure]
    · rw [if_neg (not_not.mpr accepted.success)]
      cases accepted.placed with
      | whole absent first => simp [absent, first]
      | block single fields offset _ =>
          simp only [single, fields, Nat.shiftLeft_eq, decide_eq_true_eq]
          omega

/-- The ETags of a response that is taken in. -/
theorem nextMetadata_etag {metadata : Metadata}
    (checked : nextMetadata acc message = .ok metadata) :
    (acc.blocksReceived = 0 → metadata.etag = message.etag?) ∧
      (acc.blocksReceived ≠ 0 → metadata.etag = (message.etag? <|> acc.etag) ∧
        ∀ own known, message.etag? = some own → acc.etag = some known → own = known) := by
  unfold nextMetadata at checked
  rcases bind_eq_ok.mp checked with ⟨etag, single, checked⟩
  rcases bind_eq_ok.mp checked with ⟨contentFormat, _, checked⟩
  rcases bind_eq_ok.mp checked with ⟨size2, _, checked⟩
  rcases ite_error_eq_ok.mp checked with ⟨_, checked⟩
  have own : etag = message.etag? := by
    unfold singleEtag at single
    unfold CoapMessage.etag?
    split at single
    · rename_i none
      cases single
      rw [none]
      rfl
    · rename_i value one
      rcases ite_error_eq_ok.mp single with ⟨_, kept⟩
      cases kept
      rw [one]
      rfl
    · cases single
  subst own
  by_cases first : acc.blocksReceived = 0
  · rw [if_pos first] at checked
    cases checked
    exact ⟨fun _ => rfl, fun later => absurd first later⟩
  · rw [if_neg first] at checked
    rcases ite_error_eq_ok.mp checked with ⟨_, checked⟩
    rcases ite_error_eq_ok.mp checked with ⟨agrees, checked⟩
    rcases ite_error_eq_ok.mp checked with ⟨_, checked⟩
    cases checked
    refine ⟨fun none => absurd none first, fun _ => ⟨rfl, ?_⟩⟩
    intro own known carried kept
    rw [carried, kept] at agrees
    simpa [conflicts] using agrees

end Block2Accumulator

/-! ### The GET on the same responses -/

/-- A transfer between two blocks, with the ETag that its first block carried. -/
structure BlockTransfer.Tracks (known : Option ByteString) (transfer : BlockTransfer) : Prop where
  begun : transfer.accumulator.blocksReceived ≠ 0
  unfinished : transfer.accumulator.complete = false
  aligned : transfer.accumulator.Aligned
  etag : transfer.etag = known
  kept : ∀ etag, known = some etag → transfer.accumulator.etag = some etag

section Receiving

variable {transfer : BlockTransfer} {message : CoapMessage} {status : Block2Status}
  {next after : Block2Accumulator} {known : Option ByteString} {responses : List CoapMessage}

/-- A response that is expected and whose ETag is not taken for another one. -/
theorem receiveBlock_of_unchanged (unchanged : etagChanged transfer message = false)
    (taken : transfer.accumulator.respond message = (.ok status, next)) :
    receiveBlock transfer message =
      if status = .complete then
        .finished (.ok ⟨next.code, next.payload, next.blocksReceived, transfer.tok⟩)
      else .request
        { transfer with accumulator := next, etag := comparedEtag transfer message } := by
  unfold receiveBlock
  rw [unchanged, if_neg Bool.false_ne_true, taken]
  cases status <;> rfl

theorem blockwiseGetOnce_cons (expected : transfer.accumulator.Expects message)
    (unchanged : etagChanged transfer message = false)
    (taken : transfer.accumulator.respond message = (.ok status, next)) :
    blockwiseGetOnce transfer (message :: responses) =
      if status = .complete then
        .finished (.ok ⟨next.code, next.payload, next.blocksReceived, transfer.tok⟩)
      else blockwiseGetOnce
        { transfer with accumulator := next, etag := comparedEtag transfer message } responses := by
  rw [blockwiseGetOnce, if_pos expected, receiveBlock_of_unchanged unchanged taken]
  split_ifs <;> rfl

/-- A change of the ETag ends the attempt. -/
theorem not_returns_of_changed (expected : transfer.accumulator.Expects message)
    (changed : etagChanged transfer message = true) :
    ¬(blockwiseGetOnce transfer (message :: responses)).Returns after := by
  rintro ⟨result, returned, -⟩
  rw [blockwiseGetOnce, if_pos expected, receiveBlock, if_pos changed] at returned
  split_ifs at returned
  all_goals cases returned

/-- After the first block only a block that omits a known ETag is taken for a change. -/
theorem etagChanged_iff (tracks : transfer.Tracks known)
    (taken : transfer.accumulator.respond message = (.ok status, next))
    (unrepeated : status ≠ .duplicate) :
    etagChanged transfer message = true ↔
      known ≠ none ∧ message.code >>> 5 = 2 ∧ message.etag? = none := by
  have compared : etagChanged transfer message = true ↔
      message.code >>> 5 = 2 ∧ known ≠ none ∧ message.etag? ≠ known := by
    unfold etagChanged
    rw [decide_eq_true_eq, tracks.etag]
    exact and_congr_right fun _ => and_iff_right tracks.begun
  rw [compared]
  constructor
  · rintro ⟨success, isKnown, differs⟩
    refine ⟨isKnown, success, ?_⟩
    rcases Block2Accumulator.taken_cases taken unrepeated with
      ⟨failure, -⟩ | ⟨_, more, _, _, accepted, -⟩
    · exact absurd success failure
    · have agrees := ((Block2Accumulator.nextMetadata_etag accepted.metadata_eq).2
        tracks.begun).2
      rcases carried : message.etag? with _ | own
      · rfl
      · rcases Option.ne_none_iff_exists'.mp isKnown with ⟨etag, rfl⟩
        have same := agrees own etag carried (tracks.kept etag rfl)
        rw [carried, same] at differs
        exact absurd rfl differs
  · rintro ⟨isKnown, success, omitted⟩
    exact ⟨success, isKnown, fun same => isKnown (same.symm.trans omitted)⟩

/-- What a response that continues the transfer does to the accumulator. -/
theorem accepted_of_continued {acc : Block2Accumulator}
    (taken : acc.respond message = (.ok .continued, next)) :
    ∃ metadata responseSzx nextOffset,
      Block2Accumulator.Accepted acc message metadata true responseSzx nextOffset ∧
      next = acc.afterBlock message metadata true responseSzx nextOffset := by
  rcases Block2Accumulator.taken_cases taken (by decide) with
    ⟨-, finished, -⟩ | ⟨_, more, _, _, accepted, status, extended⟩
  · cases finished
  · cases more with
    | false => cases status
    | true => exact ⟨_, _, _, accepted, extended⟩

theorem BlockTransfer.Tracks.continued (tracks : transfer.Tracks known)
    (taken : transfer.accumulator.respond message = (.ok .continued, next)) :
    BlockTransfer.Tracks known
      { transfer with accumulator := next, etag := comparedEtag transfer message } := by
  have aligned := Block2Accumulator.aligned_respond tracks.aligned message
  rw [taken] at aligned
  rcases accepted_of_continued taken with ⟨metadata, responseSzx, nextOffset, accepted, rfl⟩
  rcases (Block2Accumulator.nextMetadata_etag accepted.metadata_eq).2 tracks.begun with
    ⟨merged, agrees⟩
  refine ⟨Nat.succ_ne_zero _, accepted.unfinished, aligned, ?_, ?_⟩
  · show comparedEtag transfer message = known
    rw [comparedEtag, if_neg fun both => tracks.begun both.2, tracks.etag]
  · intro etag isKnown
    show metadata.etag = some etag
    rw [merged, tracks.kept etag isKnown]
    rcases carried : message.etag? with _ | own
    · rfl
    · rw [agrees own etag carried (tracks.kept etag isKnown)]
      rfl

theorem BlockTransfer.Fresh.begins (fresh : transfer.Fresh) :
    transfer.accumulator.blocksReceived = 0 ∧ transfer.accumulator.complete = false ∧
      transfer.accumulator.payload = [] ∧ transfer.accumulator.Aligned := by
  have created := fresh.created
  unfold Block2Accumulator.create at created
  split_ifs at created
  rw [← Except.ok.inj created]
  exact ⟨rfl, rfl, rfl, fun _ => by simp⟩

/-- The first block of a transfer that continues. -/
theorem BlockTransfer.Fresh.tracks (fresh : transfer.Fresh)
    (taken : transfer.accumulator.respond message = (.ok .continued, next)) :
    BlockTransfer.Tracks message.etag?
      { transfer with accumulator := next, etag := comparedEtag transfer message } := by
  rcases fresh.begins with ⟨none, -, -, aligned⟩
  have aligned := Block2Accumulator.aligned_respond aligned message
  rw [taken] at aligned
  rcases accepted_of_continued taken with ⟨metadata, responseSzx, nextOffset, accepted, rfl⟩
  have own := (Block2Accumulator.nextMetadata_etag accepted.metadata_eq).1 none
  refine ⟨Nat.succ_ne_zero _, accepted.unfinished, aligned, ?_, ?_⟩
  · show comparedEtag transfer message = message.etag?
    rw [comparedEtag, if_pos ⟨accepted.success, none⟩]
    rfl
  · intro etag carried
    exact own.trans carried

/-- From the second block on. -/
theorem returns_iff_of_tracks (tracks : transfer.Tracks known)
    (assembles : Assembles transfer.accumulator responses after) :
    (blockwiseGetOnce transfer responses).Returns after ↔
      CarriesEtag known transfer.accumulator responses := by
  generalize isAcc : transfer.accumulator = acc at assembles
  induction assembles generalizing transfer with
  | @complete acc after message completed =>
      subst isAcc
      have expected := (Block2Accumulator.expects_iff tracks.aligned tracks.unfinished
        completed).mpr nofun
      have changes := etagChanged_iff tracks completed nofun
      by_cases changed : etagChanged transfer message = true
      · refine iff_of_false (not_returns_of_changed expected changed) ?_
        rcases changes.mp changed with ⟨isKnown, success, omitted⟩
        exact fun carries => carries.1 isKnown success expected omitted
      · have unchanged := Bool.eq_false_of_not_eq_true changed
        rw [blockwiseGetOnce_cons expected unchanged completed, if_pos rfl]
        refine iff_of_true ⟨_, rfl, rfl, rfl⟩ ⟨?_, trivial⟩
        exact fun isKnown success _ omitted => changed (changes.mpr ⟨isKnown, success, omitted⟩)
  | @next acc between after message responses status taken unfinished rest ih =>
      subst isAcc
      have expects := Block2Accumulator.expects_iff tracks.aligned tracks.unfinished taken
      cases status with
      | complete => exact absurd rfl unfinished
      | duplicate =>
          have unexpected : ¬transfer.accumulator.Expects message :=
            fun expected => expects.mp expected rfl
          have same : between = transfer.accumulator := by
            have kept := Block2Accumulator.respond_unchanged (.inr (congrArg Prod.fst taken))
            rwa [taken] at kept
          rw [blockwiseGetOnce, if_neg unexpected, CarriesEtag, taken,
            and_iff_right fun _ _ expected => absurd expected unexpected]
          exact ih tracks same.symm
      | continued =>
          have expected := expects.mpr nofun
          have changes := etagChanged_iff tracks taken nofun
          by_cases changed : etagChanged transfer message = true
          · refine iff_of_false (not_returns_of_changed expected changed) ?_
            rcases changes.mp changed with ⟨isKnown, success, omitted⟩
            exact fun carries => carries.1 isKnown success expected omitted
          · have unchanged := Bool.eq_false_of_not_eq_true changed
            rw [blockwiseGetOnce_cons expected unchanged taken, if_neg nofun, CarriesEtag, taken,
              and_iff_right fun isKnown success _ omitted =>
                changed (changes.mpr ⟨isKnown, success, omitted⟩)]
            exact ih (tracks.continued taken) rfl

/-- A GET agrees with the accumulator exactly on the responses that keep the first ETag. -/
theorem returns_iff (fresh : transfer.Fresh)
    (assembles : Assembles transfer.accumulator responses after) :
    (blockwiseGetOnce transfer responses).Returns after ↔
      KeepsEtag transfer.accumulator responses := by
  rcases fresh.begins with ⟨none, unfinished, empty, aligned⟩
  have unchanged (message : CoapMessage) : etagChanged transfer message = false := by
    simp [etagChanged, none]
  cases assembles with
  | complete completed =>
      have expected := (Block2Accumulator.expects_iff aligned unfinished completed).mpr (by simp)
      rw [blockwiseGetOnce_cons expected (unchanged _) completed, if_pos rfl]
      exact iff_of_true ⟨_, rfl, rfl, rfl⟩ trivial
  | @next _ between _ message responses status taken unfinished' rest =>
      have expects := Block2Accumulator.expects_iff aligned unfinished taken
      cases status with
      | complete => exact absurd rfl unfinished'
      | duplicate =>
          rcases Block2Accumulator.respond_duplicate (congrArg Prod.fst taken) with
            ⟨-, _, _, _, _, -, -, earlier⟩
          rw [empty] at earlier
          exact absurd earlier (Nat.not_lt_zero _)
      | continued =>
          rw [blockwiseGetOnce_cons (expects.mpr (by simp)) (unchanged message) taken,
            if_neg (by simp), KeepsEtag, taken]
          exact returns_iff_of_tracks (fresh.tracks taken) rest

end Receiving

/-! ### Restarts -/

/-- A transfer is restarted by a success response that lacks the ETag of an earlier one. -/
theorem restart_cause {transfer : BlockTransfer} {responses : List CoapMessage}
    (restarts : blockwiseGetOnce transfer responses = .start true) :
    ∃ message ∈ responses, message.code >>> 5 = 2 ∧ ∃ etag,
      (transfer.etag = some etag ∨ ∃ first ∈ responses, first.etag? = some etag) ∧
      message.etag? ≠ some etag := by
  induction responses generalizing transfer with
  | nil => cases restarts
  | cons message responses ih =>
      have later {next : BlockTransfer}
          (known : next.etag = transfer.etag ∨ next.etag = message.etag?)
          (restarts : blockwiseGetOnce next responses = .start true) :
          ∃ cause ∈ message :: responses, cause.code >>> 5 = 2 ∧ ∃ etag,
            (transfer.etag = some etag ∨ ∃ first ∈ message :: responses,
              first.etag? = some etag) ∧ cause.etag? ≠ some etag := by
        rcases ih restarts with ⟨cause, causeMem, success, etag, carried, differs⟩
        refine ⟨cause, List.mem_cons_of_mem _ causeMem, success, etag, ?_, differs⟩
        rcases carried with compared | ⟨first, firstMem, carried⟩
        · rcases known with same | own
          · exact .inl (same.symm.trans compared)
          · exact .inr ⟨message, List.mem_cons_self, own.symm.trans compared⟩
        · exact .inr ⟨first, List.mem_cons_of_mem _ firstMem, carried⟩
      by_cases expected : transfer.accumulator.Expects message
      · by_cases changed : etagChanged transfer message = true
        · simp only [etagChanged, decide_eq_true_eq] at changed
          rcases changed with ⟨success, -, isKnown, differs⟩
          rcases Option.ne_none_iff_exists'.mp isKnown with ⟨etag, known⟩
          rw [known] at differs
          exact ⟨message, List.mem_cons_self, success, etag, .inl known, differs⟩
        · rcases taken : transfer.accumulator.respond message with ⟨error | status, next⟩
          · rw [blockwiseGetOnce, if_pos expected, receiveBlock, if_neg changed, taken] at restarts
            cases restarts
          · rw [blockwiseGetOnce_cons expected (Bool.eq_false_of_not_eq_true changed) taken]
              at restarts
            split_ifs at restarts
            refine later ?_ restarts
            show comparedEtag transfer message = _ ∨ comparedEtag transfer message = _
            unfold comparedEtag
            split_ifs
            · exact .inr rfl
            · exact .inl rfl
      · rw [blockwiseGetOnce, if_neg expected] at restarts
        exact later (.inl rfl) restarts

/-! ### The thread of a GET -/

/-- What the thread of a GET has made of the responses it took is what the attempt makes of them. -/
def GetPoint.Follows : GetPoint → Prop
  | .start false | .finished (.error _) => True
  | .request transfer =>
      ∃ first responses, first.Fresh ∧ blockwiseGetOnce first responses = .request transfer
  | .exchange transfer _ point =>
      (∃ first responses, first.Fresh ∧ blockwiseGetOnce first responses = .request transfer) ∧
        ∀ message, point.response? = some message → transfer.accumulator.Expects message
  | point => ∃ first responses, first.Fresh ∧ blockwiseGetOnce first responses = point

theorem blockwiseGetOnce_concat {first transfer : BlockTransfer} {responses : List CoapMessage}
    {message : CoapMessage} (reached : blockwiseGetOnce first responses = .request transfer)
    (expected : transfer.accumulator.Expects message) :
    blockwiseGetOnce first (responses ++ [message]) = receiveBlock transfer message := by
  induction responses generalizing first with
  | nil =>
      cases reached
      rw [List.nil_append, blockwiseGetOnce, if_pos expected]
      rcases receiveBlock transfer message <;> rfl
  | cons response responses ih =>
      rw [blockwiseGetOnce] at reached
      rw [List.cons_append, blockwiseGetOnce]
      split_ifs at reached ⊢
      · rcases received : receiveBlock first response with _ | next | _ | _ <;>
          rw [received] at reached
        · cases reached
        · exact ih reached
        · cases reached
        · cases reached
      · exact ih reached

theorem follows_of_received {first : BlockTransfer} {responses : List CoapMessage}
    (fresh : first.Fresh) (point : GetPoint) (received : blockwiseGetOnce first responses = point)
    (between : ∀ transfer block inside, point ≠ .exchange transfer block inside) :
    point.Follows := by
  cases point with
  | start restarted => cases restarted <;> first | exact trivial | exact ⟨_, _, fresh, received⟩
  | request transfer => exact ⟨_, _, fresh, received⟩
  | exchange transfer block inside => exact absurd rfl (between _ _ _)
  | finished result => cases result <;> first | exact trivial | exact ⟨_, _, fresh, received⟩

theorem receiveBlock_ne_exchange (transfer : BlockTransfer) (message : CoapMessage) :
    ∀ other block inside, receiveBlock transfer message ≠ .exchange other block inside := by
  intro other block inside
  unfold receiveBlock
  split_ifs
  · exact nofun
  · exact nofun
  · split <;> exact nofun

/-- `_exchange_block` returns a response only if it answers the requested block. -/
theorem exchangeStep_expects (session : Session) (now : ℚ) (delivered : Bool)
    (transfer : BlockTransfer) (block : BlockExchange) {point : ExchangePoint}
    (expects : ∀ message, point.response? = some message → transfer.accumulator.Expects message) :
    ∀ message, (exchangeStep session now delivered transfer block point).2.1.response? =
      some message → transfer.accumulator.Expects message := by
  intro message
  cases point with
  | reading attempt =>
      simp only [exchangeStep]
      split
      · rename_i result found
        intro returned
        cases result with
        | error error => cases returned
        | ok other =>
            cases returned
            unfold readContainer at found
            split at found
            · cases found
            · split_ifs at found with matched
              cases found
              exact matched
            · cases found
      · split
        · simp [response?_afterWait]
        · simp [ExchangePoint.response?]
  | waiting attempt deadline acknowledged =>
      simp only [exchangeStep]
      split_ifs
      · simp [response?_afterWait]
      · simp [ExchangePoint.response?]
  | leaving result => exact expects message
  | _ =>
      simp only [exchangeStep]
      repeat' split
      all_goals simp [ExchangePoint.response?]

theorem getStep_follows (arguments : GetArguments) (session : Session) (now : ℚ)
    (delivered : Bool) {point : GetPoint} (follows : point.Follows) :
    (getStep arguments session now delivered point).2.1.Follows := by
  cases point with
  | start restarted =>
      simp only [getStep]
      split
      · exact trivial
      · rename_i accumulator created
        exact ⟨_, [], ⟨created, rfl⟩, rfl⟩
  | request transfer =>
      simp only [getStep]
      split
      · exact trivial
      · split
        · exact trivial
        · split
          · exact trivial
          · exact ⟨follows, by simp [ExchangePoint.response?]⟩
  | finished result => exact follows
  | exchange transfer block point =>
      rcases follows with ⟨⟨first, responses, fresh, reached⟩, expects⟩
      by_cases leaves : ∃ result, point = .leaving result
      · rcases leaves with ⟨error | message, rfl⟩
        · exact trivial
        · exact follows_of_received fresh _
            (blockwiseGetOnce_concat reached (expects message rfl))
            (receiveBlock_ne_exchange transfer message)
      · rw [getStep_exchange arguments session now delivered transfer block
          (not_exists.mp leaves)]
        exact ⟨⟨first, responses, fresh, reached⟩,
          exchangeStep_expects session now delivered transfer block expects⟩

theorem follows_perform (arguments : GetArguments) (state : GetState) (action : GetAction)
    (follows : state.getter.Follows) : (state.perform arguments action).getter.Follows := by
  cases action with
  | receive datagram =>
      simp only [GetState.perform]
      split_ifs <;> exact follows
  | advance now => exact follows
  | get now delivered => exact getStep_follows arguments state.session now delivered follows
  | others session => exact follows

/--
In every run an attempt of a GET does what it does with the responses it took; an
attempt that restarts has met a success response without the ETag of an earlier one; and
on responses that the accumulator assembles it returns the same code and payload exactly
when no block omits the ETag that the first one carried.
-/
theorem get_agrees_with_accumulator (arguments : GetArguments) :
    (∀ start : GetState, start.getter = .start false → ∀ actions,
      (Machine.run (GetState.perform arguments) actions start).getter.Follows) ∧
    ∀ transfer : BlockTransfer, transfer.Fresh → ∀ responses,
      (blockwiseGetOnce transfer responses = .start true →
        ∃ first ∈ responses, ∃ message ∈ responses, ∃ etag, message.code >>> 5 = 2 ∧
          first.etag? = some etag ∧ message.etag? ≠ some etag) ∧
      ∀ assembled, Assembles transfer.accumulator responses assembled →
        ((blockwiseGetOnce transfer responses).Returns assembled ↔
          KeepsEtag transfer.accumulator responses) := by
  refine ⟨?_, ?_⟩
  · intro start begins actions
    have initial : start.getter.Follows := by
      rw [begins]
      exact trivial
    exact Machine.invariant_run_all (fun state action => follows_perform arguments state action)
      actions initial
  · intro transfer fresh responses
    refine ⟨?_, fun assembled assembles => returns_iff fresh assembles⟩
    intro restarts
    rcases restart_cause restarts with ⟨message, messageMem, success, etag, carried, differs⟩
    rcases carried with compared | ⟨first, firstMem, carried⟩
    · rw [fresh.etag] at compared
      cases compared
    · exact ⟨first, firstMem, message, messageMem, etag, success, carried, differs⟩

/-- An attempt under the token 1. -/
def BlockTransfer.begun : BlockTransfer where
  restarted := false
  tok := [1]
  accumulator := {
    token := [1]
    maxBlocks := Coap.maxBlock2Blocks
    maxPayloadBytes := Coap.maxBlock2PayloadBytes
    acceptedContentFormats := none
    tokenFits := by decide
    maxBlocksPos := by decide
    maxPayloadBytesPos := by decide
    expectedNumber := 0
    negotiatedSzx := none
    etag := none
    contentFormat := none
    size2 := none
    payload := []
    blocksReceived := 0
    code := none
    complete := false }
  etag := none
  deadline := 10

/-- A block of sixteen bytes, or the last one. -/
def blockResponse (number : UInt8) (more : Bool) (etag : List CoapOption) (payload : ByteString) :
    CoapMessage :=
  ⟨Coap.typeAck, 0x45, 1, [1], etag ++ [(Coap.block2, [number * 16 + if more then 8 else 0])],
    payload⟩

theorem fresh_begun : BlockTransfer.begun.Fresh := ⟨rfl, rfl⟩

/-- Two blocks with one ETag are returned, in every run of responses that assembles them. -/
theorem get_agrees_with_accumulator_example :
    (blockwiseGetOnce .begun [blockResponse 0 true [(Coap.etag, [9])] (List.replicate 16 7),
      blockResponse 1 false [(Coap.etag, [9])] [8]]).Returns
        (BlockTransfer.begun.accumulator.respondAll
          [blockResponse 0 true [(Coap.etag, [9])] (List.replicate 16 7),
            blockResponse 1 false [(Coap.etag, [9])] [8]]).2 := by
  refine (((get_agrees_with_accumulator ⟨[], [], 10, []⟩).2 .begun fresh_begun _).2 _ ?_).mpr ?_
  · exact .next rfl nofun (.complete rfl)
  · exact ⟨fun _ _ _ => nofun, trivial⟩

/-- A last block without the ETag of the first one completes the accumulator, not the GET. -/
theorem get_disagrees_on_omission :
    let responses := [blockResponse 0 true [(Coap.etag, [9])] (List.replicate 16 7),
      blockResponse 1 false [] [8]]
    Assembles BlockTransfer.begun.accumulator responses
        (BlockTransfer.begun.accumulator.respondAll responses).2 ∧
      (BlockTransfer.begun.accumulator.respondAll responses).2.payload =
        List.replicate 16 7 ++ [8] ∧
      blockwiseGetOnce .begun responses = .start true := by
  refine ⟨.next rfl nofun (.complete rfl), ?_, ?_⟩
  · decide +kernel
  · decide +kernel

end SmartThingsLocal
