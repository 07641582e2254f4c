import Mathlib.Data.Nat.Size
import SmartThingsLocal.Coap.BlockOption
import SmartThingsLocal.Foundation.Machine
import SmartThingsLocal.Foundation.Slices
import SmartThingsLocal.Session.Block1Upload
import SmartThingsLocal.Session.Reader

/-!
# The slices of an upload

A Block1 upload sends consecutive slices of its body, whatever the server answers and
however it reduces the block size. All chunks share one token, so a response can be
dispatched to a chunk that has not been sent yet; the upload takes a successful one as
the answer to that chunk and goes on without sending it.
-/

namespace SmartThingsLocal

open Session

/-- The slice of the body a chunk carries. -/
def UploadChunk.slice (chunk : UploadChunk) : Slice UInt8 :=
  ⟨chunk.start, chunk.stop, chunk.payload⟩

/-- A slice of the body and the Block1 values that belong to it. -/
structure UploadChunk.Of (body : ByteString) (chunk : UploadChunk) : Prop where
  slice : chunk.slice.Of body
  start_eq : chunk.num * 2 ^ (chunk.szx + 4) = chunk.start
  num_lt : chunk.num < 2 ^ 20
  more_iff : chunk.more = true ↔ chunk.stop < body.length

/-- A POST datagram that is read back as a chunk, with the body's size if the chunk is the first. -/
def Carries (body datagram : ByteString) (chunk : UploadChunk) : Prop :=
  ∃ message block, parseCoap datagram = .ok message ∧ message.code = Coap.methodPost ∧
    message.payload = chunk.payload ∧ optionValues message.options Coap.block1 = [block] ∧
    blockFields block = (chunk.num, chunk.more.toNat, chunk.szx) ∧
    (optionValues message.options Coap.size1).map ByteString.toNat =
      if chunk.start = 0 then [body.length] else []

/-- The session, its reader, one upload, and the distinct requests that it has sent. -/
structure UploadState where
  session : Session
  reader : DispatchPoint
  point : UploadPoint
  sent : List ByteString

/-- A datagram arrives, the reader or the upload moves, or another thread changes the session. -/
inductive UploadAction
  | receive (datagram : ByteString)
  | advance (now : ℚ)
  | others (session : Session)
  | upload (now : ℚ) (delivered : Bool)

/-- A retransmission is the same request. -/
def addRequest (sent : List ByteString) : Effect → List ByteString
  | .sent datagram => if datagram ∈ sent then sent else sent ++ [datagram]
  | _ => sent

/-- A registered chunk and where its attempts are. -/
def UploadPoint.exchange? : UploadPoint → Option (ChunkExchange × ChunkStage)
  | .exchange _ call stage => some (call, stage)
  | _ => none

/-- The stage takes a response out of the container, if there is one. -/
def ChunkStage.Reads : ChunkStage → Prop
  | .looking _ | .reading _ => True
  | _ => False

instance (stage : ChunkStage) : Decidable stage.Reads := by
  unfold ChunkStage.Reads
  split <;> infer_instance

namespace UploadState

def perform (settings : WriteSettings) (arguments : PostArguments) (action : UploadAction)
    (state : UploadState) : UploadState :=
  match action with
  | .receive datagram =>
      if state.reader = .idle then
        { state with reader := (Session.receive state.session datagram).1 }
      else state
  | .advance now =>
      let (session, reader, _) := dispatchStep state.session now state.reader
      { state with session, reader }
  | .others session => { state with session }
  | .upload now delivered =>
      let (session, point, effects) :=
        uploadStep settings arguments state.session now delivered state.point
      { state with session, point, sent := effects.foldl addRequest state.sent }

/-- An upload that is about to start in some session with some reader. -/
def start (session : Session) (reader : DispatchPoint) : UploadState :=
  ⟨session, reader, .start, []⟩

end UploadState

/-- The upload does not read a successful response to a chunk that it has not sent. -/
def ReadsAfterSending (state : UploadState) : UploadAction → Prop
  | .upload _ _ => ∀ entry ∈ state.point.exchange?, entry.2.Reads → entry.1.datagram ∉ state.sent →
      (state.session.registry.requests entry.1.request).err = none →
        ∀ message ∈ (state.session.registry.requests entry.1.request).message,
          message.code >>> 5 ≠ 2
  | _ => True

instance (state : UploadState) : ∀ action, Decidable (ReadsAfterSending state action)
  | .upload _ _ => inferInstanceAs (Decidable (∀ entry ∈ state.point.exchange?, _))
  | .receive _ | .advance _ | .others _ => inferInstanceAs (Decidable True)

/-! ### One chunk on the wire -/

theorem optionValues_absent {options : List CoapOption} {number : ℕ}
    (absent : ∀ option ∈ options, option.1 ≠ number) : optionValues options number = [] := by
  simpa [optionValues] using absent

theorem toNat_size1Value (length : ℕ) : ByteString.toNat (size1Value length) = length := by
  apply ByteString.toNat_ofNat
  calc length < 2 ^ Nat.size length := Nat.lt_size_self length
    _ ≤ 2 ^ (8 * max 1 ((Nat.size length + 7) / 8)) :=
      Nat.pow_le_pow_right Nat.two_pos (by omega)
    _ = 256 ^ max 1 ((Nat.size length + 7) / 8) := by
      rw [pow_mul]
      norm_num

variable {settings : WriteSettings} {arguments : PostArguments}

/-- What the checks of `post` guarantee: encodable options, none managed, and a bounded body. -/
structure PostArguments.Valid (arguments : PostArguments) : Prop where
  pathSegs : ∀ value ∈ arguments.pathSegs, (optionBytesOf value).length ≤ maxRequestOptionBytes
  query : ∀ value ∈ arguments.query, (optionBytesOf value).length ≤ maxRequestOptionBytes
  extraOptions : ∀ option ∈ arguments.extraOptions, option.1 ≤ maxRequestOptionNumber ∧
    option.1 ∉ managedRequestOptions ∧ option.2.length ≤ maxRequestOptionBytes
  body : arguments.body.length ≤ maxBlock1BodyBytes

theorem valid_of_postChecks (passed : postChecks arguments = .ok ()) : arguments.Valid := by
  simp only [postChecks, Fallible.bind_eq_ok, Fallible.ite_error_eq_ok] at passed
  rcases passed with ⟨_, pathSegs, _, query, _, extraOptions, bounded, _⟩
  exact ⟨(textOptionsFrom_ok pathSegs).2, (textOptionsFrom_ok query).2,
    (extraOptionsFrom_ok extraOptions).2, not_lt.mp bounded⟩

theorem postOptions_valid (valid : arguments.Valid) :
    ∀ option ∈ postOptions arguments,
      option.1 ∈ [Coap.uriPath, Coap.uriQuery, Coap.contentFormat, Coap.accept] ∧
        option.2.length ≤ maxRequestOptionBytes := by
  intro option optionMem
  simp only [postOptions, List.mem_append, List.mem_map] at optionMem
  rcases optionMem with (⟨segment, segmentMem, rfl⟩ | ⟨value, valueMem, rfl⟩) | fixed
  · exact ⟨by simp, valid.pathSegs segment segmentMem⟩
  · exact ⟨by simp, valid.query value valueMem⟩
  · rcases List.mem_pair.mp fixed with rfl | rfl <;> exact ⟨by simp, by decide⟩

/-- The upload stands at a multiple of its block size inside the body. -/
structure Upload.Aligned (body : ByteString) (upload : Upload) : Prop where
  tok : upload.tok.length = 4
  szx_le : upload.szx ≤ Coap.blockSzx
  aligned : upload.offset % 2 ^ (upload.szx + 4) = 0
  inside : upload.offset < body.length

theorem nextChunk_of {body : ByteString} {upload : Upload} (aligned : upload.Aligned body)
    (bounded : body.length ≤ maxBlock1BodyBytes) : (nextChunk body upload).Of body := by
  rcases aligned with ⟨_, _, aligned, inside⟩
  have positive : 0 < 2 ^ (upload.szx + 4) := Nat.two_pow_pos _
  have large : 16 ≤ 2 ^ (upload.szx + 4) := by
    rw [pow_add]
    exact Nat.le_mul_of_pos_left _ (Nat.two_pow_pos _)
  have length : ((body.drop upload.offset).take (1 <<< (upload.szx + 4))).length =
      min (2 ^ (upload.szx + 4)) (body.length - upload.offset) := by
    rw [Nat.one_shiftLeft, List.length_take, List.length_drop]
  refine ⟨⟨?_, ?_, ?_⟩, ?_, ?_, ?_⟩
  · simp only [UploadChunk.slice, nextChunk, length]
    omega
  · simp only [UploadChunk.slice, nextChunk, length]
    omega
  · simp only [UploadChunk.slice, nextChunk, length]
    rw [Nat.one_shiftLeft, List.drop_take, List.take_eq_take_iff, List.length_drop]
    omega
  · simp only [nextChunk, Nat.one_shiftLeft]
    exact Nat.div_mul_cancel (Nat.dvd_of_mod_eq_zero aligned)
  · calc (nextChunk body upload).num ≤ upload.offset / 16 := by
          simp only [nextChunk, Nat.one_shiftLeft]
          exact Nat.div_le_div_left large (by decide)
      _ < 2 ^ 20 := by
          unfold maxBlock1BodyBytes at bounded
          omega
  · simp [nextChunk]

/-- A chunk that is not the last one fills its block. -/
theorem nextChunk_stop {body : ByteString} {upload : Upload}
    (more : (nextChunk body upload).more = true) :
    (nextChunk body upload).stop = upload.offset + 2 ^ (upload.szx + 4) := by
  simp only [nextChunk, Nat.one_shiftLeft, List.length_take, List.length_drop,
    decide_eq_true_eq] at more ⊢
  omega

/-- The options of a chunk, in the order in which they are listed. -/
def listedOptions (arguments : PostArguments) (chunk : UploadChunk) (block : ByteString) :
    List CoapOption :=
  postOptions arguments ++ [(Coap.block1, block)] ++
    (if chunk.start = 0 then [(Coap.size1, size1Value arguments.body.length)] else []) ++
    arguments.extraOptions

theorem listedOptions_encodable (valid : arguments.Valid) (chunk : UploadChunk) {block : ByteString}
    (blockLength : block.length ≤ 3) :
    ∀ option ∈ listedOptions arguments chunk block,
      option.1 ≤ OptionBytes.maxExtended ∧ option.2.length ≤ OptionBytes.maxExtended := by
  have bound : maxRequestOptionBytes ≤ OptionBytes.maxExtended := by decide
  intro option optionMem
  simp only [listedOptions, List.mem_append] at optionMem
  rcases optionMem with ((fromPost | isBlock) | isSize) | fromCaller
  · rcases postOptions_valid valid option fromPost with ⟨number, short⟩
    refine ⟨?_, short.trans bound⟩
    revert number
    generalize option.1 = number
    simp only [List.mem_cons, List.not_mem_nil, or_false]
    rintro (rfl | rfl | rfl | rfl) <;> decide
  · rw [List.mem_singleton.mp isBlock]
    exact ⟨show Coap.block1 ≤ _ by decide, blockLength.trans (by decide)⟩
  · split_ifs at isSize
    · rw [List.mem_singleton.mp isSize]
      have small : Nat.size arguments.body.length ≤ 20 :=
        Nat.size_le.mpr (valid.body.trans_lt (by decide))
      refine ⟨show Coap.size1 ≤ _ by decide, ?_⟩
      simp only [size1Value, ByteString.length_ofNat, OptionBytes.maxExtended]
      omega
    · cases isSize
  · rcases valid.extraOptions option fromCaller with ⟨number, _, short⟩
    exact ⟨number.trans (by decide), short.trans bound⟩

theorem optionValues_listedOptions (valid : arguments.Valid) (chunk : UploadChunk)
    (block : ByteString) :
    optionValues (listedOptions arguments chunk block) Coap.block1 = [block] ∧
      optionValues (listedOptions arguments chunk block) Coap.size1 =
        if chunk.start = 0 then [size1Value arguments.body.length] else [] := by
  have fromPost : ∀ number ∈ [Coap.block1, Coap.size1],
      optionValues (postOptions arguments) number = [] := by
    intro number managed
    apply optionValues_absent
    rintro option optionMem rfl
    have listed := (postOptions_valid valid option optionMem).1
    revert managed listed
    generalize option.1 = number
    simp only [List.mem_cons, List.not_mem_nil, or_false]
    rintro (rfl | rfl) <;> decide
  have fromCaller : ∀ number ∈ [Coap.block1, Coap.size1],
      optionValues arguments.extraOptions number = [] := by
    intro number managed
    apply optionValues_absent
    rintro option optionMem rfl
    apply (valid.extraOptions option optionMem).2.1
    revert managed
    generalize option.1 = number
    simp only [List.mem_cons, List.not_mem_nil, or_false]
    rintro (rfl | rfl) <;> decide
  constructor
  · simp only [listedOptions, optionValues_append, fromPost _ (List.mem_cons_self ..),
      fromCaller _ (List.mem_cons_self ..)]
    split_ifs <;> rfl
  · simp only [listedOptions, optionValues_append, fromPost Coap.size1 (by simp),
      fromCaller Coap.size1 (by simp)]
    split_ifs <;> rfl

/-- Every chunk has a datagram that carries it. -/
theorem chunk_datagram {chunk : UploadChunk} {tok : ByteString} (mid : ℕ) (valid : arguments.Valid)
    (of : chunk.Of arguments.body) (octal : chunk.szx ≤ Coap.blockSzx) (tokLength : tok.length = 4)
    (midFits : mid < 2 ^ 16) :
    ∃ options datagram, chunkOptions arguments chunk = .ok options ∧
      buildCoap Coap.typeCon Coap.methodPost mid tok options chunk.payload = .ok datagram ∧
      Carries arguments.body datagram chunk := by
  rcases blockValue_ok of.num_lt chunk.more.toNat_lt (octal.trans_lt (by decide)) with
    ⟨block, encoded, blockLength, fields⟩
  have listed : chunkOptions arguments chunk = .ok (listedOptions arguments chunk block) := by
    simp only [chunkOptions, encoded]
    rfl
  have encodable := listedOptions_encodable valid chunk blockLength
  have wellFormed : CoapMessage.WellFormed ⟨Coap.typeCon, Coap.methodPost, mid, tok,
      sortByNumber (listedOptions arguments chunk block), chunk.payload⟩ :=
    ⟨show Coap.typeCon ≤ 3 by decide, show Coap.methodPost ≤ 255 by decide, midFits,
      tokLength.trans_le (by decide),
      representable_sortByNumber (fun option optionMem => (encodable option optionMem).1)
        (fun option optionMem => (encodable option optionMem).2)⟩
  have values := optionValues_listedOptions valid chunk block
  refine ⟨_, _, listed, buildCoap_eq _ _ _ _ _ _ wellFormed, _, block,
    parseCoap_datagramBytes wellFormed, rfl, rfl, ?_, fields, ?_⟩
  · rw [optionValues, sortByNumber_filter]
    exact values.1
  · rw [optionValues, sortByNumber_filter]
    change (optionValues _ _).map _ = _
    rw [values.2]
    split_ifs <;> simp [toNat_size1Value]

/-- A datagram determines where its chunk starts. -/
theorem Carries.start_eq {body datagram : ByteString} {chunk other : UploadChunk}
    (carries : Carries body datagram chunk) (carriesOther : Carries body datagram other)
    (of : chunk.Of body) (ofOther : other.Of body) : chunk.start = other.start := by
  rcases carries with ⟨message, block, parsed, _, _, isBlock, fields, _⟩
  rcases carriesOther with ⟨_, otherBlock, parsedOther, _, _, isOther, otherFields, _⟩
  cases parsed.symm.trans parsedOther
  cases isBlock.symm.trans isOther
  have same := fields.symm.trans otherFields
  simp only [Prod.mk.injEq] at same
  rw [← of.start_eq, ← ofOther.start_eq, same.1, same.2.2]

/-! ### One step of the upload -/

theorem answerChunk_continues {szx offset next : ℕ} {more : Bool} {message : CoapMessage}
    (continues : answerChunk szx offset more message = .continues next) :
    more = true ∧ message.code >>> 5 = 2 ∧ next ≤ szx := by
  unfold answerChunk at continues
  dsimp only at continues
  split_ifs at continues with isMore code
  · split at continues
    · split_ifs at continues with _ refused
      cases continues
      refine ⟨isMore, ?_, ?_⟩
      · rw [not_not.mp code]
        rfl
      · exact not_lt.mp fun larger => refused (.inr larger)
    · cases continues
  · split at continues
    · cases continues
    · split_ifs at continues
    · cases continues

/-- A successful response ends the upload only if it answers the last chunk. -/
theorem answerChunk_returns {szx offset : ℕ} {more : Bool} {message : CoapMessage}
    (returns : answerChunk szx offset more message = .returns) (success : message.code >>> 5 = 2) :
    more = false := by
  unfold answerChunk at returns
  dsimp only at returns
  split_ifs at returns with isMore code
  · split at returns
    · split_ifs at returns
    · cases returns
  all_goals exact Bool.eq_false_iff.mpr isMore

/-- Reducing the block size keeps the offset aligned. -/
theorem aligned_of_le {offset szx next : ℕ} (aligned : offset % 2 ^ (szx + 4) = 0)
    (smaller : next ≤ szx) : offset % 2 ^ (next + 4) = 0 := by
  apply Nat.mod_eq_zero_of_dvd
  exact (pow_dvd_pow 2 (Nat.add_le_add_right smaller 4)).trans (Nat.dvd_of_mod_eq_zero aligned)

theorem answerChunk_raises {szx offset : ℕ} {more : Bool} {message : CoapMessage}
    {raised : BlockwiseRaise} (aligned : offset % 2 ^ (szx + 4) = 0)
    (raises : answerChunk szx offset more message = .raises raised) : raised = .refused := by
  unfold answerChunk at raises
  dsimp only at raises
  split_ifs at raises
  · cases raises
    rfl
  · split at raises
    · split_ifs at raises with _ refused misaligned
      · cases raises
        rfl
      · cases raises
        rfl
      · rw [Nat.one_shiftLeft] at misaligned
        exact absurd (aligned_of_le aligned (not_lt.mp fun larger => refused (.inr larger)))
          misaligned
    · cases raises
      rfl
  · cases raises
    rfl
  · split at raises
    · cases raises
    · split_ifs at raises <;> cases raises <;> rfl
    · cases raises
      rfl

/-- Where the exchange of a chunk takes a response, and what it sends. -/
theorem chunkStage_spec (settings : WriteSettings) (session : Session) (now : ℚ) (delivered : Bool)
    (deadline : ℚ) (call : ChunkExchange) {stage : ChunkStage}
    (inside : ∀ result, stage ≠ .leaving result) :
    let next := chunkStage settings session now delivered deadline call stage
    (next.2.2 = [] ∨ next.2.2 = [.sent call.datagram] ∧ ∀ result, next.2.1 ≠ .leaving result) ∧
      ∀ message, next.2.1 = .leaving (.ok message) → stage.Reads ∧ next.2.2 = [] ∧
        (session.registry.requests call.request).err = none ∧
        (session.registry.requests call.request).message = some message := by
  cases stage with
  | leaving result => exact absurd rfl (inside result)
  | pacing attempt => exact ⟨.inl rfl, by simp [chunkStage]⟩
  | looking attempt =>
      simp only [chunkStage]
      split <;> exact ⟨.inl rfl, by simp_all [ChunkStage.Reads]⟩
  | checking attempt acknowledged =>
      simp only [chunkStage]
      split
      · exact ⟨.inl rfl, by simp⟩
      · split_ifs <;> exact ⟨.inl rfl, by simp⟩
  | sending attempt =>
      simp only [chunkStage]
      split
      · exact ⟨.inr ⟨rfl, by simp⟩, by simp⟩
      · split_ifs <;> exact ⟨.inl rfl, by simp⟩
  | reading attempt =>
      simp only [chunkStage]
      split
      · exact ⟨.inl rfl, by simp⟩
      · exact ⟨.inl rfl, by simp_all [ChunkStage.Reads]⟩
      · split_ifs <;> exact ⟨.inl rfl, by simp⟩
  | waiting attempt acknowledged wait =>
      simp only [chunkStage]
      split
      · exact ⟨.inl rfl, by simp⟩
      · exact ⟨.inl rfl, by simp⟩
      · split_ifs <;> exact ⟨.inl rfl, by simp⟩
      · exact ⟨.inl rfl, by simp⟩
  | retrying attempt =>
      simp only [chunkStage]
      split_ifs <;> exact ⟨.inl rfl, by simp⟩

/-- What holds of an upload wherever it is. -/
def UploadPoint.Sliced (arguments : PostArguments) : UploadPoint → Prop
  | .start => True
  | .allocate => arguments.Valid
  | .chunking upload => arguments.Valid ∧ upload.Aligned arguments.body
  | .register upload chunk =>
      arguments.Valid ∧ upload.Aligned arguments.body ∧ chunk = nextChunk arguments.body upload
  | .exchange upload call _ =>
      arguments.Valid ∧ upload.Aligned arguments.body ∧
        call.chunk = nextChunk arguments.body upload ∧
        Carries arguments.body call.datagram call.chunk
  | .finished result => ∀ raised, result = .error (.blockwise raised) → raised = .refused

/-- The loop head registers the next slice or fails. -/
theorem uploadStep_chunking (settings : WriteSettings) (arguments : PostArguments)
    (session : Session) (now : ℚ) (delivered : Bool) (upload : Upload) :
    let next := uploadStep settings arguments session now delivered (.chunking upload)
    next.2.2 = [] ∧ ((∃ failure, next.2.1 = .finished (.error failure)) ∨
      next.2.1 = .register { upload with requestCount := upload.requestCount + 1 }
        (nextChunk arguments.body upload)) := by
  simp only [uploadStep]
  cases session.liveness.checkLive with
  | error error => split_ifs <;> exact ⟨rfl, .inl ⟨_, rfl⟩⟩
  | ok =>
      split_ifs
      · exact ⟨rfl, .inl ⟨_, rfl⟩⟩
      · exact ⟨rfl, .inl ⟨_, rfl⟩⟩
      · exact ⟨rfl, .inr rfl⟩
      · exact ⟨rfl, .inl ⟨_, rfl⟩⟩

/-- A registered chunk has a datagram that carries it. -/
theorem uploadStep_register (settings : WriteSettings) (session : Session) (now : ℚ)
    (delivered : Bool) {upload : Upload} {chunk : UploadChunk} (valid : arguments.Valid)
    (aligned : upload.Aligned arguments.body) (isNext : chunk = nextChunk arguments.body upload) :
    let next := uploadStep settings arguments session now delivered (.register upload chunk)
    next.2.2 = [] ∧ ((∃ failure, next.2.1 = .finished (.error (.other failure))) ∨
      ∃ mid request datagram,
        next.2.1 = .exchange upload ⟨chunk, mid, request, datagram⟩ (.pacing 0) ∧
          Carries arguments.body datagram chunk) := by
  have of := isNext ▸ nextChunk_of aligned valid.body
  have octal : chunk.szx ≤ Coap.blockSzx := isNext ▸ aligned.szx_le
  rcases chunk_datagram 0 valid of octal aligned.tok (Nat.two_pow_pos 16) with
    ⟨options, _, listed, _, _⟩
  simp only [uploadStep, listed]
  generalize registered : session.registry.registerPendingRequest upload.tok _ = outcome
  rcases outcome with ⟨error | ⟨mid, request⟩, registry⟩
  · exact ⟨rfl, .inl ⟨_, rfl⟩⟩
  · have midFits := Registry.registerPendingRequest_mid_lt registered
    rcases chunk_datagram mid valid of octal aligned.tok midFits with
      ⟨sameOptions, datagram, sameListed, built, carries⟩
    cases listed.symm.trans sameListed
    simp only [built]
    exact ⟨trivial, .inr ⟨mid, request, datagram, rfl, carries⟩⟩

theorem uploadStep_exchange (settings : WriteSettings) (arguments : PostArguments)
    (session : Session) (now : ℚ) (delivered : Bool) (upload : Upload) (call : ChunkExchange)
    {stage : ChunkStage} (inside : ∀ result, stage ≠ .leaving result) :
    uploadStep settings arguments session now delivered (.exchange upload call stage) =
      ((chunkStage settings session now delivered upload.deadline call stage).1,
        .exchange upload call
          (chunkStage settings session now delivered upload.deadline call stage).2.1,
        (chunkStage settings session now delivered upload.deadline call stage).2.2) := by
  cases stage with
  | leaving result => exact absurd rfl (inside result)
  | _ => rfl

/-- The upload after a chunk that is not the last one and a reduction of the block size. -/
theorem Upload.Aligned.next {body : ByteString} {upload : Upload} {szx : ℕ}
    (aligned : upload.Aligned body) (bounded : body.length ≤ maxBlock1BodyBytes)
    (more : (nextChunk body upload).more = true) (smaller : szx ≤ upload.szx) :
    Upload.Aligned body { upload with offset := (nextChunk body upload).stop, szx } := by
  refine ⟨aligned.tok, smaller.trans aligned.szx_le, ?_, ?_⟩
  · simp only [nextChunk_stop more]
    apply aligned_of_le _ smaller
    rw [Nat.add_mod_right, aligned.aligned]
  · exact (nextChunk_of aligned bounded).more_iff.mp more

theorem sliced_uploadStep (settings : WriteSettings) (nonempty : 0 < arguments.body.length)
    (session : Session) (now : ℚ) (delivered : Bool) {point : UploadPoint}
    (sliced : point.Sliced arguments) :
    (uploadStep settings arguments session now delivered point).2.1.Sliced arguments := by
  cases point with
  | start =>
      simp only [uploadStep]
      split
      · simp [UploadPoint.Sliced]
      · split
        · simp [UploadPoint.Sliced]
        · exact valid_of_postChecks ‹_›
  | allocate =>
      exact ⟨sliced, ByteString.length_ofNat _ _, le_rfl, Nat.zero_mod _, nonempty⟩
  | chunking upload =>
      rcases sliced with ⟨valid, aligned⟩
      have positioned : ¬upload.offset % (1 <<< (upload.szx + 4)) ≠ 0 := by
        rw [Nat.one_shiftLeft, not_not]
        exact aligned.aligned
      simp only [uploadStep, if_pos aligned.inside, if_neg positioned]
      split
      · simp [UploadPoint.Sliced]
      · split_ifs
        · rintro _ ⟨⟩
          rfl
        · exact ⟨valid, ⟨aligned.tok, aligned.szx_le, aligned.aligned, aligned.inside⟩, rfl⟩
  | register upload chunk =>
      rcases sliced with ⟨valid, aligned, isNext⟩
      rcases (uploadStep_register settings session now delivered valid aligned isNext).2 with
        ⟨failure, isFinished⟩ | ⟨mid, request, datagram, isExchange, carries⟩
      · rw [isFinished]
        simp [UploadPoint.Sliced]
      · rw [isExchange]
        exact ⟨valid, aligned, isNext, carries⟩
  | exchange upload call stage =>
      by_cases leaves : ∃ result, stage = .leaving result
      · rcases leaves with ⟨result, rfl⟩
        rcases sliced with ⟨valid, aligned, isNext, carries⟩
        cases result with
        | error failure => simp [uploadStep, UploadPoint.Sliced]
        | ok message =>
            simp only [uploadStep]
            cases answer : answerChunk upload.szx upload.offset call.chunk.more message with
            | continues szx =>
                rcases answerChunk_continues answer with ⟨more, _, smaller⟩
                rw [isNext] at more ⊢
                exact ⟨valid, aligned.next valid.body more smaller⟩
            | returns => simp [UploadPoint.Sliced]
            | raises raised =>
                rintro _ ⟨⟩
                exact answerChunk_raises aligned.aligned answer
      · rw [uploadStep_exchange _ _ _ _ _ _ _ (not_exists.mp leaves)]
        exact sliced
  | finished result => exact sliced

/-- The upload sends nothing but the datagram of its current chunk. -/
theorem uploadStep_effects (settings : WriteSettings) (arguments : PostArguments)
    (session : Session) (now : ℚ) (delivered : Bool) (point : UploadPoint) :
    (uploadStep settings arguments session now delivered point).2.2 = [] ∨
      ∃ upload call stage, point = .exchange upload call stage ∧
        (∀ result, stage ≠ .leaving result) ∧
        (uploadStep settings arguments session now delivered point).2.2 =
          [.sent call.datagram] := by
  cases point with
  | start =>
      left
      simp only [uploadStep]
      split
      · rfl
      · split <;> rfl
  | allocate => exact .inl rfl
  | chunking upload =>
      exact .inl (uploadStep_chunking settings arguments session now delivered upload).1
  | register upload chunk =>
      left
      simp only [uploadStep]
      split
      · rfl
      · split
        · rfl
        · split <;> rfl
  | exchange upload call stage =>
      by_cases leaves : ∃ result, stage = .leaving result
      · rcases leaves with ⟨error | message, rfl⟩
        · exact .inl rfl
        · left
          simp only [uploadStep]
          split <;> rfl
      · have inside := not_exists.mp leaves
        rw [uploadStep_exchange _ _ _ _ _ _ _ inside]
        rcases (chunkStage_spec settings session now delivered upload.deadline call inside).1 with
          silent | ⟨sends, _⟩
        · exact .inl silent
        · exact .inr ⟨upload, call, stage, rfl, inside, sends⟩
  | finished result => exact .inl rfl

/-! ### Runs -/

/-- How far the sent slices reach, wherever the upload is. -/
def UploadPoint.Reaches (body : ByteString) (sent : List ByteString) (stop : ℕ) : UploadPoint → Prop
  | .start | .allocate => stop = 0
  | .chunking upload | .register upload _ => stop = upload.offset
  | .exchange upload call stage =>
      stop = (if call.datagram ∈ sent then call.chunk.stop else upload.offset) ∧
        ∀ message, stage = .leaving (.ok message) → message.code >>> 5 = 2 → call.datagram ∈ sent
  | .finished result =>
      ∀ code payload, result = .ok (code, payload) → code >>> 5 = 2 → stop = body.length

/-- The requests are consecutive slices of the body, up to where the upload is. -/
structure CoversBody (body : ByteString) (sent : List ByteString) (chunks : List UploadChunk)
    (stop : ℕ) : Prop where
  carried : List.Forall₂ (Carries body) sent chunks
  of : ∀ chunk ∈ chunks, chunk.Of body
  covers : Slice.Covers body 0 (chunks.map UploadChunk.slice) stop

/-- The datagram of a chunk that starts where the sent slices stop is new. -/
theorem CoversBody.fresh {body datagram : ByteString} {sent : List ByteString}
    {chunks : List UploadChunk} {chunk : UploadChunk} {stop : ℕ}
    (covers : CoversBody body sent chunks stop) (carries : Carries body datagram chunk)
    (of : chunk.Of body) (start : chunk.start = stop) : datagram ∉ sent := by
  intro isSent
  rcases List.mem_iff_getElem.mp isSent with ⟨index, inside, isDatagram⟩
  have length := covers.carried.length_eq
  have carriesOther := covers.carried.get inside (length ▸ inside)
  rw [List.get_eq_getElem, isDatagram] at carriesOther
  have chunkMem := List.getElem_mem (length ▸ inside : index < chunks.length)
  have sameStart := carries.start_eq carriesOther of (covers.of _ chunkMem)
  have before := covers.covers.start_lt (List.mem_map_of_mem chunkMem)
  simp only [UploadChunk.slice] at before
  rw [List.get_eq_getElem] at sameStart
  exact before.ne (sameStart.symm.trans start)

theorem CoversBody.append {body datagram : ByteString} {sent : List ByteString}
    {chunks : List UploadChunk} {chunk : UploadChunk} {stop : ℕ}
    (covers : CoversBody body sent chunks stop) (carries : Carries body datagram chunk)
    (of : chunk.Of body) (start : chunk.start = stop) :
    CoversBody body (sent ++ [datagram]) (chunks ++ [chunk]) chunk.stop := by
  refine ⟨List.rel_append covers.carried (.cons carries .nil), ?_, ?_⟩
  · intro other otherMem
    rcases List.mem_append.mp otherMem with earlier | new
    · exact covers.of other earlier
    · rwa [List.mem_singleton.mp new]
  · rw [List.map_append]
    exact covers.covers.append start of.slice

namespace UploadState

/-- What holds in every run. -/
structure Sliced (arguments : PostArguments) (state : UploadState) : Prop where
  point : state.point.Sliced arguments
  sent : ∀ datagram ∈ state.sent, ∃ chunk : UploadChunk,
    Carries arguments.body datagram chunk ∧ chunk.Of arguments.body

/-- What holds in the runs that meet the condition. -/
def Covered (arguments : PostArguments) (state : UploadState) : Prop :=
  ∃ chunks stop, CoversBody arguments.body state.sent chunks stop ∧
    state.point.Reaches arguments.body state.sent stop

theorem sliced_perform (nonempty : 0 < arguments.body.length) (state : UploadState)
    (action : UploadAction) (sliced : state.Sliced arguments) :
    (perform settings arguments action state).Sliced arguments := by
  cases action with
  | receive datagram =>
      simp only [perform]
      split_ifs
      · exact ⟨sliced.point, sliced.sent⟩
      · exact sliced
  | advance now => exact ⟨sliced.point, sliced.sent⟩
  | others session => exact ⟨sliced.point, sliced.sent⟩
  | upload now delivered =>
      refine ⟨sliced_uploadStep settings nonempty _ now delivered sliced.point, ?_⟩
      simp only [perform]
      rcases uploadStep_effects settings arguments state.session now delivered state.point with
        silent | ⟨upload, call, stage, isExchange, _, sends⟩
      · rw [silent]
        exact sliced.sent
      · have isSliced := sliced.point
        rw [isExchange] at isSliced
        rcases isSliced with ⟨valid, aligned, isNext, carries⟩
        simp only [sends, List.foldl_cons, List.foldl_nil, addRequest]
        split_ifs
        · exact sliced.sent
        · intro datagram datagramMem
          rcases List.mem_append.mp datagramMem with earlier | new
          · exact sliced.sent datagram earlier
          · rw [List.mem_singleton.mp new]
            exact ⟨call.chunk, carries, isNext ▸ nextChunk_of aligned valid.body⟩

/-- The exchange of a chunk: sending it extends the sent slices, taking a response does not. -/
theorem covered_exchange {session : Session} {now : ℚ} {delivered : Bool} {upload : Upload}
    {call : ChunkExchange} {stage : ChunkStage} {sent : List ByteString}
    {chunks : List UploadChunk} {stop : ℕ} (inside : ∀ result, stage ≠ .leaving result)
    (covers : CoversBody arguments.body sent chunks stop)
    (reaches : (UploadPoint.exchange upload call stage).Reaches arguments.body sent stop)
    (sliced : (UploadPoint.exchange upload call stage).Sliced arguments)
    (condition : stage.Reads → call.datagram ∉ sent →
      (session.registry.requests call.request).err = none →
        ∀ message ∈ (session.registry.requests call.request).message, message.code >>> 5 ≠ 2) :
    let next := uploadStep settings arguments session now delivered (.exchange upload call stage)
    ∃ chunks stop, CoversBody arguments.body (next.2.2.foldl addRequest sent) chunks stop ∧
      next.2.1.Reaches arguments.body (next.2.2.foldl addRequest sent) stop := by
  rcases chunkStage_spec settings session now delivered upload.deadline call inside with
    ⟨effects, takes⟩
  rcases sliced with ⟨valid, aligned, isNext, carries⟩
  rw [uploadStep_exchange _ _ _ _ _ _ _ inside]
  rcases effects with silent | ⟨sends, stays⟩
  · refine ⟨chunks, stop, ?_, ?_⟩
    · simpa only [silent, List.foldl_nil] using covers
    · simp only [silent, List.foldl_nil]
      refine ⟨reaches.1, ?_⟩
      intro message left success
      rcases takes message left with ⟨reads, _, unfailed, holds⟩
      by_contra unsent
      exact condition reads unsent unfailed message holds success
  · simp only [sends, List.foldl_cons, List.foldl_nil, addRequest]
    by_cases again : call.datagram ∈ sent
    · refine ⟨chunks, stop, ?_, ?_⟩
      · rwa [if_pos again]
      · rw [if_pos again]
        exact ⟨reaches.1, fun message left => absurd left (stays _)⟩
    · have starts : call.chunk.start = stop := by
        rw [reaches.1, if_neg again, isNext]
        rfl
      refine ⟨chunks ++ [call.chunk], call.chunk.stop, ?_, ?_⟩
      · rw [if_neg again]
        exact covers.append carries (isNext ▸ nextChunk_of aligned valid.body) starts
      · rw [if_neg again]
        exact ⟨by simp, fun message left => absurd left (stays _)⟩

theorem covered_upload {session : Session} {now : ℚ} {delivered : Bool} {point : UploadPoint}
    {sent : List ByteString} {chunks : List UploadChunk} {stop : ℕ}
    (covers : CoversBody arguments.body sent chunks stop)
    (reaches : point.Reaches arguments.body sent stop) (sliced : point.Sliced arguments)
    (condition : ∀ entry ∈ point.exchange?, entry.2.Reads → entry.1.datagram ∉ sent →
      (session.registry.requests entry.1.request).err = none →
        ∀ message ∈ (session.registry.requests entry.1.request).message, message.code >>> 5 ≠ 2) :
    let next := uploadStep settings arguments session now delivered point
    ∃ chunks stop, CoversBody arguments.body (next.2.2.foldl addRequest sent) chunks stop ∧
      next.2.1.Reaches arguments.body (next.2.2.foldl addRequest sent) stop := by
  cases point with
  | start =>
      simp only [uploadStep]
      split
      · exact ⟨chunks, stop, covers, by simp [UploadPoint.Reaches]⟩
      · split
        · exact ⟨chunks, stop, covers, by simp [UploadPoint.Reaches]⟩
        · exact ⟨chunks, stop, covers, reaches⟩
  | allocate => exact ⟨chunks, stop, covers, reaches⟩
  | chunking upload =>
      rcases uploadStep_chunking settings arguments session now delivered upload with
        ⟨silent, ⟨failure, isFinished⟩ | isRegister⟩
      · simp only [silent, isFinished, List.foldl_nil]
        exact ⟨chunks, stop, covers, by simp [UploadPoint.Reaches]⟩
      · simp only [silent, isRegister, List.foldl_nil]
        exact ⟨chunks, stop, covers, reaches⟩
  | register upload chunk =>
      rcases sliced with ⟨valid, aligned, isNext⟩
      rcases uploadStep_register settings session now delivered valid aligned isNext with
        ⟨silent, ⟨failure, isFinished⟩ | ⟨mid, request, datagram, isExchange, carries⟩⟩
      · simp only [silent, isFinished, List.foldl_nil]
        exact ⟨chunks, stop, covers, by simp [UploadPoint.Reaches]⟩
      · have unsent : datagram ∉ sent := by
          apply covers.fresh carries (isNext ▸ nextChunk_of aligned valid.body)
          rw [isNext, reaches]
          rfl
        simp only [silent, isExchange, List.foldl_nil]
        exact ⟨chunks, stop, covers, by rwa [if_neg unsent], by simp⟩
  | exchange upload call stage =>
      by_cases leaves : ∃ result, stage = .leaving result
      · rcases leaves with ⟨error | message, rfl⟩
        · exact ⟨chunks, stop, covers, by simp [UploadPoint.Reaches, uploadStep]⟩
        · rcases reaches with ⟨isStop, sentIf⟩
          rcases sliced with ⟨valid, aligned, isNext, carries⟩
          have of := nextChunk_of aligned valid.body
          rw [← isNext] at of
          simp only [uploadStep]
          cases answer : answerChunk upload.szx upload.offset call.chunk.more message with
          | continues szx =>
              have success := (answerChunk_continues answer).2.1
              rw [if_pos (sentIf message rfl success)] at isStop
              exact ⟨chunks, stop, covers, isStop⟩
          | returns =>
              refine ⟨chunks, stop, covers, ?_⟩
              rintro _ _ ⟨⟩ success
              have isLast := answerChunk_returns answer success
              rw [if_pos (sentIf message rfl success)] at isStop
              apply le_antisymm (isStop.trans_le of.slice.stop_le)
              rw [isStop, ← not_lt, ← of.more_iff, isLast]
              simp
          | raises raised => exact ⟨chunks, stop, covers, by simp [UploadPoint.Reaches]⟩
      · exact covered_exchange (not_exists.mp leaves) covers reaches sliced
          (condition (call, stage) rfl)
  | finished result => exact ⟨chunks, stop, covers, reaches⟩

theorem covered_perform (nonempty : 0 < arguments.body.length) (state : UploadState)
    (action : UploadAction) (invariant : state.Sliced arguments ∧ state.Covered arguments)
    (condition : ReadsAfterSending state action) :
    (perform settings arguments action state).Sliced arguments ∧
      (perform settings arguments action state).Covered arguments := by
  rcases invariant with ⟨sliced, covered⟩
  refine ⟨sliced_perform nonempty state action sliced, ?_⟩
  cases action with
  | receive datagram =>
      simp only [perform]
      split_ifs
      · exact covered
      · exact covered
  | advance now => exact covered
  | others session => exact covered
  | upload now delivered =>
      rcases covered with ⟨chunks, stop, covers, reaches⟩
      exact covered_upload covers reaches sliced.point condition

end UploadState

/--
Every request of an upload carries a slice of the body with the Block1 values that belong
to it, and neither alignment check nor the raise after the loop is reached. In every run in
which the upload does not take a successful response to a chunk that it has not sent, the
distinct requests are consecutive slices from the start of the body, and a 2.xx result
means that they make up the whole body.
-/
theorem upload_sends_whole_body (settings : WriteSettings) (arguments : PostArguments)
    (session : Session) (reader : DispatchPoint) (large : 1024 < arguments.body.length)
    (actions : List UploadAction) :
    let final := Machine.run (UploadState.perform settings arguments) actions
      (.start session reader)
    (∀ datagram ∈ final.sent, ∃ chunk : UploadChunk,
      Carries arguments.body datagram chunk ∧ chunk.Of arguments.body) ∧
    (∀ raised, final.point = .finished (.error (.blockwise raised)) → raised = .refused) ∧
    (Machine.Meets (UploadState.perform settings arguments) ReadsAfterSending actions
        (.start session reader) →
      ∃ chunks stop, List.Forall₂ (Carries arguments.body) final.sent chunks ∧
        (∀ chunk ∈ chunks, chunk.Of arguments.body) ∧
        Slice.Covers arguments.body 0 (chunks.map UploadChunk.slice) stop ∧
        ∀ code payload, final.point = .finished (.ok (code, payload)) → code >>> 5 = 2 →
          chunks.flatMap UploadChunk.payload = arguments.body) := by
  intro final
  have nonempty : 0 < arguments.body.length := (Nat.zero_lt_succ _).trans large
  have initial : (UploadState.start session reader).Sliced arguments :=
    ⟨trivial, by simp [UploadState.start]⟩
  have sliced : final.Sliced arguments :=
    Machine.invariant_run_all (UploadState.sliced_perform nonempty) actions initial
  refine ⟨sliced.sent, ?_, ?_⟩
  · intro raised isFinished
    have point := sliced.point
    rw [isFinished] at point
    exact point raised rfl
  · intro meets
    have initiallyCovered : (UploadState.start session reader).Covered arguments :=
      ⟨[], 0, ⟨.nil, by simp, rfl⟩, rfl⟩
    rcases (Machine.invariant_run (UploadState.covered_perform nonempty) meets
      ⟨initial, initiallyCovered⟩).2 with ⟨chunks, stop, covers, reaches⟩
    refine ⟨chunks, stop, covers.carried, covers.of, covers.covers, ?_⟩
    intro code payload isFinished success
    rw [isFinished] at reaches
    have whole := covers.covers.content
    rw [reaches code payload rfl success, List.take_length, List.drop_zero,
      List.flatMap_map] at whole
    exact whole

/-- How much of the body a datagram carries. -/
def payloadLength (datagram : ByteString) : ℕ :=
  match parseCoap datagram with
  | .ok message => message.payload.length
  | .error _ => 0

theorem length_of_carried {body : ByteString} {sent : List ByteString} {chunks : List UploadChunk}
    (carried : List.Forall₂ (Carries body) sent chunks) :
    (chunks.flatMap UploadChunk.payload).length = (sent.map payloadLength).sum := by
  induction carried with
  | nil => rfl
  | cons carries _ ih =>
      rcases carries with ⟨message, _, parsed, _, payload, _⟩
      simp only [List.flatMap_cons, List.length_append, ih, List.map_cons, List.sum_cons,
        payloadLength, parsed, payload]

/-- A body of one block and one byte. -/
def twoChunkWrite : PostArguments := ⟨["a"], List.replicate 1025 7, 8, [], []⟩

/-- A live session with an upload about to start. -/
def beforeUpload : UploadState :=
  .start (Session.started ⟨false, false, false, false, false⟩ 0 0) .idle

def uploadSteps (count : ℕ) : List UploadAction := List.replicate count (.upload 0 true)

/-- A datagram that the reader dispatches to the upload. -/
def uploadAnswer (datagram : ByteString) : List UploadAction :=
  [.receive datagram, .advance 0, .advance 0]

/-- The first chunk is sent and acknowledged, and the second one is registered. -/
def firstChunkAnswered : List UploadAction :=
  uploadSteps 10 ++ uploadAnswer [0x54, 0x5F, 0, 9, 0, 0, 0, 1, 0xD1, 0x0E, 0x0E] ++ uploadSteps 7

/-- The final 2.04 comes after the second chunk was sent. -/
theorem upload_sends_whole_body_example :
    let actions := firstChunkAnswered ++ uploadSteps 6 ++
      uploadAnswer [0x54, 0x44, 0, 10, 0, 0, 0, 1] ++ uploadSteps 4
    let final := Machine.run (UploadState.perform ⟨1, 1 / 5⟩ twoChunkWrite) actions beforeUpload
    final.sent.length = 2 ∧ final.point = .finished (.ok (0x44, [])) ∧
      ∃ chunks, List.Forall₂ (Carries twoChunkWrite.body) final.sent chunks ∧
        chunks.flatMap UploadChunk.payload = twoChunkWrite.body := by
  intro actions final
  have finished : final.point = .finished (.ok (0x44, [])) := by decide +kernel
  rcases (upload_sends_whole_body ⟨1, 1 / 5⟩ twoChunkWrite beforeUpload.session .idle
    (by decide +kernel) actions).2.2 (by decide +kernel) with ⟨chunks, _, carried, _, _, whole⟩
  exact ⟨by decide +kernel, finished, chunks, carried, whole 0x44 [] finished rfl⟩

/-- The same 2.04 while the second chunk is still paced: success after one of two chunks. -/
theorem upload_succeeds_early :
    let actions := firstChunkAnswered ++ uploadAnswer [0x54, 0x44, 0, 10, 0, 0, 0, 1] ++
      uploadSteps 3
    let final := Machine.run (UploadState.perform ⟨1, 1 / 5⟩ twoChunkWrite) actions beforeUpload
    final.point = .finished (.ok (0x44, [])) ∧
      ¬∃ chunks, List.Forall₂ (Carries twoChunkWrite.body) final.sent chunks ∧
        chunks.flatMap UploadChunk.payload = twoChunkWrite.body := by
  intro actions final
  refine ⟨by decide +kernel, ?_⟩
  rintro ⟨chunks, carried, whole⟩
  have sent : (final.sent.map payloadLength).sum = 1024 := by decide +kernel
  have length := length_of_carried carried
  rw [whole, sent] at length
  revert length
  decide +kernel

end SmartThingsLocal
