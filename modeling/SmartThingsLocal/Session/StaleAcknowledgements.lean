import SmartThingsLocal.Session.UploadSlices

/-!
# Stale acknowledgements of an upload

All chunks of an upload share a token, so the response to one chunk can come again while a
later one is pending. The block it names ends where its own chunk ends; a later chunk starts
there or after it, so its range never contains that block, whatever the block sizes are.
-/

namespace SmartThingsLocal

open Session

/-- What the container of a chunk says that its response must cover. -/
def UploadChunk.expectation (chunk : UploadChunk) : Block1Expectation :=
  ⟨chunk.start, chunk.stop, chunk.more⟩

/-- The upload exchanges a chunk, or one that starts where it stops or later, or has moved past. -/
def UploadPoint.Past (upload : Upload) (call : ChunkExchange) : UploadPoint → Prop
  | .start | .allocate => False
  | .chunking next =>
      next.tok = upload.tok ∧ upload.requestCount ≤ next.requestCount ∧
        call.chunk.stop ≤ next.offset
  | .register next chunk =>
      next.tok = upload.tok ∧ upload.requestCount < next.requestCount ∧
        call.chunk.stop ≤ chunk.start ∧ chunk.start < chunk.stop
  | .exchange next other _ =>
      next.tok = upload.tok ∧ (next.requestCount = upload.requestCount ∧ other = call ∨
        upload.requestCount < next.requestCount ∧ call.chunk.stop ≤ other.chunk.start ∧
          other.chunk.start < other.chunk.stop)
  | .finished _ => True

/-- The chunk that is exchanged, and the local variables of the upload. -/
def UploadPoint.pending? : UploadPoint → Option (Upload × ChunkExchange)
  | .exchange upload call _ => some (upload, call)
  | _ => none

/-- A chunk is pending on a token. -/
structure Awaits (registry : Registry) (tok : ByteString) (call : ChunkExchange) : Prop where
  pends : registry.pending.get? tok = some call.request
  expects : (registry.requests call.request).expectedBlock1 = some call.chunk.expectation

variable {settings : WriteSettings} {arguments : PostArguments} {upload : Upload}
  {call : ChunkExchange} {message : CoapMessage} {earlier later : UploadChunk}

/-- Inside the body a chunk is not empty. -/
theorem nextChunk_start_lt {body : ByteString} (inside : upload.offset < body.length) :
    (nextChunk body upload).start < (nextChunk body upload).stop := by
  have positive : 0 < 2 ^ (upload.szx + 4) := Nat.two_pow_pos _
  simp only [nextChunk, Nat.one_shiftLeft, List.length_take, List.length_drop]
  omega

/-- The upload never goes back to a chunk before one that it has exchanged. -/
theorem past_uploadStep (session : Session) (now : ℚ) (delivered : Bool) {point : UploadPoint}
    (past : point.Past upload call) :
    (uploadStep settings arguments session now delivered point).2.1.Past upload call := by
  cases point with
  | start => exact past.elim
  | allocate => exact past.elim
  | chunking next =>
      rcases past with ⟨tok, count, stop⟩
      by_cases inside : next.offset < arguments.body.length
      · rcases (uploadStep_chunking settings arguments session now delivered next).2 with
          ⟨failure, isFinished⟩ | registers
        · rw [isFinished]
          exact trivial
        · rw [registers]
          exact ⟨tok, Nat.lt_succ_of_le count, stop, nextChunk_start_lt inside⟩
      · simp only [uploadStep, if_neg inside]
        exact trivial
  | register next chunk =>
      rcases past with ⟨tok, count, stop, nonempty⟩
      simp only [uploadStep]
      split
      · exact trivial
      · split
        · exact trivial
        · split
          · exact ⟨tok, .inr ⟨count, stop, nonempty⟩⟩
          · exact ⟨tok, .inr ⟨count, stop, nonempty⟩⟩
  | exchange next other stage =>
      by_cases leaves : ∃ result, stage = .leaving result
      · rcases leaves with ⟨failure | message, rfl⟩
        · exact trivial
        · rcases past with ⟨tok, reached⟩
          simp only [uploadStep]
          split
          · refine ⟨tok, ?_⟩
            rcases reached with ⟨count, rfl⟩ | ⟨count, stop, nonempty⟩
            · exact ⟨count.ge, le_rfl⟩
            · exact ⟨count.le, stop.trans nonempty.le⟩
          · exact trivial
          · exact trivial
      · rw [uploadStep_exchange _ _ _ _ _ _ _ (not_exists.mp leaves)]
        exact past
  | finished result => exact trivial

def PastChunk (upload : Upload) (call : ChunkExchange) (state : UploadState) : Prop :=
  state.point.Past upload call

theorem past_perform (state : UploadState) (action : UploadAction)
    (past : PastChunk upload call state) :
    PastChunk upload call (state.perform settings arguments action) := by
  cases action with
  | receive datagram =>
      simp only [PastChunk, UploadState.perform]
      split_ifs <;> exact past
  | advance now => exact past
  | others session => exact past
  | upload now delivered => exact past_uploadStep state.session now delivered past

/-- A block that ends where an earlier chunk ends does not cover a later one. -/
theorem not_matches_later (success : message.code >>> 5 = 2) {block : ByteString}
    (single : optionValues message.options Coap.block1 = [block]) (more : earlier.more = true)
    (accepted : Registry.block1ResponseMatches message (some earlier.expectation) = true)
    (after : earlier.stop ≤ later.start) (nonempty : later.start < later.stop) :
    Registry.block1ResponseMatches message (some later.expectation) = false := by
  generalize fields : blockFields block = parts at *
  rcases parts with ⟨number, bit, szx⟩
  by_cases refused : block.length > 3 ∨ szx > Coap.blockSzx
  · simp [Registry.block1ResponseMatches, success, single, fields, refused] at accepted
  have ends : number * 2 ^ (szx + 4) + 2 ^ (szx + 4) = earlier.stop := by
    simpa [Registry.block1ResponseMatches, UploadChunk.expectation, success, single, fields,
      refused, more, Nat.one_shiftLeft] using accepted
  simp only [Registry.block1ResponseMatches, UploadChunk.expectation, success, single, fields,
    if_neg refused, Nat.one_shiftLeft, ends, not_true_eq_false, ne_eq, if_false]
  split_ifs
  · exact decide_eq_false (by omega)
  · exact decide_eq_false (by omega)

/-- A response that cannot answer the pending request is not stored, however often it comes. -/
theorem resolve_redelivered {registry : Registry} {request : RequestId}
    (pends : registry.pending.get? message.token = some request)
    (rejected : Registry.block1ResponseMatches message
      (registry.requests request).expectedBlock1 = false) (count : ℕ) :
    Machine.run (fun message registry => (registry.resolve message).2)
        (List.replicate count message) registry = registry ∧
      registry.resolve message = (none, registry) := by
  have unresolved : registry.resolve message = (none, registry) := by
    rw [Registry.resolve, pends]
    dsimp only
    rw [rejected, if_neg Bool.false_ne_true]
  refine ⟨?_, unresolved⟩
  induction count with
  | zero => rfl
  | succ count ih =>
      rw [List.replicate_succ, Machine.run, unresolved]
      exact ih

theorem UploadPoint.pending?_eq_some {point : UploadPoint} :
    point.pending? = some (upload, call) ↔ ∃ stage, point = .exchange upload call stage := by
  cases point <;> simp [UploadPoint.pending?]

/--
A 2.xx with one Block1 option that is accepted for a chunk that is not the last one does not
match any later chunk of the upload. However often it comes again on the token while a later
chunk is pending, it resolves nothing and changes nothing.
-/
theorem stale_acknowledgement_never_advances (settings : WriteSettings)
    (arguments : PostArguments) (session : Session) (reader : DispatchPoint)
    (before after : List UploadAction) {upload later : Upload} {call laterCall : ChunkExchange}
    (exchanged : (Machine.run (UploadState.perform settings arguments) before
      (.start session reader)).point.pending? = some (upload, call))
    (pending : (Machine.run (UploadState.perform settings arguments) (before ++ after)
      (.start session reader)).point.pending? = some (later, laterCall))
    (isLater : upload.requestCount < later.requestCount) (more : call.chunk.more = true)
    {message : CoapMessage} (success : message.code >>> 5 = 2) {block : ByteString}
    (single : optionValues message.options Coap.block1 = [block])
    (accepted : Registry.block1ResponseMatches message (some call.chunk.expectation) = true) :
    later.tok = upload.tok ∧
      Registry.block1ResponseMatches message (some laterCall.chunk.expectation) = false ∧
      ∀ registry, Awaits registry later.tok laterCall → message.token = upload.tok → ∀ count,
        Machine.run (fun message registry => (registry.resolve message).2)
            (List.replicate count message) registry = registry ∧
          registry.resolve message = (none, registry) := by
  rcases UploadPoint.pending?_eq_some.mp exchanged with ⟨stage, exchanged⟩
  rcases UploadPoint.pending?_eq_some.mp pending with ⟨laterStage, pending⟩
  have past : PastChunk upload call (Machine.run (UploadState.perform settings arguments)
      (before ++ after) (.start session reader)) := by
    rw [Machine.run_append]
    apply Machine.invariant_run_all past_perform after
    unfold PastChunk
    rw [exchanged]
    exact ⟨rfl, .inl ⟨rfl, rfl⟩⟩
  unfold PastChunk at past
  rw [pending] at past
  rcases past with ⟨tok, ⟨same, -⟩ | ⟨-, stop, nonempty⟩⟩
  · exact absurd same isLater.ne'
  have rejected := not_matches_later success single more accepted stop nonempty
  refine ⟨tok, rejected, fun registry awaits token count => ?_⟩
  have pends : registry.pending.get? message.token = some laterCall.request := by
    rw [token, ← tok]
    exact awaits.pends
  exact resolve_redelivered pends (by rw [awaits.expects]; exact rejected) count

/-- The 2.31 of the first of two chunks, while the second one is pending. -/
theorem stale_acknowledgement_never_advances_example :
    let answer : CoapMessage := ⟨1, 0x5F, 9, [0, 0, 0, 1], [(Coap.block1, [0x0E])], []⟩
    let actions := uploadSteps 10 ++
      (uploadAnswer [0x54, 0x5F, 0, 9, 0, 0, 0, 1, 0xD1, 0x0E, 0x0E] ++ uploadSteps 7)
    let final := Machine.run (UploadState.perform ⟨1, 1 / 5⟩ twoChunkWrite) actions beforeUpload
    ∃ later call, final.point.pending? = some (later, call) ∧
      call.chunk.expectation = ⟨1024, 1025, false⟩ ∧
      Registry.block1ResponseMatches answer (some call.chunk.expectation) = false := by
  intro answer actions final
  have first : (((Machine.run (UploadState.perform ⟨1, 1 / 5⟩ twoChunkWrite) (uploadSteps 10)
      beforeUpload).point.pending?.map fun pending =>
        (pending.1.requestCount, pending.2.chunk.expectation)) =
      some (1, ⟨0, 1024, true⟩)) := by decide +kernel
  have second : (final.point.pending?.map fun pending =>
      (pending.1.requestCount, pending.2.chunk.expectation)) = some (2, ⟨1024, 1025, false⟩) := by
    decide +kernel
  rcases Option.map_eq_some_iff.mp first with ⟨⟨upload, call⟩, exchanged, facts⟩
  rcases Option.map_eq_some_iff.mp second with ⟨⟨later, laterCall⟩, pending, laterFacts⟩
  rw [Prod.mk.injEq] at facts laterFacts
  rcases facts with ⟨count, expectation⟩
  refine ⟨later, laterCall, pending, laterFacts.2, ?_⟩
  have isLater : upload.requestCount < later.requestCount := by
    rw [count, laterFacts.1]
    exact Nat.one_lt_two
  have more : call.chunk.more = true := congrArg Block1Expectation.more expectation
  have accepted : Registry.block1ResponseMatches answer (some call.chunk.expectation) = true := by
    rw [expectation]
    decide +kernel
  have success : answer.code >>> 5 = 2 := by decide
  have single : optionValues answer.options Coap.block1 = [[0x0E]] := by decide
  exact (stale_acknowledgement_never_advances _ _ _ _ _ _ exchanged pending isLater more success
    single accepted).2.1

end SmartThingsLocal
