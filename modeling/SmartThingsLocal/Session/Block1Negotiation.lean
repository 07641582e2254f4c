import SmartThingsLocal.Session.UploadSlices

/-!
# Block1 size negotiation

A server asks for a smaller block size in its answer to a chunk. RFC 7959 lets it echo
the number of the chunk; the upload takes an answer only if the block it names ends where
the chunk ends, so it takes a number that is re-based to the smaller size and no echoed one.
-/

namespace SmartThingsLocal

open Session

/-- A chunk that is not the last one is pending under the upload's token. -/
structure PendingChunk (body : ByteString) (registry : Registry) (upload : Upload)
    (call : ChunkExchange) : Prop where
  aligned : upload.Aligned body
  isNext : call.chunk = nextChunk body upload
  more : call.chunk.more = true
  pends : registry.pending.get? upload.tok = some call.request
  expects : (registry.requests call.request).expectedBlock1 =
    some ⟨call.chunk.start, call.chunk.stop, call.chunk.more⟩

/-- A 2.31 under the upload's token with one Block1 option, the more bit and a smaller SZX. -/
structure Continues (upload : Upload) (message : CoapMessage) (num szx : ℕ) : Prop where
  token : message.token = upload.tok
  code : message.code = 0x5F
  smaller : szx < upload.szx
  block : ∃ block, optionValues message.options Coap.block1 = [block] ∧ block.length ≤ 3 ∧
    blockFields block = (num, 1, szx)

/--
The response resolves the pending chunk, and the upload goes on at the end of the chunk with
the smaller block size and the block number of that offset.
-/
def Negotiates (settings : WriteSettings) (arguments : PostArguments) (registry : Registry)
    (upload : Upload) (call : ChunkExchange) (message : CoapMessage) (szx : ℕ) : Prop :=
  (registry.resolve message).1 = some call.request ∧
    ∀ session now delivered,
      let next : Upload := { upload with offset := call.chunk.stop, szx }
      (uploadStep settings arguments session now delivered
        (.exchange upload call (.leaving (.ok message)))).2.1 = .chunking next ∧
      (nextChunk arguments.body next).num * 2 ^ (szx + 4) = call.chunk.stop

variable {settings : WriteSettings} {arguments : PostArguments} {registry : Registry}
  {upload : Upload} {call : ChunkExchange} {message : CoapMessage} {num szx : ℕ}

/-- A pending chunk takes the answer whose block ends where the chunk ends. -/
theorem resolve_continues (pending : PendingChunk arguments.body registry upload call)
    (continues : Continues upload message num szx) :
    (registry.resolve message).1 = some call.request ↔
      (num + 1) * 2 ^ (szx + 4) = upload.offset + 2 ^ (upload.szx + 4) := by
  rcases continues.block with ⟨block, isBlock, short, fields⟩
  have inRange : ¬(block.length > 3 ∨ szx > Coap.blockSzx) := by
    have := continues.smaller.le.trans pending.aligned.szx_le
    omega
  have stop : call.chunk.stop = upload.offset + 2 ^ (upload.szx + 4) := by
    have more := pending.more
    rw [pending.isNext] at more ⊢
    exact nextChunk_stop more
  have success : ¬message.code >>> 5 ≠ 2 := by
    rw [continues.code]
    decide
  have matches_iff : Registry.block1ResponseMatches message
      (registry.requests call.request).expectedBlock1 = true ↔
        (num + 1) * 2 ^ (szx + 4) = upload.offset + 2 ^ (upload.szx + 4) := by
    simp only [Registry.block1ResponseMatches, pending.expects, pending.more, if_neg success,
      isBlock, fields, if_neg inRange, Nat.one_shiftLeft, stop, if_true, add_one_mul,
      decide_eq_true_eq]
  rw [Registry.resolve, continues.token, pending.pends, ← matches_iff]
  dsimp only
  split_ifs with accepted
  · simp [accepted]
  · simp [accepted]

/-- An answer with a re-based number is honoured. -/
theorem rebased_negotiates (pending : PendingChunk arguments.body registry upload call)
    (bounded : arguments.body.length ≤ maxBlock1BodyBytes)
    (continues : Continues upload message num szx)
    (rebased : (num + 1) * 2 ^ (szx + 4) = upload.offset + 2 ^ (upload.szx + 4)) :
    Negotiates settings arguments registry upload call message szx := by
  refine ⟨(resolve_continues pending continues).mpr rebased, ?_⟩
  intro session now delivered
  rcases continues.block with ⟨block, isBlock, short, fields⟩
  have aligned : upload.offset % 2 ^ (szx + 4) = 0 :=
    aligned_of_le pending.aligned.aligned continues.smaller.le
  have answer : answerChunk upload.szx upload.offset call.chunk.more message = .continues szx := by
    simp [answerChunk, pending.more, continues.code, isBlock, fields, not_lt.mpr short,
      not_lt.mpr continues.smaller.le, Nat.one_shiftLeft, aligned]
  have next : Upload.Aligned arguments.body { upload with offset := call.chunk.stop, szx } := by
    have more := pending.more
    rw [pending.isNext] at more ⊢
    exact pending.aligned.next bounded more continues.smaller.le
  refine ⟨?_, (nextChunk_of next bounded).start_eq⟩
  simp only [uploadStep, answer]

/--
An answer that echoes the number of the pending chunk with a smaller SZX never resolves it,
whatever the chunk and the two block sizes.
-/
theorem echoed_number_never_negotiates (settings : WriteSettings)
    (pending : PendingChunk arguments.body registry upload call)
    (continues : Continues upload message call.chunk.num szx) :
    ¬Negotiates settings arguments registry upload call message szx := by
  rintro ⟨resolved, _⟩
  have ends := (resolve_continues pending continues).mp resolved
  have offset : call.chunk.num * 2 ^ (upload.szx + 4) = upload.offset := by
    simp only [pending.isNext, nextChunk, Nat.one_shiftLeft]
    exact Nat.div_mul_cancel (Nat.dvd_of_mod_eq_zero pending.aligned.aligned)
  rw [← offset, ← add_one_mul] at ends
  have smaller : 2 ^ (szx + 4) < 2 ^ (upload.szx + 4) :=
    Nat.pow_lt_pow_right (by decide) (Nat.add_lt_add_right continues.smaller 4)
  exact (Nat.mul_lt_mul_of_pos_left smaller (Nat.succ_pos _)).ne ends

/-- The first chunk of an upload in a session with Message ID and token counters at 0. -/
def firstUpload : Upload := ⟨[0, 0, 0, 1], 8, 0, Coap.blockSzx, 1⟩

/-- The state in which the first of two chunks has been sent and waits for its answer. -/
def firstChunkWaits : UploadState :=
  Machine.run (UploadState.perform ⟨1, 1 / 5⟩ twoChunkWrite) (uploadSteps 10) beforeUpload

def firstExchange (datagram : ByteString) : ChunkExchange :=
  ⟨nextChunk twoChunkWrite.body firstUpload, 1, 0, datagram⟩

/-- A 2.31 for the first chunk with the more bit and blocks of 512 bytes. -/
def echoedAnswer : CoapMessage := ⟨1, 0x5F, 9, [0, 0, 0, 1], [(Coap.block1, [0x0D])], []⟩

/-- The first chunk of an upload and an answer that echoes its number 0. -/
theorem echoed_number_never_negotiates_example :
    ¬Negotiates ⟨1, 1 / 5⟩ twoChunkWrite firstChunkWaits.session.registry firstUpload
      (firstExchange []) echoedAnswer 5 := by
  have pending : PendingChunk twoChunkWrite.body firstChunkWaits.session.registry firstUpload
      (firstExchange []) :=
    ⟨⟨rfl, le_rfl, rfl, by decide +kernel⟩, rfl, by decide +kernel, by decide +kernel,
      by decide +kernel⟩
  exact echoed_number_never_negotiates _ pending
    ⟨rfl, rfl, by decide, [0x0D], by decide, by decide, by decide +kernel⟩

/-- The echoed answer is dispatched while the upload waits, and the upload times out. -/
theorem echoed_number_is_ignored :
    let datagram : ByteString := [0x54, 0x5F, 0, 9, 0, 0, 0, 1, 0xD1, 0x0E, 0x0D]
    let final := Machine.run (UploadState.perform ⟨1, 1 / 5⟩ twoChunkWrite)
      (uploadAnswer datagram ++ List.replicate 3 (.upload 9 true)) firstChunkWaits
    parseCoap datagram = .ok echoedAnswer ∧
      ¬Negotiates ⟨1, 1 / 5⟩ twoChunkWrite firstChunkWaits.session.registry firstUpload
        (firstExchange []) echoedAnswer 5 ∧
      final.point = .finished (.error (.other (.session .sessionTimeoutError))) := by
  refine ⟨by decide +kernel, ?_, by decide +kernel⟩
  rintro ⟨resolved, _⟩
  revert resolved
  decide +kernel

end SmartThingsLocal
