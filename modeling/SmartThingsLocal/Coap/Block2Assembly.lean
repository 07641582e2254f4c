import SmartThingsLocal.Coap.Block2
import SmartThingsLocal.Foundation.Fallible

/-!
# Block2 assembly is exact

A response either leaves the accumulator as it was, or replaces its contents by
a diagnostic, or appends a block at the offset reached so far. When every
response carries a true slice of one representation, what has been assembled is
a prefix of that representation, aligned to the blocks asked for next.
-/

namespace SmartThingsLocal

namespace Block2Accumulator

open Stateful Fallible

variable {acc : Block2Accumulator} {message : CoapMessage}

/-! ### What a response can do -/

theorem blockOption_eq_some {options : List CoapOption} {number szx : ℕ} {more : Bool}
    (read : acc.blockOption options = .ok (number, more, some szx)) :
    ∃ encoded bit, optionValues options Coap.block2 = [encoded] ∧
      blockFields encoded = (number, bit, szx) ∧ more = (bit != 0) := by
  unfold blockOption at read
  split at read
  · split at read <;> cases read
  · rename_i encoded single
    split at read
    · cases read
    · split at read
      rename_i number bit szx fields
      split at read
      · cases read
      · cases read
        exact ⟨encoded, bit, single, fields, rfl⟩
  · cases read

theorem blockOption_eq_none {options : List CoapOption} {number : ℕ} {more : Bool}
    (read : acc.blockOption options = .ok (number, more, none)) :
    optionValues options Coap.block2 = [] ∧ acc.expectedNumber = 0 ∧ more = false := by
  unfold blockOption at read
  split at read
  · rename_i absent
    split at read
    · cases read
    · cases read
      exact ⟨absent, by omega, rfl⟩
  · split at read
    · cases read
    · split at read
      split at read <;> cases read
  · cases read

theorem blockOffset_eq_some {number szx nextOffset : ℕ} {more : Bool} {payload : ByteString}
    (placed : acc.blockOffset number more szx payload = .ok (some nextOffset)) :
    number * 2 ^ (szx + 4) = acc.payload.length ∧
      nextOffset = acc.payload.length + payload.length ∧
      (more = true → nextOffset % 2 ^ (szx + 4) = 0) := by
  simp only [blockOffset, Nat.one_shiftLeft] at placed
  by_cases earlier : number * 2 ^ (szx + 4) < acc.payload.length
  · rw [if_pos earlier] at placed
    cases placed
  · rw [if_neg earlier] at placed
    rcases ite_error_eq_ok.mp placed with ⟨offset, placed⟩
    rcases ite_error_eq_ok.mp placed with ⟨_, placed⟩
    rcases ite_error_eq_ok.mp placed with ⟨_, placed⟩
    rcases ite_error_eq_ok.mp placed with ⟨misaligned, placed⟩
    cases placed
    refine ⟨not_not.mp offset, rfl, fun more => ?_⟩
    by_contra unaligned
    exact misaligned ⟨more, .inr (.inl unaligned)⟩

/-- Where a 2.xx response puts its payload: the whole body, or a block at the offset reached. -/
inductive Placed (acc : Block2Accumulator) (message : CoapMessage) : Bool → Option ℕ → ℕ → Prop
  | whole (absent : optionValues message.options Coap.block2 = [])
      (first : acc.expectedNumber = 0) :
      Placed acc message false none message.payload.length
  | block {encoded : ByteString} {number bit szx : ℕ}
      (single : optionValues message.options Coap.block2 = [encoded])
      (fields : blockFields encoded = (number, bit, szx))
      (offset : number * 2 ^ (szx + 4) = acc.payload.length)
      (aligned : bit ≠ 0 →
        (acc.payload.length + message.payload.length) % 2 ^ (szx + 4) = 0) :
      Placed acc message (bit != 0) (some szx) (acc.payload.length + message.payload.length)

theorem Placed.of_more {more : Bool} {responseSzx : Option ℕ} {nextOffset : ℕ}
    (placed : Placed acc message more responseSzx nextOffset) (unfinished : more = true) :
    ∃ szx, responseSzx = some szx ∧
      nextOffset = acc.payload.length + message.payload.length ∧
      2 ^ (szx + 4) ∣ nextOffset := by
  cases placed with
  | whole => cases unfinished
  | @block _ _ bit szx _ _ _ aligned =>
      exact ⟨szx, rfl, rfl, Nat.dvd_of_mod_eq_zero (aligned (by simpa using unfinished))⟩

/-- The checks a 2.xx response has passed when its block is taken in. -/
structure Accepted (acc : Block2Accumulator) (message : CoapMessage) (metadata : Metadata)
    (more : Bool) (responseSzx : Option ℕ) (nextOffset : ℕ) : Prop where
  unfinished : acc.complete = false
  success : message.code >>> 5 = 2
  placed : Placed acc message more responseSzx nextOffset
  metadata_eq : nextMetadata acc message = .ok metadata
  payload_le : acc.payload.length + message.payload.length ≤ acc.maxPayloadBytes
  blocks_lt : acc.blocksReceived < acc.maxBlocks

theorem extend_cases (message : CoapMessage) (more : Bool) (responseSzx : Option ℕ)
    (nextOffset : ℕ) (acc : Block2Accumulator) :
    (∃ error, exec (extend message more responseSzx nextOffset) acc = (.error error, acc)) ∨
      ∃ metadata, nextMetadata acc message = .ok metadata ∧
        acc.payload.length + message.payload.length ≤ acc.maxPayloadBytes ∧
        acc.blocksReceived < acc.maxBlocks ∧
        exec (extend message more responseSzx nextOffset) acc =
          (.ok (if more then .continued else .complete),
            acc.afterBlock message metadata more responseSzx nextOffset) := by
  simp only [extend, exec_get_bind, exec_readOnly_bind, exec_refuseIf_bind, exec_set_bind,
    exec_pure]
  cases nextMetadata acc message with
  | error error => exact .inl ⟨error, rfl⟩
  | ok metadata =>
      by_cases tooLong : acc.payload.length + message.payload.length > acc.maxPayloadBytes
      · exact .inl ⟨_, if_pos tooLong⟩
      · by_cases tooMany : acc.blocksReceived ≥ acc.maxBlocks
        · exact .inl ⟨_, (if_neg tooLong).trans (if_pos tooMany)⟩
        · by_cases lastBlock : more = true ∧ acc.blocksReceived + 1 ≥ acc.maxBlocks
          · exact .inl ⟨_, ((if_neg tooLong).trans (if_neg tooMany)).trans (if_pos lastBlock)⟩
          · exact .inr ⟨metadata, rfl, not_lt.mp tooLong, not_le.mp tooMany,
              ((if_neg tooLong).trans (if_neg tooMany)).trans (if_neg lastBlock)⟩

/-- Everything one response can do to an accumulator. -/
theorem respond_cases (acc : Block2Accumulator) (message : CoapMessage) :
    (∃ error, acc.respond message = (.error error, acc)) ∨
    acc.respond message = (.ok .duplicate, acc) ∨
    (message.code >>> 5 ≠ 2 ∧ acc.complete = false ∧
      message.payload.length ≤ acc.maxPayloadBytes ∧
      acc.respond message = (.ok .complete, acc.afterDiagnostic message)) ∨
    ∃ metadata more responseSzx nextOffset,
      Accepted acc message metadata more responseSzx nextOffset ∧
      acc.respond message = (.ok (if more then .continued else .complete),
        acc.afterBlock message metadata more responseSzx nextOffset) := by
  simp only [respond, addResponse, exec_get_bind, exec_refuseIf_bind]
  by_cases done : acc.complete = true
  · exact .inl ⟨_, if_pos done⟩
  rw [if_neg done]
  by_cases otherToken : message.token ≠ acc.token
  · exact .inl ⟨_, if_pos otherToken⟩
  rw [if_neg otherToken]
  by_cases badType : message.mtype ∉ [Coap.typeCon, Coap.typeNon, Coap.typeAck]
  · exact .inl ⟨_, if_pos badType⟩
  rw [if_neg badType]
  by_cases empty : message.code = 0
  · exact .inl ⟨_, if_pos empty⟩
  rw [if_neg empty]
  have unfinished : acc.complete = false := by simpa using done
  by_cases failure : message.code >>> 5 ≠ 2
  · rw [if_pos failure]
    simp only [exec_refuseIf_bind, exec_set_bind, exec_pure]
    by_cases tooLong : message.payload.length > acc.maxPayloadBytes
    · exact .inl ⟨_, if_pos tooLong⟩
    · exact .inr (.inr (.inl ⟨failure, unfinished, not_lt.mp tooLong, if_neg tooLong⟩))
  · rw [if_neg failure]
    have success := not_not.mp failure
    simp only [exec_readOnly_bind]
    cases read : acc.blockOption message.options with
    | error error => exact .inl ⟨error, rfl⟩
    | ok block =>
        rcases block with ⟨number, more, _ | szx⟩
        · rcases blockOption_eq_none read with ⟨absent, first, rfl⟩
          rcases extend_cases message false none message.payload.length acc with
            failed | ⟨metadata, metadata_eq, payload_le, blocks_lt, extended⟩
          · exact .inl failed
          · exact .inr (.inr (.inr ⟨metadata, false, none, _, ⟨unfinished, success,
              .whole absent first, metadata_eq, payload_le, blocks_lt⟩, extended⟩))
        · rcases blockOption_eq_some read with ⟨encoded, bit, single, fields, rfl⟩
          simp only [exec_readOnly_bind]
          cases placed : acc.blockOffset number (bit != 0) szx message.payload with
          | error error => exact .inl ⟨error, rfl⟩
          | ok place =>
              cases place with
              | none => exact .inr (.inl rfl)
              | some nextOffset =>
                  rcases blockOffset_eq_some placed with ⟨offset, rfl, aligned⟩
                  rcases extend_cases message (bit != 0) (some szx)
                      (acc.payload.length + message.payload.length) acc with
                    failed | ⟨metadata, metadata_eq, payload_le, blocks_lt, extended⟩
                  · exact .inl failed
                  · exact .inr (.inr (.inr ⟨metadata, _, _, _, ⟨unfinished, success,
                      .block single fields offset (fun more => aligned (by simpa using more)),
                      metadata_eq, payload_le, blocks_lt⟩, extended⟩))

/-- A response that is taken in ends the transfer as a diagnostic, or is accepted as a block. -/
theorem taken_cases {next : Block2Accumulator} {status : Block2Status}
    (taken : acc.respond message = (.ok status, next)) (fresh : status ≠ .duplicate) :
    (message.code >>> 5 ≠ 2 ∧ status = .complete ∧ next = acc.afterDiagnostic message) ∨
    ∃ metadata more responseSzx nextOffset,
      Accepted acc message metadata more responseSzx nextOffset ∧
      status = (if more then .continued else .complete) ∧
      next = acc.afterBlock message metadata more responseSzx nextOffset := by
  rcases respond_cases acc message with
    ⟨error, failed⟩ | repeated | ⟨failure, _, _, finished⟩ | ⟨_, more, _, _, accepted, extended⟩
  · rw [failed] at taken
    cases taken
  · rw [repeated] at taken
    cases taken
    exact absurd rfl fresh
  · rw [finished] at taken
    cases taken
    exact .inl ⟨failure, rfl, rfl⟩
  · rw [extended] at taken
    cases taken
    exact .inr ⟨_, more, _, _, accepted, rfl, rfl⟩

/-- A response that raises or is reported as a duplicate leaves every field as it was. -/
theorem respond_unchanged
    (noProgress : (∃ error, (acc.respond message).1 = .error error) ∨
      (acc.respond message).1 = .ok .duplicate) :
    (acc.respond message).2 = acc := by
  rcases respond_cases acc message with
    ⟨error, failed⟩ | repeated | ⟨_, _, _, finished⟩ | ⟨_, more, _, _, _, extended⟩
  · rw [failed]
  · rw [repeated]
  · rw [finished] at noProgress
    simp at noProgress
  · rw [extended] at noProgress
    cases more <;> simp at noProgress

theorem blocks_lt_of_extend_continued {more : Bool} {responseSzx : Option ℕ} {nextOffset : ℕ}
    (continued : (exec (extend message more responseSzx nextOffset) acc).1 = .ok .continued) :
    acc.blocksReceived + 1 < acc.maxBlocks := by
  simp only [extend, exec_get_bind, exec_readOnly_bind, exec_refuseIf_bind, exec_set_bind,
    exec_pure] at continued
  cases metadataEq : nextMetadata acc message with
  | error error =>
      rw [metadataEq] at continued
      cases continued
  | ok metadata =>
      rw [metadataEq] at continued
      dsimp only at continued
      split_ifs at continued with tooLong tooMany lastBlock unfinished
      · rw [not_and, not_le] at lastBlock
        exact lastBlock unfinished
      · cases continued

/-- A block after which another is due is not the last that may be taken. -/
theorem blocks_lt_of_continued (continued : (acc.respond message).1 = .ok .continued) :
    acc.blocksReceived + 1 < acc.maxBlocks := by
  simp only [respond, addResponse, exec_get_bind, exec_refuseIf_bind, apply_ite exec] at continued
  split_ifs at continued with _ _ _ _ failure
  · simp only [exec_refuseIf_bind, exec_set_bind, exec_pure] at continued
    split_ifs at continued
    cases continued
  · simp only [exec_readOnly_bind] at continued
    cases read : acc.blockOption message.options with
    | error error =>
        rw [read] at continued
        cases continued
    | ok block =>
        rcases block with ⟨number, more, _ | szx⟩
        · rw [read] at continued
          exact blocks_lt_of_extend_continued continued
        · rw [read] at continued
          simp only [exec_readOnly_bind] at continued
          cases placed : acc.blockOffset number more szx message.payload with
          | error error =>
              rw [placed] at continued
              cases continued
          | ok place =>
              rw [placed] at continued
              rcases place with _ | nextOffset
              · cases continued
              · exact blocks_lt_of_extend_continued continued

/--
A response that is taken and is no duplicate completes the representation, or leaves room for
another block.
-/
theorem respond_progress {status : Block2Status} (taken : (acc.respond message).1 = .ok status)
    (fresh : status ≠ .duplicate) :
    (acc.respond message).2.maxBlocks = acc.maxBlocks ∧
      ((acc.respond message).2.complete = true ∨
        (acc.respond message).2.blocksReceived = acc.blocksReceived + 1 ∧
          (acc.respond message).2.blocksReceived < acc.maxBlocks) := by
  rcases respond_cases acc message with
    ⟨error, failed⟩ | repeated | ⟨_, _, _, finished⟩ | ⟨metadata, more, responseSzx, _, _, extended⟩
  · rw [failed] at taken
    cases taken
  · rw [repeated] at taken
    exact absurd (Except.ok.inj taken).symm fresh
  · rw [finished]
    exact ⟨rfl, .inl rfl⟩
  · cases more with
    | false =>
        rw [extended]
        exact ⟨rfl, .inl rfl⟩
    | true =>
        have room := blocks_lt_of_continued (congrArg Prod.fst extended)
        rw [extended]
        exact ⟨rfl, .inr ⟨rfl, room⟩⟩

theorem respondAll_append (acc : Block2Accumulator) (messages : List CoapMessage)
    (message : CoapMessage) :
    acc.respondAll (messages ++ [message]) =
      ((acc.respondAll messages).1 ++ [((acc.respondAll messages).2.respond message).1],
        ((acc.respondAll messages).2.respond message).2) := by
  induction messages generalizing acc with
  | nil => rfl
  | cons first messages ih => simp only [List.cons_append, respondAll, ih]

/-! ### Honest responses -/

/--
A success response that carries all of a representation without a Block2 option, or
a slice of it at the offset its Block2 option names, marked with more to come exactly
when there is more.
-/
inductive HonestResponse (representation : ByteString) (message : CoapMessage) : Prop
  | whole (success : message.code >>> 5 = 2)
      (absent : optionValues message.options Coap.block2 = [])
      (carried : message.payload = representation)
  | slice {encoded : ByteString} {number bit szx : ℕ} (success : message.code >>> 5 = 2)
      (single : optionValues message.options Coap.block2 = [encoded])
      (fields : blockFields encoded = (number, bit, szx))
      (carried : message.payload <+: representation.drop (number <<< (szx + 4)))
      (more : bit ≠ 0 ↔
        number <<< (szx + 4) + message.payload.length < representation.length)

/-- What an accumulator fed with honest responses has assembled. -/
structure Assembled (representation : ByteString) (acc : Block2Accumulator) : Prop where
  isPrefix : acc.payload <+: representation
  whole : acc.complete = true → acc.payload = representation
  aligned : acc.complete = false → acc.payload.length = acc.expectedNumber * 2 ^ (acc.szx + 4)
  payload_le : acc.payload.length ≤ acc.maxPayloadBytes
  blocks_le : acc.blocksReceived ≤ acc.maxBlocks

variable {representation : ByteString}

theorem HonestResponse.success (honest : HonestResponse representation message) :
    message.code >>> 5 = 2 := by
  cases honest <;> assumption

/-- The payload of an honest response continues what has been assembled. -/
theorem HonestResponse.append {more : Bool} {responseSzx : Option ℕ} {nextOffset : ℕ}
    (honest : HonestResponse representation message) (assembled : Assembled representation acc)
    (unfinished : acc.complete = false) (placed : Placed acc message more responseSzx nextOffset) :
    acc.payload ++ message.payload <+: representation ∧
      (more = false → acc.payload ++ message.payload = representation) := by
  have aligned := assembled.aligned unfinished
  rcases assembled.isPrefix with ⟨rest, rfl⟩
  cases placed with
  | whole absent first =>
      rw [first, Nat.zero_mul, List.length_eq_zero_iff] at aligned
      cases honest with
      | whole _ _ carried => simp_all
      | slice _ single _ _ _ =>
          rw [absent] at single
          cases single
  | block single fields offset _ =>
      cases honest with
      | whole _ absent _ =>
          rw [absent] at single
          cases single
      | slice _ honestSingle honestFields carried moreIff =>
          rw [single] at honestSingle
          cases honestSingle
          rw [fields] at honestFields
          cases honestFields
          rw [Nat.shiftLeft_eq, offset, List.drop_left] at carried
          rw [Nat.shiftLeft_eq, offset, List.length_append] at moreIff
          refine ⟨(List.prefix_append_right_inj _).mpr carried, fun last => ?_⟩
          have reached : ¬acc.payload.length + message.payload.length <
              acc.payload.length + rest.length := by
            rw [← moreIff]
            simpa using last
          rw [carried.eq_of_length_le (by omega)]

theorem assembled_respond (assembled : Assembled representation acc)
    (honest : HonestResponse representation message) :
    Assembled representation (acc.respond message).2 := by
  rcases respond_cases acc message with
    ⟨error, failed⟩ | repeated | ⟨failure, _⟩ | ⟨metadata, more, responseSzx, _, accepted, extended⟩
  · rw [failed]
    exact assembled
  · rw [repeated]
    exact assembled
  · exact absurd honest.success failure
  · rw [extended]
    rcases honest.append assembled accepted.unfinished accepted.placed with ⟨isPrefix, last⟩
    have payload_le := accepted.payload_le
    have blocks_lt := accepted.blocks_lt
    rw [← List.length_append] at payload_le
    cases more with
    | false =>
        exact {
          isPrefix := isPrefix
          whole := fun _ => last rfl
          aligned := fun unfinished => by cases unfinished
          payload_le := payload_le
          blocks_le := blocks_lt }
    | true =>
        rcases accepted.placed.of_more rfl with ⟨szx, rfl, rfl, aligned⟩
        exact {
          isPrefix := isPrefix
          whole := fun complete => absurd complete (by simp [afterBlock, accepted.unfinished])
          aligned := fun _ => by
            simp only [afterBlock, if_true, Block2Accumulator.szx, Option.getD_some,
              Nat.one_shiftLeft, List.length_append]
            exact (Nat.div_mul_cancel aligned).symm
          payload_le := payload_le
          blocks_le := blocks_lt }

theorem create_assembled {token : ByteString} {maxBlocks maxPayloadBytes : ℕ}
    {formats : Option (List ℕ)}
    (created : create token maxBlocks maxPayloadBytes formats = .ok acc)
    (representation : ByteString) :
    Assembled representation acc ∧ acc.maxBlocks = maxBlocks ∧
      acc.maxPayloadBytes = maxPayloadBytes := by
  unfold create at created
  split_ifs at created
  cases created
  exact ⟨⟨List.nil_prefix, by simp, by simp, Nat.zero_le _, Nat.zero_le _⟩, rfl, rfl⟩

/-- A response never changes the limits. -/
theorem respond_limits (acc : Block2Accumulator) (message : CoapMessage) :
    (acc.respond message).2.maxBlocks = acc.maxBlocks ∧
      (acc.respond message).2.maxPayloadBytes = acc.maxPayloadBytes := by
  rcases respond_cases acc message with
    ⟨error, failed⟩ | repeated | ⟨_, _, _, finished⟩ | ⟨_, more, _, _, _, extended⟩
  · simp [failed]
  · simp [repeated]
  · simp [finished, afterDiagnostic]
  · cases more <;> simp [extended, afterBlock]

theorem respondAll_assembled (assembled : Assembled representation acc)
    {messages : List CoapMessage}
    (honest : ∀ message ∈ messages, HonestResponse representation message) :
    Assembled representation (acc.respondAll messages).2 ∧
      (acc.respondAll messages).2.maxBlocks = acc.maxBlocks ∧
      (acc.respondAll messages).2.maxPayloadBytes = acc.maxPayloadBytes := by
  induction messages generalizing acc with
  | nil => exact ⟨assembled, rfl, rfl⟩
  | cons message messages ih =>
      rcases List.forall_mem_cons.mp honest with ⟨firstHonest, restHonest⟩
      have limits := respond_limits acc message
      have next := ih (assembled_respond assembled firstHonest) restHonest
      rw [limits.1, limits.2] at next
      exact next

/--
Fed with honest responses in any order, a fresh accumulator holds a prefix of the
representation, all of it once complete, aligned to the block it asks for next, within
its limits; and no call that raises or reports a duplicate changes a field.
-/
theorem block2_assembly_exact {token : ByteString} {maxBlocks maxPayloadBytes : ℕ}
    {formats : Option (List ℕ)}
    (created : create token maxBlocks maxPayloadBytes formats = .ok acc)
    {messages : List CoapMessage}
    (honest : ∀ message ∈ messages, HonestResponse representation message) :
    (acc.respondAll messages).2.payload <+: representation ∧
    ((acc.respondAll messages).2.complete = true →
      (acc.respondAll messages).2.payload = representation) ∧
    ((acc.respondAll messages).2.complete = false →
      (acc.respondAll messages).2.payload.length =
        (acc.respondAll messages).2.expectedNumber *
          2 ^ ((acc.respondAll messages).2.szx + 4)) ∧
    (acc.respondAll messages).2.payload.length ≤ maxPayloadBytes ∧
    (acc.respondAll messages).2.blocksReceived ≤ maxBlocks ∧
    ∀ message,
      (∃ error, ((acc.respondAll messages).2.respond message).1 = .error error) ∨
        ((acc.respondAll messages).2.respond message).1 = .ok .duplicate →
      ((acc.respondAll messages).2.respond message).2 = (acc.respondAll messages).2 := by
  rcases create_assembled created representation with ⟨fresh, rfl, rfl⟩
  rcases respondAll_assembled fresh honest with ⟨assembled, sameBlocks, sameBytes⟩
  refine ⟨assembled.isPrefix, assembled.whole, assembled.aligned, ?_, ?_, ?_⟩
  · rw [← sameBytes]
    exact assembled.payload_le
  · rw [← sameBlocks]
    exact assembled.blocks_le
  · intro message noProgress
    exact respond_unchanged noProgress

/-- Seventeen bytes in blocks of sixteen, with the first block repeated. -/
theorem block2_assembly_exact_example :
    ∃ acc, create [0x01] 64 65536 none = .ok acc ∧
      (acc.respondAll [
        ⟨2, 0x45, 1, [0x01], [(Coap.block2, [0x08])], List.replicate 16 7⟩,
        ⟨2, 0x45, 2, [0x01], [(Coap.block2, [0x08])], List.replicate 16 7⟩,
        ⟨2, 0x45, 3, [0x01], [(Coap.block2, [0x10])], [7]⟩]).2.payload =
        List.replicate 17 7 := by
  refine ⟨_, rfl, ?_⟩
  have created := (rfl : create [0x01] 64 65536 none = .ok _)
  refine (block2_assembly_exact created ?_).2.1 (by decide +kernel)
  intro message messageMem
  simp only [List.mem_cons, List.not_mem_nil, or_false] at messageMem
  rcases messageMem with rfl | rfl | rfl <;>
    exact .slice (by decide) rfl rfl (by decide) (by decide)

end Block2Accumulator

end SmartThingsLocal
