import SmartThingsLocal.Session.EtagAgreement

/-!
# Every round of a GET makes progress

`_block_num_matches` compares offsets that block numbers stand for, the accumulator compares
with the length of what it has assembled. After any responses they agree, so no response that
is let through is a duplicate, and a GET makes at most as many exchanges as it may take blocks.
-/

namespace SmartThingsLocal

open Session

namespace Block2Accumulator

variable {acc : Block2Accumulator} {message : CoapMessage}

/-- The response is taken and another is due, or it completes the representation, or it raises. -/
inductive Progresses (acc : Block2Accumulator) (message : CoapMessage) : Prop
  | continued (status : (acc.respond message).1 = .ok .continued)
      (unfinished : (acc.respond message).2.complete = false)
      (received : (acc.respond message).2.blocksReceived = acc.blocksReceived + 1)
  | completed (status : (acc.respond message).1 = .ok .complete)
      (finished : (acc.respond message).2.complete = true)
  | raised {error : SmartThingsLocalError} (status : (acc.respond message).1 = .error error)

theorem aligned_created {token : ByteString} {maxBlocks maxPayloadBytes : ℕ}
    {formats : Option (List ℕ)}
    (created : create token maxBlocks maxPayloadBytes formats = .ok acc) : acc.Aligned := by
  unfold create at created
  split_ifs at created
  cases created
  intro _
  simp

theorem aligned_respondAll (aligned : acc.Aligned) (messages : List CoapMessage) :
    (acc.respondAll messages).2.Aligned := by
  induction messages generalizing acc with
  | nil => exact aligned
  | cons message messages ih => exact ih (aligned_respond aligned message)

/-- A response at the offset that is asked for is no duplicate. -/
theorem progresses_of_expects (aligned : acc.Aligned) (unfinished : acc.complete = false)
    (expected : acc.Expects message) : acc.Progresses message := by
  rcases respond_cases acc message with
    ⟨error, failed⟩ | repeated | ⟨_, _, _, finished⟩ | ⟨_, more, _, _, _, extended⟩
  · exact .raised (congrArg Prod.fst failed)
  · exact absurd rfl ((expects_iff aligned unfinished repeated).mp expected)
  · exact .completed (congrArg Prod.fst finished) (by rw [finished]; rfl)
  · cases more with
    | false => exact .completed (congrArg Prod.fst extended) (by rw [extended]; rfl)
    | true =>
        refine .continued (congrArg Prod.fst extended) ?_ ?_
        · rw [extended]
          exact unfinished
        · rw [extended]
          rfl

end Block2Accumulator

/-! ### The exchanges of an attempt -/

/-- A GET, and how many exchanges its attempt has begun. -/
structure CountedGet where
  state : GetState
  exchanges : ℕ

/-- The exchanges after a step: an attempt starts without any. -/
def GetPoint.exchangesAfter (exchanges : ℕ) : (before after : GetPoint) → ℕ
  | .start _, _ => 0
  | .request _, .exchange _ _ _ => exchanges + 1
  | _, _ => exchanges

def CountedGet.perform (arguments : GetArguments) (action : GetAction) (get : CountedGet) :
    CountedGet :=
  let next := get.state.perform arguments action
  ⟨next, GetPoint.exchangesAfter get.exchanges get.state.getter next.getter⟩

/-- An attempt between two exchanges: each of them has brought a block. -/
structure BlockTransfer.Rounds (transfer : BlockTransfer) (exchanges : ℕ) : Prop where
  unfinished : transfer.accumulator.complete = false
  aligned : transfer.accumulator.Aligned
  received : transfer.accumulator.blocksReceived = exchanges
  room : exchanges < Coap.maxBlock2Blocks
  limit : transfer.accumulator.maxBlocks = Coap.maxBlock2Blocks

/-- What holds between two steps of the thread. -/
def GetPoint.Progressing (exchanges : ℕ) : GetPoint → Prop
  | .request transfer => transfer.Rounds exchanges
  | .exchange transfer _ point =>
      (∃ earlier, exchanges = earlier + 1 ∧ transfer.Rounds earlier) ∧
        ∀ message, point.response? = some message → transfer.accumulator.Expects message
  | _ => exchanges ≤ Coap.maxBlock2Blocks

def CountedGet.Progressing (get : CountedGet) : Prop := get.state.getter.Progressing get.exchanges

variable {transfer : BlockTransfer} {exchanges : ℕ}

theorem GetPoint.Progressing.le {point : GetPoint} (progressing : point.Progressing exchanges) :
    exchanges ≤ Coap.maxBlock2Blocks := by
  cases point with
  | start => exact progressing
  | request transfer => exact progressing.room.le
  | exchange transfer block point =>
      rcases progressing.1 with ⟨earlier, rfl, rounds⟩
      exact rounds.room
  | finished => exact progressing

theorem rounds_created {tok : ByteString} {accumulator : Block2Accumulator}
    (created : Block2Accumulator.create tok Coap.maxBlock2Blocks Coap.maxBlock2PayloadBytes none =
      .ok accumulator) (restarted : Bool) (deadline : ℚ) :
    BlockTransfer.Rounds ⟨restarted, tok, accumulator, none, deadline⟩ 0 := by
  have aligned := Block2Accumulator.aligned_created created
  unfold Block2Accumulator.create at created
  split_ifs at created
  cases created
  exact ⟨rfl, aligned, rfl, Coap.maxBlock2Blocks_pos, rfl⟩

/-- The response of an exchange ends the attempt, or it is one block more. -/
theorem progressing_receiveBlock (rounds : transfer.Rounds exchanges) {message : CoapMessage}
    (expected : transfer.accumulator.Expects message) :
    (receiveBlock transfer message).Progressing (exchanges + 1) := by
  have begun : exchanges + 1 ≤ Coap.maxBlock2Blocks := rounds.room
  unfold receiveBlock
  by_cases changed : etagChanged transfer message = true
  · rw [if_pos changed]
    split_ifs
    · exact begun
    · exact begun
  rw [if_neg changed]
  have aligned := Block2Accumulator.aligned_respond rounds.aligned message
  have limit := (Block2Accumulator.respond_limits transfer.accumulator message).1
  have progress : transfer.accumulator.Progresses message :=
    Block2Accumulator.progresses_of_expects rounds.aligned rounds.unfinished expected
  generalize taken : transfer.accumulator.respond message = outcome at aligned limit
  rcases outcome with ⟨result, next⟩
  cases progress with
  | continued status unfinished received =>
      have room := Block2Accumulator.blocks_lt_of_continued status
      rw [taken] at status unfinished received
      subst status
      rw [rounds.received] at received room
      refine ⟨unfinished, aligned, received, ?_, limit.trans rounds.limit⟩
      rwa [rounds.limit] at room
  | completed status finished =>
      rw [taken] at status
      subst status
      exact begun
  | raised status =>
      rw [taken] at status
      subst status
      exact begun

theorem progressing_getStep (arguments : GetArguments) (session : Session) (now : ℚ)
    (delivered : Bool) {point : GetPoint} (progressing : point.Progressing exchanges) :
    let next := (getStep arguments session now delivered point).2.1
    next.Progressing (GetPoint.exchangesAfter exchanges point next) := by
  cases point with
  | start restarted =>
      simp only [getStep]
      split
      · exact Nat.zero_le _
      · rename_i accumulator created
        exact rounds_created created restarted _
  | request transfer =>
      have begun : exchanges ≤ Coap.maxBlock2Blocks := progressing.le
      simp only [getStep]
      split
      · exact begun
      · split
        · exact begun
        · split
          · exact begun
          · exact ⟨⟨exchanges, rfl, progressing⟩, by simp [ExchangePoint.response?]⟩
  | finished result => exact progressing
  | exchange transfer block point =>
      have begun : exchanges ≤ Coap.maxBlock2Blocks := progressing.le
      rcases progressing with ⟨⟨earlier, rfl, rounds⟩, expects⟩
      by_cases leaves : ∃ result, point = .leaving result
      · rcases leaves with ⟨error | message, rfl⟩
        · exact begun
        · exact progressing_receiveBlock rounds (expects message rfl)
      · rw [getStep_exchange arguments session now delivered transfer block
          (not_exists.mp leaves)]
        exact ⟨⟨earlier, rfl, rounds⟩,
          exchangeStep_expects session now delivered transfer block expects⟩

theorem progressing_perform (arguments : GetArguments) (get : CountedGet) (action : GetAction)
    (progressing : get.Progressing) : (get.perform arguments action).Progressing := by
  have stays {point : GetPoint} (progressing : point.Progressing get.exchanges) :
      point.Progressing (GetPoint.exchangesAfter get.exchanges point point) := by
    cases point with
    | start => exact Nat.zero_le _
    | request | exchange | finished => exact progressing
  cases action with
  | receive datagram =>
      have same : (get.state.perform arguments (.receive datagram)).getter = get.state.getter := by
        simp only [GetState.perform]
        split_ifs <;> rfl
      simp only [CountedGet.Progressing, CountedGet.perform, same]
      exact stays progressing
  | advance now => exact stays progressing
  | get now delivered =>
      exact progressing_getStep arguments get.state.session now delivered progressing
  | others session => exact stays progressing

/--
After any responses, one that is at the offset asked for is taken as a block more, completes
the representation or raises. In every run an attempt of a GET makes at most as many exchanges
as the representation may have blocks, and its loop is not left before a response returns or
raises.
-/
theorem get_rounds_progress (arguments : GetArguments) :
    (∀ {token : ByteString} {maxBlocks maxPayloadBytes : ℕ} {formats : Option (List ℕ)}
      {acc : Block2Accumulator},
      Block2Accumulator.create token maxBlocks maxPayloadBytes formats = .ok acc →
      ∀ responses message, (acc.respondAll responses).2.complete = false →
        blockNumMatches message (acc.respondAll responses).2.expectedNumber
          (acc.respondAll responses).2.szx = true →
        (acc.respondAll responses).2.Progresses message) ∧
    ∀ start : GetState, start.getter = .start false → ∀ actions,
      let reached := Machine.run (CountedGet.perform arguments) actions ⟨start, 0⟩
      reached.exchanges ≤ Coap.maxBlock2Blocks ∧
        ∀ transfer, reached.state.getter = .request transfer →
          transfer.accumulator.complete = false := by
  refine ⟨?_, ?_⟩
  · intro token maxBlocks maxPayloadBytes formats acc created responses message unfinished matched
    have aligned := Block2Accumulator.aligned_respondAll
      (Block2Accumulator.aligned_created created) responses
    exact Block2Accumulator.progresses_of_expects aligned unfinished matched
  · intro start begins actions reached
    have initial : CountedGet.Progressing ⟨start, 0⟩ := by
      unfold CountedGet.Progressing
      rw [begins]
      exact Nat.zero_le _
    have progressing : reached.Progressing :=
      Machine.invariant_run_all (progressing_perform arguments) actions initial
    refine ⟨progressing.le, fun transfer requests => ?_⟩
    unfold CountedGet.Progressing at progressing
    rw [requests] at progressing
    exact progressing.unfinished

end SmartThingsLocal
