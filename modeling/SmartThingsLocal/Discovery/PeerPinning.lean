import SmartThingsLocal.Discovery.ResourceFetch

/-!
# One peer for a transfer

Whatever arrives, the responses that a transfer assembles come from the peer of the first one, and
its attempts are bounded by the blocks that there is room for.
-/

namespace SmartThingsLocal

namespace Discovery

variable {ρ : Type} {inetPton : InetPton} {routes : Routes ρ inetPton} {token : ByteString}

/-! ### The responses taken -/

/-- A response from a peer: of this token, on its route, from its address. -/
structure FromPeer (routes : Routes ρ inetPton) (token : ByteString) (pin : Pin ρ)
    (response : Added ρ) : Prop where
  tokenEq : response.message.token = token
  keyed : hostKey inetPton (routes.family response.route) response.source =
    some (routes.hostKey response.route)
  routeEq : response.route = pin.route
  isPeer : peerKey inetPton (routes.family response.route) response.source = some pin.peer

/-- The responses taken make up the accumulator, and all come from the pinned peer. -/
structure Pinned (routes : Routes ρ inetPton) (token : ByteString) (fresh : Block2Accumulator)
    (transfer : Transfer ρ) : Prop where
  assembled : (fresh.respondAll (transfer.added.map (·.message))).2 = transfer.accumulator
  taken : ∀ outcome ∈ (fresh.respondAll (transfer.added.map (·.message))).1,
    ∃ status, outcome = .ok status
  fromPeer : ∀ response ∈ transfer.added, ∃ pin ∈ transfer.pinned,
    FromPeer routes token pin response

theorem Pinned.received {fresh : Block2Accumulator} {transfer : Transfer ρ} {arrival : Arrival ρ}
    {result : Transfer ρ × Bool} (pinned : Pinned routes token fresh transfer)
    (received : Received routes token transfer arrival result) :
    Pinned routes token fresh result.1 := by
  cases received with
  | ignored => exact ⟨pinned.assembled, pinned.taken, pinned.fromPeer⟩
  | @taken source peer message blockStatus keyed isPeer fits tokenEq responded =>
      refine ⟨?_, ?_, ?_⟩
      · simp only [List.map_append, List.map_singleton, Block2Accumulator.respondAll_append,
          pinned.assembled]
      · simp only [List.map_append, List.map_singleton, Block2Accumulator.respondAll_append,
          pinned.assembled]
        intro outcome isOutcome
        rcases List.mem_append.mp isOutcome with earlier | isLast
        · exact pinned.taken outcome earlier
        · exact ⟨blockStatus, (List.mem_singleton.mp isLast).trans responded⟩
      · intro response isAdded
        rcases List.mem_append.mp isAdded with earlier | isLast
        · rcases pinned.fromPeer response earlier with ⟨pin, isPin, fromPeer⟩
          exact ⟨pin, by rw [Option.mem_def.mp isPin]; rfl, fromPeer⟩
        · cases List.mem_singleton.mp isLast
          cases isPin : transfer.pinned with
          | none => exact ⟨_, rfl, tokenEq, keyed, rfl, isPeer⟩
          | some pin =>
              rcases fits pin isPin with ⟨routeEq, rfl⟩
              exact ⟨pin, rfl, tokenEq, keyed, routeEq, isPeer⟩

/-! ### Whole transfers -/

variable [DecidableEq ρ] {path query : List String} {retries : ℕ} {world : ℕ → ℕ → Attempt ρ}

variable (path query) in
theorem pinned_attemptBlock {fresh : Block2Accumulator} {transfer : Transfer ρ}
    (pinned : Pinned routes token fresh transfer) (sentForBlock : Bool)
    (attempts : List (Attempt ρ)) :
    Pinned routes token fresh
      (attemptBlock routes token path query transfer sentForBlock attempts).1 := by
  apply attemptBlock_induction (P := fun after _ => Pinned routes token fresh after)
  · intro before arrival result received pinned
    exact pinned.received received
  · intro before usedMids attempts pinned
    exact ⟨pinned.assembled, pinned.taken, pinned.fromPeer⟩
  · exact pinned

theorem pinned_fetchBlocks {fresh : Block2Accumulator} {transfer : Transfer ρ}
    (pinned : Pinned routes token fresh transfer) :
    Pinned routes token fresh
      (fetchBlocks routes token path query retries world transfer).1 := by
  have kept {before after : Transfer ρ} {attempts : List (Attempt ρ)}
      {outcome : Except Halt (Bool × Bool)}
      (asked : attemptBlock routes token path query before false attempts = (after, outcome))
      (pinned : Pinned routes token fresh before) : Pinned routes token fresh after := by
    have next := pinned_attemptBlock path query pinned false attempts
    rwa [asked] at next
  fun_induction fetchBlocks routes token path query retries world transfer with
  | case1 => exact pinned
  | case2 _ _ _ _ asked => exact kept asked pinned
  | case3 _ _ _ _ _ asked => exact kept asked pinned
  | case4 _ _ _ _ _ asked ih => exact ih (kept asked pinned)
  | case5 _ _ _ _ _ asked => exact kept asked pinned

/-! ### The number of attempts -/

variable (routes token) in
theorem attempts_receiveRounds (mid : ℕ) (transfer : Transfer ρ)
    (rounds : List (List (Arrival ρ))) :
    (receiveRounds routes token mid transfer rounds).1.attempts = transfer.attempts := by
  refine receiveRounds_induction (P := fun after _ => after.attempts = transfer.attempts) mid
    (fun before arrival result received same => ?_) rounds rfl
  cases received with
  | ignored => exact same
  | taken => exact same

variable (routes token path query) in
/-- Each attempt counts at most once. -/
theorem attempts_attemptBlock (transfer : Transfer ρ) (sentForBlock : Bool)
    (attempts : List (Attempt ρ)) :
    (attemptBlock routes token path query transfer sentForBlock attempts).1.attempts ≤
      transfer.attempts + attempts.length := by
  induction attempts generalizing transfer sentForBlock with
  | nil => exact le_rfl
  | cons attempt attempts ih =>
      rw [attemptBlock, List.length_cons]
      split_ifs
      · exact Nat.le_add_right _ _
      · generalize freshMid transfer.usedMids attempt.random = fresh
        rcases fresh with _ | mid
        · exact Nat.le_add_right _ _
        dsimp only
        generalize blockRequest token path query _ mid = built
        rcases built with error | request
        · exact Nat.le_add_right _ _
        dsimp only
        split_ifs
        · have same := attempts_receiveRounds routes token mid
            { transfer with
              usedMids := mid :: transfer.usedMids
              attempts := transfer.attempts + 1 } attempt.rounds
          generalize receiveRounds routes token mid _ attempt.rounds = received at same ⊢
          rcases received with ⟨after, _ | _⟩
          · have counted := ih after true
            dsimp only at same counted ⊢
            omega
          · dsimp only at same ⊢
            omega
        · have counted := ih { transfer with
            usedMids := mid :: transfer.usedMids
            attempts := transfer.attempts + 1 } sentForBlock
          dsimp only at counted
          omega

/-- There are at most as many rounds of attempts as there is room for blocks. -/
theorem attempts_fetchBlocks {transfer : Transfer ρ}
    (room : transfer.accumulator.blocksReceived < transfer.accumulator.maxBlocks) :
    (fetchBlocks routes token path query retries world transfer).1.attempts ≤ transfer.attempts +
      (transfer.accumulator.maxBlocks - transfer.accumulator.blocksReceived) * (retries + 1) := by
  have counted {before after : Transfer ρ} {block : ℕ} {outcome : Except Halt (Bool × Bool)}
      (asked : attemptBlock routes token path query before false
        ((List.range (retries + 1)).map (world block)) = (after, outcome)) :
      after.attempts ≤ before.attempts + (retries + 1) := by
    have next := attempts_attemptBlock routes token path query before false
      ((List.range (retries + 1)).map (world block))
    rwa [asked, List.length_map, List.length_range] at next
  have one_round {before : Transfer ρ} (room : before.accumulator.blocksReceived <
      before.accumulator.maxBlocks) : retries + 1 ≤
        (before.accumulator.maxBlocks - before.accumulator.blocksReceived) * (retries + 1) :=
    Nat.le_mul_of_pos_left _ (by omega)
  fun_induction fetchBlocks routes token path query retries world transfer with
  | case1 => exact Nat.le_add_right _ _
  | case2 _ _ _ _ asked => exact (counted asked).trans (Nat.add_le_add_left (one_round room) _)
  | case3 _ _ _ _ _ asked => exact (counted asked).trans (Nat.add_le_add_left (one_round room) _)
  | case4 transfer _ after sentForBlock unfinished asked ih =>
      have progress := progress_attemptBlock routes token path query transfer false
        ((List.range (retries + 1)).map (world transfer.accumulator.blocksReceived))
      rw [asked] at progress
      rcases progress.advanced rfl with complete | ⟨next, nextRoom⟩
      · exact absurd complete unfinished
      · dsimp only at next nextRoom
        have rest := ih (by rwa [progress.maxBlocks])
        rw [progress.maxBlocks, next] at rest
        have split : transfer.accumulator.maxBlocks - transfer.accumulator.blocksReceived =
            transfer.accumulator.maxBlocks - (transfer.accumulator.blocksReceived + 1) + 1 := by
          omega
        have this_round := counted asked
        rw [split, Nat.succ_mul]
        omega
  | case5 _ _ _ _ _ asked => exact (counted asked).trans (Nat.add_le_add_left (one_round room) _)

/-! ### Results -/

omit [DecidableEq ρ] in
/-- What an incomplete accumulator leaves of a result. -/
theorem transferResult_of_incomplete {status : TransferStatus} {transfer : Transfer ρ}
    {route : Option ρ} (incomplete : transfer.accumulator.complete = false) :
    (transferResult routes status transfer route).payload = [] ∧
      (transferResult routes status transfer route).code = none ∧
      (transferResult routes status transfer route).sourceKey = none := by
  simp [transferResult, incomplete]

theorem result_of_fetchBlocks {transfer : Transfer ρ} {result : TransferResult}
    (incomplete : transfer.accumulator.complete = false)
    (returned : (fetchBlocks routes token path query retries world transfer).2 = .ok result) :
    result.attempts = (fetchBlocks routes token path query retries world transfer).1.attempts ∧
      (result.status ≠ .complete →
        result.payload = [] ∧ result.code = none ∧ result.sourceKey = none) := by
  fun_induction fetchBlocks routes token path query retries world transfer with
  | case1 _ finished => exact absurd finished (by simp [incomplete])
  | case2 => cases returned
  | case3 =>
      cases returned
      exact ⟨rfl, fun failed => absurd rfl failed⟩
  | case4 _ _ _ _ unfinished _ ih => exact ih (Bool.eq_false_iff.mpr unfinished) returned
  | case5 _ _ after _ _ _ unfinished =>
      cases returned
      exact ⟨rfl, fun _ => transferResult_of_incomplete (Bool.eq_false_iff.mpr unfinished)⟩

/--
In every transfer, the responses that make up what was assembled carry its token, come from the
address and scope of the route that they arrived on, and from one route, address, port and scope;
a result that is not complete is empty; and the attempts are bounded.
-/
theorem transfer_from_one_peer (routes : Routes ρ inetPton)
    (token : { token : ByteString // token.length = 8 }) (path query : List String) (retries : ℕ)
    (world : ℕ → ℕ → Attempt ρ) (usedMids : List ℕ) :
    (((newAccumulator token).respondAll ((fetchResource routes path query retries world token
        usedMids).1.added.map (·.message))).2 =
      (fetchResource routes path query retries world token usedMids).1.accumulator) ∧
    (∀ response ∈ (fetchResource routes path query retries world token usedMids).1.added,
      response.message.token = token.1 ∧
      hostKey inetPton (routes.family response.route) response.source =
        hostKey inetPton (routes.family response.route) (routes.sockaddr response.route) ∧
      ∀ first ∈ (fetchResource routes path query retries world token usedMids).1.added.head?,
        response.route = first.route ∧
        ∃ peer, peerKey inetPton (routes.family response.route) response.source = some peer ∧
          peerKey inetPton (routes.family first.route) first.source = some peer) ∧
    (∀ result, (fetchResource routes path query retries world token usedMids).2 = .ok result →
      result.status ≠ .complete →
        result.payload = [] ∧ result.code = none ∧ result.sourceKey = none) ∧
    (fetchResource routes path query retries world token usedMids).1.attempts ≤
      Coap.maxBlock2Blocks * (retries + 1) ∧
    ∀ result, (fetchResource routes path query retries world token usedMids).2 = .ok result →
      result.attempts =
        (fetchResource routes path query retries world token usedMids).1.attempts := by
  have pinned : Pinned routes token.1 (newAccumulator token)
      (fetchResource routes path query retries world token usedMids).1 :=
    pinned_fetchBlocks ⟨rfl, nofun, nofun⟩
  refine ⟨pinned.assembled, ?_, ?_, ?_, ?_⟩
  · intro response isAdded
    rcases pinned.fromPeer response isAdded with ⟨pin, isPin, fromPeer⟩
    refine ⟨fromPeer.tokenEq, fromPeer.keyed.trans (routes.opened response.route).symm, ?_⟩
    intro first isFirst
    rcases pinned.fromPeer first (List.mem_of_mem_head? isFirst) with ⟨other, isOther, firstFrom⟩
    cases Option.mem_unique isPin isOther
    exact ⟨fromPeer.routeEq.trans firstFrom.routeEq.symm, pin.peer, fromPeer.isPeer,
      firstFrom.isPeer⟩
  · intro result returned
    exact (result_of_fetchBlocks rfl returned).2
  · have bounded : (fetchResource routes path query retries world token usedMids).1.attempts ≤
        0 + Coap.maxBlock2Blocks * (retries + 1) :=
      attempts_fetchBlocks (newAccumulator token).maxBlocksPos
    exact bounded.trans_eq (Nat.zero_add _)
  · intro result returned
    exact (result_of_fetchBlocks rfl returned).1

end Discovery

end SmartThingsLocal
