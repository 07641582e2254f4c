import SmartThingsLocal.Foundation.Machine
import SmartThingsLocal.Session.Lifecycle

/-!
# Terminal quiescence

Once `quiesce_for_close` has returned no connection is published any more, and only the
thread that closes the session sends, and only deregistrations. The cancellation is set
under the lifecycle lock, under which `connect` tests it; the send lock is taken once
afterwards, so no send that passed its test before is still going on; and the exemption
from the test belongs to the holder of the Observe-operation lock.
-/

namespace SmartThingsLocal

/-- What a point says about its thread: locks it holds, rights it has, and what it has done. -/
structure LifecycleStatus where
  lifecycle : Bool := false
  send : Bool := false
  operation : Bool := false
  /-- It has the exemption of the orderly close. -/
  permitted : Bool := false
  /-- It has passed the test of `connect`. -/
  publishing : Bool := false
  /-- It has passed the test of `_send_dgram`. -/
  transmitting : Bool := false
  cancelled : Bool := false
  swept : Bool := false
  quiesced : Bool := false
  sockCleared : Bool := false
  connCleared : Bool := false

namespace SendCaller

/-- The status of a thread that `_send_dgram` was called from. -/
def status : SendCaller → LifecycleStatus
  | .request => {}
  | .operation | .dereg _ _ => { operation := true }
  | .orderlyDereg _ _ _ => { operation := true, permitted := true }

/-- No other thread had the exemption before, and the datagram is a deregistration. -/
def Sends : SendCaller → ByteString → Prop
  | .orderlyDereg observation _ previous, datagram =>
      previous = none ∧ ∃ mid, Lifecycle.observeDereg mid observation = some datagram
  | _, _ => True

def Restores : SendCaller → Prop
  | .orderlyDereg _ _ previous => previous = none
  | _ => True

end SendCaller

def QuiesceCaller.operation : QuiesceCaller → Bool
  | .close => true
  | _ => false

namespace LifecyclePoint

def status : LifecyclePoint → LifecycleStatus
  | .idle | .connectLock _ | .readerLock | .pumpLock | .operationLock | .closeLock => {}
  | .publishSock _ | .connectUnlock | .readerStart => { lifecycle := true }
  | .publishConn _ => { lifecycle := true, publishing := true }
  | .pumpUnlock => { send := true }
  | .quiesceLock caller => { operation := caller.operation }
  | .quiesceCancel caller => { operation := caller.operation, lifecycle := true }
  | .quiesceSendLock caller =>
      { operation := caller.operation, lifecycle := true, cancelled := true }
  | .quiesceStop caller =>
      { operation := caller.operation, lifecycle := true, cancelled := true, send := true
        swept := true }
  | .quiesceUnlock caller =>
      { operation := caller.operation, lifecycle := true, cancelled := true, swept := true }
  | .quiesceDrain caller => { operation := caller.operation, cancelled := true, swept := true }
  | .sendLock caller _ => caller.status
  | .sendCheck caller _ | .sendUnlock caller => { caller.status with send := true }
  | .sendTransmit caller _ => { caller.status with send := true, transmitting := true }
  | .operating | .closeLook | .closeMode | .closeSnapshot _ | .closeSweep _ _ | .deregBuild _ _
  | .orderlyPermit _ _ _ => { operation := true }
  | .orderlyBuild _ _ _ | .orderlyRestore _ _ => { operation := true, permitted := true }
  | .closeNotifyLock | .closeClearLock | .abortClearLock => { operation := true, quiesced := true }
  | .closeNotify => { operation := true, quiesced := true, send := true }
  | .closeClearSock | .abortClearSock => { operation := true, quiesced := true, lifecycle := true }
  | .closeClearConn | .abortClearConn =>
      { operation := true, quiesced := true, lifecycle := true, sockCleared := true }
  | .closeRelations | .abortRelations =>
      { operation := true, quiesced := true, sockCleared := true, connCleared := true }
  | .abortLock => { quiesced := true }

/-- The local variables of an orderly deregistration. -/
def WellFormed : LifecyclePoint → Prop
  | .orderlyPermit _ _ previous | .orderlyBuild _ _ previous | .orderlyRestore _ previous =>
      previous = none
  | .sendLock caller datagram | .sendCheck caller datagram | .sendTransmit caller datagram =>
      caller.Sends datagram
  | .sendUnlock caller => caller.Restores
  | _ => True

end LifecyclePoint

/-- What a status entails of the other parts of it. -/
structure LifecycleStatus.Coherent (status : LifecycleStatus) : Prop where
  publishing : status.publishing = true → status.lifecycle = true
  transmitting : status.transmitting = true → status.send = true
  permitted : status.permitted = true → status.operation = true
  sockCleared : status.sockCleared = true → status.quiesced = true
  connCleared : status.connCleared = true → status.quiesced = true

theorem LifecyclePoint.status_coherent (point : LifecyclePoint) : point.status.Coherent := by
  cases point with
  | sendLock caller | sendCheck caller | sendTransmit caller | sendUnlock caller =>
      cases caller <;> constructor <;> simp [status, SendCaller.status]
  | _ => constructor <;> simp [status]

/-- A deregistration that the orderly close sends while it holds the Observe-operation lock. -/
def SentDatagram.IsOrderly (sent : SentDatagram) : Prop :=
  sent.operationHolder = some sent.thread ∧
    ∃ observation rest previous mid, sent.caller = .orderlyDereg observation rest previous ∧
      Lifecycle.observeDereg mid observation = some sent.datagram

namespace Lifecycle

open Threads

/-- Everything one step of a thread can do. -/
inductive Moves (thread : ThreadId) (shared : Lifecycle) (status : LifecycleStatus) :
    Lifecycle → LifecycleStatus → Prop
  | quiet (readerRunning : Bool) (observeTokens : List Observation) :
      Moves thread shared status { shared with readerRunning, observeTokens } status
  | lifecycleLock (free : shared.lifecycleLock = none) :
      Moves thread shared status { shared with lifecycleLock := some thread }
        { status with lifecycle := true }
  | lifecycleUnlock (held : status.lifecycle = true) (idle : status.publishing = false)
      (stop readerThread readerRunning : Bool) :
      Moves thread shared status
        { shared with stop, readerThread, readerRunning, lifecycleLock := none }
        { status with lifecycle := false }
  | publishSock (transport : Transport) (live : shared.lifecycleCancel = false) :
      Moves thread shared status { shared with sock := some transport }
        { status with publishing := true }
  | publishConn (transport : Transport) (publishing : status.publishing = true) :
      Moves thread shared status
        { shared with conn := some transport, published := shared.published + 1 }
        { status with publishing := false }
  | cancel (held : status.lifecycle = true) (idle : status.publishing = false) :
      Moves thread shared status { shared with lifecycleCancel := true }
        { status with cancelled := true }
  | sweep (free : shared.sendLock = none) (cancelled : status.cancelled = true)
      (idle : status.transmitting = false) :
      Moves thread shared status { shared with sendLock := some thread, swept := true }
        { status with send := true, swept := true }
  | stop (held : status.send = true) (idle : status.transmitting = false) :
      Moves thread shared status { shared with stop := true, sendLock := none }
        { status with send := false }
  | drain (swept : status.swept = true) (unpermitted : status.permitted = false) (quiesced : Bool) :
      Moves thread shared status { shared with quiesced := true }
        { operation := status.operation, quiesced }
  | sendLock (free : shared.sendLock = none) (idle : status.transmitting = false) :
      Moves thread shared status { shared with sendLock := some thread }
        { status with send := true }
  | sendUnlock (held : status.send = true) (idle : status.transmitting = false) :
      Moves thread shared status { shared with sendLock := none } { status with send := false }
  | startTransmit
      (passes : shared.lifecycleCancel = true → shared.orderlyCloseSendThreadId = some thread) :
      Moves thread shared status shared { status with transmitting := true }
  | drop : Moves thread shared status shared { status with transmitting := false }
  | transmit (sent : SentDatagram) (transmitting : status.transmitting = true)
      (holder : sent.operationHolder = shared.observeOperationLock) (sender : sent.thread = thread)
      (orderly : status.permitted = true →
        ∃ observation rest previous mid, sent.caller = .orderlyDereg observation rest previous ∧
          observeDereg mid observation = some sent.datagram) :
      Moves thread shared status { shared with sends := shared.sends ++ [sent] }
        { status with transmitting := false }
  | operationLock (free : shared.observeOperationLock = none) (idle : status.permitted = false) :
      Moves thread shared status { shared with observeOperationLock := some thread }
        { status with operation := true }
  | operationUnlock (held : status.operation = true) (idle : status.permitted = false) :
      Moves thread shared status { shared with observeOperationLock := none }
        { status with operation := false }
  | permit (held : status.operation = true) :
      Moves thread shared status { shared with orderlyCloseSendThreadId := some thread }
        { status with permitted := true }
  | withdraw (permitted : status.permitted = true) (idle : status.transmitting = false) :
      Moves thread shared status { shared with orderlyCloseSendThreadId := none }
        { status with permitted := false }
  | clearSock (quiesced : status.quiesced = true) :
      Moves thread shared status { shared with sock := none } { status with sockCleared := true }
  | clearConn (held : status.lifecycle = true) (quiesced : status.quiesced = true)
      (idle : status.publishing = false) :
      Moves thread shared status { shared with conn := none, lifecycleLock := none }
        { status with lifecycle := false, connCleared := true }
  | close (held : status.operation = true) (idle : status.permitted = false)
      (quiesced : status.quiesced = true) (sock : status.sockCleared = true)
      (conn : status.connCleared = true) :
      Moves thread shared status
        { shared with observeTokens := [], observeOperationLock := none, closed := true } {}

variable {thread other : ThreadId} {shared after : Lifecycle} {point : LifecyclePoint}
  {status next : LifecycleStatus}

theorem Moves.same (thread : ThreadId) (shared : Lifecycle) (status : LifecycleStatus) :
    Moves thread shared status shared status :=
  .quiet shared.readerRunning shared.observeTokens

/-- The step function does nothing else. -/
theorem go_moves (mid : Option ℕ) (wellFormed : point.WellFormed) :
    Moves thread shared point.status (go thread mid shared point).1
      (go thread mid shared point).2.status := by
  cases point with
  | idle | closeMode | closeSnapshot => exact .same _ _ _
  | connectLock | readerLock | quiesceLock | closeClearLock | abortClearLock =>
      simp only [go]
      split_ifs with free
      · exact .lifecycleLock free
      · exact .same _ _ _
  | publishSock transport =>
      simp only [go]
      split_ifs with cancelled
      · exact .lifecycleUnlock rfl rfl shared.stop shared.readerThread shared.readerRunning
      · exact .publishSock transport (Bool.eq_false_iff.mpr cancelled)
  | publishConn transport => exact .publishConn transport rfl
  | connectUnlock => exact .lifecycleUnlock rfl rfl false shared.readerThread shared.readerRunning
  | readerStart =>
      simp only [go]
      split_ifs
      · exact .lifecycleUnlock rfl rfl shared.stop shared.readerThread shared.readerRunning
      · exact .lifecycleUnlock rfl rfl shared.stop true true
  | pumpLock =>
      simp only [go]
      split_ifs with free
      · exact .sendLock free rfl
      · exact .same _ _ _
  | pumpUnlock => exact .sendUnlock rfl rfl
  | quiesceCancel caller => exact .cancel rfl rfl
  | quiesceSendLock caller =>
      simp only [go]
      split_ifs with free
      · exact .sweep free rfl rfl
      · exact .same _ _ _
  | quiesceStop caller => exact .stop rfl rfl
  | quiesceUnlock caller =>
      exact .lifecycleUnlock rfl rfl shared.stop shared.readerThread shared.readerRunning
  | quiesceDrain caller => cases caller <;> exact .drain rfl rfl _
  | sendLock caller datagram =>
      simp only [go]
      split_ifs with free
      · cases caller <;> exact .sendLock free rfl
      · exact .same _ _ _
  | sendCheck caller datagram =>
      simp only [go]
      split_ifs with refused
      · exact .same _ _ _
      · refine .startTransmit fun cancelled => ?_
        by_contra unpermitted
        exact refused (.inl ⟨cancelled, unpermitted⟩)
  | sendTransmit caller datagram =>
      simp only [go]
      split
      · cases caller <;> exact .drop
      · cases caller with
        | orderlyDereg observation rest previous =>
            rcases wellFormed with ⟨_, mid, built⟩
            exact .transmit _ rfl rfl rfl fun _ => ⟨observation, rest, previous, mid, rfl, built⟩
        | _ => exact .transmit _ rfl rfl rfl (by simp [LifecyclePoint.status, SendCaller.status])
  | sendUnlock caller => cases caller <;> exact .sendUnlock rfl rfl
  | operationLock | closeLock | abortLock =>
      simp only [go]
      split_ifs with free
      · exact .operationLock free rfl
      · exact .same _ _ _
  | operating => exact .operationUnlock rfl rfl
  | closeLook =>
      simp only [go]
      split_ifs <;> exact .same _ _ _
  | closeSweep quiesced rest => cases rest <;> cases quiesced <;> exact .same _ _ _
  | deregBuild observation rest =>
      simp only [go]
      split <;> exact .same _ _ _
  | orderlyPermit observation rest previous => exact .permit rfl
  | orderlyBuild observation rest previous =>
      simp only [go]
      split <;> exact .same _ _ _
  | orderlyRestore rest previous =>
      cases wellFormed
      exact .withdraw rfl rfl
  | closeNotifyLock =>
      simp only [go]
      split_ifs with free
      · exact .sendLock free rfl
      · exact .same _ _ _
  | closeNotify => exact .sendUnlock rfl rfl
  | closeClearSock | abortClearSock => exact .clearSock rfl
  | closeClearConn | abortClearConn => exact .clearConn rfl rfl rfl
  | closeRelations | abortRelations => exact .close rfl rfl rfl rfl rfl

theorem step_moves (thread : ThreadId) (shared : Lifecycle) (input : LifecycleInput)
    (wellFormed : point.WellFormed) :
    Moves thread shared point.status (step thread input shared point).1
      (step thread input shared point).2.status := by
  cases input with
  | go mid => exact go_moves mid wellFormed
  | call call =>
      cases point with
      | idle => cases call <;> exact .quiet _ _
      | operating => cases call <;> exact .same _ _ _
      | _ => cases call <;> exact .same _ _ _

/-! ### The invariant -/

/-- What a status entails of the shared state. -/
structure Agrees (thread : ThreadId) (shared : Lifecycle) (status : LifecycleStatus) : Prop where
  lifecycle : status.lifecycle = true → shared.lifecycleLock = some thread
  send : status.send = true → shared.sendLock = some thread
  operation : status.operation = true → shared.observeOperationLock = some thread
  permitted : shared.orderlyCloseSendThreadId = some thread ↔ status.permitted = true
  publishing : status.publishing = true → shared.lifecycleCancel = false
  transmitting : status.transmitting = true → shared.swept = true → status.permitted = true
  cancelled : status.cancelled = true → shared.lifecycleCancel = true
  swept : status.swept = true → shared.swept = true
  quiesced : status.quiesced = true → shared.quiesced = true
  sockCleared : status.sockCleared = true → shared.sock = none
  connCleared : status.connCleared = true → shared.conn = none

/-- What holds of the shared state alone. -/
structure Ordered (shared : Lifecycle) : Prop where
  swept : shared.swept = true → shared.lifecycleCancel = true
  quiesced : shared.quiesced = true → shared.swept = true
  closed : shared.closed = true → shared.quiesced = true ∧ shared.sock = none ∧ shared.conn = none
  permitted : ∀ holder, shared.orderlyCloseSendThreadId = some holder →
    shared.observeOperationLock = some holder

/-- Quiescence comes after cancellation. -/
theorem Ordered.cancelled (ordered : Ordered shared) (quiesced : shared.quiesced = true) :
    shared.lifecycleCancel = true :=
  ordered.swept (ordered.quiesced quiesced)

/-- A thread in an operation that is not permitted leaves no other one permitted. -/
theorem Ordered.unpermitted (ordered : Ordered shared) (agrees : Agrees thread shared status)
    (operation : status.operation = true) (idle : status.permitted = false) :
    shared.orderlyCloseSendThreadId = none := by
  cases held : shared.orderlyCloseSendThreadId with
  | none => rfl
  | some holder =>
      have sameLock := ordered.permitted holder held
      rw [agrees.operation operation] at sameLock
      cases sameLock
      rw [agrees.permitted.mp held] at idle
      cases idle

theorem ordered_moves (ordered : Ordered shared) (agrees : Agrees thread shared status)
    (moves : Moves thread shared status after next) : Ordered after := by
  have published : shared.lifecycleCancel = false → ¬shared.closed = true := by
    intro live closed
    rw [ordered.cancelled (ordered.closed closed).1] at live
    cases live
  cases moves with
  | publishSock transport live =>
      exact { ordered with closed := fun closed => absurd closed (published live) }
  | publishConn transport publishing =>
      exact { ordered with
        closed := fun closed => absurd closed (published (agrees.publishing publishing)) }
  | cancel => exact { ordered with swept := fun _ => rfl }
  | sweep _ cancelled =>
      exact { ordered with
        swept := fun _ => agrees.cancelled cancelled
        quiesced := fun _ => rfl }
  | drain swept =>
      exact { ordered with
        quiesced := fun _ => agrees.swept swept
        closed := fun closed => ⟨rfl, (ordered.closed closed).2⟩ }
  | operationLock free =>
      refine { ordered with permitted := ?_ }
      intro holder held
      have locked := ordered.permitted holder held
      rw [free] at locked
      cases locked
  | operationUnlock held idle =>
      refine { ordered with permitted := ?_ }
      intro holder isHolder
      rw [ordered.unpermitted agrees held idle] at isHolder
      cases isHolder
  | permit held =>
      refine { ordered with permitted := ?_ }
      rintro _ ⟨⟩
      exact agrees.operation held
  | withdraw => exact { ordered with permitted := by simp }
  | clearSock =>
      exact { ordered with
        closed := fun closed => ⟨(ordered.closed closed).1, rfl, (ordered.closed closed).2.2⟩ }
  | clearConn =>
      exact { ordered with
        closed := fun closed => ⟨(ordered.closed closed).1, (ordered.closed closed).2.1, rfl⟩ }
  | close held idle quiesced sock conn =>
      refine { ordered with closed := ?_, permitted := ?_ }
      · exact fun _ => ⟨agrees.quiesced quiesced, agrees.sockCleared sock, agrees.connCleared conn⟩
      · intro holder isHolder
        rw [ordered.unpermitted agrees held idle] at isHolder
        cases isHolder
  | _ => exact { ordered with }

/-- A thread keeps the agreement of its own point. -/
theorem agrees_moves (ordered : Ordered shared) (agrees : Agrees thread shared status)
    (coherent : status.Coherent) (moves : Moves thread shared status after next) :
    Agrees thread after next := by
  have cleared : shared.lifecycleCancel = false → status.quiesced = true → False := by
    intro live quiesced
    rw [ordered.cancelled (agrees.quiesced quiesced)] at live
    cases live
  cases moves with
  | quiet => exact { agrees with }
  | lifecycleLock => exact { agrees with lifecycle := fun _ => rfl }
  | lifecycleUnlock => exact { agrees with lifecycle := nofun }
  | publishSock transport live =>
      exact { agrees with
        publishing := fun _ => live
        sockCleared := fun sock => (cleared live (coherent.sockCleared sock)).elim }
  | publishConn transport publishing =>
      have live := agrees.publishing publishing
      exact { agrees with
        publishing := nofun
        connCleared := fun conn => (cleared live (coherent.connCleared conn)).elim }
  | cancel held idle =>
      exact { agrees with publishing := by simp [idle], cancelled := fun _ => rfl }
  | sweep free cancelled idle =>
      exact { agrees with
        send := fun _ => rfl
        transmitting := by simp [idle]
        swept := fun _ => rfl }
  | stop => exact { agrees with send := nofun }
  | drain swept unpermitted quiesced =>
      refine ⟨nofun, nofun, agrees.operation, ?_, nofun, nofun, nofun, nofun, fun _ => rfl, nofun,
        nofun⟩
      simpa [unpermitted] using agrees.permitted
  | sendLock => exact { agrees with send := fun _ => rfl }
  | sendUnlock => exact { agrees with send := nofun }
  | startTransmit passes =>
      refine { agrees with transmitting := ?_ }
      intro _ swept
      exact agrees.permitted.mp (passes (ordered.swept swept))
  | drop => exact { agrees with transmitting := nofun }
  | transmit => exact { agrees with transmitting := nofun }
  | operationLock => exact { agrees with operation := fun _ => rfl }
  | operationUnlock => exact { agrees with operation := nofun }
  | permit => exact { agrees with permitted := by simp, transmitting := fun _ _ => rfl }
  | withdraw permitted idle =>
      exact { agrees with permitted := by simp, transmitting := by simp [idle] }
  | clearSock => exact { agrees with sockCleared := fun _ => rfl }
  | clearConn => exact { agrees with lifecycle := nofun, connCleared := fun _ => rfl }
  | close held idle =>
      refine ⟨nofun, nofun, nofun, ?_, nofun, nofun, nofun, nofun, nofun, nofun, nofun⟩
      simpa [idle] using agrees.permitted

/-! ### Interference -/

/-- What a thread guarantees of its changes. -/
structure Guarantees (thread : ThreadId) (before after : Lifecycle) : Prop where
  lifecycleLock : LockMoves thread before.lifecycleLock after.lifecycleLock
  sendLock : LockMoves thread before.sendLock after.sendLock
  operationLock : LockMoves thread before.observeOperationLock after.observeOperationLock
  cancels : after.lifecycleCancel = before.lifecycleCancel ∨
    after.lifecycleCancel = true ∧ before.lifecycleLock = some thread
  sweeps : before.swept = true → after.swept = true
  swept : after.swept = true → before.swept = true ∨ before.sendLock = none
  quiesces : before.quiesced = true → after.quiesced = true
  permits : after.orderlyCloseSendThreadId = before.orderlyCloseSendThreadId ∨
    before.observeOperationLock = some thread ∧
      (after.orderlyCloseSendThreadId = some thread ∨ after.orderlyCloseSendThreadId = none)
  sock : before.sock = none → after.sock = none ∨ before.lifecycleCancel = false
  conn : before.conn = none → after.conn = none ∨ before.lifecycleCancel = false

theorem Guarantees.refl (thread : ThreadId) (shared : Lifecycle) :
    Guarantees thread shared shared :=
  ⟨.refl _ _, .refl _ _, .refl _ _, .inl rfl, id, .inl, id, .inl rfl, .inl, .inl⟩

theorem guarantees_moves (agrees : Agrees thread shared status) (coherent : status.Coherent)
    (moves : Moves thread shared status after next) : Guarantees thread shared after := by
  have same := Guarantees.refl thread shared
  cases moves with
  | lifecycleLock free => exact { same with lifecycleLock := .inr (.inl ⟨free, rfl⟩) }
  | lifecycleUnlock held =>
      exact { same with lifecycleLock := .inr (.inr ⟨agrees.lifecycle held, rfl⟩) }
  | publishSock transport live => exact { same with sock := fun _ => .inr live }
  | publishConn transport publishing =>
      exact { same with conn := fun _ => .inr (agrees.publishing publishing) }
  | cancel held => exact { same with cancels := .inr ⟨rfl, agrees.lifecycle held⟩ }
  | sweep free =>
      exact { same with
        sendLock := .inr (.inl ⟨free, rfl⟩)
        sweeps := fun _ => rfl
        swept := fun _ => .inr free }
  | stop held => exact { same with sendLock := .inr (.inr ⟨agrees.send held, rfl⟩) }
  | drain => exact { same with quiesces := fun _ => rfl }
  | sendLock free => exact { same with sendLock := .inr (.inl ⟨free, rfl⟩) }
  | sendUnlock held => exact { same with sendLock := .inr (.inr ⟨agrees.send held, rfl⟩) }
  | operationLock free => exact { same with operationLock := .inr (.inl ⟨free, rfl⟩) }
  | operationUnlock held =>
      exact { same with operationLock := .inr (.inr ⟨agrees.operation held, rfl⟩) }
  | permit held => exact { same with permits := .inr ⟨agrees.operation held, .inl rfl⟩ }
  | withdraw permitted =>
      exact { same with
        permits := .inr ⟨agrees.operation (coherent.permitted permitted), .inr rfl⟩ }
  | clearSock => exact { same with sock := fun _ => .inl rfl }
  | clearConn held =>
      exact { same with
        lifecycleLock := .inr (.inr ⟨agrees.lifecycle held, rfl⟩)
        conn := fun _ => .inl rfl }
  | close held =>
      exact { same with operationLock := .inr (.inr ⟨agrees.operation held, rfl⟩) }
  | _ => exact { same with }

/-- The changes of a thread leave the agreement of another one. -/
theorem agrees_stable (apart : other ≠ thread) (guarantees : Guarantees thread shared after)
    (ordered : Ordered shared) (coherent : status.Coherent)
    (agrees : Agrees other shared status) : Agrees other after status := by
  have cancelled : status.quiesced = true → ¬shared.lifecycleCancel = false := by
    intro quiesced live
    rw [ordered.cancelled (agrees.quiesced quiesced)] at live
    cases live
  constructor
  · exact fun held => guarantees.lifecycleLock.kept apart (agrees.lifecycle held)
  · exact fun held => guarantees.sendLock.kept apart (agrees.send held)
  · exact fun held => guarantees.operationLock.kept apart (agrees.operation held)
  · rcases guarantees.permits with same | ⟨held, changed⟩
    · rw [same]
      exact agrees.permitted
    · -- the exemption belongs to the holder of the Observe-operation lock
      have noOther : shared.orderlyCloseSendThreadId ≠ some other := by
        intro permitted
        rw [ordered.permitted other permitted] at held
        exact apart (Option.some.inj held)
      rw [← agrees.permitted]
      refine iff_of_false ?_ noOther
      rcases changed with own | none
      · rw [own]
        exact fun same => apart (Option.some.inj same).symm
      · rw [none]
        nofun
  · intro publishing
    rcases guarantees.cancels with same | ⟨_, held⟩
    · rw [same]
      exact agrees.publishing publishing
    · rw [agrees.lifecycle (coherent.publishing publishing)] at held
      exact absurd (Option.some.inj held) apart
  · intro transmitting swept
    rcases guarantees.swept swept with before | free
    · exact agrees.transmitting transmitting before
    · rw [agrees.send (coherent.transmitting transmitting)] at free
      cases free
  · intro isCancelled
    rcases guarantees.cancels with same | ⟨cancel, _⟩
    · rw [same]
      exact agrees.cancelled isCancelled
    · exact cancel
  · exact fun swept => guarantees.sweeps (agrees.swept swept)
  · exact fun quiesced => guarantees.quiesces (agrees.quiesced quiesced)
  · intro sock
    rcases guarantees.sock (agrees.sockCleared sock) with isNone | live
    · exact isNone
    · exact absurd live (cancelled (coherent.sockCleared sock))
  · intro conn
    rcases guarantees.conn (agrees.connCleared conn) with isNone | live
    · exact isNone
    · exact absurd live (cancelled (coherent.connCleared conn))

/-- The local variables of an orderly deregistration stay what they are. -/
theorem wellFormed_step (input : LifecycleInput) (ordered : Ordered shared)
    (agrees : Agrees thread shared point.status) (wellFormed : point.WellFormed) :
    (step thread input shared point).2.WellFormed := by
  cases input with
  | call call =>
      cases point with
      | idle => cases call <;> trivial
      | operating => cases call <;> trivial
      | _ => exact wellFormed
  | go mid =>
      simp only [step]
      cases point with
      | sendLock caller datagram | sendCheck caller datagram | sendTransmit caller datagram =>
          have restores : caller.Restores := by
            cases caller with
            | orderlyDereg => exact wellFormed.1
            | _ => trivial
          simp only [go]
          split
          · first | exact wellFormed | exact restores
          · first | exact wellFormed | exact restores
      | sendUnlock caller => cases caller <;> exact wellFormed
      | closeSweep quiesced rest =>
          cases rest with
          | nil => cases quiesced <;> trivial
          | cons observation rest =>
              cases quiesced with
              | false => trivial
              | true => exact ordered.unpermitted agrees rfl rfl
      | orderlyPermit => exact wellFormed
      | orderlyBuild observation rest previous =>
          simp only [go]
          split
          · exact wellFormed
          · exact ⟨wellFormed, mid, ‹_›⟩
      | quiesceDrain caller => cases caller <;> trivial
      | deregBuild =>
          simp only [go]
          split <;> trivial
      | closeLook | connectLock | publishSock | readerLock | readerStart | pumpLock | quiesceLock
      | quiesceSendLock | operationLock | closeLock | closeNotifyLock | closeClearLock | abortLock
      | abortClearLock =>
          simp only [go]
          split_ifs <;> trivial
      | _ => trivial

/-- What holds of a thread. -/
def Own (thread : ThreadId) (shared : Lifecycle) (point : LifecyclePoint) : Prop :=
  Agrees thread shared point.status ∧ point.WellFormed

theorem noninterfering : Noninterfering step Ordered Own Guarantees where
  keeps thread input shared point ordered own := by
    have moves := step_moves thread shared input own.2
    exact ⟨ordered_moves ordered own.1 moves,
      agrees_moves ordered own.1 point.status_coherent moves,
      wellFormed_step input ordered own.1 own.2⟩
  guarantees thread input shared point ordered own :=
    guarantees_moves own.1 point.status_coherent (step_moves thread shared input own.2)
  stable apart guarantees ordered own :=
    ⟨agrees_stable apart guarantees ordered (LifecyclePoint.status_coherent _) own.1, own.2⟩

/-! ### Runs -/

/-- What has happened between two states of a session, the first of them quiesced. -/
structure Since (earlier now : Lifecycle) : Prop where
  quiesced : now.quiesced = true
  published : now.published = earlier.published
  sock : now.sock = earlier.sock ∨ now.sock = none
  conn : now.conn = earlier.conn ∨ now.conn = none
  sends : ∃ later, now.sends = earlier.sends ++ later ∧ ∀ sent ∈ later, sent.IsOrderly
  closed : earlier.closed = true → now.closed = true

theorem Since.refl (quiesced : shared.quiesced = true) : Since shared shared :=
  ⟨quiesced, rfl, .inl rfl, .inl rfl, ⟨[], by simp⟩, id⟩

/-- A step of a quiesced session publishes nothing and sends at most a deregistration. -/
theorem Since.moves {earlier : Lifecycle} (since : Since earlier shared) (ordered : Ordered shared)
    (agrees : Agrees thread shared status) (coherent : status.Coherent)
    (moves : Moves thread shared status after next) : Since earlier after := by
  have cancelled := ordered.cancelled since.quiesced
  cases moves with
  | publishSock transport live =>
      rw [cancelled] at live
      cases live
  | publishConn transport publishing =>
      have live := agrees.publishing publishing
      rw [cancelled] at live
      cases live
  | transmit sent transmitting holder sender orderly =>
      rcases since.sends with ⟨later, isLater, orderlyLater⟩
      have permitted := agrees.transmitting transmitting (ordered.quiesced since.quiesced)
      refine { since with sends := ⟨later ++ [sent], by simp [isLater], ?_⟩ }
      intro other otherMem
      rcases List.mem_append.mp otherMem with before | new
      · exact orderlyLater other before
      · rw [List.mem_singleton.mp new]
        refine ⟨?_, orderly permitted⟩
        rw [holder, sender]
        exact agrees.operation (coherent.permitted permitted)
  | drain => exact { since with quiesced := rfl }
  | clearSock => exact { since with sock := .inr rfl }
  | clearConn => exact { since with conn := .inr rfl }
  | close => exact { since with closed := fun _ => rfl }
  | _ => exact { since with }

/-- A session on which no thread has called anything. -/
def start : Threads ThreadId Lifecycle LifecyclePoint := ⟨new, fun _ => .idle⟩

theorem holds_start : start.Holds Ordered Own := by
  refine ⟨⟨nofun, nofun, nofun, nofun⟩, fun thread => ⟨?_, trivial⟩⟩
  exact ⟨nofun, nofun, nofun, by simp [start, new, LifecyclePoint.status], nofun, nofun, nofun,
    nofun,
    nofun, nofun, nofun⟩

/-- The threads as one machine. -/
def perform (action : ThreadId × LifecycleInput) :
    Threads ThreadId Lifecycle LifecyclePoint → Threads ThreadId Lifecycle LifecyclePoint :=
  Threads.perform step action

theorem holds_run (actions : List (ThreadId × LifecycleInput)) :
    (Machine.run perform actions start).Holds Ordered Own :=
  Machine.invariant_run_all (fun state action => noninterfering.perform state action) actions
    holds_start

theorem since_run {state : Threads ThreadId Lifecycle LifecyclePoint}
    (actions : List (ThreadId × LifecycleInput)) (holds : state.Holds Ordered Own)
    (quiesced : state.shared.quiesced = true) :
    Since state.shared (Machine.run perform actions state).shared := by
  have keeps (current : Threads ThreadId Lifecycle LifecyclePoint)
      (action : ThreadId × LifecycleInput)
      (invariant : current.Holds Ordered Own ∧ Since state.shared current.shared) :
      (perform action current).Holds Ordered Own ∧
        Since state.shared (perform action current).shared := by
    rcases invariant with ⟨holds, since⟩
    refine ⟨noninterfering.perform current action holds, ?_⟩
    rcases holds.2 action.1 with ⟨agrees, wellFormed⟩
    exact since.moves holds.1 agrees (LifecyclePoint.status_coherent _)
      (step_moves action.1 current.shared action.2 wellFormed)
  exact (Machine.invariant_run_all keeps actions ⟨holds, Since.refl quiesced⟩).2

end Lifecycle

/--
For every interleaving of the threads of a session: after a call of `quiesce_for_close`
has returned, nothing is published and every datagram handed to `conn.send` is a
deregistration by the thread that executes the orderly close; after a call of `close` or
of `abort` has returned, `sock` and `conn` stay unset.
-/
theorem terminal_quiescence (before after : List (ThreadId × LifecycleInput)) :
    let earlier := Machine.run Lifecycle.perform before Lifecycle.start
    let final := Machine.run Lifecycle.perform after earlier
    (earlier.shared.quiesced = true →
      final.shared.published = earlier.shared.published ∧
        (final.shared.sock = earlier.shared.sock ∨ final.shared.sock = none) ∧
        (final.shared.conn = earlier.shared.conn ∨ final.shared.conn = none) ∧
        ∃ later, final.shared.sends = earlier.shared.sends ++ later ∧
          ∀ sent ∈ later, sent.IsOrderly) ∧
    (earlier.shared.closed = true → final.shared.sock = none ∧ final.shared.conn = none) := by
  intro earlier final
  have holds : earlier.Holds Lifecycle.Ordered Lifecycle.Own := Lifecycle.holds_run before
  constructor
  · intro quiesced
    have since := Lifecycle.since_run after holds quiesced
    exact ⟨since.published, since.sock, since.conn, since.sends⟩
  · intro closed
    have since := Lifecycle.since_run after holds (holds.1.closed closed).1
    have holdsFinal := Machine.invariant_run_all
      (fun state action => Lifecycle.noninterfering.perform state action) after holds
    exact (holdsFinal.1.closed (since.closed closed)).2

/-- A call of a thread, run to its end without interference. -/
def soleCall (thread : ThreadId) (call : LifecycleCall) : List (ThreadId × LifecycleInput) :=
  (thread, .call call) :: List.replicate 25 (thread, .go (some 7))

/-- After quiescence the closing thread deregisters and a request is refused. -/
example :
    let actions := soleCall 0 (.connect 5) ++ soleCall 1 (.relations [⟨[1], "/a", []⟩]) ++
      soleCall 1 .quiesceForClose ++ soleCall 2 (.sendDgram [9]) ++ soleCall 3 .close
    let final := (Machine.run Lifecycle.perform actions Lifecycle.start).shared
    final.published = 1 ∧ final.closed = true ∧ final.conn = none ∧
      final.sends.map SentDatagram.thread = [3] := by
  decide +kernel

end SmartThingsLocal
