import SmartThingsLocal.Foundation.Contracts
import SmartThingsLocal.Dtls.HandshakeRefinement
import SmartThingsLocal.Dtls.RecordSplitters

/-!
# The handshake driver

`_drive_dtls_handshake` of `protocol/dtls_handshake.py`, over any connection behind a memory BIO.
What the clock and the sockets do in each pass of its loop is given. A run of the driver is a
sequence of calls of the connection, so what holds of every sequence of calls holds of it, and
what it tells its callbacks is what goes over the wire.
-/

namespace SmartThingsLocal

open Dtls DtlsPskClient Stateful

/-- The methods of a connection that the driver calls. -/
structure MemoryBio (γ : Type) where
  doHandshake : Stateful DtlsFailure γ Unit
  bioRead : ℕ → Stateful DtlsFailure γ ByteString
  bioWrite : ByteString → Stateful DtlsFailure γ ℕ
  getTimeout : Stateful DtlsFailure γ (Option ℚ)
  handleTimeout : Stateful DtlsFailure γ Unit

/-- A call of one of them. -/
inductive BioCall
  | doHandshake
  | bioRead (capacity : ℕ)
  | bioWrite (datagram : ByteString)
  | getTimeout
  | handleTimeout
  deriving DecidableEq, Repr

/-- What the wait for a datagram comes to; the wake socket comes before the other one. -/
inductive SocketEvent
  | woken
  | timedOut
  | failed
  | received (datagram : ByteString)

/-- One pass of the loop: the clock at its condition, how many records the socket takes, and the
clock before the wait with what it comes to. -/
structure DriverPass where
  clock : ℚ
  accepted : ℕ
  waiting : ℚ
  event : SocketEvent

inductive DriverFailure
  | cancelled
  | tls (failure : DtlsFailure)
  | os
  deriving DecidableEq, Repr

/-- The variables of the driver. No step reads `calls` or `wire`, which is what the callbacks are
told. -/
structure Driver (γ : Type) where
  connection : γ
  retransmits : ℕ := 0
  calls : List BioCall := []
  wire : List TranscriptEvent := []

/-- How one pass ends. -/
inductive PassEnd
  | goesOn
  | completed
  | over
  | failed (failure : DriverFailure)

def maxDatagramSize : ℕ := 65535

namespace BioCall

variable {γ : Type} (bio : MemoryBio γ)

/-- The connection after a call, whether it returned or raised. -/
def perform (call : BioCall) (connection : γ) : γ :=
  match call with
  | doHandshake => (exec bio.doHandshake connection).2
  | bioRead capacity => (exec (bio.bioRead capacity) connection).2
  | bioWrite datagram => (exec (bio.bioWrite datagram) connection).2
  | getTimeout => (exec bio.getTimeout connection).2
  | handleTimeout => (exec bio.handleTimeout connection).2

/-- The datagram that a call hands over. -/
def written? : BioCall → Option ByteString
  | bioWrite datagram => some datagram
  | _ => none

/-- What a call reads out of the connection. -/
def output? (call : BioCall) (connection : γ) : Option ByteString :=
  match call with
  | bioRead capacity => (exec (bio.bioRead capacity) connection).1.toOption
  | _ => none

/-- What a call of `do_handshake` comes to. -/
def progress? (call : BioCall) (connection : γ) : Option (Except DtlsFailure Unit) :=
  match call with
  | doHandshake => some (exec bio.doHandshake connection).1
  | _ => none

end BioCall

namespace Driver

variable {γ α : Type} (bio : MemoryBio γ)

/-- Call a method. -/
def invoke (driver : Driver γ) (call : BioCall) (method : Stateful DtlsFailure γ α) :
    Except DtlsFailure α × Driver γ :=
  let (result, connection) := exec method driver.connection
  (result, { driver with connection, calls := driver.calls ++ [call] })

/-- Send what the connection has to send: a failure, if there is one. -/
def flush (accepted : ℕ) (driver : Driver γ) : Option DriverFailure × Driver γ :=
  match driver.invoke (.bioRead maxDatagramSize) (bio.bioRead maxDatagramSize) with
  | (.error .wantRead, driver) => (none, driver)
  | (.error failure, driver) => (some (.tls failure), driver)
  | (.ok output, driver) =>
      let records := splitDtls output
      let driver := { driver with
        wire := driver.wire ++ (records.take accepted).map TranscriptEvent.sent }
      (if accepted < records.length then some .os else none, driver)

/-- Service the retransmission timer when it has expired. -/
def serviceTimer (retries : Option ℕ) (driver : Driver γ) : PassEnd × Driver γ :=
  match driver.invoke .getTimeout bio.getTimeout with
  | (.error failure, driver) => (.failed (.tls failure), driver)
  | (.ok timer, driver) =>
      if timer.any (· ≤ 0) then
        if retries.any (driver.retransmits ≥ ·) then (.over, driver)
        else
          match driver.invoke .handleTimeout bio.handleTimeout with
          | (.error failure, driver) => (.failed (.tls failure), driver)
          | (.ok _, driver) => (.goesOn, { driver with retransmits := driver.retransmits + 1 })
      else (.goesOn, driver)

/-- Hand over what has arrived. -/
def receive (datagram : ByteString) (driver : Driver γ) : PassEnd × Driver γ :=
  if datagram = [] then (.goesOn, driver)
  else
    let driver := { driver with wire := driver.wire ++ [TranscriptEvent.received datagram] }
    match driver.invoke (.bioWrite datagram) (bio.bioWrite datagram) with
    | (.error failure, driver) => (.failed (.tls failure), driver)
    | (.ok _, driver) => (.goesOn, driver)

/-- One pass of the loop. -/
def pass (deadline : ℚ) (retries : Option ℕ) (surroundings : DriverPass) (driver : Driver γ) :
    PassEnd × Driver γ :=
  if ¬surroundings.clock < deadline then (.over, driver)
  else
    match driver.invoke .doHandshake bio.doHandshake with
    | (.ok _, driver) => (.completed, driver)
    | (.error .wantRead, driver) =>
        match driver.flush bio surroundings.accepted with
        | (some failure, driver) => (.failed failure, driver)
        | (none, driver) =>
            if deadline - surroundings.waiting ≤ 0 then (.over, driver)
            else
              match surroundings.event with
              | .woken => (.failed .cancelled, driver)
              | .failed => (.failed .os, driver)
              | .timedOut => driver.serviceTimer bio retries
              | .received datagram => driver.receive bio datagram
    | (.error failure, driver) => (.failed (.tls failure), driver)

/-- The loop; after the last pass that is given, the clock has passed the deadline. -/
def drive (deadline : ℚ) (retries : Option ℕ) :
    List DriverPass → Driver γ → Except DriverFailure Bool × Driver γ
  | [], driver => (.ok false, driver)
  | surroundings :: passes, driver =>
      match driver.pass bio deadline retries surroundings with
      | (.goesOn, driver) => drive deadline retries passes driver
      | (.completed, driver) => (.ok true, driver)
      | (.over, driver) => (.ok false, driver)
      | (.failed failure, driver) => (.error failure, driver)

end Driver

/-- `_drive_dtls_handshake`. -/
def driveDtlsHandshake {γ : Type} (bio : MemoryBio γ) (connection : γ) (deadline : ℚ)
    (retries : Option ℕ) (passes : List DriverPass) : Except DriverFailure Bool × Driver γ :=
  Driver.drive bio deadline retries passes { connection }

/-! ### Calls in a row -/

section Replay

variable {γ : Type} (bio : MemoryBio γ) (start : γ)

/-- The connection after some calls. -/
abbrev connectionAfter (calls : List BioCall) : γ := Machine.run (BioCall.perform bio) calls start

/-- The calls, each with the connection that it meets. -/
def replay : List BioCall → γ → List (BioCall × γ)
  | [], _ => []
  | call :: calls, connection =>
      (call, connection) :: replay calls (call.perform bio connection)

/-- What the calls have read out of the connection. -/
def outputsOf (calls : List BioCall) : List ByteString :=
  (replay bio calls start).filterMap fun met => met.1.output? bio met.2

/-- What the calls of `do_handshake` have come to. -/
def progressOf (calls : List BioCall) : List (Except DtlsFailure Unit) :=
  (replay bio calls start).filterMap fun met => met.1.progress? bio met.2

theorem replay_concat (calls : List BioCall) (call : BioCall) :
    replay bio (calls ++ [call]) start =
      replay bio calls start ++ [(call, connectionAfter bio start calls)] := by
  induction calls generalizing start with
  | nil => rfl
  | cons first calls ih =>
      rw [List.cons_append, replay, replay, ih, List.cons_append]
      rfl

theorem outputsOf_concat (calls : List BioCall) (call : BioCall) :
    outputsOf bio start (calls ++ [call]) =
      outputsOf bio start calls ++ (call.output? bio (connectionAfter bio start calls)).toList := by
  rw [outputsOf, replay_concat, List.filterMap_append]
  congr 1

theorem progressOf_concat (calls : List BioCall) (call : BioCall) :
    progressOf bio start (calls ++ [call]) = progressOf bio start calls ++
      (call.progress? bio (connectionAfter bio start calls)).toList := by
  rw [progressOf, replay_concat, List.filterMap_append]
  congr 1

theorem connectionAfter_concat (calls : List BioCall) (call : BioCall) :
    connectionAfter bio start (calls ++ [call]) =
      call.perform bio (connectionAfter bio start calls) := by
  rw [connectionAfter, Machine.run_append]
  rfl

end Replay

namespace Driver

variable {γ : Type} {bio : MemoryBio γ} {start : γ} {retries : Option ℕ} {driver : Driver γ}

open TranscriptEvent

/-- The driver has made its calls, and has told the callbacks what went over the wire. -/
structure Traced (bio : MemoryBio γ) (start : γ) (retries : Option ℕ) (driver : Driver γ) :
    Prop where
  connection : driver.connection = connectionAfter bio start driver.calls
  received : driver.wire.filterMap receivedDatagram = driver.calls.filterMap BioCall.written?
  sent : driver.wire.filterMap sentRecord <+:
    (outputsOf bio start driver.calls).flatMap splitDtls
  serviced : ∀ limit ∈ retries, driver.calls.count .handleTimeout ≤ limit

/-- Everything that was read out has been sent. -/
def SentAll (bio : MemoryBio γ) (start : γ) (driver : Driver γ) : Prop :=
  driver.wire.filterMap sentRecord = (outputsOf bio start driver.calls).flatMap splitDtls

/-- The handshake is not over. -/
structure Running (bio : MemoryBio γ) (start : γ) (retries : Option ℕ) (driver : Driver γ) :
    Prop where
  traced : driver.Traced bio start retries
  sentAll : driver.SentAll bio start
  waits : ∀ progress ∈ progressOf bio start driver.calls, progress = .error .wantRead
  counted : driver.calls.count .handleTimeout = driver.retransmits

/-- The driver after a call that has no part in what is counted or sent. -/
def after (bio : MemoryBio γ) (driver : Driver γ) (call : BioCall) : Driver γ :=
  { driver with
    connection := call.perform bio driver.connection
    calls := driver.calls ++ [call] }

/-- The result of a call, where it is made. -/
theorem output?_after (running : driver.Traced bio start retries) (call : BioCall) :
    outputsOf bio start (driver.after bio call).calls =
      outputsOf bio start driver.calls ++ (call.output? bio driver.connection).toList := by
  rw [running.connection]
  exact outputsOf_concat bio start driver.calls call

theorem progress?_after (running : driver.Traced bio start retries) (call : BioCall) :
    progressOf bio start (driver.after bio call).calls =
      progressOf bio start driver.calls ++ (call.progress? bio driver.connection).toList := by
  rw [running.connection]
  exact progressOf_concat bio start driver.calls call

theorem Traced.serviced_after (traced : driver.Traced bio start retries) (call : BioCall)
    (unserviced : call ≠ .handleTimeout) :
    ∀ limit ∈ retries, (driver.after bio call).calls.count .handleTimeout ≤ limit := by
  intro limit isLimit
  rw [Driver.after, List.count_append, List.count_singleton, if_neg (by simpa using unserviced)]
  exact traced.serviced limit isLimit

/-- A call that writes and services nothing keeps the trace. -/
theorem Traced.after (traced : driver.Traced bio start retries) (call : BioCall)
    (unwritten : call.written? = none) (unserviced : call ≠ .handleTimeout) :
    (driver.after bio call).Traced bio start retries := by
  refine ⟨?_, ?_, ?_, ?_⟩
  · rw [Driver.after, connectionAfter_concat, ← traced.connection]
  · rw [Driver.after, List.filterMap_append, ← traced.received]
    simp [unwritten]
  · rw [output?_after traced, List.flatMap_append]
    exact traced.sent.trans (List.prefix_append _ _)
  · exact traced.serviced_after call unserviced

theorem Running.waits_after (running : driver.Running bio start retries) (call : BioCall)
    (unsettled : ∀ progress ∈ call.progress? bio driver.connection,
      progress = .error .wantRead) :
    ∀ progress ∈ progressOf bio start (driver.after bio call).calls,
      progress = .error .wantRead := by
  rw [progress?_after running.traced]
  intro progress progressMem
  rcases List.mem_append.mp progressMem with earlier | last
  · exact running.waits progress earlier
  · exact unsettled progress (Option.mem_toList.mp last)

theorem Running.counted_after (running : driver.Running bio start retries) (call : BioCall)
    (unserviced : call ≠ .handleTimeout) :
    (driver.after bio call).calls.count .handleTimeout = driver.retransmits := by
  rw [Driver.after, List.count_append, List.count_singleton, if_neg (by simpa using unserviced)]
  exact running.counted

/-- Such a call, which comes to nothing either. -/
theorem Running.after (running : driver.Running bio start retries) (call : BioCall)
    (unwritten : call.written? = none) (unserviced : call ≠ .handleTimeout)
    (silent : call.output? bio driver.connection = none)
    (unsettled : ∀ progress ∈ call.progress? bio driver.connection,
      progress = .error .wantRead) : (driver.after bio call).Running bio start retries := by
  refine ⟨running.traced.after call unwritten unserviced, ?_,
    running.waits_after call unsettled, running.counted_after call unserviced⟩
  rw [SentAll, output?_after running.traced, silent, Option.toList_none, List.append_nil]
  exact running.sentAll

/-- What holds once the driver has returned or raised. -/
structure Ended (bio : MemoryBio γ) (start : γ) (retries : Option ℕ)
    (result : Except DriverFailure Bool) (driver : Driver γ) : Prop where
  traced : driver.Traced bio start retries
  sentAll : result ≠ .error .os → driver.SentAll bio start
  completed : result = .ok true ↔ ∃ waits, progressOf bio start driver.calls =
    List.replicate waits (.error .wantRead) ++ [.ok ()]
  ready : result = .ok true → ∃ before, exec bio.doHandshake before = (.ok (), driver.connection)

theorem not_completed {progresses : List (Except DtlsFailure Unit)}
    (waits : ∀ progress ∈ progresses, progress = .error .wantRead) :
    ¬∃ waits, progresses = List.replicate waits (.error .wantRead) ++ [.ok ()] := by
  rintro ⟨count, rfl⟩
  exact absurd (waits (.ok ()) (by simp)) (by simp)

/-- A driver that gives up has not seen the handshake complete. -/
theorem Running.ended (running : driver.Running bio start retries)
    {result : Except DriverFailure Bool} (incomplete : result ≠ .ok true) :
    driver.Ended bio start retries result :=
  ⟨running.traced, fun _ => running.sentAll,
    iff_of_false incomplete (not_completed running.waits), fun complete =>
    absurd complete incomplete⟩

/-- What a pass leaves, by how it ends. -/
def PassLeaves (bio : MemoryBio γ) (start : γ) (retries : Option ℕ) (driver : Driver γ) :
    PassEnd → Prop
  | .goesOn => driver.Running bio start retries
  | .completed => driver.Ended bio start retries (.ok true)
  | .over => driver.Ended bio start retries (.ok false)
  | .failed failure => driver.Ended bio start retries (.error failure)

theorem invoke_eq {α : Type} (call : BioCall) (method : Stateful DtlsFailure γ α)
    (performed : call.perform bio driver.connection = (exec method driver.connection).2) :
    driver.invoke call method = ((exec method driver.connection).1, driver.after bio call) := by
  rw [after, performed]
  rfl

/-- Some records have been sent. -/
def sending (records : List ByteString) (driver : Driver γ) : Driver γ :=
  { driver with wire := driver.wire ++ records.map TranscriptEvent.sent }

theorem received_sending (records : List ByteString) (driver : Driver γ) :
    (driver.sending records).wire.filterMap receivedDatagram =
      driver.wire.filterMap receivedDatagram := by
  rw [sending, List.filterMap_append, List.filterMap_map]
  simp [Function.comp_def, receivedDatagram]

theorem sent_sending (records : List ByteString) (driver : Driver γ) :
    (driver.sending records).wire.filterMap sentRecord =
      driver.wire.filterMap sentRecord ++ records := by
  rw [sending, List.filterMap_append, List.filterMap_map]
  simp [Function.comp_def, sentRecord]

section Sending

variable {call : BioCall} {datagram : ByteString}

/-- What is sent of a datagram is what was read out, as far as it goes. -/
theorem Traced.sending (traced : driver.Traced bio start retries) (serves : call ≠ .handleTimeout)
    (unwritten : call.written? = none)
    (read : call.output? bio driver.connection = some datagram)
    (sentAll : driver.SentAll bio start) (accepted : ℕ) :
    ((driver.after bio call).sending ((splitDtls datagram).take accepted)).Traced
      bio start retries := by
  have after := traced.after call unwritten serves
  refine ⟨after.connection, ?_, ?_, after.serviced⟩
  · rw [received_sending]
    exact after.received
  · have outputs := output?_after traced call
    rw [read, Option.toList_some] at outputs
    rw [sent_sending]
    change driver.wire.filterMap sentRecord ++ _ <+:
      (outputsOf bio start (driver.after bio call).calls).flatMap splitDtls
    rw [sentAll, outputs, List.flatMap_append, List.flatMap_singleton]
    exact (List.prefix_append_right_inj _).mpr (List.take_prefix accepted _)

theorem SentAll.sending (sentAll : driver.SentAll bio start)
    (traced : driver.Traced bio start retries)
    (read : call.output? bio driver.connection = some datagram) {accepted : ℕ}
    (all : ¬accepted < (splitDtls datagram).length) :
    ((driver.after bio call).sending ((splitDtls datagram).take accepted)).SentAll bio start := by
  have outputs := output?_after traced call
  rw [read, Option.toList_some] at outputs
  rw [SentAll, sent_sending, List.take_of_length_le (Nat.le_of_not_lt all)]
  change driver.wire.filterMap sentRecord ++ _ =
    (outputsOf bio start (driver.after bio call).calls).flatMap splitDtls
  rw [sentAll, outputs, List.flatMap_append, List.flatMap_singleton]

end Sending

/-- A flush leaves a driver that goes on, or one that has failed. -/
theorem running_flush (running : driver.Running bio start retries) (accepted : ℕ) :
    match driver.flush bio accepted with
    | (none, flushed) => flushed.Running bio start retries
    | (some failure, flushed) => flushed.Ended bio start retries (.error failure) := by
  have serves : BioCall.bioRead maxDatagramSize ≠ .handleTimeout := by simp
  have output : BioCall.output? bio (.bioRead maxDatagramSize) driver.connection =
      (exec (bio.bioRead maxDatagramSize) driver.connection).1.toOption := rfl
  have unsettled : ∀ progress ∈ BioCall.progress? bio (.bioRead maxDatagramSize) driver.connection,
      progress = .error .wantRead := by simp [BioCall.progress?]
  rw [flush, invoke_eq (.bioRead maxDatagramSize) _ rfl]
  generalize (exec (bio.bioRead maxDatagramSize) driver.connection).1 = read at output ⊢
  cases read with
  | error failure =>
      have after := running.after (.bioRead maxDatagramSize) rfl serves output unsettled
      cases failure with
      | wantRead => exact after
      | zeroReturn => exact after.ended (by simp)
      | dtlsError reason => exact after.ended (by simp)
      | python error => exact after.ended (by simp)
  | ok datagram =>
      have traced := running.traced.sending serves rfl output running.sentAll accepted
      have waits := running.waits_after (.bioRead maxDatagramSize) unsettled
      dsimp only
      by_cases short : accepted < (splitDtls datagram).length
      · rw [if_pos short]
        exact ⟨traced, fun other => absurd rfl other, iff_of_false (by simp) (not_completed waits),
          by simp⟩
      · rw [if_neg short]
        exact ⟨traced, running.sentAll.sending running.traced output short, waits,
          running.counted_after _ serves⟩

theorem SentAll.after (sentAll : driver.SentAll bio start)
    (traced : driver.Traced bio start retries) (call : BioCall)
    (silent : call.output? bio driver.connection = none) :
    (driver.after bio call).SentAll bio start := by
  rw [SentAll, output?_after traced, silent, Option.toList_none, List.append_nil]
  exact sentAll

/-- Servicing the timer once more stays within the limit. -/
theorem Running.serviced (running : driver.Running bio start retries)
    (within : ¬retries.any (driver.retransmits ≥ ·)) :
    (driver.after bio .handleTimeout).Traced bio start retries := by
  refine ⟨?_, ?_, ?_, ?_⟩
  · rw [Driver.after, connectionAfter_concat, ← running.traced.connection]
  · rw [Driver.after, List.filterMap_append, ← running.traced.received]
    simp [BioCall.written?]
  · rw [running.sentAll.after running.traced .handleTimeout rfl]
  · intro limit isLimit
    rw [Driver.after, List.count_append, List.count_singleton, running.counted]
    rw [Option.any_eq_true] at within
    have unused : ¬driver.retransmits ≥ limit := fun reached =>
      within ⟨limit, isLimit, decide_eq_true reached⟩
    simp only [beq_self_eq_true, if_true]
    omega

theorem running_serviceTimer (running : driver.Running bio start retries) :
    PassLeaves bio start retries (driver.serviceTimer bio retries).2
      (driver.serviceTimer bio retries).1 := by
  have after := running.after .getTimeout rfl (by simp) rfl (by simp [BioCall.progress?])
  rw [serviceTimer, invoke_eq .getTimeout _ rfl]
  generalize driver.after bio .getTimeout = asked at after ⊢
  generalize (exec bio.getTimeout driver.connection).1 = answer
  cases answer with
  | error failure => exact after.ended (by simp)
  | ok timer =>
      dsimp only
      by_cases expired : timer.any (· ≤ 0)
      · rw [if_pos expired]
        by_cases exhausted : retries.any (asked.retransmits ≥ ·)
        · rw [if_pos exhausted]
          exact after.ended (by simp)
        · rw [if_neg exhausted, invoke_eq .handleTimeout _ rfl]
          have serviced := after.serviced exhausted
          have sentAll : (asked.after bio .handleTimeout).SentAll bio start :=
            after.sentAll.after after.traced .handleTimeout rfl
          have waits := after.waits_after .handleTimeout (by simp [BioCall.progress?])
          have counted : (asked.after bio .handleTimeout).calls.count .handleTimeout =
              asked.retransmits + 1 := by
            rw [Driver.after, List.count_append, after.counted]
            simp
          generalize (exec bio.handleTimeout asked.connection).1 = result
          cases result with
          | error failure =>
              exact ⟨serviced, fun _ => sentAll, iff_of_false (by simp) (not_completed waits),
                by simp⟩
          | ok value =>
              exact ⟨⟨serviced.connection, serviced.received, serviced.sent, serviced.serviced⟩,
                sentAll, waits, counted⟩
      · rw [if_neg expired]
        exact after

/-- A datagram that the callback has been told of. -/
def hearing (datagram : ByteString) (driver : Driver γ) : Driver γ :=
  { driver with wire := driver.wire ++ [TranscriptEvent.received datagram] }

/-- The connection gets what the callback is told of. -/
theorem Running.heard (running : driver.Running bio start retries) (datagram : ByteString) :
    ((driver.hearing datagram).after bio (.bioWrite datagram)).Running bio start retries := by
  have told : (driver.hearing datagram).wire.filterMap sentRecord =
      driver.wire.filterMap sentRecord := by
    simp [hearing, sentRecord]
  have sentAll := told.trans (running.sentAll.after running.traced (.bioWrite datagram) rfl)
  refine ⟨⟨?_, ?_, ?_, ?_⟩, ?_, ?_, ?_⟩
  · rw [Driver.after, connectionAfter_concat]
    exact congrArg (BioCall.perform bio (.bioWrite datagram)) running.traced.connection
  · simp only [Driver.after, hearing, List.filterMap_append]
    rw [running.traced.received]
    rfl
  · rw [show ((driver.hearing datagram).after bio (.bioWrite datagram)).wire.filterMap sentRecord =
      _ from sentAll]
    exact List.prefix_rfl
  · exact running.traced.serviced_after (.bioWrite datagram) (by simp)
  · exact sentAll
  · exact running.waits_after (.bioWrite datagram) (by simp [BioCall.progress?])
  · exact running.counted_after (.bioWrite datagram) (by simp)

theorem running_receive (running : driver.Running bio start retries) (datagram : ByteString) :
    PassLeaves bio start retries (driver.receive bio datagram).2
      (driver.receive bio datagram).1 := by
  rw [receive]
  by_cases empty : datagram = []
  · rw [if_pos empty]
    exact running
  · have heard := running.heard datagram
    rw [if_neg empty]
    dsimp only
    rw [invoke_eq (.bioWrite datagram) _ rfl]
    generalize (exec (bio.bioWrite datagram) _).1 = result
    cases result with
    | error failure => exact heard.ended (by simp)
    | ok count => exact heard

/-- `do_handshake` has returned. -/
theorem Running.complete (running : driver.Running bio start retries)
    (returned : (exec bio.doHandshake driver.connection).1 = .ok ()) :
    (driver.after bio .doHandshake).Ended bio start retries (.ok true) := by
  refine ⟨running.traced.after .doHandshake rfl (by simp), fun _ => ?_, ?_, fun _ => ?_⟩
  · exact running.sentAll.after running.traced .doHandshake rfl
  · refine iff_of_true rfl ⟨(progressOf bio start driver.calls).length, ?_⟩
    have came : BioCall.progress? bio .doHandshake driver.connection = some (.ok ()) :=
      congrArg some returned
    rw [progress?_after running.traced, came, Option.toList_some,
      ← List.eq_replicate_of_mem running.waits]
  · exact ⟨driver.connection, Prod.ext returned rfl⟩

/-- `do_handshake` has failed for good. -/
theorem Running.refused (running : driver.Running bio start retries) {failure : DtlsFailure}
    (raised : (exec bio.doHandshake driver.connection).1 = .error failure) :
    (driver.after bio .doHandshake).Ended bio start retries (.error (.tls failure)) := by
  have came : BioCall.progress? bio .doHandshake driver.connection = some (.error failure) :=
    congrArg some raised
  refine ⟨running.traced.after .doHandshake rfl (by simp), fun _ => ?_,
    iff_of_false (by simp) ?_, by simp⟩
  · exact running.sentAll.after running.traced .doHandshake rfl
  · rintro ⟨waits, progress⟩
    rw [progress?_after running.traced, came, Option.toList_some] at progress
    simpa using (List.append_inj_right' progress rfl)

theorem running_pass (running : driver.Running bio start retries) (deadline : ℚ)
    (surroundings : DriverPass) :
    PassLeaves bio start retries (driver.pass bio deadline retries surroundings).2
      (driver.pass bio deadline retries surroundings).1 := by
  rw [pass]
  by_cases late : ¬surroundings.clock < deadline
  · rw [if_pos late]
    exact running.ended (by simp)
  rw [if_neg late, invoke_eq .doHandshake _ rfl]
  have complete := running.complete
  have refused := @running.refused
  have waiting : (exec bio.doHandshake driver.connection).1 = .error .wantRead →
      (driver.after bio .doHandshake).Running bio start retries := fun waits =>
    running.after .doHandshake rfl (by simp) rfl (by simp [BioCall.progress?, waits])
  generalize (exec bio.doHandshake driver.connection).1 = result at complete refused waiting ⊢
  cases result with
  | ok value => exact complete rfl
  | error failure =>
      cases failure with
      | wantRead =>
          have flushed := running_flush (waiting rfl) surroundings.accepted
          dsimp only
          generalize flush bio surroundings.accepted (driver.after bio .doHandshake) = outcome
            at flushed ⊢
          rcases outcome with ⟨_ | failure, sent⟩
          · have running : sent.Running bio start retries := flushed
            dsimp only
            by_cases spent : deadline - surroundings.waiting ≤ 0
            · rw [if_pos spent]
              exact running.ended (by simp)
            · rw [if_neg spent]
              cases surroundings.event with
              | woken => exact running.ended (by simp)
              | timedOut => exact running_serviceTimer running
              | failed => exact running.ended (by simp)
              | received datagram => exact running_receive running datagram
          · exact flushed
      | zeroReturn => exact refused rfl
      | dtlsError reason => exact refused rfl
      | python error => exact refused rfl

/-- The loop, by induction on the passes that are left. -/
theorem running_drive (running : driver.Running bio start retries) (deadline : ℚ)
    (passes : List DriverPass) :
    (driver.drive bio deadline retries passes).2.Ended bio start retries
      (driver.drive bio deadline retries passes).1 := by
  induction passes generalizing driver with
  | nil => exact running.ended (by simp [drive])
  | cons surroundings passes ih =>
      have leaves := running_pass running deadline surroundings
      rw [drive]
      generalize driver.pass bio deadline retries surroundings = outcome at leaves ⊢
      rcases outcome with ⟨_ | _ | _ | failure, left⟩
      · exact ih leaves
      · exact leaves
      · exact leaves
      · exact leaves

theorem running_start (bio : MemoryBio γ) (start : γ) (retries : Option ℕ) :
    Running bio start retries ({ connection := start } : Driver γ) where
  traced := ⟨rfl, rfl, List.nil_prefix, fun _ _ => Nat.zero_le _⟩
  sentAll := rfl
  waits := by simp [progressOf, replay]
  counted := rfl

end Driver

/-! ### The calls of the passes -/

namespace Driver

variable {γ : Type} (bio : MemoryBio γ)

end Driver

/-- Whatever the clock, the socket and the peer do, over any connection. -/
theorem driveDtlsHandshake_ended {γ : Type} (bio : MemoryBio γ) (connection : γ) (deadline : ℚ)
    (retries : Option ℕ) (passes : List DriverPass) :
    (driveDtlsHandshake bio connection deadline retries passes).2.Ended bio connection retries
      (driveDtlsHandshake bio connection deadline retries passes).1 :=
  Driver.running_drive (Driver.running_start bio connection retries) deadline passes

/-! ### The engine behind the driver -/

end SmartThingsLocal
