import SmartThingsLocal.Dtls.HandshakeDriver

/-!
# How a handshake ends for the session

`DtlsCoapSession.connect` around the driver: what the callbacks note, which error each end of the
driver is raised as, what becomes of the socket, the one alert that may follow a handshake of
cookies only, and the identity of the peer after a completed handshake.
-/

namespace SmartThingsLocal

open Dtls DtlsPskClient TranscriptEvent

/-- The loop of `_carries_peer_client_hello` from an offset on. -/
def carriesFrom (datagram : ByteString) (offset : ℕ) : Bool :=
  if offset + recordHeader ≤ datagram.length then
    let stop := offset + recordHeader +
      ByteString.toNat ((datagram.drop (offset + 11)).take 2)
    if stop > datagram.length then false
    else
      let fragment := (datagram.drop (offset + recordHeader)).take (stop - (offset + recordHeader))
      if datagram[offset]? = some ctHandshake ∧ (datagram.drop (offset + 3)).take 2 = [0, 0] ∧
          fragment.take 1 = [htClientHello] then true
      else carriesFrom datagram stop
  else false
termination_by datagram.length - offset
decreasing_by
  simp only [recordHeader] at *
  omega

def carriesPeerClientHello (datagram : ByteString) : Bool := carriesFrom datagram 0

/-- The errors that `connect` raises. Those of a connection or a socket that could not be made, and
errors of the interpreter in the handshake, pass through it. -/
inductive ConnectFailure
  | sessionClosed
  | unopened
  | peerInitiatedHandshake
  | session
  | endpoint
  | handshakePeerCleanup
  | sessionTimeout
  | authentication
  | python (error : PythonError)
  deriving DecidableEq, Repr

/-- What the reader of the peer's identity comes to: the provider has none, it raises, or it returns
nothing, a UUID by its number, or something else. -/
inductive IdentityRead
  | unread
  | raised
  | absent
  | uuid (number : Fin (2 ^ 128))
  | other
  deriving DecidableEq

/-- An identity that a session takes. -/
def IdentityRead.Accepted : IdentityRead → Prop
  | .unread | .absent => True
  | .uuid number => number ≠ 0
  | .raised | .other => False

instance : DecidablePred IdentityRead.Accepted := fun identity => by
  cases identity <;> unfold IdentityRead.Accepted <;> infer_instance

/-- What the surroundings do before there is a socket, to the driver, to the wake socket, to the
alert, and after the handshake. -/
structure ConnectWorld where
  cancelled : Bool
  built : Bool
  late : Bool
  opened : Bool
  cancelledOpen : Bool
  subscribed : Bool
  deadline : ℚ
  passes : List DriverPass
  interrupted : Bool
  alertTaken : Bool
  identity : IdentityRead
  closing : Bool

/-- How `connect` ends once there is a wake socket. -/
structure ConnectEnd (γ : Type) where
  result : Except ConnectFailure γ
  driver : Driver γ
  closes : ℕ
  alert : Option ByteString := none
  closeNotify : Bool := false

/-- How `connect` ends, and how often it has opened and closed a socket. -/
structure ConnectCall (γ : Type) where
  result : Except ConnectFailure γ
  opens : ℕ
  closes : ℕ
  handshake : Option (ConnectEnd γ) := none

/-- What `note_received` has noted. -/
def Driver.peerClientHello {γ : Type} (driver : Driver γ) : Bool :=
  (driver.wire.filterMap receivedDatagram).any carriesPeerClientHello

namespace ConnectWorld

variable {γ : Type} (world : ConnectWorld) (driver : Driver γ)

/-- Close the socket and raise; whatever came first, a session that is closing is closed. -/
def refuse (failure : ConnectFailure) : ConnectEnd γ :=
  { result := .error (if world.interrupted then .sessionClosed else failure), driver, closes := 1 }

/-- The deadline has passed. -/
def expire (cleanupHvrPeer : Bool) : ConnectEnd γ :=
  if world.interrupted then world.refuse driver .sessionClosed
  else
    match if cleanupHvrPeer then (transcriptOf driver.wire).cleanupAlert else none with
    | none => world.refuse driver .sessionTimeout
    | some alert =>
        { world.refuse driver
            (if world.alertTaken then .handshakePeerCleanup else .sessionTimeout) with
          alert := some alert }

/-- The handshake has completed: the identity of the peer is read, and the session takes the socket
over unless it is closing. -/
def publish : ConnectEnd γ :=
  if ¬world.identity.Accepted then
    { result := .error .authentication, driver, closes := 1, closeNotify := true }
  else if world.closing then { result := .error .sessionClosed, driver, closes := 1 }
  else { result := .ok driver.connection, driver, closes := 0 }

end ConnectWorld

/-- `connect`, from the wake subscription on. -/
def connectHandshake {γ : Type} (bio : MemoryBio γ) (connection : γ) (cleanupHvrPeer : Bool)
    (world : ConnectWorld) : ConnectEnd γ :=
  match driveDtlsHandshake bio connection world.deadline none world.passes with
  | (.ok true, driver) => world.publish driver
  | (.ok false, driver) => world.expire driver cleanupHvrPeer
  | (.error .cancelled, driver) => world.refuse driver .sessionClosed
  | (.error .os, driver) => world.refuse driver .endpoint
  | (.error (.tls (.python error)), driver) =>
      { result := .error (.python error), driver, closes := 0 }
  | (.error (.tls _), driver) =>
      world.refuse driver
        (if driver.peerClientHello then .peerInitiatedHandshake else .session)

/-- Nothing stops `connect` before its handshake. -/
def ConnectWorld.Ready (world : ConnectWorld) : Prop :=
  world.cancelled = false ∧ world.built = true ∧ world.late = false ∧ world.opened = true ∧
    world.cancelledOpen = false ∧ world.subscribed = true

/-- `connect`, with the connection that it would make. -/
def connect {γ : Type} (bio : MemoryBio γ) (connection : γ) (cleanupHvrPeer : Bool)
    (world : ConnectWorld) : ConnectCall γ :=
  if world.cancelled then ⟨.error .sessionClosed, 0, 0, none⟩
  else if ¬world.built then ⟨.error .unopened, 0, 0, none⟩
  else if world.late then ⟨.error .sessionTimeout, 0, 0, none⟩
  else if ¬world.opened then ⟨.error .unopened, 0, 0, none⟩
  else if world.cancelledOpen then ⟨.error .sessionClosed, 1, 1, none⟩
  else if ¬world.subscribed then ⟨.error .session, 1, 1, none⟩
  else
    let ended := connectHandshake bio connection cleanupHvrPeer world
    ⟨ended.result, 1, ended.closes, some ended⟩

/-! ### A ClientHello of the peer -/

/-- A record in epoch zero whose first message is a ClientHello. -/
def IsPeerClientHello (record : ByteString) : Prop :=
  record[0]? = some ctHandshake ∧ (record.drop 3).take 2 = epochZero ∧
    (record.drop recordHeader).take 1 = [htClientHello]

instance : DecidablePred IsPeerClientHello := fun record => by
  unfold IsPeerClientHello
  infer_instance

/-- What the loop looks at is in the record that it has come to. -/
theorem isPeerClientHello_take (datagram : ByteString) (offset length : ℕ) :
    IsPeerClientHello ((datagram.drop offset).take (recordHeader + length)) ↔
      datagram[offset]? = some ctHandshake ∧ (datagram.drop (offset + 3)).take 2 = [0, 0] ∧
        ((datagram.drop (offset + recordHeader)).take length).take 1 = [htClientHello] := by
  unfold IsPeerClientHello recordHeader
  rw [List.getElem?_take_of_lt (by omega), List.getElem?_drop, Nat.add_zero, List.drop_take,
    List.drop_take, List.take_take, List.drop_drop, List.drop_drop, Nat.add_sub_cancel_left,
    min_eq_left (by omega)]
  rfl

theorem carriesFrom_eq_true_iff (datagram : ByteString) (offset : ℕ) :
    carriesFrom datagram offset = true ↔
      ∃ record ∈ recordsOf (datagram.drop offset), IsPeerClientHello record := by
  have first (offset length : ℕ) :
      offset + recordHeader + length - offset = recordHeader + length := by
    omega
  have rest (offset length : ℕ) :
      offset + recordHeader + length - (offset + recordHeader) = length := by omega
  fun_induction carriesFrom datagram offset with
  | case1 offset headed stop long =>
      rw [recordsOf_drop, if_pos headed, if_pos long]
      simp
  | case2 offset headed stop fits fragment hello =>
      rw [recordsOf_drop, if_pos headed, if_neg fits, List.exists_mem_cons_iff, first,
        isPeerClientHello_take]
      simp only [fragment, stop, rest] at hello
      simp [hello]
  | case3 offset headed stop fits fragment other ih =>
      rw [recordsOf_drop, if_pos headed, if_neg fits, List.exists_mem_cons_iff, first,
        isPeerClientHello_take]
      simp only [fragment, stop, rest] at other
      exact ih.trans (or_iff_right other).symm
  | case4 offset short =>
      rw [recordsOf_drop, if_neg short]
      simp

theorem carriesPeerClientHello_eq_true_iff (datagram : ByteString) :
    carriesPeerClientHello datagram = true ↔
      ∃ record ∈ recordsOf datagram, IsPeerClientHello record :=
  carriesFrom_eq_true_iff datagram 0

/-- What has been exchanged once an alert is sent: cookies only, all of it told to the transcript,
and the alert bears a sequence number that no ClientHello has borne. -/
structure OnlyCookies {γ : Type} (bio : MemoryBio γ) (start : γ) (calls : List BioCall)
    (alert : ByteString) (hellos : List EpochZeroRecord) (challenges : List (List EpochZeroRecord))
    (last : EpochZeroRecord) : Prop where
  sent : (outputsOf bio start calls).flatMap splitDtls = hellos.map EpochZeroRecord.bytes
  handed : calls.filterMap BioCall.written? = challenges.map datagramBytes
  hello : ∀ record ∈ hellos, record.types = [htClientHello]
  challenge : ∀ datagram ∈ challenges, ∀ record ∈ datagram, ∀ msgType ∈ record.types,
    msgType = htHelloVerifyRequest
  last_mem : last ∈ hellos
  last_max : ∀ record ∈ hellos, record.seq ≤ last.seq
  seq_lt : last.seq + 1 < 256 ^ 6
  alert_eq : alert = ctAlert :: (last.version ++ epochZero ++ ByteString.ofNat 6 (last.seq + 1) ++
    [0, 2] ++ [alertFatal, alertHandshakeFailure])

theorem IsLastMaximum.mem {hellos : List EpochZeroRecord} {last : EpochZeroRecord}
    (isLast : IsLastMaximum hellos last) : last ∈ hellos := by
  rcases isLast with ⟨before, after, rfl, -, -⟩
  exact List.mem_append_right _ List.mem_cons_self

theorem IsLastMaximum.le {hellos : List EpochZeroRecord} {last : EpochZeroRecord}
    (isLast : IsLastMaximum hellos last) : ∀ record ∈ hellos, record.seq ≤ last.seq := by
  rcases isLast with ⟨before, after, rfl, below, above⟩
  intro record recordMem
  rcases List.mem_append.mp recordMem with earlier | later
  · exact below record earlier
  · rcases List.mem_cons.mp later with rfl | later
    · exact le_rfl
    · exact (above record later).le

/-- An alert is built on the largest number of a transcript of cookies. -/
theorem onlyCookies_of_cleanupAlert {γ : Type} {bio : MemoryBio γ} {start : γ}
    {retries : Option ℕ} {driver : Driver γ} (traced : driver.Traced bio start retries)
    (sentAll : driver.SentAll bio start) {alert : ByteString}
    (built : (transcriptOf driver.wire).cleanupAlert = some alert) :
    ∃ hellos challenges last, OnlyCookies bio start driver.calls alert hellos challenges last := by
  rw [HvrPeerCleanupTranscript.cleanupAlert] at built
  rcases found : (transcriptOf driver.wire).lastClientHelloHeader with _ | header
  · rw [found] at built
    cases built
  rw [found] at built
  dsimp only at built
  by_cases refused : (transcriptOf driver.wire).invalid ∨
      (transcriptOf driver.wire).sentClientHellos < 2 ∨
      (transcriptOf driver.wire).sentClientHelloAfterHvr = false ∨
      (transcriptOf driver.wire).receivedDatagrams < 1 ∨
      (transcriptOf driver.wire).receivedRecords < 1
  · rw [if_pos refused] at built
    cases built
  rw [if_neg refused] at built
  have valid : (transcriptOf driver.wire).invalid = false := by
    simp only [not_or, Bool.not_eq_true] at refused
    exact refused.1
  rcases hellosOnly_of_valid valid with ⟨hellos, challenges, only⟩
  rcases only.retains.header with ⟨-, absent⟩ | ⟨last, isLast, present⟩
  · rw [absent] at found
    cases found
  rw [found, Option.some.injEq] at present
  subst present
  rw [sequenceOf_header, ByteString.toNat_ofNat last.seq_lt, last.version_header] at built
  by_cases exhausted : last.seq ≥ 2 ^ 48 - 1
  · rw [if_pos exhausted] at built
    cases built
  rw [if_neg exhausted, Option.some.injEq] at built
  exact ⟨hellos, challenges, last, sentAll.symm.trans only.sent,
    traced.received.symm.trans only.received, only.hello, only.challenge, isLast.mem, isLast.le,
    by omega, built.symm⟩

namespace ConnectEnd

variable {γ : Type} {bio : MemoryBio γ} {start : γ} {cleanupHvrPeer : Bool}

/-- The datagrams that the connection has got. -/
def handed (ended : ConnectEnd γ) : List ByteString :=
  ended.driver.calls.filterMap BioCall.written?

/-- `do_handshake` has returned in the end. -/
def Completed (bio : MemoryBio γ) (start : γ) (ended : ConnectEnd γ) : Prop :=
  ∃ waits, progressOf bio start ended.driver.calls =
    List.replicate waits (.error .wantRead) ++ [.ok ()]

/-- What a caller may conclude from how `connect` has ended. -/
structure Sound (bio : MemoryBio γ) (start : γ) (cleanupHvrPeer : Bool) (world : ConnectWorld)
    (ended : ConnectEnd γ) : Prop where
  traced : ended.driver.Traced bio start none
  completed : ∀ connection, ended.result = .ok connection →
    connection = connectionAfter bio start ended.driver.calls ∧ ended.closes = 0 ∧
      ended.Completed bio start ∧ world.identity.Accepted ∧ world.closing = false
  refused : ∀ failure, ended.result = .error failure → (∀ error, failure ≠ .python error) →
    ended.closes = 1
  passed : ∀ error, ended.result = .error (.python error) → ended.closes = 0
  authentication : ended.result = .error .authentication →
    ended.Completed bio start ∧ ¬world.identity.Accepted
  closeNotify : ended.closeNotify = true ↔ ended.result = .error .authentication
  peer : ended.result = .error .peerInitiatedHandshake →
    ∃ datagram ∈ ended.handed, ∃ record ∈ recordsOf datagram, IsPeerClientHello record
  session : ended.result = .error .session →
    ∀ datagram ∈ ended.handed, ∀ record ∈ recordsOf datagram, ¬IsPeerClientHello record
  cleanup : ended.result = .error .handshakePeerCleanup → ended.alert.isSome
  alert : ∀ alert ∈ ended.alert, cleanupHvrPeer = true ∧
    (ended.result = .error .handshakePeerCleanup ∨ ended.result = .error .sessionTimeout) ∧
    ∃ hellos challenges last,
      OnlyCookies bio start ended.driver.calls alert hellos challenges last

theorem peerClientHello_eq_true_iff {driver : Driver γ} (traced : driver.Traced bio start none) :
    driver.peerClientHello = true ↔ ∃ datagram ∈ driver.calls.filterMap BioCall.written?,
      ∃ record ∈ recordsOf datagram, IsPeerClientHello record := by
  rw [Driver.peerClientHello, List.any_eq_true, traced.received]
  simp only [carriesPeerClientHello_eq_true_iff]

/-- A refusal that sends no alert. -/
theorem sound_refuse {driver : Driver γ} (traced : driver.Traced bio start none)
    (world : ConnectWorld) {failure : ConnectFailure}
    (peer : failure = .peerInitiatedHandshake → driver.peerClientHello = true)
    (session : failure = .session → driver.peerClientHello = false)
    (cleanup : failure ≠ .handshakePeerCleanup) (known : failure ≠ .authentication)
    (own : ∀ error, failure ≠ .python error) :
    (world.refuse driver failure).Sound bio start cleanupHvrPeer world := by
  have noted := peerClientHello_eq_true_iff traced
  have raises : (world.refuse driver failure).result = .error .sessionClosed ∨
      (world.refuse driver failure).result = .error failure := by
    unfold ConnectWorld.refuse
    cases world.interrupted with
    | true => exact .inl rfl
    | false => exact .inr rfl
  have only {other : ConnectFailure} (raised : (world.refuse driver failure).result = .error other)
      (open_ : other ≠ .sessionClosed) : failure = other := by
    rcases raises with same | same
    · exact absurd (Except.error.inj (raised.symm.trans same)) open_
    · exact Except.error.inj (same.symm.trans raised)
  refine ⟨traced, fun connection kept => ?_, fun _ _ _ => rfl, fun error raised => ?_,
    fun raised => ?_, ?_, fun raised => ?_, fun raised => ?_, fun raised => ?_, nofun⟩
  · rcases raises with same | same <;> cases same.symm.trans kept
  · exact absurd (only raised (by simp)) (own error)
  · exact absurd (only raised (by simp)) known
  · exact iff_of_false (by simp [ConnectWorld.refuse])
      fun raised => known (only raised (by simp))
  · exact noted.mp (peer (only raised (by simp)))
  · intro datagram datagramMem record recordMem hello
    have seen := noted.mpr ⟨datagram, datagramMem, record, recordMem, hello⟩
    rw [session (only raised (by simp))] at seen
    cases seen
  · exact absurd (only raised (by simp)) cleanup

theorem sound_expire {driver : Driver γ}
    (ended : driver.Ended bio start none (.ok false)) (world : ConnectWorld) :
    (world.expire driver cleanupHvrPeer).Sound bio start cleanupHvrPeer world := by
  unfold ConnectWorld.expire
  by_cases interrupted : world.interrupted = true
  · rw [if_pos interrupted]
    exact sound_refuse ended.traced world (by simp) (by simp) (by simp) (by simp) (by simp)
  rw [if_neg interrupted]
  rcases built : (if cleanupHvrPeer = true then (transcriptOf driver.wire).cleanupAlert else none)
    with _ | alert
  · exact sound_refuse ended.traced world (by simp) (by simp) (by simp) (by simp) (by simp)
  · have wanted : cleanupHvrPeer = true := by
      by_contra unwanted
      rw [if_neg unwanted] at built
      cases built
    rw [if_pos wanted] at built
    have cookies := onlyCookies_of_cleanupAlert ended.traced (ended.sentAll (by simp)) built
    have shown : (world.refuse driver (if world.alertTaken then .handshakePeerCleanup
        else .sessionTimeout)).result = .error .handshakePeerCleanup ∨
      (world.refuse driver (if world.alertTaken then .handshakePeerCleanup
        else .sessionTimeout)).result = .error .sessionTimeout := by
      unfold ConnectWorld.refuse
      rw [if_neg interrupted]
      cases world.alertTaken with
      | true => exact .inl rfl
      | false => exact .inr rfl
    have never {result : Except ConnectFailure γ}
        (raised : (world.refuse driver (if world.alertTaken then .handshakePeerCleanup
          else .sessionTimeout)).result = result)
        (cleanup : result ≠ .error .handshakePeerCleanup)
        (timeout : result ≠ .error .sessionTimeout) : False := by
      rcases shown with same | same
      · exact cleanup (raised.symm.trans same)
      · exact timeout (raised.symm.trans same)
    refine ⟨ended.traced, fun connection kept => (never kept (by simp) (by simp)).elim,
      fun _ _ _ => rfl, fun error raised => (never raised (by simp) (by simp)).elim,
      fun raised => (never raised (by simp) (by simp)).elim,
      iff_of_false (by simp [ConnectWorld.refuse]) fun raised => never raised (by simp) (by simp),
      fun raised => (never raised (by simp) (by simp)).elim,
      fun raised => (never raised (by simp) (by simp)).elim, fun _ => rfl, fun sent isSent => ?_⟩
    rcases Option.some.inj isSent with rfl
    exact ⟨wanted, shown, cookies⟩

/-- The connection has failed. -/
theorem sound_backend {driver : Driver γ} (traced : driver.Traced bio start none)
    (world : ConnectWorld) :
    (world.refuse driver (if driver.peerClientHello then .peerInitiatedHandshake
      else .session)).Sound bio start cleanupHvrPeer world := by
  apply sound_refuse traced world
  all_goals cases driver.peerClientHello <;> simp

/-- A completed handshake, and what follows it. -/
theorem sound_publish {driver : Driver γ} (ended : driver.Ended bio start none (.ok true))
    (world : ConnectWorld) :
    (world.publish driver).Sound bio start cleanupHvrPeer world := by
  unfold ConnectWorld.publish
  by_cases accepted : world.identity.Accepted
  · rw [if_neg (not_not.mpr accepted)]
    cases closing : world.closing with
    | true =>
        exact ⟨ended.traced, nofun, fun _ _ _ => rfl, nofun, nofun,
          iff_of_false (by simp) (by simp), nofun, nofun, nofun, nofun⟩
    | false =>
        refine ⟨ended.traced, fun connection kept => ?_, nofun, nofun, nofun,
          iff_of_false (by simp) (by simp), nofun, nofun, nofun, nofun⟩
        rcases Except.ok.inj kept with rfl
        exact ⟨ended.traced.connection, rfl, ended.completed.mp rfl, accepted, closing⟩
  · rw [if_pos accepted]
    exact ⟨ended.traced, nofun, fun _ _ _ => rfl, nofun,
      fun _ => ⟨ended.completed.mp rfl, accepted⟩, iff_of_true rfl rfl, nofun, nofun, nofun, nofun⟩

end ConnectEnd

theorem connectHandshake_sound {γ : Type} (bio : MemoryBio γ) (start : γ) (cleanupHvrPeer : Bool)
    (world : ConnectWorld) :
    (connectHandshake bio start cleanupHvrPeer world).Sound bio start cleanupHvrPeer world := by
  have ended := driveDtlsHandshake_ended bio start world.deadline none world.passes
  unfold connectHandshake
  generalize driveDtlsHandshake bio start world.deadline none world.passes = outcome at ended ⊢
  rcases outcome with ⟨(_ | failure | _) | (_ | _), driver⟩
  · exact ConnectEnd.sound_refuse ended.traced world (by simp) (by simp) (by simp) (by simp)
      (by simp)
  · cases failure with
    | wantRead => exact ConnectEnd.sound_backend ended.traced world
    | zeroReturn => exact ConnectEnd.sound_backend ended.traced world
    | dtlsError reason => exact ConnectEnd.sound_backend ended.traced world
    | python error =>
        exact ⟨ended.traced, nofun, fun failure raised own => by
          cases raised
          exact absurd rfl (own error), fun _ _ => rfl, nofun, iff_of_false (by simp) (by simp),
          nofun, nofun, nofun, nofun⟩
  · exact ConnectEnd.sound_refuse ended.traced world (by simp) (by simp) (by simp) (by simp)
      (by simp)
  · exact ConnectEnd.sound_expire ended world
  · exact ConnectEnd.sound_publish ended world

/-- The driver has ended with an `SSL.Error`. -/
def DriverFailure.IsBackend : DriverFailure → Prop
  | .tls (.python _) => False
  | .tls _ => True
  | .cancelled | .os => False

namespace ConnectWorld

variable {γ : Type} (world : ConnectWorld) (driver : Driver γ)

theorem expire_result (cleanupHvrPeer : Bool) :
    (world.expire driver cleanupHvrPeer).result = .error .sessionClosed ∨
      (world.expire driver cleanupHvrPeer).result = .error .handshakePeerCleanup ∨
      (world.expire driver cleanupHvrPeer).result = .error .sessionTimeout := by
  unfold expire refuse
  by_cases interrupted : world.interrupted = true
  · rw [if_pos interrupted]
    exact .inl (by rw [if_pos interrupted])
  · simp only [if_neg interrupted]
    cases (if cleanupHvrPeer then (transcriptOf driver.wire).cleanupAlert else none) with
    | none => exact .inr (.inr rfl)
    | some alert =>
        cases world.alertTaken with
        | true => exact .inr (.inl rfl)
        | false => exact .inr (.inr rfl)

theorem publish_kept_iff :
    (∃ connection, (world.publish driver).result = .ok connection) ↔
      world.identity.Accepted ∧ world.closing = false := by
  unfold publish
  by_cases accepted : world.identity.Accepted <;> cases world.closing <;> simp [accepted]

theorem publish_ne_peerInitiated :
    (world.publish driver).result ≠ .error .peerInitiatedHandshake := by
  unfold publish
  split_ifs <;> simp

theorem refuse_backend_iff :
    (world.refuse driver (if driver.peerClientHello then .peerInitiatedHandshake
      else .session)).result = .error .peerInitiatedHandshake ↔
      world.interrupted = false ∧ driver.peerClientHello = true := by
  unfold refuse
  cases world.interrupted <;> cases driver.peerClientHello <;> simp

theorem refuse_ne_peerInitiated {failure : ConnectFailure}
    (other : failure ≠ .peerInitiatedHandshake) :
    (world.refuse driver failure).result ≠ .error .peerInitiatedHandshake := by
  unfold refuse
  cases world.interrupted <;> simp [other]

end ConnectWorld

/-- A session is kept after a completed handshake with an accepted identity, unless it is
closing. -/
theorem connectHandshake_kept_iff {γ : Type} (bio : MemoryBio γ) (start : γ) (cleanupHvrPeer : Bool)
    (world : ConnectWorld) :
    (∃ connection, (connectHandshake bio start cleanupHvrPeer world).result = .ok connection) ↔
      (driveDtlsHandshake bio start world.deadline none world.passes).1 = .ok true ∧
        world.identity.Accepted ∧ world.closing = false := by
  unfold connectHandshake
  generalize driveDtlsHandshake bio start world.deadline none world.passes = outcome
  rcases outcome with ⟨(_ | failure | _) | (_ | _), driver⟩
  · simp [ConnectWorld.refuse]
  · cases failure <;> simp [ConnectWorld.refuse]
  · simp [ConnectWorld.refuse]
  · rcases world.expire_result driver cleanupHvrPeer with same | same | same <;> simp [same]
  · exact (world.publish_kept_iff driver).trans (by simp)

/-- The peer has opened a handshake of its own when the connection fails after a ClientHello of
it. -/
theorem connectHandshake_peer_iff {γ : Type} (bio : MemoryBio γ) (start : γ) (cleanupHvrPeer : Bool)
    (world : ConnectWorld) :
    (connectHandshake bio start cleanupHvrPeer world).result = .error .peerInitiatedHandshake ↔
      (∃ failure, (driveDtlsHandshake bio start world.deadline none world.passes).1 =
        .error failure ∧ failure.IsBackend) ∧ world.interrupted = false ∧
      (driveDtlsHandshake bio start world.deadline none world.passes).2.peerClientHello = true := by
  unfold connectHandshake
  generalize driveDtlsHandshake bio start world.deadline none world.passes = outcome
  rcases outcome with ⟨(_ | failure | _) | (_ | _), driver⟩
  · exact iff_of_false (world.refuse_ne_peerInitiated driver (by simp))
      (by simp [DriverFailure.IsBackend])
  · cases failure with
    | python error => simp [DriverFailure.IsBackend]
    | wantRead => exact (world.refuse_backend_iff driver).trans (by simp [DriverFailure.IsBackend])
    | zeroReturn =>
        exact (world.refuse_backend_iff driver).trans (by simp [DriverFailure.IsBackend])
    | dtlsError reason =>
        exact (world.refuse_backend_iff driver).trans (by simp [DriverFailure.IsBackend])
  · exact iff_of_false (world.refuse_ne_peerInitiated driver (by simp))
      (by simp [DriverFailure.IsBackend])
  · refine iff_of_false (fun raised => ?_) (by simp)
    rcases world.expire_result driver cleanupHvrPeer with same | same | same <;>
      simp [same] at raised
  · exact iff_of_false (world.publish_ne_peerInitiated driver) (by simp)

/-- `connect` up to its handshake. -/
theorem connect_cases {γ : Type} (bio : MemoryBio γ) (start : γ) (cleanupHvrPeer : Bool)
    (world : ConnectWorld) :
    (world.Ready ∧ connect bio start cleanupHvrPeer world =
      ⟨(connectHandshake bio start cleanupHvrPeer world).result, 1,
        (connectHandshake bio start cleanupHvrPeer world).closes,
        some (connectHandshake bio start cleanupHvrPeer world)⟩) ∨
    (¬world.Ready ∧ ∃ failure sockets, connect bio start cleanupHvrPeer world =
        ⟨.error failure, sockets, sockets, none⟩ ∧
      (failure = .sessionClosed ∨ failure = .unopened ∨ failure = .sessionTimeout ∨
        failure = .session)) := by
  unfold connect ConnectWorld.Ready
  cases world.cancelled <;> cases world.built <;> cases world.late <;> cases world.opened <;>
    cases world.cancelledOpen <;> cases world.subscribed <;> simp

/-- Over any connection, whatever the clock, the socket and the peer do: a socket that has been
opened is closed once where `connect` raises an error of its own, and is left open where the session
keeps it or an error of the interpreter leaves the handshake. A session is kept just after a
completed handshake with an identity that is accepted, unless it is closing; a peer is said to have
opened a handshake of its own just when the connection fails after a datagram of it that does; and
the alert follows an exchange of cookies only, under a new number. -/
theorem connect_reports {γ : Type} (bio : MemoryBio γ) (start : γ) (cleanupHvrPeer : Bool)
    (world : ConnectWorld) :
    let call := connect bio start cleanupHvrPeer world
    let driven := driveDtlsHandshake bio start world.deadline none world.passes
    (∀ ended ∈ call.handshake, ended.Sound bio start cleanupHvrPeer world ∧
      call.result = ended.result) ∧
    ((∃ connection, call.result = .ok connection) ↔ world.Ready ∧ driven.1 = .ok true ∧
      world.identity.Accepted ∧ world.closing = false) ∧
    (∀ connection, call.result = .ok connection → call.opens = 1 ∧ call.closes = 0) ∧
    (∀ failure, call.result = .error failure → (∀ error, failure ≠ .python error) →
      call.closes = call.opens) ∧
    (∀ error, call.result = .error (.python error) → call.opens = 1 ∧ call.closes = 0) ∧
    (call.result = .error .peerInitiatedHandshake ↔ world.Ready ∧
      (∃ failure, driven.1 = .error failure ∧ failure.IsBackend) ∧ world.interrupted = false ∧
      ∃ datagram ∈ driven.2.calls.filterMap BioCall.written?,
        ∃ record ∈ recordsOf datagram, IsPeerClientHello record) ∧
    (call.result = .error .handshakePeerCleanup → ∃ ended ∈ call.handshake,
      ∃ alert ∈ ended.alert, ∃ hellos challenges last,
        OnlyCookies bio start ended.driver.calls alert hellos challenges last) := by
  intro call driven
  have sound := connectHandshake_sound bio start cleanupHvrPeer world
  have noted := ConnectEnd.peerClientHello_eq_true_iff
    (driveDtlsHandshake_ended bio start world.deadline none world.passes).traced
  rcases connect_cases bio start cleanupHvrPeer world with
    ⟨ready, same⟩ | ⟨unready, failure, sockets, same, early⟩
  · have called : call = _ := same
    rw [called]
    refine ⟨?_, ?_, fun connection kept => ?_, sound.refused, fun error raised => ?_, ?_,
      fun raised => ?_⟩
    · rintro _ ⟨⟩
      exact ⟨sound, rfl⟩
    · exact (connectHandshake_kept_iff bio start cleanupHvrPeer world).trans
        (and_iff_right ready).symm
    · exact ⟨rfl, (sound.completed connection kept).2.1⟩
    · exact ⟨rfl, sound.passed error raised⟩
    · rw [← noted, and_iff_right ready]
      exact connectHandshake_peer_iff bio start cleanupHvrPeer world
    · rcases Option.isSome_iff_exists.mp (sound.cleanup raised) with ⟨alert, sent⟩
      rcases sound.alert alert sent with ⟨-, -, cookies⟩
      exact ⟨_, rfl, alert, sent, cookies⟩
  · have called : call = _ := same
    rw [called]
    refine ⟨nofun, iff_of_false nofun fun kept => unready kept.1, nofun, fun _ _ _ => rfl,
      fun error raised => ?_, iff_of_false (fun raised => ?_) fun peer => unready peer.1,
      fun raised => ?_⟩
    all_goals
      cases raised
      simp at early

end SmartThingsLocal
