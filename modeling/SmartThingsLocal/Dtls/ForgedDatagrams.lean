import SmartThingsLocal.Dtls.EstablishedSession

/-!
# Forged datagrams

An established session is read by handing over each datagram with `bio_write` and calling
`recv` until it raises. Datagrams without an authentic record can be put in anywhere: what
the calls return and raise for the others, and the client at the end, stay the same.
-/

namespace SmartThingsLocal

open Dtls Stateful

/-- An inbound datagram, and whether it is put in. -/
structure Arrival where
  injected : Bool
  datagram : ByteString
  deriving DecidableEq, Repr

/-- What the calls after an arrival return, and what the last of them raises. -/
structure Outcome where
  injected : Bool
  payloads : List ByteString
  raised : Option DtlsFailure
  deriving DecidableEq, Repr

/-- An injected datagram returns nothing, and raises what was raised before it. -/
def Outcome.Repeats (previous outcome : Outcome) : Prop :=
  outcome.injected = true → outcome.payloads = [] ∧ outcome.raised = previous.raised

namespace DtlsPskClient

/-- The default of `recv`. -/
def recvCapacity : ℕ := 65535

variable (primitives : Primitives)

/-- No record of the datagram authenticates. -/
def Forged (client : DtlsPskClient) (datagram : ByteString) : Prop :=
  ∀ record ∈ recordsOf datagram, client.authenticates primitives record = false

instance (client : DtlsPskClient) (datagram : ByteString) :
    Decidable (client.Forged primitives datagram) :=
  inferInstanceAs (Decidable (∀ record ∈ recordsOf datagram, _))

/-- Call `recv` until it raises, at most so many times. -/
def recvAll : ℕ → DtlsPskClient → (List ByteString × Option DtlsFailure) × DtlsPskClient
  | 0, client => (([], none), client)
  | count + 1, client =>
      match exec (recv primitives recvCapacity) client with
      | (.error failure, after) => (([], some failure), after)
      | (.ok payload, after) =>
          let rest := recvAll count after
          ((payload :: rest.1.1, rest.1.2), rest.2)

/-- A bound for the calls: each one that returns takes an octet or a payload off the queues. -/
def backlog (client : DtlsPskClient) : ℕ :=
  client.queuedOctets + (client.inbox.map List.length).sum + 1

/-- Drain the queues. -/
def drained (injected : Bool) (client : DtlsPskClient) : Outcome × DtlsPskClient :=
  let result := recvAll primitives client.backlog client
  (⟨injected, result.1.1, result.1.2⟩, result.2)

/-- Hand over the datagrams, each with a `bio_write`, and drain the queues after each. -/
def deliver : List Arrival → DtlsPskClient → List Outcome × DtlsPskClient
  | [], client => ([], client)
  | arrival :: arrivals, client =>
      let first := drained primitives arrival.injected (exec (bioWrite arrival.datagram) client).2
      let rest := deliver arrivals first.2
      (first.1 :: rest.1, rest.2)

/-- Drain the queues once, and deliver. -/
def observe (arrivals : List Arrival) (client : DtlsPskClient) : List Outcome × DtlsPskClient :=
  let first := drained primitives false client
  let rest := deliver primitives arrivals first.2
  (first.1 :: rest.1, rest.2)

/-! ### Draining -/

/-- What `recv` raises when nothing is queued. -/
def status (client : DtlsPskClient) : DtlsFailure :=
  if client.failed.isSome then .dtlsError (client.failed.getD "")
  else if client.peerClosed then .zeroReturn
  else .wantRead

variable {primitives} {transform : Transform} {client : DtlsPskClient}

theorem exec_returnQueued_nil (empty : client.appdata = []) (capacity : ℕ) :
    exec (returnQueued capacity) client = (.error client.status, client) := by
  unfold returnQueued status
  rw [exec_get_bind, empty]
  dsimp only
  split_ifs <;> rfl

theorem exec_recv_of_inbox (empty : client.inbox = []) (capacity : ℕ) :
    exec (recv primitives capacity) client = exec (returnQueued capacity) client := by
  have idle : exec (drain primitives) client = (.ok (), client) := by
    unfold drain
    rw [exec_get_bind, empty]
    rfl
  unfold recv
  rw [exec_get_bind, exec_bind]
  unfold when
  split_ifs
  · rw [idle]
  · rfl

theorem exec_recv_of_drain {after : DtlsPskClient} (empty : client.appdata = [])
    (drains : exec (drain primitives) client = (.ok (), after)) (capacity : ℕ) :
    exec (recv primitives capacity) client = exec (returnQueued capacity) after := by
  unfold recv
  rw [exec_get_bind, exec_bind]
  unfold when
  rw [if_pos empty, drains]

/-- A client whose queued payloads have been returned. -/
def emptied (client : DtlsPskClient) (payloads : List ByteString) : DtlsPskClient :=
  { client with
    appdata := []
    history := { client.history with returned := client.history.returned ++ payloads } }

variable (primitives) in
theorem recvAll_of_inbox {count : ℕ} (empty : client.inbox = [])
    (enough : client.queuedOctets < count) :
    ∃ payloads, recvAll primitives count client =
      ((payloads, some client.status), client.emptied payloads) := by
  induction count generalizing client with
  | zero => omega
  | succ count ih =>
      unfold recvAll
      rw [exec_recv_of_inbox empty]
      rcases queued : client.appdata with _ | ⟨payload, rest⟩
      · rw [exec_returnQueued_nil queued]
        refine ⟨[], ?_⟩
        rw [emptied, List.append_nil, ← queued]
      · have octets : client.queuedOctets = payload.length + 1 +
            (rest.map (·.length + 1)).sum := by
          rw [queuedOctets, queued, List.map_cons, List.sum_cons]
        unfold returnQueued
        rw [exec_get_bind, queued]
        dsimp only
        split_ifs with long
        · have shorter : ({ client with
              appdata := payload.drop recvCapacity :: rest
              history := { client.history with
                returned := client.history.returned ++ [payload.take recvCapacity] } } :
              DtlsPskClient).queuedOctets < count := by
            rw [octets] at enough
            simp only [queuedOctets, List.map_cons, List.sum_cons, List.length_drop]
            simp only [recvCapacity] at long ⊢
            omega
          rcases ih (by exact empty) shorter with ⟨payloads, same⟩
          rw [exec_set_bind, exec_pure]
          dsimp only
          rw [same]
          refine ⟨_, congrArg _ ?_⟩
          simp [emptied]
        · have shorter : ({ client with
              appdata := rest
              history := { client.history with
                returned := client.history.returned ++ [payload] } } :
              DtlsPskClient).queuedOctets < count := by
            rw [octets] at enough
            simp only [queuedOctets]
            omega
          rcases ih (by exact empty) shorter with ⟨payloads, same⟩
          rw [exec_set_bind, exec_pure]
          dsimp only
          rw [same]
          refine ⟨_, congrArg _ ?_⟩
          simp [emptied]

theorem recvAll_nil {count : ℕ} (inbox : client.inbox = []) (appdata : client.appdata = []) :
    recvAll primitives (count + 1) client = (([], some client.status), client) := by
  unfold recvAll
  rw [exec_recv_of_inbox inbox, exec_returnQueued_nil appdata]

theorem recvAll_of_drain {after : DtlsPskClient} (count : ℕ) (empty : client.appdata = [])
    (drains : exec (drain primitives) client = (.ok (), after)) (inbox : after.inbox = []) :
    recvAll primitives (count + 1) client = recvAll primitives (count + 1) after := by
  unfold recvAll
  rw [exec_recv_of_drain empty drains, exec_recv_of_inbox inbox]

/-! ### Delivery -/

/-- A session with nothing queued. -/
structure Quiet (transform : Transform) (client : DtlsPskClient) : Prop
    extends Session transform client where
  inbox : client.inbox = []
  appdata : client.appdata = []

variable (primitives) in
/-- Draining after a datagram leaves a quiet session, and after a forged one the client it was. -/
theorem drained_datagram (quiet : Quiet transform client) (injected : Bool)
    (datagram : ByteString) :
    ∃ payloads final, drained primitives injected (exec (bioWrite datagram) client).2 =
        (⟨injected, payloads, some final.status⟩, final) ∧ Quiet transform final ∧
      (client.Forged primitives datagram → payloads = [] ∧ final = client) := by
  have written : (exec (bioWrite datagram) client).2 = { client with inbox := [datagram] } := by
    unfold bioWrite
    rw [exec_get_bind, quiet.inbox]
    rfl
  have session : Session transform { client with inbox := [datagram] } :=
    { quiet.toSession with }
  rcases drain_session primitives session rfl with
    ⟨after, drains, received, unchanged⟩
  rw [written]
  unfold drained
  have counted : ({ client with inbox := [datagram] } : DtlsPskClient).backlog =
      datagram.length + 1 := by
    simp [backlog, queuedOctets, quiet.appdata]
  rw [counted, recvAll_of_drain datagram.length (by exact quiet.appdata) drains
    received.inbox]
  have enough : after.queuedOctets < datagram.length + 1 := by
    have queued := received.queued
    simp only [queuedOctets, quiet.appdata, List.map_nil, List.sum_nil] at queued ⊢
    omega
  rcases recvAll_of_inbox primitives received.inbox enough with ⟨payloads, returned⟩
  rw [returned]
  refine ⟨payloads, after.emptied payloads, rfl,
    { received.session with inbox := received.inbox, appdata := rfl }, fun forged => ?_⟩
  have same : after = client := by
    have restored := unchanged forged
    rw [← quiet.inbox] at restored
    exact restored
  rw [same, recvAll_nil quiet.inbox quiet.appdata, Prod.mk.injEq, Prod.mk.injEq] at returned
  rw [same, ← returned.1.1]
  exact ⟨rfl, by rw [emptied, List.append_nil, ← quiet.appdata]⟩

theorem authenticates_of_session {other : DtlsPskClient} (session : Session transform client)
    (same : Session transform other) (record : ByteString) :
    other.authenticates primitives record = client.authenticates primitives record := by
  unfold authenticates
  rw [session.keyed, same.keyed]

theorem forged_of_session {other : DtlsPskClient} {datagram : ByteString}
    (forged : client.Forged primitives datagram) (session : Session transform client)
    (same : Session transform other) : other.Forged primitives datagram := by
  intro record member
  rw [authenticates_of_session session same]
  exact forged record member

/-- What two deliveries have in common when one has the datagrams of the other and forged ones. -/
structure Agree (mixed genuine : List Outcome × DtlsPskClient) (previous : Outcome) : Prop where
  client : mixed.2 = genuine.2
  outcomes : mixed.1.filter (fun outcome => !outcome.injected) = genuine.1
  payloads : mixed.1.flatMap Outcome.payloads = genuine.1.flatMap Outcome.payloads
  repeats : (previous :: mixed.1).IsChain Outcome.Repeats
  raises : ∀ outcome ∈ mixed.1, outcome.raised.isSome = true

theorem deliver_agree (quiet : Quiet transform client) {previous : Outcome}
    (raised : previous.raised = some client.status) {arrivals : List Arrival}
    (forged : ∀ arrival ∈ arrivals, arrival.injected = true →
      client.Forged primitives arrival.datagram) :
    Agree (deliver primitives arrivals client)
      (deliver primitives (arrivals.filter fun arrival => !arrival.injected) client) previous := by
  induction arrivals generalizing client previous with
  | nil => exact ⟨rfl, rfl, rfl, List.isChain_singleton previous, nofun⟩
  | cons arrival arrivals ih =>
      rcases List.forall_mem_cons.mp forged with ⟨first, rest⟩
      rcases drained_datagram primitives quiet arrival.injected arrival.datagram
        with ⟨payloads, final, drains, quietFinal, unchanged⟩
      have forgedRest : ∀ arrival ∈ arrivals, arrival.injected = true →
          final.Forged primitives arrival.datagram := fun arrival member injected =>
        forged_of_session (rest arrival member injected) quiet.toSession quietFinal.toSession
      have agree : Agree (deliver primitives arrivals final)
          (deliver primitives (arrivals.filter fun arrival => !arrival.injected) final)
          ⟨arrival.injected, payloads, some final.status⟩ := ih quietFinal rfl forgedRest
      have head : deliver primitives (arrival :: arrivals) client =
          (⟨arrival.injected, payloads, some final.status⟩ ::
            (deliver primitives arrivals final).1, (deliver primitives arrivals final).2) := by
        rw [deliver, drains]
      rw [head]
      cases injected : arrival.injected with
      | true =>
          rcases unchanged (first injected) with ⟨none, same⟩
          subst same none
          rw [injected] at agree
          rw [List.filter_cons_of_neg (by simp [injected])]
          refine ⟨agree.client, by simpa using agree.outcomes, by simpa using agree.payloads,
            ?_, ?_⟩
          · exact List.isChain_cons_cons.mpr ⟨fun _ => ⟨rfl, raised.symm⟩, agree.repeats⟩
          · exact List.forall_mem_cons.mpr ⟨rfl, agree.raises⟩
      | false =>
          rw [injected] at agree
          rw [List.filter_cons_of_pos (by simp [injected]), deliver, drains, injected]
          refine ⟨agree.client, ?_, ?_, ?_, ?_⟩
          · rw [List.filter_cons_of_pos (by rfl), agree.outcomes]
          · rw [List.flatMap_cons, List.flatMap_cons, agree.payloads]
          · exact List.isChain_cons_cons.mpr ⟨nofun, agree.repeats⟩
          · exact List.forall_mem_cons.mpr ⟨rfl, agree.raises⟩

/-- A client whose session is established has its record keys and its window. -/
theorem session_of_reached {identity key : ByteString} {mtu : ℕ} {fresh : DtlsPskClient}
    (created : create identity key mtu = .ok fresh) (calls : List PskCall)
    (reached : client = Machine.run (PskCall.perform primitives) calls fresh)
    (established : client.state = .established) :
    ∃ transform, Session transform client := by
  have sound : client.handshake.Sound primitives := by
    rw [reached]
    exact Handshake.path_sound (walks_run primitives calls fresh) (sound_of_created created)
  rcases sound.keyed established with ⟨active, keyed, windowed⟩
  rcases Option.isSome_iff_exists.mp keyed with ⟨transform, keyed⟩
  exact ⟨transform, established, active, keyed, OrderedDict.contains_iff.mp windowed⟩

theorem observe_agree (session : Session transform client) (inbox : client.inbox = [])
    {arrivals : List Arrival}
    (forged : ∀ arrival ∈ arrivals, arrival.injected = true →
      client.Forged primitives arrival.datagram) :
    ∃ previous rest others, client.observe primitives arrivals = (previous :: rest.1, rest.2) ∧
      client.observe primitives (arrivals.filter fun arrival => !arrival.injected) =
        (previous :: others.1, others.2) ∧
      previous.injected = false ∧ previous.raised.isSome = true ∧
      Agree rest others previous := by
  have enough : client.queuedOctets < client.backlog := by
    simp [backlog, inbox]
  rcases recvAll_of_inbox primitives inbox enough with ⟨payloads, returned⟩
  have drains : drained primitives false client =
      (⟨false, payloads, some client.status⟩, client.emptied payloads) := by
    rw [drained, returned]
  have quiet : Quiet transform (client.emptied payloads) :=
    { session with inbox := inbox, appdata := rfl }
  refine ⟨_, _, _, rfl, rfl, ?_⟩
  rw [drains]
  refine ⟨rfl, rfl, deliver_agree quiet rfl fun arrival member injected => ?_⟩
  exact forged_of_session (forged arrival member injected) session quiet.toSession

end DtlsPskClient

/--
An established session that has not failed is read the same with forged datagrams put in
anywhere: the outcomes of the others and the client are the same, and each forged one repeats
what was raised before it.
-/
theorem forged_datagrams_leave_no_trace (primitives : Primitives) {identity key : ByteString}
    {mtu : ℕ} {fresh : DtlsPskClient} (created : DtlsPskClient.create identity key mtu = .ok fresh)
    (calls : List PskCall) {client : DtlsPskClient}
    (reached : client = Machine.run (PskCall.perform primitives) calls fresh)
    (established : client.state = .established) (inbox : client.inbox = [])
    {arrivals : List Arrival}
    (forged : ∀ arrival ∈ arrivals, arrival.injected = true →
      client.Forged primitives arrival.datagram) :
    let mixed := client.observe primitives arrivals
    let genuine := client.observe primitives (arrivals.filter fun arrival => !arrival.injected)
    mixed.2 = genuine.2 ∧
      mixed.1.filter (fun outcome => !outcome.injected) = genuine.1 ∧
      mixed.1.flatMap Outcome.payloads = genuine.1.flatMap Outcome.payloads ∧
      mixed.1.IsChain Outcome.Repeats ∧ ∀ outcome ∈ mixed.1, outcome.raised.isSome = true := by
  intro mixed genuine
  rcases DtlsPskClient.session_of_reached created calls reached established with
    ⟨transform, session⟩
  rcases DtlsPskClient.observe_agree session inbox forged with
    ⟨previous, rest, others, mixedRun, genuineRun, notInjected, raised, agree⟩
  simp only [mixed, genuine, mixedRun, genuineRun]
  refine ⟨agree.client, ?_, ?_, agree.repeats, List.forall_mem_cons.mpr ⟨raised, agree.raises⟩⟩
  · rw [List.filter_cons_of_pos (by simp [notInjected]), agree.outcomes]
  · rw [List.flatMap_cons, List.flatMap_cons, agree.payloads]

open Recording in
/-- A plaintext alert before a payload, and a record that was tampered with after it. -/
theorem forged_datagrams_leave_no_trace_example :
    let primitives := sample.primitives
    let fresh : DtlsPskClient := { identity := Sample.identity, psk := Sample.psk }
    let calls : List PskCall :=
      [.doHandshake, .bioWrite (Sample.record ctHandshake 0 0 Sample.serverMessages), .doHandshake,
        .bioWrite (Sample.record ctChangeCipherSpec 0 1 [1] ++
          Sample.protectedRecord ctHandshake 0 1), .doHandshake]
    let client := Machine.run (PskCall.perform primitives) calls fresh
    let arrivals : List Arrival :=
      [⟨true, Sample.record ctAlert 0 2 [alertFatal, 40]⟩,
        ⟨false, Sample.protectedRecord ctApplicationData 1 2⟩,
        ⟨true, Sample.protectedRecord ctApplicationData 9 3⟩]
    let mixed := client.observe primitives arrivals
    let genuine := client.observe primitives (arrivals.filter fun arrival => !arrival.injected)
    genuine.1.flatMap Outcome.payloads = [[5, 6]] ∧ mixed.2 = genuine.2 ∧
      mixed.1.filter (fun outcome => !outcome.injected) = genuine.1 ∧
      mixed.1.flatMap Outcome.payloads = genuine.1.flatMap Outcome.payloads ∧
      mixed.1.IsChain Outcome.Repeats ∧ ∀ outcome ∈ mixed.1, outcome.raised.isSome = true := by
  intro primitives fresh calls client arrivals mixed genuine
  have created : DtlsPskClient.create Sample.identity Sample.psk 1400 = .ok fresh := rfl
  have facts : genuine.1.flatMap Outcome.payloads = [[5, 6]] ∧ client.state = .established ∧
      client.inbox = [] ∧ ∀ arrival ∈ arrivals, arrival.injected = true →
        client.Forged primitives arrival.datagram := by decide +kernel
  rcases facts with ⟨payloads, established, inbox, forged⟩
  exact ⟨payloads, forged_datagrams_leave_no_trace primitives created calls rfl established inbox
    forged⟩

end SmartThingsLocal
