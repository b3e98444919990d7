import LibcoRpc.Net.Provenance
import LibcoRpc.Rpc.Interface

/-!
# Servers are honest

Every step of the network keeps everything traced to a call. So the assumption under which
responses were paired with calls in one process, that servers answer a request at most once,
on its session and to its coroutine, holds of every process of the network: it is what the
code at the other end does.
-/

namespace LibcoRpc.Net

open LibcoRpc.Std
open LibcoRpc.Rpc
open NetPacket

variable {Msg : Type} {d : Deployment Msg} {net net' : Network Msg}

/-! ## The invariant along a step -/

/-- As long as nothing is sent, what was sent stays explained. -/
theorem Accounted.kept (accounted : Accounted d net) (grows : net.Grows net')
    (carries : ∀ endpoint, Link.Carries d.limits (net'.link endpoint))
    (purposes : net'.purposes = net.purposes)
    (accepted : ∀ endpoint, (net'.link endpoint).accepted = (net.link endpoint).accepted) :
    Accounted d net' where
  carries := carries
  counted endpoint := by rw [purposes, accepted, accounted.counted]
  explained endpoint index why packet purpose isPacket := by
    rw [purposes] at purpose
    rw [accepted] at isPacket
    exact (accounted.explained endpoint index why packet purpose isPacket).extends
      (grows.processes endpoint.1)
  once process left right first second why other purpose purpose' same := by
    rw [purposes] at purpose purpose'
    exact accounted.once process left right first second why other purpose purpose' same

/-- What has been sent for is not new. -/
theorem Accounted.not_same (accounted : Accounted d net) {process : Pid} {session : Int}
    {index : Nat} {why other : Purpose Msg} (new : why.New (net.process process))
    (purpose : (net.purposes (process, session))[index]? = some other) : ¬ why.Same other := by
  have inside := (List.getElem?_eq_some_iff.mp purpose).1
  rw [accounted.counted] at inside
  exact new.not_same
    (accounted.explained _ _ _ _ purpose (List.getElem?_eq_getElem inside))

/-- A packet is sent for a new purpose. -/
theorem Accounted.post (accounted : Accounted d net) {process : Pid} {packet : Packet}
    {why : Purpose Msg}
    (new : ∀ {session : Int} {index : Nat} {other : Purpose Msg},
      (net.purposes (process, session))[index]? = some other → ¬ why.Same other)
    (explains : why.Explains d (process, packet.sessionId) (net.process process)
      (netPacket (d.serviceId process) packet))
    (fits : (netPacket (d.serviceId process) packet).Fits d.limits.maxPacketLen) :
    Accounted d (net.post d process packet why) := by
  unfold Network.post
  dsimp only
  split
  next ready =>
    have accepts : ((net.link (process, packet.sessionId)).send
          (netPacket (d.serviceId process) packet)).accepted =
        (net.link (process, packet.sessionId)).accepted ++
          [netPacket (d.serviceId process) packet] := by
      rw [Link.send, if_pos ready.2]
    refine ⟨?_, ?_, ?_, ?_⟩
    · exact (Function.forall_update_iff net.link fun _ link => Link.Carries d.limits link).mpr
        ⟨(accounted.carries _).send fits rfl, fun endpoint _ => accounted.carries endpoint⟩
    · intro endpoint
      by_cases same : endpoint = (process, packet.sessionId)
      · subst same
        simp only [Function.update_self, accepts, List.length_append, accounted.counted,
          List.length_singleton]
      · simp only [Function.update_of_ne same, accounted.counted]
    · intro endpoint index other sent purpose isSent
      rcases found_of_update purpose with old | ⟨rfl, rfl, rfl⟩
      · have inside := (List.getElem?_eq_some_iff.mp old).1
        rw [accounted.counted] at inside
        refine accounted.explained endpoint index other sent old ?_
        by_cases same : endpoint = (process, packet.sessionId)
        · subst same
          simp only [Function.update_self, accepts] at isSent
          rwa [List.getElem?_append_left inside] at isSent
        · simpa only [Function.update_of_ne same] using isSent
      · simp only [Function.update_self, accepts, accounted.counted,
          List.getElem?_concat_length, Option.some.injEq] at isSent
        subst isSent
        exact explains
    · intro sender left right first second why' other purpose purpose' same
      rcases found_of_update purpose with old | ⟨isEndpoint, rfl, rfl⟩
      · rcases found_of_update purpose' with old' | ⟨isEndpoint, rfl, rfl⟩
        · exact accounted.once sender left right first second why' other old old' same
        · obtain ⟨rfl, rfl⟩ := Prod.mk.inj isEndpoint
          exact absurd same.symm (new old)
      · obtain ⟨rfl, rfl⟩ := Prod.mk.inj isEndpoint
        rcases found_of_update purpose' with old' | ⟨isEndpoint', rfl, rfl⟩
        · exact absurd same (new old')
        · obtain ⟨_, rfl⟩ := Prod.mk.inj isEndpoint'
          exact ⟨rfl, rfl⟩
  next => exact accounted

/-- Steps inside a link neither accept nor deliver, and a session that is dropped stays so. -/
theorem Link.next_internal {limits : LinkLimits} {link link' : Link} {label : LinkLabel}
    (moved : link.next limits label = some link') (internal : label.internal = true) :
    link'.accepted = link.accepted ∧ link'.delivered = link.delivered ∧
      (link'.sendReady = true → link.sendReady = true) := by
  cases label with
  | send | dispatch => cases internal
  | handleSend results =>
      simp only [next] at moved
      split at moved
      next => cases moved
      next =>
        cases moved
        simp only [Link.handleSend, Link.onSend]
        split
        next => exact ⟨rfl, rfl, id⟩
        next => split <;> exact ⟨rfl, rfl, id⟩
  | onSend results =>
      simp only [next] at moved
      split at moved
      next => cases moved
      next =>
        cases moved
        exact ⟨rfl, rfl, id⟩
  | onRecv count =>
      simp only [next] at moved
      split at moved
      next => cases moved
      next =>
        split at moved
        next =>
          simp only [Link.onRecved] at moved
          split at moved
          next => cases moved
          next =>
            cases moved
            exact ⟨rfl, rfl, id⟩
          next =>
            cases moved
            exact ⟨rfl, rfl, id⟩
        next => cases moved
  | closeSend | closeRecv | dropRecv =>
      cases moved
      exact ⟨rfl, rfl, id⟩
  | dropSend =>
      cases moved
      exact ⟨rfl, rfl, fun ready => by cases ready⟩

/-- A process takes the next packet of a link. -/
structure Network.Takes (net net' : Network Msg) (receiver sender : Endpoint) (packet : Packet) :
    Prop where
  grows : net.Grows net'
  count : (net'.process receiver.1).receivedCount = (net.process receiver.1).receivedCount + 1
  others : ∀ process, process ≠ receiver.1 → net'.process process = net.process process
  arrived : ((net'.process receiver.1).received
    (net.process receiver.1).receivedCount).arrived = packet
  answers : ((net'.process receiver.1).received (net.process receiver.1).receivedCount).answers =
    net.answersAt sender (net.link sender).delivered.length
  source : net'.source receiver.1 (net.process receiver.1).receivedCount =
    (net.link sender).delivered.length
  delivered : (net'.link sender).delivered.length = (net.link sender).delivered.length + 1

/-- A packet that a process has received is an old one or the one it takes. -/
theorem Network.Takes.old_or_new {receiver sender : Endpoint} {packet : Packet}
    (takes : net.Takes net' receiver sender packet) {process : Pid} {ptr : PacketPtr}
    (known : ptr < (net'.process process).receivedCount) :
    ptr < (net.process process).receivedCount ∨
      process = receiver.1 ∧ ptr = (net.process receiver.1).receivedCount := by
  by_cases same : process = receiver.1
  · subst same
    rw [takes.count] at known
    exact (Nat.lt_succ_iff_lt_or_eq.mp known).imp_right fun isNew => ⟨rfl, isNew⟩
  · exact .inl (takes.others process same ▸ known)

theorem takes_of_step {Allowed : State Msg → Label Msg → Prop} {env : Bool}
    {receiver sender : Endpoint} {packet : Packet} {s : State Msg} {event : NetPacket}
    {serviceId : Int} (rest : List NetPacket)
    (run : (machine d.protobuf).Run Allowed (State.init d.protobuf env) (net.process receiver.1))
    (mine : (net.link sender).recvReady = true ∧ event.ForService serviceId)
    (taken : (machine d.protobuf).step (net.process receiver.1)
      (.user (.deliver packet
        (net.answersAt sender (net.link sender).delivered.length))) = .ok s) :
    net.Takes (((net.setLink sender ((net.link sender).dispatch serviceId event rest)).setSource
      receiver.1 (net.link sender).delivered.length).setProcess receiver.1 s)
      receiver sender packet := by
  obtain ⟨count, made⟩ := (step_effect taken).made_of_deliver
  have delivers : ((net.link sender).dispatch serviceId event rest).delivered =
      (net.link sender).delivered ++ [event] := by
    simp only [Link.dispatch, if_pos mine]
  have linked : net.Grows (net.setLink sender ((net.link sender).dispatch serviceId event rest)) :=
    .setLink List.prefix_rfl (by rw [delivers]; exact List.prefix_append _ _)
  refine ⟨(linked.trans (.setSource _ _)).trans
    (.setProcess (extends_of_effect run (step_effect taken))), ?_, ?_, ?_, ?_, ?_, ?_⟩
  · simp only [Network.setProcess, Function.update_self, count]
  · intro process other
    exact Function.update_of_ne other _ _
  · simp only [Network.setProcess, Function.update_self, made.arrived]
  · simp only [Network.setProcess, Function.update_self, made.answers]
  · simp only [Network.setProcess, Network.setSource, Network.setLink, Function.update_self]
  · simp only [Network.setProcess, Network.setSource, Network.setLink, Function.update_self,
      delivers, List.length_append, List.length_singleton]

namespace Traced

variable {Keeps : State Msg → Label Msg → Prop} (traced : Traced d Keeps net)

include traced

/-- As long as no process receives a packet, what was received stays traced. -/
theorem collected_kept (grows : net.Grows net')
    (paired : ∀ endpoint other, net'.peer endpoint = some other → net'.peer other = some endpoint)
    (counts : ∀ process,
      (net'.process process).receivedCount = (net.process process).receivedCount) :
    Collected net' where
  paired := paired
  received process ptr known := by
    rw [counts] at known
    obtain ⟨sender, why, came⟩ := traced.received process ptr known
    exact ⟨sender, why, traced.from_grows grows known came⟩
  apart process left right knownLeft knownRight sameSession sameSource := by
    rw [counts] at knownLeft knownRight
    refine traced.apart process left right knownLeft knownRight ?_ ?_
    · rwa [((grows.processes process).packets left knownLeft).2.1,
        ((grows.processes process).packets right knownRight).2.1] at sameSession
    · rwa [grows.source process left knownLeft,
        grows.source process right knownRight] at sameSource

theorem connect {left right : Endpoint} (freshLeft : net.peer left = none)
    (freshRight : net.peer right = none) (different : left ≠ right) :
    Traced d Keeps (net.connect left right) := by
  have grows := Network.Grows.connect freshLeft freshRight
  refine ⟨traced.toAccounted.kept grows traced.carries rfl fun _ => rfl,
    traced.collected_kept grows ?_ fun _ => rfl, traced.runs⟩
  have atRight : (net.connect left right).peer right = some left := Function.update_self ..
  have atLeft : (net.connect left right).peer left = some right := by
    simp only [Network.connect, Function.update_of_ne different, Function.update_self]
  intro endpoint other connected
  rcases net.connect_cases connected with ⟨rfl, rfl⟩ | ⟨rfl, rfl⟩ | old
  · exact atLeft
  · exact atRight
  · exact grows.peers _ _ (traced.paired endpoint other old)

/-- Something is moved on in a link, and neither accepted nor delivered. -/
theorem setLink {endpoint : Endpoint} {link : Link} (carries : Link.Carries d.limits link)
    (accepted : link.accepted = (net.link endpoint).accepted)
    (delivered : link.delivered = (net.link endpoint).delivered) :
    Traced d Keeps (net.setLink endpoint link) := by
  have grows : net.Grows (net.setLink endpoint link) :=
    .setLink (accepted ▸ List.prefix_rfl) (delivered ▸ List.prefix_rfl)
  refine ⟨traced.toAccounted.kept grows ?_ rfl ?_,
    traced.collected_kept grows traced.paired fun _ => rfl, traced.runs⟩
  · exact (Function.forall_update_iff net.link fun _ link => Link.Carries d.limits link).mpr
      ⟨carries, fun other _ => traced.carries other⟩
  · exact (Function.forall_update_iff net.link
      fun endpoint link => link.accepted = (net.link endpoint).accepted).mpr
        ⟨accepted, fun _ _ => rfl⟩

theorem runs_update {process : Pid} {label : Label Msg} {s : State Msg}
    (keeps : Keeps (net.process process) label) (honest : Honest (net.process process) label)
    (taken : (machine d.protobuf).step (net.process process) label = .ok s) (other : Pid) :
    (machine d.protobuf).Run (fun s label => Keeps s label ∧ Honest s label)
      (State.init d.protobuf (d.env other)) (Function.update net.process process s other) := by
  by_cases same : other = process
  · subst same
    rw [Function.update_self]
    exact .step (traced.runs other) ⟨keeps, honest⟩ taken
  · rw [Function.update_of_ne same]
    exact traced.runs other

/-- A process takes a step, and what it sends is explained. -/
theorem accounted_after {process : Pid} {label : Label Msg} {s : State Msg}
    (extension : (net.process process).Extends s)
    (small : SendsSmall d process (net.process process) label)
    (taken : (machine d.protobuf).step (net.process process) label = .ok s) :
    Accounted d (net.after d process label s) := by
  have accounted : Accounted d (net.setProcess process s) :=
    traced.toAccounted.kept (.setProcess extension) traced.carries rfl fun _ => rfl
  unfold Network.after
  dsimp only
  split
  next why packet purpose pushed =>
    obtain ⟨new, explains⟩ :=
      explained_of_step (traced.runs process) taken purpose pushed process
    refine accounted.post (fun purpose => traced.toAccounted.not_same new purpose) ?_
      (small s (by rw [taken]; rfl) packet pushed)
    simpa only [Network.setProcess, Function.update_self] using explains
  next => exact accounted

/-- A process does something else than to receive a packet. -/
theorem ran {process : Pid} {label : Label Msg} {s : State Msg}
    (keeps : Keeps (net.process process) label)
    (small : SendsSmall d process (net.process process) label)
    (taken : (machine d.protobuf).step (net.process process) label = .ok s)
    (other : label.delivered = none) : Traced d Keeps (net.after d process label s) := by
  have effect := step_effect taken
  have notDelivery : ∀ packet answers, label ≠ .user (.deliver packet answers) := by
    rintro packet answers rfl
    cases other
  have count : s.receivedCount = (net.process process).receivedCount := by
    rcases effect.received_cases with ⟨same, _⟩ | ⟨packet, answers, isLabel, _⟩
    · exact same
    · exact absurd isLabel (notDelivery packet answers)
  have honest : Honest (net.process process) label := by
    intro response isResponse
    unfold Label.response at isResponse
    split at isResponse
    next packet answers => exact absurd rfl (notDelivery packet answers)
    next => cases isResponse
  have counts : ∀ other, (Function.update net.process process s other).receivedCount =
      (net.process other).receivedCount :=
    (Function.forall_update_iff net.process
      fun other s => s.receivedCount = (net.process other).receivedCount).mpr
        ⟨count, fun _ _ => rfl⟩
  have extension := extends_of_effect (traced.runs process) effect
  have sent := net.after_elsewhere d process label s
  refine ⟨traced.accounted_after extension small taken,
    traced.collected_kept (.after extension) ?_ ?_, ?_⟩
  · rw [sent.peer]
    exact traced.paired
  · rw [sent.process]
    exact counts
  · rw [sent.process]
    exact traced.runs_update keeps honest taken

/-- The next packet of a process came out of the link that it was taken from. -/
theorem from_takes {receiver sender : Endpoint} {sent : NetPacket} {beyond : Bytes} {spare : Nat}
    (takes : net.Takes net' receiver sender (rpcPacket receiver.2 sent.onWire beyond spare))
    (connected : net.peer receiver = some sender)
    (accepted : (net.link sender).accepted[(net.link sender).delivered.length]? = some sent) :
    ∃ why, net'.From receiver.1 (net.process receiver.1).receivedCount sender why := by
  obtain ⟨why, purpose, explains⟩ := traced.purpose_of_accepted accepted
  refine ⟨why, ?_, ?_, ?_, ⟨sent, ?_, ?_, ?_⟩, ?_, ?_⟩
  · rw [takes.arrived]
    exact takes.grows.peers _ _ connected
  · rw [takes.source, takes.delivered]
    exact Nat.lt_succ_self _
  · rw [takes.source]
    exact found_of_begins (takes.grows.purposes sender) purpose
  · rw [takes.source]
    exact found_of_begins (takes.grows.accepted sender) accepted
  · rw [takes.arrived]
    rfl
  · rw [takes.arrived]
    rfl
  · rw [takes.arrived]
    rfl
  · rw [takes.answers, Network.answersAt, purpose,
      explains.answers_kept (takes.grows.processes sender.1)]
    rfl

/-- A process receives a packet, and what was received stays traced. -/
theorem collected_takes {receiver sender : Endpoint} {sent : NetPacket} {beyond : Bytes}
    {spare : Nat}
    (takes : net.Takes net' receiver sender (rpcPacket receiver.2 sent.onWire beyond spare))
    (connected : net.peer receiver = some sender)
    (accepted : (net.link sender).accepted[(net.link sender).delivered.length]? = some sent)
    (peers : net'.peer = net.peer) : Collected net' := by
  obtain ⟨why, new⟩ := traced.from_takes takes connected accepted
  have known := @takes.old_or_new
  -- An old packet of the same session came earlier out of the link.
  have differs : ∀ {ptr : PacketPtr}, ptr < (net.process receiver.1).receivedCount →
      ((net'.process receiver.1).received ptr).arrived.sessionId = receiver.2 →
      net'.source receiver.1 ptr ≠
        net'.source receiver.1 (net.process receiver.1).receivedCount := by
    intro ptr old session same
    obtain ⟨sender', _, came⟩ := traced.received receiver.1 ptr old
    have isSender : sender' = sender := by
      have fromHere := came.connected
      rw [← ((takes.grows.processes receiver.1).packets ptr old).2.1, session,
        connected] at fromHere
      exact (Option.some.inj fromHere).symm
    subst isSender
    have behind := came.behind
    rw [← takes.grows.source receiver.1 ptr old, same, takes.source] at behind
    exact absurd behind (Nat.lt_irrefl _)
  have session : ((net'.process receiver.1).received
      (net.process receiver.1).receivedCount).arrived.sessionId = receiver.2 := by
    rw [takes.arrived]
    rfl
  refine ⟨by rw [peers]; exact traced.paired, ?_, ?_⟩
  · intro process ptr isKnown
    rcases known isKnown with old | ⟨rfl, rfl⟩
    · obtain ⟨sender', why', came⟩ := traced.received process ptr old
      exact ⟨sender', why', traced.from_grows takes.grows old came⟩
    · exact ⟨sender, why, new⟩
  · intro process left right knownLeft knownRight sameSession sameSource
    rcases known knownLeft with oldLeft | ⟨rfl, rfl⟩
    · rcases known knownRight with oldRight | ⟨rfl, rfl⟩
      · have packets := (takes.grows.processes process).packets
        rw [(packets left oldLeft).2.1, (packets right oldRight).2.1] at sameSession
        rw [takes.grows.source process left oldLeft,
          takes.grows.source process right oldRight] at sameSource
        exact traced.apart process left right oldLeft oldRight sameSession sameSource
      · exact absurd sameSource (differs oldLeft (sameSession.trans session))
    · rcases known knownRight with oldRight | ⟨_, rfl⟩
      · exact absurd sameSource.symm (differs oldRight (sameSession.symm.trans session))
      · rfl

/-- A process is handed the next packet of a session. -/
theorem delivered {receiver sender : Endpoint} {packet : NetPacket} {rest : List NetPacket}
    {beyond : Bytes} {spare : Nat} {s : State Msg} {serviceId : Int}
    (connected : net.peer receiver = some sender)
    (event : (net.link sender).arrivals = packet :: rest)
    (mine : (net.link sender).recvReady = true ∧ packet.ForService serviceId)
    (keeps : Keeps (net.process receiver.1)
      (.user (.deliver (rpcPacket receiver.2 packet beyond spare)
        (net.answersAt sender (net.link sender).delivered.length))))
    (taken : (machine d.protobuf).step (net.process receiver.1)
      (.user (.deliver (rpcPacket receiver.2 packet beyond spare)
        (net.answersAt sender (net.link sender).delivered.length))) = .ok s) :
    Traced d Keeps (((net.setLink sender
      ((net.link sender).dispatch serviceId packet rest)).setSource receiver.1
      (net.link sender).delivered.length).setProcess receiver.1 s) := by
  have honest := traced.honest_arrival connected event mine.1 beyond spare
  obtain ⟨sent, accepted, rfl⟩ := traced.arrival event mine.1
  have takes := takes_of_step rest (traced.runs receiver.1) mine taken
  refine ⟨traced.toAccounted.kept takes.grows ?_ rfl ?_,
    traced.collected_takes takes connected accepted rfl,
    traced.runs_update keeps honest taken⟩
  · exact (Function.forall_update_iff net.link fun _ link => Link.Carries d.limits link).mpr
      ⟨(traced.carries sender).dispatch event, fun other _ => traced.carries other⟩
  · exact (Function.forall_update_iff net.link
      fun endpoint link => link.accepted = (net.link endpoint).accepted).mpr
        ⟨rfl, fun _ _ => rfl⟩

theorem step {label : NetLabel Msg} (orderly : Orderly d Keeps net label)
    (taken : (network d).step net label = .ok net') : Traced d Keeps net' := by
  cases network_effect taken with
  | connected left right => exact traced.connect orderly.1 orderly.2.1 orderly.2.2
  | ran stepped other => exact traced.ran orderly.1 orderly.2 stepped other
  | @transferred sender label link moved internal =>
      obtain ⟨accepted, delivered, _⟩ := Link.next_internal moved internal
      have fitting : SendsFitting d.limits (net.link sender) label := by
        cases label with
        | send => cases internal
        | _ => trivial
      have stepped : (linkMachine d.limits).step (net.link sender) label = .ok link := by
        simp only [linkMachine, moved]
      exact traced.setLink ((traced.carries sender).step fitting stepped) accepted delivered
  | @ignored receiver sender packet rest _ _ event notMine =>
      refine traced.setLink ((traced.carries sender).dispatch event) rfl ?_
      simp only [Link.dispatch, if_neg notMine]
  | delivered connected event mine isLabel incoming stepped =>
      subst isLabel
      exact traced.delivered connected event mine (orderly _ incoming) stepped

end Traced

theorem traced_of_run {Keeps : State Msg → Label Msg → Prop}
    (run : (network d).Run (Orderly d Keeps) (.init d) net) : Traced d Keeps net := by
  induction run with
  | start => exact .init
  | step _ orderly taken ih => exact ih.step orderly taken

/-- Whatever the processes, the pollers and the kernels do, every process of the network runs
with honest servers. -/
theorem servers_are_honest {Keeps : State Msg → Label Msg → Prop}
    (run : (network d).Run (Orderly d Keeps) (.init d) net) (process : Pid) :
    (machine d.protobuf).Run (fun s label => Keeps s label ∧ Honest s label)
      (State.init d.protobuf (d.env process)) (net.process process) :=
  (traced_of_run run).runs process

/-! ## A client and a server -/

def echoDeployment : Deployment EchoMessage :=
  { protobuf := echoProtobuf, limits := ⟨1000, none⟩, serviceId := fun _ => 1,
    env := fun _ => false }

/-- A client calls `Echo` on a server. The kernel takes the request in two pieces, and the
server reads it in two others. -/
def echoOverNetwork : List (NetLabel EchoMessage) :=
  let hello : EchoMessage := ⟨EchoMessage.request, some (text "hello")⟩
  let work (count : Nat) : List (NetLabel EchoMessage) :=
    List.replicate count (.run 0 (.work ⟨0, 0⟩))
  List.flatten
    [[.connect (0, 9) (1, 7), .run 1 (.user (.addService myEchoService)),
        .run 0 (.user (.op (.createCoro 0 0))), .run 0 (.user (.op (.coroResume 0 .nil)))],
      work 3, [.run 0 (.user (.callMethod 9 echoMethod .new hello))], work 4,
      [.transfer (0, 9) (.handleSend [.sent 30, .wouldBlock]), .transfer (0, 9) (.onRecv 20),
        .transfer (0, 9) (.onSend [.sent 100]), .transfer (0, 9) (.onRecv 46),
        .deliver (1, 7) [] 0],
      (echo 0 hello).map (.run 1),
      [.transfer (1, 7) (.handleSend [.sent 100]), .transfer (1, 7) (.onRecv 61),
        .deliver (0, 9) [] 0],
      work 6, [.run 0 .proceed]]

/-- The check that a step is orderly. -/
def echoCheck (net : Network EchoMessage) (label : NetLabel EchoMessage) : Bool :=
  decide (Orderly echoDeployment (Proper echoProtobuf echoInterface) net label)

theorem echoOverNetwork_replays :
    ((network echoDeployment).replay echoCheck (.init echoDeployment) echoOverNetwork).isSome =
      true := by
  decide +kernel

/-- The network after the call. -/
@[irreducible]
def echoServed : Network EchoMessage :=
  ((network echoDeployment).replay echoCheck (.init echoDeployment) echoOverNetwork).get
    echoOverNetwork_replays

theorem echoServed_run :
    (network echoDeployment).Run (Orderly echoDeployment (Proper echoProtobuf echoInterface))
      (.init echoDeployment) echoServed := by
  unfold echoServed
  exact .of_replay (fun _ _ passes => of_decide_eq_true passes) (Option.some_get _).symm

theorem echo_server_is_honest :
    (echoServed.process 0).receivedCount = 1 ∧
      (machine echoProtobuf).Run
        (fun s label => Proper echoProtobuf echoInterface s label ∧ Honest s label)
        (State.init echoProtobuf false) (echoServed.process 0) :=
  ⟨by decide +kernel, servers_are_honest echoServed_run 0⟩

end LibcoRpc.Net
