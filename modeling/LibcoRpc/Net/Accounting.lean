import LibcoRpc.Net.Honesty

/-!
# No call is lost

Between the moment in which a request is accepted for sending and the moment in which its
caller has been answered, the call is always somewhere: on its way, with its handler, or on
its way back. The exceptions are the ones that the code makes itself: a session that ends,
and a request that `HandleRpcReq` drops.
-/

namespace LibcoRpc.Net

open LibcoRpc.Std
open LibcoRpc.Rpc
open NetPacket

variable {Msg : Type} {d : Deployment Msg} {net net' : Network Msg}
  {Keeps : State Msg → Label Msg → Prop}

/-- The packet at a place in a link has been received. -/
def Network.Taken (net : Network Msg) (receiver : Endpoint) (index : Nat) : Prop :=
  ∃ ptr, ptr < (net.process receiver.1).receivedCount ∧
    ((net.process receiver.1).received ptr).arrived.sessionId = receiver.2 ∧
    net.source receiver.1 ptr = index

theorem Network.Taken.grows {receiver : Endpoint} {index : Nat} (taken : net.Taken receiver index)
    (grows : net.Grows net') : net'.Taken receiver index := by
  obtain ⟨ptr, known, session, source⟩ := taken
  obtain ⟨stillKnown, sameArrived, _⟩ := (grows.processes receiver.1).packets ptr known
  refine ⟨ptr, stillKnown, ?_, ?_⟩
  · rw [sameArrived, session]
  · rw [grows.source receiver.1 ptr known, source]

/-- What came out of a link has been received, and what has been handled has been replied to
if the session lasts. -/
structure Complete (net : Network Msg) : Prop where
  unused : ∀ endpoint, net.peer endpoint = none → (net.link endpoint).delivered = []
  taken : ∀ receiver sender, net.peer receiver = some sender →
    ∀ index, index < (net.link sender).delivered.length → net.Taken receiver index
  replied : ∀ process ptr request, ptr < (net.process process).receivedCount →
    (net.process process).request ptr = some request → request.returned = true →
    (net.link (process, request.sessionId)).sendReady = true →
      .reply ptr ∈ net.purposes (process, request.sessionId)

/-- A handler that has returned has sent its reply, if its session lasts. -/
theorem reply_sent {process : Pid} {s : State Msg} {ptr : PacketPtr} {request : Request Msg}
    (job : ((net.process process).frames (net.process process).core.coSelf).head?.bind
      RpcFrame.job = some ptr)
    (pushed : s.pushed = request.reply d.protobuf :: (net.process process).pushed)
    (connected : (net.peer (process, request.sessionId)).isSome = true)
    (ready : (net.link (process, request.sessionId)).sendReady = true) :
    .reply ptr ∈ (net.after d process (.user .handlerReturn) s).purposes
      (process, request.sessionId) := by
  have purpose : purposeOf (net.process process) (.user .handlerReturn) = some (.reply ptr) := by
    simp only [purposeOf, job, Option.map_some]
  have packet : pushedBy (net.process process) s = some (request.reply d.protobuf) := by
    rw [pushedBy, pushed, if_pos (by simp), List.head?_cons]
  have both : ((net.setProcess process s).peer
        (process, (request.reply d.protobuf).sessionId)).isSome = true ∧
      ((net.setProcess process s).link
        (process, (request.reply d.protobuf).sessionId)).sendReady = true :=
    ⟨connected, ready⟩
  simp only [Network.after, purpose, packet, Network.post, if_pos both]
  have isSession : (request.reply d.protobuf).sessionId = request.sessionId := rfl
  rw [isSession, Function.update_self]
  exact List.mem_append_right _ List.mem_cons_self

namespace Complete

theorem init : Complete (.init d) where
  unused _ _ := rfl
  taken _ _ connected := by cases connected
  replied _ _ _ known := absurd known (Nat.not_lt_zero _)

variable (complete : Complete net)

include complete

theorem connect {left right : Endpoint} (freshLeft : net.peer left = none)
    (freshRight : net.peer right = none) : Complete (net.connect left right) := by
  have grows := Network.Grows.connect freshLeft freshRight
  refine ⟨fun endpoint none => ?_, fun receiver sender connected index inside => ?_,
    complete.replied⟩
  · refine complete.unused endpoint ?_
    cases was : net.peer endpoint with
    | none => rfl
    | some other =>
        rw [grows.peers endpoint other was] at none
        cases none
  · have unread : ∀ {endpoint : Endpoint}, net.peer endpoint = none →
        ¬ index < (net.link endpoint).delivered.length := by
      intro endpoint fresh
      rw [complete.unused endpoint fresh]
      exact Nat.not_lt_zero _
    rcases net.connect_cases connected with ⟨_, rfl⟩ | ⟨_, rfl⟩ | old
    · exact absurd inside (unread freshLeft)
    · exact absurd inside (unread freshRight)
    · exact (complete.taken receiver sender old index inside).grows grows

/-- Something is moved on in a link, and nothing is delivered. -/
theorem setLink {endpoint : Endpoint} {link : Link}
    (delivered : link.delivered = (net.link endpoint).delivered)
    (ready : link.sendReady = true → (net.link endpoint).sendReady = true) :
    Complete (net.setLink endpoint link) := by
  have sameDelivered : ∀ other, ((net.setLink endpoint link).link other).delivered =
      (net.link other).delivered :=
    (Function.forall_update_iff net.link
      fun other link => link.delivered = (net.link other).delivered).mpr
        ⟨delivered, fun _ _ => rfl⟩
  have stillReady : ∀ other, ((net.setLink endpoint link).link other).sendReady = true →
      (net.link other).sendReady = true :=
    (Function.forall_update_iff net.link
      fun other link => link.sendReady = true → (net.link other).sendReady = true).mpr
        ⟨ready, fun _ _ => id⟩
  refine ⟨fun other none => ?_, fun receiver sender connected index inside => ?_,
    fun process ptr request known accepted returned isReady => ?_⟩
  · rw [sameDelivered]
    exact complete.unused other none
  · rw [sameDelivered] at inside
    exact complete.taken receiver sender connected index inside
  · exact complete.replied process ptr request known accepted returned (stillReady _ isReady)

/-- A process takes the next packet of a link. -/
theorem takes {receiver sender : Endpoint} {packet : Packet}
    (takes : net.Takes net' receiver sender packet) (session : packet.sessionId = receiver.2)
    (paired : ∀ endpoint other, net.peer endpoint = some other → net.peer other = some endpoint)
    (connected : net.peer receiver = some sender)
    (kept : net'.peer = net.peer ∧ net'.purposes = net.purposes)
    (elsewhere : ∀ endpoint, endpoint ≠ sender →
      (net'.link endpoint).delivered = (net.link endpoint).delivered)
    (ready : ∀ endpoint, (net'.link endpoint).sendReady = (net.link endpoint).sendReady)
    (settled : ∀ ptr request, ptr < (net'.process receiver.1).receivedCount →
      (net'.process receiver.1).request ptr = some request → request.returned = true →
        ptr < (net.process receiver.1).receivedCount ∧
          (net.process receiver.1).request ptr = some request) : Complete net' := by
  have back := paired _ _ connected
  refine ⟨fun endpoint none => ?_, fun receiver' sender' connected' index inside => ?_,
    fun process ptr request known accepted returned isReady => ?_⟩
  · rw [kept.1] at none
    have other : endpoint ≠ sender := fun same => by
      rw [same, back] at none
      cases none
    rw [elsewhere endpoint other]
    exact complete.unused endpoint none
  · rw [kept.1] at connected'
    by_cases same : sender' = sender
    · subst same
      obtain rfl : receiver' = receiver :=
        Option.some.inj ((paired _ _ connected').symm.trans back)
      rw [takes.delivered] at inside
      rcases Nat.lt_succ_iff_lt_or_eq.mp inside with old | isNew
      · exact (complete.taken receiver' sender' connected' index old).grows takes.grows
      · refine ⟨(net.process receiver'.1).receivedCount, ?_, ?_, ?_⟩
        · rw [takes.count]
          exact Nat.lt_succ_self _
        · rw [takes.arrived, session]
        · rw [takes.source, isNew]
    · rw [elsewhere sender' same] at inside
      exact (complete.taken receiver' sender' connected' index inside).grows takes.grows
  · rw [ready] at isReady
    rw [kept.2]
    by_cases same : process = receiver.1
    · subst same
      obtain ⟨old, was⟩ := settled ptr request known accepted returned
      exact complete.replied _ ptr request old was returned isReady
    · rw [takes.others process same] at known accepted
      exact complete.replied process ptr request known accepted returned isReady

/-- A process does something else than to receive a packet. -/
theorem ran (traced : Traced d Keeps net) {process : Pid} {label : Label Msg} {s : State Msg}
    (after : Traced d Keeps (net.after d process label s))
    (taken : (machine d.protobuf).step (net.process process) label = .ok s)
    (other : label.delivered = none) : Complete (net.after d process label s) := by
  have effect := step_effect taken
  have sent := net.after_elsewhere d process label s
  have grows : net.Grows (net.after d process label s) :=
    .after (extends_of_effect (traced.runs process) effect)
  refine ⟨fun endpoint none => ?_, fun receiver sender connected index inside => ?_,
    fun process' ptr request known accepted returned ready => ?_⟩
  · rw [sent.delivered]
    exact complete.unused endpoint (sent.peer ▸ none)
  · rw [sent.delivered] at inside
    exact (complete.taken receiver sender (sent.peer ▸ connected) index inside).grows grows
  · have before : (net.process process').request ptr = some request →
        ptr < (net.process process').receivedCount →
        .reply ptr ∈ (net.after d process label s).purposes (process', request.sessionId) := by
      intro was old
      rw [sent.sendReady] at ready
      exact (grows.purposes _).subset
        (complete.replied process' ptr request old was returned ready)
    by_cases same : process' = process
    · subst same
      obtain ⟨client, _, _, _, handled⟩ := after.handled known accepted
      have connected := handled.connected
      rw [sent.process] at known accepted
      simp only [Network.setProcess, Function.update_self] at known accepted
      have old : ptr < (net.process process').receivedCount := by
        rcases effect.received_cases with ⟨count, _⟩ | ⟨_, _, rfl, _⟩
        · exact count ▸ known
        · cases other
      rcases effect.returned_cases old accepted returned with was | ⟨rfl, job, pushed⟩
      · exact before was old
      · refine reply_sent job pushed ?_ ?_
        · rw [sent.peer] at connected
          exact Option.isSome_of_eq_some connected
        · rw [sent.sendReady] at ready
          exact ready
    · rw [sent.process] at known accepted
      simp only [Network.setProcess, Function.update_of_ne same] at known accepted
      exact before accepted known

theorem step (traced : Traced d Keeps net) {label : NetLabel Msg}
    (orderly : Orderly d Keeps net label) (taken : (network d).step net label = .ok net') :
    Complete net' := by
  have after := traced.step orderly taken
  cases network_effect taken with
  | connected left right => exact complete.connect orderly.1 orderly.2.1
  | ran stepped other => exact complete.ran traced after stepped other
  | transferred moved internal =>
      obtain ⟨_, delivered, ready⟩ := Link.next_internal moved internal
      exact complete.setLink delivered ready
  | ignored event notMine =>
      refine complete.setLink ?_ id
      simp only [Link.dispatch, if_neg notMine]
  | @delivered receiver sender packet rest beyond spare s label connected event mine isLabel
      incoming stepped =>
      subst isLabel
      have takes := takes_of_step rest (traced.runs receiver.1) mine stepped
      refine complete.takes takes rfl traced.paired connected ⟨rfl, rfl⟩ ?_ ?_ ?_
      · intro endpoint other
        simp only [Network.setProcess, Network.setSource, Network.setLink,
          Function.update_of_ne other]
      · exact (Function.forall_update_iff net.link
          fun endpoint link => link.sendReady = (net.link endpoint).sendReady).mpr
            ⟨rfl, fun _ _ => rfl⟩
      · intro ptr request known accepted returned
        simp only [Network.setProcess, Function.update_self] at known accepted
        exact (step_effect stepped).settled_of_deliver known accepted returned

end Complete

theorem complete_of_run (run : (network d).Run (Orderly d Keeps) (.init d) net) :
    Complete net := by
  induction run with
  | start => exact .init
  | step prior orderly taken ih => exact ih.step (traced_of_run prior) orderly taken

/-! ## Where a call is -/

/-- Both ends of the session still have it. -/
structure Link.Lasts (link : Link) : Prop where
  sendReady : link.sendReady = true
  sending : link.willSend.isSome = true
  receiving : link.protocol.isSome = true
  recvReady : link.recvReady = true

/-- The packet that was accepted at this place is under way: as a `Send` event, as bytes
between the send buffer and the packet protocol, or as a `DataArrival` event. -/
def Link.Pending (link : Link) (index : Nat) : Prop :=
  ∃ buffer s inside packet, link.willSend = some buffer ∧ link.protocol = some s ∧
    s.held ++ link.wire ++ buffer.bytes = inside.flatMap NetPacket.send ∧
    link.delivered.length ≤ index ∧ link.accepted[index]? = some packet ∧
    (link.arrivals ++ (inside ++ link.sendEvents).map onWire)[index - link.delivered.length]? =
      some packet.onWire

/-- What was accepted and has not been delivered is under way. -/
theorem Link.Carries.pending {limits : LinkLimits} {link : Link}
    (carries : Link.Carries limits link) (lasts : link.Lasts) {index : Nat} {packet : NetPacket}
    (accepted : link.accepted[index]? = some packet) (waits : link.delivered.length ≤ index) :
    link.Pending index := by
  obtain ⟨buffer, sending⟩ := Option.isSome_iff_exists.mp lasts.sending
  obtain ⟨s, receiving⟩ := Option.isSome_iff_exists.mp lasts.receiving
  obtain ⟨inside, lost, _, stream, _, whole⟩ := carries.underWay s receiving
  obtain ⟨rfl, all⟩ := whole lasts.sending
  refine ⟨buffer, s, inside, packet, sending, receiving, ?_, waits, accepted, ?_⟩
  · rw [List.append_nil, Link.unsent, sending] at stream
    exact stream
  · have wired : (link.accepted.map onWire)[index]? = some packet.onWire := by
      rw [List.getElem?_map, accepted, Option.map_some]
    rwa [← all, carries.waiting lasts.recvReady, List.append_assoc,
      List.getElem?_append_right waits] at wired

/-- What came out of a link is a packet that has been received. -/
theorem Traced.from_of_taken (traced : Traced d Keeps net) {receiver sender : Endpoint}
    {index : Nat} {why : Purpose Msg} (connected : net.peer receiver = some sender)
    (taken : net.Taken receiver index) (purpose : (net.purposes sender)[index]? = some why) :
    ∃ ptr, ptr < (net.process receiver.1).receivedCount ∧ net.From receiver.1 ptr sender why ∧
      net.source receiver.1 ptr = index := by
  obtain ⟨ptr, known, session, source⟩ := taken
  obtain ⟨sender', why', came⟩ := traced.received receiver.1 ptr known
  have fromHere := came.connected
  rw [session, connected] at fromHere
  obtain rfl := Option.some.inj fromHere
  have same := came.purpose
  rw [source, purpose] at same
  obtain rfl := Option.some.inj same
  exact ⟨ptr, known, came, source⟩

/-- A request that was accepted for sending on a session that lasts is under way, or it has
been received at the other end; then it has been dropped, or its handler is running, or the
reply is under way, or the call has been answered. -/
theorem no_call_is_lost (run : (network d).Run (Orderly d Keeps) (.init d) net)
    {client server : Endpoint} (connected : net.peer client = some server)
    (forth : (net.link client).Lasts) (back : (net.link server).Lasts) {index : Nat}
    {number : CallId} {method : MethodDescriptor} {message : Msg}
    (asked : (net.purposes client)[index]? = some (.call number method message)) :
    (net.link client).Pending index ∨
      ∃ ptr, net.From server.1 ptr client (.call number method message) ∧
        net.source server.1 ptr = index ∧
        ((net.process server.1).request ptr = none ∨ ptr ∈ (net.process server.1).handling ∨
          ∃ later, (net.purposes server)[later]? = some (.reply ptr) ∧
            ((net.link server).Pending later ∨ (net.process client.1).Answered number)) := by
  have traced := traced_of_run run
  have complete := complete_of_run run
  -- A packet that has a purpose has been delivered or is under way.
  have pending : ∀ {endpoint : Endpoint} {index : Nat} {why : Purpose Msg},
      (net.link endpoint).Lasts → (net.purposes endpoint)[index]? = some why →
      (net.link endpoint).Pending index ∨ index < (net.link endpoint).delivered.length := by
    intro endpoint index why lasts purpose
    rcases Nat.lt_or_ge index (net.link endpoint).delivered.length with gone | waits
    · exact .inr gone
    · have inside := (List.getElem?_eq_some_iff.mp purpose).1
      rw [traced.counted] at inside
      exact .inl ((traced.carries endpoint).pending lasts (List.getElem?_eq_getElem inside) waits)
  refine (pending forth asked).imp_right fun gone => ?_
  have backwards := traced.paired _ _ connected
  obtain ⟨ptr, known, came, source⟩ := traced.from_of_taken backwards
    (complete.taken server client backwards index gone) asked
  refine ⟨ptr, came, source, ?_⟩
  cases accepted : (net.process server.1).request ptr with
  | none => exact .inl rfl
  | some request =>
      refine .inr ?_
      by_cases returned : request.returned = true
      · obtain ⟨_, session, _⟩ := addressed_of_run (traced.runs server.1) ptr request accepted
        have isServer : (server.1, request.sessionId) = server := by
          rw [session, traced.session_of_from came backwards]
        have replied := complete.replied server.1 ptr request known accepted returned
          (by rw [isServer]; exact back.sendReady)
        rw [isServer] at replied
        obtain ⟨later, isReply⟩ := List.mem_iff_getElem?.mp replied
        refine .inr ⟨later, isReply, (pending back isReply).imp_right fun gone => ?_⟩
        obtain ⟨answer, knownAnswer, cameBack, _⟩ := traced.from_of_taken connected
          (complete.taken client server connected later gone) isReply
        exact ⟨answer, knownAnswer, traced.opcode_of_from cameBack,
          cameBack.answers.trans came.answers⟩
      · refine .inl ((handling_iff (traced.runs server.1) ptr).mpr ⟨known, ?_⟩)
        simp [accepted, stageOf, returned]

theorem echo_not_lost :
    let hello : EchoMessage := ⟨EchoMessage.request, some (text "hello")⟩
    (echoServed.purposes (0, 9))[0]? = some (.call 0 echoMethod hello) ∧
      ((echoServed.link (0, 9)).Pending 0 ∨
        ∃ ptr, echoServed.From 1 ptr (0, 9) (.call 0 echoMethod hello) ∧
          echoServed.source 1 ptr = 0 ∧
          ((echoServed.process 1).request ptr = none ∨ ptr ∈ (echoServed.process 1).handling ∨
            ∃ later, (echoServed.purposes (1, 7))[later]? = some (.reply ptr) ∧
              ((echoServed.link (1, 7)).Pending later ∨ (echoServed.process 0).Answered 0))) := by
  intro hello
  have asked : (echoServed.purposes (0, 9))[0]? = some (.call 0 echoMethod hello) := by
    decide +kernel
  have forth : (echoServed.link (0, 9)).Lasts :=
    ⟨by decide +kernel, by decide +kernel, by decide +kernel, by decide +kernel⟩
  have back : (echoServed.link (1, 7)).Lasts :=
    ⟨by decide +kernel, by decide +kernel, by decide +kernel, by decide +kernel⟩
  have connected : echoServed.peer (0, 9) = some (1, 7) := by decide +kernel
  exact ⟨asked, no_call_is_lost echoServed_run connected forth back asked⟩

end LibcoRpc.Net
