import LibcoRpc.Rpc.Envelope
import LibcoRpc.Rpc.Responses

/-!
# What the caller learns

A reply carries the error text of the server's controller and not its flag; `CallMethod`
reports a failure if the text is not empty. So the status of a handler reaches the caller,
and the callers behind a relay, exactly if a failure comes with a text.
-/

namespace LibcoRpc.Rpc

open LibcoRpc.CoroMgr (Co CoroPtr)

variable {Msg : Type} {protobuf : Protobuf Msg} {s s' : State Msg}

/-! ## The controller of a handler -/

/-- A controller that holds a text only if it has failed. -/
def RpcController.Sound (controller : RpcController) : Prop :=
  controller.isFailed = false → controller.errorText = []

/-- The controllers of all handlers are sound. -/
def SoundControllers (s : State Msg) : Prop :=
  ∀ packet request, (s.received packet).request = some request → request.controller.Sound

theorem SoundControllers.update (sound : SoundControllers s) {packet : PacketPtr}
    {value : Received Msg} (written : s'.received = Function.update s.received packet value)
    (new : ∀ request, value.request = some request → request.controller.Sound) :
    SoundControllers s' := by
  intro other request accepted
  rw [written] at accepted
  by_cases same : other = packet
  · subst same
    rw [Function.update_self] at accepted
    exact new request accepted
  · rw [Function.update_of_ne same] at accepted
    exact sound other request accepted

theorem SoundControllers.setRequest (sound : SoundControllers s) {packet : PacketPtr}
    {update : Request Msg → Request Msg} (taken : s.setRequest packet update = .ok s')
    (keeps : ∀ request, request.controller.Sound → (update request).controller.Sound) :
    SoundControllers s' := by
  simp only [State.setRequest] at taken
  split at taken
  · cases taken
  next request accepted =>
    split at taken
    · cases taken
    · cases taken
      refine sound.update rfl fun now isNow => ?_
      cases isNow
      exact keeps request (sound packet request accepted)

theorem SoundControllers.step (sound : SoundControllers s) {label : Label Msg}
    (taken : (machine protobuf).step s label = .ok s') : SoundControllers s' := by
  have new : ∀ {packet after : Packet} {request : Request Msg},
      Accepts protobuf s packet after request → request.controller.Sound := fun accepts => by
    rw [accepts.fresh.1]
    exact fun _ => rfl
  cases step_effect taken with
  | work | op | rejected | called | flagged | addService => exact sound
  | @read _ _ _ recvPacket =>
      exact sound.update rfl fun request accepted => sound recvPacket request accepted
  | dropped =>
      refine sound.update (Function.update_idem ..) fun request isRequest => ?_
      simp [State.receive] at isRequest
  | dispatched => exact sound.update rfl fun _ none => by cases none
  | inline _ _ accepts | spawned _ _ accepts =>
      refine sound.update rfl fun request isRequest => ?_
      cases isRequest
      exact new accepts
  | wrote _ _ _ write =>
      obtain ⟨_, _, before, acted, is⟩ := user_cases taken
      have same := congrArg State.received is
      rcases write with ⟨reason, rfl⟩ | ⟨rsp, rfl⟩
      · intro packet request accepted
        rw [same] at accepted
        exact sound.setRequest acted (fun _ _ failed => by cases failed) packet request accepted
      · intro packet request accepted
        rw [same] at accepted
        exact sound.setRequest acted (fun _ kept => kept) packet request accepted
  | @handled packet _ request _ _ accepted =>
      refine sound.update (Function.update_idem ..) fun now isNow => ?_
      simp only [State.onRpcDone, State.pushPacket, State.setReceived, State.goto,
        Function.update_self, Option.some.injEq] at isNow
      subst isNow
      exact sound packet request accepted
  | @finished packet _ request _ _ _ accepted =>
      refine sound.update rfl fun now isNow => ?_
      cases isNow
      exact sound packet request accepted
  | @back packet => exact sound.update rfl fun request accepted => sound packet request accepted

theorem soundControllers_of_run {Allowed : State Msg → Label Msg → Prop} {env : Bool}
    (run : (machine protobuf).Run Allowed (State.init protobuf env) s) : SoundControllers s := by
  induction run with
  | start => exact fun _ _ accepted => by cases accepted
  | step _ _ taken ih => exact ih.step taken

/-! ## What `CallMethod` makes of a reply -/

section

variable {call : Call Msg}

/-- A caller whose reply has no readable error text reports that. -/
theorem readResponse_unread {packet : Packet} (unread : packet.readString = none) :
    (State.readResponse protobuf call packet).controller.errorText =
      text "Read errText fail" := by
  simp only [State.readResponse, unread, RpcController.setFailed]

/-- The controller that a reply leaves to a caller with a new one. -/
def RpcController.sent (controller : RpcController) : RpcController :=
  if controller.errorText.isEmpty then .new else ⟨true, controller.errorText⟩

variable {controller : RpcController} {rsp : Msg} {sessionId srcCoroId dstCoroId : Int}
  {reply rest : Packet}
  (payload : reply.payload = (replyPacket protobuf sessionId srcCoroId controller rsp).payload)
  (unreadAll : reply.readPos = 0) (read : reply.readInt32 = some (dstCoroId, rest))
  (fresh : call.controller = .new) (textFits : controller.errorText.length ≤ 2 ^ 32 - 20)
  (short : (protobuf.serialize rsp).length < 2 ^ 31)
  (inverts : protobuf.Inverts call.responseType rsp)

include payload unreadAll read fresh textFits short inverts

theorem readResponse_reply :
    (State.readResponse protobuf call rest).controller = controller.sent ∧
      (State.readResponse protobuf call rest).response = rsp := by
  -- Whatever the id is, it is written as an `int`.
  let header : ReplyHeader :=
    ⟨toInt32 (ofInt32 srcCoroId), controller.errorText, isInt32_toInt32 (ofInt32_lt _), by omega⟩
  have same : replyPacket protobuf sessionId srcCoroId controller rsp =
      replyPacket protobuf sessionId header.dstCoroId controller rsp := by
    simp only [replyPacket, Packet.writeInt32, header, ofInt32_toInt32 (ofInt32_lt _)]
  have written := replyPacket_header protobuf sessionId rsp header
    (Stream.writeString_of_le textFits)
  rw [same, written] at payload
  obtain ⟨id, text⟩ := readReplyHeader unreadAll payload
  obtain ⟨after, body, -⟩ := readMessage_last unreadAll short inverts payload
  obtain ⟨-, rfl⟩ : header.dstCoroId = dstCoroId ∧ reply.advance 4 = rest := by
    simpa [id] using read
  simp only [State.readResponse, text, body, header, RpcController.sent, fresh,
    RpcController.setFailed, and_self]

omit fresh textFits inverts in
/-- An error text that arrives has been written in full, or past the end of the buffer. -/
theorem errorText_written
    (arrived : (State.readResponse protobuf call rest).controller.errorText =
      controller.errorText)
    (inBuffer : ¬ (Stream.new.writeString controller.errorText).Overrun) :
    controller.errorText.length ≤ 2 ^ 32 - 20 := by
  rcases Stream.writeString_cases controller.errorText with written | ⟨dropped, long⟩
  · exact Stream.writeString_iff.mp ⟨written, inBuffer⟩
  · obtain ⟨-, rfl, -⟩ := Packet.readInt32_iff.mp read
    have missing := readString_dropped protobuf unreadAll dropped long (by omega) payload
    rw [readResponse_unread missing] at arrived
    rw [← arrived] at long
    exact absurd long (by decide)

end

/-- `CallMethod` reads the packet that was stored, if it was not timed out or cancelled. -/
theorem callMethodRet_read {self : Co} {number : CallId} {coro : CoroPtr}
    {below : List RpcFrame} {recvPacket : PacketPtr}
    (notTimeouted : (s.core.coro coro).timeouted = false)
    (notCancelled : (s.core.coro coro).cancelled = false)
    (stored : (s.core.coro coro).ptrParam1 = some recvPacket)
    (live : (s.received recvPacket).recycled = false) :
    ∃ s', s.callMethodRet protobuf self below number coro = .ok s' ∧
      (s'.call number).controller = (State.readResponse protobuf (s.call number)
        (s.received recvPacket).packet).controller ∧
      (s'.call number).response = (State.readResponse protobuf (s.call number)
        (s.received recvPacket).packet).response := by
  let reading := State.readResponse protobuf { s.call number with returnedAt := some s.time }
    (s.received recvPacket).packet
  let s' := ((s.goto self below).setReceived recvPacket
    { s.received recvPacket with packet := reading.packet }).setCall number
    { s.call number with
      returnedAt := some s.time, controller := reading.controller, response := reading.response,
      decoded := if reading.decoded then some recvPacket else none }
  refine ⟨s', ?_, ?_⟩
  · simp only [State.callMethodRet, notTimeouted, notCancelled, stored, State.goto,
      Bool.false_eq_true, if_false]
    exact if_neg (by simp [live])
  · simp only [s', State.setCall, Function.update_self]
    exact ⟨rfl, rfl⟩

/-- A call that waits returns as `callMethodRet` says. -/
theorem proceed_call {number : CallId} {coro : CoroPtr} {below : List RpcFrame}
    (userRuns : s.core.UserRuns)
    (frames : s.frames s.core.coSelf = .callWait number coro :: below)
    (called : s.callMethodRet protobuf s.core.coSelf below number coro = .ok s') :
    (machine protobuf).step s .proceed = .ok s'.tick := by
  simp only [machine, State.step, if_pos userRuns, State.proceed, frames, called]
  rfl

/-- A handler that returns sends what it left in its controller and its response. -/
theorem reply_of_handlerReturn {job : PacketPtr} {request : Request Msg}
    (handles : s.top s.core.coSelf = some (.handler job) ∨
      s.top s.core.coSelf = some (.entry job))
    (accepted : (s.received job).request = some request)
    (returned : (machine protobuf).step s (.user .handlerReturn) = .ok s') :
    s'.pushed = replyPacket protobuf request.sessionId request.srcCoroId request.controller
      request.rsp :: s.pushed := by
  cases step_effect returned with
  | wrote _ _ _ write => rcases write with ⟨_, other⟩ | ⟨_, other⟩ <;> cases other
  | handled _ frames accepted' | finished _ frames accepted' =>
      simp only [State.top, frames] at handles
      rcases handles with same | same <;> cases same
      rw [accepted] at accepted'
      cases accepted'
      rfl

/-! ## Relays -/

/-- What `RelayEcho` makes of the controller of its inner call, while its own is new. -/
def RpcController.relayed (cntl : RpcController) : RpcController :=
  if cntl.isFailed then RpcController.new.setFailed cntl.errorText else .new

/-- What a caller with a new controller makes of the reply of a server. -/
def delivered (protobuf : Protobuf Msg) (type : MessageType) (controller : RpcController)
    (rsp : Msg) : Reading Msg :=
  State.readResponse protobuf { noCall protobuf with responseType := type }
    ((replyPacket protobuf 0 0 controller rsp).advance 4)

/-- The controller of the caller at the end of a chain of relays, each of which answers with
what the reply before it left and a response of its own. -/
def throughRelays (deliver : RpcController → Msg → RpcController) (controller : RpcController)
    (rsp : Msg) : List Msg → RpcController
  | [] => deliver controller rsp
  | next :: relays => throughRelays deliver (deliver controller rsp).relayed next relays

theorem delivered_eq {type : MessageType} {controller : RpcController} {rsp : Msg}
    (textFits : controller.errorText.length ≤ 2 ^ 32 - 20)
    (short : (protobuf.serialize rsp).length < 2 ^ 31) (inverts : protobuf.Inverts type rsp) :
    (delivered protobuf type controller rsp).controller = controller.sent := by
  obtain ⟨header, isId, isText⟩ : ∃ header : ReplyHeader, header.dstCoroId = 0 ∧
      header.errText = controller.errorText :=
    ⟨⟨0, controller.errorText, by decide, by omega⟩, rfl, rfl⟩
  have written : (Stream.new.writeString controller.errorText).bytes =
      Packet.sized header.errText := by
    rw [isText, Stream.writeString_of_le textFits]
  have payload := replyPacket_header protobuf 0 rsp header written
  rw [isId] at payload
  have unreadAll : (replyPacket protobuf 0 0 controller rsp).readPos = 0 := rfl
  have read := (readReplyHeader unreadAll payload).1
  rw [delivered]
  exact (readResponse_reply rfl unreadAll read rfl textFits short inverts).1

namespace RpcController

variable (controller : RpcController)

theorem errorText_sent : controller.sent.errorText = controller.errorText := by
  unfold sent
  split
  next empty => exact (List.isEmpty_iff.mp empty).symm
  next => rfl

theorem relayed_sent : controller.sent.relayed = controller.sent := by
  unfold sent
  split <;> rfl

theorem sent_sent : controller.sent.sent = controller.sent := by
  conv_lhs => rw [sent, errorText_sent]
  rfl

variable {controller}

/-- The reply tells the caller all there is to know exactly if a failure has a text. -/
theorem Sound.sent_eq_iff (sound : controller.Sound) :
    controller.sent = controller ↔ (controller.isFailed = true → controller.errorText ≠ []) := by
  obtain ⟨isFailed, errorText⟩ := controller
  cases isFailed with
  | false =>
      have empty : errorText = [] := sound rfl
      subst empty
      exact ⟨fun _ failed => (by cases failed), fun _ => rfl⟩
  | true => cases errorText <;> simp [sent, new]

theorem Sound.isFailed_sent_iff (sound : controller.Sound) :
    controller.sent.isFailed = controller.isFailed ↔
      (controller.isFailed = true → controller.errorText ≠ []) := by
  obtain ⟨isFailed, errorText⟩ := controller
  cases isFailed with
  | false =>
      have empty : errorText = [] := sound rfl
      subst empty
      exact ⟨fun _ failed => (by cases failed), fun _ => rfl⟩
  | true => cases errorText <;> simp [sent, new]

end RpcController

/-- However long the chain is, its caller has what the first reply left. -/
theorem throughRelays_eq {deliver : RpcController → Msg → RpcController} {Sent : Msg → Prop}
    (delivers : ∀ controller rsp, controller.errorText.length ≤ 2 ^ 32 - 20 → Sent rsp →
      deliver controller rsp = controller.sent)
    {controller : RpcController} (textFits : controller.errorText.length ≤ 2 ^ 32 - 20)
    {rsp : Msg} {relays : List Msg} (sent : ∀ message ∈ rsp :: relays, Sent message) :
    throughRelays deliver controller rsp relays = controller.sent := by
  have first := delivers controller rsp textFits (sent rsp List.mem_cons_self)
  induction relays generalizing controller rsp with
  | nil => exact first
  | cons next relays ih =>
      have textFits' : controller.sent.errorText.length ≤ 2 ^ 32 - 20 := by
        rwa [controller.errorText_sent]
      have sent' : ∀ message ∈ next :: relays, Sent message :=
        fun message member => sent message (List.mem_cons_of_mem _ member)
      have second := delivers controller.sent next textFits' (sent' next List.mem_cons_self)
      rw [throughRelays, first, controller.relayed_sent, ih textFits' sent' second,
        controller.sent_sent]

/-- User code writes to a request whose handler is running. -/
theorem setRequest_step {packet : PacketPtr} {request : Request Msg} (userRuns : s.core.UserRuns)
    (userCode : s.userCode = true) (accepted : (s.received packet).request = some request)
    (running : request.returned = false) (action : Action Msg)
    (update : Request Msg → Request Msg)
    (writes : s.act protobuf s.core.coSelf action = s.setRequest packet update) :
    ∃ s', (machine protobuf).step s (.user action) = .ok s' ∧ s'.core.UserRuns ∧
      s'.userCode = true ∧ (s'.received packet).request = some (update request) := by
  refine ⟨(s.setReceived packet { s.received packet with request := some (update request) }).tick,
    ?_, userRuns, userCode, ?_⟩
  · simp only [machine, State.step, if_pos (And.intro userRuns userCode), writes, State.setRequest,
      accepted, running, Bool.false_eq_true, if_false]
    rfl
  · simp only [State.tick, State.setReceived, Function.update_self]

/-- `RelayEcho` with a new controller leaves in it what `relayed` says. -/
theorem relayEchoRet_controller {s : State EchoMessage} {packet : PacketPtr}
    {request : Request EchoMessage} (userRuns : s.core.UserRuns) (userCode : s.userCode = true)
    (accepted : (s.received packet).request = some request) (running : request.returned = false)
    (fresh : request.controller = .new) (cntl : RpcController) (innerRsp : EchoMessage) :
    ∃ s', (machine echoProtobuf).replay (fun _ _ => true) s
        (relayEchoRet packet cntl innerRsp).dropLast = some s' ∧
      (s'.received packet).request = some { request with
        controller := cntl.relayed, rsp := ⟨EchoMessage.response, some innerRsp.text⟩ } := by
  let rsp : EchoMessage := ⟨EchoMessage.response, some innerRsp.text⟩
  let fail (request : Request EchoMessage) : Request EchoMessage :=
    { request with controller := request.controller.setFailed cntl.errorText }
  let respond (request : Request EchoMessage) : Request EchoMessage := { request with rsp := rsp }
  by_cases failed : cntl.isFailed = true
  · obtain ⟨s₁, first, userRuns₁, userCode₁, accepted₁⟩ :=
      setRequest_step userRuns userCode accepted running (.setFailed packet cntl.errorText) fail
        (Eq.refl (s.act echoProtobuf s.core.coSelf _))
    obtain ⟨s₂, second, -, -, accepted₂⟩ :=
      setRequest_step userRuns₁ userCode₁ accepted₁ running (.setResponse packet rsp) respond
        (Eq.refl (s₁.act echoProtobuf s₁.core.coSelf _))
    refine ⟨s₂, ?_, ?_⟩
    · simp [relayEchoRet, failed, Machine.replay, first, rsp, second]
    · simp [accepted₂, respond, fail, rsp, RpcController.relayed, failed, fresh]
  · obtain ⟨s₁, only, -, -, accepted₁⟩ :=
      setRequest_step userRuns userCode accepted running (.setResponse packet rsp) respond
        (Eq.refl (s.act echoProtobuf s.core.coSelf _))
    refine ⟨s₁, ?_, ?_⟩
    · simp [relayEchoRet, failed, Machine.replay, only, rsp]
    · simp [accepted₁, respond, rsp, RpcController.relayed, failed, fresh]

/-- The status of a handler reaches the caller: the error text is written into the buffer of
the reply, and the controller and the response that a handler leaves are those that the
caller finds, if the caller had a new controller and the reply is the packet it reads, if and
only if the error text has at most 2³² - 20 bytes and a failure has one; and the caller at
the end of any chain of relays finds a failure exactly if there was one, if and only if a
failure has a text. -/
theorem status_reaches_caller {env : Bool} {server server' client : State Msg}
    {job recvPacket : PacketPtr} {request : Request Msg} {number : CallId} {coro : CoroPtr}
    {below : List RpcFrame} {reply : Packet} {dstCoroId : Int}
    (run : (machine protobuf).Run (fun _ _ => True) (State.init protobuf env) server)
    (handles : server.top server.core.coSelf = some (.handler job) ∨
      server.top server.core.coSelf = some (.entry job))
    (accepted : (server.received job).request = some request)
    (returned : (machine protobuf).step server (.user .handlerReturn) = .ok server')
    (payload : server'.pushed.head?.map Packet.payload = some reply.payload)
    (unreadAll : reply.readPos = 0)
    (read : reply.readInt32 = some (dstCoroId, (client.received recvPacket).packet))
    (userRuns : client.core.UserRuns)
    (frames : client.frames client.core.coSelf = .callWait number coro :: below)
    (notTimeouted : (client.core.coro coro).timeouted = false)
    (notCancelled : (client.core.coro coro).cancelled = false)
    (stored : (client.core.coro coro).ptrParam1 = some recvPacket)
    (live : (client.received recvPacket).recycled = false)
    (fresh : (client.call number).controller = .new)
    (short : (protobuf.serialize request.rsp).length < 2 ^ 31)
    (inverts : protobuf.Inverts (client.call number).responseType request.rsp) :
    (∃ client', (machine protobuf).step client .proceed = .ok client' ∧
      (¬ (Stream.new.writeString request.controller.errorText).Overrun ∧
          (client'.call number).controller = request.controller ∧
          (client'.call number).response = request.rsp ↔
        request.controller.errorText.length ≤ 2 ^ 32 - 20 ∧
          (request.controller.isFailed = true → request.controller.errorText ≠ []))) ∧
    (request.controller.errorText.length ≤ 2 ^ 32 - 20 → ∀ relays : List Msg,
      (∀ rsp ∈ relays, (protobuf.serialize rsp).length < 2 ^ 31 ∧
        protobuf.Inverts (client.call number).responseType rsp) →
      ((throughRelays (fun controller rsp => (delivered protobuf
            (client.call number).responseType controller rsp).controller)
          request.controller request.rsp relays).isFailed = request.controller.isFailed ↔
        (request.controller.isFailed = true → request.controller.errorText ≠ []))) := by
  have sound := soundControllers_of_run run job request accepted
  rw [reply_of_handlerReturn handles accepted returned] at payload
  have payload := (Option.some.inj payload).symm
  constructor
  · obtain ⟨client', called, controller, response⟩ :=
      callMethodRet_read notTimeouted notCancelled stored live
    refine ⟨client'.tick, proceed_call userRuns frames called, ?_⟩
    show _ ∧ (client'.call number).controller = _ ∧ (client'.call number).response = _ ↔ _
    rw [controller, response, ← sound.sent_eq_iff]
    constructor
    · rintro ⟨inBuffer, sameController, -⟩
      have textFits := errorText_written payload unreadAll read short
        (congrArg RpcController.errorText sameController) inBuffer
      have reading := readResponse_reply payload unreadAll read fresh textFits short inverts
      exact ⟨textFits, reading.1.symm.trans sameController⟩
    · rintro ⟨textFits, same⟩
      have reading := readResponse_reply payload unreadAll read fresh textFits short inverts
      exact ⟨(Stream.writeString_iff.mpr textFits).2, reading.1.trans same, reading.2⟩
  · intro textFits relays sent
    have all : ∀ message ∈ request.rsp :: relays, (protobuf.serialize message).length < 2 ^ 31 ∧
        protobuf.Inverts (client.call number).responseType message := by
      intro message member
      rcases List.mem_cons.mp member with rfl | member
      · exact ⟨short, inverts⟩
      · exact sent message member
    rw [throughRelays_eq (fun controller rsp fits sent => delivered_eq fits sent.1 sent.2)
      textFits all]
    exact sound.isFailed_sent_iff

/-- A server takes a call of `Echo`, and the handler fails with a reason. -/
def failingEcho (reason : Bytes) : List (Label EchoMessage) :=
  [.user (.addService myEchoService),
    .user (.deliver (requestPacket echoProtobuf 9 echoMethod 1
      ⟨EchoMessage.request, some (text "hello")⟩) none),
    .user (.setFailed 0 reason)]

/-- A caller waits, and takes a reply. -/
def takesReply (controller : RpcController) (rsp : EchoMessage) : List (Label EchoMessage) :=
  .flatten [waitsOnNine, [.user (.deliver (replyPacket echoProtobuf 9 1 controller rsp) none)],
    works 6 0]

/-- A server relays the call of that caller, and takes the reply to its own. -/
def relaysReply (controller : RpcController) (rsp : EchoMessage) : List (Label EchoMessage) :=
  let hello : EchoMessage := ⟨EchoMessage.request, some (text "hello")⟩
  .flatten [[.user (.addService myEchoService),
      .user (.deliver (requestPacket echoProtobuf 7 relayEchoMethod 1 hello) none)],
    works 3 0, relayEcho 0 (some 9) hello, works 4 0,
    [.proceed, .user (.deliver (replyPacket echoProtobuf 9 1 controller rsp) (some 0))],
    works 6 0]

/-- A handler fails with a text. The server that relays it finds the text, and so do the
caller of that server and the one behind a second relay. -/
theorem busy_reaches_caller :
    let busy : RpcController := ⟨true, text "busy"⟩
    let rsp : EchoMessage := ⟨EchoMessage.response, none⟩
    let relayed : EchoMessage := ⟨EchoMessage.response, some []⟩
    let relay := ((machine echoProtobuf).replay (fun _ _ => true) (State.init echoProtobuf false)
      (relaysReply busy rsp)).get (by decide +kernel)
    let client := ((machine echoProtobuf).replay (fun _ _ => true) (State.init echoProtobuf false)
      (takesReply busy relayed)).get (by decide +kernel)
    (∃ relay', (machine echoProtobuf).step relay .proceed = .ok relay' ∧
      (relay'.call 0).controller = busy) ∧
    (∃ client', (machine echoProtobuf).step client .proceed = .ok client' ∧
      (client'.call 0).controller = busy ∧ (client'.call 0).response = relayed) ∧
    (throughRelays (fun controller rsp =>
        (delivered echoProtobuf EchoMessage.response controller rsp).controller)
      busy rsp [relayed, relayed]).isFailed = true := by
  intro busy rsp relayed relay client
  let server := (machine echoProtobuf).play (State.init echoProtobuf false)
    (failingEcho (text "busy"))
  let server' := (machine echoProtobuf).play server [.user .handlerReturn]
  -- The handler of the relay, about to return.
  let handler := (machine echoProtobuf).play (State.init echoProtobuf false)
    (.flatten [relaysReply busy rsp, [.proceed], (relayEchoRet 0 busy rsp).dropLast])
  let handler' := (machine echoProtobuf).play handler [.user .handlerReturn]
  let request (method : MethodDescriptor) (sessionId : Int) (rsp : EchoMessage) :
      Request EchoMessage :=
    { service := 0, method := method, sessionId := sessionId, srcCoroId := 1,
      req := ⟨EchoMessage.request, some (text "hello")⟩, controller := busy, rsp := rsp,
      returned := false }
  have inverts : ∀ message ∈ [rsp, relayed], echoProtobuf.Inverts EchoMessage.response message := by
    intro message member
    rcases List.mem_pair.mp member with rfl | rfl <;> exact echoProtobuf_inverts (by decide)
  have innerRun : (machine echoProtobuf).Run (fun _ _ => True) (State.init echoProtobuf false)
      server := .of_play (by decide +kernel)
  have innerStep : (machine echoProtobuf).step server (.user .handlerReturn) = .ok server' :=
    Machine.step_of_play (by decide +kernel)
  have innerFrames : relay.frames relay.core.coSelf = [.callWait 0 0, .entry 0] := by
    decide +kernel
  have innerRead : (replyPacket echoProtobuf 9 1 busy rsp).readInt32 =
      some (1, (relay.received 1).packet) := by decide +kernel
  have innerRequest : (server.received 0).request = some (request echoMethod 9 rsp) := by
    decide +kernel
  have relayType : (relay.call 0).responseType = EchoMessage.response := by decide +kernel
  have outerRun : (machine echoProtobuf).Run (fun _ _ => True) (State.init echoProtobuf false)
      handler := .of_play (by decide +kernel)
  have outerStep : (machine echoProtobuf).step handler (.user .handlerReturn) = .ok handler' :=
    Machine.step_of_play (by decide +kernel)
  have outerFrames : client.frames client.core.coSelf = [.callWait 0 0] := by decide +kernel
  have outerRead : (replyPacket echoProtobuf 9 1 busy relayed).readInt32 =
      some (1, (client.received 0).packet) := by decide +kernel
  have outerRequest : (handler.received 0).request = some (request relayEchoMethod 7 relayed) := by
    decide +kernel
  have clientType : (client.call 0).responseType = EchoMessage.response := by decide +kernel
  obtain ⟨⟨relay', relayTakes, relayFinds⟩, chain⟩ := status_reaches_caller innerRun
    (.inl (by decide +kernel)) innerRequest innerStep (by decide +kernel) rfl innerRead
    (by decide +kernel) innerFrames (by decide +kernel) (by decide +kernel) (by decide +kernel)
    (by decide +kernel) (by decide +kernel) (by decide) (relayType ▸ inverts rsp (by decide))
  obtain ⟨⟨client', clientTakes, clientFinds⟩, -⟩ := status_reaches_caller outerRun
    (.inr (by decide +kernel)) outerRequest outerStep (by decide +kernel) rfl outerRead
    (by decide +kernel) outerFrames (by decide +kernel) (by decide +kernel) (by decide +kernel)
    (by decide +kernel) (by decide +kernel) (by decide) (clientType ▸ inverts relayed (by decide))
  rw [relayType] at chain
  refine ⟨⟨relay', relayTakes, (relayFinds.mpr (by decide)).2.1⟩,
    ⟨client', clientTakes, (clientFinds.mpr (by decide)).2⟩, ?_⟩
  refine (chain (by decide) [relayed, relayed] fun message member => ?_).mpr (by decide)
  rcases List.mem_pair.mp member with rfl | rfl <;> exact ⟨by decide, inverts _ (by decide)⟩

/-- A handler fails with an empty reason: its reply is that of a handler that succeeds, and
the caller finds no failure. -/
theorem empty_reason_lost :
    ((machine echoProtobuf).replay (fun _ _ => true) (State.init echoProtobuf false)
      (failingEcho [] ++ [.user .handlerReturn])).map
      (fun s => ((s.received 0).request.map Request.controller,
        s.pushed.head?.map Packet.payload)) =
      some (some ⟨true, []⟩, some (replyPacket echoProtobuf 9 1 ⟨true, []⟩
        ⟨EchoMessage.response, none⟩).payload) ∧
    ((machine echoProtobuf).replay (fun _ _ => true) (State.init echoProtobuf false)
      (takesReply ⟨true, []⟩ ⟨EchoMessage.response, none⟩ ++ [.proceed])).map
      (fun s => ((s.call 0).returnedAt.isSome, (s.call 0).controller)) =
      some (true, ⟨false, []⟩) := by
  constructor <;> decide +kernel

end LibcoRpc.Rpc
