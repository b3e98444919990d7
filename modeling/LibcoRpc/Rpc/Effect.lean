import LibcoRpc.CoroMgr.Settle
import LibcoRpc.Rpc.Step

/-!
# What a step of the process does

`Effect` lists everything that one step can do, each case with what it found and the
state it leaves; `step_effect` says that the code does nothing else. The invariants of
the RPC layer are proved case by case over `Effect` and never unfold the code.
`core_run` is the bridge to the coroutine manager: the steps that a run makes there are a
run of it, and keep its discipline if the run does.
-/

namespace LibcoRpc.Rpc

open LibcoRpc.Std
open LibcoRpc.CoroMgr (Co CoroPtr Choice Op)

variable {Msg : Type} {protobuf : Protobuf Msg} {s s' : State Msg}

/-- A lookup that finds a service and a method has changed nothing. -/
theorem Services.select_found {services after : Services} {serviceName methodName : Bytes}
    {service : Nat} {method : MethodDescriptor}
    (selected : services.select serviceName methodName = (after, some service, some method)) :
    after = services := by
  unfold Services.select at selected
  split at selected
  · cases selected
  · split at selected
    · simp at selected
    · simp only [Prod.mk.injEq] at selected
      exact selected.1.symm

/-- The service takes a packet and nothing comes of it. -/
inductive Dropped (protobuf : Protobuf Msg) (s : State Msg) (packet : Packet) : Packet → Prop where
  | unhandled (notReq : packet.opcode ≠ rpcReq) (notRsp : packet.opcode ≠ rpcRsp) :
      Dropped protobuf s packet packet
  | noId (isRsp : packet.opcode = rpcRsp) (unread : packet.readInt32 = none) :
      Dropped protobuf s packet packet
  | noCoro {dstCoroId : Int} {rest : Packet} (isRsp : packet.opcode = rpcRsp)
      (read : packet.readInt32 = some (dstCoroId, rest))
      (unknown : s.core.getCoro dstCoroId = none) : Dropped protobuf s packet rest
  | noHeader (isReq : packet.opcode = rpcReq) (unread : readHeader packet = none) :
      Dropped protobuf s packet packet
  | noBody {serviceName methodName : Bytes} {srcCoroId : Int} {rest after : Packet}
      {service : Nat} {method : MethodDescriptor} {left : Msg} (isReq : packet.opcode = rpcReq)
      (read : readHeader packet = some (serviceName, methodName, srcCoroId, rest))
      (selected : s.services.select serviceName methodName =
        (s.services, some service, some method))
      (unread : rest.readMessage protobuf method.requestType
        (protobuf.empty method.requestType) = (false, left, after)) :
      Dropped protobuf s packet after

/-- `HandleRpcReq` reads a request, and the service and the method are there. -/
structure Accepts (protobuf : Protobuf Msg) (s : State Msg) (packet after : Packet)
    (request : Request Msg) : Prop where
  isReq : packet.opcode = rpcReq
  read : ∃ serviceName methodName rest,
    readHeader packet = some (serviceName, methodName, request.srcCoroId, rest) ∧
    s.services.select serviceName methodName =
      (s.services, some request.service, some request.method) ∧
    rest.readMessage protobuf request.method.requestType
      (protobuf.empty request.method.requestType) = (true, request.req, after)
  fresh : request.controller = .new ∧ request.rsp = protobuf.empty request.method.responseType ∧
    request.returned = false
  session : request.sessionId = packet.sessionId

/-- Everything one step can do. -/
inductive Effect (protobuf : Protobuf Msg) (s : State Msg) : Label Msg → State Msg → Prop where
  | work {choice : Choice} {core : CoroMgr.State}
      (taken : CoroMgr.machine.step s.core (.work choice) = .ok core) :
      Effect protobuf s (.work choice) { s with core := core }
  | op {op : Op} {core : CoroMgr.State} (userRuns : s.core.UserRuns) (userCode : s.userCode)
      (own : ownOp (s.frames s.core.coSelf) op)
      (taken : CoroMgr.machine.step s.core (.user op) = .ok core) :
      Effect protobuf s (.user (.op op)) { s with core := core }.tick
  /-- `CallMethod` refuses the main coroutine. -/
  | rejected {sessionId : Int} {method : MethodDescriptor} {controller : RpcController}
      {request : Msg} {coro : CoroPtr} (userRuns : s.core.UserRuns) (userCode : s.userCode)
      (found : s.core.getCurCoro = .ok (some coro))
      (isMain : (s.core.coro coro).isMainCoro = true) :
      Effect protobuf s (.user (.callMethod sessionId method controller request))
        (s.newCall { s.beginCall protobuf s.core.coSelf coro sessionId method controller with
          sent := false, returnedAt := some s.time }).tick
  /-- `CallMethod` sends its request and yields. -/
  | called {sessionId : Int} {method : MethodDescriptor} {controller : RpcController}
      {request : Msg} {coro : CoroPtr} {core : CoroMgr.State} (userRuns : s.core.UserRuns)
      (userCode : s.userCode) (found : s.core.getCurCoro = .ok (some coro))
      (notMain : (s.core.coro coro).isMainCoro = false)
      (taken : CoroMgr.machine.step s.core (.user (.coroYield coro 0)) = .ok core) :
      Effect protobuf s (.user (.callMethod sessionId method controller request))
        { ((s.newCall (s.beginCall protobuf s.core.coSelf coro sessionId method
              controller)).pushPacket
            (requestPacket protobuf sessionId method (s.core.coro coro).coroId request)).goto
          s.core.coSelf (.callWait s.callCount coro :: s.frames s.core.coSelf) with
          core := core }.tick
  /-- `CallMethod` returns after a timeout or a cancellation. -/
  | flagged {number : CallId} {coro : CoroPtr} {rest : List RpcFrame} {reason : Bytes}
      (userRuns : s.core.UserRuns)
      (frames : s.frames s.core.coSelf = .callWait number coro :: rest) :
      Effect protobuf s .proceed
        ((s.goto s.core.coSelf rest).setCall number
          { s.call number with
            returnedAt := some s.time
            controller := (s.call number).controller.setFailed reason }).tick
  /-- `CallMethod` returns after it has read from a packet. -/
  | read {number : CallId} {coro : CoroPtr} {rest : List RpcFrame} {recvPacket : PacketPtr}
      {reading : Reading Msg} (userRuns : s.core.UserRuns)
      (frames : s.frames s.core.coSelf = .callWait number coro :: rest)
      (stored : (s.core.coro coro).ptrParam1 = some recvPacket)
      (live : (s.received recvPacket).recycled = false)
      (readingIs : reading = State.readResponse protobuf
        { s.call number with returnedAt := some s.time } (s.received recvPacket).packet) :
      Effect protobuf s .proceed
        (((s.goto s.core.coSelf rest).setReceived recvPacket
          { s.received recvPacket with packet := reading.packet }).setCall number
          { s.call number with
            returnedAt := some s.time
            controller := reading.controller
            response := reading.response
            decoded := if reading.decoded then some recvPacket else none }).tick
  | dropped {packet after : Packet} {answers : Option CallId} (userRuns : s.core.UserRuns)
      (userCode : s.userCode) (dropped : Dropped protobuf s packet after) :
      Effect protobuf s (.user (.deliver packet answers))
        ((s.receive packet after answers none).recycle s.receivedCount).tick
  /-- `HandleRpcRsp` stores the packet and resumes the coroutine. -/
  | dispatched {packet after : Packet} {answers : Option CallId} {dstCoroId : Int}
      {coro : CoroPtr} (userRuns : s.core.UserRuns) (userCode : s.userCode)
      (isRsp : packet.opcode = rpcRsp) (read : packet.readInt32 = some (dstCoroId, after))
      (found : s.core.getCoro dstCoroId = some coro) (live : s.core.live coro = true) :
      Effect protobuf s (.user (.deliver packet answers))
        { (s.receive packet after answers none).goto s.core.coSelf
            (.rspRet s.receivedCount coro :: s.frames s.core.coSelf) with
          core := (s.core.setPtrParam1 coro (some s.receivedCount)).goto s.core.coSelf
            [.resume coro .nil .explicit] }.tick
  /-- `HandleRpcReq` calls the handler itself. -/
  | inline {packet after : Packet} {answers : Option CallId} {request : Request Msg}
      (userRuns : s.core.UserRuns) (userCode : s.userCode)
      (accepts : Accepts protobuf s packet after request)
      (mode : request.method.isCoroRequired = false) :
      Effect protobuf s (.user (.deliver packet answers))
        ((s.receive packet after answers (some request)).goto s.core.coSelf
          (.handler s.receivedCount :: s.frames s.core.coSelf)).tick
  /-- `HandleRpcReq` creates a coroutine for the handler and resumes it. -/
  | spawned {packet after : Packet} {answers : Option CallId} {request : Request Msg}
      (userRuns : s.core.UserRuns) (userCode : s.userCode)
      (accepts : Accepts protobuf s packet after request)
      (mode : request.method.isCoroRequired = true) :
      Effect protobuf s (.user (.deliver packet answers))
        { ((s.receive packet after answers (some request)).goto (.co s.core.coroCount)
              [.entry s.receivedCount]).goto s.core.coSelf
            (.reqRet s.receivedCount ::
              Function.update s.frames (.co s.core.coroCount) [.entry s.receivedCount]
                s.core.coSelf) with
          core := (s.core.createCoro s.receivedCount 0).goto s.core.coSelf
            [.resume s.core.coroCount .nil .explicit] }.tick
  | addService {service : Service} (userRuns : s.core.UserRuns) :
      Effect protobuf s (.user (.addService service))
        { s with services := s.services.addService service }.tick
  /-- User code writes to the controller or the response of a request. -/
  | wrote {action : Action Msg} {packet : PacketPtr} {request after : Request Msg}
      (userRuns : s.core.UserRuns) (accepted : (s.received packet).request = some request)
      (running : request.returned = false)
      (write : (∃ reason, action = .setFailed packet reason) ∨
        ∃ rsp, action = .setResponse packet rsp)
      (kept : after.sessionId = request.sessionId ∧ after.srcCoroId = request.srcCoroId ∧
        after.returned = false) :
      Effect protobuf s (.user action)
        (s.setReceived packet { s.received packet with request := some after }).tick
  /-- A handler that `HandleRpcReq` called itself returns. -/
  | handled {packet : PacketPtr} {rest : List RpcFrame} {request : Request Msg}
      (userRuns : s.core.UserRuns)
      (frames : s.frames s.core.coSelf = .handler packet :: rest)
      (accepted : (s.received packet).request = some request) :
      Effect protobuf s (.user .handlerReturn)
        (((s.onRpcDone protobuf packet request).goto s.core.coSelf rest).recycle packet).tick
  /-- A handler in a coroutine of its own returns, and the coroutine ends. -/
  | finished {packet : PacketPtr} {rest : List RpcFrame} {request : Request Msg}
      {core : CoroMgr.State} (userRuns : s.core.UserRuns)
      (frames : s.frames s.core.coSelf = .entry packet :: rest)
      (accepted : (s.received packet).request = some request)
      (taken : CoroMgr.machine.step s.core (.user .entryReturn) = .ok core) :
      Effect protobuf s (.user .handlerReturn)
        { (s.onRpcDone protobuf packet request).goto s.core.coSelf rest with
          core := core }.tick
  /-- `HandleRpcRsp` or `HandleRpcReq` returns, and the service recycles the packet. -/
  | back {packet : PacketPtr} {frame : RpcFrame} {rest : List RpcFrame}
      (userRuns : s.core.UserRuns) (frames : s.frames s.core.coSelf = frame :: rest)
      (which : (∃ coro, frame = .rspRet packet coro) ∨ frame = .reqRet packet) :
      Effect protobuf s .proceed ((s.goto s.core.coSelf rest).recycle packet).tick

/-! ## The code does nothing else -/

/-- A step of the coroutine manager changes nothing else. -/
theorem coreStep_cases {label : CoroMgr.Label} (taken : s.coreStep label = .ok s') :
    ∃ core, CoroMgr.machine.step s.core label = .ok core ∧ s' = { s with core := core } := by
  simp only [State.coreStep] at taken
  split at taken
  next core stepped =>
    cases taken
    exact ⟨core, stepped, rfl⟩
  next => cases taken

/-- The clock goes on when a call has had its effect. -/
theorem map_tick_cases {result : Except Fault (State Msg)}
    (taken : result.map State.tick = .ok s') :
    ∃ before, result = .ok before ∧ s' = before.tick := by
  cases result with
  | error fault => cases taken
  | ok before =>
      cases taken
      exact ⟨before, rfl, rfl⟩

/-- An action of user code, where user code runs. -/
theorem user_cases {action : Action Msg}
    (taken : (machine protobuf).step s (.user action) = .ok s') :
    s.core.UserRuns ∧ s.userCode = true ∧
      ∃ before, s.act protobuf s.core.coSelf action = .ok before ∧ s' = before.tick := by
  simp only [machine, State.step] at taken
  split_ifs at taken with both
  exact ⟨both.1, both.2, map_tick_cases taken⟩

/-- At a moment when user code runs, an operation is what `userStep` makes of it. -/
theorem step_user {core core' : CoroMgr.State} {op : Op} (userRuns : core.UserRuns)
    (taken : CoroMgr.machine.step core (.user op) = .ok core') :
    core.userStep core.coSelf op = .ok core' := by
  have frames : core.frames core.coSelf = [] := userRuns
  simpa [CoroMgr.machine, CoroMgr.State.step, frames] using taken

theorem setPtrParam1_step {core core' : CoroMgr.State} {coro : CoroPtr} {param : Option Nat}
    (userRuns : core.UserRuns)
    (taken : CoroMgr.machine.step core (.user (.setPtrParam1 coro param)) = .ok core') :
    core.live coro = true ∧ core' = core.setPtrParam1 coro param := by
  have taken := step_user userRuns taken
  simp only [CoroMgr.State.userStep] at taken
  split_ifs at taken with live
  cases taken
  exact ⟨live, rfl⟩

theorem coroResume_step {core core' : CoroMgr.State} {coro : CoroPtr} {passData : CoroMgr.Variant}
    (userRuns : core.UserRuns)
    (taken : CoroMgr.machine.step core (.user (.coroResume coro passData)) = .ok core') :
    core' = core.goto core.coSelf [.resume coro passData .explicit] := by
  have taken := step_user userRuns taken
  simp only [CoroMgr.State.userStep] at taken
  split_ifs at taken
  cases taken
  rfl

section

variable {packet : Packet} {answers : Option CallId}

/-- What `HandleRpcRsp` does. -/
theorem handleRpcRsp_effect (userRuns : s.core.UserRuns) (userCode : s.userCode)
    (isRsp : packet.opcode = rpcRsp)
    (taken : s.handleRpcRsp s.core.coSelf packet answers = .ok s') :
    Effect protobuf s (.user (.deliver packet answers)) s'.tick := by
  simp only [State.handleRpcRsp] at taken
  split at taken
  next unread =>
    cases taken
    exact .dropped userRuns userCode (.noId isRsp unread)
  next dstCoroId after read =>
    split at taken
    next unknown =>
      cases taken
      exact .dropped userRuns userCode (.noCoro isRsp read unknown)
    next coro found =>
      split at taken
      · cases taken
      next middle stored =>
        obtain ⟨core, stepped, rfl⟩ := coreStep_cases stored
        obtain ⟨last, resumed, rfl⟩ := coreStep_cases taken
        obtain ⟨live, rfl⟩ := setPtrParam1_step userRuns stepped
        have stillRuns : (s.core.setPtrParam1 coro (some s.receivedCount)).UserRuns := userRuns
        have isLast := coroResume_step stillRuns resumed
        subst isLast
        exact .dispatched userRuns userCode isRsp read found live

/-- What `HandleRpcReq` does. -/
theorem handleRpcReq_effect (userRuns : s.core.UserRuns) (userCode : s.userCode)
    (isReq : packet.opcode = rpcReq)
    (taken : s.handleRpcReq protobuf s.core.coSelf packet answers = .ok s') :
    Effect protobuf s (.user (.deliver packet answers)) s'.tick := by
  simp only [State.handleRpcReq] at taken
  split at taken
  next unread =>
    cases taken
    exact .dropped userRuns userCode (.noHeader isReq unread)
  next serviceName methodName srcCoroId rest read =>
    split at taken
    · cases taken
    · cases taken
    next services service method selected =>
      have same := Services.select_found selected
      subst same
      split at taken
      next left after unread =>
        cases taken
        exact .dropped userRuns userCode (.noBody isReq read selected unread)
      next req after body =>
        have accepts : Accepts protobuf s packet after
            { service := service, method := method, sessionId := packet.sessionId,
              srcCoroId := srcCoroId, req := req, controller := .new,
              rsp := protobuf.empty method.responseType, returned := false } :=
          ⟨isReq, ⟨_, _, _, read, selected, body⟩, ⟨rfl, rfl, rfl⟩, rfl⟩
        split_ifs at taken with mode
        · cases taken
          exact .inline userRuns userCode accepts (by simpa using mode)
        · split at taken
          · cases taken
          next middle created =>
            obtain ⟨core, stepped, rfl⟩ := coreStep_cases created
            obtain ⟨last, resumed, rfl⟩ := coreStep_cases taken
            have isCore := step_user userRuns stepped
            cases isCore
            have stillRuns : (s.core.createCoro s.receivedCount 0).UserRuns := userRuns
            have isLast := coroResume_step stillRuns resumed
            subst isLast
            exact .spawned userRuns userCode accepts (by simpa using mode)

/-- What the arrival of a packet does. -/
theorem deliver_effect (userRuns : s.core.UserRuns) (userCode : s.userCode)
    (taken : s.deliver protobuf s.core.coSelf packet answers = .ok s') :
    Effect protobuf s (.user (.deliver packet answers)) s'.tick := by
  simp only [State.deliver] at taken
  split_ifs at taken with isReq isRsp
  · exact handleRpcReq_effect userRuns userCode isReq taken
  · exact handleRpcRsp_effect userRuns userCode isRsp taken
  · cases taken
    exact .dropped userRuns userCode (.unhandled isReq isRsp)

end

/-- What `CallMethod` does up to its `Yield`. -/
theorem callMethod_effect {sessionId : Int} {method : MethodDescriptor}
    {controller : RpcController} {request : Msg} (userRuns : s.core.UserRuns)
    (userCode : s.userCode)
    (taken : s.callMethod protobuf s.core.coSelf sessionId method controller request = .ok s') :
    Effect protobuf s (.user (.callMethod sessionId method controller request)) s'.tick := by
  simp only [State.callMethod] at taken
  split at taken
  · cases taken
  · cases taken
  next coro found =>
    split_ifs at taken with isMain
    · cases taken
      exact .rejected userRuns userCode found isMain
    · obtain ⟨core, stepped, rfl⟩ := coreStep_cases taken
      exact .called userRuns userCode found (by simpa using isMain) stepped

/-- A handler writes to the controller or the response of its request. -/
theorem setRequest_effect {action : Action Msg} {packet : PacketPtr}
    {update : Request Msg → Request Msg} (userRuns : s.core.UserRuns)
    (taken : s.setRequest packet update = .ok s')
    (write : (∃ reason, action = .setFailed packet reason) ∨
      ∃ rsp, action = .setResponse packet rsp)
    (kept : ∀ request, (update request).sessionId = request.sessionId ∧
      (update request).srcCoroId = request.srcCoroId ∧
      (update request).returned = request.returned) :
    Effect protobuf s (.user action) s'.tick := by
  simp only [State.setRequest] at taken
  split at taken
  · cases taken
  next request accepted =>
    split_ifs at taken with returned
    cases taken
    have running : request.returned = false := by simpa using returned
    obtain ⟨session, src, same⟩ := kept request
    exact .wrote userRuns accepted running write ⟨session, src, same.trans running⟩

/-- What happens when a handler returns. -/
theorem handlerReturn_effect (userRuns : s.core.UserRuns)
    (taken : s.handlerReturn protobuf s.core.coSelf = .ok s') :
    Effect protobuf s (.user .handlerReturn) s'.tick := by
  simp only [State.handlerReturn] at taken
  split at taken
  next packet rest frames =>
    split at taken
    · cases taken
    next request accepted =>
      cases taken
      exact .handled userRuns frames accepted
  next packet rest frames =>
    split at taken
    · cases taken
    next request accepted =>
      obtain ⟨core, stepped, rfl⟩ := coreStep_cases taken
      exact .finished userRuns frames accepted stepped
  next => cases taken

/-- What a call that has waited does when it goes on. -/
theorem proceed_effect (userRuns : s.core.UserRuns)
    (taken : s.proceed protobuf s.core.coSelf = .ok s') :
    Effect protobuf s .proceed s'.tick := by
  simp only [State.proceed] at taken
  split at taken
  next number coro rest frames =>
    simp only [State.callMethodRet] at taken
    split_ifs at taken with timeouted cancelled
    · cases taken
      exact .flagged userRuns frames
    · cases taken
      exact .flagged userRuns frames
    · split at taken
      · cases taken
      next recvPacket stored =>
        split at taken
        · cases taken
        next notRecycled =>
          cases taken
          exact .read userRuns frames stored (Bool.eq_false_iff.mpr notRecycled) rfl
  next packet coro rest frames =>
    cases taken
    exact .back userRuns frames (.inl ⟨coro, rfl⟩)
  next packet rest frames =>
    cases taken
    exact .back userRuns frames (.inr rfl)
  next => cases taken

/-- Every step has one of these effects. -/
theorem step_effect {label : Label Msg} (taken : (machine protobuf).step s label = .ok s') :
    Effect protobuf s label s' := by
  cases label with
  | work choice =>
      obtain ⟨core, stepped, rfl⟩ := coreStep_cases taken
      exact .work stepped
  | proceed =>
      simp only [machine, State.step] at taken
      split_ifs at taken with userRuns
      obtain ⟨before, proceeded, rfl⟩ := map_tick_cases taken
      exact proceed_effect userRuns proceeded
  | user action =>
      obtain ⟨userRuns, userCode, before, acted, rfl⟩ := user_cases taken
      cases action with
      | op op =>
          simp only [State.act] at acted
          split_ifs at acted with own
          obtain ⟨core, stepped, rfl⟩ := coreStep_cases acted
          exact .op userRuns userCode own stepped
      | callMethod sessionId method controller request =>
          exact callMethod_effect userRuns userCode acted
      | deliver packet answers => exact deliver_effect userRuns userCode acted
      | addService service =>
          cases acted
          exact .addService userRuns
      | setFailed packet reason =>
          exact setRequest_effect userRuns acted (.inl ⟨_, rfl⟩) fun _ => ⟨rfl, rfl, rfl⟩
      | setResponse packet rsp =>
          exact setRequest_effect userRuns acted (.inr ⟨_, rfl⟩) fun _ => ⟨rfl, rfl, rfl⟩
      | handlerReturn => exact handlerReturn_effect userRuns acted
      | runDone =>
          simp only [State.act] at acted
          split at acted <;> cases acted

/-! ## Requests that are accepted -/

/-- The method whose handler `HandleRpcReq` calls for the packet: the header can be read,
the service and the method are there, and the body parses. -/
def State.target (protobuf : Protobuf Msg) (s : State Msg) (packet : Packet) :
    Option MethodDescriptor :=
  match readHeader packet with
  | none => none
  | some (serviceName, methodName, _, rest) =>
      match s.services.select serviceName methodName with
      | (_, some _, some method) =>
          if (rest.readMessage protobuf method.requestType
            (protobuf.empty method.requestType)).1 then some method else none
      | _ => none

/-- A request that is accepted has its method as target. -/
theorem Accepts.target {packet after : Packet} {request : Request Msg}
    (accepts : Accepts protobuf s packet after request) :
    s.target protobuf packet = some request.method := by
  obtain ⟨serviceName, methodName, rest, read, selected, body⟩ := accepts.read
  simp [State.target, read, selected, body]

/-- A request that is dropped has none. -/
theorem Dropped.target {packet after : Packet} (dropped : Dropped protobuf s packet after)
    (isReq : packet.opcode = rpcReq) : s.target protobuf packet = none := by
  cases dropped with
  | unhandled notReq => exact absurd isReq notReq
  | noId isRsp => exact absurd (isReq.symm.trans isRsp) (by decide)
  | noCoro isRsp => exact absurd (isReq.symm.trans isRsp) (by decide)
  | noHeader _ unread => simp [State.target, unread]
  | noBody _ read selected unread => simp [State.target, read, selected, unread]

/-! ## Packets that have been received -/

/-- What a step leaves of a packet that has been received. -/
structure Received.Kept (old new : Received Msg) : Prop where
  arrived : new.arrived = old.arrived
  arrivedAt : new.arrivedAt = old.arrivedAt
  answers : new.answers = old.answers
  recycled : old.recycled = true → new.recycled = true
  request : new.request = old.request ∨ ∃ before after, old.request = some before ∧
    new.request = some after ∧ after.sessionId = before.sessionId ∧
    after.srcCoroId = before.srcCoroId

theorem Received.Kept.refl (received : Received Msg) : received.Kept received :=
  ⟨rfl, rfl, rfl, id, .inl rfl⟩

/-- What a step makes of the packet that it receives. -/
structure Received.Made (protobuf : Protobuf Msg) (s : State Msg) (packet : Packet)
    (answers : Option CallId) (new : Received Msg) : Prop where
  arrived : new.arrived = packet
  arrivedAt : new.arrivedAt = s.time
  answers : new.answers = answers
  request : new.request = none ∧ (packet.opcode = rpcReq → s.target protobuf packet = none) ∨
    ∃ request after, Accepts protobuf s packet after request ∧ new.request = some request

/-- A write to one packet, in terms of all. -/
theorem kept_update {packet : PacketPtr} {value : Received Msg}
    (written : s'.received = Function.update s.received packet value)
    (kept : (s.received packet).Kept value) (other : PacketPtr) :
    (s.received other).Kept (s'.received other) := by
  rw [written]
  by_cases same : other = packet
  · subst same
    rwa [Function.update_self]
  · rw [Function.update_of_ne same]
    exact .refl _

/-- A step receives a packet, or none. -/
theorem Effect.received_cases {label : Label Msg} (effect : Effect protobuf s label s') :
    s'.receivedCount = s.receivedCount ∧
      (∀ packet, (s.received packet).Kept (s'.received packet)) ∨
    ∃ packet answers, label = .user (.deliver packet answers) ∧
      s'.receivedCount = s.receivedCount + 1 ∧
      (∀ other, other ≠ s.receivedCount → s'.received other = s.received other) ∧
      (s'.received s.receivedCount).Made protobuf s packet answers := by
  cases effect with
  | work | op | rejected | called | flagged | addService => exact .inl ⟨rfl, fun _ => .refl _⟩
  | read => exact .inl ⟨rfl, kept_update rfl ⟨rfl, rfl, rfl, id, .inl rfl⟩⟩
  | wrote _ accepted _ _ kept =>
      exact .inl ⟨rfl, kept_update rfl ⟨rfl, rfl, rfl, id,
        .inr ⟨_, _, accepted, rfl, kept.1, kept.2.1⟩⟩⟩
  | back => exact .inl ⟨rfl, kept_update rfl ⟨rfl, rfl, rfl, fun _ => rfl, .inl rfl⟩⟩
  | finished _ _ accepted =>
      exact .inl ⟨rfl, kept_update rfl ⟨rfl, rfl, rfl, id,
        .inr ⟨_, _, accepted, rfl, rfl, rfl⟩⟩⟩
  | handled _ _ accepted =>
      refine .inl ⟨rfl, kept_update (Function.update_idem ..) ?_⟩
      simp only [State.onRpcDone, State.pushPacket, State.setReceived, State.goto,
        Function.update_self]
      exact ⟨rfl, rfl, rfl, fun _ => rfl, .inr ⟨_, _, accepted, rfl, rfl, rfl⟩⟩
  | dropped _ _ dropped =>
      refine .inr ⟨_, _, rfl, rfl, fun other different => ?_, ?_⟩
      · simp [State.tick, State.recycle, State.setReceived, State.receive, different]
      · simp only [State.tick, State.recycle, State.setReceived, State.receive,
          Function.update_self]
        exact ⟨rfl, rfl, rfl, .inl ⟨rfl, dropped.target⟩⟩
  | dispatched _ _ isRsp =>
      refine .inr ⟨_, _, rfl, rfl, fun other different => Function.update_of_ne different _ _, ?_⟩
      simp only [State.tick, State.goto, State.receive, Function.update_self]
      exact ⟨rfl, rfl, rfl, .inl ⟨rfl, fun isReq =>
        absurd (isReq.symm.trans isRsp) (by decide)⟩⟩
  | inline _ _ accepts =>
      refine .inr ⟨_, _, rfl, rfl, fun other different => Function.update_of_ne different _ _, ?_⟩
      simp only [State.tick, State.goto, State.receive, Function.update_self]
      exact ⟨rfl, rfl, rfl, .inr ⟨_, _, accepts, rfl⟩⟩
  | spawned _ _ accepts =>
      refine .inr ⟨_, _, rfl, rfl, fun other different => Function.update_of_ne different _ _, ?_⟩
      simp only [State.tick, State.goto, State.receive, Function.update_self]
      exact ⟨rfl, rfl, rfl, .inr ⟨_, _, accepts, rfl⟩⟩

/-- Every packet that is delivered is received. -/
theorem Effect.made_of_deliver {packet : Packet} {answers : Option CallId}
    (effect : Effect protobuf s (.user (.deliver packet answers)) s') :
    s'.receivedCount = s.receivedCount + 1 ∧
      (s'.received s.receivedCount).Made protobuf s packet answers := by
  have count : s'.receivedCount = s.receivedCount + 1 := by
    cases effect with
    | dropped | dispatched | inline | spawned => rfl
    | wrote _ _ _ write => rcases write with ⟨_, other⟩ | ⟨_, other⟩ <;> cases other
  rcases effect.received_cases with ⟨same, _⟩ | ⟨_, _, isLabel, _, _, made⟩
  · omega
  · cases isLabel
    exact ⟨count, made⟩

/-! ## Runs of the coroutine manager -/

/-- The packet is a request for which `HandleRpcReq` creates a coroutine. -/
def State.spawns (protobuf : Protobuf Msg) (s : State Msg) (packet : Packet) : Bool :=
  packet.opcode == rpcReq && (s.target protobuf packet).any MethodDescriptor.isCoroRequired

/-- A coroutine is created for the methods that require one. -/
theorem Accepts.spawns {packet after : Packet} {request : Request Msg}
    (accepts : Accepts protobuf s packet after request) :
    s.spawns protobuf packet = request.method.isCoroRequired := by
  simp [State.spawns, accepts.isReq, accepts.target]

/-- The steps made in the coroutine manager keep its discipline. -/
def Disciplined (protobuf : Protobuf Msg) (s : State Msg) : Label Msg → Prop
  | .work choice => CoroMgr.Disciplined s.core (.work choice)
  | .user (.op op) => CoroMgr.Disciplined s.core (.user op)
  | .user (.deliver packet _) =>
      s.spawns protobuf packet = true → CoroMgr.TakesNewId s.core (.user (.createCoro 0 0))
  | _ => True

instance (s : State Msg) : (label : Label Msg) → Decidable (Disciplined protobuf s label)
  | .work choice => inferInstanceAs (Decidable (CoroMgr.Disciplined s.core (.work choice)))
  | .proceed => isTrue trivial
  | .user (.op op) => inferInstanceAs (Decidable (CoroMgr.Disciplined s.core (.user op)))
  | .user (.deliver packet _) => inferInstanceAs (Decidable (s.spawns protobuf packet = true →
      CoroMgr.TakesNewId s.core (.user (.createCoro 0 0))))
  | .user (.callMethod ..) => isTrue trivial
  | .user (.addService _) => isTrue trivial
  | .user (.setFailed ..) => isTrue trivial
  | .user (.setResponse ..) => isTrue trivial
  | .user .handlerReturn => isTrue trivial
  | .user .runDone => isTrue trivial

/-- The steps made in the coroutine manager take new ids only. -/
def TakesNewId (protobuf : Protobuf Msg) (s : State Msg) : Label Msg → Prop
  | .user (.op op) => CoroMgr.TakesNewId s.core (.user op)
  | .user (.deliver packet _) =>
      s.spawns protobuf packet = true → CoroMgr.TakesNewId s.core (.user (.createCoro 0 0))
  | _ => True

instance (s : State Msg) : (label : Label Msg) → Decidable (TakesNewId protobuf s label)
  | .work _ => isTrue trivial
  | .proceed => isTrue trivial
  | .user (.op op) => inferInstanceAs (Decidable (CoroMgr.TakesNewId s.core (.user op)))
  | .user (.deliver packet _) => inferInstanceAs (Decidable (s.spawns protobuf packet = true →
      CoroMgr.TakesNewId s.core (.user (.createCoro 0 0))))
  | .user (.callMethod ..) => isTrue trivial
  | .user (.addService _) => isTrue trivial
  | .user (.setFailed ..) => isTrue trivial
  | .user (.setResponse ..) => isTrue trivial
  | .user .handlerReturn => isTrue trivial
  | .user .runDone => isTrue trivial

/-- A disciplined step takes no id a second time. -/
theorem Disciplined.newId {label : Label Msg} (disciplined : Disciplined protobuf s label) :
    TakesNewId protobuf s label := by
  cases label with
  | work | proceed => trivial
  | user action =>
      cases action with
      | op => exact CoroMgr.Disciplined.newId disciplined
      | deliver => exact disciplined
      | _ => trivial

/-- An operation that takes no id keeps the discipline. -/
theorem disciplined_of_issues {core : CoroMgr.State} {op : Op}
    (takesNone : core.issues (.user op) = none) : CoroMgr.Disciplined core (.user op) where
  newId coroId taken := by
    rw [takesNone] at taken
    cases taken
  belowLongTimeout := trivial

/-! The operations that the RPC functions issue themselves, where they cannot fail. -/

section

variable {core : CoroMgr.State} {coro : CoroPtr} (userRuns : core.UserRuns)

include userRuns

theorem createCoro_ok {entry : Nat} :
    CoroMgr.machine.step core (.user (.createCoro entry 0)) = .ok (core.createCoro entry 0) := by
  have frames : core.frames core.coSelf = [] := userRuns
  simp [CoroMgr.machine, CoroMgr.State.step, CoroMgr.State.userStep, frames]

theorem coroResume_ok (live : core.live coro = true) :
    CoroMgr.machine.step core (.user (.coroResume coro .nil)) =
      .ok (core.goto core.coSelf [.resume coro .nil .explicit]) := by
  have frames : core.frames core.coSelf = [] := userRuns
  simp [CoroMgr.machine, CoroMgr.State.step, CoroMgr.State.userStep, frames, live]

theorem setPtrParam1_ok {param : Option Nat} (live : core.live coro = true) :
    CoroMgr.machine.step core (.user (.setPtrParam1 coro param)) =
      .ok (core.setPtrParam1 coro param) := by
  have frames : core.frames core.coSelf = [] := userRuns
  simp [CoroMgr.machine, CoroMgr.State.step, CoroMgr.State.userStep, frames, live]

end

theorem createCoro_live {core : CoroMgr.State} {entry : Nat} :
    (core.createCoro entry 0).live core.coroCount = true := by
  simp [CoroMgr.State.live, CoroMgr.State.createCoro, CoroMgr.State.newCoro,
    CoroMgr.State.genCoroId, CoroMgr.State.setInner, CoroMgr.State.record,
    CoroMgr.State.setCoro, CoroMgr.noCoro]

theorem setPtrParam1_live {core : CoroMgr.State} {coro : CoroPtr} {param : Option Nat} :
    (core.setPtrParam1 coro param).live coro = core.live coro := by
  simp only [CoroMgr.State.live, CoroMgr.State.setPtrParam1, CoroMgr.State.setCoro,
    Function.update_self]
  rfl

section

variable {Allowed : CoroMgr.State → CoroMgr.Label → Prop} {core : CoroMgr.State}
  (userRuns : core.UserRuns)
  (allowed : ∀ core op, core.issues (.user op) = none → Allowed core (.user op))

include userRuns allowed

/-- `coro->SetPtrParam1(&packet)` and `coro->Resume()`. -/
theorem dispatch_run {coro : CoroPtr} {param : Option Nat} (live : core.live coro = true) :
    CoroMgr.machine.Run Allowed core
      ((core.setPtrParam1 coro param).goto core.coSelf [.resume coro .nil .explicit]) := by
  have stillRuns : (core.setPtrParam1 coro param).UserRuns := userRuns
  have stored : CoroMgr.machine.step core (.user (.setPtrParam1 coro param)) = _ :=
    setPtrParam1_ok userRuns live
  have resumed := coroResume_ok stillRuns (setPtrParam1_live.trans live)
  exact .step (.step .start (allowed _ _ rfl) stored) (allowed _ _ rfl) resumed

/-- `CreateCoro` and `coro->Resume()`. -/
theorem spawn_run {entry : Nat} (created : Allowed core (.user (.createCoro entry 0))) :
    CoroMgr.machine.Run Allowed core
      ((core.createCoro entry 0).goto core.coSelf [.resume core.coroCount .nil .explicit]) := by
  have stillRuns : (core.createCoro entry 0).UserRuns := userRuns
  have resumed := coroResume_ok stillRuns createCoro_live
  exact .step (.step .start created (createCoro_ok userRuns)) (allowed _ _ rfl) resumed

end

/-- What a step does in the coroutine manager is a run of it, which keeps the discipline
if the step does. -/
theorem Effect.core_steps {label : Label Msg} (effect : Effect protobuf s label s') :
    CoroMgr.machine.Run (fun core coreLabel =>
      (Disciplined protobuf s label → CoroMgr.Disciplined core coreLabel) ∧
        (TakesNewId protobuf s label → CoroMgr.TakesNewId core coreLabel)) s.core s'.core := by
  have own : ∀ {core : CoroMgr.State} {op : Op}, core.issues (.user op) = none →
      (Disciplined protobuf s label → CoroMgr.Disciplined core (.user op)) ∧
        (TakesNewId protobuf s label → CoroMgr.TakesNewId core (.user op)) :=
    fun takesNone => ⟨fun _ => disciplined_of_issues takesNone,
      fun _ => (disciplined_of_issues takesNone).newId⟩
  cases effect with
  | work taken => exact .step .start ⟨id, fun _ _ issued => by cases issued⟩ taken
  | op _ _ _ taken => exact .step .start ⟨id, id⟩ taken
  | called _ _ _ _ taken => exact .step .start (own rfl) taken
  | finished _ _ _ taken => exact .step .start (own rfl) taken
  | dispatched userRuns _ _ _ _ live => exact dispatch_run userRuns (fun _ _ => own) live
  | spawned userRuns _ accepts mode =>
      have spawns := accepts.spawns.trans mode
      exact spawn_run userRuns (fun _ _ => own)
        ⟨fun disciplined => ⟨disciplined spawns, trivial⟩, fun newId => newId spawns⟩
  | rejected | flagged | read | dropped | inline | addService | wrote | handled | back =>
      exact .start

/-- The coroutine manager of a disciplined process runs with discipline. -/
theorem core_run {env : Bool}
    (run : (machine protobuf).Run (Disciplined protobuf) (State.init protobuf env) s) :
    CoroMgr.machine.Run CoroMgr.Disciplined (CoroMgr.State.init env) s.core := by
  induction run with
  | start => exact .start
  | step _ disciplined taken ih =>
      exact ih.trans ((step_effect taken).core_steps.mono fun _ _ keeps => keeps.1 disciplined)

/-- If no id is taken twice, the coroutine manager takes only free ids. -/
theorem core_run_free {env : Bool}
    (run : (machine protobuf).Run (TakesNewId protobuf) (State.init protobuf env) s) :
    CoroMgr.machine.Run CoroMgr.TakesFreeId (CoroMgr.State.init env) s.core := by
  refine CoroMgr.freeIds_of_run ?_
  induction run with
  | start => exact .start
  | step _ newId taken ih =>
      exact ih.trans ((step_effect taken).core_steps.mono fun _ _ keeps => keeps.2 newId)

/-! ## Coroutines that exist -/

/-- A run of the coroutine manager creates coroutines and forgets none. -/
theorem grounded_of_run {Allowed : CoroMgr.State → CoroMgr.Label → Prop}
    {core core' : CoroMgr.State} (run : CoroMgr.machine.Run Allowed core core')
    (grounded : core.registry.Grounded) :
    core'.registry.Grounded ∧ core.coroCount ≤ core'.coroCount := by
  induction run with
  | start => exact ⟨grounded, Nat.le_refl _⟩
  | step _ _ taken ih =>
      obtain ⟨stepped, more⟩ := ih.1.step (CoroMgr.State.step_registry taken)
      exact ⟨stepped, Nat.le_trans ih.2 more⟩

/-- A coroutine that has been created keeps its id. -/
theorem coroId_of_run {Allowed : CoroMgr.State → CoroMgr.Label → Prop}
    {core core' : CoroMgr.State} (run : CoroMgr.machine.Run Allowed core core')
    (grounded : core.registry.Grounded) {coro : CoroPtr} (created : coro < core.coroCount) :
    (core'.coro coro).coroId = (core.coro coro).coroId := by
  induction run with
  | start => rfl
  | step prior _ taken ih =>
      have still := Nat.lt_of_lt_of_le created (grounded_of_run prior grounded).2
      exact ((CoroMgr.State.step_registry taken).coroId_kept still).trans ih

/-- Only a coroutine that has been created is inside a function of the RPC layer. -/
structure Grounded (s : State Msg) : Prop where
  registry : s.core.registry.Grounded
  framed : ∀ coro, s.frames (.co coro) ≠ [] → coro < s.core.coroCount

/-- What runs has been created. -/
theorem Grounded.self_lt (grounded : Grounded s) {coro : CoroPtr}
    (runs : s.core.coSelf = .co coro) : coro < s.core.coroCount := by
  refine grounded.registry.stacked coro ?_
  have stack : s.core.registry.callStack = s.core.callStack := rfl
  rw [stack]
  simp only [CoroMgr.State.coSelf] at runs
  cases onTop : s.core.callStack with
  | nil => simp [onTop] at runs
  | cons top below => simpa [onTop] using Or.inl runs.symm

/-- A step changes the frames of the running coroutine and of one that it creates. -/
theorem Effect.frames_cases {label : Label Msg} (effect : Effect protobuf s label s') (co : Co) :
    s'.frames co = s.frames co ∨ co = s.core.coSelf ∨
      co = .co s.core.coroCount ∧ s.core.coroCount < s'.core.coroCount := by
  by_cases self : co = s.core.coSelf
  · exact .inr (.inl self)
  cases effect with
  | work | op | rejected | dropped | addService | wrote => exact .inl rfl
  | called | flagged | read | dispatched | inline | handled | finished | back =>
      exact .inl (Function.update_of_ne self _ _)
  | spawned =>
      by_cases new : co = .co s.core.coroCount
      · exact .inr (.inr ⟨new, Nat.lt_succ_self _⟩)
      · exact .inl ((Function.update_of_ne self _ _).trans (Function.update_of_ne new _ _))

/-- Every step keeps this. -/
theorem Grounded.step {label : Label Msg} (grounded : Grounded s)
    (effect : Effect protobuf s label s') : Grounded s' := by
  obtain ⟨registry, more⟩ := grounded_of_run effect.core_steps grounded.registry
  refine ⟨registry, fun coro framed => ?_⟩
  rcases effect.frames_cases (.co coro) with same | self | ⟨new, created⟩
  · exact Nat.lt_of_lt_of_le (grounded.framed coro (same ▸ framed)) more
  · exact Nat.lt_of_lt_of_le (grounded.self_lt self.symm) more
  · exact Co.co.inj new ▸ created

theorem grounded_init {env : Bool} : Grounded (State.init protobuf env) where
  registry :=
    { inner := fun _ => .inl rfl
      allocated := fun _ isCo => by cases isCo
      stacked := fun _ member => by cases member with | tail _ member => cases member }
  framed _ framed := absurd rfl framed

end LibcoRpc.Rpc
