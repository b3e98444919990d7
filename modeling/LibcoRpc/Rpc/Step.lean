import LibcoRpc.Rpc.State

/-!
# Code of the RPC layer

`RpcChannel::CallMethod`, `RpcMgr::HandleRpcReq`, `RpcMgr::HandleRpcRsp` and
`RpcMgr::OnRpcDone`, cut where they call into the coroutine manager. What they do there
is a step of that machine (`coreStep`), so a run of this machine contains a run of it.

User code may issue any operation of the coroutine manager, call a method, let the
service dispatch a received packet, and, inside a handler, write to the controller and
the response it was given and return. Only `SetPtrParam1` is left to `HandleRpcRsp`.
-/

namespace LibcoRpc.Rpc

open LibcoRpc.Std
open LibcoRpc.CoroMgr (Co CoroPtr Choice Op)

/-- Why a step has no next state. -/
inductive Fault where
  /-- A fault inside the coroutine manager. -/
  | core (fault : CoroMgr.Fault)
  /-- `CallMethod` uses the null pointer that `GetCurCoro` returned. -/
  | nullCoro
  /-- `HandleRpcReq` calls a method of a null `service`. -/
  | nullService
  /-- `HandleRpcReq` hands a null `md` to the service. -/
  | nullMethod
  /-- A handler runs the closure it was given, which is always null. -/
  | nullClosure
  /-- `CallMethod` reads from a null packet. -/
  | nullPacket
  /-- `CallMethod` reads from a packet that has been recycled. -/
  | danglingPacket
  /-- User code writes to the objects of a request that are gone. -/
  | danglingRequest
  /-- The label does not fit the state; nothing happens. -/
  | blocked
deriving DecidableEq, Repr

/-- What user code can do. -/
inductive Action (Msg : Type) where
  | op (op : Op)
  | callMethod (sessionId : Int) (method : MethodDescriptor) (controller : RpcController)
      (request : Msg)
  /-- The service hands a packet to its handler; `answers` is what the peer says. -/
  | deliver (packet : Packet) (answers : Option CallId)
  | addService (service : Service)
  | setFailed (packet : PacketPtr) (reason : Bytes)
  | setResponse (packet : PacketPtr) (rsp : Msg)
  /-- The handler returns. -/
  | handlerReturn
  /-- The handler calls `done->Run()`. -/
  | runDone

/-- One step: more code of the coroutine manager, more code of the RPC layer, or an
action of user code. -/
inductive Label (Msg : Type) where
  | work (choice : Choice)
  | proceed
  | user (action : Action Msg)

/-- The operations of the coroutine manager that user code issues itself. A handler's
entry function returns with `handlerReturn`. -/
def ownOp (frames : List RpcFrame) : Op → Bool
  | .setPtrParam1 _ _ => false
  | .entryReturn => frames.isEmpty
  | _ => true

/-- The request packet that `CallMethod` writes. -/
def requestPacket {Msg : Type} (protobuf : Protobuf Msg) (sessionId : Int)
    (method : MethodDescriptor) (srcCoroId : Int) (request : Msg) : Packet :=
  ((((Packet.new sessionId rpcReq).writeString method.service).writeString
    method.name).writeInt32 srcCoroId).writeMessage protobuf request

/-- The reply packet that `OnRpcDone` writes. -/
def replyPacket {Msg : Type} (protobuf : Protobuf Msg) (sessionId srcCoroId : Int)
    (controller : RpcController) (rsp : Msg) : Packet :=
  (((Packet.new sessionId rpcRsp).writeInt32 srcCoroId).writeString
    controller.errorText).writeMessage protobuf rsp

/-- The names and the id at the head of a request. -/
def readHeader (packet : Packet) : Option (Bytes × Bytes × Int × Packet) :=
  match packet.readString with
  | none => none
  | some (serviceName, packet) =>
      match packet.readString with
      | none => none
      | some (methodName, packet) =>
          match packet.readInt32 with
          | none => none
          | some (srcCoroId, packet) => some (serviceName, methodName, srcCoroId, packet)

/-- What is left of a response packet that has been read: the controller and the response
of the call, the packet, and whether the response was decoded. -/
structure Reading (Msg : Type) where
  controller : RpcController
  response : Msg
  packet : Packet
  decoded : Bool

namespace State

variable {Msg : Type}

/-- A step of the coroutine manager. -/
def coreStep (s : State Msg) (label : CoroMgr.Label) : Except Fault (State Msg) :=
  match CoroMgr.machine.step s.core label with
  | .ok core => .ok { s with core := core }
  | .error fault => .error (.core fault)

/-! ## `RpcChannel` -/

/-- A call that begins: the response is cleared, nothing has been read. -/
def beginCall (protobuf : Protobuf Msg) (s : State Msg) (self : Co) (coro : CoroPtr)
    (sessionId : Int) (method : MethodDescriptor) (controller : RpcController) : Call Msg :=
  { caller := self, coro := coro, sessionId := sessionId,
    srcCoroId := (s.core.coro coro).coroId, responseType := method.responseType, sent := true,
    startedAt := s.time, controller := controller,
    response := protobuf.empty method.responseType, returnedAt := none, decoded := none }

/-- `RpcChannel::CallMethod` up to `coro->Yield()`. -/
def callMethod (protobuf : Protobuf Msg) (s : State Msg) (self : Co) (sessionId : Int)
    (method : MethodDescriptor) (controller : RpcController) (request : Msg) :
    Except Fault (State Msg) :=
  match s.core.getCurCoro with
  | .error fault => .error (.core fault)
  | .ok none => .error .nullCoro
  | .ok (some coro) =>
      let call := s.beginCall protobuf self coro sessionId method controller
      if (s.core.coro coro).isMainCoro then
        .ok (s.newCall { call with sent := false, returnedAt := some s.time })
      else
        let packet := requestPacket protobuf sessionId method call.srcCoroId request
        let frames := .callWait s.callCount coro :: s.frames self
        (((s.newCall call).pushPacket packet).goto self frames).coreStep
          (.user (.coroYield coro 0))

/-- What `CallMethod` makes of the response packet. -/
def readResponse (protobuf : Protobuf Msg) (call : Call Msg) (packet : Packet) : Reading Msg :=
  match packet.readString with
  | none =>
      { controller := call.controller.setFailed (text "Read errText fail"),
        response := call.response, packet := packet, decoded := false }
  | some (errText, packet) =>
      match packet.readMessage protobuf call.responseType call.response with
      | (false, response, packet) =>
          { controller := call.controller.setFailed (text "Read recvPacket fail"),
            response := response, packet := packet, decoded := false }
      | (true, response, packet) =>
          { controller :=
              if errText.isEmpty then call.controller else call.controller.setFailed errText,
            response := response, packet := packet, decoded := true }

/-- `RpcChannel::CallMethod` after `coro->Yield()`. -/
def callMethodRet (protobuf : Protobuf Msg) (s : State Msg) (self : Co) (rest : List RpcFrame)
    (number : CallId) (coro : CoroPtr) : Except Fault (State Msg) :=
  let call := { s.call number with returnedAt := some s.time }
  let object := s.core.coro coro
  let s := s.goto self rest
  if object.timeouted then
    .ok (s.setCall number
      { call with controller := call.controller.setFailed (text "Coro timeouted") })
  else if object.cancelled then
    .ok (s.setCall number
      { call with controller := call.controller.setFailed (text "Coro cancelled") })
  else
    match object.ptrParam1 with
    | none => .error .nullPacket
    | some recvPacket =>
        let received := s.received recvPacket
        if received.recycled then .error .danglingPacket
        else
          let reading := readResponse protobuf call received.packet
          .ok ((s.setReceived recvPacket { received with packet := reading.packet }).setCall
            number
            { call with
              controller := reading.controller, response := reading.response,
              decoded := if reading.decoded then some recvPacket else none })

/-! ## `RpcMgr` -/

/-- `RpcMgr::HandleRpcRsp` up to `coro->Resume()`, on the next packet. -/
def handleRpcRsp (s : State Msg) (self : Co) (packet : Packet) (answers : Option CallId) :
    Except Fault (State Msg) :=
  let address := s.receivedCount
  match packet.readInt32 with
  | none => .ok ((s.receive packet packet answers none).recycle address)
  | some (dstCoroId, rest) =>
      let s := s.receive packet rest answers none
      match s.core.getCoro dstCoroId with
      | none => .ok (s.recycle address)
      | some coro =>
          match s.coreStep (.user (.setPtrParam1 coro (some address))) with
          | .error fault => .error fault
          | .ok s =>
              (s.goto self (.rspRet address coro :: s.frames self)).coreStep
                (.user (.coroResume coro .nil))

/-- `RpcMgr::HandleRpcReq` up to `service->CallMethod` or to `coro->Resume()`, on the next
packet. -/
def handleRpcReq (protobuf : Protobuf Msg) (s : State Msg) (self : Co) (packet : Packet)
    (answers : Option CallId) : Except Fault (State Msg) :=
  let address := s.receivedCount
  match readHeader packet with
  | none => .ok ((s.receive packet packet answers none).recycle address)
  | some (serviceName, methodName, srcCoroId, rest) =>
      match s.services.select serviceName methodName with
      | (_, none, _) => .error .nullService
      | (_, some _, none) => .error .nullMethod
      | (services, some service, some method) =>
          let s := { s with services := services }
          match rest.readMessage protobuf method.requestType
              (protobuf.empty method.requestType) with
          | (false, _, rest) => .ok ((s.receive packet rest answers none).recycle address)
          | (true, req, rest) =>
              let request : Request Msg :=
                { service := service, method := method, sessionId := packet.sessionId,
                  srcCoroId := srcCoroId, req := req, controller := .new,
                  rsp := protobuf.empty method.responseType, returned := false }
              let s := s.receive packet rest answers (some request)
              if !method.isCoroRequired then
                .ok (s.goto self (.handler address :: s.frames self))
              else
                let coro := s.core.coroCount
                match s.coreStep (.user (.createCoro address 0)) with
                | .error fault => .error fault
                | .ok s =>
                    let s := s.goto (.co coro) [.entry address]
                    (s.goto self (.reqRet address :: s.frames self)).coreStep
                      (.user (.coroResume coro .nil))

/-- `service->CallMethod` returns and `RpcMgr::OnRpcDone` runs. -/
def onRpcDone (protobuf : Protobuf Msg) (s : State Msg) (packet : PacketPtr)
    (request : Request Msg) : State Msg :=
  let s := s.setReceived packet
    { s.received packet with request := some { request with returned := true } }
  s.pushPacket
    (replyPacket protobuf request.sessionId request.srcCoroId request.controller request.rsp)

/-- The handler of the running coroutine returns. -/
def handlerReturn (protobuf : Protobuf Msg) (s : State Msg) (self : Co) :
    Except Fault (State Msg) :=
  match s.frames self with
  | .handler packet :: rest =>
      match (s.received packet).request with
      | none => .error .danglingRequest
      | some request =>
          .ok (((s.onRpcDone protobuf packet request).goto self rest).recycle packet)
  | .entry packet :: rest =>
      match (s.received packet).request with
      | none => .error .danglingRequest
      | some request =>
          ((s.onRpcDone protobuf packet request).goto self rest).coreStep (.user .entryReturn)
  | _ => .error .blocked

/-- Write to the controller or the response of a request whose handler is running. -/
def setRequest (s : State Msg) (packet : PacketPtr) (update : Request Msg → Request Msg) :
    Except Fault (State Msg) :=
  match (s.received packet).request with
  | none => .error .danglingRequest
  | some request =>
      if request.returned then .error .danglingRequest
      else .ok (s.setReceived packet
        { s.received packet with request := some (update request) })

/-- The service takes a packet and calls the handler of its opcode. -/
def deliver (protobuf : Protobuf Msg) (s : State Msg) (self : Co) (packet : Packet)
    (answers : Option CallId) : Except Fault (State Msg) :=
  if packet.opcode = rpcReq then s.handleRpcReq protobuf self packet answers
  else if packet.opcode = rpcRsp then s.handleRpcRsp self packet answers
  else .ok ((s.receive packet packet answers none).recycle s.receivedCount)

/-! ## Steps -/

/-- User code of the running coroutine does something. -/
def act (protobuf : Protobuf Msg) (s : State Msg) (self : Co) :
    Action Msg → Except Fault (State Msg)
  | .op op => if ownOp (s.frames self) op then s.coreStep (.user op) else .error .blocked
  | .callMethod sessionId method controller request =>
      s.callMethod protobuf self sessionId method controller request
  | .deliver packet answers => s.deliver protobuf self packet answers
  | .addService service => .ok { s with services := s.services.addService service }
  | .setFailed packet reason =>
      s.setRequest packet fun request =>
        { request with controller := request.controller.setFailed reason }
  | .setResponse packet rsp => s.setRequest packet fun request => { request with rsp := rsp }
  | .handlerReturn => s.handlerReturn protobuf self
  | .runDone =>
      match s.frames self with
      | .handler _ :: _ => .error .nullClosure
      | .entry _ :: _ => .error .nullClosure
      | _ => .error .blocked

/-- The innermost RPC function of the running coroutine goes on. -/
def proceed (protobuf : Protobuf Msg) (s : State Msg) (self : Co) : Except Fault (State Msg) :=
  match s.frames self with
  | .callWait number coro :: rest => s.callMethodRet protobuf self rest number coro
  | .rspRet packet _ :: rest => .ok ((s.goto self rest).recycle packet)
  | .reqRet packet :: rest => .ok ((s.goto self rest).recycle packet)
  | _ => .error .blocked

def tick (s : State Msg) : State Msg := { s with time := s.time + 1 }

/-- One step of the process. -/
def step (protobuf : Protobuf Msg) (s : State Msg) : Label Msg → Except Fault (State Msg)
  | .work choice => s.coreStep (.work choice)
  | .proceed =>
      if s.core.UserRuns then (s.proceed protobuf s.core.coSelf).map tick else .error .blocked
  | .user action =>
      if s.core.UserRuns ∧ s.userCode then (s.act protobuf s.core.coSelf action).map tick
      else .error .blocked

end State

/-- The process as a machine. -/
def machine {Msg : Type} (protobuf : Protobuf Msg) : Machine (State Msg) (Label Msg) Fault where
  step := State.step protobuf

end LibcoRpc.Rpc
