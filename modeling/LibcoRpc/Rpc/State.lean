import LibcoRpc.CoroMgr.Step
import LibcoRpc.Rpc.Wire

/-!
# Data of the RPC layer

One process: its coroutine manager, its registry of services, the packets its service
has received and the calls its coroutines have made. A received packet and everything
`HandleRpcReq` makes for it share one address, a call of `CallMethod` has a number.

The RPC functions switch coroutines through the coroutine manager, so what they still
have to do is kept in frames of their own, one stack for each libco coroutine. Handlers
and entry functions are user code and may do anything.
-/

namespace LibcoRpc.Rpc

open LibcoRpc.Std
open LibcoRpc.CoroMgr (Co CoroPtr Choice Op)

/-- Address of a received `LLBC_Packet`. -/
abbrev PacketPtr := Nat

/-- Number of a call of `RpcChannel::CallMethod`. -/
abbrev CallId := Nat

/-- `RpcController`. -/
structure RpcController where
  isFailed : Bool
  errorText : Bytes
deriving DecidableEq, Repr

/-- `RpcController::RpcController()`. -/
def RpcController.new : RpcController := ⟨false, []⟩

/-- `RpcController::SetFailed`. -/
def RpcController.setFailed (_ : RpcController) (reason : Bytes) : RpcController := ⟨true, reason⟩

/-! ## Services -/

/-- `google::protobuf::MethodDescriptor`, with the option `is_coro_required`. -/
structure MethodDescriptor where
  /-- `service()->name()`. -/
  service : Bytes
  name : Bytes
  requestType : MessageType
  responseType : MessageType
  isCoroRequired : Bool
deriving DecidableEq, Repr

/-- `google::protobuf::Service`: an object and its descriptor. -/
structure Service where
  object : Nat
  name : Bytes
  methods : List MethodDescriptor
deriving DecidableEq, Repr

/-- `RpcMgr::ServiceInfo`. The descriptor `sd` is only used while it is filled in. -/
structure ServiceInfo where
  service : Option Nat
  mds : OrdMap Bytes (Option MethodDescriptor)

/-- A value-initialised `ServiceInfo`. -/
def ServiceInfo.null : ServiceInfo := ⟨none, .empty⟩

/-- The map `_services`. -/
abbrev Services := OrdMap Bytes ServiceInfo

/-- `RpcMgr::AddService`. -/
def Services.addService (services : Services) (service : Service) : Services :=
  let mds := service.methods.foldl
    (fun mds method => mds.assign method.name (some method)) (OrdMap.empty)
  services.assign service.name ⟨some service.object, mds⟩

/-- The lookups `_services[serviceName].service` and `_services[serviceName].mds[methodName]`
of `HandleRpcReq`: `_services` after them, the service pointer and the method pointer. A
subscript puts a null entry under a key that is not there. -/
def Services.select (services : Services) (serviceName methodName : Bytes) :
    Services × Option Nat × Option MethodDescriptor :=
  match services.find serviceName with
  | none =>
      let info := { ServiceInfo.null with mds := OrdMap.empty.emplace methodName none }
      (services.emplace serviceName info, none, none)
  | some info =>
      match info.mds.find methodName with
      | none =>
          let info := { info with mds := info.mds.emplace methodName none }
          (services.assign serviceName info, info.service, none)
      | some method => (services, info.service, method)

/-! ## Requests and calls -/

/-- What `HandleRpcReq` made for a packet it accepted. -/
structure Request (Msg : Type) where
  service : Nat
  method : MethodDescriptor
  sessionId : Int
  srcCoroId : Int
  req : Msg
  controller : RpcController
  rsp : Msg
  /-- `service->CallMethod` has returned. -/
  returned : Bool
deriving DecidableEq, Repr

/-- A packet the service has handed to `HandleRpcReq` or `HandleRpcRsp`. -/
structure Received (Msg : Type) where
  /-- The packet as it arrived. No code reads it. -/
  arrived : Packet
  packet : Packet
  /-- The service has recycled it. -/
  recycled : Bool
  arrivedAt : Nat
  /-- The call that the peer says it answers. No code reads it. -/
  answers : Option CallId
  request : Option (Request Msg)
deriving DecidableEq, Repr

/-- A call of `RpcChannel::CallMethod`. -/
structure Call (Msg : Type) where
  caller : Co
  /-- What `GetCurCoro` returned. -/
  coro : CoroPtr
  sessionId : Int
  srcCoroId : Int
  responseType : MessageType
  /-- The request packet has been handed to `PushPacket`. -/
  sent : Bool
  startedAt : Nat
  controller : RpcController
  response : Msg
  returnedAt : Option Nat
  /-- The packet whose response it has decoded. -/
  decoded : Option PacketPtr
deriving DecidableEq, Repr

/-- What an interrupted function of the RPC layer still has to do, and where user code
runs on behalf of one. -/
inductive RpcFrame where
  /-- `RpcChannel::CallMethod` after `coro->Yield()`. -/
  | callWait (call : CallId) (coro : CoroPtr)
  /-- `RpcMgr::HandleRpcRsp` after `coro->Resume()`. -/
  | rspRet (packet : PacketPtr) (coro : CoroPtr)
  /-- `RpcMgr::HandleRpcReq` after `coro->Resume()`. -/
  | reqRet (packet : PacketPtr)
  /-- `RpcMgr::HandleRpcReq` inside `service->CallMethod`. -/
  | handler (packet : PacketPtr)
  /-- The function `HandleRpcReq` gave to `CreateCoro`, inside `service->CallMethod`. -/
  | entry (packet : PacketPtr)
deriving DecidableEq, Repr

/-- The state of one process. -/
structure State (Msg : Type) where
  core : CoroMgr.State
  services : Services
  received : PacketPtr → Received Msg
  receivedCount : Nat
  call : CallId → Call Msg
  callCount : Nat
  frames : Co → List RpcFrame
  /-- Every packet handed to `ConnMgr::PushPacket`, newest first. -/
  pushed : List Packet
  /-- Steps of user code and of the RPC layer taken so far. -/
  time : Nat

/-- A packet address that holds no object. -/
def noReceived (Msg : Type) : Received Msg :=
  { arrived := .new 0 0, packet := .new 0 0, recycled := false, arrivedAt := 0, answers := none,
    request := none }

/-- The number of a call that has not been made. -/
def noCall {Msg : Type} (protobuf : Protobuf Msg) : Call Msg :=
  { caller := .main, coro := 0, sessionId := 0, srcCoroId := 0, responseType := 0, sent := false,
    startedAt := 0, controller := .new, response := protobuf.empty 0, returnedAt := none,
    decoded := none }

/-- A process that has done nothing yet. -/
def State.init {Msg : Type} (protobuf : Protobuf Msg) (env : Bool) : State Msg :=
  { core := .init env, services := .empty, received := fun _ => noReceived Msg,
    receivedCount := 0, call := fun _ => noCall protobuf, callCount := 0,
    frames := fun _ => [], pushed := [], time := 0 }

namespace State

variable {Msg : Type}

def setReceived (s : State Msg) (packet : PacketPtr) (value : Received Msg) : State Msg :=
  { s with received := Function.update s.received packet value }

def setCall (s : State Msg) (call : CallId) (value : Call Msg) : State Msg :=
  { s with call := Function.update s.call call value }

/-- The next call is this one. -/
def newCall (s : State Msg) (value : Call Msg) : State Msg :=
  { s with
    callCount := s.callCount + 1
    call := Function.update s.call s.callCount value }

/-- The next packet the service takes is this one, and its handler has read some of it. -/
def receive (s : State Msg) (arrived packet : Packet) (answers : Option CallId)
    (request : Option (Request Msg)) : State Msg :=
  { s with
    receivedCount := s.receivedCount + 1
    received := Function.update s.received s.receivedCount
      { arrived := arrived, packet := packet, recycled := false, arrivedAt := s.time,
        answers := answers, request := request } }

/-- Replace the interrupted RPC functions of a coroutine. -/
def goto (s : State Msg) (self : Co) (frames : List RpcFrame) : State Msg :=
  { s with frames := Function.update s.frames self frames }

/-- `ConnMgr::PushPacket`. -/
def pushPacket (s : State Msg) (packet : Packet) : State Msg :=
  { s with pushed := packet :: s.pushed }

/-- `LLBC_Recycle(packet)`. -/
def recycle (s : State Msg) (packet : PacketPtr) : State Msg :=
  s.setReceived packet { s.received packet with recycled := true }

/-- User code runs in the running coroutine: its own, or a handler's. -/
def userCode (s : State Msg) : Bool :=
  match s.frames s.core.coSelf with
  | [] => true
  | .handler _ :: _ => true
  | .entry _ :: _ => true
  | _ => false

end State

end LibcoRpc.Rpc
