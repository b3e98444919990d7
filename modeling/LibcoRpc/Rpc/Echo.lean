import LibcoRpc.Rpc.Step

/-!
# The echo service

The messages and the service of `echo.proto`, the handlers of `MyEchoService` as the
actions they take, and coroutines that call it. Of what protobuf accepts for these messages
only the encodings that it writes itself for strings shorter than 128 bytes are modelled;
`Protobuf` stands for the rest everywhere else.
-/

namespace LibcoRpc.Rpc

/-! ## Messages -/

/-- A message of `echo.proto`. Each of them has the one field `optional string msg`. -/
structure EchoMessage where
  type : MessageType
  msg : Option Bytes
deriving DecidableEq, Repr

namespace EchoMessage

def request : MessageType := 0

def response : MessageType := 1

def getDataReq : MessageType := 2

def getDataRsp : MessageType := 3

/-- The tag of `msg`, which has number 2 in `EchoResponse` and number 1 in the others. -/
def tag (type : MessageType) : Byte := if type = response then 18 else 10

def serialize (message : EchoMessage) : Bytes :=
  match message.msg with
  | none => []
  | some msg => tag message.type :: Fin.ofNat 256 msg.length :: msg

/-- The field in a message of the given bytes. -/
def parse (type : MessageType) : Bytes → Option EchoMessage
  | [] => some ⟨type, none⟩
  | first :: length :: msg =>
      if first = tag type ∧ length.val < 128 ∧ msg.length = length.val then some ⟨type, some msg⟩
      else none
  | _ => none

def parseFromArray (type : MessageType) (memory : Bytes) (size : Int) : Bool × EchoMessage :=
  if size < 0 ∨ memory.length < size then (false, ⟨type, none⟩)
  else
    match parse type (memory.take size.toNat) with
    | none => (false, ⟨type, none⟩)
    | some message => (true, message)

/-- A message whose string is short is read back as it was written. -/
theorem parse_serialize {message : EchoMessage}
    (short : ∀ msg ∈ message.msg, msg.length < 128) :
    parse message.type message.serialize = some message := by
  obtain ⟨type, msg⟩ := message
  cases msg with
  | none => rfl
  | some msg =>
      have short : msg.length < 128 := short msg rfl
      have small : msg.length % 256 = msg.length := Nat.mod_eq_of_lt (by omega)
      simp [serialize, parse, small, short]

end EchoMessage

/-- Protobuf for the messages of `echo.proto`. -/
def echoProtobuf : Protobuf EchoMessage where
  empty type := ⟨type, none⟩
  parseFromArray := EchoMessage.parseFromArray
  serialize := EchoMessage.serialize

/-! ## The service -/

def echoMethod : MethodDescriptor :=
  { service := text "EchoService", name := text "Echo", requestType := EchoMessage.request,
    responseType := EchoMessage.response, isCoroRequired := false }

def relayEchoMethod : MethodDescriptor :=
  { service := text "EchoService", name := text "RelayEcho", requestType := EchoMessage.request,
    responseType := EchoMessage.response, isCoroRequired := true }

def getDataMethod : MethodDescriptor :=
  { service := text "EchoService", name := text "GetData", requestType := EchoMessage.getDataReq,
    responseType := EchoMessage.getDataRsp, isCoroRequired := false }

/-- `MyEchoService`. -/
def myEchoService : Service :=
  { object := 0, name := text "EchoService",
    methods := [echoMethod, relayEchoMethod, getDataMethod] }

/-! ## Its handlers -/

/-- More code of the coroutine manager, `count` times at clock `now`. -/
def works (count : Nat) (now : Int) : List (Label EchoMessage) :=
  List.replicate count (.work ⟨now, 0⟩)

/-- `msg()`. -/
def EchoMessage.text (message : EchoMessage) : Bytes := message.msg.getD []

/-- `MyEchoService::Echo`. -/
def echo (packet : PacketPtr) (request : EchoMessage) : List (Label EchoMessage) :=
  [.user (.setResponse packet
    ⟨EchoMessage.response, some (Rpc.text " Echo >>>>>>> " ++ request.text)⟩),
    .user .handlerReturn]

/-- `MyEchoService::RelayEcho` up to `stub.Echo` on the channel it got, if it got one. -/
def relayEcho (packet : PacketPtr) (channel : Option Int) (request : EchoMessage) :
    List (Label EchoMessage) :=
  match channel with
  | none =>
      [.user (.setResponse packet ⟨EchoMessage.response,
          some (request.text ++ Rpc.text " ---- inner rpc call server not exist")⟩),
        .user (.setFailed packet (Rpc.text "GetRpcChannel Fail")), .user .handlerReturn]
  | some sessionId =>
      [.user (.callMethod sessionId echoMethod .new
        ⟨EchoMessage.request, some (Rpc.text "Relay Call >>>>>>" ++ request.text)⟩)]

/-- `MyEchoService::RelayEcho` after `stub.Echo`, with what it left. -/
def relayEchoRet (packet : PacketPtr) (cntl : RpcController) (innerRsp : EchoMessage) :
    List (Label EchoMessage) :=
  (if cntl.isFailed then [.user (.setFailed packet cntl.errorText)] else []) ++
    [.user (.setResponse packet ⟨EchoMessage.response, some innerRsp.text⟩),
      .user .handlerReturn]

/-- `MyEchoService::GetData`. -/
def getData (packet : PacketPtr) : List (Label EchoMessage) :=
  [.user (.setResponse packet
    ⟨EchoMessage.getDataRsp, some (Rpc.text " ---- data from inner rpc call")⟩),
    .user .runDone]

/-! ## Its clients -/

/-- A coroutine is about to make a call. -/
def beforeCall : List (Label EchoMessage) :=
  .flatten [[.user (.op (.createCoro 0 0)), .user (.op (.coroResume 0 .nil))], works 3 0]

/-- A call waits, what the main coroutine has begun ends, and the call is answered. -/
def answered (mainEnds : List (Label EchoMessage)) (controller : RpcController)
    (rsp : EchoMessage) : List (Label EchoMessage) :=
  .flatten [works 4 0, mainEnds,
    [.user (.deliver (replyPacket echoProtobuf 9 1 controller rsp) none)], works 6 0]

/-- Two coroutines call `Echo`, on session 9 and on session 8, and wait. -/
def twoWaiting : List (Label EchoMessage) :=
  .flatten [beforeCall,
    [.user (.callMethod 9 echoMethod .new ⟨EchoMessage.request, some (Rpc.text "one")⟩)],
    works 4 0, [.user (.op (.createCoro 0 0)), .user (.op (.coroResume 1 .nil))], works 3 0,
    [.user (.callMethod 8 echoMethod .new ⟨EchoMessage.request, some (Rpc.text "two")⟩)],
    works 4 0]

end LibcoRpc.Rpc
