import LibcoRpc.Rpc.Envelope
import LibcoRpc.Rpc.Requests

/-!
# From the stub to the handler

A request names its service and its method without the package of the service, and so does
the registry. A request is dispatched to the method it was written for as long as no two
services that are registered have the same name.
-/

namespace LibcoRpc.Rpc

open LibcoRpc.Std
open LibcoRpc.CoroMgr (Co)

variable {Msg : Type} {protobuf : Protobuf Msg} {s s' : State Msg}

/-! ## Services -/

/-- What protobuf guarantees of a service: its methods have different names, and say which
service they belong to. -/
structure Service.WellFormed (service : Service) : Prop where
  names : (service.methods.map MethodDescriptor.name).Nodup
  owned : ∀ method ∈ service.methods, method.service = service.name

/-- A service in its package. -/
structure PackagedService where
  package : Bytes
  service : Service
deriving DecidableEq

/-- `full_name()` of the descriptor. -/
def PackagedService.fullName (packaged : PackagedService) : Bytes :=
  if packaged.package.isEmpty then packaged.service.name
  else packaged.package ++ text "." ++ packaged.service.name

/-- The entry that `AddService` makes. -/
def Service.info (service : Service) : ServiceInfo :=
  ⟨some service.object, service.methods.foldl
    (fun mds method => mds.assign method.name (some method)) .empty⟩

theorem find_foldl_assign_of_not_mem {methods : List MethodDescriptor} {name : Bytes}
    (absent : name ∉ methods.map MethodDescriptor.name)
    (mds : OrdMap Bytes (Option MethodDescriptor)) :
    (methods.foldl (fun mds method => mds.assign method.name (some method)) mds).find name =
      mds.find name := by
  induction methods generalizing mds with
  | nil => rfl
  | cons first rest ih =>
      simp only [List.map_cons, List.mem_cons, not_or] at absent
      rw [List.foldl_cons, ih absent.2, OrdMap.find_assign, if_neg absent.1]

theorem find_foldl_assign {methods : List MethodDescriptor} {method : MethodDescriptor}
    (names : (methods.map MethodDescriptor.name).Nodup) (member : method ∈ methods)
    (mds : OrdMap Bytes (Option MethodDescriptor)) :
    (methods.foldl (fun mds method => mds.assign method.name (some method)) mds).find method.name =
      some (some method) := by
  induction methods generalizing mds with
  | nil => cases member
  | cons first rest ih =>
      obtain ⟨absent, names⟩ := List.nodup_cons.mp names
      rw [List.foldl_cons]
      rcases List.mem_cons.mp member with rfl | member
      · rw [find_foldl_assign_of_not_mem absent, OrdMap.find_assign, if_pos rfl]
      · exact ih names member _

/-- The lookups of `HandleRpcReq` find a method of a service that is there. -/
theorem select_registered {services : Services} {service : Service} {method : MethodDescriptor}
    (registered : services.find service.name = some service.info)
    (wellFormed : service.WellFormed) (member : method ∈ service.methods) :
    services.select method.service method.name = (services, some service.object, some method) := by
  have found : service.info.mds.find method.name = some (some method) :=
    find_foldl_assign wellFormed.names member .empty
  simp only [Services.select, wellFormed.owned method member, registered, found]
  rfl

/-! ## Runs -/

/-- Only services of the family are registered. -/
def Registers (family : List Service) (_ : State Msg) : Label Msg → Prop
  | .user (.addService service) => service ∈ family
  | _ => True

instance (family : List Service) (s : State Msg) :
    (label : Label Msg) → Decidable (Registers family s label)
  | .user (.addService service) => inferInstanceAs (Decidable (service ∈ family))
  | .work _ | .proceed | .user (.op _) | .user (.deliver ..) | .user (.callMethod ..)
  | .user (.setFailed ..) | .user (.setResponse ..) | .user .handlerReturn | .user .runDone =>
      isTrue trivial

/-- A service that has been registered stays registered, if no other has its name. -/
theorem registered_of_run {family : List Service} {service : Service}
    (distinct : ∀ other ∈ family, other.name = service.name → other = service)
    (run : (machine protobuf).Run (Registers family) s s')
    (registered : s.services.find service.name = some service.info) :
    s'.services.find service.name = some service.info := by
  induction run with
  | start => exact registered
  | step _ registers taken ih =>
      cases step_effect taken with
      | @addService other =>
          show (Services.addService _ other).find service.name = _
          rw [Services.addService, OrdMap.find_assign]
          split
          next same => rw [distinct other registers same.symm, Service.info]
          next => exact ih
      | _ => exact ih

theorem registered_of_addService {service : Service}
    (taken : (machine protobuf).step s (.user (.addService service)) = .ok s') :
    s'.services.find service.name = some service.info := by
  cases step_effect taken with
  | addService =>
      show (Services.addService _ service).find service.name = _
      rw [Services.addService, OrdMap.find_assign, if_pos rfl, Service.info]
  | wrote _ _ _ write => rcases write with ⟨_, other⟩ | ⟨_, other⟩ <;> cases other

/-- A request whose parts can be read and found is accepted with these parts. -/
theorem deliver_accepted {packet rest after : Packet} {answers : Option CallId}
    {serviceName methodName : Bytes} {srcCoroId : Int} {object : Nat} {method : MethodDescriptor}
    {request : Msg} (userRuns : s.core.UserRuns) (userCode : s.userCode = true)
    (isReq : packet.opcode = rpcReq)
    (header : readHeader packet = some (serviceName, methodName, srcCoroId, rest))
    (selected : s.services.select serviceName methodName =
      (s.services, some object, some method))
    (body : rest.readMessage protobuf method.requestType (protobuf.empty method.requestType) =
      (true, request, after)) :
    ∃ s' accepted, (machine protobuf).step s (.user (.deliver packet answers)) = .ok s' ∧
      (s'.received s.receivedCount).request = some accepted ∧ accepted.service = object ∧
      accepted.method = method ∧ accepted.req = request ∧ accepted.srcCoroId = srcCoroId ∧
      accepted.returned = false ∧ s.receivedCount < s'.receivedCount := by
  have target : s.target protobuf packet = some method := by
    simp [State.target, header, selected, body]
  obtain ⟨next, handled⟩ : ∃ next, s.handleRpcReq protobuf s.core.coSelf packet answers =
      .ok next := handleRpcReq_ok userRuns (.inr (by simp [target]))
  have taken : (machine protobuf).step s (.user (.deliver packet answers)) = .ok next.tick := by
    rw [deliver_step userRuns userCode isReq, handled]
    rfl
  obtain ⟨count, made⟩ := (step_effect taken).made_of_deliver
  rcases made.request with ⟨-, untargeted⟩ | ⟨accepted, _, accepts, isAccepted⟩
  · rw [untargeted isReq] at target
    cases target
  · obtain ⟨_, _, _, header', selected', body'⟩ := accepts.read
    simp only [header, Option.some.injEq, Prod.mk.injEq] at header'
    obtain ⟨rfl, rfl, isSrc, rfl⟩ := header'
    simp only [selected, Prod.mk.injEq, Option.some.injEq, true_and] at selected'
    obtain ⟨isObject, isMethod⟩ := selected'
    rw [← isMethod, body] at body'
    simp only [Prod.mk.injEq, true_and] at body'
    exact ⟨next.tick, accepted, taken, isAccepted, isObject.symm, isMethod.symm, body'.1.symm,
      isSrc.symm, accepts.fresh.2.2, count ▸ Nat.lt_succ_self _⟩

/-- A request that a stub wrote for a method of a service is dispatched to that method on
the object of that service, if the service was registered before and no other service that
is ever registered has its name. -/
theorem request_dispatched {env : Bool} {family : List Service} {service : Service}
    {method : MethodDescriptor} {s₀ s₁ : State Msg} {sessionId srcCoroId : Int} {request : Msg}
    {packet : Packet} (answers : Option CallId)
    (distinct : ∀ left ∈ family, ∀ right ∈ family, left.name = right.name → left = right)
    (wellFormed : service.WellFormed) (member : service ∈ family)
    (before : (machine protobuf).Run (Registers family) (State.init protobuf env) s₀)
    (added : (machine protobuf).step s₀ (.user (.addService service)) = .ok s₁)
    (between : (machine protobuf).Run (Registers family) s₁ s)
    (called : method ∈ service.methods) (serviceFits : service.name.length ≤ 2 ^ 32 - 20)
    (methodFits : method.name.length ≤ 2 ^ 32 - 20) (idFits : IsInt32 srcCoroId)
    (short : (protobuf.serialize request).length < 2 ^ 31)
    (inverts : protobuf.Inverts method.requestType request)
    (isReq : packet.opcode = rpcReq) (unreadAll : packet.readPos = 0)
    (payload : packet.payload =
      (requestPacket protobuf sessionId method srcCoroId request).payload)
    (userRuns : s.core.UserRuns) (userCode : s.userCode = true) :
    ∃ s' accepted, (machine protobuf).step s (.user (.deliver packet answers)) = .ok s' ∧
      (s'.received s.receivedCount).request = some accepted ∧
      accepted.service = service.object ∧ accepted.method = method ∧ accepted.req = request ∧
      accepted.srcCoroId = srcCoroId ∧ s.receivedCount ∈ s'.handling := by
  have registered := registered_of_run (fun other isOther => distinct other isOther service member)
    between (registered_of_addService added)
  have selected := select_registered registered wellFormed called
  rw [← wellFormed.owned method called] at serviceFits
  let header : RequestHeader :=
    ⟨method.service, method.name, srcCoroId, by omega, by omega, idFits⟩
  have written := requestPacket_header protobuf sessionId request header
    (Stream.writeString_of_le serviceFits) (Stream.writeString_of_le methodFits)
  rw [written] at payload
  have read := readHeader_iff.mpr
    ⟨header, rfl, rfl, rfl, rfl, _, unread_of_payload unreadAll payload⟩
  obtain ⟨after, body, -⟩ := readMessage_last unreadAll short inverts payload
  obtain ⟨s', accepted, taken, isAccepted, object, isMethod, req, src, running, old⟩ :=
    deliver_accepted userRuns userCode isReq read selected (body _)
  refine ⟨s', accepted, taken, isAccepted, object, isMethod, req, src, ?_⟩
  have run : (machine protobuf).Run (fun _ _ => True) (State.init protobuf env) s' :=
    ((((before.mono fun _ _ _ => trivial).step trivial added).trans
      (between.mono fun _ _ _ => trivial)).step trivial taken)
  refine (handling_iff run _).mpr ⟨old, ?_⟩
  simp [State.request, isAccepted, stageOf, running]

/-- A second service, with a method of the same name as the first. -/
def dataService : Service :=
  { object := 4, name := text "DataService",
    methods := [{ echoMethod with service := text "DataService" }] }

/-- A request for `Echo` of the one service is answered while both are registered, and one for
`Echo` of the other is dispatched to that. -/
theorem echo_dispatched :
    let request : EchoMessage := ⟨EchoMessage.request, some (text "hello")⟩
    let other := { echoMethod with service := text "DataService" }
    let s₀ := ((machine echoProtobuf).replay (fun _ _ => true) (State.init echoProtobuf true)
      [.user (.addService dataService)]).get (by decide +kernel)
    let s₁ := ((machine echoProtobuf).replay (fun _ _ => true) s₀
      [.user (.addService myEchoService)]).get (by decide +kernel)
    let s := ((machine echoProtobuf).replay (fun s label => decide
        (Registers [dataService, myEchoService] s label)) s₁
      (.user (.deliver (requestPacket echoProtobuf 8 other 1 request) none) ::
        echo 0 request)).get (by decide +kernel)
    (s.received 0).request.map Request.service = some 4 ∧
    ∃ s' accepted, (machine echoProtobuf).step s (.user (.deliver
        (requestPacket echoProtobuf 9 echoMethod 1 request) none)) = .ok s' ∧
      (s'.received s.receivedCount).request = some accepted ∧ accepted.service = 0 ∧
      accepted.method = echoMethod := by
  intro request other s₀ s₁ s
  have first : (machine echoProtobuf).step (State.init echoProtobuf true)
      (.user (.addService dataService)) = .ok s₀ := Machine.step_of_replay (Option.some_get _).symm
  have added : (machine echoProtobuf).step s₀ (.user (.addService myEchoService)) = .ok s₁ :=
    Machine.step_of_replay (Option.some_get _).symm
  have distinct : ∀ left ∈ [dataService, myEchoService], ∀ right ∈ [dataService, myEchoService],
      left.name = right.name → left = right := by decide
  have between : (machine echoProtobuf).Run (Registers [dataService, myEchoService]) s₁ s :=
    .of_replay (fun _ _ passes => of_decide_eq_true passes) (Option.some_get _).symm
  refine ⟨by decide +kernel, ?_⟩
  obtain ⟨s', accepted, taken, isAccepted, object, method, -⟩ := request_dispatched none distinct
    ⟨by decide, by decide⟩ (by decide) (.step .start List.mem_cons_self first) added between
    List.mem_cons_self (by decide) (by decide) (by decide) (by decide)
    (echoProtobuf_inverts (by decide)) rfl rfl
    (rfl : (requestPacket echoProtobuf 9 echoMethod 1 request).payload = _) (by decide +kernel)
    (by decide +kernel)
  exact ⟨s', accepted, taken, isAccepted, object, method⟩

/-- The service `EchoService` of a package, on an object. -/
def packagedEcho (package : Bytes) (object : Nat) : PackagedService :=
  ⟨package, { myEchoService with object := object }⟩

/-- Two packages have a service of the same name. A request for the first is dispatched to
the object of the second. -/
theorem same_name_misdispatched :
    (packagedEcho (text "a") 5).fullName ≠ (packagedEcho (text "b") 6).fullName ∧
    ((machine echoProtobuf).replay (fun _ _ => true) (State.init echoProtobuf false)
      [.user (.addService (packagedEcho (text "a") 5).service),
        .user (.addService (packagedEcho (text "b") 6).service),
        .user (.deliver (requestPacket echoProtobuf 9 echoMethod 1
          ⟨EchoMessage.request, none⟩) none)]).map
      (fun s => (s.received 0).request.map Request.service) = some (some 6) := by
  constructor <;> decide +kernel

end LibcoRpc.Rpc
