import LibcoRpc.Rpc.Dispatch
import LibcoRpc.Rpc.Traffic

/-!
# Callers and services built from one interface

Stubs and services are generated from the same `.proto` file, so what a caller and a server
know under a pair of names is the same method. Then every request that `HandleRpcReq` has
accepted is for the method that the interface has under the names in the request, and the
message that the handler is given is what that method reads from the body; neither changes
while the handler runs.
-/

namespace LibcoRpc.Rpc

open LibcoRpc.Std

variable {Msg : Type} {protobuf : Protobuf Msg} {s s' : State Msg} {label : Label Msg}

/-- The method that a `.proto` file has under the names of a service and a method. -/
abbrev Interface := Bytes → Bytes → Option MethodDescriptor

/-- Services that are registered and methods that are called are those of the interface. -/
def Implements (interface : Interface) (_ : State Msg) : Label Msg → Prop
  | .user (.addService service) =>
      ∀ method ∈ service.methods, interface service.name method.name = some method
  | .user (.callMethod _ method _ _) => interface method.service method.name = some method
  | _ => True

instance (interface : Interface) (s : State Msg) :
    (label : Label Msg) → Decidable (Implements interface s label)
  | .user (.addService service) =>
      inferInstanceAs (Decidable (∀ method ∈ service.methods, _))
  | .user (.callMethod _ method _ _) =>
      inferInstanceAs (Decidable (interface method.service method.name = some method))
  | .work _ | .proceed | .user (.op _) | .user (.deliver _ _) | .user (.setFailed _ _)
  | .user (.setResponse _ _) | .user .handlerReturn | .user .runDone => isTrue trivial

/-- Processes built from one interface, in which no coroutine id is taken twice and no
coroutine makes a call while an earlier one of its calls is unanswered. -/
def Proper (protobuf : Protobuf Msg) (interface : Interface) (s : State Msg) (label : Label Msg) :
    Prop :=
  Disciplined protobuf s label ∧ NoneOutstanding s label ∧ Implements interface s label

instance (interface : Interface) (s : State Msg) (label : Label Msg) :
    Decidable (Proper protobuf interface s label) :=
  inferInstanceAs (Decidable (_ ∧ _ ∧ _))

/-- The interface of `echo.proto`. -/
def echoInterface : Interface := fun service name =>
  myEchoService.methods.find? fun method => method.service = service ∧ method.name = name

/-! ## The registry -/

/-- What is registered is in the interface. -/
def Services.Within (services : Services) (interface : Interface) : Prop :=
  ∀ serviceName info methodName method, services.find serviceName = some info →
    info.mds.find methodName = some (some method) →
      interface serviceName methodName = some method

/-- Every entry of a registered service is one of its methods. -/
theorem mem_of_find_foldl {methods : List MethodDescriptor} {name : Bytes}
    {method : MethodDescriptor} {mds : OrdMap Bytes (Option MethodDescriptor)}
    (found : (methods.foldl (fun mds method => mds.assign method.name (some method)) mds).find
      name = some (some method)) :
    mds.find name = some (some method) ∨ method ∈ methods ∧ method.name = name := by
  induction methods generalizing mds with
  | nil => exact .inl found
  | cons first rest ih =>
      rw [List.foldl_cons] at found
      rcases ih found with before | ⟨member, isName⟩
      · rw [OrdMap.find_assign] at before
        split at before
        next same =>
          cases before
          exact .inr ⟨List.mem_cons_self, same.symm⟩
        next => exact .inl before
      · exact .inr ⟨List.mem_cons_of_mem _ member, isName⟩

theorem Services.Within.addService {services : Services} {interface : Interface}
    (within : services.Within interface) {service : Service}
    (implements : ∀ method ∈ service.methods, interface service.name method.name = some method) :
    (services.addService service).Within interface := by
  intro serviceName info methodName method isInfo found
  rw [Services.addService, OrdMap.find_assign] at isInfo
  split at isInfo
  next same =>
    cases isInfo
    rcases mem_of_find_foldl found with none | ⟨member, isName⟩
    · rw [OrdMap.find_empty] at none
      cases none
    · rw [same, ← isName]
      exact implements method member
  next => exact within serviceName info methodName method isInfo found

/-- The lookups of `HandleRpcReq` find what the interface has. -/
theorem Services.Within.select {services after : Services} {interface : Interface}
    (within : services.Within interface) {serviceName methodName : Bytes} {object : Nat}
    {method : MethodDescriptor}
    (selected : services.select serviceName methodName = (after, some object, some method)) :
    interface serviceName methodName = some method := by
  unfold Services.select at selected
  split at selected
  next => cases selected
  next info isInfo =>
    split at selected
    next => exact absurd (congrArg (fun result => result.2.2) selected) (by simp)
    next found isMethod =>
      have isFound : found = some method := congrArg (fun result => result.2.2) selected
      exact within serviceName info methodName method isInfo (isFound ▸ isMethod)

/-- What a request was when it was accepted. -/
def Request.asked (request : Request Msg) : MethodDescriptor × Int × Msg :=
  (request.method, request.srcCoroId, request.req)

/-- A request has the method of the interface under the names in its packet, and the message
that the method reads from the body. -/
def Received.Reads (protobuf : Protobuf Msg) (interface : Interface) (received : Received Msg)
    (request : Request Msg) : Prop :=
  ∃ serviceName methodName rest after,
    readHeader received.arrived = some (serviceName, methodName, request.srcCoroId, rest) ∧
    interface serviceName methodName = some request.method ∧
    rest.readMessage protobuf request.method.requestType
      (protobuf.empty request.method.requestType) = (true, request.req, after)

theorem Received.Reads.kept {interface : Interface} {received received' : Received Msg}
    {request request' : Request Msg} (reads : received.Reads protobuf interface request)
    (arrived : received'.arrived = received.arrived) (asked : request'.asked = request.asked) :
    received'.Reads protobuf interface request' := by
  obtain ⟨serviceName, methodName, rest, after, header, isMethod, body⟩ := reads
  obtain ⟨sameMethod, sameRest⟩ := Prod.mk.inj asked
  obtain ⟨sameId, sameReq⟩ := Prod.mk.inj sameRest
  refine ⟨serviceName, methodName, rest, after, ?_, ?_, ?_⟩
  · rw [arrived, sameId, header]
  · rw [sameMethod, isMethod]
  · rw [sameMethod, sameReq, body]

end LibcoRpc.Rpc
