import LibcoRpc.Rpc.Replies

/-!
# Requests from the network

What `HandleRpcReq` does with a request depends on its names and its body: the subscripts
on `_services` return null for a name that is not there, and the code goes on with it; a
body that does not parse is dropped without a reply. The closure that a handler is given
is always null. `robust_iff_careful` says that these are the only ways in which a request
is not answered or null is dereferenced.
-/

namespace LibcoRpc.Rpc

open LibcoRpc.Std
open LibcoRpc.CoroMgr (Co CoroPtr Choice Op)

variable {Msg : Type} {protobuf : Protobuf Msg} {s s' : State Msg}

/-- User code of the running coroutine is a handler. -/
def State.inHandler (s : State Msg) : Bool :=
  match s.frames s.core.coSelf with
  | .handler _ :: _ => true
  | .entry _ :: _ => true
  | _ => false

/-! ## From a packet to its reply -/

theorem Effect.services_cases {label : Label Msg} (effect : Effect protobuf s label s') :
    s'.services = s.services ∨ ∃ service, label = .user (.addService service) := by
  cases effect with
  | addService => exact .inr ⟨_, rfl⟩
  | _ => exact .inl rfl

/-- A request that has been accepted keeps its session and its source. -/
theorem request_of_run {Allowed : State Msg → Label Msg → Prop} {packet : PacketPtr}
    {request : Request Msg} (run : (machine protobuf).Run Allowed s s')
    (old : packet < s.receivedCount) (accepted : s.request packet = some request) :
    packet < s'.receivedCount ∧ ∃ now, s'.request packet = some now ∧
      now.sessionId = request.sessionId ∧ now.srcCoroId = request.srcCoroId := by
  induction run with
  | start => exact ⟨old, request, accepted, rfl, rfl⟩
  | step _ _ taken ih =>
      obtain ⟨known, before, was, session, src⟩ := ih
      rcases (step_effect taken).received_cases with ⟨count, kept⟩ | ⟨_, _, _, count, same, _⟩
      · refine ⟨count ▸ known, ?_⟩
        rcases (kept packet).request with unchanged | ⟨was', now, is', is, session', src'⟩
        · exact ⟨before, unchanged.trans was, session, src⟩
        · obtain rfl : was' = before := Option.some.inj (is'.symm.trans was)
          exact ⟨now, is, session'.trans session, src'.trans src⟩
      · have other : packet ≠ _ := Nat.ne_of_lt known
        refine ⟨count ▸ Nat.lt_succ_of_lt known, before, ?_, session, src⟩
        rwa [State.request, same packet other]

/-- A request that has been accepted is being handled or has been answered. -/
theorem answered_of_accepted {Allowed : State Msg → Label Msg → Prop} {env : Bool}
    {packet : PacketPtr} {request : Request Msg}
    (run : (machine protobuf).Run Allowed (State.init protobuf env) s)
    (old : packet < s.receivedCount) (accepted : s.request packet = some request) :
    packet ∈ s.handling ∨ request.reply protobuf ∈ s.replies := by
  by_cases returned : request.returned
  · right
    have settled : stageOf (s.request packet) = .settled := by simp [accepted, stageOf, returned]
    have member : some (request.reply protobuf) ∈ s.replies.map some := by
      refine (replies_perm run).mem_iff.mpr (List.mem_map.mpr ⟨packet, ?_, ?_⟩)
      · simp [old, settled]
      · rw [accepted, Option.map_some]
    simpa using member
  · left
    refine (handling_iff run packet).mpr ⟨old, ?_⟩
    simp [accepted, stageOf, returned]

/-- Whatever happens from the state on, the packet is being handled, or has been answered
to the coroutine and on the session given. -/
def Attended (protobuf : Protobuf Msg) (s : State Msg) (packet : PacketPtr)
    (sessionId srcCoroId : Int) : Prop :=
  ∀ later, (machine protobuf).Run (fun _ _ => True) s later →
    ∃ request, later.request packet = some request ∧
      (packet ∈ later.handling ∨
        replyPacket protobuf sessionId srcCoroId request.controller request.rsp ∈ later.replies)

/-! ## Steps that can be relied on -/

/-- A null service, method descriptor or closure has been dereferenced. -/
def Fault.isNull : Fault → Bool
  | .nullService => true
  | .nullMethod => true
  | .nullClosure => true
  | _ => false

/-- A step dereferences no null, and if it hands a request to `HandleRpcReq`, then the
registry stays as it is and, if the header can be read, the request is answered. -/
structure Robust (protobuf : Protobuf Msg) (s : State Msg) (label : Label Msg) : Prop where
  noNull : ∀ fault, (machine protobuf).step s label = .error fault → fault.isNull = false
  handled : ∀ packet answers, label = .user (.deliver packet answers) → s.core.UserRuns →
    s.userCode = true → packet.opcode = rpcReq →
      ∃ next, (machine protobuf).step s label = .ok next ∧ next.services = s.services ∧
        ∀ serviceName methodName srcCoroId rest,
          readHeader packet = some (serviceName, methodName, srcCoroId, rest) →
            Attended protobuf next s.receivedCount packet.sessionId srcCoroId

/-- A request names a registered service and method and has a body that parses, unless its
header cannot be read; and a handler does not run its closure. -/
def Careful (protobuf : Protobuf Msg) (s : State Msg) : Label Msg → Prop
  | .user (.deliver packet _) => s.core.UserRuns → s.userCode = true → packet.opcode = rpcReq →
      readHeader packet = none ∨ (s.target protobuf packet).isSome = true
  | .user .runDone => s.core.UserRuns → s.inHandler = false
  | _ => True

theorem deliver_step {packet : Packet} {answers : Option CallId} (userRuns : s.core.UserRuns)
    (userCode : s.userCode = true) (isReq : packet.opcode = rpcReq) :
    (machine protobuf).step s (.user (.deliver packet answers)) =
      (s.handleRpcReq protobuf s.core.coSelf packet answers).map State.tick := by
  simp [machine, State.step, userRuns, userCode, State.act, State.deliver, isReq]

/-- A request that can be served is. -/
theorem handleRpcReq_ok {packet : Packet} {answers : Option CallId} (userRuns : s.core.UserRuns)
    (served : readHeader packet = none ∨ (s.target protobuf packet).isSome = true) :
    ∃ next, s.handleRpcReq protobuf s.core.coSelf packet answers = .ok next := by
  simp only [State.handleRpcReq]
  split
  next => exact ⟨_, rfl⟩
  next serviceName methodName srcCoroId rest read =>
    have served : (s.target protobuf packet).isSome = true :=
      served.resolve_left (by simp [read])
    simp only [State.target, read] at served
    split
    next selected => simp [selected] at served
    next selected => simp [selected] at served
    next services service method selected =>
      have same := Services.select_found selected
      subst same
      split
      · exact ⟨_, rfl⟩
      · split_ifs
        · exact ⟨_, rfl⟩
        · have created : CoroMgr.machine.step s.core (.user (.createCoro s.receivedCount 0)) = _ :=
            createCoro_ok userRuns
          have stillRuns : (s.core.createCoro s.receivedCount 0).UserRuns := userRuns
          have resumed := coroResume_ok stillRuns createCoro_live
          simp only [State.coreStep, State.receive, created, State.goto, resumed]
          exact ⟨_, rfl⟩

theorem coreStep_fault {label : CoroMgr.Label} {fault : Fault}
    (failed : s.coreStep label = .error fault) : fault.isNull = false := by
  simp only [State.coreStep] at failed
  split at failed
  · cases failed
  · cases failed
    rfl

theorem handleRpcRsp_fault {packet : Packet} {answers : Option CallId} {fault : Fault}
    (failed : s.handleRpcRsp s.core.coSelf packet answers = .error fault) :
    fault.isNull = false := by
  simp only [State.handleRpcRsp] at failed
  split at failed
  · cases failed
  · split at failed
    · cases failed
    · split at failed
      next stored =>
        cases failed
        exact coreStep_fault stored
      next => exact coreStep_fault failed

theorem callMethod_fault {sessionId : Int} {method : MethodDescriptor}
    {controller : RpcController} {request : Msg} {fault : Fault}
    (failed : s.callMethod protobuf s.core.coSelf sessionId method controller request =
      .error fault) : fault.isNull = false := by
  simp only [State.callMethod] at failed
  split at failed
  · cases failed
    rfl
  · cases failed
    rfl
  · split at failed
    · cases failed
    · exact coreStep_fault failed

theorem setRequest_fault {packet : PacketPtr} {update : Request Msg → Request Msg}
    {fault : Fault} (failed : s.setRequest packet update = .error fault) :
    fault.isNull = false := by
  simp only [State.setRequest] at failed
  split at failed
  · cases failed
    rfl
  · split at failed
    · cases failed
      rfl
    · cases failed

theorem handlerReturn_fault {fault : Fault}
    (failed : s.handlerReturn protobuf s.core.coSelf = .error fault) : fault.isNull = false := by
  simp only [State.handlerReturn] at failed
  split at failed
  · split at failed
    · cases failed
      rfl
    · cases failed
  · split at failed
    · cases failed
      rfl
    · exact coreStep_fault failed
  · cases failed
    rfl

theorem proceed_fault {fault : Fault} (failed : s.proceed protobuf s.core.coSelf = .error fault) :
    fault.isNull = false := by
  simp only [State.proceed] at failed
  split at failed
  · simp only [State.callMethodRet] at failed
    split at failed
    · cases failed
    · split at failed
      · cases failed
      · split at failed
        · cases failed
          rfl
        · split at failed
          · cases failed
            rfl
          · cases failed
  · cases failed
  · cases failed
  · cases failed
    rfl

theorem map_tick_fault {result : Except Fault (State Msg)} {fault : Fault}
    (failed : result.map State.tick = .error fault) : result = .error fault := by
  cases result with
  | error found =>
      cases failed
      rfl
  | ok next => cases failed

/-- A careful step dereferences no null. -/
theorem Careful.noNull {label : Label Msg} {fault : Fault} (careful : Careful protobuf s label)
    (failed : (machine protobuf).step s label = .error fault) : fault.isNull = false := by
  cases label with
  | work choice => exact coreStep_fault failed
  | proceed =>
      simp only [machine, State.step] at failed
      split at failed
      · exact proceed_fault (map_tick_fault failed)
      · cases failed
        rfl
  | user action =>
      simp only [machine, State.step] at failed
      split at failed
      next both =>
        obtain ⟨userRuns, userCode⟩ := both
        have failed := map_tick_fault failed
        cases action with
        | op op =>
            simp only [State.act] at failed
            split at failed
            · exact coreStep_fault failed
            · cases failed
              rfl
        | callMethod => exact callMethod_fault failed
        | deliver packet answers =>
            simp only [State.act, State.deliver] at failed
            split at failed
            next isReq =>
              obtain ⟨next, taken⟩ : ∃ next, s.handleRpcReq protobuf s.core.coSelf packet answers =
                  .ok next := handleRpcReq_ok userRuns (careful userRuns userCode isReq)
              rw [taken] at failed
              cases failed
            next =>
              split at failed
              · exact handleRpcRsp_fault failed
              · cases failed
        | addService => cases failed
        | setFailed => exact setRequest_fault failed
        | setResponse => exact setRequest_fault failed
        | handlerReturn => exact handlerReturn_fault failed
        | runDone =>
            have outside : s.inHandler = false := careful userRuns
            simp only [State.act] at failed
            simp only [State.inHandler] at outside
            split at failed
            next frames => simp [frames] at outside
            next frames => simp [frames] at outside
            next =>
              cases failed
              rfl
      next =>
        cases failed
        rfl

/-- A handler that runs its closure dereferences null. -/
theorem runDone_step (userRuns : s.core.UserRuns) (inside : s.inHandler = true) :
    (machine protobuf).step s (.user .runDone) = .error .nullClosure := by
  simp only [State.inHandler] at inside
  split at inside
  all_goals try contradiction
  all_goals
    next frames => simp [machine, State.step, userRuns, State.userCode, State.act, frames]; rfl

/-- The request for which a handler is called is answered. -/
theorem Received.Made.attended_of_target {Allowed : State Msg → Label Msg → Prop} {env : Bool}
    {packet : Packet} {answers : Option CallId} {serviceName methodName : Bytes} {srcCoroId : Int}
    {rest : Packet} (run : (machine protobuf).Run Allowed (State.init protobuf env) s')
    (made : (s'.received s.receivedCount).Made protobuf s packet answers)
    (count : s'.receivedCount = s.receivedCount + 1) (isReq : packet.opcode = rpcReq)
    (read : readHeader packet = some (serviceName, methodName, srcCoroId, rest))
    (served : (s.target protobuf packet).isSome = true) :
    Attended protobuf s' s.receivedCount packet.sessionId srcCoroId := by
  rcases made.request with ⟨_, refused⟩ | ⟨request, after, accepts, accepted⟩
  · simp [refused isReq] at served
  · have src : request.srcCoroId = srcCoroId := by
      obtain ⟨_, _, _, read', _, _⟩ := accepts.read
      simp only [read, Option.some.injEq, Prod.mk.injEq] at read'
      exact read'.2.2.1.symm
    intro later onward
    have known : s.receivedCount < s'.receivedCount := count ▸ Nat.lt_succ_self _
    obtain ⟨old, now, is, session, src'⟩ := request_of_run onward known accepted
    have whole := (run.mono fun _ _ _ => trivial).trans onward
    refine ⟨now, is, (answered_of_accepted whole old is).imp_right fun sent => ?_⟩
    rwa [Request.reply, session, src', accepts.session, src] at sent

/-- A step can be relied on if and only if it is careful. -/
theorem robust_iff_careful {Allowed : State Msg → Label Msg → Prop} {env : Bool}
    (run : (machine protobuf).Run Allowed (State.init protobuf env) s) (label : Label Msg) :
    Robust protobuf s label ↔ Careful protobuf s label := by
  constructor
  · intro robust
    cases label with
    | work | proceed => trivial
    | user action =>
        cases action with
        | deliver packet answers =>
            intro userRuns userCode isReq
            obtain ⟨next, taken, _, answered⟩ :=
              robust.handled packet answers rfl userRuns userCode isReq
            cases read : readHeader packet with
            | none => exact .inl rfl
            | some header =>
                -- The request is on record, so a handler has been called for it.
                obtain ⟨request, accepted, _⟩ := answered _ _ _ _ read next .start
                have made := (step_effect taken).made_of_deliver.2
                rcases made.request with ⟨none, _⟩ | ⟨_, _, accepts, _⟩
                · exact absurd (none.symm.trans accepted) (by simp)
                · exact .inr (by rw [accepts.target, Option.isSome_some])
        | runDone =>
            intro userRuns
            by_contra outside
            have inside : s.inHandler = true := by simpa using outside
            have safe := robust.noNull .nullClosure (runDone_step userRuns inside)
            cases safe
        | _ => trivial
  · intro careful
    refine ⟨fun fault failed => careful.noNull failed, ?_⟩
    rintro packet answers rfl userRuns userCode isReq
    have served := careful userRuns userCode isReq
    obtain ⟨before, handled⟩ : ∃ next, s.handleRpcReq protobuf s.core.coSelf packet answers =
        .ok next := handleRpcReq_ok userRuns served
    have taken : (machine protobuf).step s (.user (.deliver packet answers)) =
        .ok before.tick := by
      rw [deliver_step userRuns userCode isReq, handled]
      rfl
    have effect := step_effect taken
    obtain ⟨count, made⟩ := effect.made_of_deliver
    refine ⟨before.tick, taken, ?_, fun serviceName methodName srcCoroId rest read => ?_⟩
    · rcases effect.services_cases with same | ⟨_, other⟩
      · exact same
      · cases other
    · have whole := Machine.Run.step (run.mono fun _ _ _ => trivial) trivial taken
      exact made.attended_of_target whole count isReq read (served.resolve_left (by simp [read]))

/-- A request for `Echo` that finds `MyEchoService` registered. -/
theorem echo_request_robust :
    let s := ((machine echoProtobuf).replay (fun _ _ => true) (State.init echoProtobuf false)
      [.user (.addService myEchoService)]).get (by decide +kernel)
    Robust echoProtobuf s (.user (.deliver (requestPacket echoProtobuf 7 echoMethod 5
      ⟨EchoMessage.request, some (text "hello")⟩) none)) :=
  (robust_iff_careful
    (.of_replay (fun _ _ passes => passes) (Option.some_get _).symm) _).mpr
      fun _ _ _ => .inr (by decide +kernel)

/-- With `MyEchoService` registered, a request that names another service makes
`HandleRpcReq` call a null service and has put an entry for that name into `_services`; one
that names another method makes it use a null method; one whose body does not parse is
dropped without a reply, although its header could be read; and the handler of `GetData`
runs a null closure. -/
theorem bad_requests_not_answered :
    let hello : EchoMessage := ⟨EchoMessage.request, some (text "hello")⟩
    let request (method : MethodDescriptor) : Label EchoMessage :=
      .user (.deliver (requestPacket echoProtobuf 7 method 5 hello) none)
    let garbled : Packet := (((Packet.new 7 rpcReq).writeString (text "EchoService")).writeString
      (text "Echo")).writeInt32 5
    let services := Services.addService .empty myEchoService
    let after (labels : List (Label EchoMessage)) :=
      (machine echoProtobuf).replay (fun _ _ => true) (State.init echoProtobuf false)
        (.user (.addService myEchoService) :: labels)
    let faultOf (labels : List (Label EchoMessage)) :=
      (machine echoProtobuf).fault (State.init echoProtobuf false)
        (.user (.addService myEchoService) :: labels)
    faultOf [request { echoMethod with service := text "NoSuchService" }] = some .nullService ∧
    (services.find (text "NoSuchService")).isSome = false ∧
    ((services.select (text "NoSuchService") (text "Echo")).1.find
      (text "NoSuchService")).isSome = true ∧
    faultOf [request { echoMethod with name := text "NoSuchMethod" }] = some .nullMethod ∧
    (readHeader garbled).isSome = true ∧
    (after [.user (.deliver garbled none)]).map (fun s => (s.handling, s.replies)) =
      some ([], []) ∧
    faultOf (request getDataMethod :: getData 0) = some .nullClosure := by
  decide +kernel

end LibcoRpc.Rpc
