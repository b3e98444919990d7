import LibcoRpc.CoroMgr.Immediate
import LibcoRpc.Rpc.Dispatch

/-!
# Handling inline and in a coroutine

`HandleRpcReq` calls the handler itself, or creates a coroutine for it if the method's option
`is_coro_required` says so. For a handler that returns without suspending the choice makes no
difference to the peer, and the coroutine leaves nothing behind but a used-up id once the next
`Update` is over. `modes_agree` compares the two from the same state, on the same packet, with
the same handler.
-/

namespace LibcoRpc.Rpc

open LibcoRpc.Std
open LibcoRpc.CoroMgr (Co CoroPtr Choice Op)

variable {Msg : Type} {protobuf : Protobuf Msg} {s u u' v r : State Msg}

/-- What a handler can do without the coroutine manager and without taking another packet. -/
def Action.plain : Action Msg → Bool
  | .addService _ => true
  | .setFailed _ _ => true
  | .setResponse _ _ => true
  | _ => false

/-- `HandleRpcReq` from the packet to its return, if it calls the handler itself. -/
def inlineLabels (packet : Packet) (answers : Option CallId) (body : List (Action Msg)) :
    List (Label Msg) :=
  .user (.deliver packet answers) :: (body.map .user ++ [.user .handlerReturn])

/-- The same if it creates a coroutine for the handler. -/
def coroLabels (packet : Packet) (answers : Option CallId) (body : List (Action Msg))
    (choice : Choice) : List (Label Msg) :=
  [.user (.deliver packet answers), .work choice, .work choice, .work choice] ++
    (body.map .user ++ [.user .handlerReturn, .work choice, .proceed])

/-- The steps `labels` lead from `s` to `s'`. -/
def Leads (protobuf : Protobuf Msg) (s : State Msg) (labels : List (Label Msg))
    (s' : State Msg) : Prop :=
  (machine protobuf).replay (fun _ _ => true) s labels = some s'

theorem Leads.cons {label : Label Msg} {labels : List (Label Msg)} {middle s' : State Msg}
    (taken : (machine protobuf).step s label = .ok middle)
    (onward : Leads protobuf middle labels s') : Leads protobuf s (label :: labels) s' := by
  rw [Leads, Machine.replay_cons (fun _ _ => true) rfl taken]
  exact onward

theorem Leads.append {labels further : List (Label Msg)} {middle s' : State Msg}
    (first : Leads protobuf s labels middle) (second : Leads protobuf middle further s') :
    Leads protobuf s (labels ++ further) s' :=
  (Machine.replay_append first).trans second

/-- User code acts where it runs. -/
theorem act_step {action : Action Msg} (userRuns : s.core.UserRuns) (userCode : s.userCode = true) :
    (machine protobuf).step s (.user action) =
      (s.act protobuf s.core.coSelf action).map State.tick := by
  simp [machine, State.step, userRuns, userCode]

/-! ## The handler -/

/-- What `OnRpcDone` makes the reply from. -/
structure Request.Agrees (request request' : Request Msg) : Prop where
  sessionId : request'.sessionId = request.sessionId
  srcCoroId : request'.srcCoroId = request.srcCoroId
  controller : request'.controller = request.controller
  rsp : request'.rsp = request.rsp
  returned : request'.returned = request.returned

/-- The packet is being handled in both. -/
structure Serving (packet : PacketPtr) (u v : State Msg) : Prop where
  others : ∀ other, other ≠ packet → v.received other = u.received other
  own : ∃ request request', (u.received packet).request = some request ∧
    (v.received packet).request = some request' ∧ request.Agrees request'
  pushed : v.pushed = u.pushed

/-- Control stays where it is. -/
structure Stays (u u' : State Msg) : Prop where
  core : u'.core = u.core
  frames : u'.frames = u.frames

variable {packet : PacketPtr}

/-- A write to the objects of a request. -/
theorem Serving.setRequest (serving : Serving packet u v) {asked : PacketPtr}
    {update : Request Msg → Request Msg}
    (respects : ∀ {request request'}, request.Agrees request' →
      (update request).Agrees (update request')) (did : u.setRequest asked update = .ok u') :
    ∃ v', v.setRequest asked update = .ok v' ∧ Serving packet u' v' ∧ Stays u u' ∧
      Stays v v' := by
  obtain ⟨request, request', inU, inV, agrees⟩ := serving.own
  simp only [State.setRequest] at did ⊢
  by_cases own : asked = packet
  · subst own
    simp only [inU] at did
    simp only [inV, agrees.returned]
    split at did
    · cases did
    next running =>
      cases did
      refine ⟨_, if_neg running, ⟨fun other different => ?_,
        ⟨update request, update request', ?_, ?_, respects agrees⟩, serving.pushed⟩, ⟨rfl, rfl⟩,
        ⟨rfl, rfl⟩⟩
      · simpa [State.setReceived, different] using serving.others other different
      · simp [State.setReceived]
      · simp [State.setReceived]
  · rw [serving.others asked own]
    split at did
    · cases did
    · split at did
      · cases did
      next running =>
        cases did
        refine ⟨_, if_neg running, ⟨fun other different => ?_, ⟨request, request', ?_, ?_, agrees⟩,
          serving.pushed⟩, ⟨rfl, rfl⟩, ⟨rfl, rfl⟩⟩
        · simp only [State.setReceived, Function.update_apply, serving.others other different]
        · simpa [State.setReceived, Ne.symm own] using inU
        · simpa [State.setReceived, Ne.symm own] using inV

theorem Serving.act (serving : Serving packet u v) {action : Action Msg}
    (plain : action.plain = true) {self self' : Co} (did : u.act protobuf self action = .ok u') :
    ∃ v', v.act protobuf self' action = .ok v' ∧ Serving packet u' v' ∧ Stays u u' ∧
      Stays v v' := by
  cases action with
  | addService service =>
      cases did
      exact ⟨_, rfl, { serving with }, ⟨rfl, rfl⟩, ⟨rfl, rfl⟩⟩
  | setFailed asked reason =>
      exact serving.setRequest (fun agrees => { agrees with controller := rfl }) did
  | setResponse asked rsp => exact serving.setRequest (fun agrees => { agrees with rsp := rfl }) did
  | _ => cases plain

theorem Stays.trans {w : State Msg} (first : Stays u v) (second : Stays v w) : Stays u w :=
  ⟨second.core.trans first.core, second.frames.trans first.frames⟩

theorem Stays.userRuns (stays : Stays u u') (userRuns : u.core.UserRuns) : u'.core.UserRuns := by
  rw [stays.core]
  exact userRuns

theorem Stays.userCode (stays : Stays u u') (userCode : u.userCode = true) :
    u'.userCode = true := by
  rw [State.userCode, stays.core, stays.frames]
  exact userCode

/-- The handler does the same in both. -/
theorem Serving.body (serving : Serving packet u v) (userRuns : u.core.UserRuns)
    (userCode : u.userCode = true) (userRunsV : v.core.UserRuns) (userCodeV : v.userCode = true)
    {body : List (Action Msg)} (plain : body.all Action.plain = true)
    {tail : List (Label Msg)} (leads : Leads protobuf u (body.map .user ++ tail) r) :
    ∃ u' v', Leads protobuf u' tail r ∧ Leads protobuf v (body.map .user) v' ∧
      Serving packet u' v' ∧ Stays u u' ∧ Stays v v' := by
  induction body generalizing u v with
  | nil => exact ⟨u, v, leads, rfl, serving, ⟨rfl, rfl⟩, ⟨rfl, rfl⟩⟩
  | cons action body ih =>
      rw [List.all_cons, Bool.and_eq_true] at plain
      obtain ⟨middle, _, taken, onward⟩ := Machine.replay_cons_cases leads
      rw [act_step userRuns userCode] at taken
      cases did : u.act protobuf u.core.coSelf action with
      | error fault =>
          rw [did] at taken
          cases taken
      | ok acted =>
          rw [did] at taken
          cases taken
          obtain ⟨actedV, didV, still, stays, staysV⟩ := serving.act plain.1 did
          have still : Serving packet acted.tick actedV.tick := { still with }
          have stays : Stays u acted.tick := ⟨stays.core, stays.frames⟩
          have staysV : Stays v actedV.tick := ⟨staysV.core, staysV.frames⟩
          obtain ⟨last, lastV, rest, restV, ended, later, laterV⟩ :=
            ih still (stays.userRuns userRuns) (stays.userCode userCode)
              (staysV.userRuns userRunsV) (staysV.userCode userCodeV) plain.2 onward
          have takenV : (machine protobuf).step v (.user action) = .ok actedV.tick := by
            rw [act_step userRunsV userCodeV, didV]
            rfl
          exact ⟨last, lastV, rest, .cons takenV restV, ended, stays.trans later,
            staysV.trans laterV⟩

/-! ## From the packet to the handler -/

/-- What `HandleRpcReq` makes for a packet it accepts. -/
def newRequest (protobuf : Protobuf Msg) (service : Nat) (method : MethodDescriptor)
    (sessionId srcCoroId : Int) (req : Msg) : Request Msg :=
  { service := service, method := method, sessionId := sessionId, srcCoroId := srcCoroId,
    req := req, controller := .new, rsp := protobuf.empty method.responseType, returned := false }

theorem receive_request {arrived packet : Packet} {answers : Option CallId}
    {request : Option (Request Msg)} :
    ((s.receive arrived packet answers request).received s.receivedCount).request = request := by
  simp [State.receive]

section Deliveries

variable {packet rest after : Packet} {answers : Option CallId} {serviceName methodName : Bytes}
  {srcCoroId : Int} {service : Nat} {method : MethodDescriptor} {req : Msg}
  (userRuns : s.core.UserRuns) (userCode : s.userCode = true) (isReq : packet.opcode = rpcReq)
  (read : readHeader packet = some (serviceName, methodName, srcCoroId, rest))
  (selected : s.services.select serviceName methodName =
    (s.services, some service, some method))

include userRuns userCode isReq read selected

theorem deliver_garbled (garbled : rest.readMessage protobuf method.requestType
      (protobuf.empty method.requestType) = (false, req, after)) :
    (machine protobuf).step s (.user (.deliver packet answers)) =
      .ok ((s.receive packet after answers none).recycle s.receivedCount).tick := by
  rw [deliver_step userRuns userCode isReq]
  simp only [State.handleRpcReq, read, selected, garbled]
  rfl

variable (parsed : rest.readMessage protobuf method.requestType
  (protobuf.empty method.requestType) = (true, req, after))

include parsed

theorem deliver_inline (mode : method.isCoroRequired = false) :
    (machine protobuf).step s (.user (.deliver packet answers)) =
      .ok ((s.receive packet after answers
          (some (newRequest protobuf service method packet.sessionId srcCoroId req))).goto
        s.core.coSelf (.handler s.receivedCount :: s.frames s.core.coSelf)).tick := by
  rw [deliver_step userRuns userCode isReq]
  simp only [State.handleRpcReq, read, selected, parsed, mode, Bool.not_false, if_true]
  rfl

theorem deliver_coro (mode : method.isCoroRequired = true)
    (other : s.core.coSelf ≠ .co s.core.coroCount) :
    (machine protobuf).step s (.user (.deliver packet answers)) =
      .ok { ((s.receive packet after answers
            (some (newRequest protobuf service method packet.sessionId srcCoroId req))).goto
            (.co s.core.coroCount) [.entry s.receivedCount]).goto s.core.coSelf
          (.reqRet s.receivedCount :: s.frames s.core.coSelf) with
        core := (s.core.createCoro s.receivedCount 0).goto s.core.coSelf
          [.resume s.core.coroCount .nil .explicit] }.tick := by
  have created : CoroMgr.machine.step s.core (.user (.createCoro s.receivedCount 0)) = _ :=
    createCoro_ok userRuns
  have stillRuns : (s.core.createCoro s.receivedCount 0).UserRuns := userRuns
  have resumed := coroResume_ok stillRuns createCoro_live
  rw [deliver_step userRuns userCode isReq]
  simp only [State.handleRpcReq, read, selected, parsed, mode, Bool.not_true, Bool.false_eq_true,
    if_false, State.coreStep, State.receive, created, State.goto, resumed,
    Function.update_of_ne other]
  rfl

end Deliveries

/-- What the coroutine manager works through is worked through in the process. -/
theorem works_lead (choices : List Choice) {check : CoroMgr.State → CoroMgr.Label → Bool}
    {core : CoroMgr.State}
    (went : CoroMgr.machine.replay check s.core (choices.map .work) = some core) :
    Leads protobuf s (choices.map .work) { s with core := core } := by
  induction choices generalizing s with
  | nil =>
      cases went
      rfl
  | cons choice choices ih =>
      obtain ⟨middle, _, taken, onward⟩ := Machine.replay_cons_cases went
      have worked : (machine protobuf).step s (.work choice) = .ok { s with core := middle } := by
        simp only [machine, State.step, State.coreStep, taken]
      exact .cons worked (ih onward)

/-! ## From the handler back -/

/-- The handler returns to `HandleRpcReq`. -/
theorem inline_returns {caller : List RpcFrame} (userRuns : u.core.UserRuns)
    (frames : u.frames u.core.coSelf = .handler packet :: caller) {request : Request Msg}
    (accepted : (u.received packet).request = some request)
    (leads : Leads protobuf u [.user .handlerReturn] r) :
    r.core = u.core ∧ r.frames u.core.coSelf = caller ∧
      r.pushed = request.reply protobuf :: u.pushed := by
  have userCode : u.userCode = true := by rw [State.userCode, frames]
  have taken := Machine.step_of_replay leads
  rw [act_step userRuns userCode] at taken
  simp only [State.act, State.handlerReturn, frames, accepted] at taken
  cases taken
  exact ⟨rfl, Function.update_self .., rfl⟩

/-- The handler's coroutine ends, and `HandleRpcReq` goes on after `coro->Resume()`. -/
theorem coro_returns {core : CoroMgr.State} {caller : List RpcFrame} (choice : Choice)
    (named : core.registry.Named) (unmade : core.frames (.co core.coroCount) = [])
    (unused : core.registry.FreeId (CoroMgr.nextCoroId core.maxCoroId))
    (inside : v.core = core.entered packet)
    (own : v.frames (.co core.coroCount) = [.entry packet])
    (waits : v.frames core.coSelf = .reqRet packet :: caller) {request : Request Msg}
    (accepted : (v.received packet).request = some request) :
    ∃ t, Leads protobuf v [.user .handlerReturn, .work choice, .proceed] t ∧
      t.core = ((core.left packet).returns CoroMgr.llbcOk).goto core.coSelf [] ∧
      t.frames core.coSelf = caller ∧ t.pushed = request.reply protobuf :: v.pushed := by
  let returned := ((core.left packet).returns CoroMgr.llbcOk).goto core.coSelf []
  let ended : State Msg :=
    { (v.onRpcDone protobuf packet request).goto (.co core.coroCount) [] with
      core := core.left packet }.tick
  have self : v.core.coSelf = .co core.coroCount := by
    rw [inside]
    rfl
  have userRuns : v.core.UserRuns := by
    rw [inside]
    exact CoroMgr.entered_userRuns named unmade
  have userCode : v.userCode = true := by rw [State.userCode, self, own]
  have ends : (machine protobuf).step v (.user .handlerReturn) = .ok ended := by
    have leaves : CoroMgr.machine.step (core.entered packet) (.user .entryReturn) =
        .ok (core.left packet) := CoroMgr.left_of_entered named unmade unused
    have same : ((v.onRpcDone protobuf packet request).goto (.co core.coroCount) []).core =
        core.entered packet := inside
    rw [act_step userRuns userCode, self]
    simp only [State.act, State.handlerReturn, own, accepted, State.coreStep, same, leaves]
    rfl
  have works : (machine protobuf).step ended (.work choice) =
      .ok { ended with core := returned } := by
    have stepped : CoroMgr.machine.step (core.left packet) (.work choice) = .ok returned :=
      CoroMgr.returned_of_left
    have same : ended.core = core.left packet := rfl
    simp only [machine, State.step, State.coreStep, same, stepped]
  have back : (machine protobuf).step { ended with core := returned } .proceed =
      .ok (((({ ended with core := returned } : State Msg).goto core.coSelf caller).recycle
        packet).tick) := by
    have idle : returned.UserRuns := Function.update_self ..
    have other : core.coSelf ≠ .co core.coroCount := fun same =>
      named.unmade_offStack (named.mem_of_self same)
    have frames : ended.frames returned.coSelf = .reqRet packet :: caller :=
      (Function.update_of_ne other ..).trans waits
    simp only [machine, State.step, idle, if_true, State.proceed, frames]
    rfl
  exact ⟨_, .cons ends (.cons works (.cons back rfl)), rfl, Function.update_self .., rfl⟩

theorem Request.Agrees.reply {request request' : Request Msg} (agrees : request.Agrees request') :
    request'.reply protobuf = request.reply protobuf := by
  rw [Request.reply, agrees.sessionId, agrees.srcCoroId, agrees.controller, agrees.rsp,
    Request.reply]

section Served

variable {inline coro : Services} {serviceName methodName : Bytes} {service : Nat}
  {method : MethodDescriptor} {packet rest after : Packet} {srcCoroId : Int} {req : Msg}
  {answers : Option CallId}
  (named : s.core.registry.Named) (unmade : s.core.frames (.co s.core.coroCount) = [])
  (userRuns : s.core.UserRuns) (userCode : s.userCode = true)
  (unused : s.core.registry.FreeId (CoroMgr.nextCoroId s.core.maxCoroId))
  (room : s.core.callStack.length < CoroMgr.callStackCapacity)
  (inlineMethod : inline.select serviceName methodName =
    (inline, some service, some { method with isCoroRequired := false }))
  (coroMethod : coro.select serviceName methodName =
    (coro, some service, some { method with isCoroRequired := true }))
  (isReq : packet.opcode = rpcReq)
  (read : readHeader packet = some (serviceName, methodName, srcCoroId, rest))
  (parsed : rest.readMessage protobuf method.requestType (protobuf.empty method.requestType) =
    (true, req, after))

include named unmade userRuns userCode unused room inlineMethod coroMethod isReq read parsed

/-- `HandleRpcReq` returns in both modes, and the reply is the same. -/
theorem served_alike {handler : List (Action Msg)} (plain : handler.all Action.plain = true)
    (choice : Choice)
    (leads : Leads protobuf { s with services := inline } (inlineLabels packet answers handler) r) :
    ∃ t, Leads protobuf { s with services := coro } (coroLabels packet answers handler choice) t ∧
      r.core = s.core ∧
      t.core = ((s.core.left s.receivedCount).returns CoroMgr.llbcOk).goto s.core.coSelf [] ∧
      r.frames s.core.coSelf = s.frames s.core.coSelf ∧
      t.frames s.core.coSelf = s.frames s.core.coSelf ∧ t.pushed = r.pushed := by
  have other : s.core.coSelf ≠ .co s.core.coroCount := fun same =>
    named.unmade_offStack (named.mem_of_self same)
  let request (isCoroRequired : Bool) : Request Msg := newRequest protobuf service
    { method with isCoroRequired := isCoroRequired } packet.sessionId srcCoroId req
  -- The handler is about to begin: inline, and in its coroutine.
  let called : State Msg :=
    ((State.receive { s with services := inline } packet after answers
        (some (request false))).goto s.core.coSelf
      (.handler s.receivedCount :: s.frames s.core.coSelf)).tick
  let resumed : State Msg :=
    { ((State.receive { s with services := coro } packet after answers
          (some (request true))).goto (.co s.core.coroCount) [.entry s.receivedCount]).goto
        s.core.coSelf (.reqRet s.receivedCount :: s.frames s.core.coSelf) with
      core := (s.core.createCoro s.receivedCount 0).goto s.core.coSelf
        [.resume s.core.coroCount .nil .explicit] }.tick
  let entered : State Msg := { resumed with core := s.core.entered s.receivedCount }
  have calls : (machine protobuf).step { s with services := inline }
      (.user (.deliver packet answers)) = .ok called :=
    deliver_inline userRuns userCode isReq read inlineMethod parsed rfl
  have resumes : (machine protobuf).step { s with services := coro }
      (.user (.deliver packet answers)) = .ok resumed :=
    deliver_coro userRuns userCode isReq read coroMethod parsed rfl other
  have enters : Leads protobuf resumed [.work choice, .work choice, .work choice] entered :=
    works_lead [choice, choice, choice]
      (CoroMgr.entered_of_resume s.receivedCount named room (fun _ _ => true) fun _ => rfl)
  have calledFrames : called.frames s.core.coSelf =
      .handler s.receivedCount :: s.frames s.core.coSelf := Function.update_self ..
  have enteredFrames : entered.frames (.co s.core.coroCount) = [.entry s.receivedCount] :=
    (Function.update_of_ne (Ne.symm other) ..).trans (Function.update_self ..)
  have waits : entered.frames s.core.coSelf =
      .reqRet s.receivedCount :: s.frames s.core.coSelf := Function.update_self ..
  have serving : Serving s.receivedCount called entered := by
    refine ⟨fun asked different => ?_, ⟨request false, request true, ?_, ?_, ?_⟩, rfl⟩
    · exact (Function.update_of_ne different ..).trans (Function.update_of_ne different ..).symm
    · exact receive_request
    · exact receive_request
    · exact ⟨rfl, rfl, rfl, rfl, rfl⟩
  have calledCode : called.userCode = true := by
    have self : called.core.coSelf = s.core.coSelf := rfl
    rw [State.userCode, self, calledFrames]
  have enteredCode : entered.userCode = true := by
    have self : entered.core.coSelf = .co s.core.coroCount := rfl
    rw [State.userCode, self, enteredFrames]
  obtain ⟨middle, _, taken, onward⟩ := Machine.replay_cons_cases leads
  obtain rfl : called = middle := Except.ok.inj (calls.symm.trans taken)
  obtain ⟨u, v, returns, goes, still, stays, staysV⟩ :=
    serving.body userRuns calledCode (CoroMgr.entered_userRuns named unmade) enteredCode plain
      onward
  obtain ⟨inU, inV, acceptedU, acceptedV, agrees⟩ := still.own
  have self : u.core.coSelf = s.core.coSelf := congrArg CoroMgr.State.coSelf stays.core
  have handling : u.frames u.core.coSelf =
      .handler s.receivedCount :: s.frames s.core.coSelf := by
    rw [self, stays.frames]
    exact calledFrames
  obtain ⟨core, frames, pushed⟩ :=
    inline_returns (stays.userRuns userRuns) handling acceptedU returns
  rw [self] at frames
  rw [← staysV.frames] at enteredFrames waits
  obtain ⟨t, ends, coreT, framesT, pushedT⟩ :=
    coro_returns choice named unmade unused staysV.core enteredFrames waits acceptedV
  refine ⟨t, (Leads.cons resumes enters).append (goes.append ends), core.trans stays.core, coreT,
    frames, framesT, ?_⟩
  rw [pushedT, pushed, agrees.reply, still.pushed]

end Served

/-- With a full call stack the coroutine cannot be entered. -/
theorem full_stack_overflows {packet rest after : Packet} {answers : Option CallId}
    {serviceName methodName : Bytes} {srcCoroId : Int} {service : Nat} {method : MethodDescriptor}
    {req : Msg} (named : s.core.registry.Named) (userRuns : s.core.UserRuns)
    (userCode : s.userCode = true) (full : CoroMgr.callStackCapacity ≤ s.core.callStack.length)
    (isReq : packet.opcode = rpcReq)
    (read : readHeader packet = some (serviceName, methodName, srcCoroId, rest))
    (selected : s.services.select serviceName methodName =
      (s.services, some service, some method))
    (parsed : rest.readMessage protobuf method.requestType (protobuf.empty method.requestType) =
      (true, req, after))
    (mode : method.isCoroRequired = true) (choice : Choice) :
    (machine protobuf).fault s
      [.user (.deliver packet answers), .work choice, .work choice, .work choice] =
        some (.core .callStackOverflow) := by
  have other : s.core.coSelf ≠ .co s.core.coroCount := fun same =>
    named.unmade_offStack (named.mem_of_self same)
  have resuming : Leads protobuf s
      [.user (.deliver packet answers), .work choice, .work choice] _ :=
    .cons (deliver_coro userRuns userCode isReq read selected parsed mode other)
      (works_lead [choice, choice]
        (CoroMgr.resuming_of_resume (fun _ _ => true) fun _ => rfl))
  have overflows := (CoroMgr.resuming_step s.receivedCount choice named).trans (if_pos full)
  refine Machine.fault_of_replay resuming ?_
  simp only [machine, State.step, State.coreStep, overflows]

/-- A method is registered with its option off and with its option on, and a request for it
arrives while user code runs, in a process whose coroutine manager has only taken ids that were
not in use and finds the next one unused, and whose call stack has room for another coroutine.
A body that cannot be read is dropped in both modes. Otherwise, if the handler returns without
asking anything of the coroutine manager when it is called inline, then so it does in a
coroutine; the same packets have been pushed; and whatever the coroutines do that run in the
next `Update`, as long as none is created, `RpcCoroMgr` is then in the same state. -/
theorem modes_agree {env : Bool} {inline coro : Services} {serviceName methodName : Bytes}
    {service : Nat} {method : MethodDescriptor} {packet rest : Packet} {srcCoroId : Int}
    (run : CoroMgr.machine.Run CoroMgr.TakesFreeId (CoroMgr.State.init env) s.core)
    (userRuns : s.core.UserRuns) (userCode : s.userCode = true)
    (unused : s.core.registry.FreeId (CoroMgr.nextCoroId s.core.maxCoroId))
    (room : s.core.callStack.length < CoroMgr.callStackCapacity)
    (inlineMethod : inline.select serviceName methodName =
      (inline, some service, some { method with isCoroRequired := false }))
    (coroMethod : coro.select serviceName methodName =
      (coro, some service, some { method with isCoroRequired := true }))
    (isReq : packet.opcode = rpcReq)
    (read : readHeader packet = some (serviceName, methodName, srcCoroId, rest))
    (answers : Option CallId) :
    let body := rest.readMessage protobuf method.requestType (protobuf.empty method.requestType)
    (body.1 = false → ∃ r t,
      (machine protobuf).step { s with services := inline } (.user (.deliver packet answers)) =
        .ok r ∧
      (machine protobuf).step { s with services := coro } (.user (.deliver packet answers)) =
        .ok t ∧
      r.pushed = s.pushed ∧ t.pushed = s.pushed ∧ r.core = s.core ∧ t.core = s.core) ∧
    (body.1 = true → ∀ handler choice r, handler.all Action.plain = true →
      Leads protobuf { s with services := inline } (inlineLabels packet answers handler) r →
      ∃ t, Leads protobuf { s with services := coro } (coroLabels packet answers handler choice) t ∧
        r.frames s.core.coSelf = s.frames s.core.coSelf ∧
        t.frames s.core.coSelf = s.frames s.core.coSelf ∧ t.pushed = r.pushed ∧
        ∀ labels r', CoroMgr.Updates r.core labels r' → ∃ longer t',
          CoroMgr.Padded labels longer ∧ CoroMgr.Updates t.core longer t' ∧
            CoroMgr.Alike s.core.coroCount r' t') := by
  intro body
  have named := CoroMgr.named_of_run run
  have unmade := CoroMgr.frames_of_unmade run (Nat.le_refl _)
  rcases parsed : body with ⟨decoded, req, after⟩
  refine ⟨fun garbled => ?_, fun readable handler choice r plain leads => ?_⟩
  · cases garbled
    exact ⟨_, _, deliver_garbled userRuns userCode isReq read inlineMethod parsed,
      deliver_garbled userRuns userCode isReq read coroMethod parsed, rfl, rfl, rfl, rfl⟩
  · cases readable
    obtain ⟨t, leadsT, core, coreT, frames, framesT, pushed⟩ := served_alike named unmade userRuns
      userCode unused room inlineMethod coroMethod isReq read parsed plain choice leads
    refine ⟨t, leadsT, frames, framesT, pushed, ?_⟩
    rw [core, coreT]
    intro labels r' updates
    have takesFree : ∀ (core : CoroMgr.State) (op : Op), core.issues (.user op) = none →
        CoroMgr.TakesFreeId core (.user op) := fun core op none _ issued => by
      rw [none] at issued
      cases issued
    have free : CoroMgr.TakesFreeId s.core (.user (.createCoro s.receivedCount 0)) :=
      fun _ issued => by
        cases issued
        exact unused
    have runT := (run.trans (spawn_run userRuns takesFree free)).trans
      (CoroMgr.run_returned named unmade room unused)
    exact (CoroMgr.twin_of_left userRuns unused).updates run runT updates

/-- `MyEchoService`, with the option of `Echo` as given. -/
def echoServiceWith (isCoroRequired : Bool) : Service :=
  { myEchoService with methods :=
      [{ echoMethod with isCoroRequired := isCoroRequired }, relayEchoMethod, getDataMethod] }

def echoServices (isCoroRequired : Bool) : Services :=
  .addService .empty (echoServiceWith isCoroRequired)

theorem echoServices_select (isCoroRequired : Bool) :
    (echoServices isCoroRequired).select (text "EchoService") (text "Echo") =
      (echoServices isCoroRequired, some 0,
        some { echoMethod with isCoroRequired := isCoroRequired }) := by
  have registered : (echoServices isCoroRequired).find (echoServiceWith isCoroRequired).name =
      some (echoServiceWith isCoroRequired).info := by
    rw [echoServices, Services.addService, OrdMap.find_assign, if_pos rfl, Service.info]
  have wellFormed : (echoServiceWith isCoroRequired).WellFormed := by
    cases isCoroRequired <;> exact ⟨by decide, by decide⟩
  exact select_registered registered wellFormed List.mem_cons_self

def helloPacket : Packet :=
  requestPacket echoProtobuf 7 echoMethod 5 ⟨EchoMessage.request, some (text "hello")⟩

theorem helloPacket_read : ∃ rest,
    readHeader helloPacket = some (text "EchoService", text "Echo", 5, rest) ∧
      (rest.readMessage echoProtobuf echoMethod.requestType
        (echoProtobuf.empty echoMethod.requestType)).1 = true := by
  refine ⟨((readHeader helloPacket).get (by decide +kernel)).2.2.2, ?_, ?_⟩ <;> decide +kernel

def helloResponse : EchoMessage :=
  ⟨EchoMessage.response, some (text " Echo >>>>>>> hello")⟩

/-- `Start`, and a coroutine that goes to sleep for a millisecond. -/
def sleeper : List (Label EchoMessage) :=
  let work : Label EchoMessage := .work ⟨0, 0⟩
  [.user (.op .start), .user (.op (.createCoro 0 0)), .user (.op (.coroResume 1 .nil)),
    work, work, work, .user (.op (.coroYield 1 1000)), work, work, work, work]

/-- A client calls `Echo` while the coroutine sleeps. In the next `Update` it ends. -/
theorem echo_modes_agree :
    let s := ((machine echoProtobuf).replay
      (fun s label => decide (TakesNewId echoProtobuf s label)) (State.init echoProtobuf true)
      sleeper).get (by decide +kernel)
    let handler : List (Action EchoMessage) := [.setResponse 0 helloResponse]
    let r := ((machine echoProtobuf).replay (fun _ _ => true)
      { s with services := echoServices false }
      (inlineLabels helloPacket none handler)).get (by decide +kernel)
    let wakes := List.replicate 9 (.work ⟨2000, 1⟩) ++ [.user .entryReturn] ++
      List.replicate 9 (.work ⟨2000, 1⟩)
    let r' := (CoroMgr.machine.replay
      (fun s label => decide (CoroMgr.Quietly r.core.coSelf s label))
      (r.core.goto r.core.coSelf [.schedUpdate, .updateRecycle]) wakes).get (by decide +kernel)
    r.pushed = [replyPacket echoProtobuf 7 5 .new helloResponse] ∧
    r'.coros.entries.map Prod.fst = [1] ∧
    ∃ t longer t', Leads echoProtobuf { s with services := echoServices true }
        (coroLabels helloPacket none handler ⟨0, 0⟩) t ∧ t.pushed = r.pushed ∧
      CoroMgr.Padded wakes longer ∧ CoroMgr.Updates t.core longer t' ∧
      CoroMgr.Alike 2 r' t' := by
  intro s handler r wakes r'
  have run : (machine echoProtobuf).Run (TakesNewId echoProtobuf)
      (State.init echoProtobuf true) s :=
    .of_replay (fun _ _ passes => of_decide_eq_true passes) (Option.some_get _).symm
  have userRuns : s.core.UserRuns := by decide +kernel
  have userCode : s.userCode = true := by decide +kernel
  have unused : s.core.registry.FreeId (CoroMgr.nextCoroId s.core.maxCoroId) := by decide +kernel
  have room : s.core.callStack.length < CoroMgr.callStackCapacity := by decide +kernel
  obtain ⟨rest, read, readable⟩ := helloPacket_read
  have agree := @modes_agree _ echoProtobuf s true _ _ _ _ _ _ _ _ _ (core_run_free run) userRuns
    userCode unused room (echoServices_select false) (echoServices_select true) rfl read none
  obtain ⟨t, leads, _, _, pushed, next⟩ :=
    agree.2 readable handler ⟨0, 0⟩ r rfl (Option.some_get _).symm
  have updates : CoroMgr.Updates r.core wakes r' :=
    ⟨_, CoroMgr.user_step (by decide +kernel), (Option.some_get _).symm, by decide +kernel⟩
  obtain ⟨longer, t', padded, updatesT, alike⟩ := next wakes r' updates
  have made : s.core.coroCount = 2 := by decide +kernel
  rw [made] at alike
  exact ⟨by decide +kernel, by decide +kernel, t, longer, t', leads, pushed, padded, updatesT,
    alike⟩

/-- A client calls `Echo` while the coroutine sleeps. In the next `Update` it creates another
one and ends. The new coroutine has the id 3 or the id 4, according to the option of `Echo`. -/
theorem modes_differ_in_update :
    let handler : List (Action EchoMessage) := [.setResponse 0 helloResponse]
    let work : Label EchoMessage := .work ⟨2000, 1⟩
    let wakes (count : Nat) : List (Label EchoMessage) :=
      .user (.op .update) :: List.replicate 9 work ++
        [.user (.op (.createCoro 0 0)), .user (.op .entryReturn)] ++ List.replicate count work
    let after (isCoroRequired : Bool) (labels : List (Label EchoMessage)) :=
      ((machine echoProtobuf).replay (fun s label => decide (TakesNewId echoProtobuf s label))
        (State.init echoProtobuf true)
        (.user (.addService (echoServiceWith isCoroRequired)) :: sleeper ++ labels)).map
          fun s => (s.core.frames .main, s.core.coros.entries.map Prod.fst, s.pushed)
    let reply := replyPacket echoProtobuf 7 5 .new helloResponse
    after false (inlineLabels helloPacket none handler ++ wakes 9) =
      some ([], [1, 3], [reply]) ∧
    after true (coroLabels helloPacket none handler ⟨0, 0⟩ ++ wakes 11) =
      some ([], [1, 4], [reply]) := by
  decide +kernel

end LibcoRpc.Rpc
