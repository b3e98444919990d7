import LibcoRpc.Rpc.Correlation
import LibcoRpc.Rpc.Echo

/-!
# What a call returns

`CallMethod` has one way out on which it tells its caller nothing: it refuses the main
coroutine without a word to the controller. On every other way the controller has failed,
or the response was read from a packet that arrived during the call.
-/

namespace LibcoRpc.Rpc

open LibcoRpc.Std
open LibcoRpc.CoroMgr (Co CoroPtr Choice Op)

variable {Msg : Type} {protobuf : Protobuf Msg} {s s' : State Msg}

/-- The call has read its response from the packet: a response packet that arrived during
the call, with an empty error text and that message. -/
structure Decoded (protobuf : Protobuf Msg) (s : State Msg) (call : Call Msg)
    (packet : PacketPtr) : Prop where
  known : packet < s.receivedCount
  decoded : call.decoded = some packet
  isRsp : (s.received packet).arrived.opcode = rpcRsp
  after : call.startedAt < (s.received packet).arrivedAt
  before : ∀ time ∈ call.returnedAt, (s.received packet).arrivedAt < time
  carried : ∃ dstCoroId afterId afterText afterMessage,
    (s.received packet).arrived.readInt32 = some (dstCoroId, afterId) ∧
    afterId.readString = some ([], afterText) ∧
    afterText.readMessage protobuf call.responseType (protobuf.empty call.responseType) =
      (true, call.response, afterMessage)

/-- The caller learns of a failure, or the response is a response. -/
def Reports (protobuf : Protobuf Msg) (s : State Msg) (call : Call Msg) : Prop :=
  call.controller.isFailed = true ∨ ∃ packet, Decoded protobuf s call packet

/-- Reading a packet fails, or finds an empty error text and a message. -/
theorem readResponse_cases (call : Call Msg) (packet : Packet) :
    (State.readResponse protobuf call packet).controller.isFailed = true ∨
    (State.readResponse protobuf call packet).decoded = true ∧
      ∃ afterText afterMessage, packet.readString = some ([], afterText) ∧
        afterText.readMessage protobuf call.responseType call.response =
          (true, (State.readResponse protobuf call packet).response, afterMessage) := by
  simp only [State.readResponse]
  split
  next => exact .inl rfl
  next errText afterText readText =>
    split
    next => exact .inl rfl
    next response afterMessage readMessage =>
      by_cases none : errText = []
      · subst none
        exact .inr ⟨rfl, afterText, afterMessage, readText, readMessage⟩
      · refine .inl ?_
        simp [none, RpcController.setFailed]

theorem Decoded.kept {label : Label Msg} {call : Call Msg} {packet : PacketPtr}
    (decoded : Decoded protobuf s call packet) (effect : Effect protobuf s label s') :
    Decoded protobuf s' call packet := by
  obtain ⟨known, isDecoded, isRsp, after, before, carried⟩ := decoded
  have same : (s'.received packet).arrived = (s.received packet).arrived ∧
      (s'.received packet).arrivedAt = (s.received packet).arrivedAt := by
    rcases effect.received_cases with ⟨_, kept⟩ | ⟨_, _, _, _, same, _⟩
    · exact ⟨(kept packet).arrived, (kept packet).arrivedAt⟩
    · rw [same packet (Nat.ne_of_lt known)]
      exact ⟨rfl, rfl⟩
  refine ⟨Nat.lt_of_lt_of_le known effect.receivedCount_le, isDecoded, ?_, ?_, ?_, ?_⟩
  · rwa [same.1]
  · rwa [same.2]
  · rwa [same.2]
  · rwa [same.1]

/-- What a call that has returned tells its caller, and what a refused one does. -/
structure Outcome (protobuf : Protobuf Msg) (s : State Msg) (call : Call Msg) : Prop where
  refused : call.caller = .main → call.sent = false ∧ call.returnedAt = some call.startedAt
  reports : call.caller ≠ .main → call.returnedAt.isSome = true → Reports protobuf s call

theorem Outcome.kept {label : Label Msg} {call : Call Msg} (outcome : Outcome protobuf s call)
    (effect : Effect protobuf s label s') : Outcome protobuf s' call where
  refused := outcome.refused
  reports other returned := (outcome.reports other returned).imp_right
    fun ⟨packet, decoded⟩ => ⟨packet, decoded.kept effect⟩

/-- A call that reads its packet reports. -/
theorem Correlated.reports_of_read (correlated : Correlated protobuf s)
    (userRuns : s.core.UserRuns) {number : CallId} {coro : CoroPtr} {packet : PacketPtr}
    {reading : Reading Msg} (top : s.top s.core.coSelf = some (.callWait number coro))
    (stored : (s.core.coro coro).ptrParam1 = some packet)
    (live : (s.received packet).recycled = false)
    (readingIs : reading = State.readResponse protobuf
      { s.call number with returnedAt := some s.time } (s.received packet).packet) :
    Reports protobuf s
      { s.call number with
        returnedAt := some s.time
        controller := reading.controller
        response := reading.response
        decoded := if reading.decoded then some packet else none } := by
  subst readingIs
  obtain ⟨known, unread, precedes⟩ := correlated.of_read userRuns top stored live
  refine (readResponse_cases _ (s.received packet).packet).imp_right fun found => ?_
  obtain ⟨decoded, afterText, afterMessage, readText, readMessage⟩ := found
  obtain ⟨dstCoroId, read⟩ := unread.read
  refine ⟨packet, ⟨known, ?_, unread.isRsp, precedes, ?_, ?_⟩⟩
  · rw [decoded]
    rfl
  · rintro time ⟨⟩
    exact correlated.packetTimes packet known
  · have cleared := (correlated.waiting _ _ _ top).2.cleared
    refine ⟨dstCoroId, _, afterText, afterMessage, read, readText, ?_⟩
    rw [← readMessage, cleared]

/-- `CallMethod` refuses the main coroutine and no other. -/
theorem refused_iff (named : s.core.registry.Named) {coro : CoroPtr}
    (found : s.core.getCurCoro = .ok (some coro)) :
    (s.core.coro coro).isMainCoro = true ↔ s.core.coSelf = .main := by
  rcases CoroMgr.getCurCoro_cases named found with ⟨self, isMain⟩ | self
  · simp [CoroMgr.Coro.isMainCoro, isMain, self]
  · obtain ⟨rest, stack⟩ := named.callStack_cons
    have onStack : .co coro ∈ s.core.callStack := by simp [stack, self]
    have isCo : (s.core.coro coro).innerCoro = .co coro := (named.onStack coro onStack).1
    simp [CoroMgr.Coro.isMainCoro, isCo, self]

theorem outcome_step {label : Label Msg} (correlated : Correlated protobuf s)
    (named : s.core.registry.Named) (effect : Effect protobuf s label s')
    (outcomes : ∀ number, number < s.callCount → Outcome protobuf s (s.call number))
    (number : CallId) (made : number < s'.callCount) :
    Outcome protobuf s' (s'.call number) := by
  have old : number < s.callCount → s'.call number = s.call number →
      Outcome protobuf s' (s'.call number) := fun known same =>
    same ▸ (outcomes number known).kept effect
  have new : ∀ call, s'.call = Function.update s.call s.callCount call →
      number < s.callCount + 1 → Outcome protobuf s' call →
      Outcome protobuf s' (s'.call number) := by
    intro call written made outcome
    by_cases isNew : number = s.callCount
    · rwa [written, isNew, Function.update_self]
    · exact old (Nat.lt_of_le_of_ne (Nat.le_of_lt_succ made) isNew)
        (by rw [written, Function.update_of_ne isNew])
  have back : ∀ waiting call, s'.call = Function.update s.call waiting call →
      number < s.callCount → Outcome protobuf s' call → Outcome protobuf s' (s'.call number) := by
    intro waiting call written known outcome
    by_cases same : number = waiting
    · rwa [written, same, Function.update_self]
    · exact old known (by rw [written, Function.update_of_ne same])
  cases effect with
  | rejected _ _ found isMain =>
      have self := (refused_iff named found).mp isMain
      exact new _ rfl made ⟨fun _ => ⟨rfl, rfl⟩, fun other => absurd self other⟩
  | called _ _ found notMain =>
      refine new _ rfl made ⟨fun self => ?_, fun _ returned => by cases returned⟩
      rw [(refused_iff named found).mpr self] at notMain
      cases notMain
  | flagged _ frames =>
      have top := State.top_cons.mpr ⟨_, frames⟩
      have caller := (correlated.waiting _ _ _ top).2.caller
      refine back _ _ rfl made ⟨fun self => ?_, fun _ _ => .inl rfl⟩
      cases caller.symm.trans self
  | read userRuns frames stored live readingIs =>
      have top := State.top_cons.mpr ⟨_, frames⟩
      have caller := (correlated.waiting _ _ _ top).2.caller
      have reports := correlated.reports_of_read userRuns top stored live readingIs
      refine back _ _ rfl made ⟨fun self => ?_, fun _ _ => ?_⟩
      · cases caller.symm.trans self
      · exact reports.imp_right fun ⟨packet, decoded⟩ =>
          ⟨packet, decoded.kept (.read userRuns frames stored live readingIs)⟩
  | work | op | dropped | dispatched | inline | spawned | addService | wrote | handled | finished
  | back => exact old made rfl

theorem outcome_of_run {env : Bool}
    (run : (machine protobuf).Run (Disciplined protobuf) (State.init protobuf env) s) :
    ∀ number, number < s.callCount → Outcome protobuf s (s.call number) := by
  induction run with
  | start => exact fun _ old => absurd old (Nat.not_lt_zero _)
  | step prior _ taken ih =>
      exact outcome_step (correlated_of_run prior)
        (CoroMgr.settled_of_run (core_run prior)).2 (step_effect taken) ih

/-! ## New controllers -/

theorem begun_of_callMethod {sessionId : Int} {method : MethodDescriptor}
    {controller : RpcController} {request : Msg}
    (taken : (machine protobuf).step s
      (.user (.callMethod sessionId method controller request)) = .ok s') :
    s.callCount < s'.callCount ∧ (s'.call s.callCount).controller = controller := by
  cases step_effect taken with
  | rejected | called =>
      refine ⟨Nat.lt_succ_self _, ?_⟩
      simp [State.tick, State.goto, State.pushPacket, State.newCall, State.beginCall]
  | wrote _ _ _ write => rcases write with ⟨_, other⟩ | ⟨_, other⟩ <;> cases other

/-- A call that has been refused keeps its controller, however the run goes on. -/
theorem controller_of_refused {env : Bool}
    (run : (machine protobuf).Run (Disciplined protobuf) (State.init protobuf env) s)
    {number : CallId} (made : number < s.callCount)
    (onward : (machine protobuf).Run (Disciplined protobuf) s s') :
    number < s'.callCount ∧ ((s'.call number).sent = false →
      (s'.call number).controller = (s.call number).controller) := by
  induction onward with
  | start => exact ⟨made, fun _ => rfl⟩
  | step prior _ taken ih =>
      obtain ⟨old, kept⟩ := ih
      have effect := step_effect taken
      refine ⟨Nat.lt_of_lt_of_le old effect.callCount_le, fun refused => ?_⟩
      rcases effect.call_cases old with same | ⟨facts, _, coro, top⟩
      · rw [same] at refused ⊢
        exact kept refused
      · have sent := ((correlated_of_run (run.trans prior)).waiting _ _ _ top).2.sent
        rw [facts.sent, sent] at refused
        cases refused

/-- In every disciplined run, a call that was made with a new controller and has returned has
failed or has a response that arrived during the call, if and only if its caller was not the
main coroutine. -/
theorem no_silent_failure {env : Bool} {called after : State Msg} {sessionId : Int}
    {method : MethodDescriptor} {request : Msg}
    (run : (machine protobuf).Run (Disciplined protobuf) (State.init protobuf env) s)
    (allowed : Disciplined protobuf s (.user (.callMethod sessionId method .new request)))
    (began : (machine protobuf).step s (.user (.callMethod sessionId method .new request)) =
      .ok called)
    (onward : (machine protobuf).Run (Disciplined protobuf) called after) {time : Nat}
    (returned : (after.call s.callCount).returnedAt = some time) :
    Reports protobuf after (after.call s.callCount) ↔
      (after.call s.callCount).caller ≠ .main := by
  have upToCall := run.step allowed began
  obtain ⟨begun, controller⟩ := begun_of_callMethod began
  obtain ⟨made, kept⟩ := controller_of_refused upToCall begun onward
  have outcome := outcome_of_run (upToCall.trans onward) _ made
  constructor
  · intro reports self
    obtain ⟨refused, atOnce⟩ := outcome.refused self
    rcases reports with failed | ⟨packet, decoded⟩
    · rw [kept refused, controller] at failed
      cases failed
    · have before := decoded.before _ atOnce
      have after := decoded.after
      omega
  · intro other
    exact outcome.reports other (by simp [returned])

/-- A coroutine makes a call with a controller that has failed before, and then one with a new
controller. Both are answered with a response, and the second one reports it. -/
theorem echo_call_reports :
    let hello : EchoMessage := ⟨EchoMessage.request, some (text "hello")⟩
    let fine : EchoMessage := ⟨EchoMessage.response, some (text "fine")⟩
    let s := (machine echoProtobuf).play (State.init echoProtobuf false) (.flatten [beforeCall,
      [.user (.callMethod 9 echoMethod ⟨true, text "busy"⟩ hello)], answered [] .new fine,
      [.proceed]])
    let called := (machine echoProtobuf).play s [.user (.callMethod 9 echoMethod .new hello)]
    let after := (machine echoProtobuf).play called
      (.flatten [answered [.proceed] .new fine, [.proceed]])
    (after.call s.callCount).controller.isFailed = false ∧
      Reports echoProtobuf after (after.call s.callCount) := by
  intro hello fine s called after
  have run : (machine echoProtobuf).Run (Disciplined echoProtobuf)
      (State.init echoProtobuf false) s := .of_play (by decide +kernel)
  have began : (machine echoProtobuf).step s (.user (.callMethod 9 echoMethod .new hello)) =
      .ok called := Machine.step_of_play (by decide +kernel)
  have onward : (machine echoProtobuf).Run (Disciplined echoProtobuf) called after :=
    .of_play (by decide +kernel)
  have reports := no_silent_failure run (by decide +kernel) began onward
    (Option.some_get (by decide +kernel)).symm
  exact ⟨by decide +kernel, reports.mpr (by decide +kernel)⟩

/-- `Start` has registered the main coroutine, which then makes a call: it returns without
a failure, although no packet has ever arrived. -/
theorem main_call_silent :
    ((machine echoProtobuf).replay
      (fun s label => decide (Disciplined echoProtobuf s label)) (State.init echoProtobuf true)
      [.user (.op .start), .user (.callMethod 9 echoMethod .new
        ⟨EchoMessage.request, some (text "hello")⟩)]).map
      (fun s => ((s.call 0).caller, (s.call 0).returnedAt, (s.call 0).controller.isFailed,
        s.receivedCount)) =
    some (.main, some 1, false, 0) := by
  decide +kernel

end LibcoRpc.Rpc