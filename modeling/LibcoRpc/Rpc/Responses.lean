import LibcoRpc.Rpc.Outcomes

/-!
# What `HandleRpcRsp` reaches

The handler of responses looks at the coroutine id at the head of the packet and at nothing
else: neither at the session the packet came on nor at what the coroutine is doing. So it
writes to the coroutine that is registered under the id and to no other, and resumes it
whenever it is suspended, for whatever reason.
-/

namespace LibcoRpc.Rpc

open LibcoRpc.Std
open LibcoRpc.CoroMgr (Co CoroPtr Choice Op Approach Beside)

variable {Msg : Type} {protobuf : Protobuf Msg} {s s' : State Msg}

/-- The coroutine that the id at the head of a packet names. -/
def State.addressee (s : State Msg) (packet : Packet) : Option CoroPtr :=
  packet.readInt32.bind fun (dstCoroId, _) => s.core.getCoro dstCoroId

/-- The handler that began at `start` works on, and has switched to no coroutine. -/
def Handling (start s : State Msg) (label : Label Msg) : Prop :=
  s.core.callStack = start.core.callStack ∧ ∃ choice, label = .work choice

instance (start s : State Msg) : (label : Label Msg) → Decidable (Handling start s label)
  | .work choice => decidable_of_iff (s.core.callStack = start.core.callStack)
      ⟨fun same => ⟨same, choice, rfl⟩, And.left⟩
  | .user _ | .proceed => isFalse fun ⟨_, _, other⟩ => by cases other

/-- What the handler of a packet at the address has done to the coroutine it resumes, and to
all others. -/
structure Reached (before after : CoroMgr.State) (coro : CoroPtr) (packet : PacketPtr) :
    Prop where
  others : ∀ other, other ≠ coro → after.coro other = before.coro other
  calls : ∀ co, co ≠ before.coSelf → after.frames co = before.frames co
  stack : after.callStack = before.callStack ∨
    (before.coro coro).yielded = true ∧
      after.callStack = (before.coro coro).innerCoro :: before.callStack
  refused : (before.coro coro).yielded = false →
    after.coro coro = { before.coro coro with ptrParam1 := some packet }

/-- A step of the handler is one of the coroutine manager. -/
theorem Handling.core_step {start : State Msg} {label : Label Msg}
    (handling : Handling start s label) (taken : (machine protobuf).step s label = .ok s') :
    ∃ choice, CoroMgr.machine.step s.core (.work choice) = .ok s'.core := by
  obtain ⟨choice, rfl⟩ := handling.2
  obtain ⟨core, stepped, rfl⟩ := coreStep_cases taken
  exact ⟨choice, stepped⟩

/-- The `Resume` of a dispatch, as far as the handler itself takes it. -/
theorem approach_of_handling {start asked : State Msg} {coro : CoroPtr}
    (run : (machine protobuf).Run (Handling start) asked s)
    (stack : asked.core.callStack = start.core.callStack)
    (at_ : asked.core.frames start.core.coSelf = [.resume coro .nil .explicit]) :
    Approach asked.core start.core.coSelf coro s.core ∧ Beside asked.core coro s.core ∧
      ∀ co, co ≠ start.core.coSelf → s.core.frames co = asked.core.frames co := by
  have self : ∀ {t : State Msg}, t.core.callStack = start.core.callStack →
      t.core.coSelf = start.core.coSelf := CoroMgr.coSelf_of_stack
  induction run with
  | start => exact ⟨.asked rfl, ⟨rfl, fun _ _ => rfl⟩, fun _ _ => rfl⟩
  | step _ handling taken ih =>
      obtain ⟨approach, beside, calls⟩ := ih
      obtain ⟨choice, stepped⟩ := handling.core_step taken
      have own := handling.1.trans stack.symm
      obtain ⟨approach, beside⟩ := approach.step (self stack) at_ beside own stepped
      refine ⟨approach, beside, fun co different => ?_⟩
      rw [← calls co different]
      exact CoroMgr.step_frames stepped (by rwa [self handling.1])

/-- A handler that has returned does nothing. -/
theorem core_of_returned {start returned : State Msg}
    (run : (machine protobuf).Run (Handling start) returned s)
    (userRuns : returned.core.UserRuns) : s.core = returned.core := by
  induction run with
  | start => rfl
  | step _ handling taken ih =>
      obtain ⟨choice, stepped⟩ := handling.core_step taken
      have none : returned.core.frames returned.core.coSelf = [] := userRuns
      rw [ih] at stepped
      simp [CoroMgr.machine, CoroMgr.State.step, none] at stepped

theorem Dropped.addressee {packet after : Packet} (dropped : Dropped protobuf s packet after)
    (isRsp : packet.opcode = rpcRsp) : s.addressee packet = none := by
  cases dropped with
  | unhandled _ notRsp => exact absurd isRsp notRsp
  | noId _ unread => simp [State.addressee, unread]
  | noCoro _ read unknown => simp [State.addressee, read, unknown]
  | noHeader isReq => exact absurd (isReq.symm.trans isRsp) (by decide)
  | noBody isReq => exact absurd (isReq.symm.trans isRsp) (by decide)

/-- The handler of a dispatch reaches its coroutine. -/
theorem reached_of_approach {core core' : CoroMgr.State} {coro : CoroPtr} {packet : PacketPtr}
    (approach : Approach ((core.setPtrParam1 coro (some packet)).goto core.coSelf
      [.resume coro .nil .explicit]) core.coSelf coro core')
    (beside : Beside ((core.setPtrParam1 coro (some packet)).goto core.coSelf
      [.resume coro .nil .explicit]) coro core')
    (calls : ∀ co, co ≠ core.coSelf → core'.frames co = core.frames co) :
    Reached core core' coro packet where
  others other different := by
    rw [beside.others other different]
    simp [CoroMgr.State.goto, CoroMgr.State.setPtrParam1, CoroMgr.State.setCoro, different]
  calls := calls
  stack := by
    have object : ((core.setPtrParam1 coro (some packet)).goto core.coSelf
        [.resume coro .nil .explicit]).coro coro =
          { core.coro coro with ptrParam1 := some packet } := Function.update_self ..
    cases approach with
    | asked same => exact .inl (same ▸ rfl)
    | refused _ stack | cancelling _ stack | switching _ stack => exact .inl stack
    | switched yielded stack =>
        rw [object] at yielded stack
        exact .inr ⟨yielded, stack⟩
  refused notYielded := by
    have object : ((core.setPtrParam1 coro (some packet)).goto core.coSelf
        [.resume coro .nil .explicit]).coro coro =
          { core.coro coro with ptrParam1 := some packet } := Function.update_self ..
    cases approach with
    | asked same => rw [same, object]
    | refused _ _ objects => rw [objects, object]
    | cancelling yielded | switching yielded | switched yielded =>
        rw [object] at yielded
        exact absurd (notYielded.symm.trans yielded) (by decide)

/-- What the handler does after `Resume` has returned. -/
theorem rspRet_objects {label : Label Msg} {packet : PacketPtr} {coro : CoroPtr}
    (top : s.top s.core.coSelf = some (.rspRet packet coro))
    (back : s.core.frames s.core.coSelf = [.resumeRet coro] ∨ s.core.UserRuns)
    (taken : (machine protobuf).step s label = .ok s') :
    s'.core.coro = s.core.coro ∧ s'.core.callStack = s.core.callStack := by
  obtain ⟨rest, frames⟩ := State.top_cons.mp top
  have waits : s.userCode = false := by simp [State.userCode, frames]
  cases label with
  | work choice =>
      obtain ⟨core, stepped, rfl⟩ := coreStep_cases taken
      rcases back with at_ | none
      · obtain ⟨choice, ran⟩ := CoroMgr.step_work at_ stepped
        cases ran
        exact ⟨rfl, rfl⟩
      · have none : s.core.frames s.core.coSelf = [] := none
        simp [CoroMgr.machine, CoroMgr.State.step, none] at stepped
  | proceed =>
      cases step_effect taken with
      | flagged | read | back => exact ⟨rfl, rfl⟩
  | user action => simp [machine, State.step, waits] at taken

/-- Whatever response arrives, on whatever session: if its id cannot be read or is
registered for no coroutine, every coroutine stays as it is and none runs. Otherwise the
handler itself writes only to the coroutine that is registered under the id, resumes no
other, and resumes that one only if it is suspended; if it is not, only its `ptrParam1`
changes. When `Resume` has returned, the handler touches no coroutine any more. -/
theorem response_reaches_its_coroutine {packet : Packet} {answers : Option CallId}
    {taken : State Msg} (isRsp : packet.opcode = rpcRsp)
    (delivered : (machine protobuf).step s (.user (.deliver packet answers)) = .ok taken)
    (handling : (machine protobuf).Run (Handling s) taken s') :
    (s.addressee packet = none → s'.core = s.core) ∧
      ∀ coro, s.addressee packet = some coro →
        Reached s.core s'.core coro s.receivedCount ∧
        ∀ before label after,
          before.top before.core.coSelf = some (.rspRet s.receivedCount coro) →
          before.core.frames before.core.coSelf = [.resumeRet coro] ∨ before.core.UserRuns →
          (machine protobuf).step before label = .ok after →
          after.core.coro = before.core.coro ∧
            after.core.callStack = before.core.callStack := by
  cases step_effect delivered with
  | dropped userRuns _ dropped =>
      have same := core_of_returned handling userRuns
      refine ⟨fun _ => same, fun coro known => ?_⟩
      rw [dropped.addressee isRsp] at known
      cases known
  | @dispatched _ _ _ dstCoroId target _ _ _ read found =>
      have addressee : s.addressee packet = some target := by simp [State.addressee, read, found]
      refine ⟨fun unknown => ?_, fun coro known => ?_⟩
      · rw [addressee] at unknown
        cases unknown
      · obtain rfl : target = coro := Option.some.inj (addressee.symm.trans known)
        obtain ⟨approach, beside, calls⟩ :=
          approach_of_handling handling rfl (Function.update_self ..)
        refine ⟨reached_of_approach approach beside fun co different => ?_, ?_⟩
        · rw [calls co different]
          exact Function.update_of_ne different _ _
        · exact fun _ _ _ top back => rspRet_objects top back
  | inline _ _ accepts => exact absurd (accepts.isReq.symm.trans isRsp) (by decide)
  | spawned _ _ accepts => exact absurd (accepts.isReq.symm.trans isRsp) (by decide)
  | wrote _ _ _ write => rcases write with ⟨_, other⟩ | ⟨_, other⟩ <;> cases other

/-- A coroutine calls `Echo` on session 9 and waits. -/
def waitsOnNine : List (Label EchoMessage) :=
  let work : Label EchoMessage := .work ⟨0, 0⟩
  [.user (.op (.createCoro 0 0)), .user (.op (.coroResume 0 .nil)), work, work, work,
    .user (.callMethod 9 echoMethod .new ⟨EchoMessage.request, some (text "hello")⟩),
    work, work, work, work]

/-- A response from session 7 to the coroutine with id 1. -/
def strayResponse : Packet :=
  replyPacket echoProtobuf 7 1 .new ⟨EchoMessage.response, some (text "forged")⟩

/-- Of two coroutines that wait, the handler of a stray response resumes the one that it names. -/
theorem stray_response_reaches :
    let s := (machine echoProtobuf).play (State.init echoProtobuf false) twoWaiting
    let taken := (machine echoProtobuf).play s [.user (.deliver strayResponse none)]
    let s' := (machine echoProtobuf).play taken (works 5 0)
    Reached s.core s'.core 0 s.receivedCount ∧ s'.core.callStack = [.co 0, .main] := by
  intro s taken s'
  have delivered : (machine echoProtobuf).step s (.user (.deliver strayResponse none)) =
      .ok taken := Machine.step_of_play (by decide +kernel)
  have handling : (machine echoProtobuf).Run (Handling s) taken s' :=
    .of_play (by decide +kernel)
  exact ⟨((response_reaches_its_coroutine rfl delivered handling).2 0 (by decide +kernel)).1,
    by decide +kernel⟩

/-- A coroutine that waits for the answer to a request it sent on session 9 is resumed by a
packet from session 7. -/
theorem stray_response_resumes :
    ((machine echoProtobuf).replay (fun _ _ => true) (State.init echoProtobuf false)
      (waitsOnNine ++ .user (.deliver strayResponse none) ::
        List.replicate 5 (.work ⟨0, 0⟩))).map
      (fun s => decide ((s.call 0).sent = true ∧ (s.call 0).returnedAt = none ∧
        (s.call 0).sessionId = 9 ∧ (s.received 0).arrived.sessionId = 7 ∧
        s.core.callStack = [.co 0, .main] ∧ (s.core.coro 0).ptrParam1 = some 0)) =
    some true := by
  decide +kernel

end LibcoRpc.Rpc
