import LibcoRpc.CoroMgr.Handover
import LibcoRpc.Rpc.Effect

/-!
# Calls and the packets they read

`HandleRpcRsp` leaves the address of its packet in the coroutine and resumes it; the
service recycles the packet when the handler returns. So an address is good while the
`rspRet` frame of its dispatch is there, and a call that reads a packet that is still good
was already waiting when the packet arrived (`Correlated`). What a call returns is then a
failure, or was read from a packet that arrived during the call.
-/

namespace LibcoRpc.Rpc

open LibcoRpc.Std
open LibcoRpc.CoroMgr (Co CoroPtr Choice Op Entering Inside Returned Leaving)

variable {Msg : Type} {protobuf : Protobuf Msg} {s s' : State Msg}

/-! ## The innermost frames -/

/-- The frame of a function that waits for the coroutine manager. -/
def RpcFrame.waits : RpcFrame → Bool
  | .callWait _ _ => true
  | .rspRet _ _ => true
  | .reqRet _ => true
  | _ => false

/-- The innermost function of the RPC layer in a coroutine. -/
def State.top (s : State Msg) (co : Co) : Option RpcFrame := (s.frames co).head?

theorem State.top_cons {co : Co} {frame : RpcFrame} :
    s.top co = some frame ↔ ∃ rest, s.frames co = frame :: rest := List.head?_eq_some_iff

/-- Functions that wait are only interrupted by the coroutine manager. -/
def Ordered (s : State Msg) : Prop :=
  ∀ co, ∀ frame ∈ (s.frames co).tail, frame.waits = false

/-- User code does not run above a function that waits. -/
theorem userCode_top {frame : RpcFrame} (userCode : s.userCode = true)
    (top : s.top s.core.coSelf = some frame) : frame.waits = false := by
  obtain ⟨rest, frames⟩ := State.top_cons.mp top
  simp only [State.userCode, frames] at userCode
  cases frame with
  | handler | entry => rfl
  | callWait | rspRet | reqRet => cases userCode

theorem Ordered.not_waits (ordered : Ordered s) {co : Co} {outer frame : RpcFrame}
    {below : List RpcFrame} (frames : s.frames co = outer :: below)
    (member : frame ∈ below) : frame.waits = false :=
  ordered co frame (by simpa [frames] using member)

/-- A function begins to wait. -/
inductive Begins (protobuf : Protobuf Msg) (s s' : State Msg) : RpcFrame → Prop where
  | callWait {sessionId : Int} {method : MethodDescriptor} {controller : RpcController}
      {coro : CoroPtr} (found : s.core.getCurCoro = .ok (some coro))
      (notMain : (s.core.coro coro).isMainCoro = false)
      (taken : CoroMgr.machine.step s.core (.user (.coroYield coro 0)) = .ok s'.core)
      (count : s'.callCount = s.callCount + 1)
      (call : s'.call s.callCount =
        s.beginCall protobuf s.core.coSelf coro sessionId method controller) :
      Begins protobuf s s' (.callWait s.callCount coro)
  | rspRet {coro : CoroPtr} {dstCoroId : Int}
      (found : s.core.getCoro dstCoroId = some coro)
      (entering : Entering s'.core s.core.coSelf coro)
      (isRsp : (s'.received s.receivedCount).arrived.opcode = rpcRsp)
      (read : (s'.received s.receivedCount).arrived.readInt32 =
        some (dstCoroId, (s'.received s.receivedCount).packet))
      (arrivedAt : (s'.received s.receivedCount).arrivedAt = s.time)
      (count : s'.receivedCount = s.receivedCount + 1)
      (calls : s'.callCount = s.callCount ∧ s'.call = s.call) :
      Begins protobuf s s' (.rspRet s.receivedCount coro)
  | reqRet : Begins protobuf s s' (.reqRet s.receivedCount)

section

variable {label : Label Msg} {co : Co} {frame : RpcFrame}

/-- A function that waits after a step has waited before, or begins to. -/
theorem Effect.top_cases (effect : Effect protobuf s label s') (ordered : Ordered s)
    (waits : frame.waits = true) (top : s'.top co = some frame) :
    s.top co = some frame ∨
      co = s.core.coSelf ∧ s.core.UserRuns ∧ s.userCode = true ∧ Begins protobuf s s' frame := by
  have popped : ∀ {outer : RpcFrame} {below : List RpcFrame},
      s.frames s.core.coSelf = outer :: below →
      s'.frames co = Function.update s.frames s.core.coSelf below co → s.top co = some frame := by
    intro outer below frames written
    rw [State.top, written] at top
    by_cases self : co = s.core.coSelf
    · subst self
      rw [Function.update_self] at top
      exact absurd (ordered.not_waits frames (List.mem_of_head? top)) (by simp [waits])
    · rwa [Function.update_of_ne self] at top
  have pushed : ∀ {outer : RpcFrame} {below : List RpcFrame},
      s'.frames co = Function.update s.frames s.core.coSelf (outer :: below) co →
      s.top co = some frame ∨ co = s.core.coSelf ∧ frame = outer := by
    intro outer below written
    rw [State.top, written] at top
    by_cases self : co = s.core.coSelf
    · subst self
      rw [Function.update_self] at top
      exact .inr ⟨rfl, (Option.some.inj top).symm⟩
    · exact .inl (by rwa [Function.update_of_ne self] at top)
  cases effect with
  | work | op | rejected | dropped | addService | wrote => exact .inl top
  | flagged _ frames | read _ frames | handled _ frames | finished _ frames | back _ frames =>
      exact .inl (popped frames rfl)
  | called userRuns userCode found notMain taken =>
      refine (pushed rfl).imp_right fun new => ⟨new.1, userRuns, userCode, ?_⟩
      rw [new.2]
      exact .callWait found notMain taken rfl (Function.update_self ..)
  | dispatched userRuns userCode isRsp read found =>
      refine (pushed rfl).imp_right fun new => ⟨new.1, userRuns, userCode, ?_⟩
      rw [new.2]
      have received : ∀ value : Received Msg,
          Function.update s.received s.receivedCount value s.receivedCount = value :=
        fun value => Function.update_self ..
      refine .rspRet found (.asked rfl (Function.update_self ..)) ?_ ?_ ?_ rfl ⟨rfl, rfl⟩
      all_goals simp only [State.tick, State.goto, State.receive, received]
      · exact isRsp
      · exact read
  | inline =>
      rcases pushed rfl with old | ⟨_, rfl⟩
      · exact .inl old
      · cases waits
  | spawned userRuns userCode =>
      by_cases self : co = s.core.coSelf
      · subst self
        simp only [State.top, State.tick, State.goto, Function.update_self] at top
        cases top
        exact .inr ⟨rfl, userRuns, userCode, .reqRet⟩
      · simp only [State.top, State.tick, State.goto, Function.update_of_ne self] at top
        by_cases new : co = .co s.core.coroCount
        · subst new
          rw [Function.update_self] at top
          cases top
          cases waits
        · exact .inl (by rwa [Function.update_of_ne new] at top)

/-- A function that waits goes on only when its coroutine runs and proceeds. -/
theorem Effect.top_kept (effect : Effect protobuf s label s') (grounded : Grounded s)
    (waits : frame.waits = true) (top : s.top co = some frame) :
    s'.top co = some frame ∨ co = s.core.coSelf ∧ s.core.UserRuns ∧ label = .proceed := by
  have other : s.userCode = true → co ≠ s.core.coSelf := by
    rintro userCode rfl
    exact absurd (userCode_top userCode top) (by simp [waits])
  have elsewhere : ∀ {frames : List RpcFrame}, co ≠ s.core.coSelf →
      (Function.update s.frames s.core.coSelf frames co).head? = some frame :=
    fun different => by rwa [Function.update_of_ne different]
  cases effect with
  | work | op | rejected | dropped | addService | wrote => exact .inl top
  | called _ userCode | dispatched _ userCode | inline _ userCode =>
      exact .inl (elsewhere (other userCode))
  | spawned _ userCode =>
      have created : co ≠ .co s.core.coroCount := by
        rintro rfl
        obtain ⟨rest, frames⟩ := State.top_cons.mp top
        exact absurd (grounded.framed _ (by simp [frames])) (Nat.lt_irrefl _)
      refine .inl ?_
      simp only [State.top, State.tick, State.goto, Function.update_of_ne (other userCode),
        Function.update_of_ne created]
      exact top
  | handled _ frames | finished _ frames =>
      refine .inl (elsewhere ?_)
      rintro rfl
      rw [State.top, frames] at top
      cases top
      cases waits
  | flagged userRuns | read userRuns | back userRuns =>
      by_cases self : co = s.core.coSelf
      · exact .inr ⟨self, userRuns, rfl⟩
      · exact .inl (elsewhere self)

/-- A function that goes on waits no more. -/
theorem Effect.top_of_proceed (effect : Effect protobuf s .proceed s') (ordered : Ordered s)
    (top : s'.top s.core.coSelf = some frame) : frame.waits = false := by
  have popped : ∀ {outer : RpcFrame} {below : List RpcFrame},
      s.frames s.core.coSelf = outer :: below → s'.frames s.core.coSelf = below →
      frame.waits = false := by
    intro outer below frames written
    rw [State.top, written] at top
    exact ordered.not_waits frames (List.mem_of_head? top)
  cases effect with
  | flagged _ frames | read _ frames | back _ frames =>
      exact popped frames (Function.update_self ..)

theorem userCode_frames (ordered : Ordered s) (userCode : s.userCode = true) :
    ∀ frame ∈ s.frames s.core.coSelf, frame.waits = false := by
  intro frame member
  cases frames : s.frames s.core.coSelf with
  | nil => simp [frames] at member
  | cons top below =>
      rw [frames] at member
      rcases List.mem_cons.mp member with rfl | below
      · exact userCode_top userCode (State.top_cons.mpr ⟨_, frames⟩)
      · exact ordered s.core.coSelf frame (by rwa [frames])

theorem Ordered.step (ordered : Ordered s) (grounded : Grounded s)
    (effect : Effect protobuf s label s') : Ordered s' := by
  intro co frame member
  have popped : ∀ {top : RpcFrame} {below : List RpcFrame},
      s.frames s.core.coSelf = top :: below →
      s'.frames co = Function.update s.frames s.core.coSelf below co → frame.waits = false := by
    intro top below frames written
    by_cases self : co = s.core.coSelf
    · subst self
      rw [written, Function.update_self] at member
      exact ordered s.core.coSelf frame (by rw [frames]; exact List.mem_of_mem_tail member)
    · rw [written, Function.update_of_ne self] at member
      exact ordered co frame member
  have pushed : ∀ top : RpcFrame, s.userCode = true →
      s'.frames co = Function.update s.frames s.core.coSelf (top :: s.frames s.core.coSelf) co →
      frame.waits = false := by
    intro top userCode written
    by_cases self : co = s.core.coSelf
    · subst self
      rw [written, Function.update_self] at member
      exact userCode_frames ordered userCode frame member
    · rw [written, Function.update_of_ne self] at member
      exact ordered co frame member
  cases effect with
  | work | op | rejected | dropped | addService | wrote => exact ordered co frame member
  | flagged _ frames | read _ frames | handled _ frames | finished _ frames | back _ frames =>
      exact popped frames rfl
  | called _ userCode | dispatched _ userCode | inline _ userCode => exact pushed _ userCode rfl
  | spawned _ userCode =>
      have self_ne : s.core.coSelf ≠ .co s.core.coroCount := fun runs =>
        absurd (grounded.self_lt runs) (Nat.lt_irrefl _)
      by_cases new : co = .co s.core.coroCount
      · subst new
        simp [State.tick, State.goto, self_ne.symm] at member
      · refine pushed (.reqRet s.receivedCount) userCode ?_
        by_cases self : co = s.core.coSelf
        · subst self
          simp [State.tick, State.goto, self_ne]
        · simp [State.tick, State.goto, State.receive, self, new]

end

/-! ## A dispatch in progress -/

/-- `HandleRpcRsp` has read the id of the packet, and nobody has read more. -/
structure Unread (s : State Msg) (packet : PacketPtr) : Prop where
  isRsp : (s.received packet).arrived.opcode = rpcRsp
  read : ∃ dstCoroId, (s.received packet).arrived.readInt32 =
    some (dstCoroId, (s.received packet).packet)

/-- The call began before the packet arrived. -/
def Precedes (s : State Msg) (number : CallId) (packet : PacketPtr) : Prop :=
  (s.call number).startedAt < (s.received packet).arrivedAt

/-- Where the `HandleRpcRsp` of a coroutine is with a packet for another one, and what it
means for a call that the other one is in. -/
inductive Pending (s : State Msg) (co : Co) (packet : PacketPtr) (coro : CoroPtr) : Prop where
  | entering (entering : Entering s.core co coro) (unread : Unread s packet)
      (before : ∀ number, number < s.callCount → Precedes s number packet)
  | inside (inside : Inside s.core co coro)
      (calls : ∀ number, s.top (.co coro) = some (.callWait number coro) →
        Leaving s.core coro ∨ Unread s packet ∧ Precedes s number packet)
  | returned (returned : Returned s.core co coro)

section

variable {co : Co} {packet : PacketPtr} {coro : CoroPtr}

/-- The coroutine manager takes a step. -/
theorem Pending.worked (pending : Pending s co packet coro) (named : s.core.registry.Named)
    (top : s.top co = some (.rspRet packet coro)) {label : CoroMgr.Label}
    (taken : CoroMgr.machine.step s.core label = .ok s'.core)
    (user : s.core.UserRuns → s.userCode = true)
    (work : ¬ s.core.UserRuns → s'.callCount = s.callCount)
    (unread : Unread s packet → Unread s' packet)
    (precedes : ∀ number, number < s.callCount → Precedes s number packet →
      Precedes s' number packet)
    (tops : ∀ number, s'.top (.co coro) = some (.callWait number coro) →
      Leaving s'.core coro ∨
        number < s.callCount ∧ s.top (.co coro) = some (.callWait number coro)) :
    Pending s' co packet coro := by
  cases pending with
  | entering entering isUnread before =>
      rcases entering.step named taken with entering' | inside | returned
      · refine .entering entering' (unread isUnread) fun number old => ?_
        rw [work entering.busy] at old
        exact precedes number old (before number old)
      · refine .inside inside fun number waits => ?_
        exact (tops number waits).imp_right fun old =>
          ⟨unread isUnread, precedes number old.1 (before number old.1)⟩
      · exact .returned returned
  | inside inside calls =>
      rcases inside.step named taken with inside' | returned
      · refine .inside inside' fun number waits => ?_
        rcases tops number waits with leaving | ⟨old, waited⟩
        · exact .inl leaving
        · rcases calls number waited with leaving | ⟨isUnread, earlier⟩
          · rcases leaving.step taken with leaving | popped
            · exact .inl leaving
            · -- The coroutine would be on the call stack twice.
              obtain ⟨above, below, stack⟩ := inside'.stack
              have distinct : s.core.callStack.Nodup := named.nodup
              rw [popped, stack] at distinct
              exact absurd (by simp) (List.nodup_cons.mp distinct).1
          · exact .inr ⟨unread isUnread, precedes number old earlier⟩
      · exact .returned returned
  | returned returned =>
      obtain ⟨runs, at_⟩ := returned
      rcases at_ with at_ | at_
      · rw [← runs] at at_
        obtain ⟨choice, ran⟩ := CoroMgr.step_work at_ taken
        have isCore : s'.core = (s.core.returns CoroMgr.llbcOk).goto s.core.coSelf [] :=
          (Except.ok.inj ran).symm
        refine .returned ⟨?_, .inr ?_⟩
        · rw [isCore]
          exact runs
        · simp [isCore, runs, CoroMgr.State.goto]
      · have userRuns : s.core.UserRuns := by rwa [← runs] at at_
        have waits := userCode_top (user userRuns) (runs ▸ top)
        cases waits

/-- User code or the RPC layer takes a step that switches no coroutine. -/
theorem Pending.stayed (pending : Pending s co packet coro) (userRuns : s.core.UserRuns)
    (stack : s'.core.callStack = s.core.callStack) (at_ : s'.core.frames co = s.core.frames co)
    (precedes : ∀ number, number < s.callCount → Precedes s number packet →
      Precedes s' number packet)
    (tops : ∀ number, s'.top (.co coro) = some (.callWait number coro) →
      Leaving s'.core coro ∨ number < s.callCount ∧
        s.top (.co coro) = some (.callWait number coro) ∧ (Unread s packet → Unread s' packet)) :
    Pending s' co packet coro := by
  cases pending with
  | entering entering => exact absurd userRuns entering.busy
  | inside inside calls =>
      refine .inside ⟨at_.trans inside.at_, stack ▸ inside.stack⟩ fun number waits => ?_
      refine (tops number waits).imp_right fun ⟨old, waited, unread⟩ => ?_
      rcases calls number waited with leaving | ⟨isUnread, earlier⟩
      · exact absurd userRuns leaving.busy
      · exact ⟨unread isUnread, precedes number old earlier⟩
  | returned returned =>
      refine .returned ⟨(CoroMgr.coSelf_of_stack stack).trans returned.runs, ?_⟩
      rw [at_]
      exact returned.at_

end

/-! ## What a step does to calls, packets and parameters -/

section

variable {label : Label Msg} {number : CallId} {packet : PacketPtr} {coro : CoroPtr}

theorem Effect.time_cases (effect : Effect protobuf s label s') :
    (∃ choice, label = .work choice) ∧ s'.time = s.time ∨ s'.time = s.time + 1 := by
  cases effect with
  | work => exact .inl ⟨⟨_, rfl⟩, rfl⟩
  | _ => exact .inr rfl

/-- The controller that user code makes a call with. -/
def Label.controller : Label Msg → Option RpcController
  | .user (.callMethod _ _ controller _) => some controller
  | _ => none

/-- A call that a step begins. -/
structure Call.Begun (s : State Msg) (label : Label Msg) (call : Call Msg) : Prop where
  controller : label.controller = some call.controller
  found : s.core.getCurCoro = .ok (some call.coro)
  caller : call.caller = s.core.coSelf
  srcCoroId : call.srcCoroId = (s.core.coro call.coro).coroId
  sent : call.sent = !(s.core.coro call.coro).isMainCoro
  startedAt : call.startedAt = s.time
  decoded : call.decoded = none

/-- A step makes a call, or none. -/
theorem Effect.callCount_cases (effect : Effect protobuf s label s') :
    s'.callCount = s.callCount ∨
      s'.callCount = s.callCount + 1 ∧ s.core.UserRuns ∧ s.userCode = true ∧
        s'.time = s.time + 1 ∧ (s'.call s.callCount).Begun s label := by
  cases effect with
  | rejected userRuns userCode found isMain =>
      refine .inr ⟨rfl, userRuns, userCode, rfl, ?_⟩
      simp only [State.tick, State.newCall, Function.update_self]
      exact ⟨rfl, found, rfl, rfl, by simp [State.beginCall, isMain], rfl, rfl⟩
  | called userRuns userCode found notMain =>
      refine .inr ⟨rfl, userRuns, userCode, rfl, ?_⟩
      simp only [State.tick, State.goto, State.pushPacket, State.newCall, Function.update_self]
      exact ⟨rfl, found, rfl, rfl, by simp [State.beginCall, notMain], rfl, rfl⟩
  | _ => exact .inl rfl

/-- A call has been made before the step, or the step makes it. -/
theorem Effect.made_cases (effect : Effect protobuf s label s') (made : number < s'.callCount) :
    number < s.callCount ∨
      number = s.callCount ∧ s.userCode = true ∧ s'.time = s.time + 1 ∧
        (s'.call number).Begun s label := by
  rcases effect.callCount_cases with same | ⟨count, _, userCode, time, begun⟩
  · exact .inl (same ▸ made)
  · by_cases new : number = s.callCount
    · subst new
      exact .inr ⟨rfl, userCode, time, begun⟩
    · rw [count] at made
      exact .inl (Nat.lt_of_le_of_ne (Nat.le_of_lt_succ made) new)

/-- What a call keeps when it returns. -/
structure Call.Kept (old new : Call Msg) : Prop where
  caller : new.caller = old.caller
  coro : new.coro = old.coro
  srcCoroId : new.srcCoroId = old.srcCoroId
  sent : new.sent = old.sent
  startedAt : new.startedAt = old.startedAt

/-- A call stays as it is until it returns. -/
theorem Effect.call_cases (effect : Effect protobuf s label s') (old : number < s.callCount) :
    s'.call number = s.call number ∨
      (s.call number).Kept (s'.call number) ∧ label = .proceed ∧
        ∃ coro, s.top s.core.coSelf = some (.callWait number coro) := by
  cases effect with
  | rejected | called => exact .inl (Function.update_of_ne (Nat.ne_of_lt old) _ _)
  | @flagged waiting coro _ _ _ frames | @read waiting coro _ _ _ _ frames =>
      by_cases same : number = waiting
      · subst same
        refine .inr ⟨?_, rfl, coro, State.top_cons.mpr ⟨_, frames⟩⟩
        simp only [State.tick, State.setCall, Function.update_self]
        exact ⟨rfl, rfl, rfl, rfl, rfl⟩
      · exact .inl (Function.update_of_ne same _ _)
  | _ => exact .inl rfl

theorem Effect.call_kept (effect : Effect protobuf s label s') (old : number < s.callCount) :
    (s.call number).Kept (s'.call number) := by
  rcases effect.call_cases old with same | ⟨kept, _⟩
  · rw [same]
    exact ⟨rfl, rfl, rfl, rfl, rfl⟩
  · exact kept

theorem Effect.callCount_le (effect : Effect protobuf s label s') :
    s.callCount ≤ s'.callCount := by
  rcases effect.callCount_cases with count | ⟨count, _⟩ <;> omega

/-- A parameter is stored by a dispatch. -/
theorem Effect.ptrParam1_cases (effect : Effect protobuf s label s')
    (stored : (s'.core.coro coro).ptrParam1 = some packet) :
    (s.core.coro coro).ptrParam1 = some packet ∨
      packet = s.receivedCount ∧ s'.receivedCount = s.receivedCount + 1 ∧
        s'.top s.core.coSelf = some (.rspRet packet coro) := by
  cases effect with
  | work taken => exact .inl (CoroMgr.step_ptrParam1 taken (fun _ _ other => by cases other) stored)
  | op _ _ own taken =>
      refine .inl (CoroMgr.step_ptrParam1 taken (fun _ _ same => ?_) stored)
      cases same
      cases own
  | called _ _ _ _ taken =>
      exact .inl (CoroMgr.step_ptrParam1 taken (fun _ _ other => by cases other) stored)
  | finished _ _ _ taken =>
      exact .inl (CoroMgr.step_ptrParam1 taken (fun _ _ other => by cases other) stored)
  | spawned userRuns =>
      exact .inl (CoroMgr.step_ptrParam1 (createCoro_ok userRuns)
        (fun _ _ other => by cases other) stored)
  | @dispatched _ _ _ _ target =>
      by_cases same : coro = target
      · subst same
        have isNew : some s.receivedCount = some packet := by
          simpa [State.tick, CoroMgr.State.goto, CoroMgr.State.setPtrParam1,
            CoroMgr.State.setCoro] using stored
        cases isNew
        exact .inr ⟨rfl, rfl, State.top_cons.mpr ⟨_, Function.update_self ..⟩⟩
      · refine .inl ?_
        simpa [State.tick, CoroMgr.State.goto, CoroMgr.State.setPtrParam1,
          CoroMgr.State.setCoro, same] using stored
  | _ => exact .inl stored

/-- The dispatch of a packet ends when the packet is recycled. -/
theorem Effect.recycled_of_proceed (effect : Effect protobuf s .proceed s')
    (top : s.top s.core.coSelf = some (.rspRet packet coro)) :
    (s'.received packet).recycled = true := by
  obtain ⟨below, frames⟩ := State.top_cons.mp top
  cases effect with
  | flagged _ frames' | read _ frames' =>
      rw [frames] at frames'
      cases frames'
  | back _ frames' which =>
      rw [frames] at frames'
      obtain ⟨rfl, _⟩ := List.cons.inj frames'
      rcases which with ⟨_, same⟩ | other
      · cases same
        simp [State.tick, State.recycle, State.setReceived]
      · cases other

theorem Unread.update {target : PacketPtr} {value : Received Msg} (unread : Unread s packet)
    (written : s'.received = Function.update s.received target value)
    (arrived : value.arrived = (s.received target).arrived)
    (kept : value.packet = (s.received target).packet) : Unread s' packet := by
  by_cases same : packet = target
  · subst same
    have is : s'.received packet = value := by rw [written, Function.update_self]
    exact ⟨by rw [is, arrived]; exact unread.isRsp, by rw [is, arrived, kept]; exact unread.read⟩
  · have is : s'.received packet = s.received packet := by rw [written, Function.update_of_ne same]
    exact ⟨is ▸ unread.isRsp, is ▸ unread.read⟩

/-- A packet is read by the call of the coroutine that it was stored in. -/
theorem Effect.unread_kept (effect : Effect protobuf s label s') (old : packet < s.receivedCount)
    (unread : Unread s packet) :
    Unread s' packet ∨ label = .proceed ∧ (s.received packet).recycled = false ∧
      ∃ number reader, s.top s.core.coSelf = some (.callWait number reader) ∧
        (s.core.coro reader).ptrParam1 = some packet := by
  have elsewhere : s'.received packet = s.received packet → Unread s' packet := fun same =>
    ⟨same ▸ unread.isRsp, same ▸ unread.read⟩
  cases effect with
  | work | op | rejected | called | flagged | addService => exact .inl (elsewhere rfl)
  | @read number reader _ recvPacket _ _ frames stored live =>
      by_cases same : packet = recvPacket
      · subst same
        exact .inr ⟨rfl, live, number, reader, State.top_cons.mpr ⟨_, frames⟩, stored⟩
      · exact .inl (elsewhere (Function.update_of_ne same _ _))
  | dropped =>
      refine .inl (elsewhere ?_)
      simp [State.tick, State.recycle, State.setReceived, State.receive, Nat.ne_of_lt old]
  | dispatched | inline | spawned =>
      exact .inl (elsewhere (Function.update_of_ne (Nat.ne_of_lt old) _ _))
  | wrote | finished | back => exact .inl (unread.update rfl rfl rfl)
  | handled =>
      refine .inl (unread.update (Function.update_idem ..) ?_ ?_)
      all_goals simp [State.onRpcDone, State.pushPacket, State.setReceived, State.goto]

/-- A step is one of the coroutine manager, or switches no coroutine. -/
theorem Effect.switch_cases (effect : Effect protobuf s label s') :
    (∃ coreLabel, CoroMgr.machine.step s.core coreLabel = .ok s'.core ∧
      (s.core.UserRuns → s.userCode = true) ∧ (∀ packet, Unread s packet → Unread s' packet)) ∨
    s.core.UserRuns ∧ s'.core.callStack = s.core.callStack ∧
      (s'.core = s.core ∨ s.userCode = true ∧
        ∀ co, co ≠ s.core.coSelf → s'.core.frames co = s.core.frames co) := by
  cases effect with
  | work taken =>
      refine .inl ⟨_, taken, fun userRuns => ?_, fun _ unread => ⟨unread.isRsp, unread.read⟩⟩
      have none : s.core.frames s.core.coSelf = [] := userRuns
      simp [CoroMgr.machine, CoroMgr.State.step, none] at taken
  | op _ userCode _ taken =>
      exact .inl ⟨_, taken, fun _ => userCode, fun _ unread => ⟨unread.isRsp, unread.read⟩⟩
  | called _ userCode _ _ taken =>
      exact .inl ⟨_, taken, fun _ => userCode, fun _ unread => ⟨unread.isRsp, unread.read⟩⟩
  | finished _ frames _ taken =>
      refine .inl ⟨_, taken, fun _ => ?_, fun _ unread => unread.update rfl rfl rfl⟩
      simp [State.userCode, frames]
  | dispatched userRuns userCode | spawned userRuns userCode =>
      exact .inr ⟨userRuns, rfl, .inr ⟨userCode, fun _ other => Function.update_of_ne other _ _⟩⟩
  | rejected userRuns | flagged userRuns | read userRuns | dropped userRuns | inline userRuns
  | addService userRuns | wrote userRuns | handled userRuns | back userRuns =>
      exact .inr ⟨userRuns, rfl, .inl rfl⟩

theorem Effect.precedes_kept (effect : Effect protobuf s label s') (old : number < s.callCount)
    (known : packet < s.receivedCount) (precedes : Precedes s number packet) :
    Precedes s' number packet := by
  have arrivedAt : (s'.received packet).arrivedAt = (s.received packet).arrivedAt := by
    rcases effect.received_cases with ⟨_, kept⟩ | ⟨_, _, _, _, same, _⟩
    · exact (kept packet).arrivedAt
    · rw [same packet (Nat.ne_of_lt known)]
  rw [Precedes, (effect.call_kept old).startedAt, arrivedAt]
  exact precedes

theorem Effect.receivedCount_le (effect : Effect protobuf s label s') :
    s.receivedCount ≤ s'.receivedCount := by
  rcases effect.received_cases with ⟨count, _⟩ | ⟨_, _, _, count, _⟩ <;> omega

end

/-! ## The invariant -/

/-- A call that waits has not returned, and its response is clear. -/
structure Waiting (protobuf : Protobuf Msg) (s : State Msg) (number : CallId) (coro : CoroPtr) :
    Prop where
  made : number < s.callCount
  caller : (s.call number).caller = .co coro
  sent : (s.call number).sent = true
  unreturned : (s.call number).returnedAt = none
  cleared : (s.call number).response = protobuf.empty (s.call number).responseType

/-- Calls, dispatches and stored addresses hang together. -/
structure Correlated (protobuf : Protobuf Msg) (s : State Msg) : Prop where
  grounded : Grounded s
  ordered : Ordered s
  callTimes : ∀ number, number < s.callCount → (s.call number).startedAt < s.time
  packetTimes : ∀ packet, packet < s.receivedCount → (s.received packet).arrivedAt < s.time
  waiting : ∀ co number coro, s.top co = some (.callWait number coro) →
    co = .co coro ∧ Waiting protobuf s number coro
  pending : ∀ co packet coro, s.top co = some (.rspRet packet coro) →
    packet < s.receivedCount ∧ Pending s co packet coro
  unique : ∀ packet left right leftCoro rightCoro, s.top left = some (.rspRet packet leftCoro) →
    s.top right = some (.rspRet packet rightCoro) → left = right
  stored : ∀ coro packet, (s.core.coro coro).ptrParam1 = some packet →
    packet < s.receivedCount ∧
      ((s.received packet).recycled = true ∨ ∃ co, s.top co = some (.rspRet packet coro))

namespace Correlated

variable {label : Label Msg} (correlated : Correlated protobuf s)
  (effect : Effect protobuf s label s')

include correlated effect

theorem callTimes_step (number : CallId) (made : number < s'.callCount) :
    (s'.call number).startedAt < s'.time := by
  rcases effect.made_cases made with old | ⟨_, _, time, begun⟩
  · have later : s.time ≤ s'.time := by
      rcases effect.time_cases with ⟨_, same⟩ | next <;> omega
    rw [(effect.call_kept old).startedAt]
    exact Nat.lt_of_lt_of_le (correlated.callTimes number old) later
  · rw [begun.startedAt, time]
    exact Nat.lt_succ_self _

theorem packetTimes_step (packet : PacketPtr) (old : packet < s'.receivedCount) :
    (s'.received packet).arrivedAt < s'.time := by
  have later : s.time ≤ s'.time := by
    rcases effect.time_cases with ⟨_, same⟩ | next <;> omega
  rcases effect.received_cases with ⟨count, kept⟩ | ⟨_, _, rfl, count, same, made⟩
  · rw [(kept packet).arrivedAt]
    exact Nat.lt_of_lt_of_le (correlated.packetTimes packet (count ▸ old)) later
  · by_cases new : packet = s.receivedCount
    · subst new
      rcases effect.time_cases with ⟨⟨_, other⟩, _⟩ | next
      · cases other
      · rw [made.arrivedAt]
        omega
    · rw [same packet new]
      rw [count] at old
      have known := Nat.lt_of_le_of_ne (Nat.le_of_lt_succ old) new
      exact Nat.lt_of_lt_of_le (correlated.packetTimes packet known) later

section

variable (awake : ∀ coro, .co coro ∈ s.core.callStack → (s.core.coro coro).yielded = false)
  (named : s.core.registry.Named)

include awake named

theorem waiting_step (co : Co) (number : CallId) (coro : CoroPtr)
    (top : s'.top co = some (.callWait number coro)) :
    co = .co coro ∧ Waiting protobuf s' number coro := by
  rcases effect.top_cases correlated.ordered rfl top with old | ⟨self, userRuns, _, begins⟩
  · obtain ⟨isCo, made, caller, sent, unreturned, cleared⟩ :=
      correlated.waiting co number coro old
    have same : s'.call number = s.call number := by
      rcases effect.call_cases made with same | ⟨_, rfl, other, runs⟩
      · exact same
      · -- The coroutine would have returned from its call.
        obtain ⟨isSelf, _, callerToo, _⟩ := correlated.waiting _ number other runs
        have self : co = s.core.coSelf := by rw [isCo, isSelf, ← caller, callerToo]
        exact absurd (effect.top_of_proceed correlated.ordered (self ▸ top))
          (by simp [RpcFrame.waits])
    exact ⟨isCo, Nat.lt_of_lt_of_le made effect.callCount_le, same ▸ caller,
      same ▸ sent, same ▸ unreturned, same ▸ cleared⟩
  · cases begins with
    | callWait found notMain taken count call =>
        have isSelf := (CoroMgr.leaving_of_yield awake named userRuns found notMain taken).1
        refine ⟨self.trans isSelf, count ▸ Nat.lt_succ_self _, ?_, ?_, ?_, ?_⟩
        · rw [call, ← isSelf]
          rfl
        all_goals
          rw [call]
          rfl

/-- The calls that a dispatch has to know about. -/
theorem tops_step {coro : CoroPtr} {number : CallId}
    (top : s'.top (.co coro) = some (.callWait number coro)) :
    Leaving s'.core coro ∨
      number < s.callCount ∧ s.top (.co coro) = some (.callWait number coro) := by
  rcases effect.top_cases correlated.ordered rfl top with old | ⟨self, userRuns, _, begins⟩
  · exact .inr ⟨(correlated.waiting _ _ _ old).2.made, old⟩
  · cases begins with
    | callWait found notMain taken =>
        exact .inl (CoroMgr.leaving_of_yield awake named userRuns found notMain taken).2

/-- A dispatch that was in progress still is. -/
theorem pending_kept {co : Co} {packet : PacketPtr} {coro : CoroPtr}
    (before : s.top co = some (.rspRet packet coro))
    (after : s'.top co = some (.rspRet packet coro)) : Pending s' co packet coro := by
  obtain ⟨known, pending⟩ := correlated.pending co packet coro before
  have precedes : ∀ number, number < s.callCount → Precedes s number packet →
      Precedes s' number packet := fun _ old => effect.precedes_kept old known
  have tops : ∀ number, s'.top (.co coro) = some (.callWait number coro) →
      Leaving s'.core coro ∨
        number < s.callCount ∧ s.top (.co coro) = some (.callWait number coro) :=
    fun _ top => correlated.tops_step effect awake named top
  rcases effect.switch_cases with ⟨_, taken, user, unread⟩ | ⟨userRuns, stack, frames⟩
  · refine pending.worked named before taken user (fun busy => ?_) (unread packet) precedes tops
    rcases effect.callCount_cases with same | ⟨_, userRuns, _⟩
    · exact same
    · exact absurd userRuns busy
  · refine pending.stayed userRuns stack ?_ precedes fun number top => ?_
    · rcases frames with same | ⟨userCode, frames⟩
      · rw [same]
      · refine frames co ?_
        rintro rfl
        have waits := userCode_top userCode before
        cases waits
    · refine (tops number top).imp_right fun old => ⟨old.1, old.2, fun isUnread => ?_⟩
      rcases effect.unread_kept known isUnread with still | ⟨rfl, live, _, reader, runs, stored⟩
      · exact still
      · -- The call of this very coroutine has read the packet and returned.
        obtain ⟨other, dispatch⟩ := (correlated.stored reader packet stored).2.resolve_left
          (by simp [live])
        have same := correlated.unique packet co other coro reader before dispatch
        subst same
        have isReader : reader = coro := by simpa [dispatch] using before
        have isSelf := (correlated.waiting _ _ _ runs).1
        rw [← isReader, ← isSelf] at top
        exact absurd (effect.top_of_proceed correlated.ordered top) (by simp [RpcFrame.waits])

theorem pending_step (co : Co) (packet : PacketPtr) (coro : CoroPtr)
    (top : s'.top co = some (.rspRet packet coro)) :
    packet < s'.receivedCount ∧ Pending s' co packet coro := by
  rcases effect.top_cases correlated.ordered rfl top with old | ⟨rfl, _, _, begins⟩
  · have known := (correlated.pending co packet coro old).1
    exact ⟨Nat.lt_of_lt_of_le known effect.receivedCount_le,
      correlated.pending_kept effect awake named old top⟩
  · cases begins with
    | rspRet _ entering isRsp read arrivedAt count calls =>
        refine ⟨count ▸ Nat.lt_succ_self _, .entering entering ⟨isRsp, _, read⟩ ?_⟩
        intro number old
        rw [calls.1] at old
        rw [Precedes, calls.2, arrivedAt]
        exact correlated.callTimes number old

end

theorem unique_step (packet : PacketPtr) (left right : Co) (leftCoro rightCoro : CoroPtr)
    (leftTop : s'.top left = some (.rspRet packet leftCoro))
    (rightTop : s'.top right = some (.rspRet packet rightCoro)) : left = right := by
  -- A new dispatch is of a new packet.
  have new : ∀ {coro : CoroPtr} {co : Co}, s.top co = some (.rspRet packet coro) →
      ¬ ∃ other, Begins protobuf s s' (.rspRet packet other) := by
    rintro coro co old ⟨other, begins⟩
    have known := (correlated.pending co packet coro old).1
    cases begins
    exact absurd known (Nat.lt_irrefl _)
  rcases effect.top_cases correlated.ordered rfl leftTop with leftOld | ⟨leftSelf, _, _, leftNew⟩
  · rcases effect.top_cases correlated.ordered rfl rightTop with rightOld | ⟨_, _, _, rightNew⟩
    · exact correlated.unique packet left right leftCoro rightCoro leftOld rightOld
    · exact absurd ⟨_, rightNew⟩ (new leftOld)
  · rcases effect.top_cases correlated.ordered rfl rightTop with rightOld | ⟨rightSelf, _⟩
    · exact absurd ⟨_, leftNew⟩ (new rightOld)
    · exact leftSelf.trans rightSelf.symm

theorem stored_step (coro : CoroPtr) (packet : PacketPtr)
    (stored : (s'.core.coro coro).ptrParam1 = some packet) :
    packet < s'.receivedCount ∧
      ((s'.received packet).recycled = true ∨ ∃ co, s'.top co = some (.rspRet packet coro)) := by
  rcases effect.ptrParam1_cases stored with before | ⟨rfl, count, top⟩
  · obtain ⟨known, live⟩ := correlated.stored coro packet before
    refine ⟨Nat.lt_of_lt_of_le known effect.receivedCount_le, ?_⟩
    rcases live with recycled | ⟨co, top⟩
    · left
      rcases effect.received_cases with ⟨_, kept⟩ | ⟨_, _, _, _, same, _⟩
      · exact (kept packet).recycled recycled
      · rwa [same packet (Nat.ne_of_lt known)]
    · rcases effect.top_kept correlated.grounded rfl top with still | ⟨rfl, _, rfl⟩
      · exact .inr ⟨co, still⟩
      · exact .inl (effect.recycled_of_proceed top)
  · exact ⟨count ▸ Nat.lt_succ_self _, .inr ⟨_, top⟩⟩

theorem step (named : s.core.registry.Named)
    (awake : ∀ coro, .co coro ∈ s.core.callStack → (s.core.coro coro).yielded = false) :
    Correlated protobuf s' where
  grounded := correlated.grounded.step effect
  ordered := correlated.ordered.step correlated.grounded effect
  callTimes := correlated.callTimes_step effect
  packetTimes := correlated.packetTimes_step effect
  waiting := correlated.waiting_step effect awake named
  pending := correlated.pending_step effect awake named
  unique := correlated.unique_step effect
  stored := correlated.stored_step effect

end Correlated

theorem correlated_init {env : Bool} : Correlated protobuf (State.init protobuf env) where
  grounded := grounded_init
  ordered _ _ member := by cases member
  callTimes _ old := absurd old (Nat.not_lt_zero _)
  packetTimes _ old := absurd old (Nat.not_lt_zero _)
  waiting _ _ _ top := by cases top
  pending _ _ _ top := by cases top
  unique _ _ _ _ _ top := by cases top
  stored _ _ stored := by cases stored

theorem correlated_of_newIds {env : Bool}
    (run : (machine protobuf).Run (TakesNewId protobuf) (State.init protobuf env) s) :
    Correlated protobuf s := by
  induction run with
  | start => exact correlated_init
  | step prior _ taken ih =>
      have before := core_run_free prior
      exact ih.step (step_effect taken) (CoroMgr.named_of_run before)
        (CoroMgr.poised_of_run before).awake

theorem correlated_of_run {env : Bool}
    (run : (machine protobuf).Run (Disciplined protobuf) (State.init protobuf env) s) :
    Correlated protobuf s :=
  correlated_of_newIds (run.mono fun _ _ disciplined => disciplined.newId)

/-- A call that reads a packet was waiting when the packet arrived, and is the first to
read it. -/
theorem Correlated.of_read (correlated : Correlated protobuf s) (userRuns : s.core.UserRuns)
    {number : CallId} {coro : CoroPtr} {packet : PacketPtr}
    (top : s.top s.core.coSelf = some (.callWait number coro))
    (stored : (s.core.coro coro).ptrParam1 = some packet)
    (live : (s.received packet).recycled = false) :
    packet < s.receivedCount ∧ Unread s packet ∧ Precedes s number packet := by
  have isSelf := (correlated.waiting _ _ _ top).1
  obtain ⟨known, dispatch⟩ := correlated.stored coro packet stored
  obtain ⟨co, dispatch⟩ := dispatch.resolve_left (by simp [live])
  have notSelf : co ≠ s.core.coSelf := by
    rintro rfl
    rw [top] at dispatch
    cases dispatch
  refine ⟨known, ?_⟩
  cases (correlated.pending co packet coro dispatch).2 with
  | entering entering => exact absurd userRuns entering.busy
  | inside _ calls =>
      rcases calls number (isSelf ▸ top) with leaving | read
      · exact absurd userRuns leaving.busy
      · exact read
  | returned returned => exact absurd returned.runs.symm notSelf

end LibcoRpc.Rpc
