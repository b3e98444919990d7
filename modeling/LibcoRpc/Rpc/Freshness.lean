import LibcoRpc.CoroMgr.Timers
import LibcoRpc.Rpc.Outcomes

/-!
# The packet that a call reads

`ptrParam1` of a coroutine is written by every `HandleRpcRsp` that finds the coroutine,
also when the `Resume` after it is refused, and it is never cleared, so that most of the
time it dangles. `CallMethod` reads it when its `Yield` returns without a timeout and
without a cancellation. If coroutines in calls are resumed by nothing but `HandleRpcRsp`,
their timers and `Cancel` (`Solicited`), then at that moment the `HandleRpcRsp` that stored
the address is still waiting in its `Resume`, right below on the call stack (`Awaits`).
-/

namespace LibcoRpc.Rpc

open LibcoRpc.Std
open LibcoRpc.CoroMgr (Co CoroPtr Choice Op Cause Entering Inside Returned Leaving Cancelling)

variable {Msg : Type} {protobuf : Protobuf Msg} {s s' : State Msg} {label : Label Msg}
  {coro : CoroPtr} {packet : PacketPtr} {number : CallId} {co : Co}

/-! ## Who resumes a call -/

/-- The coroutine is inside `CallMethod`, at its `Yield`. -/
def State.inCall (s : State Msg) (coro : CoroPtr) : Bool :=
  match s.top (.co coro) with
  | some (.callWait _ _) => true
  | _ => false

/-- The `Resume` that a step is about to enter. -/
def State.resumes (s : State Msg) : Label Msg → Option (CoroPtr × Cause)
  | .work _ =>
      match s.core.innermost with
      | some (.resume coro _ cause) => some (coro, cause)
      | _ => none
  | _ => none

/-- A `Resume` that a call expects: `HandleRpcRsp`, `OnCoroTimeout` or `Cancel` makes it. -/
def State.expects (s : State Msg) (coro : CoroPtr) : Cause → Bool
  | .explicit =>
      match s.top s.core.coSelf with
      | some (.rspRet _ target) => target == coro
      | _ => false
  | .expiry => true
  | .cancel => true

/-- A coroutine that is suspended in a call is resumed only as the call expects. -/
def Solicited (s : State Msg) (label : Label Msg) : Prop :=
  ∀ resumed ∈ s.resumes label, (s.core.coro resumed.1).yielded = true →
    s.inCall resumed.1 = true → s.expects resumed.1 resumed.2 = true

instance (s : State Msg) (label : Label Msg) : Decidable (Solicited s label) :=
  inferInstanceAs (Decidable (∀ resumed ∈ s.resumes label,
    (s.core.coro resumed.1).yielded = true → s.inCall resumed.1 = true →
      s.expects resumed.1 resumed.2 = true))

/-- What callers can see to: no id is taken twice, and calls are resumed only as they
expect. -/
structure Unforced (protobuf : Protobuf Msg) (s : State Msg) (label : Label Msg) : Prop where
  newId : TakesNewId protobuf s label
  solicited : Solicited s label

instance (s : State Msg) (label : Label Msg) : Decidable (Unforced protobuf s label) :=
  decidable_of_iff (TakesNewId protobuf s label ∧ Solicited s label)
    ⟨fun both => ⟨both.1, both.2⟩, fun unforced => ⟨unforced.newId, unforced.solicited⟩⟩

/-- Moreover `LLBC_TimerScheduler::Cancel` never finds a record that is due later than the
long-timeout threshold, so that no timer outlives its suspension. -/
structure Undisturbed (protobuf : Protobuf Msg) (s : State Msg) (label : Label Msg) : Prop where
  disciplined : Disciplined protobuf s label
  solicited : Solicited s label

instance (s : State Msg) (label : Label Msg) : Decidable (Undisturbed protobuf s label) :=
  decidable_of_iff (Disciplined protobuf s label ∧ Solicited s label)
    ⟨fun both => ⟨both.1, both.2⟩,
      fun undisturbed => ⟨undisturbed.disciplined, undisturbed.solicited⟩⟩

theorem Solicited.expects {choice : Choice} (solicited : Solicited s (.work choice))
    {passData : CoroMgr.Variant} {cause : Cause} {rest : List CoroMgr.Frame}
    (at_ : s.core.frames s.core.coSelf = .resume coro passData cause :: rest)
    (yielded : (s.core.coro coro).yielded = true)
    (top : s.top (.co coro) = some (.callWait number coro)) : s.expects coro cause = true := by
  refine solicited (coro, cause) ?_ yielded ?_
  · simp [State.resumes, CoroMgr.innermost_of_cons at_]
  · simp [State.inCall, top]

/-! ## Packets that are being handled -/

/-- The packet that a function of the RPC layer has been given, and its opcode. -/
def RpcFrame.handles : RpcFrame → Option (PacketPtr × Int)
  | .callWait _ _ => none
  | .rspRet packet _ => some (packet, rpcRsp)
  | .reqRet packet => some (packet, rpcReq)
  | .handler packet => some (packet, rpcReq)
  | .entry packet => some (packet, rpcReq)

/-- The handlers of packets have been called for their opcodes. -/
def Sorted (s : State Msg) : Prop :=
  ∀ co, ∀ frame ∈ s.frames co, ∀ packet opcode, frame.handles = some (packet, opcode) →
    packet < s.receivedCount ∧ (s.received packet).arrived.opcode = opcode

/-- A function has been called before, or is called for the packet that has just come. -/
theorem Effect.frame_cases {frame : RpcFrame} (effect : Effect protobuf s label s')
    (member : frame ∈ s'.frames co) :
    frame ∈ s.frames co ∨ ∀ packet opcode, frame.handles = some (packet, opcode) →
      packet < s'.receivedCount ∧ (s'.received packet).arrived.opcode = opcode := by
  have popped : ∀ {outer : RpcFrame} {below : List RpcFrame},
      s.frames s.core.coSelf = outer :: below →
      s'.frames co = Function.update s.frames s.core.coSelf below co → frame ∈ s.frames co := by
    intro outer below frames written
    rw [written] at member
    by_cases self : co = s.core.coSelf
    · subst self
      rw [Function.update_self] at member
      exact frames ▸ List.mem_cons_of_mem _ member
    · rwa [Function.update_of_ne self] at member
  have pushed : ∀ {outer : RpcFrame},
      s'.frames co = Function.update s.frames s.core.coSelf (outer :: s.frames s.core.coSelf) co →
      frame ∈ s.frames co ∨ frame = outer := by
    intro outer written
    rw [written] at member
    by_cases self : co = s.core.coSelf
    · subst self
      rw [Function.update_self] at member
      exact (List.mem_cons.mp member).symm
    · exact .inl (by rwa [Function.update_of_ne self] at member)
  have received : ∀ value : Received Msg,
      Function.update s.received s.receivedCount value s.receivedCount = value :=
    fun value => Function.update_self ..
  cases effect with
  | work | op | rejected | dropped | addService | wrote => exact .inl member
  | flagged _ frames | read _ frames | handled _ frames | finished _ frames | back _ frames =>
      exact .inl (popped frames rfl)
  | called =>
      refine (pushed rfl).imp_right fun new _ _ handles => ?_
      rw [new] at handles
      cases handles
  | dispatched _ _ isRsp =>
      refine (pushed rfl).imp_right fun new _ _ handles => ?_
      rw [new] at handles
      cases handles
      refine ⟨Nat.lt_succ_self _, ?_⟩
      simpa only [State.tick, State.goto, State.receive, received] using isRsp
  | inline _ _ accepts =>
      refine (pushed rfl).imp_right fun new _ _ handles => ?_
      rw [new] at handles
      cases handles
      refine ⟨Nat.lt_succ_self _, ?_⟩
      simpa only [State.tick, State.goto, State.receive, received] using accepts.isReq
  | spawned _ _ accepts =>
      have created : ∀ other,
          frame ∈ Function.update s.frames (.co s.core.coroCount) [.entry s.receivedCount] other →
            frame ∈ s.frames other ∨ frame = .entry s.receivedCount := by
        intro other member
        by_cases new : other = .co s.core.coroCount
        · rw [new, Function.update_self] at member
          exact .inr (List.mem_singleton.mp member)
        · exact .inl (by rwa [Function.update_of_ne new] at member)
      have made : frame ∈ s.frames co ∨ frame = .reqRet s.receivedCount ∨
          frame = .entry s.receivedCount := by
        by_cases self : co = s.core.coSelf
        · subst self
          simp only [State.tick, State.goto, Function.update_self] at member
          rcases List.mem_cons.mp member with isRet | below
          · exact .inr (.inl isRet)
          · exact (created _ below).imp_right .inr
        · simp only [State.tick, State.goto, Function.update_of_ne self] at member
          exact (created _ member).imp_right .inr
      refine made.imp_right fun new packet opcode handles => ?_
      have isNew : packet = s.receivedCount ∧ opcode = rpcReq := by
        rcases new with rfl | rfl
        all_goals
          cases handles
          exact ⟨rfl, rfl⟩
      obtain ⟨rfl, rfl⟩ := isNew
      refine ⟨Nat.lt_succ_self _, ?_⟩
      simpa only [State.tick, State.goto, State.receive, received] using accepts.isReq

theorem Sorted.step (sorted : Sorted s) (effect : Effect protobuf s label s') : Sorted s' := by
  intro co frame member packet opcode handles
  rcases effect.frame_cases member with old | new
  · obtain ⟨known, isOpcode⟩ := sorted co frame old packet opcode handles
    refine ⟨Nat.lt_of_lt_of_le known effect.receivedCount_le, ?_⟩
    rcases effect.received_cases with ⟨_, kept⟩ | ⟨_, _, _, _, same, _⟩
    · rw [(kept packet).arrived, isOpcode]
    · rw [same packet (Nat.ne_of_lt known), isOpcode]
  · exact new packet opcode handles

/-- The service recycles a packet when the handler of its opcode has returned. -/
theorem Effect.recycled_cases (effect : Effect protobuf s label s')
    (known : packet < s.receivedCount) (recycled : (s'.received packet).recycled = true) :
    (s.received packet).recycled = true ∨ ∃ frame rest opcode,
      s.frames s.core.coSelf = frame :: rest ∧ s'.frames s.core.coSelf = rest ∧
        frame.handles = some (packet, opcode) := by
  have same : s'.received packet = s.received packet → (s.received packet).recycled = true :=
    fun same => same ▸ recycled
  have notNew := Nat.ne_of_lt known
  cases effect with
  | work | op | rejected | called | flagged | addService => exact .inl (same rfl)
  | dispatched | inline | spawned => exact .inl (same (Function.update_of_ne notNew _ _))
  | dropped =>
      refine .inl (same ?_)
      simp [State.tick, State.recycle, State.setReceived, State.receive, notNew]
  | @read _ _ _ target | @wrote _ target | @finished target =>
      by_cases isTarget : packet = target
      · subst isTarget
        refine .inl ?_
        simpa [State.tick, State.goto, State.setReceived, State.setCall, State.onRpcDone,
          State.pushPacket] using recycled
      · exact .inl (same (Function.update_of_ne isTarget _ _))
  | @handled target _ _ _ frames =>
      by_cases isTarget : packet = target
      · subst isTarget
        exact .inr ⟨_, _, _, frames, Function.update_self .., rfl⟩
      · refine .inl (same ?_)
        simp [State.tick, State.goto, State.recycle, State.setReceived, State.onRpcDone,
          State.pushPacket, isTarget]
  | @back target frame _ _ frames which =>
      by_cases isTarget : packet = target
      · subst isTarget
        have handles : ∃ opcode, frame.handles = some (packet, opcode) := by
          rcases which with ⟨_, rfl⟩ | rfl
          · exact ⟨_, rfl⟩
          · exact ⟨_, rfl⟩
        obtain ⟨opcode, handles⟩ := handles
        exact .inr ⟨_, _, _, frames, Function.update_self .., handles⟩
      · exact .inl (same (Function.update_of_ne isTarget _ _))

/-- A dispatch keeps its packet. -/
def Live (s : State Msg) : Prop :=
  ∀ co packet coro, s.top co = some (.rspRet packet coro) → (s.received packet).recycled = false

theorem Live.step (live : Live s) (sorted : Sorted s) (correlated : Correlated protobuf s)
    (effect : Effect protobuf s label s') : Live s' := by
  intro co packet coro top
  rcases effect.top_cases correlated.ordered rfl top with old | ⟨self, userRuns, _, begins⟩
  · obtain ⟨below, frames⟩ := State.top_cons.mp old
    obtain ⟨known, isRsp⟩ := sorted co _ (frames ▸ List.mem_cons_self) packet rpcRsp rfl
    by_contra notLive
    rcases effect.recycled_cases known (by simpa using notLive) with
      recycled | ⟨frame, rest, opcode, atFrame, next, handles⟩
    · simp [live co packet coro old] at recycled
    · have isOpcode := (sorted _ frame (atFrame ▸ List.mem_cons_self) packet opcode handles).2
      cases frame with
      | callWait => cases handles
      | reqRet | handler | entry =>
          cases handles
          exact absurd (isRsp.symm.trans isOpcode) (by decide)
      | rspRet _ target =>
          -- The dispatch itself would be over.
          cases handles
          have self := correlated.unique packet co _ coro target old
            (State.top_cons.mpr ⟨rest, atFrame⟩)
          subst self
          rw [State.top, next] at top
          have notWaits := correlated.ordered.not_waits atFrame (List.mem_of_head? top)
          cases notWaits
  · cases begins with
    | rspRet _ entering _ _ _ count =>
        cases effect with
        | dispatched => simp [State.tick, State.goto, State.receive]
        | dropped | inline => exact absurd userRuns entering.busy
        | spawned =>
            subst self
            simp [State.top, State.tick, State.goto] at top
        | _ => exact absurd count (Nat.ne_of_lt (Nat.lt_succ_self s.receivedCount))

/-! ## Where a call stands -/

/-- A coroutine is back in its `Yield`, or has just returned from it. -/
def Waking (core : CoroMgr.State) (coro : CoroPtr) : Prop :=
  (∃ times, core.frames (.co coro) = [.yieldRet coro times]) ∨ core.frames (.co coro) = []

/-- Where a coroutine that is in a call stands. -/
inductive Awaits (s : State Msg) (coro : CoroPtr) : Prop where
  /-- Its `Yield` has not switched yet. -/
  | leaving (leaving : Leaving s.core coro)
  | asleep {times : Nat} (yielded : (s.core.coro coro).yielded = true)
      (frames : s.core.frames (.co coro) = [.yieldRet coro times])
  /-- A timeout or a cancellation has woken it. -/
  | flagged (running : (s.core.coro coro).yielded = false)
      (flag : (s.core.coro coro).timeouted = true ∨ (s.core.coro coro).cancelled = true)
      (frames : Waking s.core coro)
  /-- A `HandleRpcRsp` has stored its packet and is on its way into the coroutine. -/
  | entering {co : Co} {packet : PacketPtr} {times : Nat}
      (dispatch : s.top co = some (.rspRet packet coro))
      (stored : (s.core.coro coro).ptrParam1 = some packet) (runs : s.core.coSelf = co)
      (running : (s.core.coro coro).yielded = false)
      (at_ : Cancelling coro [.coResume coro] (s.core.frames co) ∨
        s.core.frames co = [.coResume coro])
      (frames : s.core.frames (.co coro) = [.yieldRet coro times])
  /-- It has given control to the coroutine. -/
  | handed {co : Co} {packet : PacketPtr} {below : List Co}
      (dispatch : s.top co = some (.rspRet packet coro))
      (stored : (s.core.coro coro).ptrParam1 = some packet)
      (stack : s.core.callStack = .co coro :: co :: below)
      (at_ : s.core.frames co = [.resumeRet coro]) (frames : Waking s.core coro)

theorem Entering.not_resumeRet {core : CoroMgr.State} (entering : Entering core co coro) :
    core.frames co ≠ [.resumeRet coro] := by
  intro resumed
  cases entering with
  | asked _ at_ | switching _ at_ => cases resumed.symm.trans at_
  | cancelling _ _ at_ =>
      rw [resumed] at at_
      cases at_

/-- A dispatch that is on its way has been so since it began. -/
theorem Correlated.entering_kept (correlated : Correlated protobuf s)
    (named : s.core.registry.Named) (effect : Effect protobuf s label s')
    (top : s.top co = some (.rspRet packet coro)) (entering : Entering s'.core co coro) :
    Entering s.core co coro := by
  cases (correlated.pending co packet coro top).2 with
  | entering before => exact before
  | inside inside =>
      have other := inside.ne_coSelf named
      have same : s'.core.frames co = s.core.frames co := by
        rcases effect.switch_cases with ⟨_, taken, _⟩ | ⟨_, _, same | ⟨_, frames⟩⟩
        · exact CoroMgr.step_frames taken other
        · rw [same]
        · exact frames co other
      exact absurd (same.trans inside.at_) (Entering.not_resumeRet entering)
  | returned returned =>
      obtain ⟨runs, at_⟩ := returned
      have notUser : s.userCode ≠ true := fun userCode => by
        cases userCode_top userCode (runs ▸ top)
      rcases effect.switch_cases with ⟨_, taken, user, _⟩ | ⟨userRuns, _, same | ⟨userCode, _⟩⟩
      · rcases at_ with at_ | at_
        · rw [← runs] at at_
          obtain ⟨_, ran⟩ := CoroMgr.step_work at_ taken
          have isCore : s'.core = (s.core.returns CoroMgr.llbcOk).goto s.core.coSelf [] :=
            (Except.ok.inj ran).symm
          refine absurd ?_ entering.busy
          rw [isCore]
          simp [CoroMgr.State.UserRuns, CoroMgr.State.goto, CoroMgr.State.returns,
            CoroMgr.State.coSelf]
        · exact absurd (user (by rw [← runs] at at_; exact at_)) notUser
      · exact absurd (same ▸ userRuns) entering.busy
      · exact absurd userCode notUser

/-- A dispatch that is on its way has stored its packet. -/
def Stored (s : State Msg) : Prop :=
  ∀ co packet coro, s.top co = some (.rspRet packet coro) → Entering s.core co coro →
    (s.core.coro coro).ptrParam1 = some packet

theorem Stored.step (stored : Stored s) (correlated : Correlated protobuf s)
    (named : s.core.registry.Named) (effect : Effect protobuf s label s') : Stored s' := by
  intro co packet coro top entering
  rcases effect.top_cases correlated.ordered rfl top with old | ⟨self, userRuns, _, begins⟩
  · have before := correlated.entering_kept named effect old entering
    have held := stored co packet coro old before
    cases effect with
    | work taken => rw [CoroMgr.work_ptrParam1 taken coro, held]
    | op userRuns | rejected userRuns | called userRuns | flagged userRuns | read userRuns
    | dropped userRuns | dispatched userRuns | inline userRuns | spawned userRuns
    | addService userRuns | wrote userRuns | handled userRuns | finished userRuns
    | back userRuns => exact absurd userRuns before.busy
  · cases begins with
    | rspRet _ _ _ _ _ count =>
        cases effect with
        | dispatched =>
            subst self
            simp only [State.top, State.tick, State.goto, Function.update_self] at top
            cases top
            simp [State.tick, CoroMgr.State.goto, CoroMgr.State.setPtrParam1,
              CoroMgr.State.setCoro]
        | dropped | inline => exact absurd userRuns entering.busy
        | spawned =>
            subst self
            simp [State.top, State.tick, State.goto] at top
        | _ => exact absurd count (Nat.ne_of_lt (Nat.lt_succ_self s.receivedCount))

/-! ## A call stands where the coroutine manager left it -/

/-- A step is one of the coroutine manager, or user code runs: in another coroutine, or
without a call into the coroutine manager. -/
theorem Effect.waiting_cases (effect : Effect protobuf s label s')
    (named : s.core.registry.Named) (created : coro < s.core.coroCount)
    (top : s.top (.co coro) = some (.callWait number coro)) :
    (∃ choice, label = .work choice ∧ CoroMgr.machine.step s.core (.work choice) = .ok s'.core ∧
      s'.frames = s.frames) ∨
    s.core.UserRuns ∧ (s'.core = s.core ∨ (s.core.coro coro).Keeps (s'.core.coro coro) ∧
      s'.core.frames (.co coro) = s.core.frames (.co coro) ∧ s.core.coSelf ≠ .co coro) := by
  have away : s.userCode = true → s.core.coSelf ≠ .co coro := by
    intro userCode self
    cases userCode_top userCode (self ▸ top)
  have stepped : ∀ {op : Op}, s.core.UserRuns → s.core.coSelf ≠ .co coro →
      CoroMgr.machine.step s.core (.user op) = .ok s'.core →
      (s.core.coro coro).Keeps (s'.core.coro coro) ∧
        s'.core.frames (.co coro) = s.core.frames (.co coro) ∧ s.core.coSelf ≠ .co coro :=
    fun userRuns other taken => ⟨named.user_keeps userRuns taken created other,
      CoroMgr.step_frames taken other.symm, other⟩
  cases effect with
  | work taken => exact .inl ⟨_, rfl, taken, rfl⟩
  | op userRuns userCode _ taken =>
      exact .inr ⟨userRuns, .inr (stepped userRuns (away userCode) taken)⟩
  | called userRuns userCode _ _ taken =>
      exact .inr ⟨userRuns, .inr (stepped userRuns (away userCode) taken)⟩
  | finished userRuns frames _ taken =>
      refine .inr ⟨userRuns, .inr (stepped userRuns (fun self => ?_) taken)⟩
      rw [State.top, ← self, frames] at top
      cases top
  | dispatched userRuns userCode =>
      refine .inr ⟨userRuns, .inr ⟨?_, ?_, away userCode⟩⟩
      · refine CoroMgr.keeps_update ?_ coro
        exact ⟨rfl, rfl, id, id, fun _ => id⟩
      · exact Function.update_of_ne (away userCode).symm _ _
  | spawned userRuns userCode =>
      have made : (s.core.coro coro).Keeps ((s.core.createCoro s.receivedCount 0).coro coro) :=
        named.user_keeps userRuns (createCoro_ok userRuns) created (away userCode)
      exact .inr ⟨userRuns, .inr ⟨made, Function.update_of_ne (away userCode).symm _ _,
        away userCode⟩⟩
  | rejected userRuns | flagged userRuns | read userRuns | dropped userRuns | inline userRuns
  | addService userRuns | wrote userRuns | handled userRuns | back userRuns =>
      exact .inr ⟨userRuns, .inl rfl⟩

/-- User code runs meanwhile. -/
theorem Awaits.stayed (awaits : Awaits s coro) (named : s.core.registry.Named)
    (grounded : Grounded s) (effect : Effect protobuf s label s') (userRuns : s.core.UserRuns)
    (change : s'.core = s.core ∨ (s.core.coro coro).Keeps (s'.core.coro coro) ∧
      s'.core.frames (.co coro) = s.core.frames (.co coro) ∧ s.core.coSelf ≠ .co coro) :
    Awaits s' coro := by
  cases awaits with
  | leaving leaving => exact absurd userRuns leaving.busy
  | asleep yielded frames =>
      rcases change with same | ⟨keeps, sameFrames, _⟩
      · exact .asleep (same ▸ yielded) (same ▸ frames)
      · exact .asleep (keeps.yielded.trans yielded) (sameFrames.trans frames)
  | flagged running flag frames =>
      rcases change with same | ⟨keeps, sameFrames, _⟩
      · exact .flagged (same ▸ running) (same ▸ flag) (same ▸ frames)
      · exact .flagged (keeps.yielded.trans running) (flag.imp keeps.timeouted keeps.cancelled)
          (by rwa [Waking, sameFrames])
  | entering _ _ runs _ at_ =>
      have none : s.core.frames s.core.coSelf = [] := userRuns
      rw [← runs, none] at at_
      rcases at_ with cancelling | switching
      · cases cancelling
      · cases switching
  | handed dispatch stored stack at_ frames =>
      have self : s.core.coSelf = .co coro := CoroMgr.coSelf_of_cons stack
      rcases change with same | ⟨_, _, other⟩
      · have kept := effect.top_kept grounded rfl dispatch
        have notSelf := named.self_not_below (self.symm ▸ stack)
        refine .handed (kept.resolve_right fun ⟨isSelf, _⟩ => ?_) (same ▸ stored) (same ▸ stack)
          (same ▸ at_) (same ▸ frames)
        exact notSelf (isSelf ▸ List.mem_cons_self)
      · exact absurd self other

section

variable {choice : Choice} (correlated : Correlated protobuf s) (named : s.core.registry.Named)
  (poised : CoroMgr.Poised s.core)
  (taken : CoroMgr.machine.step s.core (.work choice) = .ok s'.core)
  (same : s'.frames = s.frames)

include same in
theorem top_of_same : s'.top = s.top := by
  funext co
  rw [State.top, State.top, same]

include named poised in
/-- A suspended coroutine does not run. -/
theorem asleep_ne (yielded : (s.core.coro coro).yielded = true) : .co coro ≠ s.core.coSelf := by
  intro self
  obtain ⟨below, stack⟩ := named.callStack_cons
  have running := poised.awake coro (by rw [stack, self]; exact List.mem_cons_self)
  simp [running] at yielded

include correlated named poised taken same in
/-- What has woken a suspended call has left a flag, or is a dispatch. -/
theorem Awaits.woken (stored : Stored s) (solicited : Solicited s (.work choice))
    (flagged : CoroMgr.ExpiresFlagged s.core) (created : coro < s.core.coroCount)
    (top : s.top (.co coro) = some (.callWait number coro))
    (yielded : (s.core.coro coro).yielded = true) {times : Nat}
    (frames : s.core.frames (.co coro) = [.yieldRet coro times]) : Awaits s' coro := by
  have sameFrames :=
    (CoroMgr.step_frames taken (asleep_ne named poised yielded)).trans frames
  rcases poised.woken_cases taken created yielded with
    still | ⟨passData, cause, rest, at_, stack, running, timeouted, cancelled, next⟩
  · exact .asleep still sameFrames
  · have expects := solicited.expects at_ yielded top
    obtain ⟨_, alone, cancelFlag⟩ := poised.of_resume at_
    cases cause with
    | cancel =>
        exact .flagged running (.inr (cancelled.trans (cancelFlag rfl))) (.inl ⟨_, sameFrames⟩)
    | expiry =>
        exact .flagged running (.inl (timeouted.trans (flagged coro passData rest at_)))
          (.inl ⟨_, sameFrames⟩)
    | explicit =>
        obtain ⟨packet, dispatch⟩ : ∃ packet,
            s.top s.core.coSelf = some (.rspRet packet coro) := by
          simp only [State.expects] at expects
          split at expects
          next packet target dispatch =>
            rw [beq_iff_eq] at expects
            exact ⟨packet, expects ▸ dispatch⟩
          next => cases expects
        have entering : Entering s.core s.core.coSelf coro := by
          cases (correlated.pending _ packet coro dispatch).2 with
          | entering entering => exact entering
          | inside inside => cases at_.symm.trans inside.at_
          | returned returned =>
              rcases returned.at_ with resumed | none
              · cases at_.symm.trans resumed
              · cases at_.symm.trans none
        have held := stored _ packet coro dispatch entering
        rw [← CoroMgr.work_ptrParam1 taken coro] at held
        rw [alone rfl] at next
        refine .entering (by rw [top_of_same same]; exact dispatch) held
          (CoroMgr.coSelf_of_stack stack) running ?_ sameFrames
        split at next
        · exact .inr next
        · exact .inl (next ▸ .timerCancel)

include taken in
/-- A coroutine that is woken in a call does nothing but return from its `Yield`. -/
theorem Waking.step (waking : Waking s.core coro) :
    Waking s'.core coro ∧ (s.core.coSelf = .co coro → s'.core.callStack = s.core.callStack) := by
  by_cases self : s.core.coSelf = .co coro
  · rcases waking with ⟨times, frames⟩ | frames
    · rw [← self] at frames
      obtain ⟨_, ran⟩ := CoroMgr.step_work frames taken
      simp only [CoroMgr.State.runFrame, CoroMgr.State.yieldRet] at ran
      split at ran
      · cases ran
      · have isCore := (Except.ok.inj ran).symm
        rw [isCore]
        refine ⟨.inr ?_, fun _ => rfl⟩
        rw [← self]
        exact Function.update_self ..
    · rw [← self] at frames
      simp [CoroMgr.machine, CoroMgr.State.step, frames] at taken
  · refine ⟨?_, fun isSelf => absurd isSelf self⟩
    rwa [Waking, CoroMgr.step_frames taken (Ne.symm self)]

include poised taken in
/-- The flag stays until the call has seen it. -/
theorem Awaits.flagged_step (created : coro < s.core.coroCount)
    (running : (s.core.coro coro).yielded = false)
    (flag : (s.core.coro coro).timeouted = true ∨ (s.core.coro coro).cancelled = true)
    (waking : Waking s.core coro) : Awaits s' coro := by
  have stays : ∀ rest, s.core.frames s.core.coSelf ≠ .yieldSuspend coro :: rest := by
    intro rest at_
    have self := (poised.of_yieldSuspend at_).1.runs
    rw [self] at at_
    rcases waking with ⟨_, frames⟩ | frames
    · cases at_.symm.trans frames
    · cases at_.symm.trans frames
  have change := CoroMgr.step_change taken
  have flags := change.flags_kept created stays
  exact .flagged (change.yielded_kept created running stays) (flag.imp flags.1 flags.2)
    (waking.step taken).1

include named taken same in
/-- A dispatch that has been accepted switches to the call. -/
theorem Awaits.entering_step {times : Nat}
    (dispatch : s.top s.core.coSelf = some (.rspRet packet coro))
    (stored : (s.core.coro coro).ptrParam1 = some packet)
    (running : (s.core.coro coro).yielded = false)
    (at_ : Cancelling coro [.coResume coro] (s.core.frames s.core.coSelf) ∨
      s.core.frames s.core.coSelf = [.coResume coro])
    (frames : s.core.frames (.co coro) = [.yieldRet coro times]) : Awaits s' coro := by
  have other : .co coro ≠ s.core.coSelf := by
    intro self
    rw [← self, frames] at at_
    rcases at_ with cancelling | switching
    · cases cancelling
    · cases switching
  have sameFrames := (CoroMgr.step_frames taken other).trans frames
  rw [← CoroMgr.work_ptrParam1 taken coro] at stored
  rw [← top_of_same same] at dispatch
  rcases at_ with cancelling | switching
  · obtain ⟨stack, still, next, _⟩ := cancelling.step running taken
    exact .entering dispatch stored (CoroMgr.coSelf_of_stack stack) still
      (next.symm.imp_right And.left) sameFrames
  · obtain ⟨offStack, entered, _, written⟩ := CoroMgr.coResume_cases switching taken
    obtain ⟨below, stack⟩ := named.callStack_cons
    have above : s'.core.callStack = .co coro :: s.core.coSelf :: below := by
      rw [entered, named.isCo_of_offStack offStack, ← stack]
    exact .handed dispatch stored above (by rw [written, Function.update_self])
      (.inl ⟨times, sameFrames⟩)

include named taken same in
/-- The dispatch waits as long as the call goes on. -/
theorem Awaits.handed_step {below : List Co} (dispatch : s.top co = some (.rspRet packet coro))
    (stored : (s.core.coro coro).ptrParam1 = some packet)
    (stack : s.core.callStack = .co coro :: co :: below)
    (at_ : s.core.frames co = [.resumeRet coro]) (waking : Waking s.core coro) :
    Awaits s' coro := by
  have self : s.core.coSelf = .co coro := CoroMgr.coSelf_of_cons stack
  have other : co ≠ s.core.coSelf := by
    rintro rfl
    exact named.self_not_below (self.symm ▸ stack) List.mem_cons_self
  rw [← CoroMgr.work_ptrParam1 taken coro] at stored
  rw [← top_of_same same] at dispatch
  obtain ⟨still, sameStack⟩ := waking.step taken
  exact .handed dispatch stored ((sameStack self).trans stack)
    ((CoroMgr.step_frames taken other).trans at_) still

end

/-! ## Every run -/

/-- What holds of packets, dispatches and calls in an undisturbed run. -/
structure Vigilant (s : State Msg) : Prop where
  sorted : Sorted s
  live : Live s
  stored : Stored s
  awaits : ∀ number coro, s.top (.co coro) = some (.callWait number coro) → Awaits s coro

theorem Vigilant.step (vigilant : Vigilant s) (correlated : Correlated protobuf s)
    (named : s.core.registry.Named) (poised : CoroMgr.Poised s.core)
    (flagged : CoroMgr.ExpiresFlagged s.core) (solicited : Solicited s label)
    (effect : Effect protobuf s label s') : Vigilant s' where
  sorted := vigilant.sorted.step effect
  live := vigilant.live.step vigilant.sorted correlated effect
  stored := vigilant.stored.step correlated named effect
  awaits number coro top := by
    rcases effect.top_cases correlated.ordered rfl top with old | ⟨_, userRuns, _, begins⟩
    · have awaits := vigilant.awaits number coro old
      have created : coro < s.core.coroCount := by
        obtain ⟨below, frames⟩ := State.top_cons.mp old
        exact correlated.grounded.framed coro (by simp [frames])
      rcases effect.waiting_cases named created old with
        ⟨choice, rfl, taken, same⟩ | ⟨userRuns, change⟩
      · cases awaits with
        | leaving leaving =>
            rcases leaving.step taken with still | popped
            · exact .leaving still
            · obtain ⟨yielded, frames⟩ := poised.asleep_of_leaving leaving taken popped
              exact .asleep yielded frames
        | asleep yielded frames =>
            exact Awaits.woken correlated named poised taken same vigilant.stored solicited
              flagged created old yielded frames
        | flagged running flag waking =>
            exact Awaits.flagged_step poised taken created running flag waking
        | entering dispatch stored runs running at_ frames =>
            subst runs
            exact Awaits.entering_step named taken same dispatch stored running at_ frames
        | handed dispatch stored stack at_ waking =>
            exact Awaits.handed_step named taken same dispatch stored stack at_ waking
      · exact awaits.stayed named correlated.grounded effect userRuns change
    · cases begins with
      | callWait found notMain taken =>
          exact .leaving
            (CoroMgr.leaving_of_yield poised.awake named userRuns found notMain taken).2

theorem vigilant_init {env : Bool} : Vigilant (State.init protobuf env) where
  sorted _ _ member := by cases member
  live _ _ _ top := by cases top
  stored _ _ _ top := by cases top
  awaits _ _ top := by cases top

theorem vigilant_of_run {env : Bool}
    (run : (machine protobuf).Run (Undisturbed protobuf) (State.init protobuf env) s) :
    Vigilant s := by
  induction run with
  | start => exact vigilant_init
  | step prior undisturbed taken ih =>
      have newIds := prior.mono fun _ _ undisturbed => undisturbed.disciplined.newId
      have free := core_run_free newIds
      have disciplined := core_run (prior.mono fun _ _ undisturbed => undisturbed.disciplined)
      exact ih.step (correlated_of_newIds newIds) (CoroMgr.named_of_run free)
        (CoroMgr.poised_of_run free) (fun _ _ _ => CoroMgr.timeouted_of_run disciplined)
        undisturbed.solicited (step_effect taken)

/-- The packet whose dispatch has resumed the running coroutine: its `HandleRpcRsp` waits
right below, the service has not recycled it, and nobody has read beyond its id. -/
structure Dispatching (s : State Msg) (number : CallId) (coro : CoroPtr) (packet : PacketPtr)
    (co : Co) : Prop where
  dispatch : s.top co = some (.rspRet packet coro)
  waits : s.core.frames co = [.resumeRet coro]
  stack : ∃ below, s.core.callStack = .co coro :: co :: below
  live : (s.received packet).recycled = false
  unread : Unread s packet
  /-- It has come since the call began. -/
  precedes : Precedes s number packet

/-- In every undisturbed run, whenever a `CallMethod` goes on after its `Yield` without a
timeout or a cancellation, the address it reads is that of the packet which is being
dispatched at that moment, and it reads it without a fault. -/
theorem received_packet_fresh {env : Bool}
    (run : (machine protobuf).Run (Undisturbed protobuf) (State.init protobuf env) s)
    (userRuns : s.core.UserRuns) (top : s.top s.core.coSelf = some (.callWait number coro))
    (unflagged : (s.core.coro coro).timeouted = false ∧ (s.core.coro coro).cancelled = false) :
    ∃ packet co, (s.core.coro coro).ptrParam1 = some packet ∧
      Dispatching s number coro packet co ∧
        ∃ next, (machine protobuf).step s .proceed = .ok next := by
  have correlated := correlated_of_newIds
    (run.mono fun _ _ undisturbed => undisturbed.disciplined.newId)
  have vigilant := vigilant_of_run run
  have self := (correlated.waiting _ _ _ top).1
  have none : s.core.frames s.core.coSelf = [] := userRuns
  cases vigilant.awaits number coro (self ▸ top) with
  | leaving leaving => exact absurd userRuns leaving.busy
  | asleep _ frames =>
      rw [← self, none] at frames
      cases frames
  | flagged _ flag =>
      rw [unflagged.1, unflagged.2] at flag
      exact absurd flag (by decide)
  | entering _ _ runs _ at_ =>
      rw [← runs, none] at at_
      rcases at_ with cancelling | switching
      · cases cancelling
      · cases switching
  | @handed co packet below dispatch stored stack at_ =>
      have live := vigilant.live co packet coro dispatch
      obtain ⟨_, unread, precedes⟩ := correlated.of_read userRuns top stored live
      refine ⟨packet, co, stored, ⟨dispatch, at_, ⟨below, stack⟩, live, unread, precedes⟩, ?_⟩
      obtain ⟨rest, frames⟩ := State.top_cons.mp top
      simp only [machine, State.step, if_pos userRuns, State.proceed, frames, State.callMethodRet,
        unflagged.1, unflagged.2, stored, State.goto, live, Bool.false_eq_true, if_false,
        Except.map]
      exact ⟨_, rfl⟩

/-- A coroutine calls `Echo` on another process, waits, and is answered. -/
def echoCall : List (Label EchoMessage) :=
  let work : Label EchoMessage := .work ⟨0, 0⟩
  [.user (.op (.createCoro 0 0)), .user (.op (.coroResume 0 .nil)), work, work, work,
    .user (.callMethod 9 echoMethod .new ⟨EchoMessage.request, some (text "hello")⟩),
    work, work, work, work,
    .user (.deliver (replyPacket echoProtobuf 9 1 .new
      ⟨EchoMessage.response, some (text "hello")⟩) (some 0)),
    work, work, work, work, work, work, .proceed]

/-- `echoCall` up to the return of the call's `Yield`. -/
theorem echo_packet_fresh :
    let s := ((machine echoProtobuf).replay
      (fun s label => decide (Undisturbed echoProtobuf s label))
      (State.init echoProtobuf false) echoCall.dropLast).get (by decide +kernel)
    s.top s.core.coSelf = some (.callWait 0 0) ∧ ∃ packet co,
      (s.core.coro 0).ptrParam1 = some packet ∧ Dispatching s 0 0 packet co ∧
        ∃ next, (machine echoProtobuf).step s .proceed = .ok next :=
  ⟨by decide +kernel, @received_packet_fresh _ _ _ _ _ false
    (.of_replay (fun _ _ passes => of_decide_eq_true passes) (Option.some_get _).symm)
    (by decide +kernel) (by decide +kernel) (by decide +kernel)⟩

/-- Coroutine 0 yields for eleven days and is cancelled. Its first call begins before `Cancel`
goes on, so that `Cancel` forgets the record of the call's timer. The call is answered, and a
second one is under way when an `Update` fires that record: the timeout handler cancels the
second call, the coroutine makes a third one, and the handler goes on to resume it. -/
def threeCalls : List (Label EchoMessage) :=
  let call : Label EchoMessage :=
    .user (.callMethod 9 echoMethod .new ⟨EchoMessage.request, some (text "hello")⟩)
  let reply : Label EchoMessage :=
    .user (.deliver (replyPacket echoProtobuf 9 1 .new
      ⟨EchoMessage.response, some (text "hello")⟩) (some 0))
  List.flatten
    [[.user (.op (.createCoro 0 0)), .user (.op (.coroResume 0 .nil))], works 3 0,
      [.user (.op (.yield 950400000000))], works 4 0, [.user (.op (.coroCancel 0))], works 6 0,
      [call], works 6 0, [reply], works 4 0, [.proceed, call], works 4 1000,
      [.proceed, .user (.op .update), .work ⟨5000, 0⟩, .work ⟨5000, 2⟩], works 6 5000,
      [.proceed, call], works 11 5000]

/-- A call goes on without a flag and reads a packet that the service has recycled. -/
theorem recycled_packet_read :
    ∃ s, (machine echoProtobuf).replay (fun s label => decide (Unforced echoProtobuf s label))
        (State.init echoProtobuf false) threeCalls = some s ∧
      (machine echoProtobuf).Run (Unforced echoProtobuf) (State.init echoProtobuf false) s ∧
      s.core.UserRuns ∧ s.top s.core.coSelf = some (.callWait 2 0) ∧
      (s.core.coro 0).timeouted = false ∧ (s.core.coro 0).cancelled = false ∧
      (s.core.coro 0).ptrParam1 = some 0 ∧ (s.received 0).recycled = true ∧
      (machine echoProtobuf).step s .proceed = .error .danglingPacket := by
  let s := ((machine echoProtobuf).replay (fun s label => decide (Unforced echoProtobuf s label))
    (State.init echoProtobuf false) threeCalls).get (by decide +kernel)
  have facts : s.core.UserRuns ∧ s.top s.core.coSelf = some (.callWait 2 0) ∧
      (s.core.coro 0).timeouted = false ∧ (s.core.coro 0).cancelled = false ∧
      (s.core.coro 0).ptrParam1 = some 0 ∧ (s.received 0).recycled = true ∧
      (machine echoProtobuf).fault s [.proceed] = some .danglingPacket := by decide +kernel
  obtain ⟨userRuns, top, timeouted, cancelled, stored, recycled, failed⟩ := facts
  exact ⟨s, (Option.some_get _).symm,
    .of_replay (fun _ _ passes => of_decide_eq_true passes) (Option.some_get _).symm,
    userRuns, top, timeouted, cancelled, stored, recycled, Machine.step_of_fault failed⟩

end LibcoRpc.Rpc
