import LibcoRpc.CoroMgr.Change

/-!
# The frames of `Stop`

`Stop` runs arbitrary coroutines between two turns of its loop, and its own calls wait on
the call stack meanwhile. `Pushes` says what a frame of the manager can put in its place, as
far as the calls of `Stop` are concerned; `Halts` says that those calls are only ever
waiting in a coroutine that is on the call stack. No assumption is made about ids, timeouts
or what user code does.
-/

namespace LibcoRpc.CoroMgr

open LibcoRpc.Std

variable {s s' : State} {label : Label} {frame : Frame} {rest : List Frame}

/-- The frames of `RpcCoroMgr::Stop` itself. -/
def Frame.stops : Frame → Bool
  | .stopLoop _ => true
  | .stopReset => true
  | _ => false

/-- The frame at which `Coro::Yield` switches. -/
def Frame.suspends : Frame → Bool
  | .yieldSuspend _ => true
  | _ => false

/-- Neither of the two. -/
def Frame.plainCall (frame : Frame) : Bool := !frame.stops && !frame.suspends

/-- The objects a call has pointers to. -/
def Frame.coros : Frame → List CoroPtr
  | .resume coro _ _ => [coro]
  | .coResume coro => [coro]
  | .resumeRet coro => [coro]
  | .timerCancel coro => [coro]
  | .onCoroCancel coro => [coro]
  | .schedCancelRet coro _ => [coro]
  | .cancel coro => [coro]
  | .timerSchedule coro _ => [coro]
  | .yieldSuspend coro => [coro]
  | .yieldRet coro _ => [coro]
  | .onCoroTimeout coro => [coro]
  | .recycle pending => pending
  | .destroy coro => [coro]
  | .destroyTimer coro => [coro]
  | .stopLoop (some (_, coro)) => [coro]
  | _ => []

/-- Where code gets a pointer from, if not from the call it goes on with. -/
inductive Stored (s : State) (coro : CoroPtr) : Prop where
  | live (live : s.live coro = true)
  | map {coroId : Int} (found : s.coros.find coroId = some coro)
  | waiting {coroId : Int} (found : s.waitingForRecycleCoros.find coroId = some coro)
  | timer {data : DataPtr} (validate : (s.data data).validate = true)
      (owner : (s.data data).timer = coro)

/-- New calls get their pointers from the call that makes them or from what is stored. -/
def Traced (s : State) (frame : Frame) (made : List Frame) : Prop :=
  ∀ call ∈ made, ∀ coro ∈ call.coros, coro ∈ frame.coros ∨ Stored s coro

/-- What the innermost call puts in its own place. -/
inductive Pushes (s : State) : Frame → List Frame → Prop where
  /-- Calls other than those of `Stop` make no calls of `Stop`. -/
  | plain {frame : Frame} {pushed : List Frame} (other : frame.stops = false)
      (quiet : pushed.all Frame.plainCall = true) : Pushes s frame pushed
  | reset : Pushes s .stopReset []
  /-- The loop is over. -/
  | ends : Pushes s (.stopLoop none) [.schedUpdate, .updateRecycle, .stopReset]
  | skips {coroId : Int} {coro : CoroPtr} (found : s.coros.find coroId = some coro)
      (idle : ((s.coro coro).yielded && !(s.coro coro).isMainCoro) = false) :
      Pushes s (.stopLoop (some (coroId, coro))) [.stopLoop (s.coros.next coroId)]
  | cancels {coroId : Int} {coro : CoroPtr} (found : s.coros.find coroId = some coro)
      (yielded : (s.coro coro).yielded = true) :
      Pushes s (.stopLoop (some (coroId, coro))) [.cancel coro, .stopLoop (s.coros.next coroId)]

/-- A turn of the loop in `Stop` goes on with the next coroutine, or leaves the loop. -/
theorem stopLoop_pushes {self : Co} {position : Option (Int × CoroPtr)}
    (ran : s.stopLoop self rest position = .ok s') :
    ∃ pushed, s'.frames self = pushed ++ rest ∧ Pushes s (.stopLoop position) pushed ∧
      Traced s (.stopLoop position) pushed := by
  have moved : ∀ coroId, ∀ coro ∈ (Frame.stopLoop (s.coros.next coroId)).coros, Stored s coro := by
    intro coroId coro member
    cases next : s.coros.next coroId with
    | none => simp [next, Frame.coros] at member
    | some entry =>
        rw [next, Frame.coros, List.mem_singleton] at member
        exact .map (member ▸ OrdMap.find_of_next next)
  cases position with
  | none =>
      cases ran
      exact ⟨[.schedUpdate, .updateRecycle, .stopReset], Function.update_self .., .ends,
        by simp [Traced, Frame.coros]⟩
  | some entry =>
      simp only [State.stopLoop] at ran
      split at ran
      · cases ran
      next found =>
        have found := Decidable.not_not.mp found
        split at ran
        next cancels =>
          cases ran
          rw [Bool.and_eq_true] at cancels
          refine ⟨[.cancel entry.2, .stopLoop (s.coros.next entry.1)], Function.update_self ..,
            .cancels found cancels.1, ?_⟩
          intro call member coro has
          rcases List.mem_pair.mp member with rfl | rfl
          · exact .inl has
          · exact .inr (moved entry.1 coro has)
        next idle =>
          cases ran
          refine ⟨[.stopLoop (s.coros.next entry.1)], Function.update_self ..,
            .skips found (Bool.eq_false_iff.mpr idle), ?_⟩
          intro call member coro has
          rw [List.mem_singleton.mp member] at has
          exact .inr (moved entry.1 coro has)

/-- The code of a frame replaces it and leaves the frames below alone. -/
theorem runFrame_pushes {self : Co} {choice : Choice}
    (ran : s.runFrame choice self rest frame = .ok s') :
    ∃ pushed, s'.frames self = pushed ++ rest ∧ Pushes s frame pushed ∧ Traced s frame pushed := by
  -- Every branch of the code ends in a `goto`.
  have reads : ∀ (t : State) (pushed : List Frame), frame.stops = false →
      pushed.all Frame.plainCall = true → Traced s frame pushed →
      ∃ made, (t.goto self (pushed ++ rest)).frames self = made ++ rest ∧ Pushes s frame made ∧
        Traced s frame made :=
    fun t pushed other quiet traced => ⟨pushed, Function.update_self .., .plain other quiet, traced⟩
  -- Most of it keeps to the pointers it has.
  have plain : ∀ (t : State) (pushed : List Frame), frame.stops = false →
      pushed.all Frame.plainCall = true →
      (∀ call ∈ pushed, ∀ coro ∈ call.coros, coro ∈ frame.coros) →
      ∃ made, (t.goto self (pushed ++ rest)).frames self = made ++ rest ∧ Pushes s frame made ∧
        Traced s frame made :=
    fun t pushed other quiet has =>
      reads t pushed other quiet fun call member coro holds => .inl (has call member coro holds)
  cases frame with
  | resume coro passData cause =>
      cases ran
      simp only [State.resume]
      split
      · exact plain _ [] rfl rfl (by simp)
      · split
        · exact plain _ [.coResume coro] rfl rfl (by simp [Frame.coros])
        · exact plain _ [.timerCancel coro, .coResume coro] rfl rfl (by simp [Frame.coros])
  | coResume coro =>
      simp only [State.runFrame, State.coResume] at ran
      split_ifs at ran
      cases ran
      exact plain s [.resumeRet coro] rfl rfl (by simp [Frame.coros])
  | resumeRet | cancelRet =>
      cases ran
      exact plain _ [] rfl rfl (by simp)
  | timerCancel coro =>
      cases ran
      simp only [State.timerCancel]
      split
      · exact plain _ [] rfl rfl (by simp)
      next data _ =>
        split
        · exact plain _ [] rfl rfl (by simp)
        · exact plain _ [.onCoroCancel coro, .schedCancelRet coro data] rfl rfl
            (by simp [Frame.coros])
  | onCoroCancel coro =>
      cases ran
      simp only [State.onCoroCancel]
      split
      · exact plain _ [.resume coro .nil .cancel] rfl rfl (by simp [Frame.coros])
      · exact plain _ [] rfl rfl (by simp)
  | schedCancelRet coro data =>
      simp only [State.runFrame, State.schedCancelRet] at ran
      split_ifs at ran
      all_goals
        cases ran
        exact plain _ [] rfl rfl (by simp)
  | cancel coro =>
      cases ran
      simp only [State.cancel]
      split
      · exact plain _ [] rfl rfl (by simp)
      · exact plain _ [.timerCancel coro, .cancelRet] rfl rfl (by simp [Frame.coros])
  | timerSchedule coro dueTime =>
      cases ran
      simp only [State.timerSchedule]
      split
      · exact plain _ [] rfl rfl (by simp)
      · exact plain _ [] rfl rfl (by simp)
  | yieldSuspend coro =>
      simp only [State.runFrame, State.yieldSuspend] at ran
      obtain ⟨_, _, _, _, rfl⟩ := State.coYield_cases ran
      exact plain s [.yieldRet coro (s.coro coro).yieldTimes] rfl rfl (by simp [Frame.coros])
  | yieldRet coro times =>
      simp only [State.runFrame, State.yieldRet] at ran
      split at ran
      · cases ran
      · cases ran
        exact plain _ [] rfl rfl (by simp)
  | schedUpdate =>
      cases ran
      simp only [State.schedUpdate]
      split
      · exact plain _ [] rfl rfl (by simp)
      · exact plain _ [.schedLoop choice.now] rfl rfl (by simp [Frame.coros])
  | schedLoop now =>
      simp only [State.runFrame, State.schedLoop] at ran
      split_ifs at ran
      all_goals cases ran
      · exact plain _ [] rfl rfl (by simp)
      · exact plain _ [] rfl rfl (by simp)
      · exact plain _ [.schedLoop now] rfl rfl (by simp [Frame.coros])
      next validate =>
        refine reads _ [.onCoroTimeout _, .schedUpdateRet now choice.top] rfl rfl ?_
        simpa [Traced, Frame.coros] using .timer (by simpa using validate) rfl
  | onCoroTimeout coro =>
      simp only [State.runFrame, State.onCoroTimeout] at ran
      split at ran
      · cases ran
      · cases ran
        exact plain _ [.timerCancel coro, .resume coro .nil .expiry] rfl rfl
          (by simp [Frame.coros])
  | schedUpdateRet now data =>
      cases ran
      simp only [State.schedUpdateRet]
      split
      · exact plain _ [.schedLoop now] rfl rfl (by simp [Frame.coros])
      · exact plain _ [.schedLoop now] rfl rfl (by simp [Frame.coros])
  | updateRecycle =>
      cases ran
      simp only [State.updateRecycle]
      split
      · exact plain _ [] rfl rfl (by simp)
      · refine reads _ [.recycle s.waitingForRecycleCoros.values] rfl rfl ?_
        intro frame member coro has
        rw [List.mem_singleton.mp member, Frame.coros, OrdMap.mem_values_iff] at has
        exact .inr (.waiting has.choose_spec)
  | recycle pending =>
      cases ran
      cases pending with
      | nil => exact plain _ [] rfl rfl (by simp)
      | cons coro pending =>
          have later : ∀ other ∈ pending, other = coro ∨ other ∈ pending := fun _ => .inr
          simp only [State.recycle]
          split
          · exact plain _ [.timerCancel coro, .destroy coro, .recycle pending] rfl rfl
              (by simpa [Frame.coros] using later)
          · exact plain _ [.destroy coro, .recycle pending] rfl rfl
              (by simpa [Frame.coros] using later)
  | destroy coro =>
      cases ran
      simp only [State.destroy]
      split
      · exact plain _ [] rfl rfl (by simp)
      · exact plain _ [.timerCancel coro, .destroyTimer coro] rfl rfl (by simp [Frame.coros])
  | destroyTimer coro =>
      simp only [State.runFrame, State.destroyTimer] at ran
      split at ran
      · cases ran
      · cases ran
        exact plain _ [] rfl rfl (by simp)
  | stopLoop position => exact stopLoop_pushes ran
  | stopReset =>
      cases ran
      exact ⟨[], Function.update_self .., .reset, by simp [Traced]⟩

/-- The calls that an operation of user code makes. -/
inductive Calls (s : State) : Op → List Frame → Prop where
  | plain {op : Op} {frames : List Frame} (quiet : frames.all Frame.plainCall = true) :
      Calls s op frames
  | yields {op : Op} {coro : CoroPtr} {dueTime : Int} :
      Calls s op [.timerCancel coro, .timerSchedule coro dueTime, .yieldSuspend coro]
  | stop : Calls s .stop [.stopLoop s.coros.first]

/-- So do the calls of user code, which has pointers to live objects. -/
def Supplied (s : State) (calls : List Frame) : Prop :=
  ∀ call ∈ calls, ∀ coro ∈ call.coros, Stored s coro

/-- `Yield` returns, or begins a suspension of a coroutine whose pointer is stored somewhere. -/
theorem coroYield_calls {self : Co} {coro : CoroPtr} {timeout : Int} {op : Op}
    (userRuns : s.frames self = []) (stored : Stored s coro)
    (taken : s.coroYield self coro timeout = .ok s') :
    Calls s op (s'.frames self) ∧ Supplied s (s'.frames self) := by
  have returned : ∀ value, Calls s op ((s.returns value).frames self) ∧
      Supplied s ((s.returns value).frames self) := by
    intro value
    rw [State.returns, userRuns]
    exact ⟨.plain rfl, by simp [Supplied]⟩
  simp only [State.coroYield] at taken
  split at taken
  · cases taken
    exact returned _
  · split at taken
    · cases taken
    · cases taken
    · split_ifs at taken
      · cases taken
        exact returned _
      · cases taken
        exact returned _
      · cases taken
        rw [goto_frames]
        exact ⟨.yields, by simpa [Supplied, Frame.coros] using stored⟩

/-- What each operation calls, with pointers that are stored somewhere. -/
theorem userStep_calls {self : Co} {op : Op} (userRuns : s.frames self = [])
    (taken : s.userStep self op = .ok s') :
    Calls s op (s'.frames self) ∧ Supplied s (s'.frames self) := by
  have plain : ∀ (t : State) (frame : Frame) (frames : List Frame),
      (frame :: frames).all Frame.plainCall = true → Supplied s (frame :: frames) →
      Calls s op ((t.goto self (frame :: frames)).frames self) ∧
        Supplied s ((t.goto self (frame :: frames)).frames self) := by
    intro t frame frames quiet supplied
    rw [goto_frames]
    exact ⟨.plain quiet, supplied⟩
  have same : s'.frames = s.frames →
      Calls s op (s'.frames self) ∧ Supplied s (s'.frames self) := by
    intro same
    rw [same, userRuns]
    exact ⟨.plain rfl, by simp [Supplied]⟩
  cases op with
  | start =>
      simp only [State.userStep, State.start] at taken
      split_ifs at taken
      all_goals
        cases taken
        exact same rfl
  | createCoro entry args =>
      cases taken
      exact same rfl
  | setEntry coro entry =>
      simp only [State.userStep, State.setEntry] at taken
      split_ifs at taken
      all_goals
        cases taken
        exact same rfl
  | setArgs coro args =>
      simp only [State.userStep, State.setArgs] at taken
      split_ifs at taken
      all_goals
        cases taken
        exact same rfl
  | setPtrParam1 coro param =>
      simp only [State.userStep] at taken
      split_ifs at taken
      cases taken
      exact same rfl
  | coroYield coro timeout =>
      simp only [State.userStep] at taken
      split_ifs at taken with live
      exact coroYield_calls userRuns (.live live) taken
  | coroResume coro passData =>
      simp only [State.userStep] at taken
      split_ifs at taken with live
      cases taken
      exact plain _ _ _ rfl (by simpa [Supplied, Frame.coros] using .live live)
  | coroCancel coro =>
      simp only [State.userStep] at taken
      split_ifs at taken with live
      cases taken
      exact plain _ _ _ rfl (by simpa [Supplied, Frame.coros] using .live live)
  | yield timeout =>
      simp only [State.userStep] at taken
      split at taken
      · cases taken
      · cases taken
      next current =>
        exact coroYield_calls userRuns (.map (find_of_getCurCoro current)) taken
  | resume coroId passData =>
      cases taken
      simp only [State.withCoro] at same ⊢
      split at same
      · exact same rfl
      next found => exact plain _ _ _ rfl (by simpa [Supplied, Frame.coros] using .map found)
  | cancel coroId =>
      cases taken
      simp only [State.withCoro] at same ⊢
      split at same
      · exact same rfl
      next found => exact plain _ _ _ rfl (by simpa [Supplied, Frame.coros] using .map found)
  | update =>
      cases taken
      exact plain _ _ _ rfl (by simp [Supplied, Frame.coros])
  | stop =>
      cases taken
      rw [goto_frames]
      refine ⟨.stop, ?_⟩
      intro call member coro has
      rw [List.mem_singleton.mp member] at has
      cases first : s.coros.first with
      | none => simp [first, Frame.coros] at has
      | some entry =>
          rw [first, Frame.coros, List.mem_singleton] at has
          exact .map (has ▸ OrdMap.find_of_first first)
  | entryReturn =>
      refine same ?_
      simp only [State.userStep, State.entryReturn] at taken
      split at taken
      · cases taken
      next coro _ =>
        obtain ⟨_, _, _, _, rfl⟩ := State.coYield_cases taken
        simp only [State.setInner, State.record, State.maskWillRecycle]
        split <;> rfl

/-- What a step makes of the calls of the running coroutine: user code makes a call, or the
innermost call goes on. -/
inductive Proceeds (s s' : State) : Label → Prop where
  | asks {op : Op} (userRuns : s.UserRuns) (calls : Calls s op (s'.frames s.coSelf))
      (supplied : Supplied s (s'.frames s.coSelf)) : Proceeds s s' (.user op)
  | works {choice : Choice} {frame : Frame} {rest pushed : List Frame}
      (at_ : s.frames s.coSelf = frame :: rest) (next : s'.frames s.coSelf = pushed ++ rest)
      (pushes : Pushes s frame pushed) (traced : Traced s frame pushed) :
      Proceeds s s' (.work choice)

/-- Every step proceeds so. -/
theorem step_proceeds (taken : machine.step s label = .ok s') : Proceeds s s' label := by
  cases label with
  | user op =>
      simp only [machine, State.step] at taken
      split at taken
      next userRuns =>
        obtain ⟨calls, supplied⟩ := userStep_calls userRuns taken
        exact .asks userRuns calls supplied
      next => cases taken
  | work choice =>
      simp only [machine, State.step] at taken
      split at taken
      next => cases taken
      next frame rest at_ =>
        obtain ⟨pushed, next, pushes, traced⟩ := runFrame_pushes taken
        exact .works at_ next pushes traced

/-! ## Where the calls of `Stop` wait -/

theorem Frame.of_plainCall {frame : Frame} (plain : frame.plainCall = true) :
    frame.stops = false ∧ frame.suspends = false := by
  simpa [Frame.plainCall] using plain

/-- `Yield` switches in the outermost of these calls, if at all. -/
def SuspendsLast (frames : List Frame) : Prop :=
  ∀ before coro after, frames = before ++ .yieldSuspend coro :: after → after = []

theorem SuspendsLast.tail (last : SuspendsLast (frame :: rest)) : SuspendsLast rest :=
  fun before coro after at_ => last (frame :: before) coro after (by rw [at_, List.cons_append])

theorem SuspendsLast.append (last : SuspendsLast rest) (pushed : List Frame)
    (others : ∀ frame ∈ pushed, frame.suspends = false) : SuspendsLast (pushed ++ rest) := by
  induction pushed with
  | nil => exact last
  | cons first pushed ih =>
      intro before coro after at_
      cases before with
      | nil =>
          cases at_
          exact absurd (others _ List.mem_cons_self) (by simp [Frame.suspends])
      | cons _ before =>
          rw [List.cons_append, List.cons_append] at at_
          exact ih (fun frame member => others frame (List.mem_cons_of_mem _ member)) before coro
            after (List.cons.inj at_).2

theorem suspendsLast_nil : SuspendsLast [] := fun _ _ _ at_ => by simp at at_

theorem suspendsLast_one {coro : CoroPtr} : SuspendsLast [.yieldSuspend coro] := by
  intro before other after at_
  cases before with
  | nil =>
      cases at_
      rfl
  | cons _ before => simp at at_

/-- Code of the manager begins no suspension. -/
theorem Pushes.suspends {pushed : List Frame} (pushes : Pushes s frame pushed) :
    ∀ made ∈ pushed, made.suspends = false := by
  cases pushes with
  | plain _ quiet =>
      exact fun made member => (Frame.of_plainCall (List.all_eq_true.mp quiet made member)).2
  | reset | ends | skips | cancels => simp [Frame.suspends]

/-- Among the calls that an operation makes, the switch of `Yield` is the outermost. -/
theorem Calls.suspendsLast {op : Op} {frames : List Frame} (calls : Calls s op frames) :
    SuspendsLast frames := by
  cases calls with
  | plain quiet =>
      rw [← List.append_nil frames]
      exact suspendsLast_nil.append _ fun frame member =>
        (Frame.of_plainCall (List.all_eq_true.mp quiet frame member)).2
  | yields =>
      exact suspendsLast_one.append [.timerCancel _, .timerSchedule _ _] (by simp [Frame.suspends])
  | stop => exact suspendsLast_nil.append [.stopLoop _] (by simp [Frame.suspends])

/-- Calls of `Stop` wait only in coroutines of the call stack, at whose bottom is the main
one. -/
structure Halts (s : State) : Prop where
  nodup : s.callStack.Nodup
  mainLast : s.callStack.getLast? = some .main
  /-- `Yield` is called from user code. -/
  last : ∀ co, SuspendsLast (s.frames co)
  parked : ∀ co, co ∉ s.callStack → ∀ frame ∈ s.frames co, frame.stops = false

namespace Halts

/-- The running coroutine is on the call stack. -/
theorem coSelf_mem (halts : Halts s) : s.coSelf ∈ s.callStack := by
  have last := halts.mainLast
  cases stack : s.callStack with
  | nil => simp [stack] at last
  | cons top below => simp [State.coSelf, stack]

/-- A coroutine that leaves the call stack has no call of `Stop` in progress. -/
theorem leaves (halts : Halts s) (change : Change s s') {top : Co}
    (popped : s.callStack = top :: s'.callStack) :
    top = s.coSelf ∧ ∀ frame ∈ s'.frames s.coSelf, frame.stops = false := by
  have isTop : top = s.coSelf := by simp [State.coSelf, popped]
  refine ⟨isTop, ?_⟩
  have stayed : s'.callStack ≠ s.callStack := by
    intro same
    have length := congrArg List.length popped
    rw [same] at length
    simp at length
  cases change with
  | calm calm => exact absurd calm.stack stayed
  | resumed _ _ stack | yields _ _ _ _ stack | arms _ stack | fires _ _ _ stack
  | rearms _ _ stack | makes _ stack => exact absurd stack stayed
  | switched _ _ stack =>
      have length := congrArg List.length popped
      rw [stack, List.length_cons, List.length_cons] at length
      omega
  | @suspends coro rest _ _ at_ _ _ _ _ _ _ _ frames =>
      have none := halts.last _ [] coro rest at_
      rw [frames, Function.update_self, none]
      simp [Frame.stops]
  | finishes userRuns _ _ _ _ _ _ _ frames =>
      have none : s.frames s.coSelf = [] := userRuns
      rw [frames, none]
      simp

/-- A step keeps the switch of `Yield` outermost. -/
theorem last_step (halts : Halts s) (taken : machine.step s label = .ok s') (co : Co) :
    SuspendsLast (s'.frames co) := by
  by_cases self : co = s.coSelf
  · subst self
    cases step_proceeds taken with
    | asks _ calls => exact calls.suspendsLast
    | works at_ next pushes =>
        have last := halts.last s.coSelf
        rw [at_] at last
        rw [next]
        exact last.tail.append _ pushes.suspends
  · rw [step_frames taken self]
    exact halts.last co

/-- A coroutine that leaves the call stack is not inside `Stop`. -/
theorem parked_step (halts : Halts s) (taken : machine.step s label = .ok s') (co : Co)
    (offStack : co ∉ s'.callStack) : ∀ frame ∈ s'.frames co, frame.stops = false := by
  by_cases onStack : co ∈ s.callStack
  · -- The coroutine has just left the call stack.
    rcases step_callStack taken with same | ⟨entered, pushed⟩ | ⟨top, popped⟩
    · exact absurd (same ▸ onStack) offStack
    · exact absurd (pushed ▸ List.mem_cons_of_mem _ onStack) offStack
    · obtain ⟨isTop, none⟩ := halts.leaves (step_change taken) popped
      rw [popped] at onStack
      rcases List.mem_cons.mp onStack with isCo | below
      · rw [isCo, isTop]
        exact none
      · exact absurd below offStack
  · have other : co ≠ s.coSelf := fun self => onStack (self ▸ halts.coSelf_mem)
    rw [step_frames taken other]
    exact halts.parked co onStack

theorem step (halts : Halts s) (taken : machine.step s label = .ok s') : Halts s' where
  nodup := by
    cases step_change taken with
    | calm calm => exact calm.stack ▸ halts.nodup
    | resumed _ _ stack | yields _ _ _ _ stack | arms _ stack | fires _ _ _ stack
    | rearms _ _ stack | makes _ stack => exact stack ▸ halts.nodup
    | switched _ offStack stack => exact stack ▸ List.nodup_cons.mpr ⟨offStack, halts.nodup⟩
    | suspends _ before stack | finishes _ before stack =>
        exact stack ▸ (List.nodup_cons.mp (before ▸ halts.nodup)).2
  mainLast := by
    have last := halts.mainLast
    cases step_change taken with
    | calm calm => exact calm.stack ▸ last
    | resumed _ _ stack | yields _ _ _ _ stack | arms _ stack | fires _ _ _ stack
    | rearms _ _ stack | makes _ stack => exact stack ▸ last
    | switched _ _ stack =>
        rw [stack, List.getLast?_cons, last]
        rfl
    | suspends _ before stack | finishes _ before stack =>
        rw [before, List.getLast?_cons_cons] at last
        rw [stack, last]
  last := halts.last_step taken
  parked := halts.parked_step taken

end Halts

theorem halts_init {env : Bool} : Halts (State.init env) where
  nodup := by simp [State.init]
  mainLast := rfl
  last _ := suspendsLast_nil
  parked _ _ _ member := by cases member

/-- This holds in every run, whatever user code does. -/
theorem halts_of_run {Allowed : State → Label → Prop} {env : Bool}
    (run : machine.Run Allowed (State.init env) s) : Halts s :=
  run.invariant Halts halts_init fun _ _ _ halts _ taken => halts.step taken

/-! ## No `Stop` in progress -/

/-- No coroutine is inside `Stop`. -/
def Unstopped (s : State) : Prop := ∀ co, ∀ frame ∈ s.frames co, frame.stops = false

/-- When user code of the main coroutine runs, no `Stop` is in progress. -/
theorem Halts.unstopped (halts : Halts s) (isMain : s.coSelf = .main) (userRuns : s.UserRuns) :
    Unstopped s := by
  have alone : s.callStack = [.main] := by
    have nodup := halts.nodup
    have last := halts.mainLast
    cases stack : s.callStack with
    | nil => simp [stack] at last
    | cons top below =>
        have isTop : top = .main := by simpa [State.coSelf, stack] using isMain
        rw [stack, isTop] at nodup last
        cases below with
        | nil => rw [isTop]
        | cons _ _ =>
            rw [List.getLast?_cons_cons] at last
            exact absurd (List.mem_of_getLast? last) (List.nodup_cons.mp nodup).1
  intro co
  by_cases self : co = s.coSelf
  · have none : s.frames s.coSelf = [] := userRuns
    rw [self, none]
    simp
  · refine halts.parked co ?_
    rw [alone, ← isMain]
    simpa using self

/-- It stays so until `Stop` is called. -/
theorem Unstopped.step (unstopped : Unstopped s) (taken : machine.step s label = .ok s')
    (notStop : label ≠ .user .stop) : Unstopped s' := by
  intro co
  by_cases self : co = s.coSelf
  · subst self
    cases step_proceeds taken with
    | asks _ calls =>
        generalize s'.frames s.coSelf = frames at calls
        cases calls with
        | plain quiet =>
            exact fun frame member =>
              (Frame.of_plainCall (List.all_eq_true.mp quiet frame member)).1
        | yields => simp [Frame.stops]
        | stop => exact absurd rfl notStop
    | works at_ next pushes =>
        have quiet := unstopped s.coSelf
        rw [at_] at quiet
        rw [next]
        intro frame member
        rcases List.mem_append.mp member with made | old
        · have other := quiet _ List.mem_cons_self
          cases pushes with
          | plain _ calls => exact (Frame.of_plainCall (List.all_eq_true.mp calls frame made)).1
          | reset | ends | skips | cancels => cases other
        · exact quiet frame (List.mem_cons_of_mem _ old)
  · rw [step_frames taken self]
    exact unstopped co

end LibcoRpc.CoroMgr
