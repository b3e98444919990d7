import LibcoRpc.CoroMgr.Locality
import LibcoRpc.CoroMgr.Settle

/-!
# Following one `Resume` and one `Yield`

A coroutine that calls `Resume` from user code is on its way into the other one
(`Entering`), below it on the call stack (`Inside`), or has control again (`Returned`), and
runs no user code meanwhile. A coroutine that calls `Yield` runs no user code either until
it is off the call stack (`Leaving`).
-/

namespace LibcoRpc.CoroMgr

variable {s s' : State} {label : Label} {caller : Co} {coro : CoroPtr} {rest frames : List Frame}

/-- `timer_.Cancel()` of a coroutine in progress, with what comes after it. -/
inductive Cancelling (coro : CoroPtr) (rest : List Frame) : List Frame → Prop where
  | timerCancel : Cancelling coro rest (.timerCancel coro :: rest)
  | onCoroCancel (data : DataPtr) :
      Cancelling coro rest (.onCoroCancel coro :: .schedCancelRet coro data :: rest)
  | schedCancelRet (data : DataPtr) : Cancelling coro rest (.schedCancelRet coro data :: rest)

/-- The code that goes on is that of the innermost interrupted call. -/
theorem step_work {frame : Frame} (at_ : s.frames s.coSelf = frame :: rest)
    (taken : machine.step s label = .ok s') :
    ∃ choice, s.runFrame choice s.coSelf rest frame = .ok s' := by
  cases label with
  | user op => simp [machine, State.step, at_] at taken
  | work choice => exact ⟨choice, by simpa [machine, State.step, at_] using taken⟩

/-- It goes on with whatever the environment contributes. -/
theorem work_step {frame : Frame} (at_ : s.frames s.coSelf = frame :: rest) (choice : Choice) :
    machine.step s (.work choice) = s.runFrame choice s.coSelf rest frame := by
  simp [machine, State.step, at_]

/-- `co_resume` gives control to a coroutine that is not on the call stack. -/
theorem coResume_cases (at_ : s.frames s.coSelf = .coResume coro :: rest)
    (taken : machine.step s label = .ok s') :
    (s.coro coro).innerCoro ∉ s.callStack ∧
      s'.callStack = (s.coro coro).innerCoro :: s.callStack ∧ s'.coro = s.coro ∧
      s'.frames = Function.update s.frames s.coSelf (.resumeRet coro :: rest) := by
  obtain ⟨_, ran⟩ := step_work at_ taken
  simp only [State.runFrame, State.coResume] at ran
  split_ifs at ran with _ onStack
  cases ran
  exact ⟨onStack, rfl, rfl, rfl⟩

/-- A `Cancel` of the timer of a coroutine that is not suspended resumes nothing. -/
theorem Cancelling.step (cancelling : Cancelling coro rest (s.frames s.coSelf))
    (running : (s.coro coro).yielded = false) (taken : machine.step s label = .ok s') :
    s'.callStack = s.callStack ∧ (s'.coro coro).yielded = false ∧
      (s'.frames s.coSelf = rest ∧ s'.ret = llbcOk ∨
        Cancelling coro rest (s'.frames s.coSelf)) ∧
      (s'.coro coro).innerCoro = (s.coro coro).innerCoro ∧
      ∀ other, other ≠ coro → s'.coro other = s.coro other := by
  generalize at_ : s.frames s.coSelf = frames at cancelling
  cases cancelling with
  | timerCancel =>
      obtain ⟨choice, ran⟩ := step_work at_ taken
      cases ran
      simp only [State.timerCancel]
      split
      · simpa [State.goto, State.returns] using running
      · split
        · simpa [State.goto, State.returns] using running
        · refine ⟨rfl, running, .inr ?_, rfl, fun _ _ => rfl⟩
          simpa [State.goto] using .onCoroCancel _
  | onCoroCancel data =>
      obtain ⟨choice, ran⟩ := step_work at_ taken
      cases ran
      simp only [State.onCoroCancel, running, Bool.false_and, Bool.false_eq_true, if_false]
      refine ⟨rfl, running, .inr ?_, rfl, fun _ _ => rfl⟩
      simpa [State.goto] using .schedCancelRet data
  | schedCancelRet data =>
      obtain ⟨choice, ran⟩ := step_work at_ taken
      simp only [State.runFrame, State.schedCancelRet] at ran
      split_ifs at ran
      all_goals
        cases ran
        simp +contextual [State.goto, State.returns, State.setData, State.release, State.setCoro,
          running]

/-! ## `Resume` -/

/-- `co_resume` enters a coroutine that `CreateCoro` has made: the main one is always on the
call stack. -/
theorem Registry.Named.isCo_of_offStack (named : s.registry.Named)
    (offStack : (s.coro coro).innerCoro ∉ s.callStack) : (s.coro coro).innerCoro = .co coro := by
  rcases named.inner coro with isMain | isCo
  · have isMain : (s.coro coro).innerCoro = .main := isMain
    exact absurd (isMain ▸ named.main_mem) offStack
  · exact isCo

/-- `Resume` has been called from user code, and has not switched yet. -/
inductive Entering (s : State) (caller : Co) (coro : CoroPtr) : Prop where
  | asked (runs : s.coSelf = caller) (at_ : s.frames caller = [.resume coro .nil .explicit])
  | cancelling (runs : s.coSelf = caller) (accepted : (s.coro coro).yielded = false)
      (at_ : Cancelling coro [.coResume coro] (s.frames caller))
  | switching (runs : s.coSelf = caller) (at_ : s.frames caller = [.coResume coro])

/-- `Resume` has switched to the coroutine. -/
structure Inside (s : State) (caller : Co) (coro : CoroPtr) : Prop where
  at_ : s.frames caller = [.resumeRet coro]
  stack : ∃ above below, s.callStack = above ++ .co coro :: caller :: below

/-- The caller of `Resume` has control again, or never lost it. -/
structure Returned (s : State) (caller : Co) (coro : CoroPtr) : Prop where
  runs : s.coSelf = caller
  at_ : s.frames caller = [.resumeRet coro] ∨ s.frames caller = []

theorem Entering.runs (entering : Entering s caller coro) : s.coSelf = caller := by
  cases entering with
  | asked runs | cancelling runs | switching runs => exact runs

/-- No user code runs on the way in. -/
theorem Entering.busy (entering : Entering s caller coro) : ¬ s.UserRuns := by
  intro userRuns
  have none : s.frames caller = [] := entering.runs ▸ userRuns
  cases entering with
  | asked _ at_ | switching _ at_ => simp [none] at at_
  | cancelling _ _ at_ =>
      rw [none] at at_
      cases at_

theorem coSelf_of_stack (same : s'.callStack = s.callStack) :
    s'.coSelf = s.coSelf := by
  rw [State.coSelf, State.coSelf, same]

theorem Entering.step (named : s.registry.Named) (entering : Entering s caller coro)
    (taken : machine.step s label = .ok s') :
    Entering s' caller coro ∨ Inside s' caller coro ∨ Returned s' caller coro := by
  cases entering with
  | asked runs at_ =>
      subst runs
      obtain ⟨choice, ran⟩ := step_work at_ taken
      cases ran
      simp only [State.resume]
      split
      · exact .inr (.inr ⟨rfl, .inr (by simp [State.goto])⟩)
      · split
        · exact .inl (.switching rfl (by simp [State.goto]))
        · refine .inl (.cancelling rfl (by simp [State.goto, State.setCoro, State.record]) ?_)
          simpa [State.goto] using .timerCancel
  | cancelling runs accepted at_ =>
      subst runs
      obtain ⟨stack, still, ⟨done, _⟩ | going, _⟩ := at_.step accepted taken
      · exact .inl (.switching (coSelf_of_stack stack) done)
      · exact .inl (.cancelling (coSelf_of_stack stack) still going)
  | switching runs at_ =>
      subst runs
      obtain ⟨offStack, entered, _, frames⟩ := coResume_cases at_ taken
      obtain ⟨rest, stack⟩ := named.callStack_cons
      refine .inr (.inl ⟨by rw [frames, Function.update_self], [], rest, ?_⟩)
      rw [entered, named.isCo_of_offStack offStack, List.nil_append, ← stack]

theorem Inside.ne_coSelf (named : s.registry.Named) (inside : Inside s caller coro) :
    caller ≠ s.coSelf := by
  obtain ⟨above, below, stack⟩ := inside.stack
  have distinct : s.callStack.Nodup := named.nodup
  obtain ⟨rest, top⟩ := named.callStack_cons
  rintro rfl
  cases above with
  | nil =>
      rw [List.nil_append] at stack
      rw [stack] at distinct top
      obtain ⟨isCo, _⟩ := List.cons.inj top
      exact (List.nodup_cons.mp distinct).1 (by simp [isCo])
  | cons head above =>
      rw [List.cons_append] at stack
      rw [stack] at distinct top
      obtain ⟨isHead, _⟩ := List.cons.inj top
      exact (List.nodup_cons.mp distinct).1 (by simp [isHead])

theorem Inside.step (named : s.registry.Named) (inside : Inside s caller coro)
    (taken : machine.step s label = .ok s') : Inside s' caller coro ∨ Returned s' caller coro := by
  have at_ : s'.frames caller = [.resumeRet coro] :=
    (step_frames taken (inside.ne_coSelf named)).trans inside.at_
  obtain ⟨above, below, stack⟩ := inside.stack
  rcases step_callStack taken with same | ⟨entered, pushed⟩ | ⟨left, popped⟩
  · exact .inl ⟨at_, above, below, same.trans stack⟩
  · exact .inl ⟨at_, entered :: above, below, by rw [pushed, stack, List.cons_append]⟩
  · rw [stack] at popped
    cases above with
    | nil =>
        obtain ⟨_, after⟩ := List.cons.inj popped
        refine .inr ⟨?_, .inl at_⟩
        rw [State.coSelf, ← after, List.headD_cons]
    | cons head above =>
        obtain ⟨_, after⟩ := List.cons.inj popped
        exact .inl ⟨at_, above, below, after.symm⟩

/-- How far a `Resume` that user code calls at `s` has come at `s'`, before it has switched
or just after. -/
inductive Approach (s : State) (caller : Co) (coro : CoroPtr) (s' : State) : Prop where
  | asked (same : s' = s)
  | refused (notYielded : (s.coro coro).yielded = false) (stack : s'.callStack = s.callStack)
      (objects : s'.coro = s.coro) (at_ : s'.frames caller = [])
  | cancelling (yielded : (s.coro coro).yielded = true) (stack : s'.callStack = s.callStack)
      (accepted : (s'.coro coro).yielded = false)
      (at_ : Cancelling coro [.coResume coro] (s'.frames caller))
  | switching (yielded : (s.coro coro).yielded = true) (stack : s'.callStack = s.callStack)
      (at_ : s'.frames caller = [.coResume coro])
  | switched (yielded : (s.coro coro).yielded = true)
      (stack : s'.callStack = (s.coro coro).innerCoro :: s.callStack)

/-- The coroutine itself apart, `s'` has the objects of `s`. -/
structure Beside (s : State) (coro : CoroPtr) (s' : State) : Prop where
  inner : (s'.coro coro).innerCoro = (s.coro coro).innerCoro
  others : ∀ other, other ≠ coro → s'.coro other = s.coro other

theorem Beside.trans {middle : State} (first : Beside s coro middle)
    (second : Beside middle coro s') : Beside s coro s' where
  inner := second.inner.trans first.inner
  others other different := (second.others other different).trans (first.others other different)

/-- `Resume` writes to no other coroutine, and runs none. -/
theorem Approach.step {start : State} (runs : start.coSelf = caller)
    (at_ : start.frames caller = [.resume coro .nil .explicit])
    (approach : Approach start caller coro s) (beside : Beside start coro s)
    (own : s.callStack = start.callStack) {choice : Choice}
    (taken : machine.step s (.work choice) = .ok s') :
    Approach start caller coro s' ∧ Beside start coro s' := by
  have self : s.coSelf = caller := (coSelf_of_stack own).trans runs
  cases approach with
  | asked same =>
      subst same
      rw [← runs] at at_
      obtain ⟨choice, ran⟩ := step_work at_ taken
      cases ran
      simp only [State.resume]
      split
      next refused =>
        refine ⟨.refused (by simpa using refused) rfl rfl (by simp [State.goto, runs]), rfl, ?_⟩
        exact fun _ _ => rfl
      next accepted =>
        have yielded : (s.coro coro).yielded = true := by simpa using accepted
        have written : ∀ frames, Beside s coro
            (((s.record (.ended coro (s.coro coro).yieldTimes .explicit .nil)).setCoro coro
              { s.coro coro with
                resumeTimes := (s.coro coro).resumeTimes + 1, yielded := false,
                passData := .nil }).goto s.coSelf frames) := fun frames =>
          ⟨by simp [State.goto, State.setCoro], fun other different => by
            simp [State.goto, State.setCoro, State.record, different]⟩
        split
        · exact ⟨.switching yielded rfl (by simp [State.goto, runs]), written _⟩
        · refine ⟨.cancelling yielded rfl (by simp [State.goto, State.setCoro]) ?_, written _⟩
          simpa [State.goto, runs] using .timerCancel
  | refused _ _ _ none =>
      rw [← self] at none
      simp [machine, State.step, none] at taken
  | cancelling yielded stack accepted cancelling =>
      rw [← self] at cancelling
      obtain ⟨same, still, next, inner, others⟩ := cancelling.step accepted taken
      rw [self] at next
      refine ⟨?_, beside.trans ⟨inner, others⟩⟩
      rcases next with ⟨done, _⟩ | going
      · exact .switching yielded (same.trans stack) done
      · exact .cancelling yielded (same.trans stack) still going
  | switching yielded stack switching =>
      rw [← self] at switching
      obtain ⟨_, entered, objects, _⟩ := coResume_cases switching taken
      refine ⟨.switched yielded (by rw [entered, ← beside.inner, ← own]), beside.trans ⟨?_, ?_⟩⟩
      · rw [objects]
      · exact fun _ _ => by rw [objects]
  | switched _ stack =>
      rw [own] at stack
      exact absurd stack (by simp)

/-! ## `Yield` -/

/-- `Yield` has been accepted, and has not switched yet. -/
structure Leaving (s : State) (coro : CoroPtr) : Prop where
  runs : s.coSelf = .co coro
  running : (s.coro coro).yielded = false
  at_ : (∃ dueTime, Cancelling coro [.timerSchedule coro dueTime, .yieldSuspend coro]
      (s.frames (.co coro))) ∨
    (∃ dueTime, s.frames (.co coro) = [.timerSchedule coro dueTime, .yieldSuspend coro]) ∨
    s.frames (.co coro) = [.yieldSuspend coro]

theorem Leaving.busy (leaving : Leaving s coro) : ¬ s.UserRuns := by
  intro userRuns
  have none : s.frames (.co coro) = [] := leaving.runs ▸ userRuns
  rcases leaving.at_ with ⟨_, at_⟩ | ⟨_, at_⟩ | at_
  · rw [none] at at_
    cases at_
  · simp [none] at at_
  · simp [none] at at_

theorem Leaving.step (leaving : Leaving s coro) (taken : machine.step s label = .ok s') :
    Leaving s' coro ∨ s.callStack = .co coro :: s'.callStack := by
  obtain ⟨runs, running, at_⟩ := leaving
  rw [← runs] at at_
  rcases at_ with ⟨dueTime, at_⟩ | ⟨dueTime, at_⟩ | at_
  · obtain ⟨stack, still, ⟨done, _⟩ | going, _⟩ := at_.step running taken
    · refine .inl ⟨(coSelf_of_stack stack).trans runs, still, .inr (.inl ⟨dueTime, ?_⟩)⟩
      rw [← runs, done]
    · refine .inl ⟨(coSelf_of_stack stack).trans runs, still, .inl ⟨dueTime, ?_⟩⟩
      rwa [← runs]
  · obtain ⟨choice, ran⟩ := step_work at_ taken
    cases ran
    simp only [State.timerSchedule]
    split
    · exact .inl ⟨runs, running, .inr (.inr (by simp [State.goto, runs]))⟩
    · refine .inl ⟨?_, ?_, .inr (.inr (by simp [State.goto, runs]))⟩
      · split <;> exact runs
      · split <;>
          simp [State.goto, State.returns, State.setCoro, State.setData, State.release, running]
  · obtain ⟨choice, ran⟩ := step_work at_ taken
    obtain ⟨top, below, rest, stack, rfl⟩ := State.coYield_cases ran
    have stack : s.callStack = top :: below :: rest := stack
    have isTop : top = .co coro := by simpa [State.coSelf, stack] using runs
    exact .inr (isTop ▸ stack)

/-- `Yield` of the running coroutine is accepted. -/
theorem leaving_of_yield (awake : ∀ coro, .co coro ∈ s.callStack → (s.coro coro).yielded = false)
    (named : s.registry.Named) (userRuns : s.UserRuns) {timeout : Int}
    (found : s.getCurCoro = .ok (some coro))
    (notMain : (s.coro coro).isMainCoro = false)
    (taken : machine.step s (.user (.coroYield coro timeout)) = .ok s') :
    s.coSelf = .co coro ∧ Leaving s' coro := by
  have self : s.coSelf = .co coro := by
    rcases getCurCoro_cases named found with ⟨_, isMain⟩ | self
    · simp [Coro.isMainCoro, isMain] at notMain
    · exact self
  obtain ⟨rest, stack⟩ := named.callStack_cons
  have onStack : .co coro ∈ s.callStack := by simp [stack, self]
  have frames : s.frames s.coSelf = [] := userRuns
  refine ⟨self, ?_⟩
  simp only [machine, State.step, frames, State.userStep, State.coroYield, awake coro onStack,
    Bool.false_eq_true, if_false, found, ne_eq, not_true_eq_false, notMain] at taken
  split_ifs at taken
  cases taken
  refine ⟨self, ?_, .inl ⟨actualTimeout timeout, ?_⟩⟩
  · simp [State.goto, State.setCoro]
  · rw [self]
    simpa [State.goto] using .timerCancel

end LibcoRpc.CoroMgr
