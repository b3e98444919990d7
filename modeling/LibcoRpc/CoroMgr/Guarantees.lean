import LibcoRpc.CoroMgr.Clock

/-!
# What user code can rely on

The invariant `Core` read off at the moments when user code runs: flags and counters
agree with libco's call stack, and exactly the suspended coroutines have a pending timer
record. The last part is about the step that fires a timer, which is taken while user
code does not run: `runFrame_records` says which calls record which events, so the
scheduler's loop is the only place to look.
-/

namespace LibcoRpc.CoroMgr

open LibcoRpc.Std

section

variable {s s' : State}

/-! ## What a step records -/

/-- The events that framework code can record when it goes on with a call. -/
def Frame.records : Frame → Event → Bool
  | .resume _ _ _, .ended _ _ _ _ => true
  | .yieldSuspend _, .suspended _ _ => true
  | .yieldRet _ _, .yieldReturned _ _ _ _ _ _ => true
  | .schedLoop _, .fired _ _ => true
  | .updateRecycle, .recycling => true
  | .recycle _, .deleting _ => true
  | .destroy _, .deleted _ => true
  | .destroyTimer _, .deleted _ => true
  | _, _ => false

theorem coYield_events (taken : s.coYield = .ok s') : s'.events = s.events := by
  obtain ⟨_, _, _, _, rfl⟩ := State.coYield_cases taken
  rfl

theorem runFrame_records {choice : Choice} {self : Co} {rest : List Frame} {frame : Frame}
    {event : Event} (taken : s.runFrame choice self rest frame = .ok s')
    (recorded : s'.events = event :: s.events) : frame.records event = true := by
  cases frame with
  | resume coro passData cause =>
      cases taken
      simp only [State.resume] at recorded
      split at recorded
      · simp [State.returns, State.goto] at recorded
      · split at recorded <;>
        · simp only [State.goto, State.setCoro, State.record, List.cons.injEq] at recorded
          obtain ⟨rfl, -⟩ := recorded
          rfl
  | yieldSuspend coro =>
      have same := coYield_events taken
      rw [same] at recorded
      simp only [State.goto, State.record, State.setCoro, List.cons.injEq] at recorded
      obtain ⟨rfl, -⟩ := recorded
      rfl
  | yieldRet coro times =>
      simp only [State.runFrame, State.yieldRet] at taken
      split at taken
      · cases taken
      · cases taken
        simp only [State.goto, State.returns, State.record, List.cons.injEq] at recorded
        obtain ⟨rfl, -⟩ := recorded
        rfl
  | schedLoop now =>
      simp only [State.runFrame, State.schedLoop] at taken
      split_ifs at taken
      · cases taken
        simp [State.goto] at recorded
      · cases taken
        simp [State.goto] at recorded
      · cases taken
        simp [State.goto, State.release, State.setData] at recorded
      · cases taken
        simp only [State.goto, State.record, State.setData, List.cons.injEq] at recorded
        obtain ⟨rfl, -⟩ := recorded
        rfl
  | updateRecycle =>
      cases taken
      simp only [State.updateRecycle] at recorded
      split at recorded
      · simp [State.goto] at recorded
      · simp only [State.goto, State.record, List.cons.injEq] at recorded
        obtain ⟨rfl, -⟩ := recorded
        rfl
  | recycle pending =>
      cases taken
      cases pending with
      | nil => simp [State.recycle, State.goto] at recorded
      | cons coro pending =>
          simp only [State.recycle] at recorded
          split at recorded <;>
          · simp only [State.goto, State.record, List.cons.injEq] at recorded
            obtain ⟨rfl, -⟩ := recorded
            rfl
  | destroy coro =>
      cases taken
      simp only [State.destroy] at recorded
      split at recorded
      · simp only [State.goto, State.destroyed, State.record, State.setCoro,
          List.cons.injEq] at recorded
        obtain ⟨rfl, -⟩ := recorded
        rfl
      · simp [State.goto] at recorded
  | destroyTimer coro =>
      simp only [State.runFrame, State.destroyTimer] at taken
      split at taken
      · cases taken
      · cases taken
        simp only [State.goto, State.destroyed, State.record, State.setCoro, State.release,
          State.setData, List.cons.injEq] at recorded
        obtain ⟨rfl, -⟩ := recorded
        rfl
  | coResume coro =>
      simp only [State.runFrame, State.coResume] at taken
      split_ifs at taken
      cases taken
      simp [State.setInner] at recorded
  | schedCancelRet coro data =>
      simp only [State.runFrame, State.schedCancelRet] at taken
      split_ifs at taken
      all_goals cases taken
      all_goals simp [State.goto, State.setData, State.setCoro, State.returns,
        State.release] at recorded
  | timerSchedule coro dueTime =>
      cases taken
      simp only [State.timerSchedule] at recorded
      split_ifs at recorded
      · simp [State.goto] at recorded
      · split at recorded <;>
          simp [State.goto, State.setData, State.setCoro, State.returns,
            State.release] at recorded
  | onCoroTimeout coro =>
      simp only [State.runFrame, State.onCoroTimeout] at taken
      split_ifs at taken
      cases taken
      simp [State.goto, State.setCoro] at recorded
  | stopLoop position =>
      cases position with
      | none =>
          cases taken
          simp [State.goto] at recorded
      | some entry =>
          simp only [State.runFrame, State.stopLoop] at taken
          split_ifs at taken
          all_goals cases taken
          all_goals simp [State.goto] at recorded
  | timerCancel coro =>
      cases taken
      simp only [State.timerCancel] at recorded
      split at recorded
      · simp [State.goto, State.returns] at recorded
      · split_ifs at recorded <;> simp [State.goto, State.returns, State.setData] at recorded
  | onCoroCancel coro =>
      cases taken
      simp only [State.onCoroCancel] at recorded
      split_ifs at recorded <;> simp [State.goto, State.setCoro] at recorded
  | cancel coro =>
      cases taken
      simp only [State.cancel] at recorded
      split_ifs at recorded <;> simp [State.goto, State.returns] at recorded
  | schedUpdate =>
      cases taken
      simp only [State.schedUpdate] at recorded
      split_ifs at recorded <;> simp [State.goto] at recorded
  | schedUpdateRet now data =>
      cases taken
      simp only [State.schedUpdateRet] at recorded
      split_ifs at recorded <;>
        simp [State.goto, State.setData, State.release] at recorded
  | resumeRet | cancelRet | stopReset =>
      cases taken
      simp [State.goto, State.returns] at recorded

/-- The events that an operation itself can record. -/
def Op.records : Op → Event → Bool
  | .createCoro _ _, .created _ => true
  | .entryReturn, .finished _ => true
  | _, _ => false

theorem coroYield_events {self : Co} {coro : CoroPtr} {timeout : Int}
    (taken : s.coroYield self coro timeout = .ok s') : s'.events = s.events := by
  simp only [State.coroYield] at taken
  split at taken
  · cases taken
    rfl
  · split at taken
    · cases taken
    · cases taken
    · split_ifs at taken <;>
      · cases taken
        rfl

theorem userStep_records {self : Co} {op : Op} {event : Event}
    (taken : s.userStep self op = .ok s') (recorded : s'.events = event :: s.events) :
    op.records event = true := by
  cases op with
  | createCoro entry args =>
      cases taken
      simp only [State.createCoro, State.record, List.cons.injEq] at recorded
      obtain ⟨rfl, -⟩ := recorded
      rfl
  | entryReturn =>
      simp only [State.userStep, State.entryReturn] at taken
      split at taken
      · cases taken
      next coro _ =>
        have same := coYield_events taken
        have masked : (s.maskWillRecycle coro).events = s.events := by
          simp only [State.maskWillRecycle]
          split <;> rfl
        rw [same] at recorded
        simp only [State.setInner, State.record, masked, List.cons.injEq] at recorded
        obtain ⟨rfl, -⟩ := recorded
        rfl
  | start =>
      simp only [State.userStep, State.start] at taken
      split_ifs at taken <;>
      · cases taken
        simp [State.returns, State.setInner, State.newCoro, State.genCoroId,
          State.setCoro] at recorded
  | coroYield coro timeout =>
      simp only [State.userStep] at taken
      split_ifs at taken
      simp [coroYield_events taken] at recorded
  | yield timeout =>
      simp only [State.userStep] at taken
      split at taken
      · cases taken
      · cases taken
      · simp [coroYield_events taken] at recorded
  | setEntry coro entry =>
      simp only [State.userStep, State.setEntry] at taken
      split_ifs at taken <;>
      · cases taken
        simp [State.returns, State.setCoro] at recorded
  | setArgs coro args =>
      simp only [State.userStep, State.setArgs] at taken
      split_ifs at taken <;>
      · cases taken
        simp [State.returns, State.setCoro] at recorded
  | setPtrParam1 | coroResume | coroCancel =>
      simp only [State.userStep] at taken
      split_ifs at taken
      cases taken
      simp [State.setPtrParam1, State.setCoro, State.goto] at recorded
  | resume | cancel =>
      cases taken
      simp only [State.withCoro] at recorded
      split at recorded <;> simp [State.returns, State.goto] at recorded
  | update | stop =>
      cases taken
      simp [State.goto] at recorded

/-- Only the scheduler's loop fires a timer, and it fires a pending record. -/
theorem step_fired {label : Label} {coro : CoroPtr} {times : Nat}
    (taken : machine.step s label = .ok s')
    (recorded : s'.events = .fired coro times :: s.events) :
    ∃ now rest data, s.frames s.coSelf = .schedLoop now :: rest ∧
      (s.data data).validate = true ∧ (s.data data).timer = coro ∧
      (s.data data).armedFor = times := by
  cases label with
  | user op =>
      simp only [machine, State.step] at taken
      split at taken
      · have records := userStep_records taken recorded
        cases op <;> cases records
      · cases taken
  | work choice =>
      simp only [machine, State.step] at taken
      split at taken
      · cases taken
      next frame rest frames =>
        have records := runFrame_records taken recorded
        cases frame with
        | schedLoop now =>
            simp only [State.runFrame, State.schedLoop] at taken
            split_ifs at taken with _ _ _ invalid
            · cases taken
              simp [State.goto] at recorded
            · cases taken
              simp [State.goto] at recorded
            · cases taken
              simp [State.goto, State.release, State.setData] at recorded
            · cases taken
              simp only [State.goto, State.record, State.setData, List.cons.injEq] at recorded
              cases recorded.1
              exact ⟨now, rest, choice.top, frames, by simpa using invalid, rfl, rfl⟩
        | _ => cases records

/-! ## Flags, counters and the call stack -/

/-- Each coroutine of a call stack above the first is inside a `Resume` made by the one
below it. -/
def ResumedFromBelow (s : State) : List Co → Prop
  | upper :: lower :: rest =>
      (∃ coro tail, upper = .co coro ∧ s.frames lower = .resumeRet coro :: tail) ∧
        ResumedFromBelow s (lower :: rest)
  | _ => True

/-- What the flags and counters of the coroutines in `coros_` say while user code runs. -/
structure FlagsAgree (s : State) : Prop where
  yielded_iff : ∀ coro ∈ s.coros.values, (s.coro coro).isMainCoro = false →
    ((s.coro coro).yielded = true ↔ .co coro ∉ s.callStack)
  counters : ∀ coro ∈ s.coros.values, (s.coro coro).isMainCoro = false →
    (s.coro coro).resumeTimes =
      if (s.coro coro).yielded then (s.coro coro).yieldTimes else (s.coro coro).yieldTimes + 1
  mainFirst : s.callStack.getLast? = some .main
  distinct : s.callStack.Nodup
  resumed : ResumedFromBelow s s.callStack
  othersSuspended : s.coSelf = .main → ∀ coro ∈ s.coros.values,
    (s.coro coro).isMainCoro = false → (s.coro coro).yielded = true

theorem Linked.resumedFromBelow {stack : List Co} (linked : Linked s stack) :
    ResumedFromBelow s stack := by
  induction stack with
  | nil => trivial
  | cons upper rest ih =>
      cases rest with
      | nil => trivial
      | cons lower rest =>
          obtain ⟨⟨coro, tail, isCo, frames, _⟩, restLinked⟩ := linked
          exact ⟨⟨coro, tail, isCo, frames⟩, ih restLinked⟩

/-- A registered coroutine other than the main one waits off the call stack or runs on it. -/
theorem Core.registered_cases (core : Core s) (named : s.registry.Named) {coro : CoroPtr}
    (registered : coro ∈ s.coros.values) (notMain : (s.coro coro).isMainCoro = false) :
    (∃ times, Dormant s coro times) ∨ ∃ times, Running s coro times := by
  have isCo : (s.coro coro).innerCoro = .co coro := by
    rcases named.inner coro with isMain | isCo
    · have isMain : (s.coro coro).innerCoro = .main := isMain
      simp [Coro.isMainCoro, isMain] at notMain
    · exact isCo
  have unfinished : ¬ Finished s coro := by
    obtain ⟨coroId, found⟩ := (OrdMap.mem_values_iff _ _).mp registered
    have notEnded : (s.inner (.co coro)).cEnd = false :=
      named.corosUnfinished coroId coro found isCo
    simp [Finished, notEnded]
  obtain ⟨phase, _, stands⟩ := core.stands coro (by simp)
  cases phase with
  | fresh => exact .inl ⟨0, Fresh.toDormant stands⟩
  | suspended times => exact .inl ⟨times, Suspended.toDormant stands⟩
  | running times => exact .inr ⟨times, stands⟩
  | absent =>
      rw [Unmade.innerCoro stands] at isCo
      cases isCo
  | finished => exact absurd (Ended.finished stands) unfinished
  | doomed => exact absurd (Ended.finished stands) unfinished
  | deleted => exact absurd (Ended.finished stands) unfinished
  | firing | waking | deleting => exact stands.elim

theorem Core.flagsAgree (core : Core s) (named : s.registry.Named) : FlagsAgree s where
  yielded_iff coro registered notMain := by
    rcases core.registered_cases named registered notMain with ⟨_, dormant⟩ | ⟨_, running⟩
    · simp [dormant.yielded, dormant.offStack]
    · simp [running.yielded, running.onStack]
  counters coro registered notMain := by
    rcases core.registered_cases named registered notMain with ⟨_, dormant⟩ | ⟨_, running⟩
    · simp [dormant.yielded, dormant.counters]
    · simp [running.yielded, running.counters]
  mainFirst := named.mainLast
  distinct := named.nodup
  resumed := core.linked.resumedFromBelow
  othersSuspended onMain coro registered notMain := by
    rcases core.registered_cases named registered notMain with ⟨_, dormant⟩ | ⟨_, running⟩
    · exact dormant.yielded
    · -- Nothing is above the main coroutine, which is the first one on the stack.
      exfalso
      obtain ⟨below, stack⟩ := named.callStack_cons
      rw [onMain] at stack
      have onStack := running.onStack
      have distinct : s.callStack.Nodup := named.nodup
      have last : s.callStack.getLast? = some .main := named.mainLast
      rw [stack] at onStack distinct last
      cases below with
      | nil => simp at onStack
      | cons next rest =>
          have again : .main ∈ next :: rest :=
            List.mem_of_getLast? (by simpa [List.getLast?_cons_cons] using last)
          exact (List.nodup_cons.mp distinct).1 again

/-- In every timely run the flags and counters agree with the call stack whenever user code
runs, and no step of framework code resumes a coroutine that is on the call stack or has
ended, fails an assertion or uses what has been deleted. -/
theorem coroutine_lifecycle {env : Bool} (run : machine.Run Timely (State.init env) s) :
    (s.UserRuns → FlagsAgree s) ∧
    ∀ label fault, Timely s label → machine.step s label = .error fault → MayEnd label fault := by
  have disciplined := disciplined_of_timely run
  exact ⟨fun userRuns => (core_of_run disciplined userRuns).flagsAgree
      (settled_of_run disciplined).2,
    fun _ _ => mayEnd_of_run run⟩

/-- A coroutine that asks for just under ten days is cancelled and yields again, at a clock
that has not been set back. -/
theorem coroutine_lifecycle_of_cancel :
    let s := (timelyReplay (cancelledAt 1000)).get (by decide +kernel)
    (s.coro 0).yielded = true ∧ (s.coro 0).yieldTimes = 2 ∧ FlagsAgree s :=
  ⟨by decide +kernel, by decide +kernel,
    (coroutine_lifecycle (run_of_timelyReplay (Option.some_get _).symm)).1 (by decide +kernel)⟩

/-- After the clock has been set back, coroutine 0 finishes, an `Update` deletes it, and the
next one fires the record that no one has cancelled. -/
def firesAfterDeletion : List Label :=
  List.flatten
    [setBack, [.user .entryReturn], works 1 0, [.user .update, .work ⟨0, 0⟩, .work ⟨0, 2⟩],
      works 4 0, [.user .update, .work ⟨5000, 0⟩, .work ⟨5000, 2⟩]]

/-- Coroutine 0 yields for 5 s and is cancelled when they are over. It calls `Update` and
yields again before `Cancel` goes on. -/
def updatesWhenCancelled : List Label :=
  List.flatten
    [[.user (.createCoro 0 0), .user (.coroResume 0 .nil)], works 3 0, [.user (.yield 0)],
      works 4 0, [.user (.coroCancel 0)], works 6 5000,
      [.user .update, .work ⟨5000, 0⟩, .work ⟨5000, 1⟩], works 2 5000, [.user (.yield 0)],
      works 4 5000]

/-- Framework code uses what has been deleted, although callers are careful: `Update` calls
`OnCoroTimeout` of a deleted coroutine when the clock has been set back, and `Cancel` goes on
with a deleted record when the coroutine it has resumed calls `Update`. -/
theorem lifecycle_ends_in_deleted :
    (∃ s, carefulReplay firesAfterDeletion = some s ∧ machine.Run Careful (State.init false) s ∧
      (s.coro 0).deleted = true ∧ Careful s (.work ⟨5000, 0⟩) ∧
      machine.step s (.work ⟨5000, 0⟩) = .error .danglingCoro ∧
      ¬ MayEnd (.work ⟨5000, 0⟩) .danglingCoro) ∧
    ∃ s, carefulReplay updatesWhenCancelled = some s ∧ machine.Run Careful (State.init false) s ∧
      s.compared = some 1 ∧ Careful s (.work ⟨5000, 0⟩) ∧
      machine.step s (.work ⟨5000, 0⟩) = .error .danglingTimerData ∧
      ¬ MayEnd (.work ⟨5000, 0⟩) .danglingTimerData :=
  ⟨⟨(carefulReplay firesAfterDeletion).get (by decide +kernel), (Option.some_get _).symm,
      run_of_carefulReplay (Option.some_get _).symm, by decide +kernel, by decide +kernel,
      Machine.step_of_fault (by decide +kernel), fun ends => by cases ends⟩,
    (carefulReplay updatesWhenCancelled).get (by decide +kernel), (Option.some_get _).symm,
      run_of_carefulReplay (Option.some_get _).symm, by decide +kernel, by decide +kernel,
      Machine.step_of_fault (by decide +kernel), fun ends => by cases ends⟩

/-! ## Timers -/

/-- A record of the coroutine's timer that has neither fired nor been cancelled. -/
def PendingTimer (s : State) (coro : CoroPtr) (data : DataPtr) : Prop :=
  (s.data data).timer = coro ∧ (s.data data).validate = true

instance (s : State) (coro : CoroPtr) (data : DataPtr) : Decidable (PendingTimer s coro data) :=
  inferInstanceAs (Decidable (_ ∧ _))

/-- The pending records are the current ones of the suspended coroutines. -/
theorem Core.pending_suspended (core : Core s) {coro : CoroPtr} {data : DataPtr}
    (pending : PendingTimer s coro data) :
    (s.coro coro).timerData = some data ∧ ∃ times, Suspended s coro times := by
  obtain ⟨rfl, validate⟩ := pending
  obtain ⟨_, current, times, lives⟩ := core.pending data validate
  obtain ⟨phase, livesToo, stands⟩ := core.stands (s.data data).timer (by simp)
  rw [lives] at livesToo
  cases livesToo
  exact ⟨current, times, stands⟩

theorem Core.pending_iff (core : Core s) (coro : CoroPtr) :
    (∃ data, PendingTimer s coro data) ↔
      (s.coro coro).yielded = true ∧ 1 ≤ (s.coro coro).yieldTimes := by
  constructor
  · rintro ⟨data, pending⟩
    obtain ⟨_, times, suspended⟩ := core.pending_suspended pending
    exact ⟨suspended.yielded, by rw [suspended.counters.1]; exact suspended.positive⟩
  · rintro ⟨yielded, positive⟩
    rcases core.yielded_cases yielded with ⟨_, fresh⟩ | ⟨times, _, suspended⟩
    · rw [fresh.counters.1] at positive
      cases positive
    · obtain ⟨data, armed⟩ := suspended.armed
      exact ⟨data, armed.timer, armed.validate⟩

theorem Core.pending_unique (core : Core s) {coro : CoroPtr} {left right : DataPtr}
    (leftPending : PendingTimer s coro left) (rightPending : PendingTimer s coro right) :
    left = right := by
  have leftCurrent := (core.pending_suspended leftPending).1
  have rightCurrent := (core.pending_suspended rightPending).1
  exact Option.some.inj (leftCurrent.symm.trans rightCurrent)

/-- In every timely run, whenever user code runs exactly the coroutines inside
`Yield` have a pending record, and each of them has one. A step that fires the record
made for a suspension finds the coroutine in that very suspension: off the call stack,
neither finished nor deleted. -/
theorem one_timer_per_suspension {env : Bool}
    (run : machine.Run Timely (State.init env) s) :
    (s.UserRuns → ∀ coro,
      ((∃ data, PendingTimer s coro data) ↔
        (s.coro coro).yielded = true ∧ 1 ≤ (s.coro coro).yieldTimes) ∧
      ∀ left right, PendingTimer s coro left → PendingTimer s coro right → left = right) ∧
    ∀ label next coro times, machine.step s label = .ok next →
      next.events = .fired coro times :: s.events →
        (s.coro coro).yielded = true ∧ (s.coro coro).yieldTimes = times ∧
        .co coro ∉ s.callStack ∧ ¬ Finished s coro ∧ (s.coro coro).deleted = false := by
  have disciplined := disciplined_of_timely run
  constructor
  · intro userRuns coro
    have core := core_of_run disciplined userRuns
    exact ⟨core.pending_iff coro, fun _ _ => core.pending_unique⟩
  · intro label next coro times taken recorded
    obtain ⟨now, rest, data, frames, validate, timer, armedFor⟩ := step_fired taken recorded
    have core : Core s := (settled_of_run disciplined).1.goal fun frame member => by
      rw [frames] at member
      cases member
      rfl
    obtain ⟨current, at_, suspended⟩ := core.pending_suspended ⟨timer, validate⟩
    obtain ⟨other, armed⟩ := suspended.armed
    -- The record that fires is the one of the current suspension.
    have same : other = data := Option.some.inj (armed.current.symm.trans current)
    subst same
    have times_eq : at_ = times := armed.armedFor.symm.trans armedFor
    exact ⟨suspended.yielded, times_eq ▸ suspended.counters.1, suspended.offStack,
      suspended.unfinished, suspended.kept⟩

/-- The cancelled coroutine has yielded again; the record of its first `Yield` is still in
the heap. -/
theorem one_timer_after_cancel :
    let s := (timelyReplay (cancelledAt 2000)).get (by decide +kernel)
    s.heap = [2, 1] ∧ ∃ data, PendingTimer s 0 data :=
  ⟨by decide +kernel, (((one_timer_per_suspension
    (run_of_timelyReplay (Option.some_get _).symm)).1 (by decide +kernel)) 0).1.mpr
      (by decide +kernel)⟩

/-- After the clock has been set back, user code of a coroutine runs while a record of its
timer is pending. -/
theorem running_with_pending_timer :
    let s := (carefulReplay setBack).get (by decide +kernel)
    machine.Run Careful (State.init false) s ∧ s.UserRuns ∧ s.coSelf = .co 0 ∧
      (s.coro 0).yielded = false ∧ PendingTimer s 0 2 :=
  ⟨run_of_carefulReplay (Option.some_get _).symm, by decide +kernel, by decide +kernel,
    by decide +kernel, by decide +kernel⟩

end

end LibcoRpc.CoroMgr
