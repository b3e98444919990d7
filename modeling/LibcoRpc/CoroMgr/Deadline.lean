import LibcoRpc.CoroMgr.Timers
import LibcoRpc.CoroMgr.Guarantees

/-!
# Deadlines

The deadline of a suspension is the due time of the record that its `Yield` has made. It
is set once, and the scheduler does not move it: a record is put back into the heap only
if its timeout handler has left it valid, which no handler does in a disciplined run
(`Spent`).
-/

namespace LibcoRpc.CoroMgr

variable {s s' : State} {label : Label} {coro : CoroPtr} {data : DataPtr} {now : Int}

/-- The milliseconds that a suspension may last, for a timeout in microseconds. -/
def dueAfter (timeout : Int) : Int := if timeout ≤ 0 then 5000 else timeout / 1000

theorem actualTimeout_eq (timeout : Int) : actualTimeout timeout = dueAfter timeout := by
  unfold actualTimeout dueAfter
  split
  · rfl
  next positive =>
    have nonneg : 0 ≤ timeout := Int.le_of_not_le fun le => positive (by omega)
    rw [Int.tdiv_eq_ediv_of_nonneg nonneg]
    omega

/-- The deadline of the suspension a coroutine is in. -/
def State.deadline (s : State) (coro : CoroPtr) : Option Int :=
  if (s.coro coro).yielded then (s.coro coro).timerData.map fun data => (s.data data).handle
  else none

theorem deadline_eq_some {due : Int} :
    s.deadline coro = some due ↔ (s.coro coro).yielded = true ∧
      ∃ data, (s.coro coro).timerData = some data ∧ (s.data data).handle = due := by
  unfold State.deadline
  split <;> simp_all

/-- A coroutine inside `Yield` has a deadline. -/
theorem Core.deadline_isSome (core : Core s) (yielded : (s.coro coro).yielded = true)
    (started : 1 ≤ (s.coro coro).yieldTimes) : ∃ due, s.deadline coro = some due := by
  rcases core.yielded_cases yielded with ⟨_, fresh⟩ | ⟨times, _, suspended⟩
  · rw [fresh.counters.1] at started
    cases started
  · obtain ⟨data, armed⟩ := suspended.armed
    exact ⟨_, deadline_eq_some.mpr ⟨yielded, data, armed.current, rfl⟩⟩

/-! ## Records that have been handled -/

/-- A record whose timeout handler has been called is not valid any more, unless the
handler has only begun. -/
def Spent (s : State) : Prop :=
  ∀ co now data, .schedUpdateRet now data ∈ s.frames co → data ≤ s.maxTimerId ∧
    ((s.data data).validate = true →
      (s.coro (s.data data).timer).timerData = some data ∧ Expiring s (s.data data).timer)

theorem Change.timers_le (change : Change s s') : s.maxTimerId ≤ s'.maxTimerId := by
  cases change with
  | calm calm => exact Nat.le_of_eq calm.timers.symm
  | arms _ _ _ _ _ _ timers => exact timers ▸ Nat.le_succ _
  | resumed _ _ _ _ _ _ timers | switched _ _ _ _ _ _ timers | yields _ _ _ _ _ _ _ _ timers
  | suspends _ _ _ _ _ _ timers | fires _ _ _ _ _ _ _ timers | rearms _ _ _ _ _ _ _ timers
  | makes _ _ _ _ _ _ _ timers | finishes _ _ _ _ _ _ timers => exact Nat.le_of_eq timers.symm

/-- A record stays with its timer, and does not become valid again. -/
theorem Change.old_record (change : Change s s') (old : data ≤ s.maxTimerId) :
    (s'.data data).timer = (s.data data).timer ∧
      ((s'.data data).validate = true → (s.data data).validate = true) := by
  cases change with
  | calm calm => exact ⟨(calm.records data).timer, (calm.records data).validate⟩
  | arms _ _ _ _ _ records =>
      have keeps := records data (Nat.ne_of_lt (Nat.lt_succ_of_le old))
      exact ⟨keeps.timer, keeps.validate⟩
  | @fires _ top _ _ _ valid _ _ _ records =>
      by_cases isTop : data = top
      · subst isTop
        exact ⟨by simp [records], fun _ => valid⟩
      · simp [records, isTop]
  | @rearms _ again _ _ valid _ _ _ record records =>
      by_cases isAgain : data = again
      · subst isAgain
        exact ⟨record.1, fun _ => valid⟩
      · rw [records data isAgain]
        exact ⟨rfl, id⟩
  | resumed _ _ _ _ _ records | switched _ _ _ _ _ records | yields _ _ _ _ _ _ _ records
  | suspends _ _ _ _ _ records | makes _ _ _ _ _ _ records | finishes _ _ _ _ _ records =>
      rw [records]
      exact ⟨rfl, id⟩

/-- Only the loop of the scheduler calls a timeout handler. -/
theorem handler_cases {co : Co} (taken : machine.step s label = .ok s')
    (member : .schedUpdateRet now data ∈ s'.frames co) :
    .schedUpdateRet now data ∈ s.frames co ∨
      (∃ rest, s.frames s.coSelf = .schedLoop now :: rest) ∧ (s.data data).validate = true ∧
        s'.coro = s.coro ∧ (s'.data data).timer = (s.data data).timer ∧
        s'.maxTimerId = s.maxTimerId ∧
        s'.innermost = some (.onCoroTimeout (s.data data).timer) := by
  by_cases self : co = s.coSelf
  · subst self
    have below : ∀ {frame : Frame} {rest : List Frame}, s.frames s.coSelf = frame :: rest →
        .schedUpdateRet now data ∈ rest → .schedUpdateRet now data ∈ s.frames s.coSelf :=
      fun at_ old => at_ ▸ List.mem_cons_of_mem _ old
    cases step_change taken with
    | calm _ onward =>
        refine .inl ?_
        cases onward with
        | asked _ mild => exact absurd member (mild.unfired now data)
        | asksResume _ _ next => simp [next] at member
        | on at_ next mild =>
            rw [next] at member
            exact below at_ ((List.mem_append.mp member).resolve_left (mild.unfired now data))
        | cancels at_ _ next => exact below at_ (by simpa [next] using member)
    | resumed at_ _ _ _ _ _ _ _ next =>
        rw [next] at member
        split at member
        all_goals exact .inl (below at_ (by simpa using member))
    | switched at_ _ _ _ _ _ _ _ frames | suspends at_ _ _ _ _ _ _ _ frames =>
        exact .inl (below at_ (by simpa [frames] using member))
    | yields _ _ _ _ _ _ _ _ _ _ next => simp [next] at member
    | arms at_ _ _ _ _ _ _ _ next => exact .inl (below at_ (next ▸ member))
    | @fires clock top rest at_ _ validate stack _ objects records timers _ next =>
        have made : Frame.schedUpdateRet now data = .schedUpdateRet clock top ∨
            Frame.schedUpdateRet now data ∈ rest := by simpa [next] using member
        rcases made with new | old
        · cases new
          refine .inr ⟨⟨_, at_⟩, validate, objects, by simp [records], timers, ?_⟩
          rw [State.innermost, coSelf_of_stack stack, next]
          rfl
        · exact .inl (below at_ old)
    | rearms at_ _ _ _ _ _ _ _ _ next => exact .inl (below at_ (by simpa [next] using member))
    | makes _ _ _ _ _ _ _ _ _ frames | finishes _ _ _ _ _ _ _ _ frames =>
        exact .inl (frames ▸ member)
  · rw [step_frames taken self] at member
    exact .inl member

theorem Spent.step (spent : Spent s)
    (core : ∀ now rest, s.frames s.coSelf = .schedLoop now :: rest → Core s)
    (taken : machine.step s label = .ok s') : Spent s' := by
  intro co now data member
  rcases handler_cases taken member with old | ⟨⟨rest, at_⟩, validate, objects, timer, timers, next⟩
  · have change := step_change taken
    obtain ⟨allocated, handled⟩ := spent co now data old
    refine ⟨Nat.le_trans allocated change.timers_le, fun validate => ?_⟩
    obtain ⟨timer, validBefore⟩ := change.old_record allocated
    obtain ⟨current, expiring⟩ := handled (validBefore validate)
    rw [timer]
    refine (expiring.step current (validBefore validate) taken).resolve_right ?_
    simp [validate]
  · have core := core now rest at_
    obtain ⟨_, current, _⟩ := core.pending data validate
    refine ⟨timers ▸ core.pending_allocated validate, fun _ => ?_⟩
    rw [timer, objects]
    exact ⟨current, .inl next⟩

/-- The loop of the scheduler is at rest. -/
theorem core_of_loop {env : Bool} (run : machine.Run Disciplined (State.init env) s)
    {rest : List Frame} (at_ : s.frames s.coSelf = .schedLoop now :: rest) : Core s := by
  refine (settled_of_run run).1.goal fun frame member => ?_
  rw [at_] at member
  cases member
  rfl

theorem spent_of_run {env : Bool} (run : machine.Run Disciplined (State.init env) s) :
    Spent s := by
  induction run with
  | start => exact fun _ _ _ member => by cases member
  | step prior _ taken ih => exact ih.step (fun _ _ at_ => core_of_loop prior at_) taken

/-! ## Deadlines stay -/

/-- The scheduler does not move a due time. -/
theorem Change.handle_kept (change : Change s s') (spent : Spent s)
    (old : data ≤ s.maxTimerId) : (s'.data data).handle = (s.data data).handle := by
  cases change with
  | calm calm => exact (calm.records data).handle
  | arms _ _ _ _ _ records =>
      exact (records data (Nat.ne_of_lt (Nat.lt_succ_of_le old))).handle
  | @fires _ top _ _ _ _ _ _ _ records =>
      by_cases isTop : data = top
      · subst isTop
        simp [records]
      · simp [records, isTop]
  | @rearms _ again _ at_ validate _ _ _ _ records =>
      by_cases isAgain : data = again
      · -- A record that is put back would be one that no handler has cancelled.
        subst isAgain
        have expiring := ((spent _ _ data (at_ ▸ List.mem_cons_self)).2 validate).2
        rw [Expiring, innermost_of_cons at_] at expiring
        simp at expiring
      · rw [records data isAgain]
  | resumed _ _ _ _ _ records | switched _ _ _ _ _ records | yields _ _ _ _ _ _ _ records
  | suspends _ _ _ _ _ records | makes _ _ _ _ _ _ records | finishes _ _ _ _ _ records =>
      rw [records]

theorem handle_of_run {env : Bool} (run : machine.Run Disciplined (State.init env) s)
    (onward : machine.Run Disciplined s s') (old : data ≤ s.maxTimerId) :
    (s'.data data).handle = (s.data data).handle ∧ data ≤ s'.maxTimerId := by
  induction onward with
  | start => exact ⟨rfl, old⟩
  | step prior _ taken ih =>
      obtain ⟨same, allocated⟩ := ih
      have change := step_change taken
      exact ⟨(change.handle_kept (spent_of_run (run.trans prior)) allocated).trans same,
        Nat.le_trans allocated change.timers_le⟩

/-- Only `Schedule`, called by `Yield`, gives a coroutine another record. -/
theorem Change.timerData_kept (change : Change s s') (created : coro < s.coroCount)
    (staying : ∀ dueTime rest, s.frames s.coSelf ≠ .timerSchedule coro dueTime :: rest)
    (current : (s'.coro coro).timerData = some data) : (s.coro coro).timerData = some data := by
  cases change with
  | calm calm => exact (calm.objects coro).timerData data current
  | @resumed target _ _ _ _ _ _ _ objects | @yields target _ _ _ _ _ _ _ objects
  | @suspends target _ _ _ _ _ _ _ objects =>
      by_cases isTarget : coro = target
      · subst isTarget
        simpa [objects] using current
      · simpa [objects, isTarget] using current
  | @arms target _ _ _ at_ _ _ objects =>
      have other : coro ≠ target := by
        rintro rfl
        exact staying _ _ at_
      rwa [objects, Function.update_of_ne other] at current
  | switched _ _ _ _ objects | fires _ _ _ _ _ objects | rearms _ _ _ _ objects
  | finishes _ _ _ _ objects => rwa [objects] at current
  | makes _ _ _ objects => rwa [objects, Function.update_of_ne (Nat.ne_of_lt created)] at current

theorem created_of_run {Allowed : State → Label → Prop} (created : coro < s.coroCount)
    (onward : machine.Run Allowed s s') : coro < s'.coroCount :=
  onward.invariant (fun s => coro < s.coroCount) created
    fun _ _ _ created _ taken => ((step_change taken).yieldTimes_le created).2

/-- As long as a coroutine is in the suspension it was in at `s`, its record is the one it
had at `s`. -/
theorem record_of_run {env : Bool} (run : machine.Run TakesFreeId (State.init env) s)
    (created : coro < s.coroCount) (yielded : (s.coro coro).yielded = true)
    (onward : machine.Run TakesFreeId s s') :
    (s.coro coro).yieldTimes ≤ (s'.coro coro).yieldTimes ∧
      ((s'.coro coro).yieldTimes = (s.coro coro).yieldTimes → ¬ Leaving s' coro ∧
        ∀ data, (s'.coro coro).timerData = some data → (s.coro coro).timerData = some data) := by
  induction onward with
  | start =>
      refine ⟨Nat.le_refl _, fun _ => ⟨fun leaving => ?_, fun _ => id⟩⟩
      simp [leaving.running] at yielded
  | step prior _ taken ih =>
      obtain ⟨later, same⟩ := ih
      have before := run.trans prior
      have change := step_change taken
      have allocated := created_of_run created prior
      have more := (change.yieldTimes_le allocated).1
      refine ⟨Nat.le_trans later more, fun equal => ?_⟩
      have times := Nat.le_antisymm (equal ▸ more) later
      obtain ⟨staying, held⟩ := same times
      constructor
      · intro leaving
        obtain ⟨_, objects, _⟩ := ((poised_of_run before).leaving_cases (named_of_run before) taken
          leaving).resolve_left staying
        rw [objects, Function.update_self, times] at equal
        exact Nat.succ_ne_self _ equal
      · intro data current
        refine held data (change.timerData_kept allocated (fun _ _ at_ => staying ?_) current)
        exact (poised_of_run before).of_timerSchedule at_

theorem Disciplined.run_free {env : Bool} (run : machine.Run Disciplined (State.init env) s)
    (onward : machine.Run Disciplined s s') : machine.Run TakesFreeId s s' := by
  induction onward with
  | start => exact .start
  | step prior disciplined taken ih =>
      exact .step ih (disciplined.newId.free (settled_of_run (run.trans prior)).2) taken

/-- The deadline of a suspension does not change. -/
theorem deadline_kept {env : Bool} (run : machine.Run Disciplined (State.init env) s)
    (created : coro < s.coroCount) (yielded : (s.coro coro).yielded = true)
    (onward : machine.Run Disciplined s s')
    (same : (s'.coro coro).yieldTimes = (s.coro coro).yieldTimes) {due : Int}
    (later : s'.deadline coro = some due) : s.deadline coro = some due := by
  obtain ⟨_, data, current, isDue⟩ := deadline_eq_some.mp later
  have free : machine.Run TakesFreeId (State.init env) s := Disciplined.run_free .start run
  have held := ((record_of_run free created yielded (Disciplined.run_free run onward)).2 same).2
    data current
  have allocated := ((timed_of_run run).own coro data held).2
  refine deadline_eq_some.mpr ⟨yielded, data, held, ?_⟩
  rw [← isDue, (handle_of_run run onward allocated).1]

/-! ## `Yield` sets the deadline -/

/-- The running coroutine calls `Coro::Yield` on itself, or `RpcCoroMgr::Yield`. -/
inductive Yields (coro : CoroPtr) (timeout : Int) : Op → Prop where
  | pointer : Yields coro timeout (.coroYield coro timeout)
  | current : Yields coro timeout (.yield timeout)

theorem Registry.Named.current_of_self (named : s.registry.Named) (self : s.coSelf = .co coro)
    {current : CoroPtr} (found : s.getCurCoro = .ok (some current)) : coro = current := by
  rcases getCurCoro_cases named found with ⟨isMain, _⟩ | isCo
  · cases self.symm.trans isMain
  · cases self.symm.trans isCo
    rfl

/-- `Yield` of the running coroutine is accepted. -/
theorem coroYield_accepted (core : Core s) (named : s.registry.Named)
    (self : s.coSelf = .co coro) {timeout : Int}
    (taken : s.coroYield s.coSelf coro timeout = .ok s') :
    s' = (s.setCoro coro
      { s.coro coro with yieldTimes := (s.coro coro).yieldTimes + 1 }).goto s.coSelf
        [.timerCancel coro, .timerSchedule coro (actualTimeout timeout), .yieldSuspend coro] := by
  obtain ⟨rest, stack⟩ := named.callStack_cons
  have onStack : .co coro ∈ s.callStack := by simp [stack, self]
  obtain ⟨_, _, running⟩ := core.running_of_onStack onStack
  have notMain : (s.coro coro).isMainCoro = false := by
    simp [Coro.isMainCoro, running.created.2]
  simp only [State.coroYield] at taken
  split at taken
  next yielded => simp [running.yielded] at yielded
  next =>
    split at taken
    · cases taken
    · cases taken
    next current found =>
      have isCurrent : coro = current := named.current_of_self self found
      subst isCurrent
      simp only [ne_eq, not_true_eq_false, if_false, notMain, Bool.false_eq_true] at taken
      cases taken
      rfl

theorem Yields.accepted (core : Core s) (named : s.registry.Named) (userRuns : s.UserRuns)
    (self : s.coSelf = .co coro) {timeout : Int} {op : Op} (yields : Yields coro timeout op)
    (taken : machine.step s (.user op) = .ok s') :
    s' = (s.setCoro coro
      { s.coro coro with yieldTimes := (s.coro coro).yieldTimes + 1 }).goto s.coSelf
        [.timerCancel coro, .timerSchedule coro (actualTimeout timeout), .yieldSuspend coro] := by
  have frames : s.frames s.coSelf = [] := userRuns
  cases yields with
  | pointer =>
      simp only [machine, State.step, frames, State.userStep] at taken
      split_ifs at taken
      exact coroYield_accepted core named self taken
  | current =>
      simp only [machine, State.step, frames, State.userStep] at taken
      split at taken
      · cases taken
      · cases taken
      next current found =>
        have isCurrent : coro = current := named.current_of_self self found
        subst isCurrent
        exact coroYield_accepted core named self taken

/-- After `Yield(timeout)` the coroutine is suspended until the clock that `Schedule` has
read plus the timeout in milliseconds. -/
theorem Core.yield_deadline (core : Core s) (named : s.registry.Named) (userRuns : s.UserRuns)
    (self : s.coSelf = .co coro) {timeout : Int} {op : Op} (yields : Yields coro timeout op)
    {asked cancelled armed : State} {first second third : Choice}
    (asks : machine.step s (.user op) = .ok asked)
    (cancels : machine.step asked (.work first) = .ok cancelled)
    (arms : machine.step cancelled (.work second) = .ok armed)
    (suspends : machine.step armed (.work third) = .ok s') :
    s'.deadline coro = some (second.now + dueAfter timeout) ∧ machine.Run Disciplined s s' := by
  obtain ⟨rest, stack⟩ := named.callStack_cons
  have onStack : .co coro ∈ s.callStack := by simp [stack, self]
  obtain ⟨_, _, running⟩ := core.running_of_onStack onStack
  have isAsked := yields.accepted core named userRuns self asks
  have askedAt : asked.frames asked.coSelf = [.timerCancel coro,
      .timerSchedule coro (actualTimeout timeout), .yieldSuspend coro] := by
    rw [isAsked]
    exact Function.update_self ..
  -- The record of the last suspension is not valid any more.
  have isCancelled : cancelled = (asked.returns llbcOk).goto asked.coSelf
      [.timerSchedule coro (actualTimeout timeout), .yieldSuspend coro] := by
    rw [work_step askedAt] at cancels
    cases cancels
    simp only [State.timerCancel]
    split
    · rfl
    next data current =>
      have current : (s.coro coro).timerData = some data := by
        simpa [isAsked, State.goto, State.setCoro] using current
      have stale : (asked.data data).validate = false := by
        rw [isAsked]
        exact core.not_pending current running.yielded
      simp [stale]
  have cancelledAt : cancelled.frames cancelled.coSelf =
      [.timerSchedule coro (actualTimeout timeout), .yieldSuspend coro] := by
    rw [isCancelled]
    exact Function.update_self ..
  obtain ⟨armedAt, data, current, handle⟩ : armed.frames armed.coSelf = [.yieldSuspend coro] ∧
      ∃ data, (armed.coro coro).timerData = some data ∧
        (armed.data data).handle = second.now + dueAfter timeout := by
    rw [work_step cancelledAt] at arms
    cases arms
    have succeeded : cancelled.ret = llbcOk := by rw [isCancelled]; rfl
    simp only [State.timerSchedule, succeeded, ne_eq, not_true_eq_false, if_false]
    refine ⟨?_, cancelled.maxTimerId + 1, ?_, ?_⟩
    all_goals split
    all_goals simp [State.goto, State.returns, State.setCoro, State.setData, State.release,
      State.coSelf, actualTimeout_eq]
  -- None of these calls creates a coroutine or is the end of a `Cancel`.
  have asking : Disciplined s (.user op) := by
    refine ⟨fun _ issued => ?_, trivial⟩
    cases yields <;> cases issued
  have working : ∀ {state : State} {frame : Frame} {rest : List Frame} (choice : Choice),
      state.frames state.coSelf = frame :: rest →
      (∀ other data, frame ≠ .schedCancelRet other data) → Disciplined state (.work choice) := by
    intro state frame rest choice at_ other
    refine ⟨fun _ issued => (by cases issued), fun data compared => ?_⟩
    simp only [State.compared, at_] at compared
    split at compared
    next isCancel => exact absurd (List.cons.inj isCancel).1 (other _ _)
    next => cases compared
  refine ⟨?_, .step (.step (.step (.step .start asking asks) (working _ askedAt (by simp)) cancels)
    (working _ cancelledAt (by simp)) arms) (working _ armedAt (by simp)) suspends⟩
  rw [work_step armedAt] at suspends
  obtain ⟨_, _, _, _, rfl⟩ := State.coYield_cases suspends
  refine deadline_eq_some.mpr ⟨?_, data, ?_, handle⟩
  · simp [State.goto, State.record, State.setCoro]
  · simpa [State.goto, State.record, State.setCoro] using current

end LibcoRpc.CoroMgr
