import LibcoRpc.CoroMgr.Timers

/-!
# What a successful `Cancel` has done

`Coro::Cancel` does not resume the coroutine itself: it cancels the timer, and relies on
the cancel handler of the timer to resume the coroutine. `LLBC_Timer::Cancel` calls no
handler when the timer holds no valid record, and returns `LLBC_OK` all the same, as
`Coro::Cancel` then does. So `Cancel` takes effect on a suspended coroutine exactly when
the coroutine's timer is armed (`Armable`), which it is not before the first start.
-/

namespace LibcoRpc.CoroMgr

variable {s s' asked returned : State} {label : Label} {coro : CoroPtr} {op : Op}

/-- User code calls `Coro::Cancel`, or `RpcCoroMgr::Cancel` with the coroutine's id. -/
inductive Cancels (s : State) (coro : CoroPtr) : Op → Prop where
  | pointer : Cancels s coro (.coroCancel coro)
  | id {coroId : Int} (found : s.getCoro coroId = some coro) : Cancels s coro (.cancel coroId)

/-- A call that a coroutine has made is in progress. -/
structure Within (caller : Co) (s : State) (label : Label) : Prop where
  busy : s.frames caller ≠ []
  freeId : TakesFreeId s label

/-- The coroutine has been given control with the cancelled flag, out of the suspension
it was in at `s`. -/
structure Interrupted (s entered : State) (coro : CoroPtr) : Prop where
  stack : entered.callStack = (s.coro coro).innerCoro :: s.callStack
  cancelled : (entered.coro coro).cancelled = true
  yielded : (entered.coro coro).yielded = false
  times : (entered.coro coro).yieldTimes = (s.coro coro).yieldTimes

/-- A `Cancel` called at `s` takes effect if it reports success: before it returned, the
coroutine was interrupted, and it is no longer in the suspension it was in. -/
def TakesEffect (s asked : State) (coro : CoroPtr) : Prop :=
  ∀ returned, machine.Run (Within s.coSelf) asked returned → returned.frames s.coSelf = [] →
    returned.ret = 0 →
    (∃ entered, machine.Run (Within s.coSelf) asked entered ∧ Interrupted s entered coro ∧
      machine.Run (Within s.coSelf) entered returned) ∧
    ¬ ((returned.coro coro).yielded = true ∧
      (returned.coro coro).yieldTimes = (s.coro coro).yieldTimes)

/-- The coroutine's timer holds a valid record. -/
def Armable (s : State) (coro : CoroPtr) : Prop :=
  ∃ data, (s.coro coro).timerData = some data ∧ (s.data data).validate = true

/-! ## A suspension that is over -/

/-- A suspension is over: there has been another one, or the coroutine runs. -/
def SuspensionOver (s : State) (coro : CoroPtr) (times : Nat) : Prop :=
  times < (s.coro coro).yieldTimes ∨
    (s.coro coro).yieldTimes = times ∧ (s.coro coro).yielded = false ∧ ¬ Leaving s coro

theorem SuspensionOver.not_suspended {times : Nat} (past : SuspensionOver s coro times) :
    ¬ ((s.coro coro).yielded = true ∧ (s.coro coro).yieldTimes = times) := by
  rintro ⟨yielded, same⟩
  rcases past with later | ⟨_, running, _⟩
  · exact absurd same (Nat.ne_of_gt later)
  · simp [yielded] at running

/-- A suspension that is over stays so. -/
theorem SuspensionOver.step {times : Nat} (past : SuspensionOver s coro times)
    (created : coro < s.coroCount) (poised : Poised s) (named : s.registry.Named)
    (taken : machine.step s label = .ok s') : SuspensionOver s' coro times := by
  have change := step_change taken
  have more := (change.yieldTimes_le created).1
  rcases past with later | ⟨same, running, staying⟩
  · exact .inl (Nat.lt_of_lt_of_le later more)
  · by_cases leaving : Leaving s' coro
    · obtain ⟨_, objects, _⟩ := (poised.leaving_cases named taken leaving).resolve_left staying
      left
      rw [objects, Function.update_self, ← same]
      exact Nat.lt_succ_self _
    · rcases Nat.lt_or_eq_of_le more with later | equal
      · exact .inl (same ▸ later)
      · refine .inr ⟨equal.symm.trans same, ?_, leaving⟩
        exact change.yielded_kept created running
          fun _ at_ => staying (poised.of_yieldSuspend at_).1

/-! ## The course of a `Cancel` -/

/-- The caller has control, inside these calls. -/
structure Stage (s now : State) (frames : List Frame) : Prop where
  stack : now.callStack = s.callStack
  at_ : now.frames s.coSelf = frames

/-- How far a `Cancel` that was called at `s` has come. -/
inductive Progress (s asked : State) (coro : CoroPtr) (now : State) : Prop where
  | called (stage : Stage s now [.cancel coro]) (objects : now.coro = s.coro)
      (records : now.data = s.data)
  | cancels (stage : Stage s now [.timerCancel coro, .cancelRet]) (objects : now.coro = s.coro)
      (records : now.data = s.data)
  | handles {data : DataPtr}
      (stage : Stage s now [.onCoroCancel coro, .schedCancelRet coro data, .cancelRet])
      (objects : now.coro = s.coro) (idle : now.isTimeouting coro = false)
  | resumes {rest : List Frame} (stage : Stage s now (.resume coro .nil .cancel :: rest))
      (object : now.coro coro = { s.coro coro with cancelled := true })
  | switches {rest : List Frame} (stage : Stage s now (.coResume coro :: rest))
      (inner : (now.coro coro).innerCoro = (s.coro coro).innerCoro)
      (cancelled : (now.coro coro).cancelled = true) (running : (now.coro coro).yielded = false)
      (times : (now.coro coro).yieldTimes = (s.coro coro).yieldTimes)
  | interrupted {entered : State} (before : machine.Run (Within s.coSelf) asked entered)
      (interrupted : Interrupted s entered coro)
      (after : machine.Run (Within s.coSelf) entered now)
      (past : SuspensionOver now coro (s.coro coro).yieldTimes)

theorem Stage.self {now : State} {frames : List Frame} (stage : Stage s now frames) :
    now.coSelf = s.coSelf := coSelf_of_stack stage.stack

/-- The innermost call of the caller goes on. -/
theorem Stage.step {now : State} {frame : Frame} {rest : List Frame}
    (stage : Stage s now (frame :: rest)) (taken : machine.step now label = .ok s') :
    ∃ choice, now.runFrame choice s.coSelf rest frame = .ok s' := by
  have at_ : now.frames now.coSelf = frame :: rest := by rw [stage.self, stage.at_]
  rw [← stage.self]
  exact step_work at_ taken

/-- It can go on, and the call of the caller is still in progress. -/
theorem Stage.run {now next : State} {frame : Frame} {rest : List Frame}
    (stage : Stage s now (frame :: rest))
    (ran : now.runFrame ⟨0, 0⟩ s.coSelf rest frame = .ok next) :
    machine.Run (Within s.coSelf) now next := by
  have at_ : now.frames now.coSelf = frame :: rest := by rw [stage.self, stage.at_]
  have within : Within s.coSelf now (.work ⟨0, 0⟩) :=
    ⟨by simp [stage.at_], fun _ issued => by cases issued⟩
  refine .step .start within ?_
  rw [work_step at_, stage.self]
  exact ran

theorem Progress.step {now : State} (yielded : (s.coro coro).yielded = true)
    (created : coro < now.coroCount) {data : DataPtr}
    (current : (s.coro coro).timerData = some data) (validate : (s.data data).validate = true)
    (idle : (s.data data).timeouting = false) (progress : Progress s asked coro now)
    (run : machine.Run (Within s.coSelf) asked now) (poised : Poised now)
    (named : now.registry.Named) (within : Within s.coSelf now label)
    (taken : machine.step now label = .ok s') : Progress s asked coro s' := by
  cases progress with
  | called stage objects records =>
      obtain ⟨_, ran⟩ := stage.step taken
      cases ran
      simp only [State.cancel, objects, yielded, Bool.not_true, Bool.false_eq_true, if_false]
      exact .cancels ⟨stage.stack, Function.update_self ..⟩ objects records
  | cancels stage objects records =>
      obtain ⟨_, ran⟩ := stage.step taken
      cases ran
      simp only [State.timerCancel, objects, current, records, validate, Bool.not_true,
        Bool.false_eq_true, if_false]
      refine .handles ⟨stage.stack, Function.update_self ..⟩ objects ?_
      simp [State.isTimeouting, State.goto, State.setData, objects, current, records, idle]
  | handles stage objects idle =>
      obtain ⟨_, ran⟩ := stage.step taken
      cases ran
      simp only [State.onCoroCancel, objects, yielded, idle, Bool.not_false, Bool.and_self, if_true]
      refine .resumes ⟨stage.stack, Function.update_self ..⟩ ?_
      simp [State.goto, State.setCoro, objects, yielded]
  | resumes stage object =>
      obtain ⟨_, ran⟩ := stage.step taken
      cases ran
      simp only [State.resume, object, yielded, Coro.isTimeoutedOrCancelled, Bool.or_true,
        Bool.not_true, Bool.false_eq_true, if_false, if_true]
      refine .switches ⟨stage.stack, Function.update_self ..⟩ ?_ ?_ ?_ ?_
      all_goals simp [State.goto, State.setCoro]
  | switches stage inner cancelled running times =>
      have at_ : now.frames now.coSelf = .coResume coro :: _ := stage.self.symm ▸ stage.at_
      have notLeaving : ¬ Leaving s' coro := by
        intro leaving
        rcases poised.leaving_cases named taken leaving with before | ⟨userRuns, _⟩
        · have frames := before.frames_cases
          rw [at_] at frames
          rcases frames with ⟨_, frames⟩ | ⟨_, frames⟩ | frames <;> cases frames
        · cases at_.symm.trans userRuns
      obtain ⟨_, entered, objects, _⟩ := coResume_cases at_ taken
      rw [← objects] at cancelled running times
      refine .interrupted (.step run within taken) ⟨?_, cancelled, running, times⟩ .start
        (.inr ⟨times, running, notLeaving⟩)
      rw [entered, inner, stage.stack]
  | interrupted before interrupted after past =>
      exact .interrupted before interrupted (.step after within taken)
        (past.step created poised named taken)

/-! ## When it takes effect -/

theorem Cancels.enters (cancels : Cancels s coro op)
    (taken : machine.step s (.user op) = .ok asked) :
    s.UserRuns ∧ asked = s.goto s.coSelf [.cancel coro] := by
  simp only [machine, State.step] at taken
  split at taken
  next userRuns =>
    refine ⟨userRuns, ?_⟩
    cases cancels with
    | pointer =>
        simp only [State.userStep] at taken
        split_ifs at taken
        cases taken
        rfl
    | id found =>
        simp only [State.userStep, State.withCoro, found] at taken
        cases taken
        rfl
  next => cases taken

theorem Cancels.created (cancels : Cancels s coro op) (named : s.registry.Named)
    (taken : machine.step s (.user op) = .ok asked) : coro < s.coroCount := by
  cases cancels with
  | pointer =>
      have frames : s.frames s.coSelf = [] := (Cancels.pointer.enters taken).1
      simp only [machine, State.step, frames, State.userStep] at taken
      split_ifs at taken with live
      simp only [State.live, Bool.and_eq_true, decide_eq_true_eq] at live
      exact live.1
  | id found => exact (named.corosKey _ coro found).1

/-- A `Cancel` that finds its coroutine suspended goes through these stages. -/
theorem progress_of_run {env : Bool} {now : State}
    (run : machine.Run TakesFreeId (State.init env) s) (cancels : Cancels s coro op)
    (taken : machine.step s (.user op) = .ok asked) (yielded : (s.coro coro).yielded = true)
    (armable : Armable s coro) (onward : machine.Run (Within s.coSelf) asked now) :
    Progress s asked coro now ∧ coro < now.coroCount := by
  obtain ⟨userRuns, isAsked⟩ := cancels.enters taken
  obtain ⟨data, current, validate⟩ := armable
  have idle : (s.data data).timeouting = false := by
    by_contra firing
    have expiring := (timed_of_run run).expiring coro data current validate (by simpa using firing)
    exact expiring.busy userRuns
  have reached : machine.Run TakesFreeId (State.init env) asked :=
    .step run (fun _ issued => by cases cancels <;> cases issued) taken
  induction onward with
  | start =>
      refine ⟨.called ⟨?_, ?_⟩ ?_ ?_, ?_⟩
      all_goals rw [isAsked]
      · rfl
      · exact Function.update_self ..
      · rfl
      · rfl
      · exact cancels.created (named_of_run run) taken
  | step prior within stepped ih =>
      obtain ⟨progress, created⟩ := ih
      have before := reached.trans (prior.mono fun _ _ within => within.freeId)
      refine ⟨progress.step yielded created current validate idle prior (poised_of_run before)
        (named_of_run before) within stepped, ?_⟩
      exact ((step_change stepped).yieldTimes_le created).2

/-- A `Cancel` of a coroutine that is not suspended reports failure. -/
theorem refused_of_run (cancels : Cancels s coro op)
    (taken : machine.step s (.user op) = .ok asked) (running : (s.coro coro).yielded = false)
    (onward : machine.Run (Within s.coSelf) asked returned) :
    returned = asked ∨ returned.ret = llbcFailed ∧ returned.frames s.coSelf = [] := by
  obtain ⟨_, isAsked⟩ := cancels.enters taken
  induction onward with
  | start => exact .inl rfl
  | step _ within stepped ih =>
      rcases ih with same | ⟨_, none⟩
      · right
        rw [same, isAsked] at stepped
        have at_ : (s.goto s.coSelf [.cancel coro]).frames s.coSelf = [.cancel coro] :=
          Function.update_self ..
        obtain ⟨_, ran⟩ := step_work at_ stepped
        cases ran
        simp [State.cancel, State.goto, State.returns, State.coSelf, running]
      · exact absurd none within.busy

/-- Without a valid record `Cancel` reports success and does nothing. -/
theorem idle_cancel (cancels : Cancels s coro op)
    (taken : machine.step s (.user op) = .ok asked) (yielded : (s.coro coro).yielded = true)
    (unarmed : ¬ Armable s coro) :
    ∃ returned, machine.Run (Within s.coSelf) asked returned ∧ returned.frames s.coSelf = [] ∧
      returned.ret = 0 ∧ returned.coro = s.coro := by
  obtain ⟨_, isAsked⟩ := cancels.enters taken
  have objects : asked.coro = s.coro := by rw [isAsked]; rfl
  have records : asked.data = s.data := by rw [isAsked]; rfl
  have called : Stage s asked [.cancel coro] := by
    rw [isAsked]
    exact ⟨rfl, Function.update_self ..⟩
  obtain ⟨first, cancelling, stage, sameObjects, sameRecords⟩ :
      ∃ first, machine.Run (Within s.coSelf) asked first ∧
        Stage s first [.timerCancel coro, .cancelRet] ∧ first.coro = s.coro ∧
        first.data = s.data := by
    refine ⟨_, called.run rfl, ?_⟩
    simp only [State.cancel, objects, yielded, Bool.not_true, Bool.false_eq_true, if_false]
    exact ⟨⟨called.stack, Function.update_self ..⟩, objects, records⟩
  obtain ⟨second, skipping, stage, sameObjects⟩ :
      ∃ second, machine.Run (Within s.coSelf) first second ∧ Stage s second [.cancelRet] ∧
        second.coro = s.coro := by
    refine ⟨_, stage.run rfl, ?_⟩
    simp only [State.timerCancel, sameObjects, sameRecords]
    split
    · exact ⟨⟨stage.stack, Function.update_self ..⟩, sameObjects⟩
    next data current =>
      have invalid : (s.data data).validate = false := by
        by_contra validate
        exact unarmed ⟨data, current, by simpa using validate⟩
      simp only [invalid, Bool.not_false, if_true]
      exact ⟨⟨stage.stack, Function.update_self ..⟩, sameObjects⟩
  exact ⟨_, (cancelling.trans skipping).trans (stage.run rfl), Function.update_self .., rfl,
    sameObjects⟩

/-- What `Cancel` needs in order to take effect: the coroutine is not suspended, so that
`Cancel` reports failure, or its timer is armed. -/
def Cancellable (s : State) (coro : CoroPtr) : Prop :=
  (s.coro coro).yielded = true → Armable s coro

/-- In every run in which a coroutine gets no id that another one still has, a `Cancel`
that user code makes takes effect whenever it reports success, exactly when the coroutine
is `Cancellable` at the call. -/
theorem cancel_takes_effect_iff {env : Bool}
    (run : machine.Run TakesFreeId (State.init env) s) (cancels : Cancels s coro op)
    (taken : machine.step s (.user op) = .ok asked) :
    TakesEffect s asked coro ↔ Cancellable s coro := by
  constructor
  · intro takesEffect yielded
    by_contra unarmed
    obtain ⟨returned, onward, back, success, objects⟩ := idle_cancel cancels taken yielded unarmed
    refine (takesEffect returned onward back success).2 ?_
    rw [objects]
    exact ⟨yielded, rfl⟩
  · intro cancellable returned onward back success
    by_cases yielded : (s.coro coro).yielded = true
    · cases (progress_of_run run cancels taken yielded (cancellable yielded) onward).1 with
      | interrupted before interrupted after past =>
          exact ⟨⟨_, before, interrupted, after⟩, past.not_suspended⟩
      | called stage | cancels stage | handles stage | resumes stage | switches stage =>
          cases back.symm.trans stage.at_
    · have running : (s.coro coro).yielded = false := by simpa using yielded
      rcases refused_of_run cancels taken running onward with same | ⟨failed, _⟩
      · obtain ⟨_, isAsked⟩ := cancels.enters taken
        rw [same, isAsked] at back
        simp [State.goto] at back
      · rw [failed] at success
        cases success

/-- A coroutine yields, and the main coroutine cancels it by its id. -/
theorem suspended_cancel_takes_effect :
    let check := fun s label => decide (TakesFreeId s label)
    let s := (machine.replay check (State.init false)
      [.user (.createCoro 0 0), .user (.coroResume 0 .nil), .work ⟨0, 0⟩, .work ⟨0, 0⟩,
        .work ⟨0, 0⟩, .user (.yield 0), .work ⟨0, 0⟩, .work ⟨0, 0⟩, .work ⟨0, 0⟩,
        .work ⟨0, 0⟩]).get (by decide +kernel)
    let asked := (machine.replay check s [.user (.cancel 1)]).get (by decide +kernel)
    TakesEffect s asked 0 := by
  intro check s asked
  have run : machine.Run TakesFreeId (State.init false) s :=
    .of_replay (fun _ _ passes => of_decide_eq_true passes) (Option.some_get _).symm
  have taken : machine.step s (.user (.cancel 1)) = .ok asked :=
    Machine.step_of_replay (Option.some_get _).symm
  have found : s.getCoro 1 = some 0 := by decide +kernel
  refine (cancel_takes_effect_iff run (.id found) taken).mpr fun _ => ⟨1, ?_, ?_⟩
  · decide +kernel
  · decide +kernel

/-- A coroutine that has been created and not started is cancelled: `Cancel` returns 0,
and the coroutine is still waiting for its first `Resume`, with no flag set. -/
theorem cancel_before_start_ignored :
    (machine.replay (fun s label => decide (TakesFreeId s label)) (State.init false)
      [.user (.createCoro 0 0), .user (.coroCancel 0), .work ⟨0, 0⟩, .work ⟨0, 0⟩,
        .work ⟨0, 0⟩]).map
      (fun s => decide (s.UserRuns ∧ s.ret = 0 ∧ (s.coro 0).yielded = true ∧
        (s.coro 0).cancelled = false ∧ (s.coro 0).resumeTimes = 0 ∧ s.events = [.created 0])) =
    some true := by
  decide +kernel

/-- In a disciplined run the coroutines that are not `Cancellable` are those that have
not been started. -/
theorem cancellable_iff_started {env : Bool} (run : machine.Run Disciplined (State.init env) s)
    (userRuns : s.UserRuns) (yielded : (s.coro coro).yielded = true) :
    Cancellable s coro ↔ (s.coro coro).resumeTimes ≠ 0 := by
  have core := core_of_run run userRuns
  rcases core.yielded_cases yielded with ⟨_, fresh⟩ | ⟨times, _, suspended⟩
  · refine iff_of_false (fun cancellable => ?_) (by simp [fresh.counters.2])
    obtain ⟨data, current, _⟩ := cancellable yielded
    rw [fresh.unarmed] at current
    cases current
  · obtain ⟨data, armed⟩ := suspended.armed
    have started := suspended.positive
    rw [← suspended.counters.2] at started
    exact iff_of_true (fun _ => ⟨data, armed.current, armed.validate⟩) (Nat.ne_of_gt started)

end LibcoRpc.CoroMgr
