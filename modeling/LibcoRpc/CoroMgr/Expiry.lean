import LibcoRpc.CoroMgr.Deadline
import LibcoRpc.CoroMgr.Chronicle

/-!
# What an `Update` times out

The course of one `Update` that the main coroutine calls, from its clock reading `now` to
its return. Coroutines that it resumes run inside it and may call anything, `Update` too;
meanwhile the main coroutine waits at its `co_resume`, and when it goes on the loop finds
the heap as they have left it.
-/

namespace LibcoRpc.CoroMgr

variable {s s' : State} {label : Label} {coro : CoroPtr} {data : DataPtr} {now : Int}
  {frames : List Frame}

/-- The timeout handler of a coroutine has been called for the suspension it is in. -/
structure Overdue (s : State) (now : Int) (coro : CoroPtr) (data : DataPtr) : Prop where
  yielded : (s.coro coro).yielded = true
  current : (s.coro coro).timerData = some data
  timeouting : (s.data data).timeouting = true
  due : (s.data data).handle ≤ now
  lives : life coro s.events = some (.firing (s.coro coro).yieldTimes)

/-- No suspension is overdue. -/
def Caught (s : State) (now : Int) : Prop :=
  ∀ coro data, (s.coro coro).yielded = true → (s.coro coro).timerData = some data →
    now < (s.data data).handle

/-- The recycle phase of an `Update`, after which it returns. -/
inductive Recycles (s : State) : List Frame → Prop where
  | start : Recycles s [.updateRecycle]
  | loop (pending : List CoroPtr) : Recycles s [.recycle pending]
  | destroy {coro : CoroPtr} (pending : List CoroPtr) (ended : (s.coro coro).yielded = false) :
      Recycles s [.destroy coro, .recycle pending]
  | cancelling {coro : CoroPtr} {frames : List Frame} (pending : List CoroPtr)
      (ended : (s.coro coro).yielded = false)
      (at_ : Cancelling coro [.destroyTimer coro, .recycle pending] frames) : Recycles s frames
  | destroyTimer (coro : CoroPtr) (pending : List CoroPtr) :
      Recycles s [.destroyTimer coro, .recycle pending]
  | done : Recycles s []

/-- `OnCoroTimeout` in progress, with what is left of it and of the `Update`. -/
inductive Handling (now : Int) (coro : CoroPtr) (data : DataPtr) : List Frame → Prop where
  | timerCancel : Handling now coro data [.timerCancel coro, .resume coro .nil .expiry,
      .schedUpdateRet now data, .updateRecycle]
  | onCoroCancel : Handling now coro data [.onCoroCancel coro, .schedCancelRet coro data,
      .resume coro .nil .expiry, .schedUpdateRet now data, .updateRecycle]
  | schedCancelRet : Handling now coro data [.schedCancelRet coro data,
      .resume coro .nil .expiry, .schedUpdateRet now data, .updateRecycle]
  | resume : Handling now coro data [.resume coro .nil .expiry, .schedUpdateRet now data,
      .updateRecycle]

/-- How far an `Update` has come that runs itself. -/
inductive Updating (s : State) (now : Int) : List Frame → Prop where
  | loop : Updating s now [.schedLoop now, .updateRecycle]
  | called {coro : CoroPtr} {data : DataPtr} (overdue : Overdue s now coro data) :
      Updating s now [.onCoroTimeout coro, .schedUpdateRet now data, .updateRecycle]
  | handling {coro : CoroPtr} {data : DataPtr} {frames : List Frame}
      (overdue : Overdue s now coro data) (timeouted : (s.coro coro).timeouted = true)
      (at_ : Handling now coro data frames) : Updating s now frames
  | switching (coro : CoroPtr) (data : DataPtr) :
      Updating s now [.coResume coro, .schedUpdateRet now data, .updateRecycle]
  | back (data : DataPtr) : Updating s now [.schedUpdateRet now data, .updateRecycle]
  | swept {frames : List Frame} (caught : Caught s now) (recycles : Recycles s frames) :
      Updating s now frames

/-- How far an `Update` of the main coroutine has come. -/
inductive InUpdate (s : State) (now : Int) : Prop where
  | own (self : s.coSelf = .main) (at_ : Updating s now (s.frames s.coSelf))
  /-- A coroutine that it has resumed has control, or has just given it back. -/
  | inside (coro : CoroPtr) (data : DataPtr)
      (at_ : s.frames .main = [.resumeRet coro, .schedUpdateRet now data, .updateRecycle])

/-! ## The loop -/

/-- When the heap holds no entry that is due, no suspension is overdue. -/
theorem Core.caught (core : Core s) (later : ∀ data ∈ s.heap, now < (s.data data).handle) :
    Caught s now := by
  intro coro data yielded current
  rcases core.yielded_cases yielded with ⟨_, fresh⟩ | ⟨_, _, suspended⟩
  · rw [fresh.unarmed] at current
    cases current
  · obtain ⟨held, armed⟩ := suspended.armed
    have same : held = data := Option.some.inj (armed.current.symm.trans current)
    exact later data (same ▸ armed.inHeap)

theorem later_of_isTop {top : DataPtr} (isTop : s.isTop top = true)
    (notDue : now < (s.data top).handle) : ∀ data ∈ s.heap, now < (s.data data).handle := by
  intro data inHeap
  simp only [State.isTop, Bool.and_eq_true, List.all_eq_true, decide_eq_true_eq] at isTop
  exact Int.lt_of_lt_of_le notDue (isTop.2 data inHeap)

/-- The record that the loop fires is that of the suspension its coroutine is in. -/
theorem Core.firing (core : Core s) (validate : (s.data data).validate = true) :
    (s.coro (s.data data).timer).yielded = true ∧
      (s.coro (s.data data).timer).timerData = some data ∧
      life (s.data data).timer (.fired (s.data data).timer (s.data data).armedFor :: s.events) =
        some (.firing (s.coro (s.data data).timer).yieldTimes) := by
  obtain ⟨_, current, times, lives⟩ := core.pending data validate
  obtain ⟨phase, livesToo, stands⟩ := core.stands (s.data data).timer (by simp)
  rw [lives] at livesToo
  cases livesToo
  have suspended : Suspended s (s.data data).timer times := stands
  obtain ⟨held, armed⟩ := suspended.armed
  have same : held = data := Option.some.inj (armed.current.symm.trans current)
  subst same
  refine ⟨suspended.yielded, current, ?_⟩
  rw [life_cons_own rfl, lives, suspended.counters.1]
  simp [Phase.onOwn, armed.armedFor]

theorem Updating.loop_step (core : Core s)
    (at_ : s.frames s.coSelf = [.schedLoop now, .updateRecycle])
    (taken : machine.step s label = .ok s') :
    s'.callStack = s.callStack ∧ Updating s' now (s'.frames s.coSelf) := by
  obtain ⟨choice, ran⟩ := step_work at_ taken
  simp only [State.runFrame, State.schedLoop] at ran
  split at ran
  next empty =>
    cases ran
    refine ⟨rfl, ?_⟩
    have none : s.heap = [] := by simpa using empty
    rw [goto_frames]
    exact .swept (core.caught (by simp [none])) .start
  · split at ran
    · cases ran
    next isTop =>
      split at ran
      next notDue =>
        cases ran
        refine ⟨rfl, ?_⟩
        rw [goto_frames]
        exact .swept (core.caught (later_of_isTop (by simpa using isTop) notDue)) .start
      next due =>
        split at ran
        · cases ran
          refine ⟨rfl, ?_⟩
          rw [goto_frames]
          exact .loop
        next validate =>
          cases ran
          refine ⟨rfl, ?_⟩
          obtain ⟨yielded, current, lives⟩ := core.firing (by simpa using validate)
          rw [goto_frames]
          refine .called ⟨yielded, current, ?_, ?_, lives⟩
          · simp [State.goto, State.record, State.setData]
          · simpa [State.goto, State.record, State.setData] using due

/-! ## The timeout handler -/

theorem Overdue.still (overdue : Overdue s now coro data)
    (yielded : (s'.coro coro).yielded = (s.coro coro).yielded)
    (held : (s'.coro coro).timerData = (s.coro coro).timerData)
    (times : (s'.coro coro).yieldTimes = (s.coro coro).yieldTimes)
    (timeouting : (s'.data data).timeouting = (s.data data).timeouting)
    (handle : (s'.data data).handle = (s.data data).handle) (events : s'.events = s.events) :
    Overdue s' now coro data where
  yielded := yielded.trans overdue.yielded
  current := held.trans overdue.current
  timeouting := timeouting.trans overdue.timeouting
  due := handle ▸ overdue.due
  lives := by rw [events, times]; exact overdue.lives

theorem Updating.called_step (overdue : Overdue s now coro data)
    (at_ : s.frames s.coSelf =
      [.onCoroTimeout coro, .schedUpdateRet now data, .updateRecycle])
    (taken : machine.step s label = .ok s') :
    s'.callStack = s.callStack ∧ Updating s' now (s'.frames s.coSelf) := by
  obtain ⟨_, ran⟩ := step_work at_ taken
  simp only [State.runFrame, State.onCoroTimeout] at ran
  split_ifs at ran
  cases ran
  refine ⟨rfl, ?_⟩
  rw [goto_frames]
  refine .handling (overdue.still ?_ ?_ ?_ rfl rfl rfl) ?_ .timerCancel
  all_goals simp [State.goto, State.setCoro]

/-- The handler's `timer_.Cancel()` resumes nothing, as the record says that it is being
handled; its `Resume` does. -/
theorem Updating.handling_step (overdue : Overdue s now coro data)
    (timeouted : (s.coro coro).timeouted = true)
    (handling : Handling now coro data (s.frames s.coSelf))
    (taken : machine.step s label = .ok s') :
    s'.callStack = s.callStack ∧ Updating s' now (s'.frames s.coSelf) := by
  generalize at_ : s.frames s.coSelf = frames at handling
  cases handling with
  | timerCancel =>
      obtain ⟨_, ran⟩ := step_work at_ taken
      cases ran
      simp only [State.timerCancel, overdue.current]
      split
      · refine ⟨rfl, ?_⟩
        rw [goto_frames]
        exact .handling (overdue.still rfl rfl rfl rfl rfl rfl) timeouted .resume
      · refine ⟨rfl, ?_⟩
        rw [goto_frames]
        refine .handling (overdue.still rfl rfl rfl ?_ ?_ rfl) timeouted .onCoroCancel
        all_goals simp [State.goto, State.setData]
  | onCoroCancel =>
      obtain ⟨_, ran⟩ := step_work at_ taken
      cases ran
      have beingHandled : s.isTimeouting coro = true := by
        simp [State.isTimeouting, overdue.current, overdue.timeouting]
      simp only [State.onCoroCancel, beingHandled, Bool.not_true, Bool.and_false,
        Bool.false_eq_true, if_false]
      refine ⟨rfl, ?_⟩
      rw [goto_frames]
      exact .handling (overdue.still rfl rfl rfl rfl rfl rfl) timeouted .schedCancelRet
  | schedCancelRet =>
      obtain ⟨_, ran⟩ := step_work at_ taken
      simp only [State.runFrame, State.schedCancelRet] at ran
      split at ran
      · cases ran
      · split at ran
        · cases ran
          refine ⟨rfl, ?_⟩
          rw [goto_frames]
          refine .handling (overdue.still rfl rfl rfl ?_ ?_ rfl) timeouted .resume
          all_goals simp [State.goto, State.returns, State.setData]
        next notHandled => simp [State.returns, State.setData, overdue.timeouting] at notHandled
  | resume =>
      obtain ⟨_, ran⟩ := step_work at_ taken
      cases ran
      simp only [State.resume, overdue.yielded, Coro.isTimeoutedOrCancelled, timeouted,
        Bool.true_or, Bool.not_true, Bool.false_eq_true, if_false, if_true]
      refine ⟨rfl, ?_⟩
      rw [goto_frames]
      exact .switching coro data

/-! ## The recycle phase -/

/-- Frames whose code is calm. -/
def Frame.tame : Frame → Bool
  | .resume _ _ _ => false
  | .schedLoop _ => false
  | .schedUpdateRet _ _ => false
  | frame => !frame.hot

theorem calm_of_tame {frame : Frame} {rest : List Frame} (tame : frame.tame = true)
    (at_ : s.frames s.coSelf = frame :: rest) (taken : machine.step s label = .ok s') :
    Calm s s' := by
  cases step_change taken with
  | calm calm => exact calm
  | resumed other | switched other | arms other | suspends other | fires other | rearms other =>
      cases at_.symm.trans other
      cases tame
  | yields userRuns | makes userRuns | finishes userRuns => cases at_.symm.trans userRuns

theorem Caught.calm (caught : Caught s now) (calm : Calm s s') : Caught s' now := by
  intro coro data yielded current
  have keeps := calm.objects coro
  rw [(calm.records data).handle]
  exact caught coro data (keeps.yielded ▸ yielded) (keeps.timerData data current)

/-- Deleting coroutines that have ended resumes none and suspends none. -/
theorem Recycles.step (deletes : DeletesEnded s) (recycles : Recycles s (s.frames s.coSelf))
    (busy : s.frames s.coSelf ≠ []) (taken : machine.step s label = .ok s') :
    Calm s s' ∧ Recycles s' (s'.frames s.coSelf) := by
  generalize at_ : s.frames s.coSelf = frames at recycles
  cases recycles with
  | start =>
      refine ⟨calm_of_tame rfl at_ taken, ?_⟩
      obtain ⟨_, ran⟩ := step_work at_ taken
      cases ran
      simp only [State.updateRecycle]
      split
      · rw [goto_frames]
        exact .done
      · rw [goto_frames]
        exact .loop _
  | loop pending =>
      refine ⟨calm_of_tame rfl at_ taken, ?_⟩
      obtain ⟨_, ran⟩ := step_work at_ taken
      cases ran
      cases pending with
      | nil =>
          rw [State.recycle, goto_frames]
          exact .done
      | cons coro pending =>
          have ended := (deletes coro pending [] at_).yielded
          have notYielded : ((s.record (.deleting coro)).coro coro).yielded = false := ended
          simp only [State.recycle, notYielded, Bool.false_eq_true, if_false]
          rw [goto_frames]
          exact .destroy pending ended
  | @destroy coro pending ended =>
      refine ⟨calm_of_tame rfl at_ taken, ?_⟩
      obtain ⟨_, ran⟩ := step_work at_ taken
      cases ran
      simp only [State.destroy]
      split
      · rw [goto_frames]
        exact .loop pending
      · rw [goto_frames]
        exact .cancelling pending ended .timerCancel
  | @cancelling coro _ pending ended cancelling =>
      have calm : Calm s s' := by
        cases cancelling with
        | timerCancel | onCoroCancel | schedCancelRet => exact calm_of_tame rfl at_ taken
      rw [← at_] at cancelling
      obtain ⟨_, still, ⟨done, _⟩ | going, _⟩ := cancelling.step ended taken
      · exact ⟨calm, done ▸ .destroyTimer coro pending⟩
      · exact ⟨calm, .cancelling pending still going⟩
  | destroyTimer coro pending =>
      refine ⟨calm_of_tame rfl at_ taken, ?_⟩
      obtain ⟨_, ran⟩ := step_work at_ taken
      simp only [State.runFrame, State.destroyTimer] at ran
      split at ran
      · cases ran
      · cases ran
        rw [goto_frames]
        exact .loop pending
  | done => exact absurd at_ busy

/-! ## The whole `Update` -/

theorem InUpdate.step {env : Bool} (run : machine.Run Disciplined (State.init env) s)
    (inUpdate : InUpdate s now) (busy : s.frames .main ≠ [])
    (taken : machine.step s label = .ok s') : InUpdate s' now := by
  have stays : s.coSelf = .main →
      s'.callStack = s.callStack ∧ Updating s' now (s'.frames s.coSelf) → InUpdate s' now := by
    rintro self ⟨stack, next⟩
    have same := coSelf_of_stack stack
    exact .own (same.trans self) (same ▸ next)
  cases inUpdate with
  | own self updating =>
      have onward := stays self
      have working := busy
      rw [← self] at working
      generalize at_ : s.frames s.coSelf = frames at updating
      cases updating with
      | loop => exact onward (Updating.loop_step (core_of_loop run at_) at_ taken)
      | called overdue => exact onward (Updating.called_step overdue at_ taken)
      | handling overdue timeouted handling =>
          exact onward (Updating.handling_step overdue timeouted (at_ ▸ handling) taken)
      | switching coro data =>
          refine .inside coro data ?_
          rw [(coResume_cases at_ taken).2.2.2, ← self, Function.update_self]
      | back data =>
          refine onward ?_
          obtain ⟨_, ran⟩ := step_work at_ taken
          cases ran
          simp only [State.schedUpdateRet]
          split
          all_goals
            refine ⟨rfl, ?_⟩
            rw [goto_frames]
            exact .loop
      | swept caught recycles =>
          have deletes : DeletesEnded s := by
            intro coro pending rest atRecycle
            exact ((settled_of_run run).1.along (not_resting atRecycle rfl)).deletesEnded coro
              pending rest atRecycle
          obtain ⟨calm, next⟩ := Recycles.step deletes (at_ ▸ recycles) working taken
          exact onward ⟨calm.stack, .swept (caught.calm calm) next⟩
  | inside coro data at_ =>
      by_cases self : s.coSelf = .main
      · rw [← self] at at_
        obtain ⟨_, ran⟩ := step_work at_ taken
        cases ran
        refine stays self ⟨rfl, ?_⟩
        rw [goto_frames]
        exact .back data
      · refine .inside coro data ?_
        rw [step_frames taken (Ne.symm self)]
        exact at_

/-- The `Update` of the main coroutine is in progress, and the step is one that the run may
take. -/
structure During (Allowed : State → Label → Prop) (s : State) (label : Label) : Prop where
  busy : s.frames .main ≠ []
  allowed : Allowed s label

instance (Allowed : State → Label → Prop) (s : State) (label : Label)
    [Decidable (Allowed s label)] : Decidable (During Allowed s label) :=
  decidable_of_iff (s.frames .main ≠ [] ∧ Allowed s label)
    ⟨fun both => ⟨both.1, both.2⟩, fun during => ⟨during.busy, during.allowed⟩⟩

theorem inUpdate_of_run {env : Bool} {asked begun : State} {choice : Choice}
    (run : machine.Run Disciplined (State.init env) s) (userRuns : s.UserRuns)
    (onMain : s.coSelf = .main) (asks : machine.step s (.user .update) = .ok asked)
    (begins : machine.step asked (.work choice) = .ok begun)
    (onward : machine.Run (During Disciplined) begun s') : InUpdate s' choice.now := by
  have core := core_of_run run userRuns
  have frames : s.frames s.coSelf = [] := userRuns
  have isAsked : asked = s.goto s.coSelf [.schedUpdate, .updateRecycle] := by
    simp only [machine, State.step, frames, State.userStep] at asks
    cases asks
    rfl
  have at_ : asked.frames asked.coSelf = [.schedUpdate, .updateRecycle] := by
    rw [isAsked]
    exact goto_frames ..
  have asking : Disciplined s (.user .update) := ⟨fun _ issued => (by cases issued), trivial⟩
  have beginning : Disciplined asked (.work choice) := by
    refine ⟨fun _ issued => (by cases issued), fun data compared => ?_⟩
    simp [State.compared, at_] at compared
  have reached := Machine.Run.step (run.step asking asks) beginning begins
  induction onward with
  | start =>
      rw [work_step at_] at begins
      cases begins
      subst isAsked
      simp only [State.schedUpdate]
      split
      next empty =>
        have none : s.heap = [] := by simpa [State.goto] using empty
        have caught : Caught s choice.now := core.caught (by simp [none])
        refine .own onMain ?_
        change Updating _ _ ((State.goto _ s.coSelf [.updateRecycle]).frames s.coSelf)
        rw [goto_frames]
        exact .swept caught .start
      next =>
        refine .own onMain ?_
        change Updating _ _
          ((State.goto _ s.coSelf [.schedLoop choice.now, .updateRecycle]).frames s.coSelf)
        rw [goto_frames]
        exact .loop
  | step prior during taken ih =>
      have before := reached.trans (prior.mono fun _ _ during => during.allowed)
      exact ih.step before during.busy taken

/-- What an `Update` times out: coroutines that are in a suspension whose deadline has
come and that nothing has ended before. -/
structure TimesOut (s : State) (now : Int) (coro : CoroPtr) (times : Nat) : Prop where
  yielded : (s.coro coro).yielded = true
  current : (s.coro coro).yieldTimes = times
  due : ∃ due, s.deadline coro = some due ∧ due ≤ now
  first : ∀ cause passData, .ended coro times cause passData ∉ s.events

/-- Whatever the main coroutine resumes in its `Update`, it times out. -/
theorem InUpdate.timesOut (inUpdate : InUpdate s now) (onMain : s.coSelf = .main)
    {times : Nat} {cause : Cause} {passData : Variant} (taken : machine.step s label = .ok s')
    (recorded : s'.events = .ended coro times cause passData :: s.events) :
    cause = .expiry ∧ TimesOut s now coro times := by
  -- Only `Resume` ends a suspension.
  have resumes : ∃ frame rest, s.frames s.coSelf = frame :: rest ∧
      frame.records (.ended coro times cause passData) = true := by
    cases label with
    | user op =>
        simp only [machine, State.step] at taken
        split at taken
        · have records := userStep_records taken recorded
          cases op <;> cases records
        · cases taken
    | work choice =>
        simp only [machine, State.step] at taken
        split at taken
        · cases taken
        next frame rest at_ => exact ⟨frame, rest, at_, runFrame_records taken recorded⟩
  obtain ⟨frame, rest, at_, records⟩ := resumes
  cases inUpdate with
  | inside other data atInside =>
      rw [onMain, atInside] at at_
      cases at_
      cases records
  | own _ updating =>
      rw [at_] at updating
      cases updating with
      | loop | called | switching | back => cases records
      | swept _ recycles =>
          cases recycles with
          | start | loop | destroy | destroyTimer => cases records
          | cancelling _ _ cancelling => cases cancelling <;> cases records
      | handling overdue timeouted handling =>
          cases handling with
          | timerCancel | onCoroCancel | schedCancelRet => cases records
          | resume =>
              obtain ⟨_, ran⟩ := step_work at_ taken
              cases ran
              simp only [State.resume, overdue.yielded, Coro.isTimeoutedOrCancelled, timeouted,
                Bool.true_or, Bool.not_true, Bool.false_eq_true, if_false, if_true, State.goto,
                State.setCoro, State.record, List.cons.injEq, and_true] at recorded
              cases recorded
              refine ⟨rfl, overdue.yielded, rfl, ⟨_, ?_, overdue.due⟩, ?_⟩
              · exact deadline_eq_some.mpr ⟨overdue.yielded, _, overdue.current, rfl⟩
              · intro cause passData ended
                have none := (Chronicle.of_life overdue.lives).notYet _ (Nat.le_refl _)
                rw [List.countP_eq_zero] at none
                exact none _ ended (by simp [Event.ends])

/-- When an `Update` returns, no deadline has passed that had come at its clock reading. -/
theorem InUpdate.returned (inUpdate : InUpdate s now) (back : s.frames .main = []) {due : Int}
    (deadline : s.deadline coro = some due) : now < due := by
  cases inUpdate with
  | inside _ _ at_ => cases back.symm.trans at_
  | own self updating =>
      rw [self, back] at updating
      cases updating with
      | handling _ _ handling => cases handling
      | swept caught _ =>
          obtain ⟨yielded, data, current, rfl⟩ := deadline_eq_some.mp deadline
          exact caught coro data yielded current

/-- What holds of deadlines and of `Update` at a state in which user code runs, as long as
the steps that follow are allowed ones. -/
structure Punctual (Allowed : State → Label → Prop) (s : State) : Prop where
  /-- Every coroutine inside `Yield` has a deadline. -/
  exists_ : ∀ coro, (s.coro coro).yielded = true → 1 ≤ (s.coro coro).yieldTimes →
    ∃ due, s.deadline coro = some due
  /-- `Yield` sets it to the clock it reads plus the timeout in milliseconds, and it stays
  so as long as the suspension lasts. -/
  set : ∀ coro timeout op asked cancelled armed suspended (first second third : Choice),
    s.coSelf = .co coro → Yields coro timeout op → Allowed s (.user op) →
    machine.step s (.user op) = .ok asked →
    machine.step asked (.work first) = .ok cancelled →
    machine.step cancelled (.work second) = .ok armed →
    machine.step armed (.work third) = .ok suspended →
      suspended.deadline coro = some (second.now + dueAfter timeout) ∧
      ∀ later due, machine.Run Allowed suspended later →
        (later.coro coro).yieldTimes = (suspended.coro coro).yieldTimes →
        later.deadline coro = some due → due = second.now + dueAfter timeout
  /-- An `Update` that the main coroutine calls resumes only coroutines that it times out,
  and when it returns none is left that it should have timed out. -/
  update : s.coSelf = .main → ∀ asked begun choice, machine.step s (.user .update) = .ok asked →
    machine.step asked (.work choice) = .ok begun →
    (∀ now next label coro times cause passData, machine.Run (During Allowed) begun now →
      now.coSelf = .main → machine.step now label = .ok next →
      next.events = .ended coro times cause passData :: now.events →
        cause = .expiry ∧ TimesOut now choice.now coro times) ∧
    ∀ returned, machine.Run (During Allowed) begun returned → returned.frames .main = [] →
      ∀ coro due, returned.deadline coro = some due → choice.now < due

theorem punctual_of_disciplined {env : Bool} (run : machine.Run Disciplined (State.init env) s)
    (userRuns : s.UserRuns) : Punctual Disciplined s where
  exists_ _ yielded started := (core_of_run run userRuns).deadline_isSome yielded started
  set coro timeout op asked cancelled armed suspended first second third self yields _ asks
      cancels arms suspends := by
    have core := core_of_run run userRuns
    have named := (settled_of_run run).2
    obtain ⟨deadline, yielding⟩ :=
      core.yield_deadline named userRuns self yields asks cancels arms suspends
    refine ⟨deadline, fun later due onward same isDue => ?_⟩
    obtain ⟨rest, stack⟩ := named.callStack_cons
    have onStack : .co coro ∈ s.callStack := by simp [stack, self]
    have allocated : coro < s.coroCount := named.allocated coro (named.onStack coro onStack).1
    have kept := deadline_kept (run.trans yielding) (created_of_run allocated yielding)
      (deadline_eq_some.mp deadline).1 onward same isDue
    exact Option.some.inj (kept.symm.trans deadline)
  update onMain asked begun choice asks begins := by
    have inUpdate : ∀ now, machine.Run (During Disciplined) begun now → InUpdate now choice.now :=
      fun _ onward => inUpdate_of_run run userRuns onMain asks begins onward
    constructor
    · intro now next label coro times cause passData onward onMainNow taken recorded
      exact (inUpdate now onward).timesOut onMainNow taken recorded
    · intro returned onward back coro due deadline
      exact (inUpdate returned onward).returned back deadline

/-- The course of an `Update` in a timely run is one of a disciplined run. -/
theorem During.disciplined_of_timely {start : State} (brief : Brief start)
    (run : machine.Run (During Timely) start s) : machine.Run (During Disciplined) start s := by
  have briefRun := run.and_invariant Brief brief
    fun _ _ _ brief during taken => brief.step during.allowed.brief taken
  exact briefRun.mono fun _ _ both => ⟨both.1.busy, both.1.allowed.disciplined both.2⟩

/-- In every timely run, `Update` times out the suspensions whose deadlines have come
and no others, each at most once. -/
theorem update_times_out_due {env : Bool} (run : machine.Run Timely (State.init env) s)
    (userRuns : s.UserRuns) : Punctual Timely s := by
  have brief := brief_of_run run
  have punctual := punctual_of_disciplined (disciplined_of_timely run) userRuns
  refine ⟨punctual.exists_, ?_, ?_⟩
  · intro coro timeout op asked cancelled armed suspended first second third self yields timely
      asks cancels arms suspends
    -- The work of a `Yield` asks for no other timeout.
    have briefThen : Brief suspended :=
      (((brief.step timely.brief asks).work cancels).work arms).work suspends
    obtain ⟨deadline, kept⟩ := punctual.set coro timeout op asked cancelled armed suspended first
      second third self yields (timely.disciplined brief) asks cancels arms suspends
    exact ⟨deadline, fun later due onward =>
      kept later due (disciplined_of_timely_from briefThen onward)⟩
  · intro onMain asked begun choice asks begins
    have asksNothing : BriefYield (.user .update) := fun _ none => by cases none
    have briefThen : Brief begun := (brief.step asksNothing asks).work begins
    obtain ⟨timesOut, returns⟩ := punctual.update onMain asked begun choice asks begins
    exact ⟨fun now next label coro times cause passData onward =>
        timesOut now next label coro times cause passData
          (During.disciplined_of_timely briefThen onward),
      fun returned onward => returns returned (During.disciplined_of_timely briefThen onward)⟩

/-- A coroutine that has been cancelled yields again, for 5 s at clock 1500; an `Update` at
7000 is about to resume it. -/
theorem sleeper_times_out :
    let during := fun s label => decide (During Timely s label)
    let s := (timelyReplay (cancelledAt 1500)).get (by decide +kernel)
    let asked := (machine.replay (fun _ _ => true) s [.user .update]).get (by decide +kernel)
    let begun := (machine.replay (fun _ _ => true) asked [.work ⟨7000, 0⟩]).get
      (by decide +kernel)
    let now := (machine.replay during begun [.work ⟨7000, 2⟩, .work ⟨7000, 0⟩, .work ⟨7000, 0⟩,
      .work ⟨7000, 0⟩, .work ⟨7000, 0⟩]).get (by decide +kernel)
    TimesOut now 7000 0 2 := by
  intro during s asked begun now
  have run : machine.Run Timely (State.init false) s :=
    run_of_timelyReplay (Option.some_get _).symm
  have userRuns : s.UserRuns := by decide +kernel
  have asks : machine.step s (.user .update) = .ok asked :=
    Machine.step_of_replay (Option.some_get _).symm
  have begins : machine.step asked (.work ⟨7000, 0⟩) = .ok begun :=
    Machine.step_of_replay (Option.some_get _).symm
  have onward : machine.Run (During Timely) begun now :=
    .of_replay (fun _ _ passes => of_decide_eq_true passes) (Option.some_get _).symm
  let next := (machine.replay during now [.work ⟨0, 0⟩]).get (by decide +kernel)
  have taken : machine.step now (.work ⟨0, 0⟩) = .ok next :=
    Machine.step_of_replay (Option.some_get _).symm
  have recorded : next.events = .ended 0 2 .expiry .nil :: now.events := by decide +kernel
  exact (((update_times_out_due run userRuns).update (by decide +kernel) asked begun ⟨7000, 0⟩ asks
    begins).1 now next _ 0 2 .expiry .nil onward (by decide +kernel) taken recorded).2

/-- After the clock has been set back, coroutine 0 yields for 8 s at clock 0. -/
def sleepsAgain : List Label :=
  List.flatten [setBack, [.user (.yield 8000000)], works 4 0]

/-- An `Update` at clock 5000 resumes a coroutine whose deadline is 8000. -/
theorem sleeper_wakes_early :
    let s := (carefulReplay sleepsAgain).get (by decide +kernel)
    let asked := (machine.replay (fun _ _ => true) s [.user .update]).get (by decide +kernel)
    let begun := (machine.replay (fun _ _ => true) asked [.work ⟨5000, 0⟩]).get
      (by decide +kernel)
    let now := (machine.replay (fun s label => decide (During Careful s label)) begun
      [.work ⟨5000, 2⟩, .work ⟨5000, 0⟩, .work ⟨5000, 0⟩, .work ⟨5000, 0⟩]).get (by decide +kernel)
    let next := (machine.replay (fun _ _ => true) now [.work ⟨5000, 0⟩]).get (by decide +kernel)
    machine.Run Careful (State.init false) s ∧ s.UserRuns ∧ now.coSelf = .main ∧
      next.events = .ended 0 3 .cancel .nil :: now.events ∧ now.deadline 0 = some 8000 ∧
      ¬ Punctual Careful s := by
  intro s asked begun now next
  have run : machine.Run Careful (State.init false) s :=
    run_of_carefulReplay (Option.some_get _).symm
  have asks : machine.step s (.user .update) = .ok asked :=
    Machine.step_of_replay (Option.some_get _).symm
  have begins : machine.step asked (.work ⟨5000, 0⟩) = .ok begun :=
    Machine.step_of_replay (Option.some_get _).symm
  have onward : machine.Run (During Careful) begun now :=
    .of_replay (fun _ _ passes => of_decide_eq_true passes) (Option.some_get _).symm
  have taken : machine.step now (.work ⟨5000, 0⟩) = .ok next :=
    Machine.step_of_replay (Option.some_get _).symm
  have onMain : now.coSelf = .main := by decide +kernel
  have recorded : next.events = .ended 0 3 .cancel .nil :: now.events := by decide +kernel
  refine ⟨run, by decide +kernel, onMain, recorded, by decide +kernel, fun punctual => ?_⟩
  have expiry := ((punctual.update (by decide +kernel) asked begun ⟨5000, 0⟩ asks begins).1 now
    next _ 0 3 .cancel .nil onward onMain taken recorded).1
  cases expiry

end LibcoRpc.CoroMgr
