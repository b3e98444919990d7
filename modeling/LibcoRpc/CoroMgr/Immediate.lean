import LibcoRpc.CoroMgr.Sleep
import LibcoRpc.CoroMgr.Lockstep

/-!
# A coroutine that never suspends

A coroutine is created and resumed, and its entry function returns without asking anything of
the manager. What remains is a finished object that waits for the next `Update`: apart from
that and from the counter, the manager is as it was before.
-/

namespace LibcoRpc.CoroMgr

open LibcoRpc.Std

variable {s s' : State} {label : Label} {entry : Nat}

/-- No call is in progress in a coroutine that has not been created. -/
theorem frames_of_unmade {env : Bool} (run : machine.Run TakesFreeId (State.init env) s)
    {coro : CoroPtr} (unmade : s.coroCount ≤ coro) : s.frames (.co coro) = [] := by
  induction run with
  | start => rfl
  | @step before _ _ prior _ taken ih =>
      have named := named_of_run prior
      have unmadeBefore : before.coroCount ≤ coro := by
        by_contra made
        exact absurd unmade
          (Nat.not_le.mpr ((step_change taken).yieldTimes_le (Nat.not_le.mp made)).2)
      have other : Co.co coro ≠ before.coSelf := by
        intro self
        obtain ⟨isCo, _⟩ := named.onStack coro (named.mem_of_self self.symm)
        exact absurd unmadeBefore (Nat.not_le.mpr (named.allocated coro isCo))
      rw [step_frames taken other]
      exact ih unmadeBefore

/-- Where the entry function of a new coroutine begins. -/
def State.entered (s : State) (entry : Nat) : State :=
  let coro := s.coroCount
  let created := s.createCoro entry 0
  { created with
    coro := Function.update created.coro coro
      { created.coro coro with resumeTimes := 1, yielded := false }
    inner := Function.update created.inner (.co coro)
      { created.inner (.co coro) with cStart := true }
    callStack := .co coro :: s.callStack
    frames := Function.update s.frames s.coSelf [.resumeRet coro]
    ret := llbcOk
    events := .ended coro 0 .explicit .nil :: created.events }

/-- A new coroutine is off the call stack. -/
theorem Registry.Named.unmade_offStack (named : s.registry.Named) :
    .co s.coroCount ∉ s.callStack := by
  intro member
  obtain ⟨isCo, _⟩ := named.onStack s.coroCount member
  exact Nat.lt_irrefl _ (named.allocated _ isCo)

/-- `Resume` of a new coroutine, about to call `co_resume`. -/
def State.resuming (s : State) (entry : Nat) : State :=
  let coro := s.coroCount
  let created := s.createCoro entry 0
  { created with
    coro := Function.update created.coro coro
      { created.coro coro with resumeTimes := 1, yielded := false }
    frames := Function.update s.frames s.coSelf [.coResume coro]
    ret := llbcOk
    events := .ended coro 0 .explicit .nil :: created.events }

theorem createCoro_object : (s.createCoro entry 0).coro s.coroCount =
    { noCoro with
      coroId := nextCoroId s.maxCoroId, innerCoro := .co s.coroCount, entry := entry,
      args := 0, yielded := true } := by
  rw [createCoro_coro, Function.update_self]

/-- The timer of a new coroutine has never been set: there is nothing to cancel. -/
theorem resuming_of_resume {choice : Choice} (check : State → Label → Bool)
    (passes : ∀ state, check state (.work choice) = true) :
    machine.replay check
      ((s.createCoro entry 0).goto s.coSelf [.resume s.coroCount .nil .explicit])
      [.work choice, .work choice] = some (s.resuming entry) := by
  have object := @createCoro_object s entry
  have self : (s.createCoro entry 0).coSelf = s.coSelf := rfl
  have frames : (s.createCoro entry 0).frames = s.frames := rfl
  rw [State.resuming]
  generalize s.createCoro entry 0 = created at object self frames ⊢
  rw [← self, ← frames]
  simp [Machine.replay, passes, machine, State.step, State.goto, State.coSelf, State.runFrame,
    State.resume, State.record, State.setCoro, object, Coro.isTimeoutedOrCancelled, noCoro,
    State.timerCancel, State.returns]

/-- `co_resume` enters the coroutine, or overruns the call stack. -/
theorem resuming_step (entry : Nat) (choice : Choice) (named : s.registry.Named) :
    machine.step (s.resuming entry) (.work choice) =
      if callStackCapacity ≤ s.callStack.length then .error .callStackOverflow
      else .ok (s.entered entry) := by
  have object := @createCoro_object s entry
  have inner : (s.createCoro entry 0).inner (.co s.coroCount) =
      { aSpec0 := nextCoroId s.maxCoroId } := by
    rw [createCoro_inner, Function.update_self]
  have stack : (s.createCoro entry 0).callStack = s.callStack := rfl
  have self : (s.createCoro entry 0).coSelf = s.coSelf := rfl
  rw [State.resuming, State.entered]
  generalize s.createCoro entry 0 = created at object inner stack self ⊢
  have offStack := named.unmade_offStack
  rw [← stack] at offStack ⊢
  rw [← self]
  simp [machine, State.step, State.coSelf, State.runFrame, State.coResume, State.setInner, object,
    noCoro, inner, offStack]

/-- `Resume` of a new coroutine enters it in three steps. -/
theorem entered_of_resume (entry : Nat) (named : s.registry.Named)
    (room : s.callStack.length < callStackCapacity) {choice : Choice}
    (check : State → Label → Bool) (passes : ∀ state, check state (.work choice) = true) :
    machine.replay check
      ((s.createCoro entry 0).goto s.coSelf [.resume s.coroCount .nil .explicit])
      [.work choice, .work choice, .work choice] = some (s.entered entry) := by
  have enters := (resuming_step entry choice named).trans (if_neg (Nat.not_le.mpr room))
  have last : machine.replay check (s.resuming entry) [.work choice] = some (s.entered entry) :=
    Machine.replay_cons check (passes _) enters
  exact (Machine.replay_append (resuming_of_resume check passes)).trans last

/-- The entry function has returned. -/
def State.left (s : State) (entry : Nat) : State :=
  let coro := s.coroCount
  let entered := s.entered entry
  { entered with
    waitingForRecycleCoros := s.waitingForRecycleCoros.emplace (nextCoroId s.maxCoroId) coro
    coros := s.coros
    inner := Function.update entered.inner (.co coro)
      { entered.inner (.co coro) with cEnd := true }
    callStack := s.callStack
    events := .finished coro :: entered.events }

theorem entered_userRuns (named : s.registry.Named) (unmade : s.frames (.co s.coroCount) = []) :
    (s.entered entry).UserRuns := by
  have other : Co.co s.coroCount ≠ s.coSelf := fun self =>
    named.unmade_offStack (named.mem_of_self self.symm)
  exact (Function.update_of_ne other ..).trans unmade

theorem left_of_entered (named : s.registry.Named) (unmade : s.frames (.co s.coroCount) = [])
    (unused : s.registry.FreeId (nextCoroId s.maxCoroId)) :
    machine.step (s.entered entry) (.user .entryReturn) = .ok (s.left entry) := by
  have self : (s.entered entry).coSelf = .co s.coroCount := rfl
  have coroId : ((s.entered entry).coro s.coroCount).coroId = nextCoroId s.maxCoroId := by
    simp [State.entered, createCoro_coro]
  have waiting : (s.entered entry).waitingForRecycleCoros = s.waitingForRecycleCoros := rfl
  have coros : ((s.entered entry).coros).erase (nextCoroId s.maxCoroId) = s.coros :=
    OrdMap.erase_emplace _ unused.1 _
  have absent : s.waitingForRecycleCoros.find (nextCoroId s.maxCoroId) = none := unused.2
  obtain ⟨below, stack⟩ := named.callStack_cons
  have popped : (s.entered entry).callStack = .co s.coroCount :: s.coSelf :: below :=
    congrArg (List.cons _) stack
  rw [user_step (entered_userRuns named unmade)]
  simp only [State.userStep, State.entryReturn, self, State.maskWillRecycle, coroId, waiting,
    absent, coros, Option.isSome_none, Bool.false_eq_true, if_false, State.setInner, State.record,
    State.coYield, popped, State.left, stack]

/-- Back in the caller, the finished object is all that the coroutine leaves. -/
theorem twin_of_left (userRuns : s.UserRuns)
    (unused : s.registry.FreeId (nextCoroId s.maxCoroId)) :
    Twin s.coroCount (nextCoroId s.maxCoroId) true s
      (((s.left entry).returns llbcOk).goto s.coSelf []) where
  coros := rfl
  waiting := rfl
  object coro other := by
    simp [State.goto, State.returns, State.left, State.entered, createCoro_coro, other]
  idle := by
    simp [State.goto, State.returns, State.left, State.entered, createCoro_coro, noCoro]
  count := ⟨rfl, rfl⟩
  data := rfl
  maxTimerId := rfl
  heap := rfl
  env _ := rfl
  inner co other := by
    simp [State.goto, State.returns, State.left, State.entered, createCoro_inner, other]
  callStack := rfl
  frames co := by
    by_cases self : co = s.coSelf
    · have none : s.frames s.coSelf = [] := userRuns
      rw [self, goto_frames, none]
      exact .nil
    · have kept : (((s.left entry).returns llbcOk).goto s.coSelf []).frames co = s.frames co :=
        (Function.update_of_ne self ..).trans (Function.update_of_ne self ..)
      rw [kept]
      exact List.forall₂_same.mpr fun _ _ => .same _
  absent := unused.1
  unused _ := unused.2

theorem returned_of_left {choice : Choice} : machine.step (s.left entry) (.work choice) =
    .ok (((s.left entry).returns llbcOk).goto s.coSelf []) := by
  have self : (s.left entry).coSelf = s.coSelf := rfl
  have at_ : (s.left entry).frames s.coSelf = [.resumeRet s.coroCount] := Function.update_self ..
  simp only [machine, State.step, self, at_, State.runFrame]

/-- Nothing after `CreateCoro` takes an id. -/
theorem run_returned (named : s.registry.Named) (unmade : s.frames (.co s.coroCount) = [])
    (room : s.callStack.length < callStackCapacity)
    (unused : s.registry.FreeId (nextCoroId s.maxCoroId)) :
    machine.Run TakesFreeId
      ((s.createCoro entry 0).goto s.coSelf [.resume s.coroCount .nil .explicit])
      (((s.left entry).returns llbcOk).goto s.coSelf []) := by
  let choice : Choice := ⟨0, 0⟩
  have works : ∀ state, TakesFreeId state (.work choice) := fun _ _ issued => by cases issued
  have leaves : TakesFreeId (s.entered entry) (.user .entryReturn) := fun _ issued => by
    cases issued
  have enters := entered_of_resume entry named room (fun s label => decide (TakesFreeId s label))
    fun state => decide_eq_true (works state)
  have entered := Machine.Run.of_replay (fun _ _ passes => of_decide_eq_true passes) enters
  exact .step (.step entered leaves (left_of_entered named unmade unused)) (works _)
    returned_of_left

end LibcoRpc.CoroMgr
