import LibcoRpc.CoroMgr.Registry

/-!
# What a step leaves alone

A step goes on with the calls of the running coroutine only, so the interrupted calls of
every other coroutine stay as they are; and no code of the manager writes the parameter
of a coroutine that `SetPtrParam1` stores there. `State.away` is the part of the state
that no step of a coroutine other than `SetPtrParam1` and the creation of an object can
change, and `Retains` names what only a few operations write.
-/

namespace LibcoRpc.CoroMgr

/-- The calls of the other coroutines, and the parameters of all. -/
def State.away (s : State) (self : Co) : (Co → List Frame) × (CoroPtr → Option Nat) :=
  (Function.update s.frames self [], fun coro => (s.coro coro).ptrParam1)

/-- The operations that add or remove coroutines. -/
def Op.registers : Op → Bool
  | .start => true
  | .createCoro _ _ => true
  | .entryReturn => true
  | _ => false

namespace State

variable {s s' : State} {self : Co} {rest : List Frame} {coro : CoroPtr}

/-- Where `away` is kept, so are the calls of every other coroutine. -/
theorem frames_of_away (same : s'.away self = s.away self) {co : Co} (other : co ≠ self) :
    s'.frames co = s.frames co := by
  have frames := congrFun (congrArg Prod.fst same) co
  simpa [away, other] using frames

/-- Where `away` is kept, so is every parameter. -/
theorem ptrParam1_of_away (self : Co) (same : s'.away self = s.away self) (coro : CoroPtr) :
    (s'.coro coro).ptrParam1 = (s.coro coro).ptrParam1 :=
  congrFun (congrArg Prod.snd same) coro

@[simp] theorem away_goto (s : State) (self : Co) (frames : List Frame) :
    (s.goto self frames).away self = s.away self := by
  simp [away, goto]

@[simp] theorem away_returns (s : State) (value : Int) :
    (s.returns value).away self = s.away self := rfl

@[simp] theorem away_record (s : State) (event : Event) :
    (s.record event).away self = s.away self := rfl

@[simp] theorem away_setData (s : State) (data : DataPtr) (record : TimerData) :
    (s.setData data record).away self = s.away self := rfl

@[simp] theorem away_release (s : State) (data : DataPtr) :
    (s.release data).away self = s.away self := rfl

@[simp] theorem away_setInner (s : State) (co : Co) (inner : Inner) :
    (s.setInner co inner).away self = s.away self := rfl

@[simp] theorem away_heap (s : State) (heap : List DataPtr) :
    { s with heap := heap }.away self = s.away self := rfl

@[simp] theorem away_maxTimerId (s : State) (maxTimerId : Nat) :
    { s with maxTimerId := maxTimerId }.away self = s.away self := rfl

@[simp] theorem away_callStack (s : State) (callStack : List Co) :
    { s with callStack := callStack }.away self = s.away self := rfl

/-- A write to an object that keeps its parameter. -/
@[simp] theorem away_setCoro (s : State) (coro : CoroPtr) (object : Coro)
    (same : object.ptrParam1 = (s.coro coro).ptrParam1) :
    (s.setCoro coro object).away self = s.away self := by
  have params : (fun other => (Function.update s.coro coro object other).ptrParam1) =
      fun other => (s.coro other).ptrParam1 := by
    funext other
    by_cases isCoro : other = coro
    · simp [isCoro, same]
    · simp [isCoro]
  simp only [away, setCoro, params]

/-- A switch by `co_yield_env` touches no calls. -/
theorem coYield_away (taken : s.coYield = .ok s') : s'.away self = s.away self := by
  obtain ⟨_, _, _, _, rfl⟩ := coYield_cases taken
  rfl

/-- `Yield` touches no calls but those of the running coroutine. -/
theorem coroYield_away {timeout : Int} (taken : s.coroYield self coro timeout = .ok s') :
    s'.away self = s.away self := by
  simp only [coroYield] at taken
  split at taken
  · cases taken; simp
  · split at taken
    · cases taken
    · cases taken
    · split at taken
      · cases taken; simp
      · split at taken
        all_goals cases taken; simp

/-- Code of the manager leaves the others' calls and all parameters alone. -/
theorem runFrame_away {choice : Choice} {frame : Frame}
    (taken : s.runFrame choice self rest frame = .ok s') : s'.away self = s.away self := by
  cases frame with
  | resume coro passData cause =>
      cases taken
      simp only [resume]
      split
      · simp
      · split
        all_goals
          rw [away_goto]
          exact away_setCoro (s.record _) coro _ rfl
  | coResume coro =>
      simp only [runFrame, coResume] at taken
      split_ifs at taken
      cases taken
      simp [away, setInner]
  | timerCancel coro =>
      cases taken
      simp only [timerCancel]
      split
      · simp
      · split <;> simp
  | onCoroCancel coro =>
      cases taken
      simp only [onCoroCancel]
      split <;> simp
  | schedCancelRet coro data =>
      simp only [runFrame, schedCancelRet] at taken
      split_ifs at taken
      all_goals cases taken; simp
  | cancel coro =>
      cases taken
      simp only [cancel]
      split <;> simp
  | timerSchedule coro dueTime =>
      cases taken
      simp only [timerSchedule]
      split
      · simp
      · split <;> simp
  | yieldSuspend coro =>
      have same : s'.away self = _ := coYield_away taken
      simpa using same
  | yieldRet coro times =>
      simp only [runFrame, yieldRet] at taken
      split_ifs at taken
      all_goals cases taken; simp
  | schedUpdate =>
      cases taken
      simp only [schedUpdate]
      split <;> simp
  | schedLoop now =>
      simp only [runFrame, schedLoop] at taken
      split_ifs at taken
      all_goals cases taken; simp
  | onCoroTimeout coro =>
      simp only [runFrame, onCoroTimeout] at taken
      split_ifs at taken
      cases taken; simp
  | schedUpdateRet now data =>
      cases taken
      simp only [schedUpdateRet]
      split <;> simp
  | updateRecycle =>
      cases taken
      simp only [updateRecycle]
      split <;> simp
  | recycle pending =>
      cases taken
      cases pending with
      | nil => simp [recycle, away, goto]
      | cons coro pending =>
          simp only [recycle]
          split <;> simp
  | destroy coro =>
      cases taken
      simp only [destroy]
      split <;> simp [destroyed]
  | destroyTimer coro =>
      simp only [runFrame, destroyTimer] at taken
      split at taken
      · cases taken
      · cases taken; simp [destroyed]
  | stopLoop position =>
      cases position with
      | none => cases taken; simp
      | some entry =>
          simp only [runFrame, stopLoop] at taken
          split_ifs at taken
          all_goals cases taken; simp
  | resumeRet | cancelRet => cases taken; simp
  | stopReset => cases taken; simp [away, goto]

/-- An operation leaves the others' calls alone. -/
theorem userStep_frames {op : Op} (taken : s.userStep self op = .ok s') {co : Co}
    (other : co ≠ self) : s'.frames co = s.frames co := by
  cases op with
  | start =>
      simp only [userStep, start] at taken
      split_ifs at taken
      all_goals cases taken; rfl
  | createCoro entry args => cases taken; rfl
  | setEntry coro entry =>
      simp only [userStep, setEntry] at taken
      split_ifs at taken
      all_goals cases taken; rfl
  | setArgs coro args =>
      simp only [userStep, setArgs] at taken
      split_ifs at taken
      all_goals cases taken; rfl
  | setPtrParam1 coro param =>
      simp only [userStep] at taken
      split_ifs at taken
      cases taken; rfl
  | coroYield coro timeout =>
      simp only [userStep] at taken
      split_ifs at taken
      exact frames_of_away (coroYield_away taken) other
  | yield timeout =>
      simp only [userStep] at taken
      split at taken
      · cases taken
      · cases taken
      · exact frames_of_away (coroYield_away taken) other
  | coroResume | coroCancel =>
      simp only [userStep] at taken
      split_ifs at taken
      cases taken
      exact Function.update_of_ne other _ _
  | resume | cancel =>
      cases taken
      simp only [withCoro]
      split
      · rfl
      · exact Function.update_of_ne other _ _
  | update | stop =>
      cases taken
      exact Function.update_of_ne other _ _
  | entryReturn =>
      simp only [userStep, entryReturn] at taken
      split at taken
      · cases taken
      next coro _ =>
        obtain ⟨_, _, _, _, rfl⟩ := coYield_cases taken
        simp only [setInner, record, maskWillRecycle]
        split <;> rfl

/-- An operation other than `SetPtrParam1` gives no coroutine a new parameter. -/
theorem userStep_ptrParam1 {op : Op} (taken : s.userStep self op = .ok s')
    (kept : ∀ coro param, op ≠ .setPtrParam1 coro param) {coro : CoroPtr} {param : Nat}
    (stored : (s'.coro coro).ptrParam1 = some param) :
    (s.coro coro).ptrParam1 = some param := by
  have new : ∀ (coroId : Int) (entry args : Nat) (inner : Co) (base : State),
      ((base.newCoro coroId entry args inner).coro coro).ptrParam1 = some param →
        (base.coro coro).ptrParam1 = some param := by
    intro coroId entry args inner base stored
    simp only [newCoro, setCoro] at stored
    by_cases isNew : coro = base.coroCount
    · simp [isNew, noCoro] at stored
    · simpa [isNew] using stored
  cases op with
  | start =>
      simp only [userStep, start] at taken
      split_ifs at taken
      · cases taken
        exact stored
      · cases taken
        exact new _ 0 0 .main _ stored
  | createCoro entry args =>
      cases taken
      exact new _ entry args _ _ stored
  | setEntry target entry =>
      simp only [userStep, setEntry] at taken
      split_ifs at taken
      · cases taken
        exact stored
      · cases taken
        rw [← stored]
        refine (ptrParam1_of_away self ?_ coro).symm
        simp
  | setArgs target args =>
      simp only [userStep, setArgs] at taken
      split_ifs at taken
      · cases taken
        exact stored
      · cases taken
        rw [← stored]
        refine (ptrParam1_of_away self ?_ coro).symm
        simp
  | setPtrParam1 target value => exact absurd rfl (kept target value)
  | coroYield target timeout =>
      simp only [userStep] at taken
      split_ifs at taken
      rw [← stored, ptrParam1_of_away self (coroYield_away taken) coro]
  | yield timeout =>
      simp only [userStep] at taken
      split at taken
      · cases taken
      · cases taken
      · rw [← stored, ptrParam1_of_away self (coroYield_away taken) coro]
  | coroResume | coroCancel =>
      simp only [userStep] at taken
      split_ifs at taken
      cases taken
      exact stored
  | resume | cancel =>
      cases taken
      simp only [withCoro] at stored
      split at stored <;> exact stored
  | update | stop =>
      cases taken
      exact stored
  | entryReturn =>
      simp only [userStep, entryReturn] at taken
      split at taken
      · cases taken
      next running _ =>
        obtain ⟨_, _, _, _, rfl⟩ := coYield_cases taken
        simp only [setInner, record, maskWillRecycle] at stored
        split at stored <;> exact stored

/-- The counter, the map of coroutines and libco's environment are as they were. -/
structure Retains (s s' : State) : Prop where
  maxCoroId : s'.maxCoroId = s.maxCoroId
  coros : s'.coros = s.coros
  env : s'.env = s.env

namespace Retains

variable {t : State}

theorem refl (s : State) : Retains s s := ⟨rfl, rfl, rfl⟩

theorem goto (kept : Retains s t) (self : Co) (frames : List Frame) :
    Retains s (t.goto self frames) := ⟨kept.maxCoroId, kept.coros, kept.env⟩

theorem returns (kept : Retains s t) (value : Int) : Retains s (t.returns value) :=
  ⟨kept.maxCoroId, kept.coros, kept.env⟩

theorem setCoro (kept : Retains s t) (coro : CoroPtr) (object : Coro) :
    Retains s (t.setCoro coro object) := ⟨kept.maxCoroId, kept.coros, kept.env⟩

theorem setData (kept : Retains s t) (data : DataPtr) (record : TimerData) :
    Retains s (t.setData data record) := ⟨kept.maxCoroId, kept.coros, kept.env⟩

theorem release (kept : Retains s t) (data : DataPtr) : Retains s (t.release data) :=
  kept.setData ..

theorem heap (kept : Retains s t) (heap : List DataPtr) : Retains s { t with heap := heap } :=
  ⟨kept.maxCoroId, kept.coros, kept.env⟩

theorem maxTimerId (kept : Retains s t) (maxTimerId : Nat) :
    Retains s { t with maxTimerId := maxTimerId } := ⟨kept.maxCoroId, kept.coros, kept.env⟩

end Retains

/-- Framework code retains them until `Stop` resets the counter. -/
theorem runFrame_retains {choice : Choice} {frame : Frame} (other : frame ≠ .stopReset)
    (ran : s.runFrame choice self rest frame = .ok s') : Retains s s' := by
  -- Every branch writes other fields only.
  cases frame with
  | resume =>
      cases ran
      simp only [resume]
      split
      · exact ⟨rfl, rfl, rfl⟩
      · split <;> exact ⟨rfl, rfl, rfl⟩
  | coResume =>
      simp only [runFrame, coResume] at ran
      split_ifs at ran
      cases ran
      exact ⟨rfl, rfl, rfl⟩
  | resumeRet | cancelRet =>
      cases ran
      exact ⟨rfl, rfl, rfl⟩
  | timerCancel =>
      cases ran
      simp only [timerCancel]
      split
      · exact ⟨rfl, rfl, rfl⟩
      · split <;> exact ⟨rfl, rfl, rfl⟩
  | onCoroCancel =>
      cases ran
      simp only [onCoroCancel]
      split <;> exact ⟨rfl, rfl, rfl⟩
  | schedCancelRet coro data =>
      simp only [runFrame, schedCancelRet] at ran
      have cleared :=
        ((Retains.refl s).setData data { s.data data with cancelling := false }).returns llbcOk
      split_ifs at ran
      · cases ran
        exact cleared.goto ..
      · cases ran
        exact (((cleared.heap _).release _).setCoro ..).goto ..
      · cases ran
        exact ((cleared.heap _).release _).goto ..
      · cases ran
        exact cleared.goto ..
  | cancel =>
      cases ran
      simp only [cancel]
      split <;> exact ⟨rfl, rfl, rfl⟩
  | timerSchedule =>
      cases ran
      simp only [timerSchedule]
      have counted := (Retains.refl s).maxTimerId (s.maxTimerId + 1)
      split
      · exact (Retains.refl s).goto ..
      · split
        · exact ((((counted.setData ..).setCoro ..).heap _).returns _).goto ..
        · exact (((((counted.release _).setData ..).setCoro ..).heap _).returns _).goto ..
  | yieldSuspend =>
      simp only [runFrame, yieldSuspend] at ran
      obtain ⟨_, _, _, _, rfl⟩ := coYield_cases ran
      exact ⟨rfl, rfl, rfl⟩
  | yieldRet =>
      simp only [runFrame, yieldRet] at ran
      split at ran
      · cases ran
      · cases ran
        exact ⟨rfl, rfl, rfl⟩
  | schedUpdate =>
      cases ran
      simp only [schedUpdate]
      split <;> exact ⟨rfl, rfl, rfl⟩
  | schedLoop =>
      simp only [runFrame, schedLoop] at ran
      split_ifs at ran
      all_goals
        cases ran
        exact ⟨rfl, rfl, rfl⟩
  | onCoroTimeout =>
      simp only [runFrame, onCoroTimeout] at ran
      split_ifs at ran
      cases ran
      exact ⟨rfl, rfl, rfl⟩
  | schedUpdateRet =>
      cases ran
      simp only [schedUpdateRet]
      split <;> exact ⟨rfl, rfl, rfl⟩
  | updateRecycle =>
      cases ran
      simp only [updateRecycle]
      split <;> exact ⟨rfl, rfl, rfl⟩
  | recycle pending =>
      cases ran
      cases pending with
      | nil => exact ⟨rfl, rfl, rfl⟩
      | cons coro pending =>
          simp only [recycle]
          split <;> exact ⟨rfl, rfl, rfl⟩
  | destroy =>
      cases ran
      simp only [destroy]
      split <;> exact ⟨rfl, rfl, rfl⟩
  | destroyTimer =>
      simp only [runFrame, destroyTimer] at ran
      split at ran
      · cases ran
      · cases ran
        exact ⟨rfl, rfl, rfl⟩
  | stopLoop position =>
      cases position with
      | none =>
          cases ran
          exact ⟨rfl, rfl, rfl⟩
      | some entry =>
          simp only [runFrame, stopLoop] at ran
          split_ifs at ran
          all_goals
            cases ran
            exact ⟨rfl, rfl, rfl⟩
  | stopReset => exact absurd rfl other

/-- `Yield` retains them. -/
theorem coroYield_retains {timeout : Int} (taken : s.coroYield self coro timeout = .ok s') :
    Retains s s' := by
  simp only [coroYield] at taken
  split at taken
  · cases taken
    exact ⟨rfl, rfl, rfl⟩
  · split at taken
    · cases taken
    · cases taken
    · split_ifs at taken
      all_goals
        cases taken
        exact ⟨rfl, rfl, rfl⟩

/-- Operations that neither add nor remove a coroutine retain them. -/
theorem userStep_retains {op : Op} (other : op.registers = false)
    (taken : s.userStep self op = .ok s') : Retains s s' := by
  cases op with
  | start | createCoro | entryReturn => cases other
  | setEntry =>
      simp only [userStep, setEntry] at taken
      split_ifs at taken
      all_goals
        cases taken
        exact ⟨rfl, rfl, rfl⟩
  | setArgs =>
      simp only [userStep, setArgs] at taken
      split_ifs at taken
      all_goals
        cases taken
        exact ⟨rfl, rfl, rfl⟩
  | setPtrParam1 | coroResume | coroCancel =>
      simp only [userStep] at taken
      split_ifs at taken
      cases taken
      exact ⟨rfl, rfl, rfl⟩
  | coroYield =>
      simp only [userStep] at taken
      split_ifs at taken
      exact coroYield_retains taken
  | yield =>
      simp only [userStep] at taken
      split at taken
      · cases taken
      · cases taken
      · exact coroYield_retains taken
  | resume | cancel =>
      cases taken
      simp only [withCoro]
      split <;> exact ⟨rfl, rfl, rfl⟩
  | update | stop =>
      cases taken
      exact ⟨rfl, rfl, rfl⟩

/-- `MaskWillRecycle` may remove the coroutine that has ended. -/
theorem entryReturn_retains (taken : s.entryReturn = .ok s') :
    s'.maxCoroId = s.maxCoroId ∧ s'.env = s.env ∧
      ∃ coro, s.coSelf = .co coro ∧
        (s'.coros = s.coros ∨ s'.coros = s.coros.erase (s.coro coro).coroId) := by
  simp only [entryReturn] at taken
  split at taken
  · cases taken
  next coro isCo =>
    obtain ⟨_, _, _, _, rfl⟩ := coYield_cases taken
    simp only [setInner, record, maskWillRecycle]
    split
    · exact ⟨rfl, rfl, coro, isCo, .inl rfl⟩
    · exact ⟨rfl, rfl, coro, isCo, .inr rfl⟩

end State

variable {s s' : State} {label : Label}

/-- A step leaves the calls of every other coroutine as they are. -/
theorem step_frames (taken : machine.step s label = .ok s') {co : Co} (other : co ≠ s.coSelf) :
    s'.frames co = s.frames co := by
  cases label with
  | user op =>
      simp only [machine, State.step] at taken
      split at taken
      · exact State.userStep_frames taken other
      · cases taken
  | work choice =>
      simp only [machine, State.step] at taken
      split at taken
      · cases taken
      · exact State.frames_of_away (State.runFrame_away taken) other

/-- Code of the manager never writes a `ptrParam1`. -/
theorem work_ptrParam1 {choice : Choice} (taken : machine.step s (.work choice) = .ok s')
    (coro : CoroPtr) : (s'.coro coro).ptrParam1 = (s.coro coro).ptrParam1 := by
  simp only [machine, State.step] at taken
  split at taken
  · cases taken
  · exact State.ptrParam1_of_away _ (State.runFrame_away taken) coro

/-- A `ptrParam1` that no `SetPtrParam1` has just stored was there before. -/
theorem step_ptrParam1 (taken : machine.step s label = .ok s')
    (kept : ∀ coro param, label ≠ .user (.setPtrParam1 coro param)) {coro : CoroPtr} {param : Nat}
    (stored : (s'.coro coro).ptrParam1 = some param) :
    (s.coro coro).ptrParam1 = some param := by
  cases label with
  | user op =>
      simp only [machine, State.step] at taken
      split at taken
      · exact State.userStep_ptrParam1 taken
          (fun coro param same => kept coro param (same ▸ rfl)) stored
      · cases taken
  | work choice => rw [← stored, work_ptrParam1 taken coro]

/-- A step pushes one coroutine onto the call stack, pops one, or does neither. -/
theorem step_callStack (taken : machine.step s label = .ok s') :
    s'.callStack = s.callStack ∨ (∃ entered, s'.callStack = entered :: s.callStack) ∨
      ∃ left, s.callStack = left :: s'.callStack := by
  have stepped := State.step_registry taken
  have stack : s.registry.callStack = s.callStack := rfl
  have stack' : s'.registry.callStack = s'.callStack := rfl
  rw [← stack, ← stack']
  generalize s'.registry = after at stepped
  generalize s.issues label = issued at stepped
  cases stepped with
  | stay | reset | create | start | clear => exact .inl rfl
  | enter coro => exact .inr (.inl ⟨_, rfl⟩)
  | leave stack => exact .inr (.inr ⟨_, stack⟩)
  | @finish coro below rest stack =>
      refine .inr (.inr ⟨.co coro, ?_⟩)
      rw [stack, Registry.finish]
      split <;> rfl

end LibcoRpc.CoroMgr
