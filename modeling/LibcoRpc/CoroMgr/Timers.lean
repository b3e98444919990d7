import LibcoRpc.CoroMgr.Handover

/-!
# Timer records, whatever the timeouts

The record a coroutine holds is its own, and its handler is not pending while user code
runs (`Timed`). A record that has fired was made for a suspension the coroutine has
reached, and as long as that suspension is the latest the coroutine shows the timeout
(`Signalled`). With timeouts beyond the long-timeout threshold a coroutine can lose its
record while the record stays in the heap; none of this is lost with it.
-/

namespace LibcoRpc.CoroMgr

variable {s s' : State} {label : Label}

/-- The innermost call of the running coroutine. -/
def State.innermost (s : State) : Option Frame := (s.frames s.coSelf).head?

theorem innermost_of_cons {frame : Frame} {rest : List Frame}
    (at_ : s.frames s.coSelf = frame :: rest) : s.innermost = some frame := by
  rw [State.innermost, at_, List.head?_cons]

theorem innermost_of_userRuns (userRuns : s.UserRuns) : s.innermost = none := by
  rw [State.innermost, userRuns, List.head?_nil]

theorem cons_of_innermost {frame : Frame} (innermost : s.innermost = some frame) :
    ∃ rest, s.frames s.coSelf = frame :: rest := List.head?_eq_some_iff.mp innermost

/-! ## Records that coroutines hold -/

/-- A coroutine's timeout handler is being called, and has not cancelled the timer yet. -/
def Expiring (s : State) (coro : CoroPtr) : Prop :=
  s.innermost = some (.onCoroTimeout coro) ∨ s.innermost = some (.timerCancel coro)

/-- Coroutines hold records of their own, and none that is about to call them. -/
structure Timed (s : State) : Prop where
  own : ∀ coro data, (s.coro coro).timerData = some data →
    (s.data data).timer = coro ∧ data ≤ s.maxTimerId
  expiring : ∀ coro data, (s.coro coro).timerData = some data → (s.data data).validate = true →
    (s.data data).timeouting = true → Expiring s coro

/-- A timeout handler is code of the manager. -/
theorem Expiring.busy {coro : CoroPtr} (expiring : Expiring s coro) : ¬ s.UserRuns := by
  intro userRuns
  rw [Expiring, innermost_of_userRuns userRuns] at expiring
  simp at expiring

/-- The handler goes on to cancel the timer, and then the record is no longer valid. -/
theorem Expiring.step {coro : CoroPtr} {data : DataPtr} (expiring : Expiring s coro)
    (current : (s.coro coro).timerData = some data) (validate : (s.data data).validate = true)
    (taken : machine.step s label = .ok s') :
    (s'.coro coro).timerData = some data ∧ Expiring s' coro ∨
      (s'.data data).validate = false := by
  rcases expiring with handler | cancel
  · obtain ⟨rest, at_⟩ := cons_of_innermost handler
    obtain ⟨_, ran⟩ := step_work at_ taken
    simp only [State.runFrame, State.onCoroTimeout] at ran
    split_ifs at ran
    cases ran
    refine .inl ⟨?_, .inr (innermost_of_cons (Function.update_self ..))⟩
    simpa [State.goto, State.setCoro] using current
  · obtain ⟨rest, at_⟩ := cons_of_innermost cancel
    obtain ⟨_, ran⟩ := step_work at_ taken
    cases ran
    right
    simp [State.timerCancel, current, validate, State.goto, State.setData]

namespace Timed

variable (timed : Timed s)

include timed

/-- A coroutine's record is its own. -/
theorem own_step (change : Change s s') (coro : CoroPtr) (data : DataPtr)
    (current : (s'.coro coro).timerData = some data) :
    (s'.data data).timer = coro ∧ data ≤ s'.maxTimerId := by
  have same : s'.data = s.data → s'.maxTimerId = s.maxTimerId →
      (s.coro coro).timerData = some data → (s'.data data).timer = coro ∧ data ≤ s'.maxTimerId := by
    intro records timers before
    rw [records, timers]
    exact timed.own coro data before
  cases change with
  | calm calm =>
      rw [(calm.records data).timer, calm.timers]
      exact timed.own coro data ((calm.objects coro).timerData data current)
  | @resumed target _ _ _ _ _ _ _ objects records timers
  | @yields target _ _ _ _ _ _ _ objects records timers
  | @suspends target _ _ _ _ _ _ _ objects records timers =>
      refine same records timers ?_
      by_cases isTarget : coro = target
      · subst isTarget
        simpa [objects] using current
      · simpa [objects, isTarget] using current
  | switched _ _ _ _ objects records timers | finishes _ _ _ _ objects records timers =>
      exact same records timers (objects ▸ current)
  | @arms target _ _ _ _ _ _ objects made records timers =>
      by_cases isTarget : coro = target
      · subst isTarget
        have isNew : data = s.maxTimerId + 1 := by simpa [objects, eq_comm] using current
        subst isNew
        exact ⟨by rw [made]; rfl, Nat.le_of_eq timers.symm⟩
      · have before : (s.coro coro).timerData = some data := by
          simpa [objects, isTarget] using current
        obtain ⟨timer, old⟩ := timed.own coro data before
        have notNew : data ≠ s.maxTimerId + 1 := Nat.ne_of_lt (Nat.lt_succ_of_le old)
        exact ⟨(records data notNew).timer.trans timer, timers ▸ Nat.le_succ_of_le old⟩
  | @fires _ top _ _ _ _ _ _ objects records timers =>
      rw [objects] at current
      obtain ⟨timer, old⟩ := timed.own coro data current
      refine ⟨?_, timers ▸ old⟩
      by_cases isTop : data = top
      · subst isTop
        simpa [records] using timer
      · simpa [records, isTop] using timer
  | @rearms _ again _ _ _ _ _ objects record records timers =>
      rw [objects] at current
      obtain ⟨timer, old⟩ := timed.own coro data current
      refine ⟨?_, timers ▸ old⟩
      by_cases isAgain : data = again
      · subst isAgain
        exact record.1.trans timer
      · rwa [records data isAgain]
  | makes _ _ _ objects unarmed _ records timers =>
      by_cases isNew : coro = s.coroCount
      · subst isNew
        rw [objects, Function.update_self, unarmed] at current
        cases current
      · rw [objects, Function.update_of_ne isNew] at current
        exact same records timers current

/-- A coroutine whose valid record is firing is being called by the scheduler. -/
theorem expiring_step (taken : machine.step s label = .ok s') (coro : CoroPtr) (data : DataPtr)
    (current : (s'.coro coro).timerData = some data) (validate : (s'.data data).validate = true)
    (timeouting : (s'.data data).timeouting = true) : Expiring s' coro := by
  have before : (s.coro coro).timerData = some data → (s.data data).validate = true →
      (s.data data).timeouting = true → Expiring s' coro := by
    intro heldBefore validBefore firingBefore
    have expiring := timed.expiring coro data heldBefore validBefore firingBefore
    refine ((expiring.step heldBefore validBefore taken).resolve_right ?_).2
    simp [validate]
  have same : s'.data = s.data → (s.coro coro).timerData = some data → Expiring s' coro := by
    intro records heldBefore
    rw [records] at validate timeouting
    exact before heldBefore validate timeouting
  cases step_change taken with
  | calm calm =>
      exact before ((calm.objects coro).timerData data current)
        ((calm.records data).validate validate) ((calm.records data).timeouting timeouting)
  | @resumed target _ _ _ _ _ _ _ objects records
  | @yields target _ _ _ _ _ _ _ objects records
  | @suspends target _ _ _ _ _ _ _ objects records =>
      refine same records ?_
      by_cases isTarget : coro = target
      · subst isTarget
        simpa [objects] using current
      · simpa [objects, isTarget] using current
  | switched _ _ _ _ objects records | finishes _ _ _ _ objects records =>
      exact same records (objects ▸ current)
  | @arms target _ _ _ _ _ _ objects made records timers =>
      by_cases isTarget : coro = target
      · subst isTarget
        have isNew : data = s.maxTimerId + 1 := by simpa [objects, eq_comm] using current
        subst isNew
        rw [made] at timeouting
        cases timeouting
      · have heldBefore : (s.coro coro).timerData = some data := by
          simpa [objects, isTarget] using current
        have notNew : data ≠ s.maxTimerId + 1 :=
          Nat.ne_of_lt (Nat.lt_succ_of_le (timed.own coro data heldBefore).2)
        exact before heldBefore ((records data notNew).validate validate)
          ((records data notNew).timeouting timeouting)
  | @fires _ top _ _ _ _ stack _ objects records _ _ next =>
      rw [objects] at current
      by_cases isTop : data = top
      · subst isTop
        refine .inl ?_
        rw [← (timed.own coro data current).1, State.innermost, coSelf_of_stack stack, next]
        rfl
      · rw [records, Function.update_of_ne isTop] at validate timeouting
        exact before current validate timeouting
  | @rearms _ again _ _ _ _ _ objects record records =>
      rw [objects] at current
      by_cases isAgain : data = again
      · subst isAgain
        simp [record.2.2] at timeouting
      · rw [records data isAgain] at validate timeouting
        exact before current validate timeouting
  | makes _ _ _ objects unarmed _ records =>
      by_cases isNew : coro = s.coroCount
      · subst isNew
        rw [objects, Function.update_self, unarmed] at current
        cases current
      · rw [objects, Function.update_of_ne isNew] at current
        exact same records current

theorem step (taken : machine.step s label = .ok s') : Timed s' where
  own := timed.own_step (step_change taken)
  expiring := timed.expiring_step taken

end Timed

theorem timed_init (env : Bool) : Timed (State.init env) where
  own _ _ current := by cases current
  expiring _ _ current := by cases current

/-- Nothing is assumed about ids either. -/
theorem timed_of_run {Allowed : State → Label → Prop} {env : Bool}
    (run : machine.Run Allowed (State.init env) s) : Timed s :=
  run.invariant Timed (timed_init env) fun _ _ _ timed _ taken => timed.step taken

/-! ## Records that have fired -/

/-- Records and timeouts belong to suspensions that coroutines have reached. -/
structure Signalled (s : State) : Prop where
  made : ∀ data, (s.data data).validate = true → (s.data data).timer < s.coroCount ∧
    (s.data data).armedFor ≤ (s.coro (s.data data).timer).yieldTimes
  reached : ∀ coro times, .fired coro times ∈ s.events →
    coro < s.coroCount ∧ times ≤ (s.coro coro).yieldTimes
  unfired : ∀ coro times, Leaving s coro → .fired coro times ∈ s.events →
    times < (s.coro coro).yieldTimes

/-- The count of suspensions never goes back. -/
theorem Change.yieldTimes_le (change : Change s s') {coro : CoroPtr} (old : coro < s.coroCount) :
    (s.coro coro).yieldTimes ≤ (s'.coro coro).yieldTimes ∧ coro < s'.coroCount := by
  cases change with
  | calm calm => exact ⟨Nat.le_of_eq (calm.objects coro).yieldTimes.symm, calm.count ▸ old⟩
  | @resumed target _ _ _ _ _ _ count objects | @yields target _ _ _ _ _ _ count objects
  | @arms target _ _ _ _ _ count objects | @suspends target _ _ _ _ _ _ count objects =>
      refine ⟨?_, count ▸ old⟩
      by_cases isTarget : coro = target
      · subst isTarget
        simp [objects]
      · simp [objects, isTarget]
  | switched _ _ _ count objects | fires _ _ _ _ count objects | rearms _ _ _ count objects
  | finishes _ _ _ count objects =>
      exact ⟨Nat.le_of_eq (by rw [objects]), count ▸ old⟩
  | makes _ _ count objects =>
      refine ⟨Nat.le_of_eq ?_, count ▸ Nat.lt_succ_of_lt old⟩
      rw [objects, Function.update_of_ne (Nat.ne_of_lt old)]

/-- What fires is a valid record. -/
theorem Change.fired_cases (change : Change s s') {coro : CoroPtr} {times : Nat}
    (fired : .fired coro times ∈ s'.events) :
    .fired coro times ∈ s.events ∨
      ∃ data, (s.data data).validate = true ∧ (s.data data).timer = coro ∧
        (s.data data).armedFor = times ∧ s'.innermost = some (.onCoroTimeout coro) := by
  have cons : ∀ {event : Event}, s'.events = event :: s.events → event ≠ .fired coro times →
      .fired coro times ∈ s.events := by
    intro event events other
    rw [events] at fired
    exact (List.mem_cons.mp fired).resolve_left other.symm
  cases change with
  | calm calm => exact .inl (calm.fired coro times fired)
  | resumed _ _ _ _ _ _ _ events | suspends _ _ _ _ _ _ _ events =>
      exact .inl (cons events (by simp))
  | switched _ _ _ _ _ _ _ events | yields _ _ _ _ _ _ _ _ _ events
  | arms _ _ _ _ _ _ _ events | rearms _ _ _ _ _ _ _ _ events => exact .inl (events ▸ fired)
  | makes _ _ _ _ _ _ _ _ fewer | finishes _ _ _ _ _ _ _ fewer =>
      exact .inl (fewer coro times fired)
  | @fires _ top _ _ _ validate stack _ _ _ _ events next =>
      rw [events] at fired
      rcases List.mem_cons.mp fired with new | old
      · cases new
        refine .inr ⟨top, validate, rfl, rfl, ?_⟩
        rw [State.innermost, coSelf_of_stack stack, next]
        rfl
      · exact .inl old

namespace Signalled

variable (signalled : Signalled s) (poised : Poised s) (named : s.registry.Named)

include signalled

/-- A timer has only fired for a suspension that was begun. -/
theorem reached_step (change : Change s s') (coro : CoroPtr) (times : Nat)
    (fired : .fired coro times ∈ s'.events) :
    coro < s'.coroCount ∧ times ≤ (s'.coro coro).yieldTimes := by
  have before : coro < s.coroCount ∧ times ≤ (s.coro coro).yieldTimes := by
    rcases change.fired_cases fired with old | ⟨data, validate, rfl, rfl, _⟩
    · exact signalled.reached coro times old
    · exact signalled.made data validate
  obtain ⟨more, still⟩ := change.yieldTimes_le before.1
  exact ⟨still, Nat.le_trans before.2 more⟩

include poised named

/-- A valid record is armed for a suspension of its coroutine. -/
theorem made_step (change : Change s s') (data : DataPtr)
    (validate : (s'.data data).validate = true) :
    (s'.data data).timer < s'.coroCount ∧
      (s'.data data).armedFor ≤ (s'.coro (s'.data data).timer).yieldTimes := by
  have kept : (s'.data data).timer = (s.data data).timer →
      (s'.data data).armedFor = (s.data data).armedFor → (s.data data).validate = true →
      (s'.data data).timer < s'.coroCount ∧
        (s'.data data).armedFor ≤ (s'.coro (s'.data data).timer).yieldTimes := by
    intro timer armedFor valid
    rw [timer, armedFor]
    obtain ⟨allocated, reached⟩ := signalled.made data valid
    obtain ⟨more, still⟩ := change.yieldTimes_le allocated
    exact ⟨still, Nat.le_trans reached more⟩
  have same : s'.data = s.data → _ := fun records =>
    kept (by rw [records]) (by rw [records]) (records ▸ validate)
  cases change with
  | calm calm =>
      have keeps := calm.records data
      exact kept keeps.timer keeps.armedFor (keeps.validate validate)
  | resumed _ _ _ _ _ records | switched _ _ _ _ _ records | yields _ _ _ _ _ _ _ records
  | suspends _ _ _ _ _ records | makes _ _ _ _ _ _ records | finishes _ _ _ _ _ records =>
      exact same records
  | @arms coro _ _ _ at_ _ count objects made records =>
      by_cases isNew : data = s.maxTimerId + 1
      · subst isNew
        obtain ⟨below, stack⟩ := named.callStack_cons
        have onStack : .co coro ∈ s.callStack := by
          simp [stack, (poised.of_timerSchedule at_).runs]
        have allocated : coro < s.coroCount :=
          named.allocated coro (named.onStack coro onStack).1
        rw [made]
        exact ⟨count ▸ allocated, by simp [objects, newRecord]⟩
      · have keeps := records data isNew
        exact kept keeps.timer keeps.armedFor (keeps.validate validate)
  | @fires _ top _ _ _ valid _ _ _ records =>
      by_cases isTop : data = top
      · subst isTop
        exact kept (by simp [records]) (by simp [records]) valid
      · rw [records, Function.update_of_ne isTop] at validate
        exact kept (by simp [records, isTop]) (by simp [records, isTop]) validate
  | @rearms _ again _ _ valid _ _ _ record records =>
      by_cases isAgain : data = again
      · subst isAgain
        exact kept record.1 record.2.1 valid
      · have same := records data isAgain
        exact kept (by rw [same]) (by rw [same]) (same ▸ validate)

/-- While a coroutine is about to suspend, the timer of that suspension has not fired. -/
theorem unfired_step (taken : machine.step s label = .ok s') (coro : CoroPtr) (times : Nat)
    (leaving : Leaving s' coro) (fired : .fired coro times ∈ s'.events) :
    times < (s'.coro coro).yieldTimes := by
  rcases poised.leaving_cases named taken leaving with before | ⟨_, objects, events⟩
  · rcases (step_change taken).fired_cases fired with old | ⟨_, _, _, _, handler⟩
    · have earlier := signalled.unfired coro times before old
      have allocated := (signalled.reached coro times old).1
      exact Nat.lt_of_lt_of_le earlier ((step_change taken).yieldTimes_le allocated).1
    · -- A coroutine that leaves runs no timeout handler.
      obtain ⟨rest, at_⟩ := cons_of_innermost handler
      have frames := leaving.frames_cases
      rw [at_] at frames
      rcases frames with ⟨_, frames⟩ | ⟨_, frames⟩ | frames <;> cases frames
  · rw [events] at fired
    rw [objects, Function.update_self]
    exact Nat.lt_succ_of_le (signalled.reached coro times fired).2

theorem step (taken : machine.step s label = .ok s') : Signalled s' where
  made := signalled.made_step poised named (step_change taken)
  reached := signalled.reached_step (step_change taken)
  unfired := signalled.unfired_step poised named taken

end Signalled

theorem signalled_init (env : Bool) : Signalled (State.init env) where
  made _ validate := by cases validate
  reached _ _ fired := by cases fired
  unfired _ _ _ fired := by cases fired

/-- This holds in every run that takes no id in use. -/
theorem signalled_of_run {env : Bool} (run : machine.Run TakesFreeId (State.init env) s) :
    Signalled s := by
  induction run with
  | start => exact signalled_init env
  | step prior _ taken ih => exact ih.step (poised_of_run prior) (named_of_run prior) taken

end LibcoRpc.CoroMgr
