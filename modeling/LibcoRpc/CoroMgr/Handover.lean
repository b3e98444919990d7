import LibcoRpc.CoroMgr.Change
import LibcoRpc.CoroMgr.Passage

/-!
# Who may switch to whom

The facts about control that hold whatever timeouts are asked for. No coroutine of the
call stack says it is suspended; a call that is about to switch is one of the running
coroutine, and every other coroutine waits in frames that switch nothing (`Poised`). Ids
are assumed not to be taken twice, and that is all.
-/

namespace LibcoRpc.CoroMgr

variable {s s' : State} {label : Label} {coro : CoroPtr} {rest : List Frame}

/-- What the innermost calls of the running coroutine are about to do. -/
inductive Engaged (s : State) : Prop where
  /-- Nothing that switches. -/
  | cool (cool : Cool (s.frames s.coSelf))
  /-- User code has called `Resume`. -/
  | asked {coro : CoroPtr} {passData : Variant}
      (at_ : s.frames s.coSelf = [.resume coro passData .explicit])
  /-- `OnCoroCancel` has. -/
  | cancelled {coro : CoroPtr} {rest : List Frame}
      (at_ : s.frames s.coSelf = .resume coro .nil .cancel :: rest) (cool : Cool rest)
      (flag : (s.coro coro).cancelled = true)
  /-- `Resume` has been accepted. -/
  | switching {coro : CoroPtr} {rest : List Frame}
      (at_ : Cancelling coro (.coResume coro :: rest) (s.frames s.coSelf) ∨
        s.frames s.coSelf = .coResume coro :: rest)
      (cool : Cool rest) (accepted : (s.coro coro).yielded = false)
  /-- `Yield` has been. -/
  | leaving {coro : CoroPtr} (leaving : Leaving s coro)

/-- Control is where the objects say it is. -/
structure Poised (s : State) : Prop where
  awake : ∀ coro, .co coro ∈ s.callStack → (s.coro coro).yielded = false
  parked : ∀ co, co ≠ s.coSelf → Cool (s.frames co)
  engaged : Engaged s

/-- The frames of a coroutine that leaves. -/
theorem Leaving.frames_cases (leaving : Leaving s coro) :
    (∃ dueTime, Cancelling coro [.timerSchedule coro dueTime, .yieldSuspend coro]
      (s.frames s.coSelf)) ∨
    (∃ dueTime, s.frames s.coSelf = [.timerSchedule coro dueTime, .yieldSuspend coro]) ∨
    s.frames s.coSelf = [.yieldSuspend coro] := by
  rw [leaving.runs]
  exact leaving.at_

/-- What is known of a call that is about to switch when it is innermost. -/
inductive Hot (s : State) : Frame → List Frame → Prop where
  | asked {coro : CoroPtr} {passData : Variant} : Hot s (.resume coro passData .explicit) []
  | cancelled {coro : CoroPtr} {rest : List Frame} (cool : Cool rest)
      (flag : (s.coro coro).cancelled = true) : Hot s (.resume coro .nil .cancel) rest
  | coResume {coro : CoroPtr} {rest : List Frame} (cool : Cool rest)
      (accepted : (s.coro coro).yielded = false) : Hot s (.coResume coro) rest
  | timerSchedule {coro : CoroPtr} {dueTime : Int} (leaving : Leaving s coro) :
      Hot s (.timerSchedule coro dueTime) [.yieldSuspend coro]
  | yieldSuspend {coro : CoroPtr} (leaving : Leaving s coro) : Hot s (.yieldSuspend coro) []

namespace Poised

theorem hot (poised : Poised s) {frame : Frame} (at_ : s.frames s.coSelf = frame :: rest)
    (hot : frame.hot = true) : Hot s frame rest := by
  cases poised.engaged with
  | cool cool =>
      rw [at_] at cool
      exact absurd hot (by simp [cool frame])
  | asked frames =>
      cases at_.symm.trans frames
      exact .asked
  | cancelled frames cool flag =>
      cases at_.symm.trans frames
      exact .cancelled cool flag
  | switching frames cool accepted =>
      rw [at_] at frames
      rcases frames with cancelling | frames
      · cases cancelling <;> cases hot
      · cases frames
        exact .coResume cool accepted
  | leaving leaving =>
      have frames := leaving.frames_cases
      rw [at_] at frames
      rcases frames with ⟨_, frames⟩ | ⟨_, frames⟩ | frames
      · cases frames <;> cases hot
      · cases frames
        exact .timerSchedule leaving
      · cases frames
        exact .yieldSuspend leaving

variable (poised : Poised s)

include poised

theorem of_resume {passData : Variant} {cause : Cause}
    (at_ : s.frames s.coSelf = .resume coro passData cause :: rest) :
    Cool rest ∧ (cause = .explicit → rest = []) ∧
      (cause = .cancel → (s.coro coro).cancelled = true) := by
  cases cause with
  | explicit =>
      cases poised.hot at_ rfl with
      | asked => exact ⟨cool_nil, fun _ => rfl, by simp⟩
  | cancel =>
      cases poised.hot at_ rfl with
      | cancelled cool flag => exact ⟨cool, by simp, fun _ => flag⟩
  | expiry =>
      refine ⟨?_, by simp, by simp⟩
      cases poised.engaged with
      | cool cool =>
          rw [at_] at cool
          exact (List.forall_mem_cons.mp cool).2
      | asked frames | cancelled frames => cases at_.symm.trans frames
      | switching frames =>
          rw [at_] at frames
          rcases frames with frames | frames <;> cases frames
      | leaving leaving =>
          have frames := leaving.frames_cases
          rw [at_] at frames
          rcases frames with ⟨_, frames⟩ | ⟨_, frames⟩ | frames <;> cases frames

theorem of_coResume (at_ : s.frames s.coSelf = .coResume coro :: rest) :
    Cool rest ∧ (s.coro coro).yielded = false := by
  cases poised.hot at_ rfl with
  | coResume cool accepted => exact ⟨cool, accepted⟩

theorem of_timerSchedule {dueTime : Int}
    (at_ : s.frames s.coSelf = .timerSchedule coro dueTime :: rest) : Leaving s coro := by
  cases poised.hot at_ rfl with
  | timerSchedule leaving => exact leaving

theorem of_yieldSuspend (at_ : s.frames s.coSelf = .yieldSuspend coro :: rest) :
    Leaving s coro ∧ rest = [] := by
  cases poised.hot at_ rfl with
  | yieldSuspend leaving => exact ⟨leaving, rfl⟩

end Poised

/-! ## Steps -/

/-- The running coroutine is on the call stack once. -/
theorem Registry.Named.self_not_below (named : s.registry.Named) {below : List Co}
    (stack : s.callStack = s.coSelf :: below) : s.coSelf ∉ below := by
  have distinct : s.callStack.Nodup := named.nodup
  rw [stack] at distinct
  exact (List.nodup_cons.mp distinct).1

/-- `co_resume` gives control to another coroutine. -/
theorem Registry.Named.entered_ne (named : s.registry.Named)
    (offStack : (s.coro coro).innerCoro ∉ s.callStack)
    (stack : s'.callStack = (s.coro coro).innerCoro :: s.callStack) : s'.coSelf ≠ s.coSelf := by
  intro same
  obtain ⟨below, onTop⟩ := named.callStack_cons
  rw [coSelf_of_cons stack] at same
  exact offStack (by simp [onTop, same])

/-- So do `co_yield_ct` and the end of an entry function. -/
theorem Registry.Named.left_ne (named : s.registry.Named) {below : Co} {lower : List Co}
    (before : s.callStack = s.coSelf :: below :: lower) (stack : s'.callStack = below :: lower) :
    s'.coSelf ≠ s.coSelf := by
  intro same
  rw [coSelf_of_cons stack] at same
  exact named.self_not_below before (by simp [same])

/-- What user code of another coroutine does leaves a coroutine as it is. -/
theorem Registry.Named.user_keeps (named : s.registry.Named) (userRuns : s.UserRuns)
    (taken : machine.step s label = .ok s') (created : coro < s.coroCount)
    (other : s.coSelf ≠ .co coro) :
    (s.coro coro).Keeps (s'.coro coro) := by
  cases step_change taken with
  | calm calm => exact calm.objects coro
  | resumed at_ | arms at_ | suspends at_ => cases userRuns.symm.trans at_
  | @yields target _ _ found _ notMain _ _ objects =>
      have different : coro ≠ target := by
        rintro rfl
        rcases getCurCoro_cases named found with ⟨_, isMain⟩ | self
        · simp [Coro.isMainCoro, isMain] at notMain
        · exact other self
      rw [objects, Function.update_of_ne different]
      exact .refl _
  | switched _ _ _ _ objects | fires _ _ _ _ _ objects | rearms _ _ _ _ objects
  | finishes _ _ _ _ objects =>
      rw [objects]
      exact .refl _
  | makes _ _ _ objects =>
      rw [objects, Function.update_of_ne (Nat.ne_of_lt created)]
      exact .refl _

namespace Poised

variable (poised : Poised s) (named : s.registry.Named)

include poised named

theorem awake_step (taken : machine.step s label = .ok s') (coro : CoroPtr)
    (onStack : .co coro ∈ s'.callStack) : (s'.coro coro).yielded = false := by
  by_cases leaving : Leaving s coro
  · rcases leaving.step taken with still | popped
    · exact still.running
    · have distinct : s.callStack.Nodup := named.nodup
      rw [popped] at distinct
      exact absurd onStack (List.nodup_cons.mp distinct).1
  · by_cases before : .co coro ∈ s.callStack
    · have created : coro < s.coroCount := named.allocated coro (named.onStack coro before).1
      exact (step_change taken).yielded_kept created (poised.awake coro before)
        fun _ at_ => leaving (poised.of_yieldSuspend at_).1
    · cases step_change taken with
      | calm calm => exact absurd (calm.stack ▸ onStack) before
      | resumed _ _ stack | yields _ _ _ _ stack | arms _ stack | fires _ _ _ stack
      | rearms _ _ stack | makes _ stack => exact absurd (stack ▸ onStack) before
      | suspends _ earlier stack | finishes _ earlier stack =>
          rw [stack] at onStack
          exact absurd (earlier ▸ List.mem_cons_of_mem _ onStack) before
      | switched at_ offStack stack _ objects =>
          have entered : Co.co coro = _ :=
            (List.mem_cons.mp (stack ▸ onStack)).resolve_right before
          rw [named.isCo_of_offStack offStack] at entered
          cases entered
          rw [objects]
          exact (poised.of_coResume at_).2

omit named in
theorem parked_step (change : Change s s')
    (away : ∀ co, co ≠ s.coSelf → s'.frames co = s.frames co) (co : Co) (other : co ≠ s'.coSelf) :
    Cool (s'.frames co) := by
  have stayed : s'.callStack = s.callStack → Cool (s'.frames co) := by
    intro stack
    rw [coSelf_of_stack stack] at other
    rw [away co other]
    exact poised.parked co other
  -- After a switch the coroutine that ran waits as well.
  have switched : Cool (s'.frames s.coSelf) → Cool (s'.frames co) := by
    intro cool
    by_cases self : co = s.coSelf
    · exact self ▸ cool
    · rw [away co self]
      exact poised.parked co self
  cases change with
  | calm calm => exact stayed calm.stack
  | resumed _ _ stack | yields _ _ _ _ stack | arms _ stack | fires _ _ _ stack | rearms _ _ stack
  | makes _ stack =>
      exact stayed stack
  | switched at_ _ _ _ _ _ _ _ frames =>
      refine switched ?_
      rw [frames, Function.update_self]
      exact List.forall_mem_cons.mpr ⟨rfl, (poised.of_coResume at_).1⟩
  | suspends at_ _ _ _ _ _ _ _ frames =>
      refine switched ?_
      rw [frames, Function.update_self, (poised.of_yieldSuspend at_).2]
      exact List.forall_mem_cons.mpr ⟨rfl, cool_nil⟩
  | finishes userRuns _ _ _ _ _ _ _ frames =>
      refine switched ?_
      rw [frames, userRuns]
      exact cool_nil

omit named in
/-- A coroutine that gets control has been waiting. -/
theorem cool_of_entered (taken : machine.step s label = .ok s') (other : s'.coSelf ≠ s.coSelf) :
    Cool (s'.frames s'.coSelf) := by
  rw [step_frames taken other]
  exact poised.parked _ other

theorem engaged_of_leaving (leaving : Leaving s coro) (taken : machine.step s label = .ok s') :
    Engaged s' := by
  rcases leaving.step taken with still | popped
  · exact .leaving still
  · refine .cool (poised.cool_of_entered taken ?_)
    cases stack : s'.callStack with
    | nil =>
        -- The main coroutine is at the bottom of the call stack.
        have last : s.callStack.getLast? = some .main := named.mainLast
        rw [popped, stack] at last
        cases last
    | cons top lower =>
        rw [← leaving.runs, stack] at popped
        exact named.left_ne popped stack

/-- A step of a coroutine that is not on its way into or out of another one. -/
theorem engaged_of_cool (cool : ∀ frame rest, s.frames s.coSelf = frame :: rest → Cool rest)
    (taken : machine.step s label = .ok s') : Engaged s' := by
  have onto : ∀ {frames : List Frame}, s'.callStack = s.callStack → s'.frames s.coSelf = frames →
      s'.frames s'.coSelf = frames := fun stack next => (coSelf_of_stack stack).symm ▸ next
  cases step_change taken with
  | calm calm onward =>
      cases onward with
      | asked _ mild => exact .cool (onto calm.stack rfl ▸ mild.cool)
      | asksResume _ _ next => exact .asked (onto calm.stack next)
      | on at_ next pushed =>
          refine .cool ?_
          rw [onto calm.stack next]
          exact List.forall_mem_append.mpr ⟨pushed.cool, cool _ _ at_⟩
      | cancels at_ flag next => exact .cancelled (onto calm.stack next) (cool _ _ at_) flag
  | resumed at_ _ stack _ objects _ _ _ next =>
      have next := onto stack next
      refine .switching ?_ (cool _ _ at_) (by rw [objects, Function.update_self])
      split at next
      · exact .inr next
      · exact .inl (next ▸ .timerCancel)
  | switched _ offStack stack =>
      exact .cool (poised.cool_of_entered taken (named.entered_ne offStack stack))
  | @yields coro timeout _ found running notMain stack _ objects _ _ _ next =>
      have self : s.coSelf = .co coro := by
        rcases getCurCoro_cases named found with ⟨_, isMain⟩ | self
        · simp [Coro.isMainCoro, isMain] at notMain
        · exact self
      refine .leaving ⟨(coSelf_of_stack stack).trans self, by simpa [objects] using running,
        .inl ⟨actualTimeout timeout, ?_⟩⟩
      rw [← self, next]
      exact .timerCancel
  | arms at_ => exact poised.engaged_of_leaving named (poised.of_timerSchedule at_) taken
  | suspends at_ => exact poised.engaged_of_leaving named (poised.of_yieldSuspend at_).1 taken
  | fires at_ _ _ stack _ _ _ _ _ next =>
      refine .cool (onto stack next ▸ ?_)
      exact List.forall_mem_cons.mpr ⟨rfl, List.forall_mem_cons.mpr ⟨rfl, cool _ _ at_⟩⟩
  | rearms at_ _ stack _ _ _ _ _ _ next =>
      refine .cool (onto stack next ▸ ?_)
      exact List.forall_mem_cons.mpr ⟨rfl, cool _ _ at_⟩
  | makes userRuns stack _ _ _ _ _ _ _ frames =>
      have next : s'.frames s'.coSelf = [] := onto stack (frames ▸ userRuns)
      exact .cool (next ▸ cool_nil)
  | finishes _ before stack =>
      exact .cool (poised.cool_of_entered taken (named.left_ne before stack))

theorem engaged_step (taken : machine.step s label = .ok s') : Engaged s' := by
  cases poised.engaged with
  | cool cool =>
      refine poised.engaged_of_cool named (fun frame rest at_ => ?_) taken
      rw [at_] at cool
      exact (List.forall_mem_cons.mp cool).2
  | asked at_ =>
      refine poised.engaged_of_cool named (fun frame rest frames => ?_) taken
      cases at_.symm.trans frames
      exact cool_nil
  | cancelled at_ cool =>
      refine poised.engaged_of_cool named (fun frame rest frames => ?_) taken
      cases at_.symm.trans frames
      exact cool
  | switching at_ cool accepted =>
      rcases at_ with cancelling | at_
      · obtain ⟨stack, still, next, _⟩ := cancelling.step accepted taken
        rw [← coSelf_of_stack stack] at next
        exact .switching (next.symm.imp_right And.left) cool still
      · refine poised.engaged_of_cool named (fun frame rest frames => ?_) taken
        cases at_.symm.trans frames
        exact cool
  | leaving leaving => exact poised.engaged_of_leaving named leaving taken

omit named in
/-- Only a coroutine that leaves has suspending to do. -/
theorem leaving_of_mem (member : .yieldSuspend coro ∈ s.frames s.coSelf) : Leaving s coro := by
  cases poised.engaged with
  | cool cool => cases cool _ member
  | asked at_ =>
      rw [at_] at member
      cases List.mem_singleton.mp member
  | cancelled at_ cool =>
      rw [at_] at member
      rcases List.mem_cons.mp member with head | tail
      · cases head
      · cases cool _ tail
  | switching at_ cool =>
      exfalso
      rcases at_ with cancelling | at_
      · generalize s.frames s.coSelf = frames at cancelling member
        cases cancelling with
        | timerCancel | onCoroCancel | schedCancelRet =>
            simp only [List.mem_cons, reduceCtorEq, false_or] at member
            cases cool _ member
      · rw [at_] at member
        simp only [List.mem_cons, reduceCtorEq, false_or] at member
        cases cool _ member
  | @leaving other leaving =>
      have only : coro = other := by
        have frames := leaving.frames_cases
        generalize s.frames s.coSelf = at_ at frames member
        rcases frames with ⟨_, cancelling⟩ | ⟨_, rfl⟩ | rfl
        · cases cancelling with
          | timerCancel | onCoroCancel | schedCancelRet => simpa using member
        all_goals simpa using member
      exact only ▸ leaving

/-- A coroutine that leaves has been leaving, or `Yield` has just been accepted. -/
theorem leaving_cases (taken : machine.step s label = .ok s') (leaving : Leaving s' coro) :
    Leaving s coro ∨ s.UserRuns ∧
      s'.coro = Function.update s.coro coro
        { s.coro coro with yieldTimes := (s.coro coro).yieldTimes + 1 } ∧
      s'.events = s.events := by
  have suspending : .yieldSuspend coro ∈ s'.frames s'.coSelf := by
    have frames := leaving.frames_cases
    generalize s'.frames s'.coSelf = at_ at frames
    rcases frames with ⟨_, cancelling⟩ | ⟨_, rfl⟩ | rfl
    · cases cancelling <;> simp
    all_goals simp
  have entered : s'.coSelf ≠ s.coSelf → Leaving s coro := fun other => by
    cases poised.cool_of_entered taken other _ suspending
  have stayed : ∀ {frames : List Frame}, s'.callStack = s.callStack →
      s'.frames s.coSelf = frames → .yieldSuspend coro ∈ frames := fun stack next => by
    rwa [coSelf_of_stack stack, next] at suspending
  have below : ∀ {frame : Frame} {rest : List Frame}, s.frames s.coSelf = frame :: rest →
      .yieldSuspend coro ∈ rest → Leaving s coro := fun at_ member =>
    poised.leaving_of_mem (at_ ▸ List.mem_cons_of_mem _ member)
  cases step_change taken with
  | calm calm onward =>
      refine .inl ?_
      cases onward with
      | asked _ mild => cases mild _ (stayed calm.stack rfl)
      | asksResume _ _ next => simpa using stayed calm.stack next
      | on at_ next pushed =>
          rcases List.mem_append.mp (stayed calm.stack next) with new | old
          · cases pushed _ new
          · exact below at_ old
      | cancels at_ _ next => exact below at_ (by simpa using stayed calm.stack next)
  | resumed at_ _ stack _ _ _ _ _ next =>
      refine .inl (below at_ ?_)
      have member := stayed stack next
      split at member
      all_goals simpa using member
  | switched _ offStack stack =>
      exact .inl (entered (named.entered_ne offStack stack))
  | @yields other _ userRuns _ _ _ stack _ objects _ _ events next =>
      have same : coro = other := by simpa using stayed stack next
      subst same
      exact .inr ⟨userRuns, objects, events⟩
  | arms at_ stack _ _ _ _ _ _ next => exact .inl (below at_ (stayed stack next))
  | suspends _ before stack | finishes _ before stack =>
      exact .inl (entered (named.left_ne before stack))
  | fires at_ _ _ stack _ _ _ _ _ next | rearms at_ _ stack _ _ _ _ _ _ next =>
      exact .inl (below at_ (by simpa using stayed stack next))
  | makes userRuns stack _ _ _ _ _ _ _ frames =>
      have member := stayed stack (congrFun frames _)
      rw [userRuns] at member
      cases member

omit named in
/-- A coroutine that has left is suspended inside `Yield`. -/
theorem asleep_of_leaving (leaving : Leaving s coro) (taken : machine.step s label = .ok s')
    (popped : s.callStack = .co coro :: s'.callStack) :
    (s'.coro coro).yielded = true ∧
      s'.frames (.co coro) = [.yieldRet coro (s.coro coro).yieldTimes] := by
  have moved : s'.callStack ≠ s.callStack := by simp [popped]
  cases step_change taken with
  | calm calm => exact absurd calm.stack moved
  | resumed _ _ stack | yields _ _ _ _ stack | arms _ stack | fires _ _ _ stack
  | rearms _ _ stack | makes _ stack => exact absurd stack moved
  | switched _ _ stack =>
      rw [stack] at popped
      exact absurd (congrArg List.length popped) (by simp; omega)
  | finishes userRuns => exact absurd userRuns leaving.busy
  | suspends at_ _ _ _ objects _ _ _ frames =>
      have leaves := (poised.of_yieldSuspend at_).1
      cases leaves.runs.symm.trans leaving.runs
      refine ⟨by simp [objects], ?_⟩
      rw [frames, leaving.runs, Function.update_self, (poised.of_yieldSuspend at_).2]

omit named in
/-- A suspended coroutine stays so until `Resume` accepts it. -/
theorem woken_cases (taken : machine.step s label = .ok s') (created : coro < s.coroCount)
    (yielded : (s.coro coro).yielded = true) :
    (s'.coro coro).yielded = true ∨ ∃ passData cause rest,
      s.frames s.coSelf = .resume coro passData cause :: rest ∧
      s'.callStack = s.callStack ∧ (s'.coro coro).yielded = false ∧
      (s'.coro coro).timeouted = (s.coro coro).timeouted ∧
      (s'.coro coro).cancelled = (s.coro coro).cancelled ∧
      s'.frames s.coSelf = if (s.coro coro).isTimeoutedOrCancelled then .coResume coro :: rest
        else .timerCancel coro :: .coResume coro :: rest := by
  have notLeaving : ¬ Leaving s coro := fun leaving => by simp [leaving.running] at yielded
  cases step_change taken with
  | calm calm => exact .inl ((calm.objects coro).yielded.trans yielded)
  | @resumed target passData cause rest at_ _ stack _ objects _ _ _ next =>
      by_cases same : coro = target
      · subst same
        exact .inr ⟨passData, cause, rest, at_, stack, by simp [objects], by simp [objects],
          by simp [objects], next⟩
      · exact .inl (by rwa [objects, Function.update_of_ne same])
  | @yields target _ _ _ running _ _ _ objects =>
      have other : coro ≠ target := by
        rintro rfl
        simp [running] at yielded
      exact .inl (by rwa [objects, Function.update_of_ne other])
  | @arms target _ _ _ at_ _ _ objects =>
      have other : coro ≠ target := by
        rintro rfl
        exact notLeaving (poised.of_timerSchedule at_)
      exact .inl (by rwa [objects, Function.update_of_ne other])
  | @suspends target _ _ _ at_ _ _ _ objects =>
      have other : coro ≠ target := by
        rintro rfl
        exact notLeaving (poised.of_yieldSuspend at_).1
      exact .inl (by rwa [objects, Function.update_of_ne other])
  | switched _ _ _ _ objects | fires _ _ _ _ _ objects | rearms _ _ _ _ objects
  | finishes _ _ _ _ objects => exact .inl (by rwa [objects])
  | makes _ _ _ objects =>
      exact .inl (by rwa [objects, Function.update_of_ne (Nat.ne_of_lt created)])

theorem step (taken : machine.step s label = .ok s') : Poised s' where
  awake := poised.awake_step named taken
  parked := poised.parked_step (step_change taken) fun _ other => step_frames taken other
  engaged := poised.engaged_step named taken

end Poised

theorem poised_init (env : Bool) : Poised (State.init env) where
  awake _ _ := rfl
  parked _ _ := cool_nil
  engaged := .cool cool_nil

theorem poised_of_run {env : Bool} (run : machine.Run TakesFreeId (State.init env) s) :
    Poised s := by
  induction run with
  | start => exact poised_init env
  | step prior _ taken ih => exact ih.step (named_of_run prior) taken

end LibcoRpc.CoroMgr
