import LibcoRpc.CoroMgr.Loops

/-!
# Every run keeps the invariant

`core_closed` is the step lemma: whatever user code asks for, and whatever loop goes on,
framework code settles with the invariant again. `settled_of_run` is the run lemma.
-/

namespace LibcoRpc.CoroMgr

open LibcoRpc.Std

variable {s s' : State}

theorem core_init (env : Bool) : Core (State.init env) where
  stands coro _ := by
    refine ⟨.absent, rfl, ?_⟩
    constructor
    all_goals simp [State.init, noCoro]
  pending data validate := by cases validate
  owner coro data current := by cases current
  linked := trivial
  waiting coroId coro := by simp [State.init, life]
  noneDoomed coro := by simp [State.init, life]
  current := .user

/-- The object `GetCurCoro` finds for a coroutine other than the main one is that
coroutine; for the main one it is a wrapper. -/
theorem getCurCoro_cases (named : s.registry.Named) {coro : CoroPtr}
    (found : s.getCurCoro = .ok (some coro)) :
    s.coSelf = .main ∧ (s.coro coro).innerCoro = .main ∨ s.coSelf = .co coro := by
  have found := find_of_getCurCoro found
  cases self : s.coSelf with
  | main =>
      rw [self] at found
      rcases named.mainSpec with zero | ⟨main, isMain, mainFound⟩
      · have zero : (s.inner .main).aSpec0 = 0 := zero
        rw [zero] at found
        have positive := named.positive 0 (named.corosKey 0 coro found).2.2
        exact absurd positive (by decide)
      · have same : some main = some coro := mainFound.symm.trans found
        cases same
        exact .inl ⟨rfl, isMain⟩
  | co running =>
      rw [self] at found
      obtain ⟨rest, stack⟩ := named.callStack_cons
      have onStack : .co running ∈ s.callStack := by
        rw [stack, self]
        exact List.mem_cons_self
      obtain ⟨isCo, runs⟩ := named.onStack running onStack
      have spec : (s.inner (.co running)).aSpec0 = (s.coro running).coroId :=
        named.spec running isCo
      have registered : s.coros.find (s.coro running).coroId = some running :=
        named.registered running isCo runs
      rw [spec, registered] at found
      cases found
      exact .inr rfl

/-- A `Yield` that is refused, or suspends. -/
theorem settled_coroYield (core : Core s) (named : s.registry.Named) (userRuns : s.UserRuns)
    {coro : CoroPtr} {timeout : Int} (taken : s.coroYield s.coSelf coro timeout = .ok s') :
    Settled s' := by
  have refused : ∀ ret, Settled (s.returns ret) := fun ret => (core.returns userRuns ret).settled
  simp only [State.coroYield] at taken
  split at taken
  · cases taken
    exact refused _
  · split at taken
    · cases taken
    · cases taken
    next current found =>
      split at taken
      · cases taken
        exact refused _
      next isCurrent =>
        split at taken
        · cases taken
          exact refused _
        next notMain =>
          cases taken
          have isCurrent : coro = current := Decidable.not_not.mp isCurrent
          subst isCurrent
          have self : s.coSelf = .co coro := by
            rcases getCurCoro_cases named found with ⟨_, isMain⟩ | self
            · simp [Coro.isMainCoro, isMain] at notMain
            · exact self
          obtain ⟨rest, stack⟩ := named.callStack_cons
          rw [self] at stack
          cases rest with
          | nil =>
              have last : s.callStack.getLast? = some .main := named.mainLast
              simp [stack] at last
          | cons below rest =>
              have onStack : .co coro ∈ s.callStack := by simp [stack]
              obtain ⟨times, lives, running⟩ := core.running_of_onStack onStack
              exact settled_yield core stack running _ fun now =>
                core_asleep core named stack lives running

/-- A `Resume` that is refused, or wakes the coroutine. -/
theorem settled_coroResume (core : Core s) (named : s.registry.Named) (coro : CoroPtr)
    (passData : Variant) : Settled (s.goto s.coSelf [.resume coro passData .explicit]) := by
  cases yielded : (s.coro coro).yielded with
  | true => exact settled_explicit core named yielded passData
  | false =>
      have refused : Settled (s.worked s.coro s.data s.heap s.events llbcFailed []) :=
        (core.worked named (.refl _) (fun _ _ inHeap => inHeap) (fun _ => rfl) .user).settled
      exact settled_resume_refused yielded refused

/-- A `Cancel` that is refused, finds no timer, or wakes the coroutine. -/
theorem settled_coroCancel (core : Core s) (named : s.registry.Named) (coro : CoroPtr) :
    Settled (s.goto s.coSelf [.cancel coro]) := by
  have back : ∀ ret, Settled (s.worked s.coro s.data s.heap s.events ret []) := fun ret =>
    (core.worked named (.refl _) (fun _ _ inHeap => inHeap) (fun _ => rfl) .user).settled
  cases yielded : (s.coro coro).yielded with
  | false => exact settled_cancel_refused yielded (back _)
  | true =>
      refine settled_cancel yielded ?_
      rcases core.yielded_cases yielded with ⟨lives, fresh⟩ | ⟨times, lives, suspended⟩
      · refine settled_timerCancel_idle (fun data current => ?_) (settled_cancelRet (back _))
        rw [fresh.unarmed] at current
        cases current
      · exact settled_cancel_suspended core named lives suspended (.inl rfl)

/-- Whatever user code asks for settles. -/
theorem settled_userStep (core : Core s) (named : s.registry.Named) (userRuns : s.UserRuns)
    {op : Op} (taken : s.userStep s.coSelf op = .ok s') : Settled s' := by
  cases op with
  | start => exact (core_start core userRuns taken).settled
  | createCoro entry args =>
      cases taken
      exact (core_createCoro core userRuns entry args).settled
  | setEntry coro entry =>
      simp only [State.userStep] at taken
      split at taken
      · cases taken
        simp only [State.setEntry]
        split
        · exact (core.returns userRuns _).settled
        · refine ((core.setCoro userRuns ?_).returns userRuns _).settled
          rfl
      · cases taken
  | setArgs coro args =>
      simp only [State.userStep] at taken
      split at taken
      · cases taken
        simp only [State.setArgs]
        split
        · exact (core.returns userRuns _).settled
        · refine ((core.setCoro userRuns ?_).returns userRuns _).settled
          rfl
      · cases taken
  | setPtrParam1 coro param =>
      simp only [State.userStep] at taken
      split at taken
      · cases taken
        refine (core.setCoro userRuns ?_).settled
        rfl
      · cases taken
  | coroYield coro timeout =>
      simp only [State.userStep] at taken
      split at taken
      · exact settled_coroYield core named userRuns taken
      · cases taken
  | coroResume coro passData =>
      simp only [State.userStep] at taken
      split at taken
      · cases taken
        exact settled_coroResume core named coro passData
      · cases taken
  | coroCancel coro =>
      simp only [State.userStep] at taken
      split at taken
      · cases taken
        exact settled_coroCancel core named coro
      · cases taken
  | yield timeout =>
      simp only [State.userStep] at taken
      split at taken
      · cases taken
      · cases taken
      · exact settled_coroYield core named userRuns taken
  | resume coroId passData =>
      cases taken
      simp only [State.withCoro]
      split
      · exact (core.returns userRuns _).settled
      · exact settled_coroResume core named _ passData
  | cancel coroId =>
      cases taken
      simp only [State.withCoro]
      split
      · exact (core.returns userRuns _).settled
      · exact settled_coroCancel core named _
  | update =>
      cases taken
      exact settled_schedUpdate core named (.inl rfl)
  | stop =>
      cases taken
      have atLoop : Core (s.worked s.coro s.data s.heap s.events s.ret
          [.stopLoop s.coros.first]) :=
        core.worked named (.refl _) (fun _ _ inHeap => inHeap) (fun _ => rfl) .stop
      exact atLoop.settled
  | entryReturn =>
      obtain ⟨coro, below, rest, stack, notWaiting, rfl⟩ := entryReturn_cases named taken
      exact (core_ended core named stack notWaiting).settled

/-- Framework code that goes on from a resting state settles. -/
theorem settled_runFrame (core : Core s) (named : s.registry.Named) {choice : Choice}
    {frame : Frame} {rest : List Frame} (frames : s.frames s.coSelf = frame :: rest)
    (taken : s.runFrame choice s.coSelf rest frame = .ok s') : Settled s' := by
  have current := core.current
  rw [frames] at current
  cases current with
  | resumed holds =>
      cases taken
      exact settled_resumed core named holds
  | loop caller => exact settled_schedLoop core named caller taken
  | recycle caller =>
      cases taken
      exact settled_updateRecycle core named caller
  | stop => exact settled_stopLoop core named taken

/-- One step from a resting state with the invariant settles with the invariant. -/
theorem core_closed (core : Core s) {label : Label} (governed : Governed s label)
    (taken : machine.step s label = .ok s') : Settled s' := by
  cases label with
  | user op =>
      simp only [machine, State.step] at taken
      split at taken
      next userRuns => exact settled_userStep core governed.named userRuns taken
      next => cases taken
  | work choice =>
      simp only [machine, State.step] at taken
      split at taken
      next => cases taken
      next frame rest frames => exact settled_runFrame core governed.named frames taken

/-! ## Faults -/

/-- What user code can run into: a coroutine that is not registered, or a pointer to a
deleted object. -/
def CallerFault (fault : Fault) : Prop := fault = .nullDeref ∨ fault = .danglingCoro

theorem coroYield_fault {coro : CoroPtr} {timeout : Int} {fault : Fault}
    (failed : s.coroYield s.coSelf coro timeout = .error fault) : CallerFault fault := by
  simp only [State.coroYield] at failed
  split at failed
  · cases failed
  · split at failed
    next refused =>
      cases failed
      simp only [State.getCurCoro] at refused
      split at refused
      · cases refused
        exact .inl rfl
      · cases refused
    · cases failed
      exact .inl rfl
    · split at failed
      · cases failed
      · split at failed <;> cases failed

theorem entryReturn_fault (named : s.registry.Named) {fault : Fault}
    (failed : s.entryReturn = .error fault) : fault = .blocked := by
  simp only [State.entryReturn] at failed
  split at failed
  · cases failed
    rfl
  next coro onTop =>
    obtain ⟨rest, stack⟩ := named.callStack_cons
    rw [onTop] at stack
    cases rest with
    | nil =>
        have last : s.callStack.getLast? = some .main := named.mainLast
        simp [stack] at last
    | cons below rest =>
        have sameStack := State.maskWillRecycle_callStack s coro
        simp [State.coYield, State.record, State.setInner, sameStack, stack] at failed

theorem userStep_fault (named : s.registry.Named) {op : Op} {fault : Fault}
    (failed : s.userStep s.coSelf op = .error fault) : CallerFault fault ∨ fault = .blocked := by
  cases op with
  | start =>
      simp only [State.userStep, State.start] at failed
      split at failed
      · cases failed
        exact .inl (.inl rfl)
      · split at failed <;> cases failed
  | coroYield coro timeout =>
      simp only [State.userStep] at failed
      split at failed
      · exact .inl (coroYield_fault failed)
      · cases failed
        exact .inl (.inr rfl)
  | yield timeout =>
      simp only [State.userStep, State.getCurCoro] at failed
      split at failed
      next refused =>
        cases failed
        split at refused
        · cases refused
          exact .inl (.inl rfl)
        · cases refused
      · cases failed
        exact .inl (.inl rfl)
      · exact .inl (coroYield_fault failed)
  | entryReturn => exact .inr (entryReturn_fault named failed)
  | setEntry | setArgs | setPtrParam1 | coroResume | coroCancel =>
      simp only [State.userStep] at failed
      split at failed
      · cases failed
      · cases failed
        exact .inl (.inr rfl)
  | createCoro | resume | cancel | update | stop => cases failed

theorem Core.fault (core : Core s) (named : s.registry.Named) {label : Label} {fault : Fault}
    (failed : machine.step s label = .error fault) :
    Tolerated fault ∨ ∃ op, label = .user op ∧ CallerFault fault := by
  cases label with
  | user op =>
      simp only [machine, State.step] at failed
      split at failed
      · rcases userStep_fault named failed with caller | blocked
        · exact .inr ⟨op, rfl, caller⟩
        · exact .inl (.inr (.inr (.inr blocked)))
      · cases failed
        exact .inl (.inr (.inr (.inr rfl)))
  | work choice =>
      have current := core.current
      simp only [machine, State.step] at failed
      split at failed
      · cases failed
        exact .inl (.inr (.inr (.inr rfl)))
      next frame rest frames =>
        rw [frames] at current
        cases current with
        | resumed holds => cases failed
        | recycle caller => cases failed
        | loop caller =>
            simp only [State.runFrame, State.schedLoop] at failed
            split at failed
            · cases failed
            · split at failed
              · cases failed
                exact .inl (.inr (.inr (.inr rfl)))
              · split at failed
                · cases failed
                · split at failed <;> cases failed
        | @stop position =>
            cases position with
            | none => cases failed
            | some entry =>
                simp only [State.runFrame, State.stopLoop] at failed
                split at failed
                · cases failed
                  exact .inl (.inr (.inr (.inl rfl)))
                · split at failed <;> cases failed

/-! ## Runs -/

/-- An id that has not been issued before is free. -/
theorem TakesNewId.free {label : Label} (newId : TakesNewId s label)
    (named : s.registry.Named) : TakesFreeId s label := by
  intro coroId issued
  -- Every id in a map has been issued before.
  have new := newId coroId issued
  constructor
  · cases found : s.registry.coros.find coroId with
    | none => rfl
    | some coro => exact absurd (named.corosKey coroId coro found).2.2 new
  · cases found : s.registry.waiting.find coroId with
    | none => rfl
    | some coro => exact absurd (named.waitingKey coroId coro found).2.2 new

/-- Disciplined steps keep names in order. -/
theorem Disciplined.named_step (named : s.registry.Named) {label : Label}
    (disciplined : Disciplined s label) (taken : machine.step s label = .ok s') :
    s'.registry.Named :=
  named.step (disciplined.newId.free named) (State.step_registry taken)

/-- A run that takes no id twice takes free ids only. -/
theorem freeIds_of_run {env : Bool} (run : machine.Run TakesNewId (State.init env) s) :
    machine.Run TakesFreeId (State.init env) s := by
  induction run with
  | start => exact .start
  | step _ newId taken ih => exact .step ih (newId.free (named_of_run ih)) taken

/-- Every state of a disciplined run settles, and its names are in order. -/
theorem settled_of_run {env : Bool} (run : machine.Run Disciplined (State.init env) s) :
    Settled s ∧ s.registry.Named := by
  have named := run.invariant (fun s => s.registry.Named) (init_named env)
    fun _ _ _ named disciplined taken => disciplined.named_step named taken
  have governedRun := run.and_invariant (fun s => s.registry.Named) (init_named env)
    fun _ _ _ named disciplined taken => disciplined.named_step named taken
  have governed : machine.Run Governed (State.init env) s :=
    governedRun.mono fun _ _ both => { both.1 with named := both.2 }
  exact ⟨governed.settles (core_init env).settled
    fun _ _ _ _ core governed taken => core_closed core governed taken, named⟩

/-- The faults of a disciplined run. -/
theorem fault_of_run {env : Bool} (run : machine.Run Disciplined (State.init env) s)
    {label : Label} {fault : Fault} (disciplined : Disciplined s label)
    (failed : machine.step s label = .error fault) :
    Tolerated fault ∨ ∃ op, label = .user op ∧ CallerFault fault := by
  obtain ⟨settled, named⟩ := settled_of_run run
  rcases settled.fault { disciplined with named := named } failed with tolerated | ⟨_, core⟩
  · exact .inl tolerated
  · exact core.fault named failed

/-- Where a timeout handler has come to its `Resume`, its flag is still set. -/
theorem timeouted_of_run {env : Bool} (run : machine.Run Disciplined (State.init env) s)
    {coro : CoroPtr} {passData : Variant} {rest : List Frame}
    (at_ : s.frames s.coSelf = .resume coro passData .expiry :: rest) :
    (s.coro coro).timeouted = true :=
  ((settled_of_run run).1.along (not_resting at_ rfl)).expiresFlagged coro passData rest at_

/-- Whenever user code runs, the invariant holds. -/
theorem core_of_run {env : Bool} (run : machine.Run Disciplined (State.init env) s)
    (userRuns : s.UserRuns) : Core s := by
  refine (settled_of_run run).1.goal fun frame member => ?_
  rw [userRuns] at member
  cases member

/-- Framework code goes on `count` times at clock `now`. -/
def works (count : Nat) (now : Int) : List Label := List.replicate count (.work ⟨now, 0⟩)

end LibcoRpc.CoroMgr
