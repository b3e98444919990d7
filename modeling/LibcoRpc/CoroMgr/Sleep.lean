import LibcoRpc.CoroMgr.Change
import LibcoRpc.CoroMgr.Wake

/-!
# Suspending, finishing and making coroutines

The steps by which the running coroutine gives up control, `Yield` and the return of
its entry function, and those by which objects come into being.
-/

namespace LibcoRpc.CoroMgr

open LibcoRpc.Std

variable {s : State} {coro : CoroPtr} {times : Nat}

/-! ## Facts about the running coroutine -/

/-- A coroutine on the call stack is running. -/
theorem Steady.running_of_onStack (steady : Steady s none) (onStack : .co coro ∈ s.callStack) :
    ∃ times, life coro s.events = some (.running times) ∧ Running s coro times := by
  obtain ⟨phase, lives, stands⟩ := steady.stands coro (by simp)
  cases phase with
  | running times => exact ⟨times, lives, stands⟩
  | absent => exact absurd onStack (Unmade.offStack stands)
  | fresh => exact absurd onStack (Fresh.toDormant stands).offStack
  | suspended times => exact absurd onStack (Suspended.toDormant stands).offStack
  | finished => exact absurd onStack (Ended.offStack stands)
  | doomed => exact absurd onStack (Ended.offStack stands)
  | deleted => exact absurd onStack (Ended.offStack stands)
  | firing | waking | deleting => exact stands.elim

/-- The coroutine below the running one is where it resumed the running one. -/
theorem Core.below_current (core : Core s) {below : Co} {rest : List Co}
    (stack : s.callStack = .co coro :: below :: rest) :
    ∃ tail, s.frames below = .resumeRet coro :: tail ∧ Tail s coro tail := by
  have linked := core.linked
  rw [stack] at linked
  obtain ⟨⟨resumed, tail, isCo, frames, holds⟩, _⟩ := linked
  cases isCo
  exact ⟨tail, frames, holds⟩

/-- A change by which the running coroutine leaves the call stack. -/
theorem Core.leave {s' : State} (core : Core s) {below : Co} {rest : List Co}
    (stack : s.callStack = .co coro :: below :: rest)
    (touches : Touches s s' (some coro)) (stack' : s'.callStack = below :: rest)
    (frames : ∀ co ∈ below :: rest, s'.frames co = s.frames co)
    (stands : ∃ phase, life coro s'.events = some phase ∧ Stands s' coro phase ∧
      phase ≠ .doomed)
    (pending : ∀ data, (s'.data data).validate = true → (s'.data data).timer = coro →
      (s'.coro coro).timerData = some data ∧
      ∃ times, life coro s'.events = some (.suspended times))
    (owner : ∀ data, (s'.coro coro).timerData = some data →
      (s'.data data).timer = coro ∧ data ≤ s'.maxTimerId)
    (waiting : WaitingAgrees s') : Core s' where
  toSteady := by
    refine core.touch touches (fun _ exempted => by cases exempted)
      (fun _ exempted => by cases exempted) ?_ ?_ ?_ ?_
    · rintro _ ⟨⟩ _
      obtain ⟨phase, lives, stands, _⟩ := stands
      exact ⟨phase, lives, stands⟩
    · rintro data validate isTarget
      have isCoro := (Option.some.inj isTarget).symm
      rw [isCoro]
      exact ⟨by simp, pending data validate isCoro⟩
    · rintro _ data ⟨⟩ current
      exact owner data current
    · rw [stack']
      have below := core.linked
      rw [stack] at below
      exact below.tail.mono touches.keeps fun co member => frames co (List.mem_of_mem_tail member)
  waiting := waiting
  noneDoomed other := by
    by_cases same : other = coro
    · subst same
      obtain ⟨phase, lives, _, notDoomed⟩ := stands
      rw [lives]
      simpa using notDoomed
    · have isOther : some coro ≠ some other := fun equal => same (Option.some.inj equal).symm
      rw [(touches.undisturbed other isOther).life]
      exact core.noneDoomed other
  current := by
    obtain ⟨tail, belowFrames, holds⟩ := core.below_current stack
    have onTop : s'.coSelf = below := by simp [State.coSelf, stack']
    rw [onTop, frames below List.mem_cons_self, belowFrames]
    exact .resumed (holds.mono touches.keeps)

/-! ## Changes that no coroutine notices -/

section Still

variable {s' : State}

theorem Steady.touches_still (steady : Steady s none)
    (object : ∀ coro, (s'.coro coro).bare = (s.coro coro).bare)
    (inner : ∀ coro, s'.inner (.co coro) = s.inner (.co coro))
    (stack : s'.callStack = s.callStack)
    (frames : ∀ coro, .co coro ∉ s.callStack → s'.frames (.co coro) = s.frames (.co coro))
    (coroCount : s'.coroCount = s.coroCount) (maxTimerId : s'.maxTimerId = s.maxTimerId)
    (stale : StaleOnly s.data s'.data)
    (heap : ∀ data, (s.data data).validate = true → data ∈ s.heap → data ∈ s'.heap)
    (lives : ∀ coro, life coro s'.events = life coro s.events) : Touches s s' none where
  undisturbed coro _ :=
    { object := object coro
      inner := inner coro
      stack := by rw [stack]
      frames := frames coro
      allocated := Nat.le_of_eq coroCount.symm
      records := fun data _ validate => stale.pending data validate
      heap := fun data _ validate inHeap => heap data validate inHeap
      life := lives coro }
  timers data _ := stale.timer data
  keeps :=
    { allocated := Nat.le_of_eq maxTimerId.symm
      validate := fun data _ => stale.validate data
      timeouting := fun data _ => stale.timeouting data }
  new data unallocated validate := by
    have validBefore : (s.data data).validate = true := by
      by_contra dataStale
      rw [stale.validate data (by simpa using dataStale)] at validate
      cases validate
    exact absurd (steady.pending_allocated validBefore) (Nat.not_le_of_lt unallocated)

theorem Steady.still (steady : Steady s none) (touches : Touches s s' none)
    (stack : s'.callStack = s.callStack)
    (frames : ∀ co ∈ s.callStack.tail, s'.frames co = s.frames co) : Steady s' none := by
  refine steady.touch touches (fun _ exempted => by cases exempted)
    (fun _ exempted => by cases exempted) (fun _ isTarget => by cases isTarget)
    (fun _ _ isTarget => by cases isTarget) (fun _ _ isTarget => by cases isTarget) ?_
  rw [stack]
  exact steady.linked.mono touches.keeps frames

theorem WaitingAgrees.still (agrees : WaitingAgrees s) (touches : Touches s s' none)
    (waiting : s'.waitingForRecycleCoros = s.waitingForRecycleCoros) : WaitingAgrees s' := by
  intro coroId other
  have same := touches.undisturbed other (by simp)
  rw [waiting, same.field Coro.coroId fun _ => rfl, same.life]
  exact agrees coroId other

/-- A change that no coroutine notices, made by the running one. -/
theorem Core.quiet (core : Core s) (touches : Touches s s' none)
    (stack : s'.callStack = s.callStack)
    (frames : ∀ co ∈ s.callStack.tail, s'.frames co = s.frames co)
    (waiting : s'.waitingForRecycleCoros = s.waitingForRecycleCoros)
    (current : Current s' (s'.frames s.coSelf)) : Core s' where
  toSteady := core.still touches stack frames
  waiting := core.waiting.still touches waiting
  noneDoomed other := by
    rw [(touches.undisturbed other (by simp)).life]
    exact core.noneDoomed other
  current := by
    have sameSelf : s'.coSelf = s.coSelf := by simp [State.coSelf, stack]
    rw [sameSelf]
    exact current

/-- User code writes to a field that only user code reads, or a call refuses. -/
theorem Core.idle (core : Core s) (userRuns : s.UserRuns)
    (object : ∀ coro, (s'.coro coro).bare = (s.coro coro).bare) (inner : s'.inner = s.inner)
    (stack : s'.callStack = s.callStack) (frames : s'.frames = s.frames)
    (coroCount : s'.coroCount = s.coroCount) (data : s'.data = s.data)
    (maxTimerId : s'.maxTimerId = s.maxTimerId) (heap : s'.heap = s.heap)
    (events : s'.events = s.events)
    (waiting : s'.waitingForRecycleCoros = s.waitingForRecycleCoros) : Core s' := by
  have touches : Touches s s' none :=
    core.touches_still object (fun _ => by rw [inner]) stack (fun _ _ => by rw [frames])
      coroCount maxTimerId (by rw [data]; exact .refl _)
      (fun _ _ inHeap => by rw [heap]; exact inHeap) (fun _ => by rw [events])
  refine core.quiet touches stack (fun _ _ => by rw [frames]) waiting ?_
  rw [frames, userRuns]
  exact .user

/-- A call that refuses only returns. -/
theorem Core.returns (core : Core s) (userRuns : s.UserRuns) (ret : Int) : Core (s.returns ret) :=
  core.idle userRuns (fun _ => rfl) rfl rfl rfl rfl rfl rfl rfl rfl rfl

/-- A setter of a field that only user code reads. -/
theorem Core.setCoro (core : Core s) (userRuns : s.UserRuns) {object : Coro}
    (bare : object.bare = (s.coro coro).bare) : Core (s.setCoro coro object) := by
  refine core.idle userRuns (fun other => ?_) rfl rfl rfl rfl rfl rfl rfl rfl rfl
  by_cases same : other = coro
  · subst same
    simpa [State.setCoro] using bare
  · simp [State.setCoro, same]

variable {records : DataPtr → TimerData} {heap : List DataPtr} {events : List Event} {ret : Int}
  {frames : List Frame}

theorem Steady.touches_stale (steady : Steady s none) (named : s.registry.Named)
    (stale : StaleOnly s.data records)
    (kept : ∀ data, (s.data data).validate = true → data ∈ s.heap → data ∈ heap)
    (lives : ∀ coro, life coro events = life coro s.events) :
    Touches s (s.worked s.coro records heap events ret frames) none :=
  steady.touches_still (fun _ => rfl) (fun _ => rfl) rfl
    (fun _ offStack => worked_offStack named offStack) rfl rfl stale kept lives

/-- The running coroutine goes on with other frames and has changed at most records
that are not pending. -/
theorem Core.worked (core : Core s) (named : s.registry.Named) (stale : StaleOnly s.data records)
    (kept : ∀ data, (s.data data).validate = true → data ∈ s.heap → data ∈ heap)
    (lives : ∀ coro, life coro events = life coro s.events)
    (current : Current (s.worked s.coro records heap events ret frames) frames) :
    Core (s.worked s.coro records heap events ret frames) :=
  core.quiet (core.touches_stale named stale kept lives) rfl
    (fun _ member => worked_below named member) rfl (by rw [worked_frames]; exact current)

end Still

/-! ## `Yield` -/

/-- The records once `Schedule` has dropped the timer's reference to the old one. -/
def State.dropped (s : State) (coro : CoroPtr) : DataPtr → TimerData :=
  match (s.coro coro).timerData with
  | none => s.data
  | some old => Function.update s.data old
      { s.data old with refCount := (s.data old).refCount - 1 }

theorem Core.dropped (core : Core s) (running : (s.coro coro).yielded = false) :
    StaleOnly s.data (s.dropped coro) := by
  unfold State.dropped
  cases current : (s.coro coro).timerData with
  | none => exact .refl _
  | some old =>
      have stale := core.not_pending current running
      exact .update _ stale rfl stale fun idle => idle

/-- The object of a coroutine inside its `times`-th `Yield`. -/
def Coro.suspended (object : Coro) (times : Nat) (data : DataPtr) : Coro :=
  { object with
    yieldTimes := times, timerData := some data, yielded := true, timeouted := false,
    cancelled := false, passData := .nil }

/-- The state after `Yield` has given up control. -/
def State.asleep (s : State) (coro : CoroPtr) (dueTime now : Int) (times : Nat)
    (stack : List Co) : State :=
  { s with
    coro := Function.update s.coro coro ((s.coro coro).suspended times (s.maxTimerId + 1))
    data := Function.update (s.dropped coro) (s.maxTimerId + 1)
      (newRecord coro dueTime now times)
    maxTimerId := s.maxTimerId + 1
    heap := (s.maxTimerId + 1) :: s.heap
    events := .suspended coro times :: s.events
    ret := llbcOk
    frames := Function.update s.frames s.coSelf [.yieldRet coro times]
    callStack := stack }

theorem timerSchedule_worked {dueTime now : Int} {ret : Int} (yieldTimes : Nat)
    (granted : ret = llbcOk) :
    (s.worked (Function.update s.coro coro { s.coro coro with yieldTimes := yieldTimes })
      s.data s.heap s.events ret
      [.timerSchedule coro dueTime, .yieldSuspend coro]).timerSchedule
      s.coSelf [.yieldSuspend coro] coro dueTime now =
    { s with maxTimerId := s.maxTimerId + 1 }.worked
      (Function.update s.coro coro
        { s.coro coro with yieldTimes := yieldTimes, timerData := some (s.maxTimerId + 1) })
      (Function.update (s.dropped coro) (s.maxTimerId + 1)
        (newRecord coro dueTime now yieldTimes))
      ((s.maxTimerId + 1) :: s.heap) s.events llbcOk [.yieldSuspend coro] := by
  have sameSelf : { s with maxTimerId := s.maxTimerId + 1 }.coSelf = s.coSelf := rfl
  cases current : (s.coro coro).timerData with
  | none =>
      simp [State.timerSchedule, State.worked, State.dropped, State.setData, State.setCoro,
        State.returns, State.goto, newRecord, sameSelf, current, granted]
  | some old =>
      simp [State.timerSchedule, State.worked, State.dropped, State.release, State.setData,
        State.setCoro, State.returns, State.goto, newRecord, sameSelf, current, granted]

theorem settled_yield (core : Core s) {below : Co} {rest : List Co} {ret : Int}
    (stack : s.callStack = .co coro :: below :: rest) (running : Running s coro times)
    (dueTime : Int)
    (asleep : ∀ now, Core (s.asleep coro dueTime now (times + 1) (below :: rest))) :
    Settled (s.worked (Function.update s.coro coro
      { s.coro coro with yieldTimes := (s.coro coro).yieldTimes + 1 }) s.data s.heap s.events ret
      [.timerCancel coro, .timerSchedule coro dueTime, .yieldSuspend coro]) := by
  refine settled_timerCancel_idle (fun data current => ?_) ?_
  · exact core.not_pending (by simpa using current) running.yielded
  · refine settled_work worked_frames rfl (fun choice next _ taken => ?_)
      (fun choice fault _ failed => ?_)
    · cases taken
      rw [worked_coSelf, timerSchedule_worked _ rfl, running.counters.1]
      refine settled_worked rfl (fun _ _ => ?_) (asleep choice.now).settled
      simp [State.runFrame, State.yieldSuspend, State.worked, State.setCoro, State.record,
        State.goto, State.coYield, State.asleep, State.coSelf, Coro.suspended, stack]
    · cases failed

section Asleep

variable {below : Co} {rest : List Co} {dueTime now : Int}

/-- Every record but the new one is as `dropped` left it. -/
theorem asleep_data {data : DataPtr} {stack : List Co} (old : data ≤ s.maxTimerId) :
    (s.asleep coro dueTime now times stack).data data = s.dropped coro data := by
  have different : data ≠ s.maxTimerId + 1 := Nat.ne_of_lt (Nat.lt_succ_of_le old)
  simp [State.asleep, different]

theorem asleep_validate {data : DataPtr} {stack : List Co} (core : Core s)
    (running : (s.coro coro).yielded = false)
    (validate : ((s.asleep coro dueTime now times stack).data data).validate = true) :
    data = s.maxTimerId + 1 ∨
      (s.data data).validate = true ∧
        (s.asleep coro dueTime now times stack).data data = s.data data := by
  by_cases isNew : data = s.maxTimerId + 1
  · exact .inl isNew
  · have stale := core.dropped running
    have same : (s.asleep coro dueTime now times stack).data data = s.dropped coro data := by
      simp [State.asleep, isNew]
    rw [same] at validate ⊢
    have validBefore : (s.data data).validate = true := by
      by_contra dataStale
      rw [stale.validate data (by simpa using dataStale)] at validate
      cases validate
    exact .inr ⟨validBefore, stale.pending data validBefore⟩

theorem touches_asleep (core : Core s) (stack : s.callStack = .co coro :: below :: rest)
    (running : (s.coro coro).yielded = false) :
    Touches s (s.asleep coro dueTime now times (below :: rest)) (some coro) := by
  have stale := core.dropped running
  have self : s.coSelf = .co coro := by simp [State.coSelf, stack]
  refine
    { undisturbed := fun other isOther => ?_
      timers := fun data old => by rw [asleep_data old, stale.timer]
      keeps :=
        { allocated := Nat.le_succ _
          validate := fun data old dataStale => by
            rw [asleep_data old, stale.validate data dataStale]
          timeouting := fun data old dataStale idle => by
            rw [asleep_data old, stale.timeouting data dataStale idle] }
      new := fun data unallocated validate => ?_ }
  · have different : other ≠ coro := fun same => isOther (same ▸ rfl)
    exact
      { object := by simp [State.asleep, different]
        inner := rfl
        stack := by simp [State.asleep, stack, different]
        frames := fun _ => by simp [State.asleep, self, different]
        allocated := Nat.le_refl _
        records := fun data _ validate => by
          rw [asleep_data (core.pending_allocated validate), stale.pending data validate]
        heap := fun _ _ _ inHeap => List.mem_cons_of_mem _ inHeap
        life := core.life_cons rfl different }
  · rcases asleep_validate core running validate with isNew | ⟨validBefore, _⟩
    · subst isNew
      simp [State.asleep, newRecord]
    · exact absurd (core.pending_allocated validBefore) (Nat.not_le_of_lt unallocated)

theorem suspended_asleep (running : Running s coro times) (self : s.coSelf = .co coro)
    (offStack : .co coro ∉ below :: rest) :
    Suspended (s.asleep coro dueTime now (times + 1) (below :: rest)) coro (times + 1) where
  created := ⟨running.created.1, by simp [State.asleep, Coro.suspended, running.created.2]⟩
  unfinished := running.unfinished
  kept := by simp [State.asleep, Coro.suspended, running.kept]
  yielded := by simp [State.asleep, Coro.suspended]
  unflagged := by simp [State.asleep, Coro.suspended]
  counters := by simp [State.asleep, Coro.suspended, running.counters]
  offStack := offStack
  positive := by omega
  frames := by simp [State.asleep, self]
  armed := ⟨s.maxTimerId + 1,
    { current := by simp [State.asleep, Coro.suspended]
      timer := by simp [State.asleep, newRecord]
      validate := by simp [State.asleep, newRecord]
      timeouting := by simp [State.asleep, newRecord]
      armedFor := by simp [State.asleep, newRecord]
      inHeap := List.mem_cons_self }⟩

/-- The invariant after a `Yield`. -/
theorem core_asleep (core : Core s) (named : s.registry.Named)
    (stack : s.callStack = .co coro :: below :: rest)
    (lives : life coro s.events = some (.running times)) (running : Running s coro times) :
    Core (s.asleep coro dueTime now (times + 1) (below :: rest)) := by
  have nodup : (.co coro :: below :: rest).Nodup := stack ▸ named.nodup
  have offStack : .co coro ∉ below :: rest := (List.nodup_cons.mp nodup).1
  have self : s.coSelf = .co coro := by simp [State.coSelf, stack]
  have ownLife : life coro (s.asleep coro dueTime now (times + 1) (below :: rest)).events =
      some (.suspended (times + 1)) := by
    simp only [State.asleep]
    rw [life_cons_own rfl, lives]
    simp [Phase.onOwn]
  have touches : Touches s (s.asleep coro dueTime now (times + 1) (below :: rest)) (some coro) :=
    touches_asleep core stack running.yielded
  refine core.leave stack touches rfl (fun co member => ?_)
    ⟨.suspended (times + 1), ownLife, suspended_asleep running self offStack, by simp⟩
    (fun data validate timer => ?_) (fun data current => ?_) (fun coroId other => ?_)
  · have different : co ≠ .co coro := fun same => offStack (same ▸ member)
    simp [State.asleep, self, different]
  · refine ⟨?_, times + 1, ownLife⟩
    rcases asleep_validate core running.yielded validate with rfl | ⟨validBefore, same⟩
    · simp [State.asleep, Coro.suspended]
    · -- A pending record of a running coroutine would contradict its history.
      obtain ⟨_, _, _, livesToo⟩ := core.pending data validBefore
      rw [← same, timer, lives] at livesToo
      cases livesToo
  · have isNew : s.maxTimerId + 1 = data := by
      simpa [State.asleep, Coro.suspended] using current
    subst isNew
    exact ⟨by simp [State.asleep, newRecord], Nat.le_refl _⟩
  · have before := core.waiting coroId other
    by_cases same : other = coro
    · subst same
      rw [ownLife]
      rw [lives] at before
      simpa [State.asleep] using before
    · have isOther : some coro ≠ some other := fun equal => same (Option.some.inj equal).symm
      rw [(touches.undisturbed other isOther).life]
      simpa [State.asleep, same] using before

end Asleep

/-! ## The return of an entry function -/

/-- The state after the entry function of the running coroutine has returned. -/
def State.ended (s : State) (coro : CoroPtr) (stack : List Co) : State :=
  { s with
    waitingForRecycleCoros := s.waitingForRecycleCoros.emplace (s.coro coro).coroId coro
    coros := s.coros.erase (s.coro coro).coroId
    events := .finished coro :: s.events
    inner := Function.update s.inner (.co coro) { s.inner (.co coro) with cEnd := true }
    callStack := stack }

theorem entryReturn_cases (named : s.registry.Named) {s' : State}
    (taken : s.entryReturn = .ok s') :
    ∃ coro below rest, s.callStack = .co coro :: below :: rest ∧
      s.waitingForRecycleCoros.find (s.coro coro).coroId = none ∧
      s' = s.ended coro (below :: rest) := by
  simp only [State.entryReturn] at taken
  split at taken
  · cases taken
  next coro onTop =>
    obtain ⟨rest, stack⟩ := named.callStack_cons
    rw [onTop] at stack
    obtain ⟨isCo, runs⟩ := named.onStack coro
      (by simp [State.registry, stack])
    have notWaiting : s.waitingForRecycleCoros.find (s.coro coro).coroId = none :=
      named.apart _ coro (named.registered coro isCo runs)
    obtain ⟨top, below, rest', stack', rfl⟩ := State.coYield_cases taken
    have stack' : s.callStack = top :: below :: rest' :=
      (State.maskWillRecycle_callStack s coro).symm.trans stack'
    rw [stack] at stack'
    cases stack'
    refine ⟨coro, below, rest', stack, notWaiting, ?_⟩
    simp [State.maskWillRecycle, State.record, State.setInner, State.ended, notWaiting]

theorem core_ended (core : Core s) (named : s.registry.Named) {below : Co} {rest : List Co}
    (stack : s.callStack = .co coro :: below :: rest)
    (notWaiting : s.waitingForRecycleCoros.find (s.coro coro).coroId = none) :
    Core (s.ended coro (below :: rest)) := by
  have nodup : (.co coro :: below :: rest).Nodup := stack ▸ named.nodup
  have offStack : .co coro ∉ below :: rest := (List.nodup_cons.mp nodup).1
  have onStack : .co coro ∈ s.callStack := by simp [stack]
  obtain ⟨times, lives, running⟩ := core.running_of_onStack onStack
  have ownLife : life coro (s.ended coro (below :: rest)).events = some .finished := by
    simp only [State.ended]
    rw [life_cons_own rfl, lives]
    rfl
  have touches : Touches s (s.ended coro (below :: rest)) (some coro) := by
    refine
      { undisturbed := fun other isOther => ?_
        timers := fun _ _ => rfl
        keeps := ⟨Nat.le_refl _, fun _ _ stale => stale, fun _ _ _ idle => idle⟩
        new := fun data unallocated validate =>
          absurd (core.pending_allocated validate) (Nat.not_le_of_lt unallocated) }
    have different : other ≠ coro := fun same => isOther (same ▸ rfl)
    exact
      { object := rfl
        inner := by simp [State.ended, different]
        stack := by simp [State.ended, stack, different]
        frames := fun _ => rfl
        allocated := Nat.le_refl _
        records := fun _ _ _ => rfl
        heap := fun _ _ _ inHeap => inHeap
        life := core.life_cons rfl different }
  have ended : Ended (s.ended coro (below :: rest)) coro false :=
    { created := running.created
      finished := by simp [Finished, State.ended]
      kept := running.kept
      yielded := running.yielded
      counters := by simp [State.ended, running.counters]
      offStack := offStack }
  refine core.leave stack touches rfl (fun _ _ => rfl) ⟨.finished, ownLife, ended, by simp⟩
    (fun data validate timer => ?_) (fun data current => core.owner coro data current)
    (fun coroId other => ?_)
  · obtain ⟨_, _, _, livesToo⟩ := core.pending data validate
    have timer : (s.data data).timer = coro := timer
    rw [timer, lives] at livesToo
    cases livesToo
  · have before := core.waiting coroId other
    simp only [State.ended, OrdMap.find_emplace, notWaiting, Option.getD_none]
    by_cases same : other = coro
    · subst same
      have after : life other (Event.finished other :: s.events) = some .finished := ownLife
      rw [lives] at before
      by_cases isKey : coroId = (s.coro other).coroId
      · simp [isKey, after]
      · simpa [isKey, Ne.symm isKey] using before
    · have isOther : some coro ≠ some other := fun equal => same (Option.some.inj equal).symm
      have after : life other (Event.finished coro :: s.events) = life other s.events :=
        (touches.undisturbed other isOther).life
      rw [after]
      by_cases isKey : coroId = (s.coro coro).coroId
      · -- The entry now holds the coroutine that has just finished.
        rw [isKey] at before ⊢
        rw [notWaiting] at before
        simpa [Ne.symm same] using before
      · simpa [isKey] using before

/-! ## New objects -/

/-- The next address is unused. -/
theorem Steady.next_absent (steady : Steady s none) :
    life s.coroCount s.events = some .absent ∧ Unmade s s.coroCount := by
  have notCreated : ¬ Created s s.coroCount := fun created =>
    absurd created.1 (Nat.lt_irrefl _)
  obtain ⟨phase, lives, stands⟩ := steady.stands s.coroCount (by simp)
  cases phase with
  | absent => exact ⟨lives, stands⟩
  | fresh => exact absurd (Fresh.toDormant stands).created notCreated
  | running times => exact absurd (Running.created stands) notCreated
  | suspended times => exact absurd (Suspended.toDormant stands).created notCreated
  | finished => exact absurd (Ended.created stands) notCreated
  | doomed => exact absurd (Ended.created stands) notCreated
  | deleted => exact absurd (Ended.created stands) notCreated
  | firing | waking | deleting => exact stands.elim

/-- A change by which the object at the next address comes into being, while the
running coroutine stays in user code. -/
theorem Core.make {s' : State} (core : Core s) (userRuns : s.UserRuns) {phase : Phase}
    (touches : Touches s s' (some s.coroCount)) (sameData : s'.data = s.data)
    (sameStack : s'.callStack = s.callStack) (sameFrames : s'.frames = s.frames)
    (sameWaiting : s'.waitingForRecycleCoros = s.waitingForRecycleCoros)
    (sameIds : ∀ other, other ≠ s.coroCount → (s'.coro other).coroId = (s.coro other).coroId)
    (unarmed : (s'.coro s.coroCount).timerData = none)
    (lives : life s.coroCount s'.events = some phase) (stands : Stands s' s.coroCount phase)
    (kind : phase = .absent ∨ phase = .fresh) : Core s' := by
  obtain ⟨absent, _⟩ := core.next_absent
  have unfinished : life s.coroCount s'.events ≠ some .finished := by
    rcases kind with rfl | rfl <;> simp [lives]
  have undoomed : life s.coroCount s'.events ≠ some .doomed := by
    rcases kind with rfl | rfl <;> simp [lives]
  have otherLife : ∀ other, other ≠ s.coroCount → life other s'.events = life other s.events :=
    fun other different =>
      (touches.undisturbed other fun equal => different (Option.some.inj equal).symm).life
  refine
    { toSteady := ?_
      waiting := fun coroId other => ?_
      noneDoomed := fun other => ?_
      current := ?_ }
  · refine core.touch touches (fun _ exempted => by cases exempted)
      (fun _ exempted => by cases exempted) ?_ ?_ ?_ ?_
    · rintro _ ⟨⟩ _
      exact ⟨phase, lives, stands⟩
    · intro data validate isTarget
      rw [sameData] at validate isTarget
      obtain ⟨_, _, _, livesToo⟩ := core.pending data validate
      rw [← Option.some.inj isTarget, absent] at livesToo
      cases livesToo
    · rintro _ data ⟨⟩ current
      rw [unarmed] at current
      cases current
    · rw [sameStack]
      exact core.linked.mono touches.keeps fun co _ => by rw [sameFrames]
  · have before := core.waiting coroId other
    rw [sameWaiting]
    by_cases same : other = s.coroCount
    · subst same
      rw [absent] at before
      simpa [unfinished] using before
    · rw [sameIds other same, otherLife other same]
      exact before
  · by_cases same : other = s.coroCount
    · rw [same]
      exact undoomed
    · rw [otherLife other same]
      exact core.noneDoomed other
  · have noFrames : s'.frames s'.coSelf = [] := by
      rw [sameFrames, State.coSelf, sameStack]
      exact userRuns
    rw [noFrames]
    exact .user

theorem createCoro_coro (entry args : Nat) :
    (s.createCoro entry args).coro = Function.update s.coro s.coroCount
      { noCoro with
        coroId := nextCoroId s.maxCoroId, innerCoro := .co s.coroCount, entry := entry,
        args := args, yielded := true } := rfl

theorem createCoro_inner (entry args : Nat) :
    (s.createCoro entry args).inner = Function.update s.inner (.co s.coroCount)
      { aSpec0 := nextCoroId s.maxCoroId } := rfl

/-- What a new object leaves alone. -/
theorem touches_made {s' : State} (core : Core s) {object : Coro}
    (coro : s'.coro = Function.update s.coro s.coroCount object)
    (inner : ∀ other, other ≠ s.coroCount → s'.inner (.co other) = s.inner (.co other))
    (stack : s'.callStack = s.callStack) (frames : s'.frames = s.frames)
    (allocated : s.coroCount ≤ s'.coroCount) (data : s'.data = s.data)
    (maxTimerId : s'.maxTimerId = s.maxTimerId) (heap : s'.heap = s.heap)
    (lives : ∀ other, other ≠ s.coroCount → life other s'.events = life other s.events) :
    Touches s s' (some s.coroCount) where
  undisturbed other isOther := by
    have different : other ≠ s.coroCount := fun same => isOther (same ▸ rfl)
    exact
      { object := by rw [coro, Function.update_of_ne different]
        inner := inner other different
        stack := by rw [stack]
        frames := fun _ => by rw [frames]
        allocated := allocated
        records := fun _ _ _ => by rw [data]
        heap := fun _ _ _ inHeap => by rw [heap]; exact inHeap
        life := lives other different }
  timers _ _ := by rw [data]
  keeps :=
    { allocated := Nat.le_of_eq maxTimerId.symm
      validate := fun _ _ stale => by rw [data]; exact stale
      timeouting := fun _ _ _ idle => by rw [data]; exact idle }
  new record unallocated validate := by
    rw [data] at validate
    exact absurd (core.pending_allocated validate) (Nat.not_le_of_lt unallocated)

theorem core_createCoro (core : Core s) (userRuns : s.UserRuns) (entry args : Nat) :
    Core (s.createCoro entry args) := by
  obtain ⟨absent, unmade⟩ := core.next_absent
  have touches : Touches s (s.createCoro entry args) (some s.coroCount) :=
    touches_made core (createCoro_coro entry args)
      (fun other different => by simp [createCoro_inner, different]) rfl rfl (Nat.le_succ _) rfl
      rfl rfl fun other different => core.life_cons rfl different
  have lives : life s.coroCount (s.createCoro entry args).events = some .fresh := by
    have created : life s.coroCount (.created s.coroCount :: s.events) = some .fresh := by
      rw [life_cons_own rfl, absent]
      rfl
    exact created
  have fresh : Fresh (s.createCoro entry args) s.coroCount :=
    { created := ⟨Nat.lt_succ_self _, by simp [createCoro_coro]⟩
      unfinished := by simp [Finished, createCoro_inner]
      kept := by simp [createCoro_coro, noCoro]
      yielded := by simp [createCoro_coro]
      unflagged := by simp [createCoro_coro, noCoro]
      counters := by simp [createCoro_coro, noCoro]
      offStack := unmade.offStack
      unarmed := by simp [createCoro_coro, noCoro]
      frames := unmade.frames }
  refine core.make userRuns touches rfl rfl rfl rfl (fun other different => ?_) fresh.unarmed
    lives fresh (.inr rfl)
  simp [createCoro_coro, different]

theorem core_start (core : Core s) (userRuns : s.UserRuns) {s' : State}
    (taken : s.start = .ok s') : Core s' := by
  obtain ⟨absent, unmade⟩ := core.next_absent
  simp only [State.start] at taken
  split at taken
  · cases taken
  · split at taken
    · cases taken
      exact core.idle userRuns (fun _ => rfl) rfl rfl rfl rfl rfl rfl rfl rfl rfl
    · cases taken
      refine core.make userRuns (touches_made core rfl (fun other _ => ?_) rfl rfl (Nat.le_succ _)
        rfl rfl rfl fun _ _ => rfl) rfl rfl rfl rfl (fun other different => ?_) ?_ absent ?_
        (.inl rfl)
      · simp [State.genCoroId, State.newCoro, State.setCoro, State.setInner, State.returns]
      · simp [State.genCoroId, State.newCoro, State.setCoro, State.setInner, State.returns,
          different]
      · simp [State.genCoroId, State.newCoro, State.setCoro, State.setInner, State.returns, noCoro]
      · constructor
        case offStack => exact unmade.offStack
        case frames => exact unmade.frames
        all_goals
          simp [State.genCoroId, State.newCoro, State.setCoro, State.setInner, State.returns,
            noCoro]

end LibcoRpc.CoroMgr
