import LibcoRpc.CoroMgr.Sleep

/-!
# The loops of the manager

What follows the return of `co_resume`, the loop of `LLBC_TimerScheduler::Update`, the
recycle phase of `Update` and the loop of `Stop`. Each of them settles: it comes back to
user code, or to a loop's head, with the invariant.
-/

namespace LibcoRpc.CoroMgr

open LibcoRpc.Std

variable {s : State}

/-! ## After `co_resume` -/

section Rules

variable {objects : CoroPtr → Coro} {records : DataPtr → TimerData} {heap : List DataPtr}
  {events : List Event} {ret : Int} {coro : CoroPtr} {data : DataPtr} {rest : List Frame}

/-- The rest of the scheduler's loop body for a record that is no longer pending. -/
theorem settled_schedUpdateRet {now : Int} (stale : (records data).validate = false)
    (onward : Settled (s.worked objects
      (Function.update records data
        { records data with timeouting := false, refCount := (records data).refCount - 1 })
      heap events ret (.schedLoop now :: rest))) :
    Settled (s.worked objects records heap events ret (.schedUpdateRet now data :: rest)) := by
  refine settled_worked rfl (fun choice _ => ?_) onward
  simp [State.runFrame, State.schedUpdateRet, State.release, State.setData, State.goto,
    State.worked, stale]

end Rules

/-- What follows the return of `co_resume`. -/
theorem settled_resumed (core : Core s) (named : s.registry.Named) {coro : CoroPtr}
    {tail : List Frame} (holds : Tail s coro tail) :
    Settled (s.worked s.coro s.data s.heap s.events llbcOk tail) := by
  cases holds with
  | user =>
      exact (core.worked named (.refl _) (fun _ _ inHeap => inHeap) (fun _ => rfl) .user).settled
  | @cancel data rest stale idle caller =>
      refine settled_schedCancelRet (settled_cancelRet ?_)
      have unchanged := StaleOnly.update { s.data data with cancelling := false }
        stale.2 rfl stale.2 fun idle => idle
      refine (core.worked named unchanged (fun _ _ inHeap => inHeap) (fun _ => rfl) ?_).settled
      rcases caller with rfl | ⟨position, rfl⟩
      · exact .user
      · exact .stop
  | @update now data rest stale caller =>
      refine settled_schedUpdateRet stale.2 ?_
      have unchanged := StaleOnly.update
        { s.data data with timeouting := false, refCount := (s.data data).refCount - 1 }
        stale.2 rfl stale.2 fun _ => rfl
      exact (core.worked named unchanged (fun _ _ inHeap => inHeap) (fun _ => rfl)
        (.loop caller)).settled

/-! ## The timer loop -/

/-- `LLBC_TimerScheduler::Update` up to its loop. -/
theorem settled_schedUpdate (core : Core s) (named : s.registry.Named) {ret : Int}
    {rest : List Frame} (caller : UpdateRest rest) :
    Settled (s.worked s.coro s.data s.heap s.events ret
      (.schedUpdate :: .updateRecycle :: rest)) := by
  have onward : ∀ frames,
      Current (s.worked s.coro s.data s.heap s.events ret frames) frames →
      Settled (s.worked s.coro s.data s.heap s.events ret frames) := fun frames current =>
    (core.worked named (.refl _) (fun _ _ inHeap => inHeap) (fun _ => rfl) current).settled
  refine settled_work worked_frames rfl (fun choice next _ taken => ?_)
    (fun choice fault _ failed => by cases failed)
  cases taken
  by_cases empty : s.heap = []
  · have skipped : (s.worked s.coro s.data s.heap s.events ret
        (.schedUpdate :: .updateRecycle :: rest)).schedUpdate s.coSelf
        (.updateRecycle :: rest) choice.now =
        s.worked s.coro s.data s.heap s.events ret (.updateRecycle :: rest) := by
      simp [State.schedUpdate, State.goto, State.worked, empty]
    rw [worked_coSelf, skipped]
    exact onward _ (.recycle caller)
  · have entered : (s.worked s.coro s.data s.heap s.events ret
        (.schedUpdate :: .updateRecycle :: rest)).schedUpdate s.coSelf
        (.updateRecycle :: rest) choice.now =
        s.worked s.coro s.data s.heap s.events ret
          (.schedLoop choice.now :: .updateRecycle :: rest) := by
      simp [State.schedUpdate, State.goto, State.worked, empty]
    rw [worked_coSelf, entered]
    exact onward _ (.loop caller)

/-- One turn of the timer loop. -/
theorem settled_schedLoop (core : Core s) (named : s.registry.Named) {now : Int}
    {rest : List Frame} (caller : UpdateRest rest) {top : DataPtr} {next : State}
    (taken : s.schedLoop s.coSelf (.updateRecycle :: rest) now top = .ok next) :
    Settled next := by
  have leaves : Settled (s.worked s.coro s.data s.heap s.events s.ret (.updateRecycle :: rest)) :=
    (core.worked named (.refl _) (fun _ _ inHeap => inHeap) (fun _ => rfl)
      (.recycle caller)).settled
  simp only [State.schedLoop] at taken
  split at taken
  · cases taken
    exact leaves
  · split at taken
    · cases taken
    · split at taken
      · cases taken
        exact leaves
      · split at taken
        next stale =>
          cases taken
          have stale : (s.data top).validate = false := by simpa using stale
          have unchanged := StaleOnly.update
            { s.data top with refCount := (s.data top).refCount - 1 }
            stale rfl stale fun idle => idle
          refine (core.worked named unchanged (fun data validate inHeap => ?_) (fun _ => rfl)
            (.loop caller)).settled
          have different : data ≠ top := by
            rintro rfl
            rw [stale] at validate
            cases validate
          exact (List.mem_erase_of_ne different).mpr inHeap
        next validate =>
          cases taken
          exact settled_fired core named (by simpa using validate) caller

/-! ## Recycling -/

/-- `RecycleContainer` is at the head of its loop: the coroutines still to delete are
exactly the doomed ones. -/
structure Recycling (s : State) (pending : List CoroPtr) (rest : List Frame) : Prop where
  steady : Steady s none
  frames : s.frames s.coSelf = .recycle pending :: rest
  caller : UpdateRest rest
  nodup : pending.Nodup
  doomed : ∀ coro, coro ∈ pending ↔ life coro s.events = some .doomed
  noneFinished : ∀ coro, life coro s.events ≠ some .finished

/-- The end of `Update`, and of `Stop` if it called it. -/
theorem settled_updateRest (steady : Steady s none) (waiting : WaitingAgrees s)
    (noneDoomed : ∀ coro, life coro s.events ≠ some .doomed) {rest : List Frame}
    (caller : UpdateRest rest) (frames : s.frames s.coSelf = rest) : Settled s := by
  rcases caller with rfl | rfl
  · exact Core.settled ⟨steady, waiting, noneDoomed, by rw [frames]; exact .user⟩
  · refine settled_named frames rfl (onTheWay_of_plain frames rfl) fun named => ?_
    refine settled_to frames rfl (fun _ _ => rfl) ?_
    let reset := { s with maxCoroId := 0 }.goto s.coSelf []
    have sameFrames : reset.frames =
        (s.worked s.coro s.data s.heap s.events s.ret []).frames := rfl
    have touches : Touches s reset none :=
      steady.touches_still (fun _ => rfl) (fun _ => rfl) rfl
        (fun _ offStack => by rw [sameFrames]; exact worked_offStack named offStack) rfl rfl
        (.refl _) (fun _ _ inHeap => inHeap) fun _ => rfl
    have noFrames : reset.frames reset.coSelf = [] := by
      rw [sameFrames]
      exact worked_frames
    exact Core.settled
      { toSteady := steady.still touches rfl
          fun _ member => by rw [sameFrames]; exact worked_below named member
        waiting := waiting.still touches rfl
        noneDoomed := noneDoomed
        current := by rw [noFrames]; exact .user }

section Destroy

variable {objects : CoroPtr → Coro} {records : DataPtr → TimerData} {heap : List DataPtr}
  {events : List Event} {ret : Int} {coro : CoroPtr} {data : DataPtr} {rest : List Frame}

/-- `delete` of an ended coroutine goes straight to `~LLBC_Timer`. -/
theorem settled_recycle_cons {pending : List CoroPtr}
    (frames : s.frames s.coSelf = .recycle (coro :: pending) :: rest)
    (running : (s.coro coro).yielded = false) (along : OnTheWay s)
    (onward : Settled (s.worked s.coro s.data s.heap (.deleting coro :: s.events) s.ret
      (.destroy coro :: .recycle pending :: rest))) : Settled s := by
  have runs : ∀ choice, s.runFrame choice s.coSelf rest (.recycle (coro :: pending)) =
      .ok (s.worked s.coro s.data s.heap (.deleting coro :: s.events) s.ret
        (.destroy coro :: .recycle pending :: rest)) := by
    intro choice
    simp [State.runFrame, State.recycle, State.record, State.goto, State.worked, State.coSelf,
      running]
  refine settled_step frames rfl along (fun choice next _ taken => ?_)
    (fun choice fault _ failed => ?_)
  · rw [runs choice] at taken
    cases taken
    exact onward
  · rw [runs choice] at failed
    cases failed

/-- `~LLBC_Timer` of a timer that was never scheduled. -/
theorem settled_destroy_unarmed (unarmed : (objects coro).timerData = none)
    (onward : Settled (s.worked
      (Function.update objects coro { objects coro with deleted := true }) records heap
      (.deleted coro :: events) ret rest)) :
    Settled (s.worked objects records heap events ret (.destroy coro :: rest)) := by
  refine settled_worked rfl (fun choice _ => ?_) onward
  simp [State.runFrame, State.destroy, State.destroyed, State.record, State.setCoro, State.goto,
    State.worked, unarmed]

/-- `~LLBC_Timer` of a timer that is not pending drops its reference. -/
theorem settled_destroy (current : (objects coro).timerData = some data)
    (stale : (records data).validate = false)
    (onward : Settled (s.worked
      (Function.update objects coro { objects coro with deleted := true })
      (Function.update records data
        { records data with refCount := (records data).refCount - 1 }) heap
      (.deleted coro :: events) llbcOk rest)) :
    Settled (s.worked objects records heap events ret (.destroy coro :: rest)) := by
  have cancelling : Settled (s.worked objects records heap events ret
      (.timerCancel coro :: .destroyTimer coro :: rest)) := by
    refine settled_timerCancel_idle (fun other currentToo => ?_) ?_
    · rw [current] at currentToo
      exact Option.some.inj currentToo ▸ stale
    · refine settled_worked rfl (fun choice _ => ?_) onward
      simp [State.runFrame, State.destroyTimer, State.destroyed, State.release, State.record,
        State.setData, State.setCoro, State.goto, State.worked, current]
  refine settled_worked rfl (fun choice _ => ?_) cancelling
  simp [State.runFrame, State.destroy, State.goto, State.worked, current]

end Destroy

namespace Recycling

variable {coro : CoroPtr} {pending : List CoroPtr} {rest : List Frame}

theorem head (recycling : Recycling s (coro :: pending) rest) :
    life coro s.events = some .doomed ∧ Ended s coro false := by
  have lives := (recycling.doomed coro).mp List.mem_cons_self
  obtain ⟨phase, livesToo, stands⟩ := recycling.steady.stands coro (by simp)
  rw [lives] at livesToo
  cases livesToo
  exact ⟨lives, stands⟩

theorem onTheWay (recycling : Recycling s (coro :: pending) rest) : OnTheWay s := by
  constructor
  · intro other others rest atRecycle
    rw [recycling.frames] at atRecycle
    cases atRecycle
    exact recycling.head.2
  · intro other passData rest atResume
    cases recycling.frames.symm.trans atResume

/-- The loop after one more object has been deleted. -/
theorem tail (recycling : Recycling s (coro :: pending) rest) (named : s.registry.Named)
    {records : DataPtr → TimerData} {ret : Int} (stale : StaleOnly s.data records) :
    Recycling (s.worked (Function.update s.coro coro { s.coro coro with deleted := true })
      records s.heap (.deleted coro :: .deleting coro :: s.events) ret
      (.recycle pending :: rest)) pending rest := by
  obtain ⟨lives, ended⟩ := recycling.head
  have ownLife : life coro (.deleted coro :: .deleting coro :: s.events) = some .deleted := by
    rw [life_cons_own rfl, life_cons_own rfl, lives]
    rfl
  have otherLife : ∀ other, other ≠ coro →
      life other (.deleted coro :: .deleting coro :: s.events) = life other s.events := by
    intro other different
    have deleting : life other (.deleting coro :: s.events) = life other s.events :=
      recycling.steady.life_cons rfl different
    have notDeleting : life other s.events ≠ some .deleting :=
      recycling.steady.not_deleting (by simp)
    rw [life_cons_other (by simpa [Event.subject] using different.symm) (by simp)
      (by rw [deleting]; exact notDeleting), deleting]
  have touches : Touches s (s.worked (Function.update s.coro coro
      { s.coro coro with deleted := true }) records s.heap
      (.deleted coro :: .deleting coro :: s.events) ret (.recycle pending :: rest))
      (some coro) :=
    recycling.steady.touches_worked named (stale.writesOwn fun _ _ inHeap => inHeap) otherLife
  refine
    { steady := ?_
      frames := worked_frames
      caller := recycling.caller
      nodup := (List.nodup_cons.mp recycling.nodup).2
      doomed := fun other => ?_
      noneFinished := fun other => ?_ }
  · refine recycling.steady.touch touches (fun _ exempted => by cases exempted)
      (fun _ exempted => by cases exempted) ?_ ?_ ?_
      (recycling.steady.linked.mono touches.keeps fun _ member => worked_below named member)
    · rintro _ ⟨⟩ _
      refine ⟨.deleted, ownLife, ?_⟩
      constructor
      case created =>
        exact ⟨ended.created.1, by simp [State.worked, ended.created.2]⟩
      case finished => exact ended.finished
      case kept => simp [State.worked]
      case yielded => simp [State.worked, ended.yielded]
      case counters => simp [State.worked, ended.counters]
      case offStack => exact ended.offStack
    · intro data validate isTarget
      have timer : coro = (records data).timer := Option.some.inj isTarget
      have validBefore : (s.data data).validate = true := by
        by_contra dataStale
        have staleAfter := stale.validate data (by simpa using dataStale)
        have validate : (records data).validate = true := validate
        rw [staleAfter] at validate
        cases validate
      obtain ⟨_, _, _, livesToo⟩ := recycling.steady.pending data validBefore
      rw [← stale.timer data, ← timer, lives] at livesToo
      cases livesToo
    · rintro _ data ⟨⟩ current
      have current : (s.coro coro).timerData = some data := by simpa [State.worked] using current
      obtain ⟨timer, allocated⟩ := recycling.steady.owner coro data current
      exact ⟨(stale.timer data).trans timer, allocated⟩
  · by_cases same : other = coro
    · subst same
      have notPending := (List.nodup_cons.mp recycling.nodup).1
      simp [State.worked, ownLife, notPending]
    · have before := recycling.doomed other
      simpa [State.worked, otherLife other same, same] using before
  · by_cases same : other = coro
    · subst same
      simp [State.worked, ownLife]
    · simpa [State.worked, otherLife other same] using recycling.noneFinished other

end Recycling

/-- `RecycleContainer` deletes every coroutine in the map and clears it. -/
theorem Recycling.settled {pending : List CoroPtr} {rest : List Frame}
    (recycling : Recycling s pending rest) : Settled s := by
  induction pending generalizing s with
  | nil =>
      refine settled_named recycling.frames rfl (onTheWay_of_plain recycling.frames rfl)
        fun named => ?_
      let cleared := { s with waitingForRecycleCoros := .empty }.goto s.coSelf rest
      have sameFrames : cleared.frames =
          (s.worked s.coro s.data s.heap s.events s.ret rest).frames := rfl
      have touches : Touches s cleared none :=
        recycling.steady.touches_still (fun _ => rfl) (fun _ => rfl) rfl
          (fun _ offStack => by rw [sameFrames]; exact worked_offStack named offStack) rfl rfl
          (.refl _) (fun _ _ inHeap => inHeap) fun _ => rfl
      have steady : Steady cleared none := recycling.steady.still touches rfl
        fun _ member => by rw [sameFrames]; exact worked_below named member
      have waiting : WaitingAgrees cleared := by
        intro coroId coro
        simp [cleared, State.goto, recycling.noneFinished coro]
      have noneDoomed : ∀ coro, life coro cleared.events ≠ some .doomed := by
        intro coro doomed
        cases (recycling.doomed coro).mpr doomed
      have atRest : cleared.frames cleared.coSelf = rest := by
        rw [sameFrames]
        exact worked_frames
      exact settled_to recycling.frames rfl (fun _ _ => rfl)
        (settled_updateRest steady waiting noneDoomed recycling.caller atRest)
  | cons coro pending ih =>
      obtain ⟨lives, ended⟩ := recycling.head
      refine settled_named recycling.frames rfl recycling.onTheWay fun named => ?_
      refine settled_recycle_cons recycling.frames ended.yielded recycling.onTheWay ?_
      cases current : (s.coro coro).timerData with
      | none => exact settled_destroy_unarmed current (ih (recycling.tail named (.refl _)))
      | some data =>
          have stale := recycling.steady.not_pending current ended.yielded
          exact settled_destroy current stale
            (ih (recycling.tail named (.update _ stale rfl stale fun idle => idle)))

/-- The start of a recycle phase dooms exactly the coroutines in the second map. -/
theorem Core.recycling (core : Core s) (named : s.registry.Named) {rest : List Frame}
    (caller : UpdateRest rest) :
    Recycling ((s.record .recycling).goto s.coSelf
      (.recycle s.waitingForRecycleCoros.values :: rest))
      s.waitingForRecycleCoros.values rest := by
  let started := (s.record .recycling).goto s.coSelf
    (.recycle s.waitingForRecycleCoros.values :: rest)
  have sameFrames : started.frames = (s.worked s.coro s.data s.heap s.events s.ret
      (.recycle s.waitingForRecycleCoros.values :: rest)).frames := rfl
  have unmoved : ∀ coro, Unmoved s started coro := fun coro =>
    { object := rfl
      inner := rfl
      stack := Iff.rfl
      frames := fun offStack => by rw [sameFrames]; exact worked_offStack named offStack
      allocated := Nat.le_refl _
      records := fun _ _ _ => rfl
      heap := fun _ _ _ inHeap => inHeap }
  have lives : ∀ coro phase, life coro s.events = some phase →
      life coro started.events = phase.onRecycling := by
    intro coro phase livesBefore
    refine life_recycling livesBefore ?_
    rintro rfl
    exact core.not_deleting (by simp) livesBefore
  have keeps : KeepsStale s started :=
    ⟨Nat.le_refl _, fun _ _ stale => stale, fun _ _ _ idle => idle⟩
  refine
    { steady :=
        { stands := fun coro notExempt => ?_
          pending := fun data validate => ?_
          owner := core.owner
          linked := core.linked.mono keeps
            fun _ member => by rw [sameFrames]; exact worked_below named member }
      frames := by rw [sameFrames]; exact worked_frames
      caller := caller
      nodup := OrdMap.values_nodup _ (fun coro => (s.coro coro).coroId)
        fun coroId coro found => ((core.waiting coroId coro).mp found).1
      doomed := fun coro => ?_
      noneFinished := fun coro => ?_ }
  · obtain ⟨phase, livesBefore, stands⟩ := core.stands coro notExempt
    have standsAfter := stands.unmoved (unmoved coro)
    rw [lives coro phase livesBefore]
    cases phase with
    | finished => exact ⟨.doomed, rfl, standsAfter⟩
    | doomed => exact absurd livesBefore (core.noneDoomed coro)
    | absent | fresh | running | suspended | deleted => exact ⟨_, rfl, standsAfter⟩
    | firing | waking | deleting => exact stands.elim
  · obtain ⟨notExempt, current, times, livesBefore⟩ := core.pending data validate
    exact ⟨notExempt, current, times, lives _ _ livesBefore⟩
  · rw [OrdMap.mem_values_iff]
    constructor
    · rintro ⟨coroId, found⟩
      exact lives coro _ ((core.waiting coroId coro).mp found).2
    · intro doomed
      obtain ⟨phase, livesBefore, stands⟩ := core.stands coro (by simp)
      rw [lives coro phase livesBefore] at doomed
      have finished : phase = .finished := by
        cases phase <;> simp [Phase.onRecycling] at doomed ⊢
      exact ⟨_, (core.waiting _ coro).mpr ⟨rfl, finished ▸ livesBefore⟩⟩
  · obtain ⟨phase, livesBefore, stands⟩ := core.stands coro (by simp)
    rw [lives coro phase livesBefore]
    cases phase <;> simp [Phase.onRecycling]

/-- `Update` after its timers. -/
theorem settled_updateRecycle (core : Core s) (named : s.registry.Named) {rest : List Frame}
    (caller : UpdateRest rest) : Settled (s.updateRecycle s.coSelf rest) := by
  simp only [State.updateRecycle]
  split
  · have touches : Touches s (s.worked s.coro s.data s.heap s.events s.ret rest) none :=
      core.touches_stale named (.refl _) (fun _ _ inHeap => inHeap) fun _ => rfl
    exact settled_updateRest
      (core.still touches rfl fun _ member => worked_below named member)
      (core.waiting.still touches rfl) core.noneDoomed caller worked_frames
  · exact (core.recycling named caller).settled

/-! ## `Stop` -/

/-- One turn of the loop of `Stop`. -/
theorem settled_stopLoop (core : Core s) (named : s.registry.Named)
    {position : Option (Int × CoroPtr)} {next : State}
    (taken : s.stopLoop s.coSelf [] position = .ok next) : Settled next := by
  have goOn : ∀ (ret : Int) (position : Option (Int × CoroPtr)),
      Settled (s.worked s.coro s.data s.heap s.events ret [.stopLoop position]) :=
    fun ret position => (core.worked named (.refl _) (fun _ _ inHeap => inHeap) (fun _ => rfl)
      .stop).settled
  cases position with
  | none =>
      cases taken
      exact settled_schedUpdate core named (.inr rfl)
  | some entry =>
      simp only [State.stopLoop] at taken
      split at taken
      · cases taken
      · split at taken
        next cancels =>
          cases taken
          have yielded : (s.coro entry.2).yielded = true := by
            simp only [Bool.and_eq_true] at cancels
            exact cancels.1
          refine settled_cancel yielded ?_
          rcases core.yielded_cases yielded with ⟨lives, fresh⟩ | ⟨times, lives, suspended⟩
          · refine settled_timerCancel_idle (fun data current => ?_)
              (settled_cancelRet (goOn _ _))
            rw [fresh.unarmed] at current
            cases current
          · exact settled_cancel_suspended core named lives suspended (.inr ⟨_, rfl⟩)
        next =>
          cases taken
          exact goOn _ _

end LibcoRpc.CoroMgr
