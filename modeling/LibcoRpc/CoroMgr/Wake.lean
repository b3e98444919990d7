import LibcoRpc.CoroMgr.Rules

/-!
# Waking a coroutine

`Resume`, `Cancel` and the expiry of a timer all end in `co_resume`, from three
different call chains through the timer's handlers. `Ready` is the state in which each
of them arrives there; `Ready.settled` takes it from there to the user code of the
coroutine that was woken.
-/

namespace LibcoRpc.CoroMgr

open LibcoRpc.Std

/-- Framework code is about to `co_resume` a coroutine whose `times`-th suspension has
ended; the zeroth is the time before its first start. -/
structure Ready (s : State) (coro : CoroPtr) (times : Nat) (tail : List Frame) : Prop where
  steady : Steady s (some coro)
  waiting : WaitingAgrees s
  noneDoomed : ∀ coro, life coro s.events ≠ some .doomed
  frames : s.frames s.coSelf = .coResume coro :: tail
  tail : Tail s coro tail
  created : Created s coro
  unfinished : ¬ Finished s coro
  kept : (s.coro coro).deleted = false
  yielded : (s.coro coro).yielded = false
  counters : (s.coro coro).yieldTimes = times ∧ (s.coro coro).resumeTimes = times + 1
  offStack : .co coro ∉ s.callStack
  entry :
    (s.frames (.co coro) = [] ∧ life coro s.events = some (.running times)) ∨
    (s.frames (.co coro) = [.yieldRet coro times] ∧ ∃ cause passData,
      life coro s.events = some (.waking times cause passData) ∧
      (⟨if (s.coro coro).isTimeoutedOrCancelled then llbcFailed else llbcOk,
        (s.coro coro).timeouted, (s.coro coro).cancelled, (s.coro coro).passData⟩ : Outcome) =
        cause.outcome passData)

namespace Ready

variable {s : State} {coro : CoroPtr} {times : Nat} {tail : List Frame}

/-- The state after `co_resume`. -/
def entered (s : State) (coro : CoroPtr) (tail : List Frame) : State :=
  { s.setInner (.co coro) { s.inner (.co coro) with cStart := true } with
    callStack := .co coro :: s.callStack
    frames := Function.update s.frames s.coSelf (.resumeRet coro :: tail) }

theorem coResume_eq (ready : Ready s coro times tail) :
    s.coResume s.coSelf tail coro =
      if callStackCapacity ≤ s.callStack.length then .error .callStackOverflow
      else .ok (entered s coro tail) := by
  have unfinished : (s.inner (.co coro)).cEnd = false := Bool.eq_false_iff.mpr ready.unfinished
  simp only [State.coResume, ready.created.2, ready.kept, ready.offStack, unfinished, entered,
    Bool.false_eq_true, if_false]

/-- The state when the user code of the coroutine runs again. -/
def woken (s : State) (coro : CoroPtr) (tail : List Frame) (events : List Event) (ret : Int) :
    State :=
  { entered s coro tail with
    frames := Function.update (entered s coro tail).frames (.co coro) []
    events := events
    ret := ret }

theorem linked_woken (ready : Ready s coro times tail) (named : s.registry.Named)
    (events : List Event) (ret : Int) :
    Linked (woken s coro tail events ret) (woken s coro tail events ret).callStack := by
  obtain ⟨rest, stack⟩ := named.callStack_cons
  have nodup : (s.coSelf :: rest).Nodup := stack ▸ named.nodup
  have offStack : .co coro ∉ s.coSelf :: rest := stack ▸ ready.offStack
  have notSelf : s.coSelf ≠ .co coro := fun same => offStack (same ▸ List.mem_cons_self)
  have keeps : KeepsStale s (woken s coro tail events ret) :=
    ⟨Nat.le_refl _, fun _ _ stale => stale, fun _ _ _ idle => idle⟩
  have below : Linked (woken s coro tail events ret) s.callStack := by
    refine ready.steady.linked.mono keeps fun co member => ?_
    rw [stack] at member
    have different : co ≠ s.coSelf := fun same =>
      (List.nodup_cons.mp nodup).1 (same ▸ member)
    have notCoro : co ≠ .co coro := fun same =>
      offStack (same ▸ List.mem_cons_of_mem _ member)
    simp [woken, entered, different, notCoro]
  have stackEq : (woken s coro tail events ret).callStack = .co coro :: s.coSelf :: rest := by
    simp [woken, entered, stack]
  rw [stackEq]
  rw [stack] at below
  exact ⟨⟨coro, tail, rfl, by simp [woken, entered, notSelf], ready.tail.mono keeps⟩, below⟩

theorem touches_woken (ready : Ready s coro times tail) (named : s.registry.Named)
    {events : List Event} (ret : Int)
    (others : ∀ other, other ≠ coro → life other events = life other s.events) :
    Touches s (woken s coro tail events ret) (some coro) where
  undisturbed other isOther := by
    have different : other ≠ coro := fun same => isOther (same ▸ rfl)
    obtain ⟨rest, stack⟩ := named.callStack_cons
    refine
      { object := rfl
        inner := by simp [woken, entered, State.setInner, different]
        stack := by simp [woken, entered, different]
        frames := fun offStack => ?_
        allocated := Nat.le_refl _
        records := fun _ _ _ => rfl
        heap := fun _ _ _ inHeap => inHeap
        life := others other different }
    have notTop : (.co other : Co) ≠ s.coSelf := by
      intro same
      exact offStack (stack ▸ same ▸ List.mem_cons_self)
    simp [woken, entered, notTop, different]
  timers _ _ := rfl
  keeps := ⟨Nat.le_refl _, fun _ _ stale => stale, fun _ _ _ idle => idle⟩
  new data unallocated validate :=
    absurd (ready.steady.pending_allocated validate) (Nat.not_le_of_lt unallocated)

/-- Once its user code runs again, the coroutine stands as running and the invariant
holds. -/
theorem core_woken (ready : Ready s coro times tail) (named : s.registry.Named)
    (events : List Event) (ret : Int)
    (others : ∀ other, other ≠ coro → life other events = life other s.events)
    (own : life coro events = some (.running times)) :
    Core (woken s coro tail events ret) where
  toSteady := by
    refine ready.steady.touch (ready.touches_woken named ret others)
      (fun _ exempted => exempted) (fun _ exempted => by cases exempted) ?_ ?_ ?_
      (ready.linked_woken named events ret)
    · rintro _ ⟨⟩ _
      have running : Running (woken s coro tail events ret) coro times :=
        { created := ready.created
          unfinished := by simpa [Finished, woken, entered, State.setInner] using ready.unfinished
          kept := ready.kept
          yielded := ready.yielded
          counters := ready.counters
          onStack := List.mem_cons_self }
      exact ⟨.running times, own, running⟩
    · intro data validate isTarget
      exact absurd isTarget (ready.steady.pending data validate).1
    · intro _ data _ current
      exact ready.steady.owner _ data current
  waiting coroId other := by
    by_cases same : other = coro
    · subst same
      have notFinished : life other s.events ≠ some .finished := by
        rcases ready.entry with ⟨_, lives⟩ | ⟨_, _, _, lives, _⟩ <;> simp [lives]
      have before := ready.waiting coroId other
      simp only [notFinished, and_false] at before
      simpa [own, woken, entered, State.setInner] using before
    · have before := ready.waiting coroId other
      rw [← others other same] at before
      exact before
  noneDoomed other := by
    by_cases same : other = coro
    · subst same
      simp [woken, own]
    · have before := ready.noneDoomed other
      rw [← others other same] at before
      exact before
  current := by
    have onTop : (woken s coro tail events ret).coSelf = .co coro := rfl
    rw [onTop]
    simp only [woken, Function.update_self]
    exact .user

/-- A coroutine that starts runs at once; one that was suspended returns from `Yield`. -/
theorem settled_entered (ready : Ready s coro times tail) (named : s.registry.Named) :
    Settled (entered s coro tail) := by
  obtain ⟨rest, stack⟩ := named.callStack_cons
  have notSelf : (.co coro : Co) ≠ s.coSelf := fun same =>
    ready.offStack (stack ▸ same ▸ List.mem_cons_self)
  have frames : (entered s coro tail).frames (.co coro) = s.frames (.co coro) := by
    simp [entered, notSelf]
  rcases ready.entry with ⟨noFrames, lives⟩ | ⟨inYield, cause, passData, lives, outcome⟩
  · have started : entered s coro tail = woken s coro tail s.events s.ret := by
      have same : Function.update (entered s coro tail).frames (.co coro) [] =
          (entered s coro tail).frames :=
        Function.update_eq_self_iff.mpr (by rw [frames, noFrames])
      simp only [woken, same]
      rfl
    rw [started]
    exact (ready.core_woken named s.events s.ret (fun _ _ => rfl) lives).settled
  · let result := if (s.coro coro).isTimeoutedOrCancelled then llbcFailed else llbcOk
    let returned := Event.yieldReturned coro times result (s.coro coro).timeouted
      (s.coro coro).cancelled (s.coro coro).passData
    refine settled_to (frames.trans inYield) rfl (fun choice _ => ?_)
      (ready.core_woken named (returned :: s.events) result ?_ ?_).settled
    · have yielded : ((entered s coro tail).coro coro).yielded = false := ready.yielded
      simp only [State.runFrame, State.yieldRet, yielded, Bool.false_eq_true, if_false]
      rfl
    · intro other different
      have notExempt : some coro ≠ some other := fun same => different (Option.some.inj same).symm
      exact life_cons_other (by simpa [returned, Event.subject] using different.symm)
        (by simp [returned]) (ready.steady.not_deleting notExempt)
    · rw [life_cons_own (by rfl), lives]
      exact if_pos ⟨rfl, outcome⟩

/-- From `co_resume` to user code. -/
theorem settled (ready : Ready s coro times tail) : Settled s := by
  refine settled_work ready.frames rfl ?_ ?_
  · intro choice next governed taken
    simp only [State.runFrame, ready.coResume_eq] at taken
    split at taken
    · cases taken
    · cases taken
      exact ready.settled_entered governed.named
  · intro choice fault _ failed
    simp only [State.runFrame, ready.coResume_eq] at failed
    split at failed
    · cases failed
      exact .inl rfl
    · cases failed

end Ready

/-! ## From a resting state to `co_resume` -/

/-- The object of a dormant coroutine once `Resume` has accepted it for a cause. -/
def Coro.woken (object : Coro) (cause : Cause) (passData : Variant) : Coro :=
  { object with
    resumeTimes := object.resumeTimes + 1, yielded := false, passData := passData
    timeouted := cause == .expiry, cancelled := cause == .cancel }

theorem Coro.woken_outcome (object : Coro) {cause : Cause} {passData : Variant}
    (noData : cause = .explicit ∨ passData = .nil) :
    (⟨if (object.woken cause passData).isTimeoutedOrCancelled then llbcFailed else llbcOk,
      (object.woken cause passData).timeouted, (object.woken cause passData).cancelled,
      (object.woken cause passData).passData⟩ : Outcome) = cause.outcome passData := by
  cases cause
  · rfl
  · rcases noData with impossible | rfl
    · cases impossible
    · rfl
  · rcases noData with impossible | rfl
    · cases impossible
    · rfl

section Prologue

variable {s : State} {coro : CoroPtr} {times : Nat} {records : DataPtr → TimerData}
  {heap : List DataPtr} {events : List Event} {ret : Int} {tail : List Frame} {cause : Cause}
  {passData : Variant}

/-- Records may have been cancelled, and those of the coroutine are. -/
structure Disarms (s : State) (coro : CoroPtr) (records : DataPtr → TimerData)
    (heap : List DataPtr) : Prop where
  others : ∀ data, (s.data data).validate = false ∨ (s.data data).timer ≠ coro →
    records data = s.data data
  own : ∀ data, (s.data data).timer = coro →
    (records data).validate = false ∧ (records data).timer = coro
  heap : ∀ data, (s.data data).timer ≠ coro → data ∈ s.heap → data ∈ heap

namespace Disarms

theorem timer (disarms : Disarms s coro records heap) (data : DataPtr) :
    (records data).timer = (s.data data).timer := by
  by_cases own : (s.data data).timer = coro
  · rw [own]
    exact (disarms.own data own).2
  · rw [disarms.others data (.inr own)]

theorem validate (disarms : Disarms s coro records heap) {data : DataPtr}
    (validate : (records data).validate = true) :
    (s.data data).timer ≠ coro ∧ records data = s.data data := by
  have other : (s.data data).timer ≠ coro := by
    intro own
    rw [(disarms.own data own).1] at validate
    cases validate
  exact ⟨other, disarms.others data (.inr other)⟩

theorem writesOwn (disarms : Disarms s coro records heap) :
    WritesOwn s coro records heap where
  others data _ other := disarms.others data (.inr other)
  timer := disarms.timer
  validate data stale := by rw [disarms.others data (.inl stale), stale]
  timeouting data stale idle := by rw [disarms.others data (.inl stale), idle]
  heap data other _ := disarms.heap data other

end Disarms

/-- The work done for a dormant coroutine up to `co_resume` makes it ready. -/
theorem ready_worked (core : Core s) (named : s.registry.Named) (dormant : Dormant s coro times)
    (disarms : Disarms s coro records heap)
    (others : ∀ other, other ≠ coro → life other events = life other s.events)
    (noData : cause = .explicit ∨ passData = .nil)
    (unfinished : life coro s.events ≠ some .finished)
    (holds : Tail (s.worked (Function.update s.coro coro ((s.coro coro).woken cause passData))
      records heap events ret (.coResume coro :: tail)) coro tail)
    (entry : (s.frames (.co coro) = [] ∧ life coro events = some (.running times)) ∨
      (s.frames (.co coro) = [.yieldRet coro times] ∧
        life coro events = some (.waking times cause passData))) :
    Ready (s.worked (Function.update s.coro coro ((s.coro coro).woken cause passData))
      records heap events ret (.coResume coro :: tail)) coro times tail := by
  have touches : Touches s (s.worked (Function.update s.coro coro
      ((s.coro coro).woken cause passData)) records heap events ret (.coResume coro :: tail))
      (some coro) := core.touches_worked named disarms.writesOwn others
  have frames : (s.worked (Function.update s.coro coro ((s.coro coro).woken cause passData))
      records heap events ret (.coResume coro :: tail)).frames (.co coro) =
      s.frames (.co coro) := worked_offStack named dormant.offStack
  refine
    { steady := ?_
      waiting := ?_
      noneDoomed := ?_
      frames := worked_frames
      tail := holds
      created := ⟨dormant.created.1, by simp [State.worked, Coro.woken, dormant.created.2]⟩
      unfinished := dormant.unfinished
      kept := by simp [State.worked, Coro.woken, dormant.kept]
      yielded := by simp [State.worked, Coro.woken]
      counters := by simp [State.worked, Coro.woken, dormant.counters]
      offStack := dormant.offStack
      entry := ?_ }
  · refine core.touch touches (fun _ exempted => by cases exempted) (fun _ exempted => exempted)
      (fun _ isTarget notExempt => absurd isTarget notExempt) ?_ ?_
      (core.linked.mono touches.keeps fun _ member => worked_below named member)
    · intro data validate isTarget
      have other := (disarms.validate validate).1
      rw [← disarms.timer data] at other
      exact absurd (Option.some.inj isTarget).symm other
    · rintro _ data ⟨⟩ current
      have current : (s.coro coro).timerData = some data := by
        simpa [State.worked, Coro.woken] using current
      obtain ⟨timer, allocated⟩ := core.owner coro data current
      exact ⟨(disarms.timer data).trans timer, allocated⟩
  · intro coroId other
    by_cases same : other = coro
    · subst same
      have before := core.waiting coroId other
      have notFinished : life other events ≠ some .finished := by
        rcases entry with ⟨_, lives⟩ | ⟨_, lives⟩ <;> simp [lives]
      simp only [unfinished, and_false] at before
      simpa [State.worked, notFinished] using before
    · have before := core.waiting coroId other
      simpa [State.worked, same, others other same] using before
  · intro other
    by_cases same : other = coro
    · subst same
      rcases entry with ⟨_, lives⟩ | ⟨_, lives⟩ <;> simp [State.worked, lives]
    · simpa [State.worked, others other same] using core.noneDoomed other
  · rcases entry with ⟨noFrames, lives⟩ | ⟨inYield, lives⟩
    · exact .inl ⟨frames.trans noFrames, lives⟩
    · refine .inr ⟨frames.trans inYield, cause, passData, lives, ?_⟩
      simpa [State.worked] using Coro.woken_outcome (s.coro coro) noData

/-- Cancelling the record of a suspended coroutine leaves it without a pending one. -/
theorem disarms_update {data : DataPtr} {record : TimerData} (core : Core s)
    (armed : Armed s coro times data) (validate : record.validate = false)
    (timer : record.timer = coro)
    (kept : ∀ other, (s.data other).timer ≠ coro → other ∈ s.heap → other ∈ heap) :
    Disarms s coro (Function.update s.data data record) heap where
  others other unaffected := by
    have different : other ≠ data := by
      rintro rfl
      rcases unaffected with stale | notOwn
      · rw [armed.validate] at stale
        cases stale
      · exact notOwn armed.timer
    rw [Function.update_of_ne different]
  own other own := by
    by_cases same : other = data
    · subst same
      simp [validate, timer]
    · rw [Function.update_of_ne same]
      refine ⟨?_, own⟩
      -- A second pending record would be the current one too.
      by_contra pending
      obtain ⟨_, current, _⟩ := core.pending other (by simpa using pending)
      rw [own, armed.current] at current
      exact same (Option.some.inj current).symm
  heap := kept

/-- A coroutine without a record has no pending one. -/
theorem disarms_unarmed (core : Core s) (unarmed : (s.coro coro).timerData = none) :
    Disarms s coro s.data s.heap where
  others _ _ := rfl
  own data own := by
    refine ⟨?_, own⟩
    by_contra pending
    obtain ⟨_, current, _⟩ := core.pending data (by simpa using pending)
    rw [own, unarmed] at current
    cases current
  heap _ _ inHeap := inHeap

theorem Dormant.resumed_eq (dormant : Dormant s coro times) (passData : Variant) :
    (s.coro coro).resumed passData = (s.coro coro).woken .explicit passData := by
  have unflagged := dormant.unflagged
  cases object : s.coro coro
  simp_all [Coro.resumed, Coro.woken]

/-- Explicit `Resume`. -/
theorem settled_explicit (core : Core s) (named : s.registry.Named)
    (yielded : (s.coro coro).yielded = true) (passData : Variant) :
    Settled (s.worked s.coro s.data s.heap s.events s.ret [.resume coro passData .explicit]) := by
  rcases core.yielded_cases yielded with ⟨lives, fresh⟩ | ⟨times, lives, suspended⟩
  · refine settled_resume fresh.yielded fresh.unflagged ?_
    rw [fresh.resumed_eq]
    refine settled_timerCancel_idle (fun data current => ?_) ?_
    · simp [Coro.woken, fresh.unarmed] at current
    · refine (ready_worked core named fresh.toDormant (disarms_unarmed core fresh.unarmed)
        ?_ (.inl rfl) (by simp [lives]) .user (.inl ⟨fresh.frames, ?_⟩)).settled
      · exact fun other different => core.life_cons rfl different
      · rw [life_cons_own rfl, lives, fresh.counters.1]
        rfl
  · obtain ⟨data, armed⟩ := suspended.armed
    refine settled_resume suspended.yielded suspended.unflagged ?_
    rw [suspended.resumed_eq]
    refine settled_timerCancel (by simp [Coro.woken, armed.current]) armed.validate ?_
    refine settled_onCoroCancel_idle (.inl (by simp [Coro.woken])) ?_
    refine settled_schedCancelRet ?_
    rw [Function.update_idem]
    refine (ready_worked core named suspended.toDormant
      (disarms_update core armed (by simp) (by simpa using armed.timer) fun _ _ inHeap => inHeap)
      ?_ (.inl rfl) (by simp [lives]) .user (.inr ⟨suspended.frames, ?_⟩)).settled
    · exact fun other different => core.life_cons rfl different
    · rw [life_cons_own rfl, lives, suspended.counters.1]
      simp [Phase.onOwn]

theorem Dormant.cancelled_eq (dormant : Dormant s coro times) :
    ({ s.coro coro with cancelled := true } : Coro).resumed .nil =
      (s.coro coro).woken .cancel .nil := by
  have unflagged := dormant.unflagged
  cases object : s.coro coro
  simp_all [Coro.resumed, Coro.woken]

theorem Dormant.timeouted_eq (dormant : Dormant s coro times) :
    ({ s.coro coro with timeouted := true } : Coro).resumed .nil =
      (s.coro coro).woken .expiry .nil := by
  have unflagged := dormant.unflagged
  cases object : s.coro coro
  simp_all [Coro.resumed, Coro.woken]

/-- `Cancel` of a suspended coroutine, from user code or from `Stop`. -/
theorem settled_cancel_suspended (core : Core s) (named : s.registry.Named) {ret : Int}
    (lives : life coro s.events = some (.suspended times)) (suspended : Suspended s coro times)
    {rest : List Frame} (caller : rest = [] ∨ ∃ position, rest = [.stopLoop position]) :
    Settled (s.worked s.coro s.data s.heap s.events ret
      (.timerCancel coro :: .cancelRet :: rest)) := by
  obtain ⟨data, armed⟩ := suspended.armed
  refine settled_timerCancel armed.current armed.validate ?_
  refine settled_onCoroCancel suspended.yielded armed.current (by simp [armed.timeouting]) ?_
  refine settled_resume_cancelled (by simp [suspended.yielded])
    (by simp [Coro.isTimeoutedOrCancelled]) ?_
  rw [Function.update_self, Function.update_idem, suspended.cancelled_eq]
  refine (ready_worked core named suspended.toDormant
    (disarms_update core armed (by rfl) (by exact armed.timer) fun _ _ inHeap => inHeap)
    ?_ (.inr rfl) (by simp [lives]) ?_ (.inr ⟨suspended.frames, ?_⟩)).settled
  · exact fun other different => core.life_cons rfl different
  · have allocated := (core.owner coro data armed.current).2
    exact .cancel ⟨allocated, by simp [State.worked]⟩ (by simp [State.worked, armed.timeouting])
      caller
  · rw [life_cons_own rfl, lives, suspended.counters.1]
    simp [Phase.onOwn]

/-- The scheduler has taken a pending record from the heap. -/
theorem settled_fired (core : Core s) (named : s.registry.Named) {ret now : Int}
    {data : DataPtr} {rest : List Frame} (validate : (s.data data).validate = true)
    (caller : UpdateRest rest) :
    Settled (s.worked s.coro
      (Function.update s.data data
        { s.data data with timeouting := true, repeatTimes := (s.data data).repeatTimes + 1 })
      (s.heap.erase data)
      (.fired (s.data data).timer (s.data data).armedFor :: s.events) ret
      (.onCoroTimeout (s.data data).timer :: .schedUpdateRet now data :: .updateRecycle ::
        rest)) := by
  obtain ⟨_, current, times, lives⟩ := core.pending data validate
  obtain ⟨phase, livesToo, stands⟩ := core.stands (s.data data).timer (by simp)
  rw [lives] at livesToo
  cases livesToo
  have suspended : Suspended s (s.data data).timer times := stands
  obtain ⟨armedData, armed⟩ := suspended.armed
  have same : armedData = data := by
    have both := armed.current
    rw [current] at both
    exact (Option.some.inj both).symm
  subst same
  refine settled_onCoroTimeout suspended.created.1 suspended.kept ?_
  refine settled_timerCancel (by simpa using current) (by simpa using validate) ?_
  refine settled_onCoroCancel_idle (.inr ⟨armedData, by simpa using current, by simp⟩) ?_
  refine settled_schedCancelRet ?_
  refine settled_resume_timeouted (by simp [suspended.yielded]) (by simp) ?_
  simp only [Function.update_self, Function.update_idem]
  rw [suspended.timeouted_eq]
  refine (ready_worked core named suspended.toDormant
    (disarms_update core armed (by rfl) (by rfl) fun other notOwn inHeap => ?_)
    ?_ (.inr rfl) (by simp [lives]) ?_ (.inr ⟨suspended.frames, ?_⟩)).settled
  · have different : other ≠ armedData := by
      rintro rfl
      exact notOwn rfl
    exact (List.mem_erase_of_ne different).mpr inHeap
  · intro other different
    have fired : life other (.fired (s.data armedData).timer (s.data armedData).armedFor ::
        s.events) = life other s.events := core.life_cons rfl different
    have notDeleting : life other s.events ≠ some .deleting := core.not_deleting (by simp)
    rw [life_cons_other (by simpa [Event.subject] using different.symm) (by simp)
      (by rw [fired]; exact notDeleting), fired]
  · have allocated := (core.owner _ armedData current).2
    exact .update ⟨allocated, by simp [State.worked]⟩ caller
  · rw [life_cons_own rfl, life_cons_own rfl, lives, armed.armedFor, suspended.counters.1]
    simp [Phase.onOwn]

end Prologue

end LibcoRpc.CoroMgr
