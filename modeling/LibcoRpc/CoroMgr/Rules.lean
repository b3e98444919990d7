import LibcoRpc.CoroMgr.Discipline

/-!
# Rules for framework code

`State.worked` is a state in which the running coroutine has done some framework work
since a resting state. Each rule takes one interrupted call of such a state to the next,
for one of the cases the code distinguishes.
-/

namespace LibcoRpc.CoroMgr

/-- A state in which the running coroutine has done some framework work: written
objects and records, recorded events, and got to `frames`. -/
def State.worked (s : State) (coro : CoroPtr → Coro) (data : DataPtr → TimerData)
    (heap : List DataPtr) (events : List Event) (ret : Int) (frames : List Frame) : State :=
  { s with
    coro := coro, data := data, heap := heap, events := events, ret := ret
    frames := Function.update s.frames s.coSelf frames }

/-- The object after `Resume` has accepted it. -/
def Coro.resumed (object : Coro) (passData : Variant) : Coro :=
  { object with
    resumeTimes := object.resumeTimes + 1, yielded := false, passData := passData }

section Worked

variable {s : State} {objects : CoroPtr → Coro} {records : DataPtr → TimerData}
  {heap : List DataPtr} {events : List Event} {ret : Int} {coro : CoroPtr}
  {frames : List Frame}

@[simp] theorem worked_coSelf :
    (s.worked objects records heap events ret frames).coSelf = s.coSelf := rfl

theorem worked_frames :
    (s.worked objects records heap events ret frames).frames s.coSelf = frames := by
  simp [State.worked]

theorem worked_below (named : s.registry.Named) {co : Co} (member : co ∈ s.callStack.tail) :
    (s.worked objects records heap events ret frames).frames co = s.frames co := by
  obtain ⟨rest, stack⟩ := named.callStack_cons
  have nodup : (s.coSelf :: rest).Nodup := stack ▸ named.nodup
  rw [stack] at member
  have different : co ≠ s.coSelf := fun same => (List.nodup_cons.mp nodup).1 (same ▸ member)
  simp [State.worked, different]

theorem worked_offStack (named : s.registry.Named) {co : Co} (offStack : co ∉ s.callStack) :
    (s.worked objects records heap events ret frames).frames co = s.frames co := by
  obtain ⟨rest, stack⟩ := named.callStack_cons
  have notTop : co ≠ s.coSelf := by
    intro same
    exact offStack (stack ▸ same ▸ List.mem_cons_self)
  simp [State.worked, notTop]

/-- Work on the timer of one coroutine: the pending records of the others are kept, and
records that are not pending stay so. -/
structure WritesOwn (s : State) (coro : CoroPtr) (records : DataPtr → TimerData)
    (heap : List DataPtr) : Prop where
  others : ∀ data, (s.data data).validate = true → (s.data data).timer ≠ coro →
    records data = s.data data
  timer : ∀ data, (records data).timer = (s.data data).timer
  validate : ∀ data, (s.data data).validate = false → (records data).validate = false
  timeouting : ∀ data, (s.data data).validate = false → (s.data data).timeouting = false →
    (records data).timeouting = false
  heap : ∀ data, (s.data data).timer ≠ coro → (s.data data).validate = true →
    data ∈ s.heap → data ∈ heap

/-- Work on one coroutine and its timer touches no other coroutine. -/
theorem Steady.touches_worked {object : Coro} (steady : Steady s none)
    (named : s.registry.Named) (writes : WritesOwn s coro records heap)
    (others : ∀ other, other ≠ coro → life other events = life other s.events) :
    Touches s (s.worked (Function.update s.coro coro object) records heap events ret frames)
      (some coro) where
  undisturbed other isOther := by
    have different : other ≠ coro := fun same => isOther (same ▸ rfl)
    exact
      { object := by simp [State.worked, different]
        inner := rfl
        stack := Iff.rfl
        frames := worked_offStack named
        allocated := Nat.le_refl _
        records := fun data timer validate =>
          writes.others data validate (by rw [timer]; exact different)
        heap := fun data timer validate inHeap =>
          writes.heap data (by rw [timer]; exact different) validate inHeap
        life := others other different }
  timers data _ := writes.timer data
  keeps := ⟨Nat.le_refl _, fun data _ => writes.validate data, fun data _ => writes.timeouting data⟩
  new data unallocated validate := by
    have validBefore : (s.data data).validate = true := by
      by_contra stale
      have staleAfter := writes.validate data (by simpa using stale)
      have validate : (records data).validate = true := validate
      rw [staleAfter] at validate
      cases validate
    exact absurd (steady.pending_allocated validBefore) (Nat.not_le_of_lt unallocated)

/-- Only records that are not pending have changed, and they stay so. -/
structure StaleOnly (before after : DataPtr → TimerData) : Prop where
  pending : ∀ data, (before data).validate = true → after data = before data
  timer : ∀ data, (after data).timer = (before data).timer
  validate : ∀ data, (before data).validate = false → (after data).validate = false
  timeouting : ∀ data, (before data).validate = false → (before data).timeouting = false →
    (after data).timeouting = false

theorem StaleOnly.refl (records : DataPtr → TimerData) : StaleOnly records records :=
  ⟨fun _ _ => rfl, fun _ => rfl, fun _ stale => stale, fun _ _ idle => idle⟩

theorem StaleOnly.update {records : DataPtr → TimerData} {data : DataPtr} (record : TimerData)
    (stale : (records data).validate = false) (timer : record.timer = (records data).timer)
    (validate : record.validate = false)
    (timeouting : (records data).timeouting = false → record.timeouting = false) :
    StaleOnly records (Function.update records data record) where
  pending other pending := by
    have different : other ≠ data := by
      rintro rfl
      rw [stale] at pending
      cases pending
    rw [Function.update_of_ne different]
  timer other := by
    by_cases same : other = data
    · rw [same, Function.update_self, timer]
    · rw [Function.update_of_ne same]
  validate other otherStale := by
    by_cases same : other = data
    · rw [same, Function.update_self, validate]
    · rw [Function.update_of_ne same, otherStale]
  timeouting other _ idle := by
    by_cases same : other = data
    · subst same
      rw [Function.update_self, timeouting idle]
    · rw [Function.update_of_ne same, idle]

theorem StaleOnly.writesOwn (stale : StaleOnly s.data records)
    (kept : ∀ data, (s.data data).validate = true → data ∈ s.heap → data ∈ heap) :
    WritesOwn s coro records heap where
  others data validate _ := stale.pending data validate
  timer := stale.timer
  validate := stale.validate
  timeouting := stale.timeouting
  heap data _ := kept data

end Worked

section Rules

variable {s : State} {objects : CoroPtr → Coro} {records : DataPtr → TimerData}
  {heap : List DataPtr} {events : List Event} {ret : Int} {coro : CoroPtr} {data : DataPtr}
  {rest : List Frame}

theorem settled_worked {frame : Frame} {next : State} (plain : frame.plain = true)
    (runs : ∀ choice,
      Governed (s.worked objects records heap events ret (frame :: rest)) (.work choice) →
      (s.worked objects records heap events ret (frame :: rest)).runFrame choice s.coSelf rest
        frame = .ok next)
    (onward : Settled next) :
    Settled (s.worked objects records heap events ret (frame :: rest)) :=
  settled_to worked_frames plain runs onward

/-- Explicit `Resume` of an object without flags. -/
theorem settled_resume {passData : Variant}
    (yielded : (objects coro).yielded = true)
    (unflagged : (objects coro).timeouted = false ∧ (objects coro).cancelled = false)
    (onward : Settled (s.worked (Function.update objects coro ((objects coro).resumed passData))
      records heap (.ended coro (objects coro).yieldTimes .explicit passData :: events) ret
      (.timerCancel coro :: .coResume coro :: rest))) :
    Settled (s.worked objects records heap events ret
      (.resume coro passData .explicit :: rest)) := by
  refine settled_worked rfl (fun choice _ => ?_) onward
  simp [State.runFrame, State.resume, State.goto, State.record, State.setCoro, State.worked,
    Coro.isTimeoutedOrCancelled, Coro.resumed, yielded, unflagged]

theorem worked_resume_flagged {passData : Variant} {cause : Cause} {choice : Choice}
    (yielded : (objects coro).yielded = true)
    (flagged : (objects coro).isTimeoutedOrCancelled = true) :
    (s.worked objects records heap events ret (.resume coro passData cause :: rest)).runFrame
      choice s.coSelf rest (.resume coro passData cause) =
    .ok (s.worked (Function.update objects coro ((objects coro).resumed passData))
      records heap (.ended coro (objects coro).yieldTimes cause passData :: events) ret
      (.coResume coro :: rest)) := by
  simp [State.runFrame, State.resume, State.goto, State.record, State.setCoro, State.worked,
    Coro.resumed, yielded, flagged]

/-- `Resume` from the cancel handler, which has set its flag. -/
theorem settled_resume_cancelled {passData : Variant}
    (yielded : (objects coro).yielded = true)
    (flagged : (objects coro).isTimeoutedOrCancelled = true)
    (onward : Settled (s.worked (Function.update objects coro ((objects coro).resumed passData))
      records heap (.ended coro (objects coro).yieldTimes .cancel passData :: events) ret
      (.coResume coro :: rest))) :
    Settled (s.worked objects records heap events ret (.resume coro passData .cancel :: rest)) :=
  settled_worked rfl (fun _ _ => worked_resume_flagged yielded flagged) onward

/-- `Resume` from the timeout handler, which has set its flag. -/
theorem settled_resume_timeouted {passData : Variant}
    (yielded : (objects coro).yielded = true) (timeouted : (objects coro).timeouted = true)
    (onward : Settled (s.worked (Function.update objects coro ((objects coro).resumed passData))
      records heap (.ended coro (objects coro).yieldTimes .expiry passData :: events) ret
      (.coResume coro :: rest))) :
    Settled (s.worked objects records heap events ret
      (.resume coro passData .expiry :: rest)) := by
  have flagged : (objects coro).isTimeoutedOrCancelled = true := by
    simp [Coro.isTimeoutedOrCancelled, timeouted]
  have onTheWay : OnTheWay
      (s.worked objects records heap events ret (.resume coro passData .expiry :: rest)) := by
    constructor
    · intro other pending others atRecycle
      cases worked_frames.symm.trans atRecycle
    · intro other data others atResume
      cases worked_frames.symm.trans atResume
      exact timeouted
  refine settled_step worked_frames rfl onTheWay (fun choice next _ taken => ?_)
    (fun choice fault _ failed => ?_)
  · cases (worked_resume_flagged yielded flagged).symm.trans taken
    exact onward
  · cases (worked_resume_flagged yielded flagged).symm.trans failed

/-- `LLBC_Timer::Cancel` of a timer that is not pending. -/
theorem settled_timerCancel_idle
    (idle : ∀ data, (objects coro).timerData = some data → (records data).validate = false)
    (onward : Settled (s.worked objects records heap events llbcOk rest)) :
    Settled (s.worked objects records heap events ret (.timerCancel coro :: rest)) := by
  refine settled_worked rfl (fun choice _ => ?_) onward
  cases current : (objects coro).timerData with
  | none => simp [State.runFrame, State.timerCancel, State.goto, State.returns, State.worked,
      current]
  | some data => simp [State.runFrame, State.timerCancel, State.goto, State.returns,
      State.worked, current, idle data current]

/-- `LLBC_Timer::Cancel` of a pending timer calls the cancel handler. -/
theorem settled_timerCancel (current : (objects coro).timerData = some data)
    (validate : (records data).validate = true)
    (onward : Settled (s.worked objects
      (Function.update records data { records data with validate := false, cancelling := true })
      heap events ret (.onCoroCancel coro :: .schedCancelRet coro data :: rest))) :
    Settled (s.worked objects records heap events ret (.timerCancel coro :: rest)) := by
  refine settled_worked rfl (fun choice _ => ?_) onward
  simp [State.runFrame, State.timerCancel, State.goto, State.setData, State.worked,
    current, validate]

/-- The cancel handler does nothing for a coroutine that is not suspended. -/
theorem settled_onCoroCancel_idle
    (idle : (objects coro).yielded = false ∨
      ∃ data, (objects coro).timerData = some data ∧ (records data).timeouting = true)
    (onward : Settled (s.worked objects records heap events ret rest)) :
    Settled (s.worked objects records heap events ret (.onCoroCancel coro :: rest)) := by
  refine settled_worked rfl (fun choice _ => ?_) onward
  rcases idle with running | ⟨data, current, timeouting⟩
  · simp [State.runFrame, State.onCoroCancel, State.goto, State.worked, running]
  · simp [State.runFrame, State.onCoroCancel, State.goto, State.worked,
      State.isTimeouting, current, timeouting]

/-- The cancel handler resumes a suspended coroutine. -/
theorem settled_onCoroCancel (yielded : (objects coro).yielded = true)
    (current : (objects coro).timerData = some data)
    (timeouting : (records data).timeouting = false)
    (onward : Settled (s.worked
      (Function.update objects coro { objects coro with cancelled := true }) records heap events
      ret (.resume coro .nil .cancel :: rest))) :
    Settled (s.worked objects records heap events ret (.onCoroCancel coro :: rest)) := by
  refine settled_worked rfl (fun choice _ => ?_) onward
  simp [State.runFrame, State.onCoroCancel, State.goto, State.setCoro, State.worked,
    State.isTimeouting, yielded, current, timeouting]

/-- The rest of `LLBC_TimerScheduler::Cancel` for a record below the long-timeout
threshold. -/
theorem settled_schedCancelRet
    (onward : Settled (s.worked objects
      (Function.update records data { records data with cancelling := false }) heap events
      llbcOk rest)) :
    Settled (s.worked objects records heap events ret (.schedCancelRet coro data :: rest)) := by
  have runs : ∀ choice,
      Governed (s.worked objects records heap events ret (.schedCancelRet coro data :: rest))
        (.work choice) →
      (s.worked objects records heap events ret (.schedCancelRet coro data :: rest)).runFrame
        choice s.coSelf rest (.schedCancelRet coro data) =
      if (records data).refCount = 0 then .error .danglingTimerData
      else .ok (s.worked objects
        (Function.update records data { records data with cancelling := false }) heap events
        llbcOk rest) := by
    intro choice governed
    have short := governed.belowLongTimeout data
      (by simp only [State.compared, worked_coSelf, worked_frames])
    have notLong : ¬ (records data).handle - choice.now ≥ longTimeoutTime := not_le_of_gt short
    simp [State.runFrame, State.schedCancelRet, State.worked, State.setData, State.returns,
      State.goto, notLong]
  refine settled_work worked_frames rfl (fun choice next governed taken => ?_)
    (fun choice fault governed failed => ?_)
  · have taken := (runs choice governed).symm.trans taken
    split at taken
    · cases taken
    · cases taken
      exact onward
  · have failed := (runs choice governed).symm.trans failed
    split at failed
    · cases failed
      exact .inr (.inl rfl)
    · cases failed

/-- The timeout handler of an object that still exists. -/
theorem settled_onCoroTimeout (allocated : coro < s.coroCount)
    (kept : (objects coro).deleted = false)
    (onward : Settled (s.worked
      (Function.update objects coro { objects coro with timeouted := true }) records heap events
      ret (.timerCancel coro :: .resume coro .nil .expiry :: rest))) :
    Settled (s.worked objects records heap events ret (.onCoroTimeout coro :: rest)) := by
  refine settled_worked rfl (fun choice _ => ?_) onward
  simp [State.runFrame, State.onCoroTimeout, State.goto, State.setCoro, State.worked,
    State.live, allocated, kept]

/-- `Coro::Cancel` of a coroutine that is suspended or not started. -/
theorem settled_cancel (yielded : (objects coro).yielded = true)
    (onward : Settled (s.worked objects records heap events ret
      (.timerCancel coro :: .cancelRet :: rest))) :
    Settled (s.worked objects records heap events ret (.cancel coro :: rest)) := by
  refine settled_worked rfl (fun choice _ => ?_) onward
  simp [State.runFrame, State.cancel, State.goto, State.worked, yielded]

/-- `Coro::Cancel` refuses a running coroutine. -/
theorem settled_cancel_refused (running : (objects coro).yielded = false)
    (onward : Settled (s.worked objects records heap events llbcFailed rest)) :
    Settled (s.worked objects records heap events ret (.cancel coro :: rest)) := by
  refine settled_worked rfl (fun choice _ => ?_) onward
  simp [State.runFrame, State.cancel, State.goto, State.returns, State.worked, running]

/-- An explicit `Coro::Resume` refuses a running coroutine. -/
theorem settled_resume_refused {passData : Variant}
    (running : (objects coro).yielded = false)
    (onward : Settled (s.worked objects records heap events llbcFailed rest)) :
    Settled (s.worked objects records heap events ret
      (.resume coro passData .explicit :: rest)) := by
  refine settled_worked rfl (fun choice _ => ?_) onward
  simp [State.runFrame, State.resume, State.goto, State.returns, State.worked, running]

theorem settled_cancelRet
    (onward : Settled (s.worked objects records heap events 0 rest)) :
    Settled (s.worked objects records heap events ret (.cancelRet :: rest)) := by
  refine settled_worked rfl (fun choice _ => ?_) onward
  simp [State.runFrame, State.goto, State.returns, State.worked]

end Rules

end LibcoRpc.CoroMgr
