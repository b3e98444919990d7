import LibcoRpc.CoroMgr.Locality

/-!
# What a step changes

Most of the manager's code neither suspends nor resumes a coroutine and neither arms nor
fires a timer: such a step is `Calm`. `Change` lists the others, each with the code that
takes it, and `step_change` says that there are no more. No assumption is made about ids,
timeouts or what user code does.
-/

namespace LibcoRpc.CoroMgr

/-- What a calm step leaves of an object. -/
structure Coro.Keeps (old new : Coro) : Prop where
  yielded : new.yielded = old.yielded
  yieldTimes : new.yieldTimes = old.yieldTimes
  timeouted : old.timeouted = true → new.timeouted = true
  cancelled : old.cancelled = true → new.cancelled = true
  timerData : ∀ data, new.timerData = some data → old.timerData = some data

/-- What a calm step leaves of a timer record. -/
structure TimerData.Keeps (old new : TimerData) : Prop where
  timer : new.timer = old.timer
  armedFor : new.armedFor = old.armedFor
  handle : new.handle = old.handle
  validate : new.validate = true → old.validate = true
  timeouting : new.timeouting = true → old.timeouting = true
  dueTime : new.dueTime = old.dueTime

theorem Coro.Keeps.refl (object : Coro) : object.Keeps object := ⟨rfl, rfl, id, id, fun _ => id⟩

theorem TimerData.Keeps.refl (record : TimerData) : record.Keeps record :=
  ⟨rfl, rfl, rfl, id, id, rfl⟩

theorem Coro.Keeps.trans {first second third : Coro} (left : first.Keeps second)
    (right : second.Keeps third) : first.Keeps third where
  yielded := right.yielded.trans left.yielded
  yieldTimes := right.yieldTimes.trans left.yieldTimes
  timeouted set := right.timeouted (left.timeouted set)
  cancelled set := right.cancelled (left.cancelled set)
  timerData data current := left.timerData data (right.timerData data current)

theorem TimerData.Keeps.trans {first second third : TimerData} (left : first.Keeps second)
    (right : second.Keeps third) : first.Keeps third where
  timer := right.timer.trans left.timer
  armedFor := right.armedFor.trans left.armedFor
  handle := right.handle.trans left.handle
  validate valid := left.validate (right.validate valid)
  timeouting firing := left.timeouting (right.timeouting firing)
  dueTime := right.dueTime.trans left.dueTime

/-- A write to one object, in terms of all. -/
theorem keeps_update {objects : CoroPtr → Coro} {target : CoroPtr} {object : Coro}
    (keeps : (objects target).Keeps object) (coro : CoroPtr) :
    (objects coro).Keeps (Function.update objects target object coro) := by
  by_cases same : coro = target
  · subst same
    rwa [Function.update_self]
  · rw [Function.update_of_ne same]
    exact .refl _

/-- A write to one record, in terms of all. -/
theorem keepsRecord_update {records : DataPtr → TimerData} {target : DataPtr}
    {record : TimerData} (keeps : (records target).Keeps record) (data : DataPtr) :
    (records data).Keeps (Function.update records target record data) := by
  by_cases same : data = target
  · subst same
    rwa [Function.update_self]
  · rw [Function.update_of_ne same]
    exact .refl _

/-- Nothing is suspended, resumed, created, armed or fired. -/
structure Calm (s s' : State) : Prop where
  stack : s'.callStack = s.callStack
  count : s'.coroCount = s.coroCount
  objects : ∀ coro, (s.coro coro).Keeps (s'.coro coro)
  records : ∀ data, (s.data data).Keeps (s'.data data)
  timers : s'.maxTimerId = s.maxTimerId
  fired : ∀ coro times, .fired coro times ∈ s'.events → .fired coro times ∈ s.events

/-- Frames of a call that is about to switch, and of a `Resume` not yet entered. The one
that `OnCoroTimeout` makes comes after its `timer_.Cancel()` and may have to wait. -/
def Frame.hot : Frame → Bool
  | .resume _ _ .expiry => false
  | .resume _ _ _ => true
  | .coResume _ => true
  | .timerSchedule _ _ => true
  | .yieldSuspend _ => true
  | _ => false

/-- Frames that may wait while another coroutine runs. -/
def Cool (frames : List Frame) : Prop := ∀ frame ∈ frames, frame.hot = false

/-- Frames that code makes without switching and without calling a timeout handler. -/
def Frame.mild : Frame → Bool
  | .schedUpdateRet _ _ => false
  | frame => !frame.hot

/-- What a calm step may have left to do. -/
def Mild (frames : List Frame) : Prop := ∀ frame ∈ frames, frame.mild = true

/-- How the calls of the running coroutine go on in a calm step. -/
inductive Onward (s s' : State) : Prop where
  /-- User code makes a call that returns, or that resumes nothing itself. -/
  | asked (userRuns : s.UserRuns) (mild : Mild (s'.frames s.coSelf))
  /-- User code calls `Resume`. -/
  | asksResume {coro : CoroPtr} {passData : Variant} (userRuns : s.UserRuns)
      (objects : s'.coro = s.coro)
      (next : s'.frames s.coSelf = [.resume coro passData .explicit])
  | on {frame : Frame} {rest pushed : List Frame} (at_ : s.frames s.coSelf = frame :: rest)
      (next : s'.frames s.coSelf = pushed ++ rest) (mild : Mild pushed)
  /-- `OnCoroCancel` calls `Resume`. -/
  | cancels {coro : CoroPtr} {rest : List Frame}
      (at_ : s.frames s.coSelf = .onCoroCancel coro :: rest)
      (cancelled : (s'.coro coro).cancelled = true)
      (next : s'.frames s.coSelf = .resume coro .nil .cancel :: rest)

/-- The record `Schedule` makes for the next suspension. -/
def newRecord (coro : CoroPtr) (dueTime now : Int) (times : Nat) : TimerData :=
  { handle := now + dueTime, dueTime := dueTime, period := dueTime, repeatTimes := 0,
    timer := coro, validate := true, cancelling := false, timeouting := false,
    refCount := 2, armedFor := times }

/-- What a step does to coroutines, timers and the call stack. -/
inductive Change (s s' : State) : Prop where
  | calm (calm : Calm s s') (onward : Onward s s')
  /-- `Resume` accepts a coroutine. -/
  | resumed {coro : CoroPtr} {passData : Variant} {cause : Cause} {rest : List Frame}
      (at_ : s.frames s.coSelf = .resume coro passData cause :: rest)
      (yielded : (s.coro coro).yielded = true) (stack : s'.callStack = s.callStack)
      (count : s'.coroCount = s.coroCount)
      (objects : s'.coro = Function.update s.coro coro
        { s.coro coro with
          resumeTimes := (s.coro coro).resumeTimes + 1, yielded := false, passData := passData })
      (records : s'.data = s.data) (timers : s'.maxTimerId = s.maxTimerId)
      (events : s'.events = .ended coro (s.coro coro).yieldTimes cause passData :: s.events)
      (next : s'.frames s.coSelf =
        if (s.coro coro).isTimeoutedOrCancelled then .coResume coro :: rest
        else .timerCancel coro :: .coResume coro :: rest)
  /-- `co_resume`. -/
  | switched {coro : CoroPtr} {rest : List Frame}
      (at_ : s.frames s.coSelf = .coResume coro :: rest)
      (offStack : (s.coro coro).innerCoro ∉ s.callStack)
      (stack : s'.callStack = (s.coro coro).innerCoro :: s.callStack)
      (count : s'.coroCount = s.coroCount) (objects : s'.coro = s.coro)
      (records : s'.data = s.data) (timers : s'.maxTimerId = s.maxTimerId)
      (events : s'.events = s.events)
      (frames : s'.frames = Function.update s.frames s.coSelf (.resumeRet coro :: rest))
  /-- `Yield` is accepted. -/
  | yields {coro : CoroPtr} {timeout : Int} (userRuns : s.UserRuns)
      (found : s.getCurCoro = .ok (some coro)) (running : (s.coro coro).yielded = false)
      (notMain : (s.coro coro).isMainCoro = false) (stack : s'.callStack = s.callStack)
      (count : s'.coroCount = s.coroCount)
      (objects : s'.coro = Function.update s.coro coro
        { s.coro coro with yieldTimes := (s.coro coro).yieldTimes + 1 })
      (records : s'.data = s.data) (timers : s'.maxTimerId = s.maxTimerId)
      (events : s'.events = s.events)
      (next : s'.frames s.coSelf = [.timerCancel coro,
        .timerSchedule coro (actualTimeout timeout), .yieldSuspend coro])
  /-- `Schedule` makes a record. -/
  | arms {coro : CoroPtr} {dueTime now : Int} {rest : List Frame}
      (at_ : s.frames s.coSelf = .timerSchedule coro dueTime :: rest)
      (stack : s'.callStack = s.callStack) (count : s'.coroCount = s.coroCount)
      (objects : s'.coro = Function.update s.coro coro
        { s.coro coro with timerData := some (s.maxTimerId + 1) })
      (made : s'.data (s.maxTimerId + 1) = newRecord coro dueTime now (s.coro coro).yieldTimes)
      (records : ∀ data, data ≠ s.maxTimerId + 1 → (s.data data).Keeps (s'.data data))
      (timers : s'.maxTimerId = s.maxTimerId + 1) (events : s'.events = s.events)
      (next : s'.frames s.coSelf = rest)
  /-- `co_yield_ct`. -/
  | suspends {coro : CoroPtr} {rest : List Frame} {below : Co} {lower : List Co}
      (at_ : s.frames s.coSelf = .yieldSuspend coro :: rest)
      (before : s.callStack = s.coSelf :: below :: lower) (stack : s'.callStack = below :: lower)
      (count : s'.coroCount = s.coroCount)
      (objects : s'.coro = Function.update s.coro coro
        { s.coro coro with
          yielded := true, timeouted := false, cancelled := false, passData := .nil })
      (records : s'.data = s.data) (timers : s'.maxTimerId = s.maxTimerId)
      (events : s'.events = .suspended coro (s.coro coro).yieldTimes :: s.events)
      (frames : s'.frames = Function.update s.frames s.coSelf
        (.yieldRet coro (s.coro coro).yieldTimes :: rest))
  /-- The scheduler calls `OnTimeout` of a record. -/
  | fires {now : Int} {top : DataPtr} {rest : List Frame}
      (at_ : s.frames s.coSelf = .schedLoop now :: rest)
      (due : (s.data top).handle ≤ now) (validate : (s.data top).validate = true)
      (stack : s'.callStack = s.callStack) (count : s'.coroCount = s.coroCount)
      (objects : s'.coro = s.coro)
      (records : s'.data = Function.update s.data top
        { s.data top with timeouting := true, repeatTimes := (s.data top).repeatTimes + 1 })
      (timers : s'.maxTimerId = s.maxTimerId)
      (events : s'.events = .fired (s.data top).timer (s.data top).armedFor :: s.events)
      (next : s'.frames s.coSelf =
        .onCoroTimeout (s.data top).timer :: .schedUpdateRet now top :: rest)
  /-- The scheduler puts a record back that its handler has left valid. -/
  | rearms {now : Int} {data : DataPtr} {rest : List Frame}
      (at_ : s.frames s.coSelf = .schedUpdateRet now data :: rest)
      (validate : (s.data data).validate = true) (stack : s'.callStack = s.callStack)
      (count : s'.coroCount = s.coroCount) (objects : s'.coro = s.coro)
      (record : (s'.data data).timer = (s.data data).timer ∧
        (s'.data data).armedFor = (s.data data).armedFor ∧ (s'.data data).timeouting = false)
      (records : ∀ other, other ≠ data → s'.data other = s.data other)
      (timers : s'.maxTimerId = s.maxTimerId) (events : s'.events = s.events)
      (next : s'.frames s.coSelf = .schedLoop now :: rest)
      (dueTime : (s'.data data).dueTime = (s.data data).dueTime)
  /-- `CreateCoro`, and `Start` in the main coroutine. -/
  | makes {object : Coro} (userRuns : s.UserRuns) (stack : s'.callStack = s.callStack)
      (count : s'.coroCount = s.coroCount + 1)
      (objects : s'.coro = Function.update s.coro s.coroCount object)
      (unarmed : object.timerData = none) (unflagged : object.timeouted = false)
      (records : s'.data = s.data) (timers : s'.maxTimerId = s.maxTimerId)
      (fired : ∀ coro times, .fired coro times ∈ s'.events → .fired coro times ∈ s.events)
      (frames : s'.frames = s.frames)
  /-- An entry function returns. -/
  | finishes {below : Co} {lower : List Co} (userRuns : s.UserRuns)
      (before : s.callStack = s.coSelf :: below :: lower) (stack : s'.callStack = below :: lower)
      (count : s'.coroCount = s.coroCount) (objects : s'.coro = s.coro)
      (records : s'.data = s.data) (timers : s'.maxTimerId = s.maxTimerId)
      (fired : ∀ coro times, .fired coro times ∈ s'.events → .fired coro times ∈ s.events)
      (frames : s'.frames = s.frames)

/-! ## Writes that are calm -/

namespace Calm

variable {s t : State}

/-- Doing nothing is calm. -/
theorem refl (s : State) : Calm s s :=
  ⟨rfl, rfl, fun _ => .refl _, fun _ => .refl _, rfl, fun _ _ => id⟩

theorem goto (calm : Calm s t) (self : Co) (frames : List Frame) : Calm s (t.goto self frames) :=
  ⟨calm.stack, calm.count, calm.objects, calm.records, calm.timers, calm.fired⟩

theorem returns (calm : Calm s t) (value : Int) : Calm s (t.returns value) :=
  ⟨calm.stack, calm.count, calm.objects, calm.records, calm.timers, calm.fired⟩

theorem heap (calm : Calm s t) (heap : List DataPtr) : Calm s { t with heap := heap } :=
  ⟨calm.stack, calm.count, calm.objects, calm.records, calm.timers, calm.fired⟩

/-- Only a firing may not be recorded. -/
theorem record (calm : Calm s t) {event : Event}
    (other : ∀ coro times, event ≠ .fired coro times) : Calm s (t.record event) := by
  refine ⟨calm.stack, calm.count, calm.objects, calm.records, calm.timers, ?_⟩
  intro coro times member
  rcases List.mem_cons.mp member with same | earlier
  · exact absurd same.symm (other coro times)
  · exact calm.fired coro times earlier

/-- An object may be written if its suspension is left alone. -/
theorem setCoro (calm : Calm s t) {target : CoroPtr} {object : Coro}
    (keeps : (t.coro target).Keeps object) : Calm s (t.setCoro target object) :=
  ⟨calm.stack, calm.count, fun coro => (calm.objects coro).trans (keeps_update keeps coro),
    calm.records, calm.timers, calm.fired⟩

/-- A timer record may be written if it is neither armed nor fired. -/
theorem setData (calm : Calm s t) {target : DataPtr} {record : TimerData}
    (keeps : (t.data target).Keeps record) : Calm s (t.setData target record) :=
  ⟨calm.stack, calm.count, calm.objects,
    fun data => (calm.records data).trans (keepsRecord_update keeps data), calm.timers, calm.fired⟩

theorem release (calm : Calm s t) (data : DataPtr) : Calm s (t.release data) :=
  calm.setData ⟨rfl, rfl, rfl, id, id, rfl⟩

/-- Deleting an object is calm. -/
theorem destroyed (calm : Calm s t) (coro : CoroPtr) : Calm s (t.destroyed coro) := by
  refine record (calm.setCoro ?_) fun _ _ other => by cases other
  exact ⟨rfl, rfl, id, id, fun _ => id⟩

end Calm

/-! ## The code does nothing else -/

section

variable {s t s' : State} {rest : List Frame} {coro : CoroPtr}

theorem goto_frames (s : State) (self : Co) (frames : List Frame) :
    (s.goto self frames).frames self = frames := Function.update_self ..

theorem cool_nil : Cool [] := fun _ member => by cases member

theorem mild_nil : Mild [] := fun _ member => by cases member

/-- `Mild` can be decided for the frames that code makes. -/
theorem mild_of_all {frames : List Frame} (all : frames.all Frame.mild = true) : Mild frames :=
  List.all_eq_true.mp all

/-- What a calm step makes may wait. -/
theorem Mild.cool {frames : List Frame} (mild : Mild frames) : Cool frames := by
  intro frame member
  have made := mild frame member
  cases frame <;> simp_all [Frame.mild, Frame.hot]

/-- A calm step fires no timer. -/
theorem Mild.unfired {frames : List Frame} (mild : Mild frames) (now : Int) (data : DataPtr) :
    .schedUpdateRet now data ∉ frames := fun member => by cases mild _ member

/-- The innermost call goes on, calmly. -/
theorem Calm.on {frame : Frame} (pushed : List Frame) (calm : Calm s t)
    (at_ : s.frames s.coSelf = frame :: rest) (mild : pushed.all Frame.mild = true) :
    Change s (t.goto s.coSelf (pushed ++ rest)) :=
  .calm (calm.goto _ _) (.on at_ (Function.update_self ..) (mild_of_all mild))

/-- The innermost call returns, calmly. -/
theorem Calm.back {frame : Frame} (calm : Calm s t) (at_ : s.frames s.coSelf = frame :: rest) :
    Change s (t.goto s.coSelf rest) :=
  Calm.on [] calm at_ rfl

/-- `Timer::Cancel` is calm: it may call `OnCoroCancel`, and marks the record as invalid first. -/
theorem timerCancel_change (at_ : s.frames s.coSelf = .timerCancel coro :: rest) :
    Change s (s.timerCancel s.coSelf rest coro) := by
  simp only [State.timerCancel]
  split
  · exact ((Calm.refl s).returns _).back at_
  next data _ =>
    split
    · exact ((Calm.refl s).returns _).back at_
    · refine Calm.on [.onCoroCancel coro, .schedCancelRet coro data]
        ((Calm.refl s).setData ?_) at_ rfl
      exact ⟨rfl, rfl, rfl, fun off => (by cases off), id, rfl⟩

/-- `OnCoroCancel` is calm, but where it calls `Resume`. -/
theorem onCoroCancel_change (at_ : s.frames s.coSelf = .onCoroCancel coro :: rest) :
    Change s (s.onCoroCancel s.coSelf rest coro) := by
  simp only [State.onCoroCancel]
  split
  · refine .calm (((Calm.refl s).setCoro ?_).goto _ _) (.cancels at_ ?_ (Function.update_self ..))
    · exact ⟨rfl, rfl, id, fun _ => rfl, fun _ => id⟩
    · simp [State.goto, State.setCoro]
  · exact (Calm.refl s).back at_

/-- `Cancel` after its handler is calm. -/
theorem schedCancelRet_change {data : DataPtr} {now : Int}
    (at_ : s.frames s.coSelf = .schedCancelRet coro data :: rest)
    (taken : s.schedCancelRet s.coSelf rest coro data now = .ok s') : Change s s' := by
  have cleared : Calm s
      ((s.setData data { s.data data with cancelling := false }).returns llbcOk) := by
    refine ((Calm.refl s).setData ?_).returns _
    exact ⟨rfl, rfl, rfl, id, id, rfl⟩
  simp only [State.schedCancelRet] at taken
  split at taken
  · cases taken
  · split at taken
    · cases taken
      exact cleared.back at_
    · split at taken
      · split at taken
        · cases taken
        · split at taken
          · cases taken
            refine (((cleared.heap _).release _).setCoro ?_).back at_
            exact ⟨rfl, rfl, id, id, fun _ none => by cases none⟩
          · cases taken
            exact ((cleared.heap _).release _).back at_
      · cases taken
        exact cleared.back at_

/-- A turn of the scheduler's loop is calm or fires a timer. -/
theorem schedLoop_change {now : Int} {top : DataPtr}
    (at_ : s.frames s.coSelf = .schedLoop now :: rest)
    (taken : s.schedLoop s.coSelf rest now top = .ok s') : Change s s' := by
  simp only [State.schedLoop] at taken
  split at taken
  · cases taken
    exact (Calm.refl s).back at_
  · split at taken
    · cases taken
    · split at taken
      · cases taken
        exact (Calm.refl s).back at_
      next notLater =>
        split at taken
        · cases taken
          exact Calm.on [.schedLoop now] (((Calm.refl s).heap _).release _) at_ rfl
        next validate =>
          cases taken
          exact .fires at_ (by omega) (by simpa using validate) rfl rfl rfl rfl rfl rfl
            (Function.update_self ..)

/-- After a timeout handler the scheduler is calm or arms the record again. -/
theorem schedUpdateRet_change {now : Int} {data : DataPtr}
    (at_ : s.frames s.coSelf = .schedUpdateRet now data :: rest) :
    Change s (s.schedUpdateRet s.coSelf rest now data) := by
  simp only [State.schedUpdateRet]
  split
  next validate =>
    refine .rearms at_ validate rfl rfl rfl ?_ (fun other different => ?_) rfl rfl
      (Function.update_self ..) ?_
    · simp [State.goto, State.setData]
    · simp [State.goto, State.setData, different]
    · simp [State.goto, State.setData]
  · refine Calm.on [.schedLoop now] (Calm.release ((Calm.refl s).setData ?_) _) at_ rfl
    exact ⟨rfl, rfl, rfl, id, fun off => (by cases off), rfl⟩

/-- `RecycleContainer` is calm. -/
theorem recycle_change {pending : List CoroPtr}
    (at_ : s.frames s.coSelf = .recycle pending :: rest) :
    Change s (s.recycle s.coSelf rest pending) := by
  cases pending with
  | nil =>
      have cleared : Calm s { s with waitingForRecycleCoros := .empty } :=
        ⟨rfl, rfl, fun _ => .refl _, fun _ => .refl _, rfl, fun _ _ => id⟩
      exact cleared.back at_
  | cons coro pending =>
      have entered : Calm s (s.record (.deleting coro)) :=
        (Calm.refl s).record fun _ _ other => by cases other
      simp only [State.recycle]
      split
      · exact Calm.on [.timerCancel coro, .destroy coro, .recycle pending] entered at_ rfl
      · exact Calm.on [.destroy coro, .recycle pending] entered at_ rfl

/-- A turn of the loop in `Stop` is calm. -/
theorem stopLoop_change {position : Option (Int × CoroPtr)}
    (at_ : s.frames s.coSelf = .stopLoop position :: rest)
    (taken : s.stopLoop s.coSelf rest position = .ok s') : Change s s' := by
  cases position with
  | none =>
      cases taken
      exact Calm.on [.schedUpdate, .updateRecycle, .stopReset] (Calm.refl s) at_ rfl
  | some entry =>
      simp only [State.stopLoop] at taken
      split at taken
      · cases taken
      · split at taken
        · cases taken
          exact Calm.on [.cancel entry.2, .stopLoop (s.coros.next entry.1)] (Calm.refl s) at_ rfl
        · cases taken
          exact Calm.on [.stopLoop (s.coros.next entry.1)] (Calm.refl s) at_ rfl

/-- `Resume` refuses calmly, or accepts. -/
theorem resume_change {passData : Variant} {cause : Cause}
    (at_ : s.frames s.coSelf = .resume coro passData cause :: rest) :
    Change s (s.resume s.coSelf rest coro passData cause) := by
  by_cases yielded : (s.coro coro).yielded = true
  · have accepted : s.resume s.coSelf rest coro passData cause =
        ((s.record (.ended coro (s.coro coro).yieldTimes cause passData)).setCoro coro
          { s.coro coro with
            resumeTimes := (s.coro coro).resumeTimes + 1, yielded := false,
            passData := passData }).goto s.coSelf
          (if (s.coro coro).isTimeoutedOrCancelled then .coResume coro :: rest
            else .timerCancel coro :: .coResume coro :: rest) := by
      simp only [State.resume, yielded, Bool.not_true, Bool.false_eq_true, if_false]
      split <;> rfl
    rw [accepted]
    exact .resumed at_ yielded rfl rfl rfl rfl rfl rfl (Function.update_self ..)
  · have refused : s.resume s.coSelf rest coro passData cause =
        (s.returns llbcFailed).goto s.coSelf rest := by simp [State.resume, yielded]
    rw [refused]
    exact ((Calm.refl s).returns _).back at_

/-- `co_resume` switches. -/
theorem coResume_change (at_ : s.frames s.coSelf = .coResume coro :: rest)
    (taken : s.coResume s.coSelf rest coro = .ok s') : Change s s' := by
  simp only [State.coResume] at taken
  split_ifs at taken with _ onStack
  cases taken
  exact .switched at_ onStack rfl rfl rfl rfl rfl rfl rfl

/-- `Schedule` refuses calmly, or arms a new record. -/
theorem timerSchedule_change {dueTime now : Int}
    (at_ : s.frames s.coSelf = .timerSchedule coro dueTime :: rest) :
    Change s (s.timerSchedule s.coSelf rest coro dueTime now) := by
  simp only [State.timerSchedule]
  split
  · exact (Calm.refl s).back at_
  · split
    · refine .arms at_ rfl rfl rfl (Function.update_self ..) (fun data other => ?_) rfl rfl
        (Function.update_self ..)
      simp only [State.goto, State.returns, State.setCoro, State.setData,
        Function.update_of_ne other]
      exact .refl _
    next old _ =>
      refine .arms at_ rfl rfl rfl (Function.update_self ..) (fun data other => ?_) rfl rfl
        (Function.update_self ..)
      simp only [State.goto, State.returns, State.setCoro, State.setData, State.release,
        Function.update_of_ne other]
      refine keepsRecord_update ?_ data
      exact ⟨rfl, rfl, rfl, id, id, rfl⟩

/-- `co_self` is the top of the call stack. -/
theorem coSelf_of_cons {top : Co} {below : List Co} (stack : s.callStack = top :: below) :
    s.coSelf = top := by rw [State.coSelf, stack, List.headD_cons]

/-- The switch in `Yield` suspends the running coroutine. -/
theorem yieldSuspend_change (at_ : s.frames s.coSelf = .yieldSuspend coro :: rest)
    (taken : s.yieldSuspend s.coSelf rest coro = .ok s') : Change s s' := by
  obtain ⟨top, below, lower, stack, rfl⟩ := State.coYield_cases taken
  have stack : s.callStack = top :: below :: lower := stack
  have before : s.callStack = s.coSelf :: below :: lower := by rw [coSelf_of_cons stack, stack]
  exact .suspends at_ before rfl rfl rfl rfl rfl rfl rfl

/-- The return of an entry function finishes its coroutine. -/
theorem entryReturn_change (userRuns : s.UserRuns) (taken : s.entryReturn = .ok s') :
    Change s s' := by
  simp only [State.entryReturn] at taken
  split at taken
  · cases taken
  next coro onTop =>
    obtain ⟨top, below, lower, stack, rfl⟩ := State.coYield_cases taken
    have stack : s.callStack = top :: below :: lower :=
      (State.maskWillRecycle_callStack s coro).symm.trans stack
    have before : s.callStack = s.coSelf :: below :: lower := by rw [coSelf_of_cons stack, stack]
    simp only [State.maskWillRecycle]
    split
    all_goals
      refine .finishes userRuns before rfl rfl rfl rfl rfl (fun _ _ member => ?_) rfl
      simpa [State.setInner, State.record] using member

/-- `Start` makes an object, or is calm outside the main coroutine. -/
theorem start_change (userRuns : s.UserRuns) (taken : s.start = .ok s') : Change s s' := by
  simp only [State.start] at taken
  split at taken
  · cases taken
  · split at taken
    · cases taken
      refine .calm ?_ (.asked userRuns ?_)
      · exact ⟨rfl, rfl, fun _ => .refl _, fun _ => .refl _, rfl, fun _ _ => id⟩
      · have none : s.frames s.coSelf = [] := userRuns
        simpa [State.returns, none] using mild_nil
    · cases taken
      exact .makes userRuns rfl rfl rfl rfl rfl rfl rfl (fun _ _ => id) rfl

/-- `CreateCoro` makes an object. -/
theorem createCoro_change {entry args : Nat} (userRuns : s.UserRuns) :
    Change s (s.createCoro entry args) := by
  refine .makes userRuns rfl rfl rfl rfl rfl rfl rfl (fun _ _ member => ?_) rfl
  rcases List.mem_cons.mp member with other | earlier
  · cases other
  · exact earlier

/-- Every call of the manager that goes on is in the list. -/
theorem runFrame_change {choice : Choice} {frame : Frame}
    (at_ : s.frames s.coSelf = frame :: rest)
    (taken : s.runFrame choice s.coSelf rest frame = .ok s') : Change s s' := by
  have same := Calm.refl s
  cases frame with
  | resume coro passData cause =>
      cases taken
      exact resume_change at_
  | coResume coro => exact coResume_change at_ taken
  | timerSchedule coro dueTime =>
      cases taken
      exact timerSchedule_change at_
  | yieldSuspend coro => exact yieldSuspend_change at_ taken
  | timerCancel coro =>
      cases taken
      exact timerCancel_change at_
  | onCoroCancel coro =>
      cases taken
      exact onCoroCancel_change at_
  | schedCancelRet coro data => exact schedCancelRet_change at_ taken
  | cancel coro =>
      cases taken
      simp only [State.cancel]
      split
      · exact (same.returns _).back at_
      · exact Calm.on [.timerCancel coro, .cancelRet] same at_ rfl
  | resumeRet | cancelRet =>
      cases taken
      exact (same.returns _).back at_
  | yieldRet coro times =>
      simp only [State.runFrame, State.yieldRet] at taken
      split at taken
      · cases taken
      · cases taken
        exact ((same.record fun _ _ other => by cases other).returns _).back at_
  | schedUpdate =>
      cases taken
      simp only [State.schedUpdate]
      split
      · exact same.back at_
      · exact Calm.on [.schedLoop choice.now] same at_ rfl
  | schedLoop now => exact schedLoop_change at_ taken
  | onCoroTimeout coro =>
      simp only [State.runFrame, State.onCoroTimeout] at taken
      split at taken
      · cases taken
      · cases taken
        refine Calm.on [.timerCancel coro, .resume coro .nil .expiry] (same.setCoro ?_) at_ rfl
        exact ⟨rfl, rfl, fun _ => rfl, id, fun _ => id⟩
  | schedUpdateRet now data =>
      cases taken
      exact schedUpdateRet_change at_
  | updateRecycle =>
      cases taken
      simp only [State.updateRecycle]
      split
      · exact same.back at_
      · exact Calm.on [.recycle s.waitingForRecycleCoros.values]
          (same.record fun _ _ other => by cases other) at_ rfl
  | recycle pending =>
      cases taken
      exact recycle_change at_
  | destroy coro =>
      cases taken
      simp only [State.destroy]
      split
      · exact (same.destroyed coro).back at_
      · exact Calm.on [.timerCancel coro, .destroyTimer coro] same at_ rfl
  | destroyTimer coro =>
      simp only [State.runFrame, State.destroyTimer] at taken
      split at taken
      · cases taken
      · cases taken
        exact ((same.release _).destroyed coro).back at_
  | stopLoop position => exact stopLoop_change at_ taken
  | stopReset =>
      cases taken
      have reset : Calm s { s with maxCoroId := 0 } :=
        ⟨rfl, rfl, fun _ => .refl _, fun _ => .refl _, rfl, fun _ _ => id⟩
      exact reset.back at_

/-- A call of user code that returns at once. -/
theorem Calm.asked (calm : Calm s s') (userRuns : s.UserRuns)
    (frames : s'.frames = s.frames) : Change s s' := by
  refine .calm calm (.asked userRuns ?_)
  rw [frames, userRuns]
  exact mild_nil

/-- `Yield` is calm where it refuses, and otherwise begins a suspension. -/
theorem coroYield_change {timeout : Int} (userRuns : s.UserRuns)
    (taken : s.coroYield s.coSelf coro timeout = .ok s') : Change s s' := by
  have refused : Change s (s.returns llbcFailed) := ((Calm.refl s).returns _).asked userRuns rfl
  simp only [State.coroYield] at taken
  split at taken
  · cases taken
    exact refused
  next running =>
    split at taken
    · cases taken
    · cases taken
    next current found =>
      split at taken
      · cases taken
        exact refused
      next isCurrent =>
        have isCurrent : coro = current := Decidable.not_not.mp isCurrent
        subst isCurrent
        split at taken
        · cases taken
          exact refused
        next notMain =>
          cases taken
          exact .yields userRuns found (Bool.eq_false_iff.mpr running)
            (Bool.eq_false_iff.mpr notMain) rfl rfl rfl rfl rfl rfl (Function.update_self ..)

/-- Every operation of user code is in the list. -/
theorem userStep_change {op : Op} (userRuns : s.UserRuns)
    (taken : s.userStep s.coSelf op = .ok s') : Change s s' := by
  have same := Calm.refl s
  have asks : ∀ frames, frames.all Frame.mild = true → Change s (s.goto s.coSelf frames) := by
    intro frames mild
    refine .calm (same.goto _ _) (.asked userRuns ?_)
    simpa [State.goto] using mild_of_all mild
  have asksResume : ∀ coro passData,
      Change s (s.goto s.coSelf [.resume coro passData .explicit]) := fun _ _ =>
    .calm (same.goto _ _) (.asksResume userRuns rfl (Function.update_self ..))
  cases op with
  | start => exact start_change userRuns taken
  | createCoro entry args =>
      cases taken
      exact createCoro_change userRuns
  | setEntry coro entry =>
      simp only [State.userStep, State.setEntry] at taken
      split_ifs at taken
      · cases taken
        exact (same.returns _).asked userRuns rfl
      · cases taken
        refine ((same.setCoro ?_).returns _).asked userRuns rfl
        exact ⟨rfl, rfl, id, id, fun _ => id⟩
  | setArgs coro args =>
      simp only [State.userStep, State.setArgs] at taken
      split_ifs at taken
      · cases taken
        exact (same.returns _).asked userRuns rfl
      · cases taken
        refine ((same.setCoro ?_).returns _).asked userRuns rfl
        exact ⟨rfl, rfl, id, id, fun _ => id⟩
  | setPtrParam1 coro param =>
      simp only [State.userStep] at taken
      split_ifs at taken
      cases taken
      refine (same.setCoro ?_).asked userRuns rfl
      exact ⟨rfl, rfl, id, id, fun _ => id⟩
  | coroYield coro timeout =>
      simp only [State.userStep] at taken
      split_ifs at taken
      exact coroYield_change userRuns taken
  | yield timeout =>
      simp only [State.userStep] at taken
      split at taken
      · cases taken
      · cases taken
      · exact coroYield_change userRuns taken
  | coroResume coro passData =>
      simp only [State.userStep] at taken
      split_ifs at taken
      cases taken
      exact asksResume coro passData
  | coroCancel coro =>
      simp only [State.userStep] at taken
      split_ifs at taken
      cases taken
      exact asks _ rfl
  | resume coroId passData =>
      cases taken
      simp only [State.withCoro]
      split
      · exact (same.returns _).asked userRuns rfl
      · exact asksResume _ passData
  | cancel coroId =>
      cases taken
      simp only [State.withCoro]
      split
      · exact (same.returns _).asked userRuns rfl
      · exact asks _ rfl
  | update | stop =>
      cases taken
      exact asks _ rfl
  | entryReturn => exact entryReturn_change userRuns taken

/-- Every step is in the list. -/
theorem step_change {label : Label} (taken : machine.step s label = .ok s') : Change s s' := by
  cases label with
  | user op =>
      simp only [machine, State.step] at taken
      split at taken
      next userRuns => exact userStep_change userRuns taken
      next => cases taken
  | work choice =>
      simp only [machine, State.step] at taken
      split at taken
      next => cases taken
      next at_ => exact runFrame_change at_ taken

/-- Only `co_yield_ct` suspends a coroutine that has been created. -/
theorem Change.yielded_kept (change : Change s s') (created : coro < s.coroCount)
    (running : (s.coro coro).yielded = false)
    (stays : ∀ rest, s.frames s.coSelf ≠ .yieldSuspend coro :: rest) :
    (s'.coro coro).yielded = false := by
  cases change with
  | calm calm => exact (calm.objects coro).yielded.trans running
  | @resumed target _ _ _ _ _ _ _ objects =>
      by_cases same : coro = target
      · simp [objects, same]
      · rwa [objects, Function.update_of_ne same]
  | @yields target _ _ _ _ _ _ _ objects | @arms target _ _ _ _ _ _ objects =>
      by_cases same : coro = target
      · subst same
        simpa [objects] using running
      · rwa [objects, Function.update_of_ne same]
  | @suspends target _ _ _ at_ _ _ _ objects =>
      have other : coro ≠ target := by
        rintro rfl
        exact stays _ at_
      rwa [objects, Function.update_of_ne other]
  | switched _ _ _ _ objects | fires _ _ _ _ _ objects | rearms _ _ _ _ objects
  | finishes _ _ _ _ objects => rwa [objects]
  | makes _ _ _ objects => rwa [objects, Function.update_of_ne (Nat.ne_of_lt created)]

/-- Only `co_yield_ct` clears the flags of a coroutine. -/
theorem Change.flags_kept (change : Change s s') (created : coro < s.coroCount)
    (stays : ∀ rest, s.frames s.coSelf ≠ .yieldSuspend coro :: rest) :
    ((s.coro coro).timeouted = true → (s'.coro coro).timeouted = true) ∧
      ((s.coro coro).cancelled = true → (s'.coro coro).cancelled = true) := by
  cases change with
  | calm calm => exact ⟨(calm.objects coro).timeouted, (calm.objects coro).cancelled⟩
  | @resumed target _ _ _ _ _ _ _ objects | @yields target _ _ _ _ _ _ _ objects
  | @arms target _ _ _ _ _ _ objects =>
      by_cases same : coro = target
      · subst same
        simp [objects]
      · simp [objects, same]
  | @suspends target _ _ _ at_ _ _ _ objects =>
      have other : coro ≠ target := by
        rintro rfl
        exact stays _ at_
      rw [objects, Function.update_of_ne other]
      exact ⟨id, id⟩
  | switched _ _ _ _ objects | fires _ _ _ _ _ objects | rearms _ _ _ _ objects
  | finishes _ _ _ _ objects =>
      rw [objects]
      exact ⟨id, id⟩
  | makes _ _ _ objects =>
      rw [objects, Function.update_of_ne (Nat.ne_of_lt created)]
      exact ⟨id, id⟩

end

end LibcoRpc.CoroMgr
