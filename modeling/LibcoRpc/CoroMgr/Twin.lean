import LibcoRpc.CoroMgr.Stop
import LibcoRpc.CoroMgr.Timers

/-!
# One finished coroutine more

Two managers that differ in one coroutine: one of them has created it, has run it to its end
and keeps its object for the next `Update`. `Twin` relates the two. It leaves out the id
counter, the history and the value last returned; no code but `Schedule` reads that value,
and `Schedule` always finds `LLBC_OK` there. Every call of the manager treats the two alike
(`Twin.runFrame`, `Twin.userStep`), the deletion of finished objects apart.
-/

namespace LibcoRpc.CoroMgr

open LibcoRpc.Std

variable {s s' t : State} {label : Label} {coro : CoroPtr}

/-! ## Pointers of interrupted calls -/

/-- Interrupted calls have pointers to allocated objects only. -/
def Framed (s : State) : Prop :=
  ∀ co, ∀ frame ∈ s.frames co, ∀ coro ∈ frame.coros, coro < s.coroCount

/-- Wherever a pointer is stored, its object has been allocated. -/
theorem Stored.lt (stored : Stored s coro) (named : s.registry.Named) (signalled : Signalled s) :
    coro < s.coroCount := by
  cases stored with
  | live live =>
      rw [State.live, Bool.and_eq_true, decide_eq_true_iff] at live
      exact live.1
  | map found => exact (named.corosKey _ coro found).1
  | waiting found => exact (named.waitingKey _ coro found).1
  | timer validate owner => exact owner ▸ (signalled.made _ validate).1

/-- A step pushes pointers that it has found somewhere. -/
theorem Framed.step (framed : Framed s) (named : s.registry.Named) (signalled : Signalled s)
    (taken : machine.step s label = .ok s') : Framed s' := by
  intro co frame member coro has
  have stays : coro < s.coroCount → coro < s'.coroCount :=
    fun old => ((step_change taken).yieldTimes_le old).2
  apply stays
  by_cases self : co = s.coSelf
  · subst self
    cases step_proceeds taken with
    | asks _ _ supplied => exact (supplied frame member coro has).lt named signalled
    | works at_ next _ traced =>
        rw [next] at member
        have held := framed s.coSelf
        rw [at_] at held
        rcases List.mem_append.mp member with made | old
        · rcases traced frame made coro has with mine | stored
          · exact held _ List.mem_cons_self coro mine
          · exact stored.lt named signalled
        · exact held frame (List.mem_cons_of_mem _ old) coro has
  · rw [step_frames taken self] at member
    exact framed co frame member coro has

/-- Interrupted calls have such pointers in every run that takes no id twice. -/
theorem framed_of_run {env : Bool} (run : machine.Run TakesFreeId (State.init env) s) :
    Framed s := by
  induction run with
  | start => exact fun _ _ member => by cases member
  | step prior _ taken ih => exact ih.step (named_of_run prior) (signalled_of_run prior) taken

/-! ## What `Schedule` is told -/

/-- `Schedule` goes on after a `Cancel` of its timer that has returned `LLBC_OK`. -/
theorem Poised.ret_step (poised : Poised s) (named : s.registry.Named)
    (taken : machine.step s label = .ok s') {dueTime : Int} {rest : List Frame}
    (at_ : s'.frames s'.coSelf = .timerSchedule coro dueTime :: rest) : s'.ret = llbcOk := by
  have stays : s'.coSelf = s.coSelf := by
    by_contra other
    have cool := poised.cool_of_entered taken other _ (at_ ▸ List.mem_cons_self)
    cases cool
  have leaving := (poised.step named taken).of_timerSchedule at_
  rw [stays] at at_
  rcases poised.leaving_cases named taken leaving with before | ⟨userRuns, _⟩
  · rcases before.frames_cases with ⟨_, cancelling⟩ | ⟨_, frames⟩ | frames
    · obtain ⟨_, _, ⟨_, returned⟩ | going, _⟩ := cancelling.step before.running taken
      · exact returned
      · rw [at_] at going
        cases going
    · obtain ⟨choice, ran⟩ := step_work frames taken
      cases ran
      simp only [State.timerSchedule] at at_
      split at at_ <;> simp [State.goto] at at_
    · obtain ⟨choice, ran⟩ := step_work frames taken
      obtain ⟨_, _, _, _, rfl⟩ := State.coYield_cases ran
      simp [State.goto] at at_
  · have none : s.frames s.coSelf = [] := userRuns
    cases step_change taken with
    | calm _ onward =>
        cases onward with
        | asked _ mild =>
            have mildHead := mild _ (at_ ▸ List.mem_cons_self)
            cases mildHead
        | asksResume _ _ next =>
            rw [at_] at next
            cases next
        | on busy | cancels busy => simp [none] at busy
    | resumed busy | switched busy | arms busy | suspends busy | fires busy | rearms busy =>
        simp [none] at busy
    | yields _ _ _ _ _ _ _ _ _ _ next =>
        rw [at_] at next
        cases next
    | makes _ _ _ _ _ _ _ _ _ frames | finishes _ _ _ _ _ _ _ _ frames =>
        rw [frames, none] at at_
        cases at_

/-- In every such run `Schedule` finds `LLBC_OK`. -/
theorem ret_of_run {env : Bool} (run : machine.Run TakesFreeId (State.init env) s)
    {dueTime : Int} {rest : List Frame}
    (at_ : s.frames s.coSelf = .timerSchedule coro dueTime :: rest) : s.ret = llbcOk := by
  cases run with
  | start => cases at_
  | step prior _ taken => exact (poised_of_run prior).ret_step (named_of_run prior) taken at_

/-! ## The two managers -/

/-- Calls of the two managers: the list of objects to delete may have the extra one in it. -/
inductive FrameTwin (spare : CoroPtr) : Frame → Frame → Prop where
  | same (frame : Frame) : FrameTwin spare frame frame
  | recycle {left right : List CoroPtr} (but : left = right.filter (· ≠ spare)) :
      FrameTwin spare (.recycle left) (.recycle right)

/-- The frames at which `Update` deletes finished objects. -/
def Frame.recycles : Frame → Bool
  | .updateRecycle => true
  | .recycle _ => true
  | _ => false

/-- The second manager has one object more, of a finished coroutine. While that is `pending`
the object is among those to be deleted. -/
structure Twin (spare : CoroPtr) (spareId : Int) (pending : Bool) (s t : State) : Prop where
  coros : t.coros = s.coros
  waiting : t.waitingForRecycleCoros =
    if pending then s.waitingForRecycleCoros.emplace spareId spare else s.waitingForRecycleCoros
  object : ∀ coro, coro ≠ spare → t.coro coro = s.coro coro
  idle : (t.coro spare).yielded = false ∧ (t.coro spare).timerData = none
  count : s.coroCount = spare ∧ t.coroCount = spare + 1
  data : t.data = s.data
  maxTimerId : t.maxTimerId = s.maxTimerId
  heap : t.heap = s.heap
  env : s.env = true → t.env = true
  inner : ∀ co, co ≠ .co spare → t.inner co = s.inner co
  callStack : t.callStack = s.callStack
  frames : ∀ co, List.Forall₂ (FrameTwin spare) (s.frames co) (t.frames co)
  /-- The id is not in use in the first manager. -/
  absent : s.coros.find spareId = none
  unused : pending = true → s.waitingForRecycleCoros.find spareId = none

variable {spare : CoroPtr} {spareId : Int} {pending : Bool} {self : Co} {rest rest' : List Frame}

/-- Where the first computation has a result, the second has a related one. -/
def Agrees (Related : State → State → Prop) (left right : Except Fault State) : Prop :=
  ∀ s', left = .ok s' → ∃ t', right = .ok t' ∧ Related s' t'

/-- Two results that are related. -/
theorem Agrees.ok {Related : State → State → Prop} (related : Related s t) :
    Agrees Related (.ok s) (.ok t) := by
  intro s' result
  cases result
  exact ⟨t, rfl, related⟩

/-- Nothing is asked where the first computation fails. -/
theorem Agrees.error {Related : State → State → Prop} {fault : Fault}
    {right : Except Fault State} : Agrees Related (.error fault) right := nofun

/-- The running coroutine is on the call stack. -/
theorem Registry.Named.mem_of_self (named : s.registry.Named) {co : Co} (self : s.coSelf = co) :
    co ∈ s.callStack := by
  obtain ⟨below, stack⟩ := named.callStack_cons
  rw [stack, self]
  exact List.mem_cons_self

/-- `Start` outside the main coroutine. -/
theorem start_outside (outside : s.coSelf ≠ .main) : s.start =
    if s.env then .ok (State.returns { s with maxCoroId := 0 } 0) else .error .nullDeref := by
  have refused : State.coSelf { s with maxCoroId := 0 } ≠ .main := outside
  simp only [State.start, if_pos refused]
  cases s.env <;> rfl

namespace Twin

/-! ### Writes -/

section Writes

variable (twin : Twin spare spareId pending s t)

include twin

/-- The same coroutine runs in both. -/
theorem coSelf : t.coSelf = s.coSelf := by rw [State.coSelf, twin.callStack, State.coSelf]

/-- Calls that go on alike. -/
theorem goto (self : Co) {calls calls' : List Frame}
    (alike : List.Forall₂ (FrameTwin spare) calls calls') :
    Twin spare spareId pending (s.goto self calls) (t.goto self calls') := by
  refine { twin with frames := fun co => ?_ }
  simp only [State.goto]
  by_cases isSelf : co = self
  · subst isSelf
    rwa [Function.update_self, Function.update_self]
  · rw [Function.update_of_ne isSelf, Function.update_of_ne isSelf]
    exact twin.frames co

theorem returns (value value' : Int) :
    Twin spare spareId pending (s.returns value) (t.returns value') :=
  { twin with }

theorem record (event event' : Event) :
    Twin spare spareId pending (s.record event) (t.record event') :=
  { twin with }

/-- The id counters need not agree. -/
theorem counter (maxCoroId maxCoroId' : Int) :
    Twin spare spareId pending { s with maxCoroId := maxCoroId }
      { t with maxCoroId := maxCoroId' } :=
  { twin with }

/-- A write to any object but the extra one. -/
theorem setCoro (other : coro ≠ spare) (object : Coro) :
    Twin spare spareId pending (s.setCoro coro object) (t.setCoro coro object) := by
  refine { twin with object := fun co notSpare => ?_, idle := ?_ }
  · simp only [State.setCoro, Function.update_apply, twin.object co notSpare]
  · simpa only [State.setCoro, Function.update_of_ne other.symm] using twin.idle

theorem setData (data : DataPtr) (record : TimerData) :
    Twin spare spareId pending (s.setData data record) (t.setData data record) :=
  { twin with data := by simp only [State.setData, twin.data] }

theorem release (data : DataPtr) :
    Twin spare spareId pending (s.release data) (t.release data) := by
  simp only [State.release, twin.data]
  exact twin.setData data _

theorem heapErase (data : DataPtr) :
    Twin spare spareId pending { s with heap := s.heap.erase data }
      { t with heap := t.heap.erase data } :=
  { twin with heap := by simp only [twin.heap] }

theorem heapPush (data : DataPtr) :
    Twin spare spareId pending { s with heap := data :: s.heap }
      { t with heap := data :: t.heap } :=
  { twin with heap := by simp only [twin.heap] }

theorem setMaxTimerId (maxTimerId : Nat) :
    Twin spare spareId pending { s with maxTimerId := maxTimerId }
      { t with maxTimerId := maxTimerId } :=
  { twin with maxTimerId := rfl }

theorem setInner (co : Co) (inner : Inner) :
    Twin spare spareId pending (s.setInner co inner) (t.setInner co inner) := by
  refine { twin with inner := fun asked notSpare => ?_ }
  simp only [State.setInner, Function.update_apply, twin.inner asked notSpare]

theorem setCallStack (callStack : List Co) :
    Twin spare spareId pending { s with callStack := callStack }
      { t with callStack := callStack } :=
  { twin with callStack := rfl }

/-- What the first manager has allocated is not the extra object. -/
theorem ne_of_lt (allocated : coro < s.coroCount) : coro ≠ spare :=
  Nat.ne_of_lt (twin.count.1 ▸ allocated)

/-- The extra coroutine does not run. -/
theorem running (named : s.registry.Named) : s.coSelf ≠ .co spare := by
  intro self
  obtain ⟨isCo, _⟩ := named.onStack spare (named.mem_of_self self)
  exact twin.ne_of_lt (named.allocated spare isCo) rfl

/-- What user code may use in the first manager, it may use in the second. -/
theorem live (live : s.live coro = true) : coro ≠ spare ∧ t.live coro = true := by
  simp only [State.live, Bool.and_eq_true, decide_eq_true_iff] at live ⊢
  have other := twin.ne_of_lt live.1
  refine ⟨other, ?_, twin.object coro other ▸ live.2⟩
  rw [twin.count.2]
  exact Nat.lt_succ_of_lt (twin.count.1 ▸ live.1)

theorem isTimeouting (other : coro ≠ spare) : t.isTimeouting coro = s.isTimeouting coro := by
  simp only [State.isTimeouting, twin.object coro other, twin.data]

/-- The same record is due next. -/
theorem isTop (data : DataPtr) : t.isTop data = s.isTop data := by
  simp only [State.isTop, twin.heap, twin.data]

/-- Deleting an object other than the extra one. -/
theorem destroyed (other : coro ≠ spare) :
    Twin spare spareId pending (s.destroyed coro) (t.destroyed coro) := by
  simp only [State.destroyed, twin.object coro other]
  exact (twin.setCoro other _).record _ _

/-- `co_yield_env`. -/
theorem coYield : Agrees (Twin spare spareId pending) s.coYield t.coYield := by
  simp only [State.coYield, twin.callStack]
  split
  · exact .ok (twin.setCallStack _)
  · exact .error

end Writes

/-! ### Calls -/

section Calls

variable (twin : Twin spare spareId pending s t)
  (rests : List.Forall₂ (FrameTwin spare) rest rest')

include twin rests

theorem resume (other : coro ≠ spare) (passData : Variant) (cause : Cause) :
    Twin spare spareId pending (s.resume self rest coro passData cause)
      (t.resume self rest' coro passData cause) := by
  simp only [State.resume, twin.object coro other]
  split_ifs
  · exact (twin.returns _ _).goto self rests
  · exact ((twin.record _ _).setCoro other _).goto self (.cons (.same _) rests)
  · exact ((twin.record _ _).setCoro other _).goto self
      (.cons (.same _) (.cons (.same _) rests))

/-- `co_resume` of any coroutine but the extra one. -/
theorem coResume (other : coro ≠ spare) (own : (s.coro coro).innerCoro ≠ .co spare) :
    Agrees (Twin spare spareId pending) (s.coResume self rest coro)
      (t.coResume self rest' coro) := by
  simp only [State.coResume, twin.object coro other, twin.callStack, twin.inner _ own]
  split_ifs
  · exact .error
  · exact .error
  · exact .error
  · exact .error
  · let target := (s.coro coro).innerCoro
    have entered := (twin.setInner target { s.inner target with cStart := true }).setCallStack
      (target :: s.callStack)
    exact .ok (entered.goto self (.cons (.same (.resumeRet coro)) rests))

theorem timerCancel (other : coro ≠ spare) :
    Twin spare spareId pending (s.timerCancel self rest coro) (t.timerCancel self rest' coro) := by
  simp only [State.timerCancel, twin.object coro other, twin.data]
  split
  · exact (twin.returns _ _).goto self rests
  · split_ifs
    · exact (twin.returns _ _).goto self rests
    · exact (twin.setData _ _).goto self (.cons (.same _) (.cons (.same _) rests))

theorem onCoroCancel (other : coro ≠ spare) :
    Twin spare spareId pending (s.onCoroCancel self rest coro)
      (t.onCoroCancel self rest' coro) := by
  simp only [State.onCoroCancel, twin.object coro other, twin.isTimeouting other]
  split_ifs
  · exact (twin.setCoro other _).goto self (.cons (.same _) rests)
  · exact twin.goto self rests

theorem cancel (other : coro ≠ spare) :
    Twin spare spareId pending (s.cancel self rest coro) (t.cancel self rest' coro) := by
  simp only [State.cancel, twin.object coro other]
  split_ifs
  · exact (twin.returns _ _).goto self rests
  · exact twin.goto self (.cons (.same _) (.cons (.same _) rests))

theorem schedCancelRet (other : coro ≠ spare) (data : DataPtr) (now : Int) :
    Agrees (Twin spare spareId pending) (s.schedCancelRet self rest coro data now)
      (t.schedCancelRet self rest' coro data now) := by
  have settled := (twin.setData data { s.data data with cancelling := false }).returns llbcOk llbcOk
  simp only [State.schedCancelRet, twin.data]
  dsimp only at settled
  generalize (s.setData data _).returns llbcOk = settledS at settled ⊢
  generalize (t.setData data _).returns llbcOk = settledT at settled ⊢
  have dropped := (settled.heapErase data).release data
  generalize State.release { settledS with heap := _ } data = droppedS at dropped ⊢
  generalize State.release { settledT with heap := _ } data = droppedT at dropped ⊢
  simp only [settled.data, settled.heap, dropped.data, dropped.object coro other]
  split_ifs
  · exact .error
  · exact .ok (settled.goto self rests)
  · exact .ok ((dropped.setCoro other _).goto self rests)
  · exact .ok (dropped.goto self rests)
  · exact .error
  · exact .ok (settled.goto self rests)

/-- `Schedule`, which reads what `Cancel` has returned. -/
theorem timerSchedule (other : coro ≠ spare) (told : s.ret = llbcOk ∧ t.ret = llbcOk)
    (dueTime now : Int) : Twin spare spareId pending (s.timerSchedule self rest coro dueTime now)
      (t.timerSchedule self rest' coro dueTime now) := by
  have numbered := twin.setMaxTimerId (s.maxTimerId + 1)
  rw [State.timerSchedule, State.timerSchedule, if_neg (not_not.mpr told.1),
    if_neg (not_not.mpr told.2)]
  simp only [twin.maxTimerId, twin.object coro other]
  have written : ∀ {s t : State} (_ : Twin spare spareId pending s t) (data : DataPtr)
      (record : TimerData),
      let writtenS := (s.setData data record).setCoro coro
        { (s.setData data record).coro coro with timerData := some data }
      let writtenT := (t.setData data record).setCoro coro
        { (t.setData data record).coro coro with timerData := some data }
      Twin spare spareId pending
        (State.goto (State.returns { writtenS with heap := data :: writtenS.heap } llbcOk) self
          rest)
        (State.goto (State.returns { writtenT with heap := data :: writtenT.heap } llbcOk) self
          rest') := by
    intro s t twin data record
    have stored := twin.setData data record
    dsimp only
    rw [stored.object coro other]
    exact (((stored.setCoro other _).heapPush data).returns _ _).goto self rests
  split
  · exact written numbered _ _
  · exact written (numbered.release _) _ _

theorem yieldSuspend (other : coro ≠ spare) :
    Agrees (Twin spare spareId pending) (s.yieldSuspend self rest coro)
      (t.yieldSuspend self rest' coro) := by
  simp only [State.yieldSuspend, twin.object coro other]
  exact (((twin.setCoro other _).record _ _).goto self (.cons (.same _) rests)).coYield

theorem yieldRet (other : coro ≠ spare) (times : Nat) :
    Agrees (Twin spare spareId pending) (s.yieldRet self rest coro times)
      (t.yieldRet self rest' coro times) := by
  simp only [State.yieldRet, twin.object coro other]
  split
  · exact .error
  · exact .ok (((twin.record _ _).returns _ _).goto self rests)

theorem schedUpdate (now : Int) :
    Twin spare spareId pending (s.schedUpdate self rest now) (t.schedUpdate self rest' now) := by
  simp only [State.schedUpdate, twin.heap]
  split
  · exact twin.goto self rests
  · exact twin.goto self (.cons (.same _) rests)

/-- A turn of the scheduler's loop: the heaps are the same. -/
theorem schedLoop (now : Int) (top : DataPtr) :
    Agrees (Twin spare spareId pending) (s.schedLoop self rest now top)
      (t.schedLoop self rest' now top) := by
  have taken := twin.heapErase top
  simp only [State.schedLoop, twin.isTop]
  rw [twin.data, twin.heap]
  simp only [twin.data, twin.heap] at taken ⊢
  split_ifs
  · exact .ok (twin.goto self rests)
  · exact .error
  · exact .ok (twin.goto self rests)
  · exact .ok ((taken.release top).goto self (.cons (.same _) rests))
  · exact .ok (((taken.setData top _).record _ _).goto self
      (.cons (.same _) (.cons (.same _) rests)))

theorem schedUpdateRet (now : Int) (data : DataPtr) :
    Twin spare spareId pending (s.schedUpdateRet self rest now data)
      (t.schedUpdateRet self rest' now data) := by
  simp only [State.schedUpdateRet, twin.data]
  split
  · exact ((twin.setData data _).heapPush data).goto self (.cons (.same _) rests)
  · exact ((twin.setData data _).release data).goto self (.cons (.same _) rests)

theorem onCoroTimeout (other : coro ≠ spare) :
    Agrees (Twin spare spareId pending) (s.onCoroTimeout self rest coro)
      (t.onCoroTimeout self rest' coro) := by
  simp only [State.onCoroTimeout, twin.object coro other]
  split
  · exact .error
  next live =>
    rw [(twin.live (by simpa using live)).2]
    exact .ok ((twin.setCoro other _).goto self (.cons (.same _) (.cons (.same _) rests)))

theorem destroy (other : coro ≠ spare) :
    Twin spare spareId pending (s.destroy self rest coro) (t.destroy self rest' coro) := by
  simp only [State.destroy, twin.object coro other]
  split
  · exact (twin.destroyed other).goto self rests
  · exact twin.goto self (.cons (.same _) (.cons (.same _) rests))

theorem destroyTimer (other : coro ≠ spare) :
    Agrees (Twin spare spareId pending) (s.destroyTimer self rest coro)
      (t.destroyTimer self rest' coro) := by
  simp only [State.destroyTimer, twin.object coro other]
  split
  · exact .error
  · exact .ok (((twin.release _).destroyed other).goto self rests)

/-- A turn of the loop in `Stop`: the maps of coroutines are the same. -/
theorem stopLoop {position : Option (Int × CoroPtr)}
    (other : ∀ coro ∈ (Frame.stopLoop position).coros, coro ≠ spare) :
    Agrees (Twin spare spareId pending) (s.stopLoop self rest position)
      (t.stopLoop self rest' position) := by
  cases position with
  | none => exact .ok (twin.goto self (.cons (.same _) (.cons (.same _) (.cons (.same _) rests))))
  | some entry =>
      simp only [State.stopLoop, twin.coros, twin.object entry.2 (other _ List.mem_cons_self)]
      split_ifs
      · exact .error
      · exact .ok (twin.goto self (.cons (.same _) (.cons (.same _) rests)))
      · exact .ok (twin.goto self (.cons (.same _) rests))

/-- The deletion of finished objects apart, a call goes on alike in both managers. -/
theorem runFrame (named : s.registry.Named) {frame : Frame} {choice : Choice}
    (others : ∀ coro ∈ frame.coros, coro ≠ spare)
    (told : ∀ coro dueTime, frame = .timerSchedule coro dueTime → s.ret = llbcOk ∧ t.ret = llbcOk)
    (deletes : frame.recycles = false) :
    Agrees (Twin spare spareId pending) (s.runFrame choice self rest frame)
      (t.runFrame choice self rest' frame) := by
  cases frame with
  | resume coro passData cause =>
      exact .ok (twin.resume rests (others coro List.mem_cons_self) _ _)
  | coResume coro =>
      have other := others coro List.mem_cons_self
      refine twin.coResume rests other ?_
      rcases named.inner coro with isMain | isCo
      · exact fun same => Co.noConfusion (isMain.symm.trans same)
      · exact fun same => other (Co.co.inj (isCo.symm.trans same))
  | resumeRet coro => exact .ok ((twin.returns _ _).goto self rests)
  | timerCancel coro => exact .ok (twin.timerCancel rests (others coro List.mem_cons_self))
  | onCoroCancel coro => exact .ok (twin.onCoroCancel rests (others coro List.mem_cons_self))
  | schedCancelRet coro data =>
      exact twin.schedCancelRet rests (others coro List.mem_cons_self) _ _
  | cancel coro => exact .ok (twin.cancel rests (others coro List.mem_cons_self))
  | cancelRet => exact .ok ((twin.returns _ _).goto self rests)
  | timerSchedule coro dueTime =>
      have other := others coro List.mem_cons_self
      exact .ok (twin.timerSchedule rests other (told coro dueTime rfl) _ _)
  | yieldSuspend coro => exact twin.yieldSuspend rests (others coro List.mem_cons_self)
  | yieldRet coro times => exact twin.yieldRet rests (others coro List.mem_cons_self) times
  | schedUpdate => exact .ok (twin.schedUpdate rests _)
  | schedLoop now => exact twin.schedLoop rests now _
  | onCoroTimeout coro => exact twin.onCoroTimeout rests (others coro List.mem_cons_self)
  | schedUpdateRet now data => exact .ok (twin.schedUpdateRet rests now data)
  | updateRecycle | recycle => cases deletes
  | destroy coro => exact .ok (twin.destroy rests (others coro List.mem_cons_self))
  | destroyTimer coro => exact twin.destroyTimer rests (others coro List.mem_cons_self)
  | stopLoop position => exact twin.stopLoop rests others
  | stopReset => exact .ok ((twin.counter 0 0).goto self rests)

end Calls

/-! ### Operations -/

section Operations

variable (twin : Twin spare spareId pending s t)

include twin

/-- `GetCurCoro` finds the same coroutine. -/
theorem getCurCoro (running : s.coSelf ≠ .co spare) {current : Option CoroPtr}
    (found : s.getCurCoro = .ok current) : t.getCurCoro = .ok current := by
  simp only [State.getCurCoro, State.getCoro] at found ⊢
  rw [twin.coSelf, twin.inner _ running, twin.coros]
  split at found
  · cases found
  next env => rw [twin.env (by simpa using env)]; exact found

/-- `Yield` is refused in both or goes on in both. -/
theorem coroYield (other : coro ≠ spare) (running : s.coSelf ≠ .co spare) (timeout : Int) :
    Agrees (Twin spare spareId pending) (s.coroYield self coro timeout)
      (t.coroYield self coro timeout) := by
  simp only [State.coroYield, twin.object coro other]
  split
  · exact .ok (twin.returns _ _)
  · cases found : s.getCurCoro with
    | error fault => exact .error
    | ok current =>
        rw [twin.getCurCoro running found]
        cases current with
        | none => exact .error
        | some current =>
            dsimp only
            split_ifs
            · exact .ok (twin.returns _ _)
            · exact .ok (twin.returns _ _)
            · exact .ok ((twin.setCoro other _).goto self
                (.cons (.same _) (.cons (.same _) (.cons (.same _) .nil))))

/-- `MaskWillRecycle` of any coroutine but the extra one, whose id is not in use. -/
theorem maskWillRecycle (other : coro ≠ spare) (notId : (s.coro coro).coroId ≠ spareId) :
    Twin spare spareId pending (s.maskWillRecycle coro) (t.maskWillRecycle coro) := by
  have sameFind : t.waitingForRecycleCoros.find (s.coro coro).coroId =
      s.waitingForRecycleCoros.find (s.coro coro).coroId := by
    rw [twin.waiting]
    split
    · rw [OrdMap.find_emplace, if_neg notId]
    · rfl
  simp only [State.maskWillRecycle, twin.object coro other, sameFind]
  split
  · exact twin
  · refine { twin with
      coros := by rw [twin.coros]
      waiting := ?_
      absent := ?_
      unused := fun isPending => ?_ }
    · simp only [twin.waiting]
      split
      · exact OrdMap.emplace_comm _ notId _ _
      · rfl
    · simp only [OrdMap.find_erase, if_neg (Ne.symm notId), twin.absent]
    · simp only [OrdMap.find_emplace, if_neg (Ne.symm notId), twin.unused isPending]

/-- An entry function returns: the coroutine that ends is not the extra one. -/
theorem entryReturn (named : s.registry.Named) (running : s.coSelf ≠ .co spare) :
    Agrees (Twin spare spareId pending) s.entryReturn t.entryReturn := by
  simp only [State.entryReturn, twin.coSelf]
  split
  · exact .error
  next coro self =>
    have other : coro ≠ spare := by
      rintro rfl
      exact running self
    have notId : (s.coro coro).coroId ≠ spareId := by
      intro same
      obtain ⟨isCo, runs⟩ := named.onStack coro (named.mem_of_self self)
      have registered : s.coros.find (s.coro coro).coroId = some coro :=
        named.registered coro isCo runs
      rw [same, twin.absent] at registered
      cases registered
    have marked := (twin.maskWillRecycle other notId).record (.finished coro) (.finished coro)
    rw [marked.inner _ (self ▸ running)]
    exact (marked.setInner _ _).coYield

/-- A pointer that user code may use is not to the extra object. -/
theorem ifLive {left right : Except Fault State}
    (alike : coro ≠ spare → Agrees (Twin spare spareId pending) left right) :
    Agrees (Twin spare spareId pending) (if s.live coro then left else .error .danglingCoro)
      (if t.live coro then right else .error .danglingCoro) := by
  split
  next live =>
    obtain ⟨other, liveToo⟩ := twin.live live
    rw [if_pos liveToo]
    exact alike other
  next => exact .error

/-- Every operation that takes no id does alike in both managers. -/
theorem userStep (named : s.registry.Named) {op : Op} (quiet : s.issues (.user op) = none) :
    Agrees (Twin spare spareId pending) (s.userStep s.coSelf op) (t.userStep t.coSelf op) := by
  have running := twin.running named
  rw [twin.coSelf]
  cases op with
  | start =>
      have notMain : s.coSelf ≠ .main := by
        intro isMain
        simp [State.issues, isMain] at quiet
      have notMain' : t.coSelf ≠ .main := twin.coSelf ▸ notMain
      simp only [State.userStep, start_outside notMain, start_outside notMain']
      split
      next env =>
        rw [if_pos (twin.env env)]
        exact .ok ((twin.counter 0 0).returns _ _)
      next => exact .error
  | createCoro entry args => cases quiet
  | setEntry coro entry =>
      refine twin.ifLive fun other => .ok ?_
      simp only [State.setEntry, twin.object coro other]
      split
      · exact twin.returns _ _
      · exact (twin.setCoro other _).returns _ _
  | setArgs coro args =>
      refine twin.ifLive fun other => .ok ?_
      simp only [State.setArgs, twin.object coro other]
      split
      · exact twin.returns _ _
      · exact (twin.setCoro other _).returns _ _
  | setPtrParam1 coro param =>
      refine twin.ifLive fun other => .ok ?_
      simp only [State.setPtrParam1, twin.object coro other]
      exact twin.setCoro other _
  | coroYield coro timeout =>
      exact twin.ifLive fun other => twin.coroYield other running timeout
  | coroResume coro passData =>
      exact twin.ifLive fun _ => .ok (twin.goto _ (.cons (.same _) .nil))
  | coroCancel coro =>
      exact twin.ifLive fun _ => .ok (twin.goto _ (.cons (.same _) .nil))
  | yield timeout =>
      simp only [State.userStep]
      cases found : s.getCurCoro with
      | error fault => exact .error
      | ok current =>
          rw [twin.getCurCoro running found]
          cases current with
          | none => exact .error
          | some current =>
              refine twin.coroYield ?_ running timeout
              exact twin.ne_of_lt (named.corosKey _ _ (find_of_getCurCoro found)).1
  | resume coroId passData =>
      simp only [State.userStep, State.withCoro, State.getCoro, twin.coros]
      split
      · exact .ok (twin.returns _ _)
      · exact .ok (twin.goto _ (.cons (.same _) .nil))
  | cancel coroId =>
      simp only [State.userStep, State.withCoro, State.getCoro, twin.coros]
      split
      · exact .ok (twin.returns _ _)
      · exact .ok (twin.goto _ (.cons (.same _) .nil))
  | update => exact .ok (twin.goto _ (.cons (.same _) (.cons (.same _) .nil)))
  | stop =>
      simp only [State.userStep, twin.coros]
      exact .ok (twin.goto _ (.cons (.same _) .nil))
  | entryReturn => exact twin.entryReturn named running

end Operations

end Twin

end LibcoRpc.CoroMgr
