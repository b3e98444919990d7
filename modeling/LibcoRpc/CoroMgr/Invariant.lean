import LibcoRpc.CoroMgr.Naming
import LibcoRpc.CoroMgr.Lifecycle

/-!
# The invariant between framework calls

What the fields of a coroutine say in each phase of its life (`Stands`), how the
coroutines of the call stack hang together (`Linked`), and which timer records may
still be pending (`Steady`). Framework code breaks these facts for the coroutine it is
about to switch to and for no other, so `Steady` can exempt one coroutine.

`Core` is the whole invariant at a resting state: user code runs, or one of the loops
of `Update` and `Stop` is at its head, or a `co_resume` has just come back.
-/

namespace LibcoRpc.CoroMgr

open LibcoRpc.Std

/-! ## One coroutine -/

/-- The record of the current suspension: pending, in the heap, and made for it. -/
structure Armed (s : State) (coro : CoroPtr) (times : Nat) (data : DataPtr) : Prop where
  current : (s.coro coro).timerData = some data
  timer : (s.data data).timer = coro
  validate : (s.data data).validate = true
  timeouting : (s.data data).timeouting = false
  armedFor : (s.data data).armedFor = times
  inHeap : data ∈ s.heap

/-- Off the call stack and waiting to be resumed, after `times` suspensions. -/
structure Dormant (s : State) (coro : CoroPtr) (times : Nat) : Prop where
  created : Created s coro
  unfinished : ¬ Finished s coro
  kept : (s.coro coro).deleted = false
  yielded : (s.coro coro).yielded = true
  unflagged : (s.coro coro).timeouted = false ∧ (s.coro coro).cancelled = false
  counters : (s.coro coro).yieldTimes = times ∧ (s.coro coro).resumeTimes = times
  offStack : .co coro ∉ s.callStack

/-- Created, not started. -/
structure Fresh (s : State) (coro : CoroPtr) : Prop extends Dormant s coro 0 where
  unarmed : (s.coro coro).timerData = none
  frames : s.frames (.co coro) = []

/-- Inside `Yield` for the `times`-th time. -/
structure Suspended (s : State) (coro : CoroPtr) (times : Nat) : Prop
    extends Dormant s coro times where
  positive : 1 ≤ times
  frames : s.frames (.co coro) = [.yieldRet coro times]
  armed : ∃ data, Armed s coro times data

/-- On the call stack, after `times` suspensions. -/
structure Running (s : State) (coro : CoroPtr) (times : Nat) : Prop where
  created : Created s coro
  unfinished : ¬ Finished s coro
  kept : (s.coro coro).deleted = false
  yielded : (s.coro coro).yielded = false
  counters : (s.coro coro).yieldTimes = times ∧ (s.coro coro).resumeTimes = times + 1
  onStack : .co coro ∈ s.callStack

/-- The entry function has returned; `deleted` says whether the object is gone. -/
structure Ended (s : State) (coro : CoroPtr) (deleted : Bool) : Prop where
  created : Created s coro
  finished : Finished s coro
  kept : (s.coro coro).deleted = deleted
  yielded : (s.coro coro).yielded = false
  counters : (s.coro coro).resumeTimes = (s.coro coro).yieldTimes + 1
  offStack : .co coro ∉ s.callStack

/-- An unused address, or a wrapper of the main coroutine. -/
structure Unmade (s : State) (coro : CoroPtr) : Prop where
  innerCoro : (s.coro coro).innerCoro = .main
  kept : (s.coro coro).deleted = false
  yielded : (s.coro coro).yielded = false
  unarmed : (s.coro coro).timerData = none
  offStack : .co coro ∉ s.callStack
  frames : s.frames (.co coro) = []

/-- What the fields of a coroutine say when its life is in a given phase. -/
def Stands (s : State) (coro : CoroPtr) : Phase → Prop
  | .absent => Unmade s coro
  | .fresh => Fresh s coro
  | .running times => Running s coro times
  | .suspended times => Suspended s coro times
  | .finished => Ended s coro false
  | .doomed => Ended s coro false
  | .deleted => Ended s coro true
  | _ => False

/-- An object without the fields that only user code reads. -/
def Coro.bare (object : Coro) : Coro :=
  { object with entry := 0, args := 0, ptrParam1 := none }

/-- A change of state that leaves a coroutine where it stands. -/
structure Unmoved (s s' : State) (coro : CoroPtr) : Prop where
  object : (s'.coro coro).bare = (s.coro coro).bare
  inner : s'.inner (.co coro) = s.inner (.co coro)
  stack : .co coro ∈ s'.callStack ↔ .co coro ∈ s.callStack
  frames : .co coro ∉ s.callStack → s'.frames (.co coro) = s.frames (.co coro)
  allocated : s.coroCount ≤ s'.coroCount
  records : ∀ data, (s.data data).timer = coro → (s.data data).validate = true →
    s'.data data = s.data data
  heap : ∀ data, (s.data data).timer = coro → (s.data data).validate = true →
    data ∈ s.heap → data ∈ s'.heap

/-- A change of state that a coroutine does not notice. -/
structure Undisturbed (s s' : State) (coro : CoroPtr) : Prop extends Unmoved s s' coro where
  life : life coro s'.events = life coro s.events

namespace Unmoved

variable {s s' : State} {coro : CoroPtr} (same : Unmoved s s' coro)

include same

/-- Every field but those three is as before. -/
theorem field {β : Type} (field : Coro → β) (bare : ∀ object, field object.bare = field object) :
    field (s'.coro coro) = field (s.coro coro) := by
  rw [← bare (s'.coro coro), same.object, bare]

theorem finished_iff : Finished s' coro ↔ Finished s coro := by
  simp only [Finished, same.inner]

theorem created (created : Created s coro) : Created s' coro :=
  ⟨Nat.lt_of_lt_of_le created.1 same.allocated,
    (same.field Coro.innerCoro fun _ => rfl).trans created.2⟩

end Unmoved

section Unmoved

variable {s s' : State} {coro : CoroPtr}

/-- A step that leaves a coroutine and its record alone leaves it armed. -/
theorem Armed.unmoved {times : Nat} {data : DataPtr} (armed : Armed s coro times data)
    (same : Unmoved s s' coro) : Armed s' coro times data := by
  have record := same.records data armed.timer armed.validate
  exact
    { current := (same.field Coro.timerData fun _ => rfl).trans armed.current
      timer := by rw [record]; exact armed.timer
      validate := by rw [record]; exact armed.validate
      timeouting := by rw [record]; exact armed.timeouting
      armedFor := by rw [record]; exact armed.armedFor
      inHeap := same.heap data armed.timer armed.validate armed.inHeap }

/-- The same for a coroutine that has ended. -/
theorem Ended.unmoved {deleted : Bool} (ended : Ended s coro deleted)
    (same : Unmoved s s' coro) : Ended s' coro deleted where
  created := same.created ended.created
  finished := same.finished_iff.mpr ended.finished
  kept := (same.field Coro.deleted fun _ => rfl).trans ended.kept
  yielded := (same.field Coro.yielded fun _ => rfl).trans ended.yielded
  counters := by
    rw [same.field Coro.resumeTimes fun _ => rfl, same.field Coro.yieldTimes fun _ => rfl]
    exact ended.counters
  offStack := fun onStack => ended.offStack (same.stack.mp onStack)

/-- The same for a coroutine that is suspended. -/
theorem Dormant.unmoved {times : Nat} (dormant : Dormant s coro times)
    (same : Unmoved s s' coro) : Dormant s' coro times where
  created := same.created dormant.created
  unfinished := fun finished => dormant.unfinished (same.finished_iff.mp finished)
  kept := (same.field Coro.deleted fun _ => rfl).trans dormant.kept
  yielded := (same.field Coro.yielded fun _ => rfl).trans dormant.yielded
  unflagged := by
    rw [same.field Coro.timeouted fun _ => rfl, same.field Coro.cancelled fun _ => rfl]
    exact dormant.unflagged
  counters := by
    rw [same.field Coro.yieldTimes fun _ => rfl, same.field Coro.resumeTimes fun _ => rfl]
    exact dormant.counters
  offStack := fun onStack => dormant.offStack (same.stack.mp onStack)

/-- A coroutine that is left where it stands keeps its phase. -/
theorem Stands.unmoved {phase : Phase} (stands : Stands s coro phase)
    (same : Unmoved s s' coro) : Stands s' coro phase := by
  cases phase with
  | absent =>
      have unmade : Unmade s coro := stands
      exact
        { innerCoro := (same.field Coro.innerCoro fun _ => rfl).trans unmade.innerCoro
          kept := (same.field Coro.deleted fun _ => rfl).trans unmade.kept
          yielded := (same.field Coro.yielded fun _ => rfl).trans unmade.yielded
          unarmed := (same.field Coro.timerData fun _ => rfl).trans unmade.unarmed
          offStack := fun onStack => unmade.offStack (same.stack.mp onStack)
          frames := (same.frames unmade.offStack).trans unmade.frames : Unmade s' coro }
  | fresh =>
      have fresh : Fresh s coro := stands
      exact
        { fresh.toDormant.unmoved same with
          unarmed := (same.field Coro.timerData fun _ => rfl).trans fresh.unarmed
          frames := (same.frames fresh.offStack).trans fresh.frames : Fresh s' coro }
  | running times =>
      have running : Running s coro times := stands
      exact
        { created := same.created running.created
          unfinished := fun finished => running.unfinished (same.finished_iff.mp finished)
          kept := (same.field Coro.deleted fun _ => rfl).trans running.kept
          yielded := (same.field Coro.yielded fun _ => rfl).trans running.yielded
          counters := by
            rw [same.field Coro.yieldTimes fun _ => rfl, same.field Coro.resumeTimes fun _ => rfl]
            exact running.counters
          onStack := same.stack.mpr running.onStack : Running s' coro times }
  | suspended times =>
      have suspended : Suspended s coro times := stands
      exact
        { suspended.toDormant.unmoved same with
          positive := suspended.positive
          frames := (same.frames suspended.offStack).trans suspended.frames
          armed := suspended.armed.imp fun _ armed => armed.unmoved same :
          Suspended s' coro times }
  | finished => exact Ended.unmoved stands same
  | doomed => exact Ended.unmoved stands same
  | deleted => exact Ended.unmoved stands same
  | firing | waking | deleting => exact stands.elim

end Unmoved

/-! ## The call stack -/

/-- A record that framework code below still holds a pointer to, although it is no
longer pending. -/
def Stale (s : State) (data : DataPtr) : Prop :=
  data ≤ s.maxTimerId ∧ (s.data data).validate = false

/-- What is left of an `Update` after its loop: nothing, or the end of `Stop`. -/
def UpdateRest (rest : List Frame) : Prop := rest = [] ∨ rest = [.stopReset]

/-- What the caller of `Resume` still has to do once `Resume` has returned. -/
inductive Tail (s : State) (coro : CoroPtr) : List Frame → Prop where
  /-- User code called `Resume`. -/
  | user : Tail s coro []
  /-- `Cancel` did, through the cancel handler of the timer. -/
  | cancel {data : DataPtr} {rest : List Frame} (stale : Stale s data)
      (idle : (s.data data).timeouting = false)
      (caller : rest = [] ∨ ∃ position, rest = [.stopLoop position]) :
      Tail s coro (.schedCancelRet coro data :: .cancelRet :: rest)
  /-- The scheduler did, through the timeout handler. -/
  | update {now : Int} {data : DataPtr} {rest : List Frame} (stale : Stale s data)
      (caller : UpdateRest rest) :
      Tail s coro (.schedUpdateRet now data :: .updateRecycle :: rest)

/-- Each coroutine of a call stack above the first was resumed by the one below it. -/
def Linked (s : State) : List Co → Prop
  | upper :: lower :: rest =>
      (∃ coro tail, upper = .co coro ∧ s.frames lower = .resumeRet coro :: tail ∧
        Tail s coro tail) ∧ Linked s (lower :: rest)
  | _ => True

/-- Records that are no longer pending stay so. -/
structure KeepsStale (s s' : State) : Prop where
  allocated : s.maxTimerId ≤ s'.maxTimerId
  validate : ∀ data ≤ s.maxTimerId, (s.data data).validate = false →
    (s'.data data).validate = false
  timeouting : ∀ data ≤ s.maxTimerId, (s.data data).validate = false →
    (s.data data).timeouting = false → (s'.data data).timeouting = false

section Linked

variable {s s' : State}

/-- A stale record stays stale. -/
theorem Stale.mono {data : DataPtr} (stale : Stale s data) (keeps : KeepsStale s s') :
    Stale s' data :=
  ⟨Nat.le_trans stale.1 keeps.allocated, keeps.validate data stale.1 stale.2⟩

theorem Tail.mono {coro : CoroPtr} {tail : List Frame} (holds : Tail s coro tail)
    (keeps : KeepsStale s s') : Tail s' coro tail := by
  cases holds with
  | user => exact .user
  | cancel stale idle caller =>
      exact .cancel (stale.mono keeps) (keeps.timeouting _ stale.1 stale.2 idle) caller
  | update stale caller => exact .update (stale.mono keeps) caller

/-- A stack stays linked when the frames below its top are left alone. -/
theorem Linked.mono {stack : List Co} (linked : Linked s stack) (keeps : KeepsStale s s')
    (frames : ∀ co ∈ stack.tail, s'.frames co = s.frames co) : Linked s' stack := by
  induction stack with
  | nil => trivial
  | cons upper rest ih =>
      cases rest with
      | nil => trivial
      | cons lower rest =>
          obtain ⟨⟨coro, tail, isCo, lowerFrames, holds⟩, restLinked⟩ := linked
          refine ⟨⟨coro, tail, isCo, ?_, holds.mono keeps⟩, ?_⟩
          · rw [frames lower List.mem_cons_self, lowerFrames]
          · exact ih restLinked fun co member => frames co (List.mem_cons_of_mem _ member)

theorem Linked.tail {top : Co} {rest : List Co} (linked : Linked s (top :: rest)) :
    Linked s rest := by
  cases rest with
  | nil => trivial
  | cons lower rest => exact linked.2

end Linked

/-! ## The whole state -/

/-- Every coroutine but the exempted one stands where its history says, and only the
current records of suspended coroutines are pending. -/
structure Steady (s : State) (exempt : Option CoroPtr) : Prop where
  stands : ∀ coro, exempt ≠ some coro →
    ∃ phase, life coro s.events = some phase ∧ Stands s coro phase
  pending : ∀ data, (s.data data).validate = true →
    exempt ≠ some (s.data data).timer ∧
    (s.coro (s.data data).timer).timerData = some data ∧
    ∃ times, life (s.data data).timer s.events = some (.suspended times)
  owner : ∀ coro data, (s.coro coro).timerData = some data →
    (s.data data).timer = coro ∧ data ≤ s.maxTimerId
  linked : Linked s s.callStack

/-- A change that at most the target coroutine notices. -/
structure Touches (s s' : State) (target : Option CoroPtr) : Prop where
  undisturbed : ∀ coro, target ≠ some coro → Undisturbed s s' coro
  timers : ∀ data ≤ s.maxTimerId, (s'.data data).timer = (s.data data).timer
  keeps : KeepsStale s s'
  new : ∀ data, s.maxTimerId < data → (s'.data data).validate = true →
    target = some (s'.data data).timer

section Steady

variable {s s' : State} {exempt exempt' target : Option CoroPtr}

/-- Only records that were made are valid. -/
theorem Steady.pending_allocated (steady : Steady s exempt) {data : DataPtr}
    (validate : (s.data data).validate = true) : data ≤ s.maxTimerId :=
  (steady.owner _ data (steady.pending data validate).2.1).2

/-- No object but the exempted one is being deleted. -/
theorem Steady.not_deleting (steady : Steady s exempt) {coro : CoroPtr}
    (notExempt : exempt ≠ some coro) : life coro s.events ≠ some .deleting := by
  obtain ⟨phase, lives, stands⟩ := steady.stands coro notExempt
  rintro deleting
  rw [lives] at deleting
  cases deleting
  exact stands.elim

/-- At a resting state an event about another coroutine changes nothing. -/
theorem Steady.life_cons (steady : Steady s none) {coro other : CoroPtr} {event : Event}
    (about : event.subject = some other) (different : coro ≠ other) :
    life coro (event :: s.events) = life coro s.events := by
  refine life_cons_other ?_ ?_ (steady.not_deleting (by simp))
  · rw [about]
    exact fun same => different (Option.some.inj same).symm
  · rintro rfl
    cases about

/-- A coroutine that says it is suspended has not been started or is inside `Yield`. -/
theorem Steady.yielded_cases (steady : Steady s none) {coro : CoroPtr}
    (yielded : (s.coro coro).yielded = true) :
    (life coro s.events = some .fresh ∧ Fresh s coro) ∨
    ∃ times, life coro s.events = some (.suspended times) ∧ Suspended s coro times := by
  obtain ⟨phase, lives, stands⟩ := steady.stands coro (by simp)
  cases phase with
  | fresh => exact .inl ⟨lives, stands⟩
  | suspended times => exact .inr ⟨times, lives, stands⟩
  | absent => exact absurd yielded (by simp [Unmade.yielded stands])
  | running times => exact absurd yielded (by simp [Running.yielded stands])
  | finished => exact absurd yielded (by simp [Ended.yielded stands])
  | doomed => exact absurd yielded (by simp [Ended.yielded stands])
  | deleted => exact absurd yielded (by simp [Ended.yielded stands])
  | firing | waking | deleting => exact stands.elim

/-- A coroutine that does not say so has no pending record. -/
theorem Steady.not_pending (steady : Steady s none) {coro : CoroPtr} {data : DataPtr}
    (current : (s.coro coro).timerData = some data)
    (running : (s.coro coro).yielded = false) : (s.data data).validate = false := by
  by_contra validate
  obtain ⟨_, _, times, lives⟩ := steady.pending data (by simpa using validate)
  rw [(steady.owner coro data current).1] at lives
  obtain ⟨phase, livesToo, stands⟩ := steady.stands coro (by simp)
  rw [lives] at livesToo
  cases livesToo
  exact absurd (Suspended.toDormant stands).yielded (by simp [running])

/-- The rule for every change: what holds of the target afterwards has to be shown,
the rest is kept. The target may be the coroutine that was exempt before, or become
the exempt one. -/
theorem Steady.touch (steady : Steady s exempt) (touches : Touches s s' target)
    (before : ∀ coro, exempt = some coro → target = some coro)
    (after : ∀ coro, exempt' = some coro → target = some coro)
    (stands : ∀ coro, target = some coro → exempt' ≠ some coro →
      ∃ phase, life coro s'.events = some phase ∧ Stands s' coro phase)
    (pending : ∀ data, (s'.data data).validate = true → target = some (s'.data data).timer →
      exempt' ≠ some (s'.data data).timer ∧
      (s'.coro (s'.data data).timer).timerData = some data ∧
      ∃ times, life (s'.data data).timer s'.events = some (.suspended times))
    (owner : ∀ coro data, target = some coro → (s'.coro coro).timerData = some data →
      (s'.data data).timer = coro ∧ data ≤ s'.maxTimerId)
    (linked : Linked s' s'.callStack) : Steady s' exempt' where
  stands coro notExempt := by
    by_cases isTarget : target = some coro
    · exact stands coro isTarget notExempt
    · have same := touches.undisturbed coro isTarget
      obtain ⟨phase, lives, standsBefore⟩ :=
        steady.stands coro fun exempted => isTarget (before coro exempted)
      exact ⟨phase, same.life.trans lives, standsBefore.unmoved same.toUnmoved⟩
  pending data validate := by
    by_cases isTarget : target = some (s'.data data).timer
    · exact pending data validate isTarget
    · have old : data ≤ s.maxTimerId := by
        by_contra new
        exact isTarget (touches.new data (Nat.lt_of_not_le new) validate)
      have validBefore : (s.data data).validate = true := by
        by_contra stale
        have staleAfter := touches.keeps.validate data old (Bool.eq_false_iff.mpr stale)
        rw [staleAfter] at validate
        cases validate
      rw [touches.timers data old] at isTarget ⊢
      have same := touches.undisturbed _ isTarget
      obtain ⟨_, current, times, lives⟩ := steady.pending data validBefore
      exact ⟨fun exempted => isTarget (after _ exempted),
        (same.field Coro.timerData fun _ => rfl).trans current, times, same.life.trans lives⟩
  owner coro data current := by
    by_cases isTarget : target = some coro
    · exact owner coro data isTarget current
    · have same := touches.undisturbed coro isTarget
      rw [same.field Coro.timerData fun _ => rfl] at current
      obtain ⟨timer, allocated⟩ := steady.owner coro data current
      exact ⟨(touches.timers data allocated).trans timer,
        Nat.le_trans allocated touches.keeps.allocated⟩
  linked := linked

end Steady

/-- The frames of the running coroutine at a resting state. -/
inductive Current (s : State) : List Frame → Prop where
  /-- User code runs. -/
  | user : Current s []
  /-- `co_resume` has come back. -/
  | resumed {coro : CoroPtr} {tail : List Frame} (holds : Tail s coro tail) :
      Current s (.resumeRet coro :: tail)
  /-- The scheduler's loop is at its head. -/
  | loop {now : Int} {rest : List Frame} (caller : UpdateRest rest) :
      Current s (.schedLoop now :: .updateRecycle :: rest)
  /-- `Update` is about to recycle. -/
  | recycle {rest : List Frame} (caller : UpdateRest rest) : Current s (.updateRecycle :: rest)
  /-- The loop of `Stop` is at its head. -/
  | stop {position : Option (Int × CoroPtr)} : Current s [.stopLoop position]

/-- The second map holds the coroutines whose history says that they have finished. -/
def WaitingAgrees (s : State) : Prop :=
  ∀ coroId coro, s.waitingForRecycleCoros.find coroId = some coro ↔
    (s.coro coro).coroId = coroId ∧ life coro s.events = some .finished

/-- The invariant at resting states. -/
structure Core (s : State) : Prop extends Steady s none where
  waiting : WaitingAgrees s
  noneDoomed : ∀ coro, life coro s.events ≠ some .doomed
  current : Current s (s.frames s.coSelf)

/-- Frames at whose head the invariant holds. -/
def Frame.resting : Frame → Bool
  | .resumeRet _ => true
  | .schedLoop _ => true
  | .updateRecycle => true
  | .stopLoop _ => true
  | _ => false

/-- User code runs, a loop is at its head or a `co_resume` has come back. -/
def Resting (s : State) : Prop := ∀ frame ∈ (s.frames s.coSelf).head?, frame.resting = true

end LibcoRpc.CoroMgr
