import LibcoRpc.CoroMgr.Change
import LibcoRpc.CoroMgr.Discipline
import LibcoRpc.Semantics.Simulation
import LibcoRpc.Timer.BinaryHeap

/-!
# The scheduler over its heap

The machine of the coroutine manager leaves open which of the earliest records the
scheduler finds at the root of its heap. Here the heap is `LLBC_BinaryHeap`, and nothing is
left open. Every step of the thread over the heap is a step of that machine, with the
record that is at the root (`scheduler_refines`).

The heap compares records through pointers, so it stays ordered only as long as no record in
it is given another due time. The scheduler gives one to a record that it puts back, which
it has taken out before: `Parted` says that a record is in the heap or with an `Update` that
waits for its timeout handler, never both.
-/

namespace LibcoRpc.Timer

open LibcoRpc.CoroMgr
open LibcoRpc.Std.Heap

/-- `std::less<LLBC_TimerData *>`. -/
def earlier (s : State) (left right : DataPtr) : Bool :=
  decide ((s.data left).handle < (s.data right).handle)

/-- The thread with the heap of its scheduler; `heap` of `core` is not used. -/
structure Thread where
  core : State
  heap : BinaryHeap DataPtr

inductive ThreadFault where
  | core (fault : Fault)
  /-- The heap reads or writes outside its vector. -/
  | outside
deriving DecidableEq, Repr

inductive ThreadLabel where
  | user (op : Op)
  /-- `now` is `LLBC_GetMilliSeconds()`. -/
  | work (now : Int)
deriving DecidableEq, Repr

/-- The frames of scheduler code that uses the heap. -/
def usesHeap : Frame → Bool
  | .schedCancelRet _ _ => true
  | .timerSchedule _ _ => true
  | .schedUpdate => true
  | .schedLoop _ => true
  | .schedUpdateRet _ _ => true
  | _ => false

/-- `data->cancelling = false`; from here on `Cancel` returns `LLBC_OK`. -/
def uncancelled (s : State) (data : DataPtr) : State :=
  (s.setData data { s.data data with cancelling := false }).returns llbcOk

/-- `LLBC_TimerScheduler::Schedule` up to `_heap.Insert(data)`. -/
def newTimerData (s : State) (coro : CoroPtr) (dueTime now : Int) : State :=
  let data := s.maxTimerId + 1
  let record : TimerData :=
    { handle := now + dueTime, dueTime := dueTime, period := dueTime, repeatTimes := 0,
      timer := coro, validate := true, cancelling := false, timeouting := false,
      refCount := 2, armedFor := (s.coro coro).yieldTimes }
  let s := { s with maxTimerId := data }
  let s := match (s.coro coro).timerData with
    | none => s
    | some old => s.release old
  let s := s.setData data record
  s.setCoro coro { s.coro coro with timerData := some data }

namespace Thread

/-- `LLBC_TimerScheduler::Cancel` after `timer->OnCancel()`. -/
def schedCancelRet (t : Thread) (self : Co) (rest : List Frame) (coro : CoroPtr)
    (data : DataPtr) (now : Int) : Except ThreadFault Thread :=
  if (t.core.data data).refCount = 0 then .error (.core .danglingTimerData)
  else
    let s := uncancelled t.core data
    if (s.data data).timeouting then .ok { t with core := s.goto self rest }
    else if (s.data data).handle - now ≥ longTimeoutTime then
      match t.heap.deleteElem (earlier s) data with
      | none => .error .outside
      | some (heap, delElemRet) =>
          if delElemRet ≠ llbcOk then .error (.core .assertFailed)
          else
            let s := s.release data
            if (s.data data).refCount = 0 then
              .ok ⟨(s.setCoro coro { s.coro coro with timerData := none }).goto self rest, heap⟩
            else .ok ⟨s.goto self rest, heap⟩
    else .ok { t with core := s.goto self rest }

/-- `LLBC_Timer::Schedule` after its `Cancel()`, and `LLBC_TimerScheduler::Schedule`. -/
def timerSchedule (t : Thread) (self : Co) (rest : List Frame) (coro : CoroPtr)
    (dueTime : Int) (now : Int) : Except ThreadFault Thread :=
  if t.core.ret ≠ llbcOk then .ok { t with core := t.core.goto self rest }
  else
    let data := t.core.maxTimerId + 1
    let s := newTimerData t.core coro dueTime now
    match t.heap.insert (earlier s) data with
    | none => .error .outside
    | some heap => .ok ⟨(s.returns llbcOk).goto self rest, heap⟩

/-- `LLBC_TimerScheduler::Update` up to its loop. -/
def schedUpdate (t : Thread) (self : Co) (rest : List Frame) (now : Int) : Thread :=
  if t.heap.isEmpty then { t with core := t.core.goto self rest }
  else { t with core := t.core.goto self (.schedLoop now :: rest) }

/-- The loop of `LLBC_TimerScheduler::Update` from its head to `timer->OnTimeout()`. -/
def schedLoop (t : Thread) (self : Co) (rest : List Frame) (now : Int) :
    Except ThreadFault Thread :=
  match t.heap.findTop with
  | none => .error .outside
  | some none => .ok { t with core := t.core.goto self rest }
  | some (some data) =>
      let s := t.core
      if now < (s.data data).handle then .ok { t with core := s.goto self rest }
      else
        match t.heap.deleteTop (earlier s) with
        | none => .error .outside
        | some (heap, _) =>
            if !(s.data data).validate then
              .ok ⟨(s.release data).goto self (.schedLoop now :: rest), heap⟩
            else
              let record := s.data data
              let s := s.setData data
                { record with timeouting := true, repeatTimes := record.repeatTimes + 1 }
              let s := s.record (.fired record.timer record.armedFor)
              .ok ⟨s.goto self (.onCoroTimeout record.timer :: .schedUpdateRet now data :: rest),
                heap⟩

/-- The rest of the loop body after `timer->OnTimeout()`. -/
def schedUpdateRet (t : Thread) (self : Co) (rest : List Frame) (now : Int) (data : DataPtr) :
    Except ThreadFault Thread :=
  let s := t.core
  let record := { s.data data with timeouting := false }
  if record.validate then
    let delay := if record.period ≠ 0 then (now - record.handle).tmod record.period else 0
    let s := s.setData data { record with handle := now + record.period - delay }
    match t.heap.insert (earlier s) data with
    | none => .error .outside
    | some heap => .ok ⟨s.goto self (.schedLoop now :: rest), heap⟩
  else
    .ok { t with core := ((s.setData data record).release data).goto self (.schedLoop now :: rest) }

/-- Code that does not use the heap. -/
def plainly (t : Thread) (result : Except Fault State) : Except ThreadFault Thread :=
  match result with
  | .error fault => .error (.core fault)
  | .ok s => .ok { t with core := s }

def runFrame (t : Thread) (now : Int) (self : Co) (rest : List Frame) :
    Frame → Except ThreadFault Thread
  | .schedCancelRet coro data => t.schedCancelRet self rest coro data now
  | .timerSchedule coro dueTime => t.timerSchedule self rest coro dueTime now
  | .schedUpdate => .ok (t.schedUpdate self rest now)
  | .schedLoop started => t.schedLoop self rest started
  | .schedUpdateRet started data => t.schedUpdateRet self rest started data
  | frame => t.plainly (t.core.runFrame ⟨now, 0⟩ self rest frame)

def step (t : Thread) : ThreadLabel → Except ThreadFault Thread
  | .user op => t.plainly (t.core.step (.user op))
  | .work now =>
      match t.core.frames t.core.coSelf with
      | [] => .error (.core .blocked)
      | frame :: rest => t.runFrame now t.core.coSelf rest frame

/-- `LLBC_TimerScheduler::LLBC_TimerScheduler()`, whose heap has the default capacity. -/
def init (env : Bool) : Thread := ⟨State.init env, .new 256⟩

end Thread

/-- The thread as a machine. -/
def thread : Machine Thread ThreadLabel ThreadFault where
  step := Thread.step

/-! ## Code that does not use the heap -/

section

variable {s s' : State} {frame : Frame} {rest : List Frame} {label : Label}

/-- The state with another heap. -/
def withHeap (s : State) (heap : List DataPtr) : State := { s with heap := heap }

/-- The code that runs next does not use the heap. -/
def Plain (s : State) : Prop :=
  ∀ frame rest, s.frames s.coSelf = frame :: rest → usesHeap frame = false

theorem coYield_withHeap (s : State) (heap : List DataPtr) :
    (withHeap s heap).coYield = s.coYield.map (withHeap · heap) := by
  simp only [State.coYield, withHeap]
  split <;> simp_all [Except.map]

theorem coroYield_withHeap (s : State) (heap : List DataPtr) (self : Co) (coro : CoroPtr)
    (timeout : Int) :
    (withHeap s heap).coroYield self coro timeout =
      (s.coroYield self coro timeout).map (withHeap · heap) := by
  have current : (withHeap s heap).getCurCoro = s.getCurCoro := rfl
  simp only [State.coroYield, current]
  cases s.getCurCoro with
  | error fault => simp only [apply_ite (Except.map (withHeap · heap))]; rfl
  | ok found =>
      cases found with
      | none => simp only [apply_ite (Except.map (withHeap · heap))]; rfl
      | some other => simp only [apply_ite (Except.map (withHeap · heap))]; rfl

theorem runFrame_withHeap (plain : usesHeap frame = false) (heap : List DataPtr)
    (choice choice' : Choice) (self : Co) :
    (withHeap s heap).runFrame choice self rest frame =
      (s.runFrame choice' self rest frame).map (withHeap · heap) := by
  cases frame with
  | schedCancelRet | timerSchedule | schedUpdate | schedLoop | schedUpdateRet => cases plain
  | resume =>
      simp only [State.runFrame, State.resume, Except.map, apply_ite (withHeap · heap)]
      rfl
  | coResume =>
      simp only [State.runFrame, State.coResume, apply_ite (Except.map (withHeap · heap))]
      rfl
  | resumeRet | cancelRet | stopReset => rfl
  | timerCancel coro =>
      have same : ((withHeap s heap).coro coro).timerData = (s.coro coro).timerData := rfl
      simp only [State.runFrame, State.timerCancel, same]
      cases (s.coro coro).timerData with
      | none => rfl
      | some data =>
          simp only [Except.map, apply_ite (withHeap · heap)]
          rfl
  | onCoroCancel =>
      simp only [State.runFrame, State.onCoroCancel, Except.map, apply_ite (withHeap · heap)]
      rfl
  | cancel =>
      simp only [State.runFrame, State.cancel, Except.map, apply_ite (withHeap · heap)]
      rfl
  | yieldSuspend coro =>
      simp only [State.runFrame, State.yieldSuspend, ← coYield_withHeap]
      rfl
  | yieldRet =>
      simp only [State.runFrame, State.yieldRet, apply_ite (Except.map (withHeap · heap))]
      rfl
  | onCoroTimeout =>
      simp only [State.runFrame, State.onCoroTimeout, apply_ite (Except.map (withHeap · heap))]
      rfl
  | updateRecycle =>
      simp only [State.runFrame, State.updateRecycle, Except.map, apply_ite (withHeap · heap)]
      rfl
  | recycle pending =>
      cases pending with
      | nil => rfl
      | cons coro pending =>
          simp only [State.runFrame, State.recycle, Except.map, apply_ite (withHeap · heap)]
          rfl
  | destroy coro =>
      simp only [State.runFrame, State.destroy, withHeap]
      cases (s.coro coro).timerData <;> rfl
  | destroyTimer coro =>
      simp only [State.runFrame, State.destroyTimer, withHeap]
      cases (s.coro coro).timerData <;> rfl
  | stopLoop position =>
      cases position with
      | none => rfl
      | some entry =>
          simp only [State.runFrame, State.stopLoop, apply_ite (Except.map (withHeap · heap))]
          rfl

theorem userStep_withHeap (heap : List DataPtr) (self : Co) (op : Op) :
    (withHeap s heap).userStep self op = (s.userStep self op).map (withHeap · heap) := by
  have current : (withHeap s heap).getCurCoro = s.getCurCoro := rfl
  cases op with
  | start =>
      simp only [State.userStep, State.start, apply_ite (Except.map (withHeap · heap))]
      rfl
  | createCoro | update | stop => rfl
  | setEntry | setArgs =>
      simp only [State.userStep, State.setEntry, State.setArgs,
        apply_ite (Except.map (withHeap · heap))]
      simp only [Except.map, apply_ite (withHeap · heap)]
      rfl
  | setPtrParam1 | coroResume | coroCancel =>
      simp only [State.userStep, apply_ite (Except.map (withHeap · heap))]
      rfl
  | coroYield coro timeout =>
      simp only [State.userStep, coroYield_withHeap, apply_ite (Except.map (withHeap · heap))]
      rfl
  | yield timeout =>
      simp only [State.userStep, current]
      cases s.getCurCoro with
      | error fault => rfl
      | ok found =>
          cases found with
          | none => rfl
          | some coro => exact coroYield_withHeap s heap self coro timeout
  | resume coroId | cancel coroId =>
      simp only [State.userStep, State.withCoro]
      have same : (withHeap s heap).getCoro coroId = s.getCoro coroId := rfl
      rw [same]
      cases s.getCoro coroId <;> rfl
  | entryReturn =>
      have same : (withHeap s heap).coSelf = s.coSelf := rfl
      simp only [State.userStep, State.entryReturn, same]
      cases s.coSelf with
      | main => rfl
      | co coro =>
          have mask : (withHeap s heap).maskWillRecycle coro =
              withHeap (s.maskWillRecycle coro) heap := by
            simp only [State.maskWillRecycle, apply_ite (withHeap · heap)]
            rfl
          simp only [mask, ← coYield_withHeap]
          rfl

theorem step_withHeap (plain : Plain s) (heap : List DataPtr) (choice choice' : Choice) :
    (withHeap s heap).step (.work choice) = (s.step (.work choice')).map (withHeap · heap) := by
  have frames : (withHeap s heap).frames (withHeap s heap).coSelf = s.frames s.coSelf := rfl
  simp only [State.step, frames]
  cases at_ : s.frames s.coSelf with
  | nil => rfl
  | cons frame rest => exact runFrame_withHeap (plain frame rest at_) heap choice choice' s.coSelf

theorem user_withHeap (heap : List DataPtr) (op : Op) :
    (withHeap s heap).step (.user op) = (s.step (.user op)).map (withHeap · heap) := by
  have frames : (withHeap s heap).frames (withHeap s heap).coSelf = s.frames s.coSelf := rfl
  simp only [State.step, frames]
  cases s.frames s.coSelf with
  | nil => exact userStep_withHeap heap s.coSelf op
  | cons => rfl

end

/-! ## Records in the heap and records being handled -/

/-- The record whose timeout handler a frame waits for. -/
def updatingOf : Frame → Option DataPtr
  | .schedUpdateRet _ data => some data
  | _ => none

def updating (frames : List Frame) : List DataPtr := frames.filterMap updatingOf

/-- A record is in the heap, or one `Update` waits for its handler, and not both. -/
structure Parted (s : State) : Prop where
  nodup : s.heap.Nodup
  known : ∀ data ∈ s.heap, data ≤ s.maxTimerId
  once : ∀ co, (updating (s.frames co)).Nodup
  apart : ∀ co co' data, data ∈ updating (s.frames co) → data ∈ updating (s.frames co') →
    co = co'
  out : ∀ co data, data ∈ updating (s.frames co) → data ∉ s.heap ∧ data ≤ s.maxTimerId

section

variable {s s' : State} {frame : Frame} {rest : List Frame} {label : Label} {data : DataPtr}

theorem updating_nil_of_mild {frames : List Frame} (mild : Mild frames) : updating frames = [] := by
  rw [updating, List.filterMap_eq_nil_iff]
  intro frame member
  cases frame with
  | schedUpdateRet now data => exact absurd member (mild.unfired now data)
  | _ => rfl

/-- Code that does not use the heap makes no record and moves none. -/
theorem plain_of_change (change : Change s s') (plain : Plain s) :
    s'.maxTimerId = s.maxTimerId ∧ (∀ data, (s'.data data).handle = (s.data data).handle) ∧
      updating (s'.frames s.coSelf) = updating (s.frames s.coSelf) := by
  cases change with
  | calm calm onward =>
      refine ⟨calm.timers, fun data => (calm.records data).handle, ?_⟩
      cases onward with
      | asked userRuns mild => rw [updating_nil_of_mild mild, userRuns]; rfl
      | asksResume userRuns _ next => rw [next, userRuns]; rfl
      | @on frame rest pushed at_ next mild =>
          have notUpdating : updatingOf frame = none := by
            have uses := plain frame rest at_
            cases frame <;> first | rfl | cases uses
          rw [next, at_, updating, List.filterMap_append, ← updating, updating_nil_of_mild mild,
            List.nil_append, updating, List.filterMap_cons_none notUpdating]
      | cancels at_ _ next => rw [next, at_]; rfl
  | resumed at_ _ _ _ _ records timers _ next =>
      refine ⟨timers, fun data => by rw [records], ?_⟩
      rw [next, at_]
      split <;> rfl
  | switched at_ _ _ _ _ records timers _ frames =>
      exact ⟨timers, fun data => by rw [records], by rw [frames, Function.update_self, at_]; rfl⟩
  | yields userRuns _ _ _ _ _ _ records timers _ next =>
      exact ⟨timers, fun data => by rw [records], by rw [next, userRuns]; rfl⟩
  | arms at_ => cases plain _ _ at_
  | suspends at_ _ _ _ _ records timers _ frames =>
      exact ⟨timers, fun data => by rw [records], by rw [frames, Function.update_self, at_]; rfl⟩
  | fires at_ => cases plain _ _ at_
  | rearms at_ => cases plain _ _ at_
  | makes _ _ _ _ _ _ records timers _ frames =>
      exact ⟨timers, fun data => by rw [records], by rw [frames]⟩
  | finishes _ _ _ _ _ records timers _ frames =>
      exact ⟨timers, fun data => by rw [records], by rw [frames]⟩

/-- In one coroutine's view, no record is in two places. -/
theorem Parted.nodup_append (parted : Parted s) (co : Co) :
    (s.heap ++ updating (s.frames co)).Nodup :=
  List.nodup_append.mpr ⟨parted.nodup, parted.once co,
    fun _ inHeap _ waits same => (parted.out co _ waits).1 (same ▸ inHeap)⟩

/-- The running coroutine may move records between the heap and its own calls, drop them, and
add new ones. -/
theorem Parted.moved (parted : Parted s) (self : Co) (timers : s.maxTimerId ≤ s'.maxTimerId)
    (frames : ∀ co, co ≠ self → s'.frames co = s.frames co)
    (nodup : (s'.heap ++ updating (s'.frames self)).Nodup)
    (old : ∀ data ∈ s'.heap ++ updating (s'.frames self),
      data ∈ s.heap ++ updating (s.frames self) ∨ s.maxTimerId < data ∧ data ≤ s'.maxTimerId) :
    Parted s' := by
  -- What the running coroutine has is not with another one.
  have mine : ∀ data ∈ s'.heap ++ updating (s'.frames self), ∀ co, co ≠ self →
      data ∉ updating (s.frames co) := by
    intro data member co other waits
    rcases old data member with before | ⟨new, _⟩
    · rcases List.mem_append.mp before with inHeap | own
      · exact (parted.out co data waits).1 inHeap
      · exact other (parted.apart co self data waits own)
    · exact Nat.not_le_of_lt new (parted.out co data waits).2
  have bounded : ∀ data ∈ s'.heap ++ updating (s'.frames self), data ≤ s'.maxTimerId := by
    intro data member
    rcases old data member with before | ⟨_, known⟩
    · rcases List.mem_append.mp before with inHeap | own
      · exact Nat.le_trans (parted.known data inHeap) timers
      · exact Nat.le_trans (parted.out self data own).2 timers
    · exact known
  obtain ⟨heapNodup, ownNodup, disjoint⟩ := List.nodup_append.mp nodup
  refine ⟨heapNodup, fun data inHeap => bounded data (List.mem_append_left _ inHeap), ?_, ?_, ?_⟩
  · intro co
    by_cases isSelf : co = self
    · exact isSelf ▸ ownNodup
    · rw [frames co isSelf]
      exact parted.once co
  · intro co co' data waits waits'
    by_cases isSelf : co = self
    · subst isSelf
      by_cases same : co' = co
      · exact same.symm
      · rw [frames co' same] at waits'
        exact absurd waits' (mine data (List.mem_append_right _ waits) co' same)
    · rw [frames co isSelf] at waits
      by_cases isSelf' : co' = self
      · subst isSelf'
        exact absurd waits (mine data (List.mem_append_right _ waits') co isSelf)
      · rw [frames co' isSelf'] at waits'
        exact parted.apart co co' data waits waits'
  · intro co data waits
    by_cases isSelf : co = self
    · subst isSelf
      exact ⟨fun inHeap => disjoint data inHeap data waits rfl,
        bounded data (List.mem_append_right _ waits)⟩
    · rw [frames co isSelf] at waits
      exact ⟨fun inHeap => mine data (List.mem_append_left _ inHeap) co isSelf waits,
        Nat.le_trans (parted.out co data waits).2 timers⟩

end

/-! ## The thread and the machine of the manager -/

/-- The heap of the thread holds the records that the machine says. -/
structure Represents (t : Thread) (s : State) : Prop where
  core : t.core = withHeap s []
  valid : t.heap.Valid (earlier s)
  members : t.heap.members = ↑s.heap
  parted : Parted s

/-- The record at the root of the heap. -/
def Thread.root (t : Thread) : DataPtr :=
  match t.heap.findTop with
  | some (some data) => data
  | _ => 0

/-- The step of the machine that a step of the thread is. -/
def Thread.labelOf (t : Thread) : ThreadLabel → Label
  | .user op => .user op
  | .work now => .work ⟨now, t.root⟩

/-- The thread faults as the machine does. -/
def SameFault (threadFault : ThreadFault) (fault : Fault) : Prop := threadFault = .core fault

section

variable {s s' : State} {t : Thread} {frame : Frame} {rest : List Frame} {data : DataPtr}

theorem earlier_ranks (s : State) : Ranks (earlier s · ·) :=
  ranks_of_key fun data => (s.data data).handle

theorem earlier_congr (same : ∀ data, (s'.data data).handle = (s.data data).handle) :
    earlier s' = earlier s := by
  funext left right
  simp only [earlier, same]

theorem heap_of_plain (plain : Plain s) {label : Label} (taken : s.step label = .ok s') :
    s'.heap = s.heap := by
  have same : s.step label = (s.step label).map (withHeap · s.heap) := by
    cases label with
    | user op => exact user_withHeap s.heap op
    | work choice => exact step_withHeap plain s.heap choice choice
  rw [taken] at same
  have unchanged : s' = withHeap s' s.heap := Except.ok.inj same
  rw [unchanged]
  rfl

theorem Parted.plainly (parted : Parted s) (plain : Plain s) {label : Label}
    (taken : s.step label = .ok s') : Parted s' := by
  obtain ⟨timers, _, own⟩ := plain_of_change (step_change taken) plain
  have heap := heap_of_plain plain taken
  refine parted.moved s.coSelf (Nat.le_of_eq timers.symm) (fun co => step_frames taken) ?_ ?_
  · rw [heap, own]
    exact parted.nodup_append s.coSelf
  · rw [heap, own]
    exact fun data member => .inl member

/-- Code that does not use the heap does the same in both. -/
theorem Represents.plainly (represents : Represents t s) (plain : Plain s) {label label' : Label}
    (commutes : t.core.step label' = (s.step label).map (withHeap · [])) :
    Agrees Represents SameFault (t.plainly (t.core.step label')) (s.step label) := by
  rw [commutes]
  cases taken : s.step label with
  | error fault => exact .error rfl
  | ok s' =>
      obtain ⟨_, handles, _⟩ := plain_of_change (step_change taken) plain
      refine .ok ⟨rfl, ?_, ?_, represents.parted.plainly plain taken⟩
      · rw [earlier_congr handles]
        exact represents.valid
      · rw [heap_of_plain plain taken]
        exact represents.members

/-! ### Code that uses the heap -/

variable {heap : BinaryHeap DataPtr} {coro : CoroPtr} {now : Int}

/-- The heap stays in order as long as its records keep their due times. -/
theorem valid_kept (valid : heap.Valid (earlier s))
    (handles : ∀ data ∈ heap.members, (s'.data data).handle = (s.data data).handle) :
    heap.Valid (earlier s') := by
  refine valid.congr fun left leftIn right rightIn before => ?_
  rwa [earlier, handles left leftIn, handles right rightIn] at before

theorem valid_of_update (valid : heap.Valid (earlier s)) {target : DataPtr} {record : TimerData}
    (written : s'.data = Function.update s.data target record)
    (same : record.handle = (s.data target).handle) : heap.Valid (earlier s') := by
  refine valid_kept valid fun data _ => ?_
  by_cases isTarget : data = target
  · rw [written, isTarget, Function.update_self, same]
  · rw [written, Function.update_of_ne isTarget]

/-- A step that changes neither the heap nor the records that `Update`s wait for. -/
theorem Represents.idle (represents : Represents ⟨withHeap s [], heap⟩ s)
    (sameHeap : s'.heap = s.heap) (timers : s'.maxTimerId = s.maxTimerId)
    (handles : ∀ data, (s'.data data).handle = (s.data data).handle)
    (frames : ∀ co, co ≠ s.coSelf → s'.frames co = s.frames co)
    (own : updating (s'.frames s.coSelf) = updating (s.frames s.coSelf)) :
    Represents ⟨withHeap s' [], heap⟩ s' where
  core := rfl
  valid := earlier_congr handles ▸ represents.valid
  members := sameHeap ▸ represents.members
  parted := by
    refine represents.parted.moved s.coSelf (Nat.le_of_eq timers.symm) frames ?_ ?_
    · rw [sameHeap, own]
      exact represents.parted.nodup_append s.coSelf
    · rw [sameHeap, own]
      exact fun data member => .inl member

/-- The code goes on without using the heap. -/
theorem Represents.goto (represents : Represents ⟨withHeap s [], heap⟩ s) {frames : List Frame}
    (own : updating frames = updating (s.frames s.coSelf)) :
    Represents ⟨withHeap (s.goto s.coSelf frames) [], heap⟩ (s.goto s.coSelf frames) := by
  refine represents.idle rfl rfl (fun _ => rfl) (fun co other => Function.update_of_ne other ..) ?_
  rw [goto_frames, own]

theorem agrees_schedUpdate (represents : Represents ⟨withHeap s [], heap⟩ s)
    (at_ : s.frames s.coSelf = .schedUpdate :: rest) :
    Represents (Thread.schedUpdate ⟨withHeap s [], heap⟩ s.coSelf rest now)
      (s.schedUpdate s.coSelf rest now) := by
  have empty : heap.isEmpty = s.heap.isEmpty := by
    rw [Bool.eq_iff_iff, BinaryHeap.isEmpty_iff, List.isEmpty_iff, represents.members,
      Multiset.coe_eq_zero]
  simp only [Thread.schedUpdate, State.schedUpdate, empty]
  split
  · exact represents.goto (by rw [at_]; rfl)
  · exact represents.goto (by rw [at_]; rfl)

/-- The record at the root may be the one that the machine is told. -/
theorem Represents.isTop (represents : Represents ⟨withHeap s [], heap⟩ s)
    (found : heap.findTop = some (some data)) : s.isTop data = true ∧ data ∈ s.heap := by
  have nonempty : heap.members ≠ 0 := by
    intro empty
    rw [BinaryHeap.findTop_of_empty empty] at found
    cases found
  obtain ⟨top, isTop, member, least⟩ :=
    BinaryHeap.findTop_of_nonempty (earlier_ranks s) represents.valid nonempty
  obtain rfl : top = data := Option.some.inj (Option.some.inj (isTop.symm.trans found))
  rw [represents.members] at member least
  have inHeap : top ∈ s.heap := Multiset.mem_coe.mp member
  refine ⟨?_, inHeap⟩
  rw [State.isTop, Bool.and_eq_true, List.contains_iff_mem, List.all_eq_true]
  refine ⟨inHeap, fun other otherIn => ?_⟩
  have notEarlier := least other (Multiset.mem_coe.mpr otherIn)
  simpa [earlier] using notEarlier

/-- Taking the root out of the heap. -/
theorem Represents.deleteTop (represents : Represents ⟨withHeap s [], heap⟩ s)
    (small : heap.size < 2 ^ 30) (found : heap.findTop = some (some data)) :
    ∃ heap', heap.deleteTop (earlier s) = some (heap', llbcOk) ∧ heap'.Valid (earlier s) ∧
      heap'.members = ↑(s.heap.erase data) := by
  obtain ⟨heap', deleted, valid, members⟩ :=
    BinaryHeap.deleteTop_valid (earlier_ranks s) represents.valid small found
  refine ⟨heap', deleted, valid, ?_⟩
  rw [← Multiset.coe_erase, ← represents.members]
  show heap'.members = heap.members.erase data
  rw [members, Multiset.erase_cons_head]

theorem agrees_schedLoop (represents : Represents ⟨withHeap s [], heap⟩ s)
    (small : heap.size < 2 ^ 30) (at_ : s.frames s.coSelf = .schedLoop now :: rest) :
    Agrees Represents SameFault (Thread.schedLoop ⟨withHeap s [], heap⟩ s.coSelf rest now)
      (s.schedLoop s.coSelf rest now (Thread.root ⟨withHeap s [], heap⟩)) := by
  have leaves : Represents ⟨withHeap (s.goto s.coSelf rest) [], heap⟩ (s.goto s.coSelf rest) :=
    represents.goto (by rw [at_]; rfl)
  by_cases empty : s.heap = []
  · have none : heap.findTop = some none := by
      apply BinaryHeap.findTop_of_empty
      rw [represents.members, empty]
      rfl
    simp only [Thread.schedLoop, none, State.schedLoop, empty, List.isEmpty_nil, if_true]
    exact .ok leaves
  · have nonempty : heap.members ≠ 0 := by
      rw [represents.members]
      exact fun zero => empty ((Multiset.coe_eq_zero _).mp zero)
    obtain ⟨top, found, _, _⟩ :=
      BinaryHeap.findTop_of_nonempty (earlier_ranks s) represents.valid nonempty
    obtain ⟨isTop, inHeap⟩ := represents.isTop found
    have isRoot : Thread.root ⟨withHeap s [], heap⟩ = top := by
      simp only [Thread.root, found]
    have notEmpty : s.heap.isEmpty = false := by simpa using empty
    have records : (withHeap s []).data = s.data := rfl
    have compares : earlier (withHeap s []) = earlier s := rfl
    simp only [Thread.schedLoop, found, State.schedLoop, notEmpty, isRoot, isTop, records, compares,
      Bool.not_true, Bool.false_eq_true, if_false]
    split
    next => exact .ok leaves
    next due =>
      obtain ⟨heap', deleted, valid, members⟩ := represents.deleteTop small found
      have own : updating (s.frames s.coSelf) = updating rest := by rw [at_]; rfl
      have nodup := own ▸ represents.parted.nodup_append s.coSelf
      simp only [deleted]
      split
      next =>
        -- The record has been cancelled and is dropped.
        have shorter : (s.heap.erase top ++ updating rest).Sublist (s.heap ++ updating rest) :=
          List.erase_sublist.append_right _
        refine .ok ⟨rfl, valid_of_update valid rfl rfl, members, represents.parted.moved s.coSelf
          (Nat.le_refl _) (fun co other => Function.update_of_ne other ..) ?_ ?_⟩
        · rw [goto_frames]
          exact nodup.sublist shorter
        · rw [goto_frames, own]
          exact fun data member => .inl (shorter.subset member)
      next =>
        -- The record is handed to its timeout handler.
        have same : (s.heap.erase top ++ top :: updating rest).Perm (s.heap ++ updating rest) :=
          List.perm_middle.trans ((List.perm_cons_erase inHeap).symm.append_right _)
        refine .ok ⟨rfl, valid_of_update valid rfl rfl, members, represents.parted.moved s.coSelf
          (Nat.le_refl _) (fun co other => Function.update_of_ne other ..) ?_ ?_⟩
        · rw [goto_frames]
          exact same.symm.nodup nodup
        · rw [goto_frames, own]
          exact fun data member => .inl (same.subset member)

/-- Putting a record into the heap. -/
theorem Represents.insert (represents : Represents ⟨withHeap s [], heap⟩ s)
    (handles : ∀ other ∈ s.heap, (s'.data other).handle = (s.data other).handle)
    (data : DataPtr) :
    ∃ heap', heap.insert (earlier s') data = some heap' ∧ heap'.Valid (earlier s') ∧
      heap'.members = ↑(data :: s.heap) := by
  have members : heap.members = ↑s.heap := represents.members
  have valid : heap.Valid (earlier s') := valid_kept represents.valid fun other member =>
    handles other (Multiset.mem_coe.mp (members ▸ member))
  obtain ⟨heap', inserted, valid', members'⟩ :=
    BinaryHeap.insert_valid (earlier_ranks s') valid data
  exact ⟨heap', inserted, valid', by rw [members', members, Multiset.cons_coe]⟩

theorem agrees_schedUpdateRet (represents : Represents ⟨withHeap s [], heap⟩ s)
    (at_ : s.frames s.coSelf = .schedUpdateRet now data :: rest) :
    Agrees Represents SameFault
      (Thread.schedUpdateRet ⟨withHeap s [], heap⟩ s.coSelf rest now data)
      (.ok (s.schedUpdateRet s.coSelf rest now data)) := by
  have own : updating (s.frames s.coSelf) = data :: updating rest := by rw [at_]; rfl
  have nodup := own ▸ represents.parted.nodup_append s.coSelf
  have absent : data ∉ s.heap := (represents.parted.out s.coSelf data (own ▸ List.mem_cons_self)).1
  have records : (withHeap s []).data = s.data := rfl
  simp only [Thread.schedUpdateRet, State.schedUpdateRet, records]
  split
  next =>
    -- The record goes back into the heap, with its next due time.
    have others : ∀ record, ∀ other ∈ s.heap,
        (((withHeap s []).setData data record).data other).handle = (s.data other).handle := by
      intro record other inHeap
      have different : other ≠ data := fun same => absent (same ▸ inHeap)
      simp only [State.setData, withHeap, Function.update_of_ne different]
    obtain ⟨heap', inserted, valid, members⟩ := represents.insert (others _) data
    rw [inserted]
    have same : (data :: s.heap ++ updating rest).Perm (s.heap ++ data :: updating rest) :=
      List.perm_middle.symm
    refine .ok ⟨rfl, valid, members, represents.parted.moved s.coSelf (Nat.le_refl _)
      (fun co other => Function.update_of_ne other ..) ?_ ?_⟩
    · rw [goto_frames]
      exact same.symm.nodup nodup
    · rw [goto_frames, own]
      exact fun other member => .inl (same.subset member)
  next =>
    have shorter : (s.heap ++ updating rest).Sublist (s.heap ++ data :: updating rest) :=
      (List.sublist_cons_self ..).append_left _
    refine .ok ⟨rfl, ?_, represents.members, represents.parted.moved s.coSelf (Nat.le_refl _)
      (fun co other => Function.update_of_ne other ..) ?_ ?_⟩
    · have cleared :
          heap.Valid (earlier (s.setData data { s.data data with timeouting := false })) :=
        valid_of_update represents.valid rfl rfl
      exact valid_of_update cleared rfl rfl
    · rw [goto_frames]
      exact nodup.sublist shorter
    · rw [goto_frames, own]
      exact fun other member => .inl (shorter.subset member)

theorem timerSchedule_eq (s : State) (self : Co) (rest : List Frame) (coro : CoroPtr)
    (dueTime now : Int) :
    s.timerSchedule self rest coro dueTime now =
      if s.ret ≠ llbcOk then s.goto self rest
      else
        ((withHeap (newTimerData s coro dueTime now) ((s.maxTimerId + 1) :: s.heap)).returns
          llbcOk).goto self rest := by
  simp only [State.timerSchedule, newTimerData]
  cases (s.coro coro).timerData <;> rfl

theorem newTimerData_withHeap (s : State) (heap : List DataPtr) (coro : CoroPtr)
    (dueTime now : Int) :
    newTimerData (withHeap s heap) coro dueTime now =
      withHeap (newTimerData s coro dueTime now) heap := by
  have same : ((withHeap s heap).coro coro).timerData = (s.coro coro).timerData := rfl
  simp only [newTimerData, same]
  cases (s.coro coro).timerData <;> rfl

/-- `Schedule` writes a new record, and drops a reference to the one before. -/
theorem newTimerData_writes (s : State) (coro : CoroPtr) (dueTime now : Int) :
    (newTimerData s coro dueTime now).maxTimerId = s.maxTimerId + 1 ∧
      (newTimerData s coro dueTime now).frames = s.frames ∧
      ((newTimerData s coro dueTime now).data (s.maxTimerId + 1)).handle = now + dueTime ∧
      ∀ data, data ≠ s.maxTimerId + 1 →
        ((newTimerData s coro dueTime now).data data).handle = (s.data data).handle := by
  simp only [newTimerData]
  cases (s.coro coro).timerData with
  | none =>
      refine ⟨rfl, rfl, ?_, fun data different => ?_⟩
      · simp only [State.setCoro, State.setData, Function.update_self]
      · simp only [State.setCoro, State.setData, Function.update_of_ne different]
  | some old =>
      refine ⟨rfl, rfl, by simp only [State.setCoro, State.setData, Function.update_self],
        fun data different => ?_⟩
      simp only [State.setCoro, State.setData, State.release, Function.update_of_ne different]
      by_cases isOld : data = old
      · rw [isOld, Function.update_self]
      · rw [Function.update_of_ne isOld]

theorem agrees_timerSchedule (represents : Represents ⟨withHeap s [], heap⟩ s) {dueTime : Int}
    (at_ : s.frames s.coSelf = .timerSchedule coro dueTime :: rest) :
    Agrees Represents SameFault
      (Thread.timerSchedule ⟨withHeap s [], heap⟩ s.coSelf rest coro dueTime now)
      (.ok (s.timerSchedule s.coSelf rest coro dueTime now)) := by
  have own : updating (s.frames s.coSelf) = updating rest := by rw [at_]; rfl
  have nodup := own ▸ represents.parted.nodup_append s.coSelf
  have fresh : s.maxTimerId + 1 ∉ s.heap ++ updating rest := by
    intro member
    rcases List.mem_append.mp member with inHeap | waits
    · exact Nat.not_succ_le_self _ (represents.parted.known _ inHeap)
    · exact Nat.not_succ_le_self _ (represents.parted.out s.coSelf _ (own ▸ waits)).2
  have ret : (withHeap s []).ret = s.ret := rfl
  have next : (withHeap s []).maxTimerId = s.maxTimerId := rfl
  simp only [Thread.timerSchedule, timerSchedule_eq, newTimerData_withHeap, ret, next]
  split
  next => exact .ok (represents.goto own.symm)
  next =>
    obtain ⟨timers, frames, _, others⟩ := newTimerData_writes s coro dueTime now
    generalize newTimerData s coro dueTime now = made at timers frames others ⊢
    have kept : ∀ other ∈ s.heap,
        ((withHeap made []).data other).handle = (s.data other).handle := fun other inHeap =>
      others other fun same => fresh (List.mem_append_left _ (same ▸ inHeap))
    obtain ⟨heap', inserted, valid, members⟩ := represents.insert kept (s.maxTimerId + 1)
    rw [inserted]
    refine .ok ⟨rfl, valid, members, represents.parted.moved s.coSelf ?_ (fun co other => ?_) ?_ ?_⟩
    · show s.maxTimerId ≤ made.maxTimerId
      omega
    · exact (Function.update_of_ne other ..).trans (congrFun frames co)
    · rw [goto_frames]
      exact List.nodup_cons.mpr ⟨fresh, nodup⟩
    · rw [goto_frames, own]
      intro other member
      rcases List.mem_cons.mp member with rfl | old
      · exact .inr ⟨Nat.lt_succ_self _, Nat.le_of_eq timers.symm⟩
      · exact .inl old

theorem schedCancelRet_eq (s : State) (self : Co) (rest : List Frame) (coro : CoroPtr)
    (data : DataPtr) (now : Int) :
    s.schedCancelRet self rest coro data now =
      if (s.data data).refCount = 0 then .error .danglingTimerData
      else
        let s := uncancelled s data
        if (s.data data).timeouting then .ok (s.goto self rest)
        else if (s.data data).handle - now ≥ longTimeoutTime then
          if data ∉ s.heap then .error .assertFailed
          else
            let s := (withHeap s (s.heap.erase data)).release data
            if (s.data data).refCount = 0 then
              .ok ((s.setCoro coro { s.coro coro with timerData := none }).goto self rest)
            else .ok (s.goto self rest)
        else .ok (s.goto self rest) := rfl

/-- Taking a record out of the heap. -/
theorem Represents.deleteElem (represents : Represents ⟨withHeap s [], heap⟩ s)
    (small : heap.size < 2 ^ 30) (inHeap : data ∈ s.heap) :
    ∃ heap', heap.deleteElem (earlier s) data = some (heap', llbcOk) ∧ heap'.Valid (earlier s) ∧
      heap'.members = ↑(s.heap.erase data) := by
  have before : heap.members = ↑s.heap := represents.members
  obtain ⟨heap', deleted, valid, members⟩ := BinaryHeap.deleteElem_valid (earlier_ranks s)
    represents.valid small (show data ∈ heap.members by rw [before]; exact inHeap)
  refine ⟨heap', deleted, valid, ?_⟩
  rw [← Multiset.coe_erase, ← before, members, Multiset.erase_cons_head]

theorem agrees_schedCancelRet (represents : Represents ⟨withHeap s [], heap⟩ s)
    (small : heap.size < 2 ^ 30) (at_ : s.frames s.coSelf = .schedCancelRet coro data :: rest) :
    Agrees Represents SameFault
      (Thread.schedCancelRet ⟨withHeap s [], heap⟩ s.coSelf rest coro data now)
      (s.schedCancelRet s.coSelf rest coro data now) := by
  have records : (withHeap s []).data = s.data := rfl
  have commutes : uncancelled (withHeap s []) data = withHeap (uncancelled s data) [] := rfl
  have here : Represents ⟨withHeap (uncancelled s data) [], heap⟩ (uncancelled s data) :=
    { core := rfl, valid := valid_of_update represents.valid rfl rfl,
      members := represents.members,
      parted := ⟨represents.parted.nodup, represents.parted.known, represents.parted.once,
        represents.parted.apart, represents.parted.out⟩ }
  have self : (uncancelled s data).coSelf = s.coSelf := rfl
  have own : updating ((uncancelled s data).frames s.coSelf) = updating rest := by
    show updating (s.frames s.coSelf) = _
    rw [at_]
    rfl
  simp only [Thread.schedCancelRet, schedCancelRet_eq, records, commutes]
  split
  next => exact .error rfl
  next =>
    generalize uncancelled s data = cleared at here self own ⊢
    rw [← self] at own ⊢
    have leaves : Represents ⟨withHeap (cleared.goto cleared.coSelf rest) [], heap⟩
        (cleared.goto cleared.coSelf rest) := here.goto own.symm
    have clearedRecords : (withHeap cleared []).data = cleared.data := rfl
    have compares : earlier (withHeap cleared []) = earlier cleared := rfl
    simp only [clearedRecords, compares]
    split
    next => exact .ok leaves
    next =>
      split
      next =>
        by_cases inHeap : data ∈ cleared.heap
        · obtain ⟨heap', deleted, valid, members⟩ := here.deleteElem small inHeap
          have nodup := own ▸ here.parted.nodup_append cleared.coSelf
          have shorter : (cleared.heap.erase data ++ updating rest).Sublist
              (cleared.heap ++ updating rest) := List.erase_sublist.append_right _
          have drops : ∀ next : State, next.heap = cleared.heap.erase data →
              next.maxTimerId = cleared.maxTimerId → next.frames = cleared.frames →
              (∃ record, next.data = Function.update cleared.data data record ∧
                record.handle = (cleared.data data).handle) →
              Represents ⟨withHeap (next.goto cleared.coSelf rest) [], heap'⟩
                (next.goto cleared.coSelf rest) := by
            rintro next heaps timers frames ⟨record, written, handle⟩
            refine ⟨rfl, valid_of_update valid written handle,
              members.trans (by rw [← heaps]; rfl), here.parted.moved cleared.coSelf
                (Nat.le_of_eq timers.symm) (fun co other => ?_) ?_ ?_⟩
            · exact (Function.update_of_ne other ..).trans (congrFun frames co)
            · rw [goto_frames]
              exact heaps ▸ nodup.sublist shorter
            · rw [goto_frames, own]
              exact fun other member => .inl (shorter.subset (heaps ▸ member))
          let dropped := (withHeap cleared (cleared.heap.erase data)).release data
          have sameData : ((withHeap cleared []).release data).data = dropped.data := rfl
          simp only [deleted, inHeap, not_true_eq_false, if_false, ne_eq, sameData]
          split
          next => exact .ok (drops (dropped.setCoro coro _) rfl rfl rfl ⟨_, rfl, rfl⟩)
          next => exact .ok (drops dropped rfl rfl rfl ⟨_, rfl, rfl⟩)
        · have missing : heap.deleteElem (earlier cleared) data = some (heap, llbcFailed) := by
            apply BinaryHeap.deleteElem_missing here.valid
            rw [show heap.members = ↑cleared.heap from here.members]
            exact inHeap
          rw [missing, if_pos inHeap]
          exact .error rfl
      next => exact .ok leaves

/-- Where the code does not use the heap, the thread runs it as it is. -/
theorem step_of_plain (plain : Plain t.core) :
    t.step (.work now) = t.plainly (t.core.step (.work ⟨now, 0⟩)) := by
  simp only [Thread.step, State.step]
  cases at_ : t.core.frames t.core.coSelf with
  | nil => rfl
  | cons frame rest =>
      have uses := plain frame rest at_
      cases frame with
      | schedCancelRet | timerSchedule | schedUpdate | schedLoop | schedUpdateRet => cases uses
      | _ => rfl

theorem agrees_user (represents : Represents t s) (op : Op) :
    Agrees Represents SameFault (t.step (.user op)) (s.step (.user op)) := by
  have commutes : t.core.step (.user op) = (s.step (.user op)).map (withHeap · []) := by
    rw [represents.core]
    exact user_withHeap [] op
  by_cases userRuns : s.UserRuns
  · have plain : Plain s := fun frame rest at_ => by
      rw [userRuns] at at_
      cases at_
    exact represents.plainly plain commutes
  · have blocked : s.step (.user op) = .error .blocked := by
      cases at_ : s.frames s.coSelf with
      | nil => exact absurd at_ userRuns
      | cons => simp only [State.step, at_]
    simp only [Thread.step, commutes, blocked]
    exact .error rfl

theorem agrees_work (represents : Represents t s) (small : t.heap.size < 2 ^ 30) (now : Int) :
    Agrees Represents SameFault (t.step (.work now)) (s.step (.work ⟨now, t.root⟩)) := by
  obtain ⟨core, heap⟩ := t
  obtain rfl : core = withHeap s [] := represents.core
  by_cases plain : Plain s
  · rw [step_of_plain plain]
    exact represents.plainly plain (step_withHeap plain [] _ _)
  · simp only [Plain, not_forall] at plain
    obtain ⟨frame, rest, at_, uses⟩ := plain
    have frames : (withHeap s []).frames (withHeap s []).coSelf = frame :: rest := at_
    simp only [Thread.step, State.step, frames, at_]
    cases frame with
    | schedCancelRet coro data => exact agrees_schedCancelRet represents small at_
    | timerSchedule coro dueTime => exact agrees_timerSchedule represents at_
    | schedUpdate => exact .ok (agrees_schedUpdate represents at_)
    | schedLoop started => exact agrees_schedLoop represents small at_
    | schedUpdateRet started data => exact agrees_schedUpdateRet represents at_
    | _ => exact absurd rfl uses

theorem thread_agrees (represents : Represents t s) (small : t.heap.size < 2 ^ 30)
    (label : ThreadLabel) :
    Agrees Represents SameFault (thread.step t label) (machine.step s (t.labelOf label)) := by
  cases label with
  | user op => exact agrees_user represents op
  | work now => exact agrees_work represents small now

/-- The thread takes its steps together with the machine of the manager, while the indices of
its heap fit into an `int`. -/
def lockstep : Lockstep thread machine where
  Rel := Represents
  Within t := t.heap.size < 2 ^ 30
  Same := SameFault
  label := Thread.labelOf
  agrees := thread_agrees

theorem represents_init (env : Bool) : Represents (.init env) (State.init env) where
  core := rfl
  valid := BinaryHeap.valid_new 256
  members := BinaryHeap.members_new 256
  parted :=
    { nodup := List.nodup_nil
      known := fun _ inHeap => by cases inHeap
      once := fun _ => List.nodup_nil
      apart := fun _ _ _ waits => by cases waits
      out := fun _ _ waits => by cases waits }

end

/-- Over its heap, and with fewer than 2³⁰ records in it at any time, the thread does what the
machine of the manager does: every run of the one is a run of the other, with the record at
the root wherever that machine may choose. The heap never leaves its vector, and never sends
the machine to a record that is not earliest. -/
theorem scheduler_refines {Keeps : State → Label → Prop} {env : Bool} {t : Thread}
    (blind : ∀ s heap label, Keeps (withHeap s heap) label → Keeps s label)
    (run : thread.Run (fun t label => t.heap.size < 2 ^ 30 ∧ Keeps t.core (t.labelOf label))
      (.init env) t)
    (small : t.heap.size < 2 ^ 30) :
    ∃ s, machine.Run Keeps (State.init env) s ∧ t.core = withHeap s [] ∧
      t.heap.members = ↑s.heap ∧
      ∀ label, match thread.step t label with
        | .ok t' => ∃ s', machine.step s (t.labelOf label) = .ok s' ∧ t'.core = withHeap s' [] ∧
            t'.heap.members = ↑s'.heap
        | .error (.core fault) => machine.step s (t.labelOf label) = .error fault
        | .error .outside => False := by
  obtain ⟨s, reached, represents⟩ := lockstep.run (represents_init env)
    (fun {t s label} (represents : Represents t s) keeps =>
      ⟨keeps.1, blind s [] _ (represents.core ▸ keeps.2)⟩) run
  refine ⟨s, reached, represents.core, represents.members, fun label => ?_⟩
  have both := thread_agrees represents small label
  cases next : thread.step t label with
  | ok t' =>
      rw [next] at both
      cases taken : machine.step s (t.labelOf label) with
      | ok s' =>
          rw [taken] at both
          cases both with
          | ok there => exact ⟨s', rfl, there.core, there.members⟩
      | error fault => rw [taken] at both; cases both
  | error threadFault =>
      rw [next] at both
      cases taken : machine.step s (t.labelOf label) with
      | ok s' => rw [taken] at both; cases both
      | error fault =>
          rw [taken] at both
          cases both with
          | error same =>
              cases same
              rfl

/-- The discipline of a run does not look at the heap. -/
theorem disciplined_blind (s : State) (heap : List DataPtr) (label : Label)
    (disciplined : Disciplined (withHeap s heap) label) : Disciplined s label := by
  obtain ⟨newId, below⟩ := disciplined
  cases label with
  | user op =>
      refine ⟨?_, trivial⟩
      cases op <;> exact newId
  | work choice => exact ⟨newId, below⟩

/-- Two coroutines yield, the first for longer; an `Update` takes the record of the second
off the heap. -/
def secondFirst : List ThreadLabel :=
  [.user (.createCoro 0 0), .user (.createCoro 0 0), .user (.coroResume 0 .nil), .work 0, .work 0,
    .work 0, .user (.yield 1500000), .work 0, .work 0, .work 0, .work 0,
    .user (.coroResume 1 .nil), .work 0, .work 0, .work 0, .user (.yield 500000), .work 0, .work 0,
    .work 0, .work 0, .user .update, .work 2000, .work 2000]

theorem second_times_out_first :
    let t := (thread.replay
      (fun t label => decide (t.heap.size < 2 ^ 30 ∧ Disciplined t.core (t.labelOf label)))
      (.init false) secondFirst).get (by decide +kernel)
    t.core.events.head? = some (.fired 1 1) ∧ t.heap.findTop = some (some 1) ∧
      ∃ s, machine.Run Disciplined (State.init false) s ∧ t.core = withHeap s [] ∧
        t.heap.members = ↑s.heap := by
  intro t
  have run : thread.Run
      (fun t label => t.heap.size < 2 ^ 30 ∧ Disciplined t.core (t.labelOf label))
      (.init false) t :=
    .of_replay (fun _ _ passes => of_decide_eq_true passes) (Option.some_get _).symm
  obtain ⟨s, reached, core, members, _⟩ :=
    scheduler_refines disciplined_blind run (by decide +kernel)
  exact ⟨by decide +kernel, by decide +kernel, s, reached, core, members⟩

end LibcoRpc.Timer
