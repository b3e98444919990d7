import LibcoRpc.CoroMgr.State
import LibcoRpc.Semantics.Machine

/-!
# Code of the coroutine manager

One definition for each C++ function, or for each part of one between two calls
that may switch coroutines. `runFrame` goes on with the innermost interrupted call
of the coroutine on top of the call stack; when it has none, user code runs there
and `userStep` takes the operation it issues. What user code does is left open:
any operation may be issued at any time, by the main coroutine or by another one.

The clock reading and the choice among equally early heap entries come with each
step. A step that would touch a deleted object, dereference null, overrun libco's
call stack or fail an assertion is a `Fault`.
-/

namespace LibcoRpc.CoroMgr

open LibcoRpc.Std

/-- Why a step has no next state. -/
inductive Fault where
  /-- A null pointer is dereferenced. -/
  | nullDeref
  /-- A pointer to a deleted or never created `Coro` is used. -/
  | danglingCoro
  /-- `LLBC_TimerScheduler::Cancel` goes on with a record that has been deleted. -/
  | danglingTimerData
  /-- `co_resume` of a coroutine that is on the call stack. -/
  | resumeOnStack
  /-- `co_resume` of a coroutine whose function has returned. -/
  | resumeEnded
  /-- `co_resume` with `pCallStack` full. -/
  | callStackOverflow
  /-- `co_yield_env` with only the main coroutine on the call stack. -/
  | yieldFromMain
  /-- An `ASSERT` fails. -/
  | assertFailed
  /-- `Stop` goes on from a map entry that has been erased. -/
  | iteratorInvalid
  /-- The label does not fit the state; nothing happens. -/
  | blocked
deriving DecidableEq, Repr

/-- What the environment contributes to one step of framework code. -/
structure Choice where
  /-- `LLBC_GetMilliSeconds()`. -/
  now : Int
  /-- The entry at the root of the scheduler's heap. -/
  top : DataPtr
deriving DecidableEq, Repr

/-- What user code can ask of the manager. -/
inductive Op where
  | start
  | createCoro (entry args : Nat)
  | setEntry (coro : CoroPtr) (entry : Nat)
  | setArgs (coro : CoroPtr) (args : Nat)
  | setPtrParam1 (coro : CoroPtr) (param : Option Nat)
  | coroYield (coro : CoroPtr) (timeout : Int)
  | coroResume (coro : CoroPtr) (passData : Variant)
  | coroCancel (coro : CoroPtr)
  | yield (timeout : Int)
  | resume (coroId : Int) (passData : Variant)
  | cancel (coroId : Int)
  | update
  | stop
  /-- The entry function of the running coroutine returns. -/
  | entryReturn
deriving DecidableEq, Repr

/-- One step: an operation issued by user code, or more framework code. -/
inductive Label where
  | user (op : Op)
  | work (choice : Choice)
deriving DecidableEq, Repr

namespace State

/-! ## libco -/

/-- `co_resume(innerCoro_)`. -/
def coResume (s : State) (self : Co) (rest : List Frame) (coro : CoroPtr) :
    Except Fault State :=
  let target := (s.coro coro).innerCoro
  if (s.coro coro).deleted then .error .danglingCoro
  else if target ∈ s.callStack then .error .resumeOnStack
  else if (s.inner target).cEnd then .error .resumeEnded
  else if callStackCapacity ≤ s.callStack.length then .error .callStackOverflow
  else
    .ok { s.setInner target { s.inner target with cStart := true } with
      callStack := target :: s.callStack
      frames := Function.update s.frames self (.resumeRet coro :: rest) }

/-- `co_yield_env`: control goes back to the coroutine below. -/
def coYield (s : State) : Except Fault State :=
  match s.callStack with
  | _ :: below :: rest => .ok { s with callStack := below :: rest }
  | _ => .error .yieldFromMain

/-! ## `LLBC_Timer` and `LLBC_TimerScheduler` -/

/-- `LLBC_Timer::Cancel`, and `LLBC_TimerScheduler::Cancel` up to `timer->OnCancel()`. -/
def timerCancel (s : State) (self : Co) (rest : List Frame) (coro : CoroPtr) : State :=
  match (s.coro coro).timerData with
  | none => (s.returns llbcOk).goto self rest
  | some data =>
      if !(s.data data).validate then (s.returns llbcOk).goto self rest
      else
        (s.setData data { s.data data with validate := false, cancelling := true }).goto self
          (.onCoroCancel coro :: .schedCancelRet coro data :: rest)

/-- `LLBC_TimerScheduler::Cancel` after `timer->OnCancel()`. -/
def schedCancelRet (s : State) (self : Co) (rest : List Frame) (coro : CoroPtr)
    (data : DataPtr) (now : Int) : Except Fault State :=
  -- An `Update` inside the handler may have dropped the heap's reference meanwhile.
  if (s.data data).refCount = 0 then .error .danglingTimerData
  else
    let s := s.setData data { s.data data with cancelling := false }
    let s := s.returns llbcOk
    if (s.data data).timeouting then .ok (s.goto self rest)
    else if (s.data data).handle - now ≥ longTimeoutTime then
      if data ∉ s.heap then .error .assertFailed
      else
        let s := { s with heap := s.heap.erase data }.release data
        if (s.data data).refCount = 0 then
          .ok ((s.setCoro coro { s.coro coro with timerData := none }).goto self rest)
        else .ok (s.goto self rest)
    else .ok (s.goto self rest)

/-- `LLBC_Timer::Schedule` after its `Cancel()`, and `LLBC_TimerScheduler::Schedule`.
The period is the due time, as `Schedule` is called without one. -/
def timerSchedule (s : State) (self : Co) (rest : List Frame) (coro : CoroPtr)
    (dueTime : Int) (now : Int) : State :=
  if s.ret ≠ llbcOk then s.goto self rest
  else
    let data := s.maxTimerId + 1
    let record : TimerData :=
      { handle := now + dueTime, dueTime := dueTime, period := dueTime, repeatTimes := 0,
        timer := coro, validate := true, cancelling := false, timeouting := false,
        refCount := 2, armedFor := (s.coro coro).yieldTimes }
    let s := { s with maxTimerId := data }
    let s := match (s.coro coro).timerData with
      | none => s
      | some old => s.release old
    let s := s.setData data record
    let s := s.setCoro coro { s.coro coro with timerData := some data }
    ({ s with heap := data :: s.heap }.returns llbcOk).goto self rest

/-- `LLBC_TimerScheduler::Update` up to its loop. -/
def schedUpdate (s : State) (self : Co) (rest : List Frame) (now : Int) : State :=
  if s.heap.isEmpty then s.goto self rest else s.goto self (.schedLoop now :: rest)

/-- The loop of `LLBC_TimerScheduler::Update` from its head to `timer->OnTimeout()`. -/
def schedLoop (s : State) (self : Co) (rest : List Frame) (now : Int) (top : DataPtr) :
    Except Fault State :=
  if s.heap.isEmpty then .ok (s.goto self rest)
  else if !s.isTop top then .error .blocked
  else if now < (s.data top).handle then .ok (s.goto self rest)
  else
    let s := { s with heap := s.heap.erase top }
    if !(s.data top).validate then .ok ((s.release top).goto self (.schedLoop now :: rest))
    else
      let record := s.data top
      let s := s.setData top
        { record with timeouting := true, repeatTimes := record.repeatTimes + 1 }
      let s := s.record (.fired record.timer record.armedFor)
      .ok (s.goto self (.onCoroTimeout record.timer :: .schedUpdateRet now top :: rest))

/-- The rest of the loop body after `timer->OnTimeout()`. -/
def schedUpdateRet (s : State) (self : Co) (rest : List Frame) (now : Int) (data : DataPtr) :
    State :=
  let record := { s.data data with timeouting := false }
  if record.validate then
    let delay := if record.period ≠ 0 then (now - record.handle).tmod record.period else 0
    let s := s.setData data { record with handle := now + record.period - delay }
    { s with heap := data :: s.heap }.goto self (.schedLoop now :: rest)
  else ((s.setData data record).release data).goto self (.schedLoop now :: rest)

/-! ## `Coro` -/

/-- `Coro::Resume` up to `co_resume` or to `timer_.Cancel()`. -/
def resume (s : State) (self : Co) (rest : List Frame) (coro : CoroPtr) (passData : Variant)
    (cause : Cause) : State :=
  let object := s.coro coro
  if !object.yielded then (s.returns llbcFailed).goto self rest
  else
    let s := s.record (.ended coro object.yieldTimes cause passData)
    let s := s.setCoro coro
      { object with
        resumeTimes := object.resumeTimes + 1, yielded := false, passData := passData }
    if object.isTimeoutedOrCancelled then s.goto self (.coResume coro :: rest)
    else s.goto self (.timerCancel coro :: .coResume coro :: rest)

/-- `Coro::Cancel` up to `timer_.Cancel()`. -/
def cancel (s : State) (self : Co) (rest : List Frame) (coro : CoroPtr) : State :=
  if !(s.coro coro).yielded then (s.returns llbcFailed).goto self rest
  else s.goto self (.timerCancel coro :: .cancelRet :: rest)

/-- `Coro::OnCoroCancel`. -/
def onCoroCancel (s : State) (self : Co) (rest : List Frame) (coro : CoroPtr) : State :=
  if (s.coro coro).yielded && !s.isTimeouting coro then
    (s.setCoro coro { s.coro coro with cancelled := true }).goto self
      (.resume coro .nil .cancel :: rest)
  else s.goto self rest

/-- `Coro::OnCoroTimeout`. -/
def onCoroTimeout (s : State) (self : Co) (rest : List Frame) (coro : CoroPtr) :
    Except Fault State :=
  if !s.live coro then .error .danglingCoro
  else
    .ok ((s.setCoro coro { s.coro coro with timeouted := true }).goto self
      (.timerCancel coro :: .resume coro .nil .expiry :: rest))

/-- `RpcCoroMgr::GetCurCoro`. -/
def getCurCoro (s : State) : Except Fault (Option CoroPtr) :=
  if !s.env then .error .nullDeref else .ok (s.getCoro (s.inner s.coSelf).aSpec0)

/-- `Coro::Yield` up to `timer_.Schedule`. -/
def coroYield (s : State) (self : Co) (coro : CoroPtr) (timeout : Int) : Except Fault State :=
  if (s.coro coro).yielded then .ok (s.returns llbcFailed)
  else
    match s.getCurCoro with
    | .error fault => .error fault
    -- The refusal logs the id of the current coroutine.
    | .ok none => .error .nullDeref
    | .ok (some current) =>
        if coro ≠ current then .ok (s.returns llbcFailed)
        else if (s.coro coro).isMainCoro then .ok (s.returns llbcFailed)
        else
          let object := s.coro coro
          .ok ((s.setCoro coro { object with yieldTimes := object.yieldTimes + 1 }).goto self
            [.timerCancel coro, .timerSchedule coro (actualTimeout timeout), .yieldSuspend coro])

/-- `Coro::Yield` from the arming of the timer to `co_yield_ct`. -/
def yieldSuspend (s : State) (self : Co) (rest : List Frame) (coro : CoroPtr) :
    Except Fault State :=
  let object := s.coro coro
  let s := s.setCoro coro
    { object with yielded := true, timeouted := false, cancelled := false, passData := .nil }
  let s := s.record (.suspended coro object.yieldTimes)
  (s.goto self (.yieldRet coro object.yieldTimes :: rest)).coYield

/-- `Coro::Yield` after `co_yield_ct`. -/
def yieldRet (s : State) (self : Co) (rest : List Frame) (coro : CoroPtr) (times : Nat) :
    Except Fault State :=
  let object := s.coro coro
  if object.yielded then .error .assertFailed
  else
    let result := if object.isTimeoutedOrCancelled then llbcFailed else llbcOk
    let s := s.record
      (.yieldReturned coro times result object.timeouted object.cancelled object.passData)
    .ok ((s.returns result).goto self rest)

/-- `Coro::SetEntry`. -/
def setEntry (s : State) (coro : CoroPtr) (entry : Nat) : State :=
  if (s.coro coro).resumeTimes ≠ 0 then s.returns llbcFailed
  else (s.setCoro coro { s.coro coro with entry := entry }).returns llbcOk

/-- `Coro::SetArgs`. -/
def setArgs (s : State) (coro : CoroPtr) (args : Nat) : State :=
  if (s.coro coro).resumeTimes ≠ 0 then s.returns llbcFailed
  else (s.setCoro coro { s.coro coro with args := args }).returns llbcOk

/-- `Coro::SetPtrParam1`. -/
def setPtrParam1 (s : State) (coro : CoroPtr) (param : Option Nat) : State :=
  s.setCoro coro { s.coro coro with ptrParam1 := param }

/-! ## `RpcCoroMgr` -/

/-- `RpcCoroMgr::GenCoroId`. -/
def genCoroId (s : State) : State :=
  { s with maxCoroId := nextCoroId s.maxCoroId, issued := nextCoroId s.maxCoroId :: s.issued }

/-- `new Coro(...)` followed by `SetInnerCoro`, at the next free address. -/
def newCoro (s : State) (coroId : Int) (entry args : Nat) (innerCoro : Co) : State :=
  { s.setCoro s.coroCount
      { noCoro with
        coroId := coroId, innerCoro := innerCoro, entry := entry, args := args,
        yielded := innerCoro != .main } with
    coroCount := s.coroCount + 1 }

/-- `RpcCoroMgr::CreateCoro`; the object it returns is the one at `s.coroCount`. -/
def createCoro (s : State) (entry args : Nat) : State :=
  let coro := s.coroCount
  let s := s.genCoroId
  let coroId := s.maxCoroId
  let s := s.newCoro coroId entry args (.co coro)
  let s := s.setInner (.co coro) { aSpec0 := coroId }
  let s := { s with env := true, coros := s.coros.emplace coroId coro }
  s.record (.created coro)

/-- `RpcCoroMgr::Start`; it returns a `bool`, kept as 1 or 0. -/
def start (s : State) : Except Fault State :=
  let s := { s with maxCoroId := 0 }
  if !s.env then .error .nullDeref
  else if s.coSelf ≠ .main then .ok (s.returns 0)
  else
    let coro := s.coroCount
    let s := s.genCoroId
    let coroId := s.maxCoroId
    let s := s.newCoro coroId 0 0 .main
    let s := s.setInner .main { s.inner .main with aSpec0 := coroId }
    .ok ({ s with coros := s.coros.emplace coroId coro }.returns 1)

/-- `RpcCoroMgr::MaskWillRecycle`. -/
def maskWillRecycle (s : State) (coro : CoroPtr) : State :=
  let coroId := (s.coro coro).coroId
  if (s.waitingForRecycleCoros.find coroId).isSome then s
  else
    { s with
      waitingForRecycleCoros := s.waitingForRecycleCoros.emplace coroId coro
      coros := s.coros.erase coroId }

/-- `RpcCoroMgr::Entry` after the entry function, and `CoRoutineFunc` after `pfn`. -/
def entryReturn (s : State) : Except Fault State :=
  match s.coSelf with
  | .main => .error .blocked
  | .co coro =>
      let s := (s.maskWillRecycle coro).record (.finished coro)
      (s.setInner (.co coro) { s.inner (.co coro) with cEnd := true }).coYield

/-- `RpcCoroMgr::Update` after `timerScheduler_.Update()`. -/
def updateRecycle (s : State) (self : Co) (rest : List Frame) : State :=
  if s.waitingForRecycleCoros.entries.isEmpty then s.goto self rest
  else
    (s.record .recycling).goto self (.recycle s.waitingForRecycleCoros.values :: rest)

/-- `RecycleContainer`: delete the objects one by one, then clear the map. -/
def recycle (s : State) (self : Co) (rest : List Frame) : List CoroPtr → State
  | [] => { s with waitingForRecycleCoros := .empty }.goto self rest
  | coro :: pending =>
      let s := s.record (.deleting coro)
      if (s.coro coro).yielded then
        s.goto self (.timerCancel coro :: .destroy coro :: .recycle pending :: rest)
      else s.goto self (.destroy coro :: .recycle pending :: rest)

/-- The end of `~Coro`. -/
def destroyed (s : State) (coro : CoroPtr) : State :=
  (s.setCoro coro { s.coro coro with deleted := true }).record (.deleted coro)

/-- `Coro::~Coro` after its own `timer_.Cancel()`, up to the `Cancel()` of `~LLBC_Timer`. -/
def destroy (s : State) (self : Co) (rest : List Frame) (coro : CoroPtr) : State :=
  match (s.coro coro).timerData with
  | none => (s.destroyed coro).goto self rest
  | some _ => s.goto self (.timerCancel coro :: .destroyTimer coro :: rest)

/-- `LLBC_Timer::~LLBC_Timer` after its `Cancel()`. -/
def destroyTimer (s : State) (self : Co) (rest : List Frame) (coro : CoroPtr) :
    Except Fault State :=
  match (s.coro coro).timerData with
  | none => .error .nullDeref
  | some data => .ok (((s.release data).destroyed coro).goto self rest)

/-- The loop of `RpcCoroMgr::Stop`. The iterator is advanced before the body runs. -/
def stopLoop (s : State) (self : Co) (rest : List Frame) :
    Option (Int × CoroPtr) → Except Fault State
  | none => .ok (s.goto self (.schedUpdate :: .updateRecycle :: .stopReset :: rest))
  | some (coroId, coro) =>
      if s.coros.find coroId ≠ some coro then .error .iteratorInvalid
      else
        let after := .stopLoop (s.coros.next coroId) :: rest
        if (s.coro coro).yielded && !(s.coro coro).isMainCoro then
          .ok (s.goto self (.cancel coro :: after))
        else .ok (s.goto self after)

/-! ## Steps -/

/-- Go on with the innermost interrupted call of the running coroutine. -/
def runFrame (s : State) (choice : Choice) (self : Co) (rest : List Frame) :
    Frame → Except Fault State
  | .resume coro passData cause => .ok (s.resume self rest coro passData cause)
  | .coResume coro => s.coResume self rest coro
  | .resumeRet _ => .ok ((s.returns llbcOk).goto self rest)
  | .timerCancel coro => .ok (s.timerCancel self rest coro)
  | .onCoroCancel coro => .ok (s.onCoroCancel self rest coro)
  | .schedCancelRet coro data => s.schedCancelRet self rest coro data choice.now
  | .cancel coro => .ok (s.cancel self rest coro)
  | .cancelRet => .ok ((s.returns 0).goto self rest)
  | .timerSchedule coro dueTime => .ok (s.timerSchedule self rest coro dueTime choice.now)
  | .yieldSuspend coro => s.yieldSuspend self rest coro
  | .yieldRet coro times => s.yieldRet self rest coro times
  | .schedUpdate => .ok (s.schedUpdate self rest choice.now)
  | .schedLoop now => s.schedLoop self rest now choice.top
  | .onCoroTimeout coro => s.onCoroTimeout self rest coro
  | .schedUpdateRet now data => .ok (s.schedUpdateRet self rest now data)
  | .updateRecycle => .ok (s.updateRecycle self rest)
  | .recycle pending => .ok (s.recycle self rest pending)
  | .destroy coro => .ok (s.destroy self rest coro)
  | .destroyTimer coro => s.destroyTimer self rest coro
  | .stopLoop position => s.stopLoop self rest position
  | .stopReset => .ok ({ s with maxCoroId := 0 }.goto self rest)

/-- `RpcCoroMgr::Resume` and `RpcCoroMgr::Cancel` look the id up first. -/
def withCoro (s : State) (coroId : Int) (call : CoroPtr → State) : State :=
  match s.getCoro coroId with
  | none => s.returns llbcFailed
  | some coro => call coro

/-- User code of the running coroutine issues an operation. -/
def userStep (s : State) (self : Co) : Op → Except Fault State
  | .start => s.start
  | .createCoro entry args => .ok (s.createCoro entry args)
  | .setEntry coro entry =>
      if s.live coro then .ok (s.setEntry coro entry) else .error .danglingCoro
  | .setArgs coro args => if s.live coro then .ok (s.setArgs coro args) else .error .danglingCoro
  | .setPtrParam1 coro param =>
      if s.live coro then .ok (s.setPtrParam1 coro param) else .error .danglingCoro
  | .coroYield coro timeout =>
      if s.live coro then s.coroYield self coro timeout else .error .danglingCoro
  | .coroResume coro passData =>
      if s.live coro then .ok (s.goto self [.resume coro passData .explicit])
      else .error .danglingCoro
  | .coroCancel coro =>
      if s.live coro then .ok (s.goto self [.cancel coro]) else .error .danglingCoro
  | .yield timeout =>
      match s.getCurCoro with
      | .error fault => .error fault
      | .ok none => .error .nullDeref
      | .ok (some coro) => s.coroYield self coro timeout
  | .resume coroId passData =>
      .ok (s.withCoro coroId fun coro => s.goto self [.resume coro passData .explicit])
  | .cancel coroId => .ok (s.withCoro coroId fun coro => s.goto self [.cancel coro])
  | .update => .ok (s.goto self [.schedUpdate, .updateRecycle])
  | .stop => .ok (s.goto self [.stopLoop s.coros.first])
  | .entryReturn => s.entryReturn

/-- One step of the thread. -/
def step (s : State) : Label → Except Fault State
  | .user op =>
      match s.frames s.coSelf with
      | [] => s.userStep s.coSelf op
      | _ :: _ => .error .blocked
  | .work choice =>
      match s.frames s.coSelf with
      | [] => .error .blocked
      | frame :: rest => s.runFrame choice s.coSelf rest frame

/-- User code runs: no framework call of the running coroutine is in progress. -/
def UserRuns (s : State) : Prop := s.frames s.coSelf = []

instance (s : State) : Decidable s.UserRuns :=
  inferInstanceAs (Decidable (s.frames s.coSelf = []))

end State

/-- The coroutine manager as a machine. -/
def machine : Machine State Label Fault where
  step := State.step

/-- `GetCurCoro` finds its object in `coros_`. -/
theorem find_of_getCurCoro {s : State} {coro : CoroPtr} (found : s.getCurCoro = .ok (some coro)) :
    s.coros.find (s.inner s.coSelf).aSpec0 = some coro := by
  simp only [State.getCurCoro] at found
  split at found
  · cases found
  · simpa [State.getCoro] using found

/-- User code asks for something only where it runs. -/
theorem userRuns_of_step {s s' : State} {op : Op} (taken : machine.step s (.user op) = .ok s') :
    s.UserRuns := by
  simp only [machine, State.step] at taken
  split at taken
  next none => exact none
  next => cases taken

/-- Where user code runs, it does what it asks for. -/
theorem user_step {s : State} {op : Op} (userRuns : s.UserRuns) :
    machine.step s (.user op) = s.userStep s.coSelf op := by
  have none : s.frames s.coSelf = [] := userRuns
  simp [machine, State.step, none]

end LibcoRpc.CoroMgr
