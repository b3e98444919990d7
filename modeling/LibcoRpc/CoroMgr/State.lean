import LibcoRpc.Std.OrdMap
import Mathlib.Algebra.Group.Int.Defs
import Mathlib.Data.Int.Order.Basic
import Mathlib.Logic.Function.Basic

/-!
# Data of the coroutine manager

The objects of `rpc_coro_mgr.h` together with the parts of libco and of the LLBC
timer scheduler they rest on. Objects live at numbered addresses: a `CoroPtr`
names a `Coro`, a `DataPtr` an `LLBC_TimerData`, and a `Co` a libco coroutine.
Addresses are never reused, so that an access to an object that has been deleted
stays visible: a deleted `Coro` keeps its contents under `deleted`, a deleted
`TimerData` keeps them under a `refCount` of zero.

Code that switches coroutines in the middle of a C++ function is kept as a stack
of `Frame`s: each frame says what one interrupted call still has to do.
-/

namespace LibcoRpc.CoroMgr

open LibcoRpc.Std

/-- Address of a `Coro` object. -/
abbrev CoroPtr := Nat

/-- Address of an `LLBC_TimerData` object. -/
abbrev DataPtr := Nat

/-- A libco coroutine (`stCoRoutine_t`): the thread's main coroutine, or the one
`CreateCoro` made for a `Coro` object. -/
inductive Co where
  | main
  | co (coro : CoroPtr)
deriving DecidableEq, Repr

/-- `LLBC_Variant`: nil, or some value that the manager only copies. -/
inductive Variant where
  | nil
  | value (bytes : List UInt8)
deriving DecidableEq, Repr

/-- `LLBC_OK`. -/
abbrev llbcOk : Int := 0

/-- `LLBC_FAILED`. -/
abbrev llbcFailed : Int := -1

/-- `CoroTimeoutTime`, in milliseconds. -/
abbrev coroTimeoutTime : Int := 5000

/-- `LLBC_CFG_CORE_TIMER_LONG_TIMEOUT_TIME`: ten days in milliseconds. -/
abbrev longTimeoutTime : Int := 864000000

/-- Entries of `pCallStack`. -/
abbrev callStackCapacity : Nat := 128

/-- The fields of `stCoRoutine_t` the manager depends on. `aSpec0` is the id that
`CreateCoro` and `Start` copy into `aSpec[0].value`. -/
structure Inner where
  cStart : Bool := false
  cEnd : Bool := false
  aSpec0 : Int := 0
deriving DecidableEq, Repr

/-- `class Coro`. The two delegates of `timer_` are fixed by the constructor, so
the timer is represented by its `_timerData`. -/
structure Coro where
  coroId : Int
  innerCoro : Co
  entry : Nat
  args : Nat
  timerData : Option DataPtr
  passData : Variant
  ptrParam1 : Option Nat
  yielded : Bool
  timeouted : Bool
  cancelled : Bool
  yieldTimes : Nat
  resumeTimes : Nat
  /-- The object has been destroyed. -/
  deleted : Bool
deriving DecidableEq, Repr

/-- `struct LLBC_TimerData`. Its `timer` is the timer of a `Coro`. -/
structure TimerData where
  handle : Int
  dueTime : Int
  period : Int
  repeatTimes : Nat
  timer : CoroPtr
  validate : Bool
  cancelling : Bool
  timeouting : Bool
  refCount : Nat
  /-- Which suspension of the coroutine the record was made for; no code reads it. -/
  armedFor : Nat
deriving DecidableEq, Repr

/-- Why `Coro::Resume` was called. -/
inductive Cause where
  | explicit
  | expiry
  | cancel
deriving DecidableEq, Repr

/-- What one interrupted C++ call still has to do. -/
inductive Frame where
  /-- `Coro::Resume(passData)`, not yet entered. -/
  | resume (coro : CoroPtr) (passData : Variant) (cause : Cause)
  /-- `Coro::Resume` at `co_resume(innerCoro_)`. -/
  | coResume (coro : CoroPtr)
  /-- `Coro::Resume` after `co_resume` has come back. -/
  | resumeRet (coro : CoroPtr)
  /-- `LLBC_Timer::Cancel` of the coroutine's timer. -/
  | timerCancel (coro : CoroPtr)
  /-- `Coro::OnCoroCancel`. -/
  | onCoroCancel (coro : CoroPtr)
  /-- `LLBC_TimerScheduler::Cancel` after `timer->OnCancel()`. -/
  | schedCancelRet (coro : CoroPtr) (data : DataPtr)
  /-- `Coro::Cancel`, not yet entered. -/
  | cancel (coro : CoroPtr)
  /-- `Coro::Cancel` after `timer_.Cancel()`. -/
  | cancelRet
  /-- `LLBC_Timer::Schedule` after its `Cancel()`. -/
  | timerSchedule (coro : CoroPtr) (dueTime : Int)
  /-- `Coro::Yield` after `timer_.Schedule`. -/
  | yieldSuspend (coro : CoroPtr)
  /-- `Coro::Yield` after `co_yield_ct`; `times` is the suspension it entered. -/
  | yieldRet (coro : CoroPtr) (times : Nat)
  /-- `LLBC_TimerScheduler::Update`, not yet entered. -/
  | schedUpdate
  /-- The loop of `LLBC_TimerScheduler::Update` at its head. -/
  | schedLoop (now : Int)
  /-- `Coro::OnCoroTimeout`. -/
  | onCoroTimeout (coro : CoroPtr)
  /-- The loop of `LLBC_TimerScheduler::Update` after `timer->OnTimeout()`. -/
  | schedUpdateRet (now : Int) (data : DataPtr)
  /-- `RpcCoroMgr::Update` after `timerScheduler_.Update()`. -/
  | updateRecycle
  /-- `RecycleContainer` with the objects still to delete. -/
  | recycle (pending : List CoroPtr)
  /-- `Coro::~Coro` after its own `timer_.Cancel()`. -/
  | destroy (coro : CoroPtr)
  /-- `LLBC_Timer::~LLBC_Timer` after its `Cancel()`. -/
  | destroyTimer (coro : CoroPtr)
  /-- The loop of `RpcCoroMgr::Stop` with its iterator. -/
  | stopLoop (position : Option (Int × CoroPtr))
  /-- `RpcCoroMgr::Stop` after `Update()`. -/
  | stopReset
deriving DecidableEq, Repr

/-- What happened, in the terms the statements use. No code reads it. -/
inductive Event where
  /-- `CreateCoro` returned this object. -/
  | created (coro : CoroPtr)
  /-- `Yield` suspended the coroutine for the `times`-th time. -/
  | suspended (coro : CoroPtr) (times : Nat)
  /-- The scheduler called `OnTimeout` of the record made for suspension `armedFor`. -/
  | fired (coro : CoroPtr) (armedFor : Nat)
  /-- `Resume` accepted the coroutine in its `times`-th suspension; the zeroth is
  the time before its first start. -/
  | ended (coro : CoroPtr) (times : Nat) (cause : Cause) (passData : Variant)
  /-- `Yield` returned from the `times`-th suspension. -/
  | yieldReturned (coro : CoroPtr) (times : Nat) (result : Int)
      (timeouted cancelled : Bool) (passData : Variant)
  /-- The entry function returned and `MaskWillRecycle` ran. -/
  | finished (coro : CoroPtr)
  /-- The recycle phase of an `Update` began. -/
  | recycling
  /-- `~Coro` was entered. -/
  | deleting (coro : CoroPtr)
  /-- `~Coro` was left. -/
  | deleted (coro : CoroPtr)
deriving DecidableEq, Repr

/-- The state of the manager, the scheduler and libco in one thread. -/
structure State where
  maxCoroId : Int
  coros : OrdMap Int CoroPtr
  waitingForRecycleCoros : OrdMap Int CoroPtr
  coro : CoroPtr → Coro
  /-- `Coro` objects allocated so far; addresses from here on are unused. -/
  coroCount : Nat
  data : DataPtr → TimerData
  /-- `_maxTimerId`, which is also the number of records allocated so far. -/
  maxTimerId : Nat
  /-- The members of `_heap`. Which of the earliest ones is at its root is left to
  the step that asks. -/
  heap : List DataPtr
  /-- `co_get_curr_thread_env()` is not null. -/
  env : Bool
  inner : Co → Inner
  /-- `pCallStack`, top first. -/
  callStack : List Co
  /-- The interrupted calls of each coroutine, innermost first. -/
  frames : Co → List Frame
  /-- What the last call that returned has returned. -/
  ret : Int
  /-- The history, newest first. -/
  events : List Event
  /-- Every id `GenCoroId` has returned, newest first. -/
  issued : List Int

/-- A `Coro` address that holds no object. -/
def noCoro : Coro :=
  { coroId := 0, innerCoro := .main, entry := 0, args := 0, timerData := none,
    passData := .nil, ptrParam1 := none, yielded := false, timeouted := false,
    cancelled := false, yieldTimes := 0, resumeTimes := 0, deleted := false }

/-- A `TimerData` address that holds no object. -/
def noTimerData : TimerData :=
  { handle := 0, dueTime := 0, period := 0, repeatTimes := 0, timer := 0,
    validate := false, cancelling := false, timeouting := false, refCount := 0,
    armedFor := 0 }

/-- `RpcCoroMgr::RpcCoroMgr()` in a thread that has or has not used libco before. -/
def State.init (env : Bool) : State :=
  { maxCoroId := 0, coros := .empty, waitingForRecycleCoros := .empty,
    coro := fun _ => noCoro, coroCount := 0, data := fun _ => noTimerData,
    maxTimerId := 0, heap := [], env := env, inner := fun _ => {}, callStack := [.main],
    frames := fun _ => [], ret := llbcOk, events := [], issued := [] }

namespace State

/-- `co_self()`: the top of the call stack. -/
def coSelf (s : State) : Co := s.callStack.headD .main

def setCoro (s : State) (coro : CoroPtr) (object : Coro) : State :=
  { s with coro := Function.update s.coro coro object }

def setData (s : State) (data : DataPtr) (record : TimerData) : State :=
  { s with data := Function.update s.data data record }

def setInner (s : State) (co : Co) (inner : Inner) : State :=
  { s with inner := Function.update s.inner co inner }

/-- Replace the interrupted calls of a coroutine. -/
def goto (s : State) (self : Co) (frames : List Frame) : State :=
  { s with frames := Function.update s.frames self frames }

/-- A call returns a value. -/
def returns (s : State) (value : Int) : State := { s with ret := value }

def record (s : State) (event : Event) : State := { s with events := event :: s.events }

/-- `--data->refCount`, with the deletion at zero. -/
def release (s : State) (data : DataPtr) : State :=
  s.setData data { s.data data with refCount := (s.data data).refCount - 1 }

/-- A pointer a caller may still use. -/
def live (s : State) (coro : CoroPtr) : Bool := coro < s.coroCount && !(s.coro coro).deleted

/-- `RpcCoroMgr::GetCoro`. -/
def getCoro (s : State) (coroId : Int) : Option CoroPtr := s.coros.find coroId

/-- `LLBC_Timer::IsTimeouting`. -/
def isTimeouting (s : State) (coro : CoroPtr) : Bool :=
  match (s.coro coro).timerData with
  | none => false
  | some data => (s.data data).timeouting

/-- An entry the heap may have at its root: an earliest one. -/
def isTop (s : State) (data : DataPtr) : Bool :=
  s.heap.contains data && s.heap.all fun other => (s.data data).handle ≤ (s.data other).handle

end State

/-- `Coro::IsMainCoro`. -/
def Coro.isMainCoro (object : Coro) : Bool := object.innerCoro == .main

/-- `Coro::IsTimeoutedOrCancelled`. -/
def Coro.isTimeoutedOrCancelled (object : Coro) : Bool := object.timeouted || object.cancelled

/-- 32-bit two's-complement wrap. -/
def wrapInt32 (value : Int) : Int := (value + 2 ^ 31) % 2 ^ 32 - 2 ^ 31

/-- The value `GenCoroId` leaves in `maxCoroId_` and returns. -/
def nextCoroId (maxCoroId : Int) : Int :=
  if wrapInt32 (maxCoroId + 1) < 0 then 2 else wrapInt32 (maxCoroId + 1)

/-- The milliseconds `Yield` hands to the scheduler for a timeout in microseconds. -/
def actualTimeout (timeout : Int) : Int :=
  if timeout ≤ 0 then coroTimeoutTime else max 0 (timeout.tdiv 1000)

end LibcoRpc.CoroMgr
