import LibcoRpc.CoroMgr.Lookup
import LibcoRpc.Rpc.Effect
import LibcoRpc.Rpc.Echo

/-!
# Calls from the main coroutine

`CallMethod` and `Yield` are not allowed in the main coroutine, and both look for it with
`GetCurCoro`. `Init` registers nothing, so whether the check is reached depends on whether
the program has called `Start`. A handler of a method without `is_coro_required` runs where
the packet was received, which may be the main coroutine.
-/

namespace LibcoRpc.Rpc

open LibcoRpc.CoroMgr (Started llbcFailed)

variable {Msg : Type} {protobuf : Protobuf Msg} {s : State Msg}

/-- `GetCurCoro` returns an object of the coroutine on top of the call stack. -/
def FindsCurrent (s : State Msg) : Prop :=
  ∃ coro, s.core.getCurCoro = .ok (some coro) ∧ (s.core.coro coro).innerCoro = s.core.coSelf

/-- `Yield` fails and changes nothing else. -/
def YieldRefused (protobuf : Protobuf Msg) (s : State Msg) : Prop :=
  ∀ timeout, (machine protobuf).step s (.user (.op (.yield timeout))) =
    .ok { s with core := s.core.returns llbcFailed }.tick

/-- `CallMethod` returns at once: it sends nothing and does not suspend. -/
def CallRefused (protobuf : Protobuf Msg) (s : State Msg) : Prop :=
  ∀ sessionId method controller request, ∃ call : Call Msg,
    (machine protobuf).step s (.user (.callMethod sessionId method controller request)) =
      .ok (s.newCall call).tick ∧
    call.sent = false ∧ call.returnedAt = some s.time ∧ call.controller = controller

theorem yieldRefused_of_found {coro : CoroMgr.CoroPtr} (userRuns : s.core.UserRuns)
    (userCode : s.userCode = true) (isMain : s.core.coSelf = .main)
    (found : s.core.getCurCoro = .ok (some coro))
    (inner : (s.core.coro coro).innerCoro = s.core.coSelf) : YieldRefused protobuf s := by
  intro timeout
  have wrapper : (s.core.coro coro).isMainCoro = true := by
    simp [CoroMgr.Coro.isMainCoro, inner, isMain]
  have failed : CoroMgr.machine.step s.core (.user (.yield timeout)) =
      .ok (s.core.returns llbcFailed) := by
    rw [CoroMgr.user_step userRuns]
    simpa [CoroMgr.State.userStep, found] using
      CoroMgr.coroYield_refused found inner (.inr wrapper)
  simp [machine, State.step, userRuns, userCode, State.act, ownOp, State.coreStep, failed,
    Except.map]

theorem callRefused_of_found {coro : CoroMgr.CoroPtr} (userRuns : s.core.UserRuns)
    (userCode : s.userCode = true) (isMain : s.core.coSelf = .main)
    (found : s.core.getCurCoro = .ok (some coro))
    (inner : (s.core.coro coro).innerCoro = s.core.coSelf) : CallRefused protobuf s := by
  intro sessionId method controller request
  have wrapper : (s.core.coro coro).isMainCoro = true := by
    simp [CoroMgr.Coro.isMainCoro, inner, isMain]
  refine ⟨{ s.beginCall protobuf s.core.coSelf coro sessionId method controller with
    sent := false, returnedAt := some s.time }, ?_, rfl, rfl, rfl⟩
  simp [machine, State.step, userRuns, userCode, State.act, State.callMethod, found, wrapper,
    Except.map]

/-- A `Yield` that fails has found an object. -/
theorem found_of_yieldRefused (userRuns : s.core.UserRuns)
    (refused : YieldRefused protobuf s) : ∃ coro, s.core.getCurCoro = .ok (some coro) := by
  have taken := refused 0
  simp only [machine, State.step] at taken
  split at taken
  · simp only [State.act, ownOp, if_true, State.coreStep, CoroMgr.user_step userRuns,
      CoroMgr.State.userStep] at taken
    cases found : s.core.getCurCoro with
    | error fault => simp [found, Except.map] at taken
    | ok current =>
        cases current with
        | none => simp [found, Except.map] at taken
        | some coro => exact ⟨coro, rfl⟩
  · cases taken

/-- Where user code runs, `GetCurCoro` finds the running coroutine, and the main coroutine
is refused `Yield` and `CallMethod`, if and only if the running coroutine is not the main
one or `Start` has registered it. -/
theorem current_coroutine_found_iff {env : Bool}
    (run : (machine protobuf).Run (TakesNewId protobuf) (State.init protobuf env) s)
    (userRuns : s.core.UserRuns) (userCode : s.userCode = true) :
    (FindsCurrent s ↔ s.core.coSelf ≠ .main ∨ Started s.core) ∧
    (s.core.coSelf = .main →
      (YieldRefused protobuf s ∧ CallRefused protobuf s ↔ Started s.core)) := by
  have core := core_run_free run
  have named := CoroMgr.named_of_run core
  have finds := (CoroMgr.introduced_of_run core).finds_iff named
  refine ⟨finds, fun isMain => ⟨?_, ?_⟩⟩
  · rintro ⟨refused, -⟩
    obtain ⟨coro, found⟩ := found_of_yieldRefused userRuns refused
    have inner : (s.core.coro coro).innerCoro = s.core.coSelf := by
      rcases CoroMgr.getCurCoro_cases named found with ⟨_, inner⟩ | isCo
      · rw [inner, isMain]
      · rw [isMain] at isCo
        cases isCo
    exact (finds.mp ⟨coro, found, inner⟩).resolve_left (not_not.mpr isMain)
  · intro started
    obtain ⟨coro, found, inner⟩ := finds.mpr (.inr started)
    exact ⟨yieldRefused_of_found userRuns userCode isMain found inner,
      callRefused_of_found userRuns userCode isMain found inner⟩

/-- After `Start`, a handler that runs in the main coroutine is refused a call. -/
theorem main_handler_refused :
    let s := ((machine echoProtobuf).replay
      (fun s label => decide (TakesNewId echoProtobuf s label)) (State.init echoProtobuf true)
      [.user (.op .start), .user (.addService myEchoService),
        .user (.deliver (requestPacket echoProtobuf 9 echoMethod 1
          ⟨EchoMessage.request, none⟩) none)]).get (by decide +kernel)
    s.frames .main = [.handler 0] ∧ FindsCurrent s ∧ CallRefused echoProtobuf s := by
  intro s
  have result := current_coroutine_found_iff
    (.of_replay (fun _ _ passes => of_decide_eq_true passes) (Option.some_get _).symm)
    (by decide +kernel : s.core.UserRuns) (by decide +kernel)
  have started : Started s.core := by decide +kernel
  exact ⟨by decide +kernel, result.1.mpr (.inr started),
    ((result.2 (by decide +kernel)).mpr started).2⟩

/-- Without `Start`, a handler that runs in the main coroutine and calls a method uses a null
pointer: the one that `GetCurCoro` returned, or `co_self()` if libco has not been used. -/
theorem main_handler_without_start :
    let labels : List (Label EchoMessage) :=
      [.user (.addService myEchoService),
        .user (.deliver (requestPacket echoProtobuf 9 echoMethod 1
          ⟨EchoMessage.request, none⟩) none)] ++ relayEcho 0 (some 7) ⟨EchoMessage.request, none⟩
    (machine echoProtobuf).fault (State.init echoProtobuf true) labels = some .nullCoro ∧
    (machine echoProtobuf).fault (State.init echoProtobuf false) labels =
      some (.core .nullDeref) := by
  constructor <;> decide +kernel

end LibcoRpc.Rpc
