import LibcoRpc.Rpc.Status

/-!
# Controllers that are used again

`RpcController::Reset` does nothing, and `CallMethod` writes to the controller only to report
a failure. So a controller that several calls have shared tells about the last of them
exactly if that one failed or none of the earlier ones did.
-/

namespace LibcoRpc.Rpc

open LibcoRpc.CoroMgr (Co CoroPtr)

variable {Msg : Type} {protobuf : Protobuf Msg} {s s' : State Msg}

/-- `RpcController::Reset`. -/
def RpcController.reset (controller : RpcController) : RpcController := controller

/-! ## Outcomes -/

/-- What becomes of a call. -/
inductive CallResult where
  /-- It is made in the main coroutine, and nothing is sent. -/
  | refused
  | failed (reason : Bytes)
  | succeeded
deriving DecidableEq, Repr

namespace CallResult

/-- The text of a failure that has one. -/
def reason : CallResult → Option Bytes
  | .failed reason => some reason
  | .refused | .succeeded => none

/-- The controller that describes a result: a failure with its text, or no failure. None
describes a call that was refused, which has failed without a text. -/
def shown : CallResult → Option RpcController
  | .refused => none
  | .failed reason => some ⟨true, reason⟩
  | .succeeded => some .new

end CallResult

/-- The coroutine was resumed with a packet, and neither timed out nor cancelled. -/
structure ResumedWith (s : State Msg) (coro : CoroPtr) (packet : Packet) : Prop where
  notTimeouted : (s.core.coro coro).timeouted = false
  notCancelled : (s.core.coro coro).cancelled = false
  stored : ∃ recvPacket, (s.core.coro coro).ptrParam1 = some recvPacket ∧
    packet = (s.received recvPacket).packet

/-- What becomes of a call whose coroutine has been resumed, by the flags of the coroutine and
by the packet it was resumed with. -/
inductive Ends (protobuf : Protobuf Msg) (s : State Msg) (call : Call Msg) (coro : CoroPtr) :
    CallResult → Prop where
  | timeouted (flag : (s.core.coro coro).timeouted = true) :
      Ends protobuf s call coro (.failed (text "Coro timeouted"))
  | cancelled (notTimeouted : (s.core.coro coro).timeouted = false)
      (flag : (s.core.coro coro).cancelled = true) :
      Ends protobuf s call coro (.failed (text "Coro cancelled"))
  | noErrText {packet : Packet} (resumed : ResumedWith s coro packet)
      (unreadable : packet.readString = none) :
      Ends protobuf s call coro (.failed (text "Read errText fail"))
  | noResponse {packet body : Packet} {errText : Bytes} (resumed : ResumedWith s coro packet)
      (read : packet.readString = some (errText, body))
      (unreadable : (body.readMessage protobuf call.responseType call.response).1 = false) :
      Ends protobuf s call coro (.failed (text "Read recvPacket fail"))
  | errText {packet body : Packet} {errText : Bytes} (resumed : ResumedWith s coro packet)
      (read : packet.readString = some (errText, body))
      (readable : (body.readMessage protobuf call.responseType call.response).1 = true)
      (error : errText ≠ []) : Ends protobuf s call coro (.failed errText)
  | response {packet body : Packet} (resumed : ResumedWith s coro packet)
      (read : packet.readString = some ([], body))
      (readable : (body.readMessage protobuf call.responseType call.response).1 = true) :
      Ends protobuf s call coro .succeeded

section

variable {number : CallId} {coro : CoroPtr} {result : CallResult}
  (top : s.top s.core.coSelf = some (.callWait number coro))
  (taken : (machine protobuf).step s .proceed = .ok s')

include top taken

theorem callMethodRet_of_proceed :
    ∃ before below, s.callMethodRet protobuf s.core.coSelf below number coro = .ok before ∧
      s' = before.tick := by
  obtain ⟨below, frames⟩ := State.top_cons.mp top
  have userRuns : s.core.UserRuns := by
    by_contra busy
    simp [machine, State.step, busy] at taken
  have proceeded : s.proceed protobuf s.core.coSelf =
      s.callMethodRet protobuf s.core.coSelf below number coro := by
    simp only [State.proceed, frames]
  simp only [machine, State.step, if_pos userRuns, proceeded] at taken
  obtain ⟨before, called, isNext⟩ := map_tick_cases taken
  exact ⟨before, below, called, isNext⟩

/-- A call that returns has a result. -/
theorem exists_ends : ∃ result, Ends protobuf s (s.call number) coro result := by
  obtain ⟨_, _, called, -⟩ := callMethodRet_of_proceed top taken
  cases timeouted : (s.core.coro coro).timeouted with
  | true => exact ⟨_, .timeouted timeouted⟩
  | false =>
      cases cancelled : (s.core.coro coro).cancelled with
      | true => exact ⟨_, .cancelled timeouted cancelled⟩
      | false =>
          simp only [State.callMethodRet, timeouted, cancelled, Bool.false_eq_true,
            if_false] at called
          split at called
          · cases called
          next recvPacket stored =>
            have resumed : ResumedWith s coro (s.received recvPacket).packet :=
              ⟨timeouted, cancelled, recvPacket, stored, rfl⟩
            cases text : (s.received recvPacket).packet.readString with
            | none => exact ⟨_, .noErrText resumed text⟩
            | some read =>
                obtain ⟨errText, body⟩ := read
                cases readable : (body.readMessage protobuf (s.call number).responseType
                    (s.call number).response).1 with
                | false => exact ⟨_, .noResponse resumed text readable⟩
                | true =>
                    by_cases empty : errText = []
                    · exact ⟨_, .response resumed (empty ▸ text) readable⟩
                    · exact ⟨_, .errText resumed text readable empty⟩

/-- A call whose coroutine resumed a packet returns with what it reads there. -/
theorem ResumedWith.controller {packet : Packet} (resumed : ResumedWith s coro packet) :
    (s'.call number).controller =
      (State.readResponse protobuf (s.call number) packet).controller := by
  obtain ⟨before, below, called, rfl⟩ := callMethodRet_of_proceed top taken
  obtain ⟨notTimeouted, notCancelled, recvPacket, stored, rfl⟩ := resumed
  have live : (s.received recvPacket).recycled = false := by
    cases recycled : (s.received recvPacket).recycled with
    | false => rfl
    | true =>
        simp only [State.callMethodRet, notTimeouted, notCancelled, stored, State.goto, recycled,
          Bool.false_eq_true, if_false, if_true] at called
        cases called
  obtain ⟨next, isNext, controller, -⟩ :=
    callMethodRet_read notTimeouted notCancelled stored live
  rw [isNext] at called
  cases called
  exact controller

/-- A call writes the text of its failure to its controller, and nothing else. -/
theorem Ends.controller (ends : Ends protobuf s (s.call number) coro result) :
    (s'.call number).controller =
      result.reason.elim (s.call number).controller (s.call number).controller.setFailed := by
  cases ends with
  | timeouted flag =>
      obtain ⟨before, below, called, rfl⟩ := callMethodRet_of_proceed top taken
      simp only [State.callMethodRet, flag, if_true] at called
      cases called
      simp [State.tick, State.setCall, CallResult.reason]
  | cancelled notTimeouted flag =>
      obtain ⟨before, below, called, rfl⟩ := callMethodRet_of_proceed top taken
      simp only [State.callMethodRet, notTimeouted, flag, Bool.false_eq_true, if_false,
        if_true] at called
      cases called
      simp [State.tick, State.setCall, CallResult.reason]
  | noErrText resumed unreadable =>
      rw [resumed.controller top taken]
      simp only [State.readResponse, unreadable, CallResult.reason, Option.elim]
  | noResponse resumed read unreadable =>
      rw [resumed.controller top taken]
      simp only [State.readResponse, read]
      split
      next => rfl
      next message => rw [message] at unreadable; cases unreadable
  | errText resumed read readable error =>
      rw [resumed.controller top taken]
      simp only [State.readResponse, read]
      split
      next message => rw [message] at readable; cases readable
      next => exact if_neg (by simpa using error)
  | response resumed read readable =>
      rw [resumed.controller top taken]
      simp only [State.readResponse, read]
      split
      next message => rw [message] at readable; cases readable
      next => rfl

end

/-! ## Sharing a controller -/

/-- A run in which calls share one controller: each is made with what the one before left,
after it has returned and with or without a `Reset`. The results of the calls are listed,
the last one first. -/
inductive Shared (protobuf : Protobuf Msg) :
    State Msg → List CallResult → RpcController → Prop where
  | new {env : Bool} {s : State Msg}
      (run : (machine protobuf).Run (fun _ _ => True) (State.init protobuf env) s) :
      Shared protobuf s [] .new
  | reset {s : State Msg} {results : List CallResult} {controller : RpcController}
      (shared : Shared protobuf s results controller) :
      Shared protobuf s results controller.reset
  /-- Something else happens. -/
  | other {s s' : State Msg} {results : List CallResult} {controller : RpcController}
      {label : Label Msg} (shared : Shared protobuf s results controller)
      (taken : (machine protobuf).step s label = .ok s') : Shared protobuf s' results controller
  /-- A call is made in the main coroutine. -/
  | refused {s s' : State Msg} {results : List CallResult} {controller : RpcController}
      {sessionId : Int} {method : MethodDescriptor} {request : Msg} {coro : CoroPtr}
      (shared : Shared protobuf s results controller)
      (found : s.core.getCurCoro = .ok (some coro))
      (isMain : (s.core.coro coro).isMainCoro = true)
      (taken : (machine protobuf).step s
        (.user (.callMethod sessionId method controller request)) = .ok s') :
      Shared protobuf s' (.refused :: results) (s'.call s.callCount).controller
  /-- A call is made, waits and returns. -/
  | returned {s s₁ s₂ s₃ : State Msg} {results : List CallResult}
      {controller : RpcController} {sessionId : Int} {method : MethodDescriptor} {request : Msg}
      {coro : CoroPtr} {result : CallResult} (shared : Shared protobuf s results controller)
      (began : (machine protobuf).step s
        (.user (.callMethod sessionId method controller request)) = .ok s₁)
      (run : (machine protobuf).Run (fun _ _ => True) s₁ s₂)
      (top : s₂.top s₂.core.coSelf = some (.callWait s.callCount coro))
      (ends : Ends protobuf s₂ (s₂.call s.callCount) coro result)
      (taken : (machine protobuf).step s₂ .proceed = .ok s₃) :
      Shared protobuf s₃ (result :: results) (s₃.call s.callCount).controller

/-- Calls that wait have been made, and each waits once. -/
structure Numbered (s : State Msg) : Prop where
  grounded : Grounded s
  ordered : Ordered s
  made : ∀ co number coro, s.top co = some (.callWait number coro) → number < s.callCount
  unique : ∀ number left right leftCoro rightCoro,
    s.top left = some (.callWait number leftCoro) →
    s.top right = some (.callWait number rightCoro) → left = right

theorem Numbered.step (numbered : Numbered s) {label : Label Msg}
    (effect : Effect protobuf s label s') : Numbered s' where
  grounded := numbered.grounded.step effect
  ordered := numbered.ordered.step numbered.grounded effect
  made co number coro top := by
    rcases effect.top_cases numbered.ordered rfl top with old | ⟨_, _, _, begins⟩
    · exact Nat.lt_of_lt_of_le (numbered.made co number coro old) effect.callCount_le
    · cases begins with
      | callWait _ _ _ count => exact count ▸ Nat.lt_succ_self _
  unique number left right leftCoro rightCoro leftTop rightTop := by
    have new : ∀ {co : Co} {coro : CoroPtr}, s.top co = some (.callWait number coro) →
        ¬ ∃ other, Begins protobuf s s' (.callWait number other) := by
      rintro co coro old ⟨other, begins⟩
      have made := numbered.made co number coro old
      cases begins
      exact absurd made (Nat.lt_irrefl _)
    rcases effect.top_cases numbered.ordered rfl leftTop with leftOld | ⟨leftSelf, _, _, leftNew⟩
    · rcases effect.top_cases numbered.ordered rfl rightTop with rightOld | ⟨_, _, _, rightNew⟩
      · exact numbered.unique number left right leftCoro rightCoro leftOld rightOld
      · exact absurd ⟨_, rightNew⟩ (new leftOld)
    · rcases effect.top_cases numbered.ordered rfl rightTop with rightOld | ⟨rightSelf, _⟩
      · exact absurd ⟨_, leftNew⟩ (new rightOld)
      · exact leftSelf.trans rightSelf.symm

theorem numbered_of_run {Allowed : State Msg → Label Msg → Prop} {env : Bool}
    (run : (machine protobuf).Run Allowed (State.init protobuf env) s) : Numbered s := by
  induction run with
  | start =>
      exact ⟨grounded_init, fun _ _ member => (by cases member), fun _ _ _ top => (by cases top),
        fun _ _ _ _ _ top => (by cases top)⟩
  | step _ _ taken ih => exact ih.step (step_effect taken)

/-- While a call waits, its controller stays as it was. -/
theorem controller_kept {number : CallId} {controller : RpcController}
    (run : (machine protobuf).Run (fun _ _ => True) s s') (numbered : Numbered s)
    (made : number < s.callCount) (isController : (s.call number).controller = controller) :
    Numbered s' ∧ number < s'.callCount ∧
      ∀ co coro, s'.top co = some (.callWait number coro) →
        (s'.call number).controller = controller := by
  induction run with
  | start => exact ⟨numbered, made, fun _ _ _ => isController⟩
  | step _ _ taken ih =>
      obtain ⟨numbered, made, kept⟩ := ih
      have effect := step_effect taken
      refine ⟨numbered.step effect, Nat.lt_of_lt_of_le made effect.callCount_le, ?_⟩
      intro co coro top
      rcases effect.top_cases numbered.ordered rfl top with old | ⟨_, _, _, begins⟩
      · rcases effect.call_cases made with same | ⟨_, rfl, other, runs⟩
        · rw [same]
          exact kept co coro old
        · -- The coroutine would have returned from its call.
          have isSelf := numbered.unique number co _ coro other old runs
          have waits := effect.top_of_proceed numbered.ordered (isSelf ▸ top)
          cases waits
      · cases begins
        exact absurd made (Nat.lt_irrefl _)

namespace Shared

variable {results : List CallResult} {controller : RpcController}

theorem run (shared : Shared protobuf s results controller) :
    ∃ env, (machine protobuf).Run (fun _ _ => True) (State.init protobuf env) s := by
  induction shared with
  | new run => exact ⟨_, run⟩
  | reset _ ih => exact ih
  | other _ taken ih | refused _ _ _ taken ih =>
      obtain ⟨env, run⟩ := ih
      exact ⟨env, run.step trivial taken⟩
  | returned _ began run _ _ taken ih =>
      obtain ⟨env, before⟩ := ih
      exact ⟨env, ((before.step trivial began).trans run).step trivial taken⟩

/-- A shared controller shows the last failure that had a text. -/
theorem controller_eq (shared : Shared protobuf s results controller) :
    controller = (results.findSome? CallResult.reason).elim .new RpcController.new.setFailed := by
  induction shared with
  | new => rfl
  | reset _ ih | other _ _ ih => exact ih
  | refused _ _ _ taken ih =>
      rw [(begun_of_callMethod taken).2, ih, List.findSome?_cons, CallResult.reason]
  | @returned s s₁ s₂ s₃ _ _ _ _ _ _ result shared began run top ends taken ih =>
      obtain ⟨env, before⟩ := shared.run
      obtain ⟨made, begun⟩ := begun_of_callMethod began
      have numbered := (numbered_of_run before).step (step_effect began)
      obtain ⟨-, -, kept⟩ := controller_kept run numbered made begun
      rw [ends.controller top taken, kept _ _ top, List.findSome?_cons]
      cases result.reason with
      | none => exact ih
      | some reason => rfl

end Shared

/-- After any sequence of calls that share a controller, it describes the result of the last
one exactly if that one was not refused, and it failed or none of the earlier ones did with a
text. -/
theorem shared_controller_tells_last {result : CallResult} {earlier : List CallResult}
    {controller : RpcController} (shared : Shared protobuf s (result :: earlier) controller) :
    result.shown = some controller ↔ result ≠ .refused ∧
      (result ≠ .succeeded ∨ ∀ other ∈ earlier, other.reason = none) := by
  rw [shared.controller_eq, List.findSome?_cons]
  cases result with
  | refused => simp [CallResult.shown]
  | failed reason => simp [CallResult.shown, CallResult.reason, RpcController.setFailed]
  | succeeded =>
      rw [← List.findSome?_eq_none_iff]
      cases earlier.findSome? CallResult.reason <;>
        simp [CallResult.shown, CallResult.reason, RpcController.new, RpcController.setFailed]

/-- Two calls on one controller, with a `Reset` between them, are answered with a response.
After the second the controller shows no failure. -/
theorem second_answer_told :
    let hello : EchoMessage := ⟨EchoMessage.request, some (text "hello")⟩
    let fine : EchoMessage := ⟨EchoMessage.response, some (text "fine")⟩
    let call : Label EchoMessage :=
      .user (.callMethod 9 echoMethod (RpcController.reset .new) hello)
    let s := (machine echoProtobuf).play (State.init echoProtobuf false) beforeCall
    let s₁ := (machine echoProtobuf).play s [call]
    let s₂ := (machine echoProtobuf).play s₁ (answered [] .new fine)
    let s₃ := (machine echoProtobuf).play s₂ [.proceed]
    let s₄ := (machine echoProtobuf).play s₃ [call]
    let s₅ := (machine echoProtobuf).play s₄ (answered [.proceed] .new fine)
    let s₆ := (machine echoProtobuf).play s₅ [.proceed]
    CallResult.succeeded.shown = some (s₆.call s₃.callCount).controller := by
  intro hello fine call s s₁ s₂ s₃ s₄ s₅ s₆
  have start : Shared echoProtobuf s [] .new :=
    .new (.of_play (by decide +kernel))
  have began : (machine echoProtobuf).step s call = .ok s₁ :=
    Machine.step_of_play (by decide +kernel)
  have run : (machine echoProtobuf).Run (fun _ _ => True) s₁ s₂ :=
    .of_play (by decide +kernel)
  have resumed : ResumedWith s₂ 0 (s₂.received 0).packet :=
    ⟨by decide +kernel, by decide +kernel, 0, by decide +kernel, rfl⟩
  have read : (s₂.received 0).packet.readString = some ([], (s₂.received 0).packet.advance 4) := by
    decide +kernel
  have returned : (machine echoProtobuf).step s₂ .proceed = .ok s₃ :=
    Machine.step_of_play (by decide +kernel)
  have first : Shared echoProtobuf s₃ [.succeeded] (s₃.call s.callCount).controller :=
    start.returned began run (by decide +kernel) (.response resumed read (by decide +kernel))
      returned
  have left : (s₃.call s.callCount).controller = .new := by decide +kernel
  rw [left] at first
  have began' : (machine echoProtobuf).step s₃ call = .ok s₄ :=
    Machine.step_of_play (by decide +kernel)
  have run' : (machine echoProtobuf).Run (fun _ _ => True) s₄ s₅ :=
    .of_play (by decide +kernel)
  have resumed' : ResumedWith s₅ 0 (s₅.received 1).packet :=
    ⟨by decide +kernel, by decide +kernel, 1, by decide +kernel, rfl⟩
  have read' : (s₅.received 1).packet.readString =
      some ([], (s₅.received 1).packet.advance 4) := by
    decide +kernel
  have returned' : (machine echoProtobuf).step s₅ .proceed = .ok s₆ :=
    Machine.step_of_play (by decide +kernel)
  have second := first.reset.returned began' run' (by decide +kernel)
    (.response resumed' read' (by decide +kernel)) returned'
  exact (shared_controller_tells_last second).mpr (by decide)

/-- A call fails, and the next one on the same controller is answered. -/
def failsThenAnswered : List (Label EchoMessage) :=
  let hello : EchoMessage := ⟨EchoMessage.request, some (text "hello")⟩
  .flatten [beforeCall, [.user (.callMethod 9 echoMethod .new hello)],
    answered [] ⟨true, text "busy"⟩ ⟨EchoMessage.response, none⟩,
    [.proceed, .user (.callMethod 9 echoMethod (RpcController.reset ⟨true, text "busy"⟩) hello)],
    answered [.proceed] .new ⟨EchoMessage.response, some (text "fine")⟩, [.proceed]]

/-- A call fails, and the next one on the same controller is answered with a response and no
error text. The controller still shows the failure. -/
theorem old_failure_shown :
    ((machine echoProtobuf).replay (fun _ _ => true) (State.init echoProtobuf false)
      failsThenAnswered).map
      (fun s => decide ((s.call 0).controller = ⟨true, text "busy"⟩ ∧
        (s.call 1).decoded = some 1 ∧
        (s.call 1).response = ⟨EchoMessage.response, some (text "fine")⟩ ∧
        (s.call 1).controller = ⟨true, text "busy"⟩)) =
    some true := by
  decide +kernel

end LibcoRpc.Rpc
