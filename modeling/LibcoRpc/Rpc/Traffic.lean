import LibcoRpc.Rpc.Answers
import LibcoRpc.Rpc.Envelope
import LibcoRpc.Rpc.Replies

/-!
# What a process sends

A process hands two kinds of packets to `PushPacket`: the request of a call that begins,
and the reply to a request whose handler returns. Both are fixed from then on: nothing
changes the address of a call, and nothing touches the controller or the response of a
request that has been replied to. Coroutine ids fit into the four bytes they are sent in,
whatever the program does.
-/

namespace LibcoRpc.Rpc

open LibcoRpc.Std
open LibcoRpc.CoroMgr (Co CoroPtr Choice Op)

variable {Msg : Type} {protobuf : Protobuf Msg} {s s' : State Msg} {label : Label Msg}

/-! ## Packets -/

/-- What a step hands to `PushPacket`. -/
inductive Sends (protobuf : Protobuf Msg) (s s' : State Msg) : Label Msg → Prop where
  | nothing {label : Label Msg} (pushed : s'.pushed = s.pushed) : Sends protobuf s s' label
  /-- `CallMethod` sends its request. -/
  | request {sessionId : Int} {method : MethodDescriptor} {controller : RpcController}
      {request : Msg}
      (pushed : s'.pushed = requestPacket protobuf sessionId method
        (s'.call s.callCount).srcCoroId request :: s.pushed)
      (count : s'.callCount = s.callCount + 1) (sent : (s'.call s.callCount).sent = true)
      (session : (s'.call s.callCount).sessionId = sessionId)
      (responseType : (s'.call s.callCount).responseType = method.responseType) :
      Sends protobuf s s' (.user (.callMethod sessionId method controller request))
  /-- `OnRpcDone` sends the reply. -/
  | reply {packet : PacketPtr} {frame : RpcFrame} {rest : List RpcFrame} {request : Request Msg}
      (pushed : s'.pushed = request.reply protobuf :: s.pushed)
      (frames : s.frames s.core.coSelf = frame :: rest) (job : frame.job = some packet)
      (accepted : s.request packet = some request)
      (returned : s'.request =
        Function.update s.request packet (some { request with returned := true })) :
      Sends protobuf s s' (.user .handlerReturn)

theorem Effect.sends (effect : Effect protobuf s label s') : Sends protobuf s s' label := by
  cases effect with
  | called =>
      refine .request ?_ rfl ?_ ?_ ?_ <;>
        simp only [State.tick, State.goto, State.pushPacket, State.newCall, Function.update_self,
          State.beginCall]
  | handled _ frames accepted =>
      refine .reply rfl frames rfl accepted ?_
      refine State.request_of_received (Function.update_idem ..) ?_
      simp [State.onRpcDone, State.pushPacket, State.setReceived, State.goto]
  | finished _ frames accepted =>
      exact .reply rfl frames rfl accepted (State.request_of_received rfl rfl)
  | _ => exact .nothing rfl

/-- A reply begins with the coroutine that it is for. -/
theorem readInt32_reply {packet : Packet} {request : Request Msg}
    (fits : IsInt32 request.srcCoroId) (unreadAll : packet.readPos = 0)
    (payload : packet.payload = (request.reply protobuf).payload) :
    packet.readInt32.map Prod.fst = some request.srcCoroId := by
  have unread := unread_of_payload unreadAll (payload.trans (replyPacket_payload ..))
  rw [Packet.readInt32_iff.mpr ⟨fits, rfl, _, unread⟩]
  rfl

/-- The request whose handler is about to return has not been replied to. -/
theorem running_of_job {Allowed : State Msg → Label Msg → Prop} {env : Bool}
    (run : (machine protobuf).Run Allowed (State.init protobuf env) s) {co : Co}
    {frame : RpcFrame} {rest : List RpcFrame} {packet : PacketPtr} {request : Request Msg}
    (frames : s.frames co = frame :: rest) (job : frame.job = some packet)
    (accepted : s.request packet = some request) :
    packet < s.receivedCount ∧ request.returned = false := by
  obtain ⟨grounded, _⟩ := represented_of_run run
  have held : packet ∈ s.handling := by
    refine grounded.mem_handling_iff.mpr ⟨co, ?_⟩
    rw [State.jobs_top frames job]
    exact List.mem_cons_self
  obtain ⟨known, running⟩ := (handling_iff run packet).mp held
  refine ⟨known, ?_⟩
  simpa [accepted, stageOf] using running

/-- A request that has been replied to stays as it is. -/
theorem returned_kept {Allowed : State Msg → Label Msg → Prop} {env : Bool}
    (run : (machine protobuf).Run Allowed (State.init protobuf env) s)
    (effect : Effect protobuf s label s') {packet : PacketPtr} {request : Request Msg}
    (known : packet < s.receivedCount) (accepted : s.request packet = some request)
    (returned : request.returned = true) : s'.request packet = some request := by
  have untouched : ∀ {other : PacketPtr} {value : Received Msg}, packet ≠ other →
      s'.received = Function.update s.received other value → s'.request packet = some request := by
    intro other value different written
    rw [State.request_of_received written rfl, Function.update_of_ne different, accepted]
  have isOld := Nat.ne_of_lt known
  cases effect with
  | work | op | rejected | called | flagged | addService => exact accepted
  | read | back =>
      refine (congrFun ?_ packet).trans accepted
      exact State.request_kept rfl rfl
  | dropped => exact untouched isOld (Function.update_idem ..)
  | dispatched | inline | spawned => exact untouched isOld rfl
  | @wrote _ other request' _ _ accepted' running =>
      refine untouched (fun same => ?_) rfl
      obtain rfl : request' = request := Option.some.inj ((same ▸ accepted').symm.trans accepted)
      simp [returned] at running
  | handled _ frames accepted' =>
      refine untouched (fun same => ?_) (Function.update_idem ..)
      subst same
      have running := (running_of_job run frames rfl accepted).2
      simp [returned] at running
  | finished _ frames accepted' =>
      refine untouched (fun same => ?_) rfl
      subst same
      have running := (running_of_job run frames rfl accepted).2
      simp [returned] at running

/-- A request that has been replied to was so before, or the step has sent its reply. -/
theorem Effect.returned_cases (effect : Effect protobuf s label s') {packet : PacketPtr}
    {request : Request Msg} (old : packet < s.receivedCount)
    (accepted : s'.request packet = some request) (returned : request.returned = true) :
    s.request packet = some request ∨
      label = .user .handlerReturn ∧
        (s.frames s.core.coSelf).head?.bind RpcFrame.job = some packet ∧
        s'.pushed = request.reply protobuf :: s.pushed := by
  have elsewhere : ∀ {other : PacketPtr} {value : Received Msg}, packet ≠ other →
      s'.received = Function.update s.received other value → s.request packet = some request := by
    intro other value different written
    rwa [State.request_of_received written rfl, Function.update_of_ne different] at accepted
  have isOld := Nat.ne_of_lt old
  -- The step writes that the handler of `other` has returned.
  have settled : ∀ (other : PacketPtr) (before : Request Msg), s'.request =
        Function.update s.request other (some { before with returned := true }) →
      s.request packet = some request ∨
        packet = other ∧ request.reply protobuf = before.reply protobuf := by
    intro other before written
    rw [written] at accepted
    by_cases same : packet = other
    · rw [same, Function.update_self] at accepted
      exact .inr ⟨same, Option.some.inj accepted ▸ rfl⟩
    · rw [Function.update_of_ne same] at accepted
      exact .inl accepted
  cases effect with
  | work | op | rejected | called | flagged | addService => exact .inl accepted
  | read | back =>
      refine .inl ((congrFun ?_ packet).symm.trans accepted)
      exact State.request_kept rfl rfl
  | dropped => exact .inl (elsewhere isOld (Function.update_idem ..))
  | dispatched | inline | spawned => exact .inl (elsewhere isOld rfl)
  | @wrote _ other _ after _ _ _ _ kept =>
      refine .inl (elsewhere (fun same => ?_) rfl)
      have isAfter : some after = some request := by
        rw [← accepted, same, State.request_of_received rfl rfl, Function.update_self]
      have running := kept.2.2
      rw [Option.some.inj isAfter, returned] at running
      cases running
  | @handled other _ before _ frames =>
      refine (settled other before
        (State.request_of_received (Function.update_idem ..) ?_)).imp_right ?_
      · simp [State.onRpcDone, State.pushPacket, State.setReceived, State.goto]
      · rintro ⟨rfl, same⟩
        refine ⟨rfl, by rw [frames]; rfl, ?_⟩
        rw [same]
        rfl
  | @finished other _ before _ _ frames =>
      refine (settled other before (State.request_of_received rfl rfl)).imp_right ?_
      rintro ⟨rfl, same⟩
      refine ⟨rfl, by rw [frames]; rfl, ?_⟩
      rw [same]
      rfl

/-- A packet that arrives has not been replied to. -/
theorem Effect.settled_of_deliver {packet : Packet} {answers : Option CallId} {ptr : PacketPtr}
    {request : Request Msg} (effect : Effect protobuf s (.user (.deliver packet answers)) s')
    (known : ptr < s'.receivedCount) (accepted : s'.request ptr = some request)
    (returned : request.returned = true) :
    ptr < s.receivedCount ∧ s.request ptr = some request := by
  obtain ⟨count, made⟩ := effect.made_of_deliver
  rw [count] at known
  rcases Nat.lt_succ_iff_lt_or_eq.mp known with old | rfl
  · rcases effect.returned_cases old accepted returned with was | ⟨isReturn, _⟩
    · exact ⟨old, was⟩
    · cases isReturn
  · rcases made.request with ⟨none, _⟩ | ⟨request', _, accepts, isRequest⟩
    · rw [State.request, none] at accepted
      cases accepted
    · obtain rfl : request' = request := Option.some.inj (isRequest.symm.trans accepted)
      rw [accepts.fresh.2.2] at returned
      cases returned

/-- What a request says of the call it was sent for. -/
def Call.address (call : Call Msg) : Bool × Int × Int × MessageType :=
  (call.sent, call.sessionId, call.srcCoroId, call.responseType)

theorem Effect.address_kept (effect : Effect protobuf s label s') {number : CallId}
    (old : number < s.callCount) : (s'.call number).address = (s.call number).address := by
  have same : s'.call number = s.call number →
      (s'.call number).address = (s.call number).address := congrArg Call.address
  cases effect with
  | rejected | called => exact same (Function.update_of_ne (Nat.ne_of_lt old) _ _)
  | @flagged waiting | @read waiting =>
      by_cases isWaiting : number = waiting
      · subst isWaiting
        simp only [State.tick, State.setCall, Function.update_self, Call.address]
      · exact same (Function.update_of_ne isWaiting _ _)
  | _ => rfl

/-- What a process has sent and received is not changed any more. -/
structure State.Extends (s s' : State Msg) : Prop where
  calls : ∀ number, number < s.callCount → number < s'.callCount ∧
    (s'.call number).address = (s.call number).address
  packets : ∀ packet, packet < s.receivedCount → packet < s'.receivedCount ∧
    (s'.received packet).arrived = (s.received packet).arrived ∧
    (s'.received packet).answers = (s.received packet).answers
  settled : ∀ packet request, packet < s.receivedCount → s.request packet = some request →
    request.returned = true → s'.request packet = some request

theorem State.Extends.refl (s : State Msg) : s.Extends s :=
  ⟨fun _ made => ⟨made, rfl⟩, fun _ known => ⟨known, rfl, rfl⟩, fun _ _ _ accepted _ => accepted⟩

theorem State.Extends.trans {s'' : State Msg} (first : s.Extends s') (second : s'.Extends s'') :
    s.Extends s'' where
  calls number made := by
    obtain ⟨stillMade, same⟩ := first.calls number made
    obtain ⟨stillMade', same'⟩ := second.calls number stillMade
    exact ⟨stillMade', same'.trans same⟩
  packets packet known := by
    obtain ⟨stillKnown, arrived, answers⟩ := first.packets packet known
    obtain ⟨stillKnown', arrived', answers'⟩ := second.packets packet stillKnown
    exact ⟨stillKnown', arrived'.trans arrived, answers'.trans answers⟩
  settled packet request known accepted returned :=
    second.settled packet request (first.packets packet known).1
      (first.settled packet request known accepted returned) returned

theorem extends_of_effect {Allowed : State Msg → Label Msg → Prop} {env : Bool}
    (run : (machine protobuf).Run Allowed (State.init protobuf env) s)
    (effect : Effect protobuf s label s') : s.Extends s' where
  calls _ made := ⟨Nat.lt_of_lt_of_le made effect.callCount_le, effect.address_kept made⟩
  packets packet known := by
    refine ⟨Nat.lt_of_lt_of_le known effect.receivedCount_le, ?_⟩
    rcases effect.received_cases with ⟨_, kept⟩ | ⟨_, _, _, _, same, _⟩
    · exact ⟨(kept packet).arrived, (kept packet).answers⟩
    · rw [same packet (Nat.ne_of_lt known)]
      exact ⟨rfl, rfl⟩
  settled _ _ known accepted returned := returned_kept run effect known accepted returned

/-! ## Coroutine ids -/

/-- The counter and the ids that it has given out are not negative, and fit into an `int`. -/
structure IdsFit (r : CoroMgr.Registry) : Prop where
  counter : 0 ≤ r.maxCoroId ∧ r.maxCoroId < 2 ^ 31
  ids : ∀ coro, IsInt32 (r.coroId coro)

theorem IdsFit.register {r : CoroMgr.Registry} (fit : IdsFit r) (inner : Co) (cEnd : Bool) :
    IdsFit (r.register inner cEnd) := by
  have range := CoroMgr.nextCoroId_range fit.counter.1 fit.counter.2
  refine ⟨⟨Int.le_trans (by decide) range.1, range.2⟩, fun coro => ?_⟩
  have isId : (r.register inner cEnd).coroId =
      Function.update r.coroId r.coroCount (CoroMgr.nextCoroId r.maxCoroId) := rfl
  rw [isId]
  by_cases new : coro = r.coroCount
  · rw [new, Function.update_self]
    exact ⟨Int.le_trans (by decide) range.1, range.2⟩
  · rw [Function.update_of_ne new]
    exact fit.ids coro

theorem IdsFit.step {r r' : CoroMgr.Registry} {issued : Option Int} (fit : IdsFit r)
    (taken : r.Step issued r') : IdsFit r' := by
  have zero : (0 : Int) ≤ 0 ∧ (0 : Int) < 2 ^ 31 := by decide
  have reset : IdsFit { r with maxCoroId := 0 } := ⟨zero, fit.ids⟩
  cases taken with
  | stay | enter | leave | clear => exact ⟨fit.counter, fit.ids⟩
  | reset => exact reset
  | create => exact fit.register _ _
  | start => exact reset.register _ _
  | finish =>
      unfold CoroMgr.Registry.finish
      dsimp only
      split <;> exact ⟨fit.counter, fit.ids⟩

theorem idsFit_init (env : Bool) : IdsFit (CoroMgr.State.init env).registry := by
  have zero : (0 : Int) ≤ 0 ∧ (0 : Int) < 2 ^ 31 := by decide
  have fits : IsInt32 0 := by decide
  exact ⟨zero, fun _ => fits⟩

/-- Every id that a call sends fits into four bytes. -/
theorem srcCoroId_fits {Allowed : State Msg → Label Msg → Prop} {env : Bool}
    (run : (machine protobuf).Run Allowed (State.init protobuf env) s) :
    IdsFit s.core.registry ∧
      ∀ number, number < s.callCount → IsInt32 (s.call number).srcCoroId := by
  refine run.invariant (fun s => IdsFit s.core.registry ∧
    ∀ number, number < s.callCount → IsInt32 (s.call number).srcCoroId)
    ⟨idsFit_init env, fun _ made => absurd made (Nat.not_lt_zero _)⟩ ?_
  rintro state label next ⟨fit, calls⟩ _ taken
  have effect := step_effect taken
  refine ⟨effect.core_steps.invariant (fun core => IdsFit core.registry) fit
    fun _ _ _ fit _ taken => fit.step (CoroMgr.State.step_registry taken), ?_⟩
  intro number made
  rcases effect.made_cases made with old | ⟨_, _, _, begun⟩
  · rw [(effect.call_kept old).srcCoroId]
    exact calls number old
  · rw [begun.srcCoroId]
    exact fit.ids _

end LibcoRpc.Rpc
