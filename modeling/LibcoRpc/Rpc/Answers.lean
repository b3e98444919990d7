import LibcoRpc.Rpc.Outcomes

/-!
# Which call a response answers

On the wire a response names the coroutine that called, not the call. Servers are taken to
be honest: they answer a request at most once, on its session and to its coroutine
(`Honest`). Then a call reads the answer to itself as long as a coroutine makes no call
while an answer to an earlier one of its calls is still to come (`NoneOutstanding`), and a
late answer is taken for the answer to the next call otherwise.
-/

namespace LibcoRpc.Rpc

open LibcoRpc.Std
open LibcoRpc.CoroMgr (Co CoroPtr Choice Op)

variable {Msg : Type} {protobuf : Protobuf Msg} {s s' : State Msg}

/-! ## Servers and callers -/

/-- The packet is a response, and its server says that it answers the call. -/
def State.Answers (s : State Msg) (packet : PacketPtr) (number : CallId) : Prop :=
  packet < s.receivedCount ∧ (s.received packet).arrived.opcode = rpcRsp ∧
    (s.received packet).answers = some number

/-- A response to the call has arrived. -/
def State.Answered (s : State Msg) (number : CallId) : Prop :=
  ∃ packet, s.Answers packet number

instance (s : State Msg) (number : CallId) : Decidable (s.Answered number) :=
  inferInstanceAs (Decidable (∃ packet, packet < s.receivedCount ∧
    (s.received packet).arrived.opcode = rpcRsp ∧ (s.received packet).answers = some number))

/-- The response that a step hands to its handler, and the call that it is said to answer. -/
def Label.response : Label Msg → Option (Packet × Option CallId)
  | .user (.deliver packet answers) =>
      if packet.opcode = rpcRsp then some (packet, answers) else none
  | _ => none

/-- A response answers a request that has been sent, on the session and to the coroutine of
the request, and is the first to do so. -/
def Honest (s : State Msg) (label : Label Msg) : Prop :=
  ∀ response ∈ label.response, ∃ number ∈ response.2,
    number < s.callCount ∧ (s.call number).sent = true ∧
    response.1.sessionId = (s.call number).sessionId ∧
    response.1.readInt32.map Prod.fst = some (s.call number).srcCoroId ∧ ¬ s.Answered number

/-- Every request that the caller has sent before has been answered. -/
def NoneOutstanding (s : State Msg) (label : Label Msg) : Prop :=
  label.controller.isSome = true → ∀ number, number < s.callCount → (s.call number).sent = true →
    (s.call number).caller = s.core.coSelf → s.Answered number

instance (s : State Msg) (label : Label Msg) : Decidable (Honest s label) :=
  inferInstanceAs (Decidable (∀ response ∈ label.response, _))

instance (s : State Msg) (label : Label Msg) : Decidable (NoneOutstanding s label) :=
  inferInstanceAs (Decidable (_ → ∀ number, number < s.callCount → _))

/-! ## The invariant -/

/-- The id that a packet begins with. -/
def State.dstCoroId (s : State Msg) (packet : PacketPtr) : Option Int :=
  (s.received packet).arrived.readInt32.map Prod.fst

/-- Calls, coroutines and responses belong together. -/
structure Paired (s : State Msg) : Prop where
  ids : ∀ number, number < s.callCount → (s.call number).sent = true →
    (s.call number).caller = .co (s.call number).coro ∧
    (s.call number).coro < s.core.coroCount ∧
    (s.call number).srcCoroId = (s.core.coro (s.call number).coro).coroId
  /-- A coroutine waits in its latest call. -/
  latest : ∀ co number coro, s.top co = some (.callWait number coro) →
    ∀ other, other < s.callCount → (s.call other).sent = true → (s.call other).caller = co →
      other ≤ number
  responses : ∀ packet, packet < s.receivedCount → (s.received packet).arrived.opcode = rpcRsp →
    ∃ number, s.Answers packet number ∧ number < s.callCount ∧ (s.call number).sent = true ∧
      s.dstCoroId packet = some (s.call number).srcCoroId
  once : ∀ left right number, s.Answers left number → s.Answers right number → left = right
  /-- A call begins when the earlier ones of its coroutine have been answered. -/
  settled : ∀ earlier later, earlier < later → later < s.callCount →
    (s.call earlier).sent = true → (s.call later).sent = true →
    (s.call earlier).caller = (s.call later).caller →
      ∃ packet, s.Answers packet earlier ∧
        (s.received packet).arrivedAt < (s.call later).startedAt
  dispatched : ∀ co packet coro, s.top co = some (.rspRet packet coro) →
    coro < s.core.coroCount ∧ s.dstCoroId packet = some (s.core.coro coro).coroId
  decoded : ∀ number packet, number < s.callCount → (s.call number).decoded = some packet →
    s.Answers packet number

/-- A call reads the answer to itself. -/
theorem Paired.of_read (paired : Paired s) (correlated : Correlated protobuf s)
    (own : s.core.registry.OwnIds) (userRuns : s.core.UserRuns) {number : CallId}
    {coro : CoroPtr} {packet : PacketPtr}
    (top : s.top s.core.coSelf = some (.callWait number coro))
    (stored : (s.core.coro coro).ptrParam1 = some packet)
    (live : (s.received packet).recycled = false) : s.Answers packet number := by
  obtain ⟨known, unread, precedes⟩ := correlated.of_read userRuns top stored live
  obtain ⟨_, waiting⟩ := correlated.waiting _ _ _ top
  obtain ⟨other, answers, made, sentOther, dst⟩ := paired.responses packet known unread.isRsp
  -- The answered call was made by the coroutine that the packet was dispatched to.
  obtain ⟨co, dispatch⟩ := (correlated.stored coro packet stored).2.resolve_left (by simp [live])
  obtain ⟨created, dstToo⟩ := paired.dispatched co packet coro dispatch
  obtain ⟨callerOther, createdOther, srcOther⟩ := paired.ids other made sentOther
  have sameId : (s.core.coro (s.call other).coro).coroId = (s.core.coro coro).coroId := by
    rw [← srcOther]
    exact Option.some.inj (dst.symm.trans dstToo)
  have sameCoro : (s.call other).coro = coro := own.distinct _ _ createdOther created sameId
  have sameCaller : (s.call other).caller = (s.call number).caller := by
    rw [callerOther, sameCoro, waiting.caller]
  have isSelf := (correlated.waiting _ _ _ top).1
  have upTo := paired.latest _ _ _ top other made sentOther
    (by rw [sameCaller, waiting.caller, isSelf])
  rcases Nat.lt_or_eq_of_le upTo with before | rfl
  · -- An earlier call had its answer before this one began.
    obtain ⟨first, answersFirst, early⟩ :=
      paired.settled other number before waiting.made sentOther waiting.sent sameCaller
    have same := paired.once first packet other answersFirst answers
    subst same
    exact absurd (Nat.lt_trans early precedes) (Nat.lt_irrefl _)
  · exact answers

/-! ## The invariant along a step -/

section

variable {label : Label Msg} {packet : PacketPtr} {number : CallId}

/-- A packet goes on answering the call it answers. -/
theorem State.Answers.kept (answers : s.Answers packet number)
    (effect : Effect protobuf s label s') :
    s'.Answers packet number ∧
      (s'.received packet).arrivedAt = (s.received packet).arrivedAt := by
  obtain ⟨known, isRsp, answered⟩ := answers
  have more := Nat.lt_of_lt_of_le known effect.receivedCount_le
  rcases effect.received_cases with ⟨_, kept⟩ | ⟨_, _, _, _, same, _⟩
  · have kept := kept packet
    exact ⟨⟨more, kept.arrived ▸ isRsp, kept.answers ▸ answered⟩, kept.arrivedAt⟩
  · have same := same packet (Nat.ne_of_lt known)
    exact ⟨⟨more, same ▸ isRsp, same ▸ answered⟩, congrArg Received.arrivedAt same⟩

/-- A packet keeps the id it begins with. -/
theorem Effect.dstCoroId_kept (effect : Effect protobuf s label s')
    (known : packet < s.receivedCount) : s'.dstCoroId packet = s.dstCoroId packet := by
  rcases effect.received_cases with ⟨_, kept⟩ | ⟨_, _, _, _, same, _⟩
  · rw [State.dstCoroId, (kept packet).arrived, State.dstCoroId]
  · rw [State.dstCoroId, same packet (Nat.ne_of_lt known), State.dstCoroId]

/-- A response is an old one, or the step has received it. -/
theorem Effect.response_cases (effect : Effect protobuf s label s')
    (known : packet < s'.receivedCount) (isRsp : (s'.received packet).arrived.opcode = rpcRsp) :
    packet < s.receivedCount ∧ (s.received packet).arrived.opcode = rpcRsp ∧
        (s'.received packet).answers = (s.received packet).answers ∨
      packet = s.receivedCount ∧
        label.response = some ((s'.received packet).arrived, (s'.received packet).answers) := by
  rcases effect.received_cases with ⟨count, kept⟩ | ⟨arrived, said, rfl, count, same, made⟩
  · exact .inl ⟨count ▸ known, (kept packet).arrived ▸ isRsp, (kept packet).answers⟩
  · by_cases new : packet = s.receivedCount
    · subst new
      rw [made.arrived] at isRsp
      exact .inr ⟨rfl, by simp [Label.response, isRsp, made.arrived, made.answers]⟩
    · rw [count] at known
      have same := same packet new
      exact .inl ⟨Nat.lt_of_le_of_ne (Nat.le_of_lt_succ known) new, same ▸ isRsp,
        congrArg Received.answers same⟩

/-- A packet that answers a call did so before, or is the first one to do so. -/
theorem Effect.answers_cases (effect : Effect protobuf s label s') (honest : Honest s label)
    (answers : s'.Answers packet number) :
    s.Answers packet number ∨ packet = s.receivedCount ∧ ¬ s.Answered number := by
  obtain ⟨known, isRsp, answered⟩ := answers
  rcases effect.response_cases known isRsp with ⟨known, isRsp, same⟩ | ⟨isNew, response⟩
  · exact .inl ⟨known, isRsp, same ▸ answered⟩
  · obtain ⟨said, isSaid, _, _, _, _, first⟩ := honest _ response
    have same : said = number := Option.some.inj ((Option.mem_def.mp isSaid).symm.trans answered)
    exact .inr ⟨isNew, same ▸ first⟩

/-- A call decodes a packet when it returns. -/
theorem Effect.decoded_cases (effect : Effect protobuf s label s')
    (old : number < s.callCount) (decoded : (s'.call number).decoded = some packet) :
    (s.call number).decoded = some packet ∨
      s.core.UserRuns ∧ ∃ coro, s.top s.core.coSelf = some (.callWait number coro) ∧
        (s.core.coro coro).ptrParam1 = some packet ∧ (s.received packet).recycled = false := by
  have same : s'.call number = s.call number → (s.call number).decoded = some packet :=
    fun same => same ▸ decoded
  cases effect with
  | rejected | called => exact .inl (same (Function.update_of_ne (Nat.ne_of_lt old) _ _))
  | @flagged waiting =>
      by_cases isWaiting : number = waiting
      · subst isWaiting
        simp only [State.tick, State.setCall, Function.update_self] at decoded
        exact .inl decoded
      · exact .inl (same (Function.update_of_ne isWaiting _ _))
  | @read waiting coro _ recvPacket _ userRuns frames stored live =>
      by_cases isWaiting : number = waiting
      · subst isWaiting
        simp only [State.tick, State.setCall, Function.update_self] at decoded
        split at decoded
        · cases decoded
          exact .inr ⟨userRuns, coro, State.top_cons.mpr ⟨_, frames⟩, stored, live⟩
        · cases decoded
      · exact .inl (same (Function.update_of_ne isWaiting _ _))
  | _ => exact .inl decoded

/-- A call that sends its request is made by a coroutine. -/
theorem Call.Begun.self {call : Call Msg} (begun : call.Begun s label)
    (named : s.core.registry.Named) (sent : call.sent = true) : s.core.coSelf = .co call.coro := by
  rcases CoroMgr.getCurCoro_cases named begun.found with ⟨_, isMain⟩ | self
  · rw [begun.sent] at sent
    simp [CoroMgr.Coro.isMainCoro, isMain] at sent
  · exact self

end

namespace Paired

variable {label : Label Msg} (paired : Paired s) (correlated : Correlated protobuf s)
  (named : s.core.registry.Named) (effect : Effect protobuf s label s')

include paired effect

/-- Every response answers a call that was sent, and names its coroutine. -/
theorem responses_step (honest : Honest s label) (packet : PacketPtr)
    (known : packet < s'.receivedCount)
    (isRsp : (s'.received packet).arrived.opcode = rpcRsp) :
    ∃ number, s'.Answers packet number ∧ number < s'.callCount ∧
      (s'.call number).sent = true ∧ s'.dstCoroId packet = some (s'.call number).srcCoroId := by
  rcases effect.response_cases known isRsp with ⟨old, wasRsp, _⟩ | ⟨_, response⟩
  · obtain ⟨number, answers, made, sent, dst⟩ := paired.responses packet old wasRsp
    have kept := effect.call_kept made
    refine ⟨number, (answers.kept effect).1, Nat.lt_of_lt_of_le made effect.callCount_le,
      kept.sent ▸ sent, ?_⟩
    rw [effect.dstCoroId_kept old, kept.srcCoroId, dst]
  · obtain ⟨number, said, made, sent, _, dst, _⟩ := honest _ response
    have kept := effect.call_kept made
    refine ⟨number, ⟨known, isRsp, said⟩, Nat.lt_of_lt_of_le made effect.callCount_le,
      kept.sent ▸ sent, ?_⟩
    rw [kept.srcCoroId]
    exact dst

/-- A call is answered once. -/
theorem once_step (honest : Honest s label) (left right : PacketPtr) (number : CallId)
    (leftAnswers : s'.Answers left number) (rightAnswers : s'.Answers right number) :
    left = right := by
  rcases effect.answers_cases honest leftAnswers with leftOld | ⟨leftNew, first⟩
  · rcases effect.answers_cases honest rightAnswers with rightOld | ⟨_, first⟩
    · exact paired.once left right number leftOld rightOld
    · exact absurd ⟨left, leftOld⟩ first
  · rcases effect.answers_cases honest rightAnswers with rightOld | ⟨rightNew, _⟩
    · exact absurd ⟨right, rightOld⟩ first
    · exact leftNew.trans rightNew.symm

include correlated

/-- A coroutine waits in the last of its calls. -/
theorem latest_step (co : Co) (number : CallId) (coro : CoroPtr)
    (top : s'.top co = some (.callWait number coro)) (other : CallId)
    (made : other < s'.callCount) (sent : (s'.call other).sent = true)
    (caller : (s'.call other).caller = co) : other ≤ number := by
  rcases effect.top_cases correlated.ordered rfl top with waited | ⟨_, _, _, begins⟩
  · rcases effect.made_cases made with old | ⟨_, userCode, _, begun⟩
    · have kept := effect.call_kept old
      exact paired.latest co number coro waited other old (kept.sent ▸ sent)
        (kept.caller ▸ caller)
    · -- A coroutine that waits in a call makes no other.
      rw [← caller, begun.caller] at waited
      have waits := userCode_top userCode waited
      cases waits
  · cases begins with
    | callWait _ _ _ count =>
        rw [count] at made
        exact Nat.le_of_lt_succ made

/-- When a coroutine makes a call, its earlier ones have been answered. -/
theorem settled_step (noneOutstanding : NoneOutstanding s label) (earlier later : CallId)
    (before : earlier < later) (made : later < s'.callCount)
    (sentEarlier : (s'.call earlier).sent = true) (sentLater : (s'.call later).sent = true)
    (sameCaller : (s'.call earlier).caller = (s'.call later).caller) :
    ∃ packet, s'.Answers packet earlier ∧
      (s'.received packet).arrivedAt < (s'.call later).startedAt := by
  rcases effect.made_cases made with old | ⟨rfl, _, _, begun⟩
  · have keptEarlier := effect.call_kept (Nat.lt_trans before old)
    have keptLater := effect.call_kept old
    obtain ⟨packet, answers, early⟩ := paired.settled earlier later before old
      (keptEarlier.sent ▸ sentEarlier) (keptLater.sent ▸ sentLater)
      (by rw [← keptEarlier.caller, ← keptLater.caller, sameCaller])
    obtain ⟨still, arrivedAt⟩ := answers.kept effect
    exact ⟨packet, still, by rwa [arrivedAt, keptLater.startedAt]⟩
  · have kept := effect.call_kept before
    obtain ⟨packet, answers⟩ := noneOutstanding (by simp [begun.controller]) earlier before
      (kept.sent ▸ sentEarlier) (by rw [← kept.caller, sameCaller, begun.caller])
    obtain ⟨still, arrivedAt⟩ := answers.kept effect
    refine ⟨packet, still, ?_⟩
    rw [arrivedAt, begun.startedAt]
    exact correlated.packetTimes packet answers.1

/-- What a call decodes answers it. -/
theorem decoded_step (own : s.core.registry.OwnIds) (number : CallId) (packet : PacketPtr)
    (made : number < s'.callCount) (decoded : (s'.call number).decoded = some packet) :
    s'.Answers packet number := by
  rcases effect.made_cases made with old | ⟨_, _, _, begun⟩
  · rcases effect.decoded_cases old decoded with before | ⟨userRuns, coro, top, stored, live⟩
    · exact ((paired.decoded number packet old before).kept effect).1
    · exact ((paired.of_read correlated own userRuns top stored live).kept effect).1
  · rw [begun.decoded] at decoded
    cases decoded

include named

/-- A call carries the id of its coroutine. -/
theorem ids_step (number : CallId) (made : number < s'.callCount)
    (sent : (s'.call number).sent = true) :
    (s'.call number).caller = .co (s'.call number).coro ∧
      (s'.call number).coro < s'.core.coroCount ∧
      (s'.call number).srcCoroId = (s'.core.coro (s'.call number).coro).coroId := by
  have registry := correlated.grounded.registry
  have more := (grounded_of_run effect.core_steps registry).2
  have coroId : ∀ {coro : CoroPtr}, coro < s.core.coroCount →
      (s'.core.coro coro).coroId = (s.core.coro coro).coroId :=
    fun created => coroId_of_run effect.core_steps registry created
  rcases effect.made_cases made with old | ⟨_, _, _, begun⟩
  · have kept := effect.call_kept old
    obtain ⟨caller, created, srcCoroId⟩ := paired.ids number old (kept.sent ▸ sent)
    rw [kept.caller, kept.coro, kept.srcCoroId, coroId created]
    exact ⟨caller, Nat.lt_of_lt_of_le created more, srcCoroId⟩
  · have self := begun.self named sent
    have created := correlated.grounded.self_lt self
    rw [begun.caller, begun.srcCoroId, coroId created]
    exact ⟨self, Nat.lt_of_lt_of_le created more, rfl⟩

/-- A response is dispatched to the coroutine it names. -/
theorem dispatched_step (co : Co) (packet : PacketPtr) (coro : CoroPtr)
    (top : s'.top co = some (.rspRet packet coro)) :
    coro < s'.core.coroCount ∧ s'.dstCoroId packet = some (s'.core.coro coro).coroId := by
  have registry := correlated.grounded.registry
  have more := (grounded_of_run effect.core_steps registry).2
  rcases effect.top_cases correlated.ordered rfl top with old | ⟨_, _, _, begins⟩
  · obtain ⟨created, dst⟩ := paired.dispatched co packet coro old
    have known := (correlated.pending co packet coro old).1
    refine ⟨Nat.lt_of_lt_of_le created more, ?_⟩
    rw [effect.dstCoroId_kept known, coroId_of_run effect.core_steps registry created, dst]
  · cases begins with
    | rspRet found _ _ read =>
        obtain ⟨created, coroId, _⟩ := named.corosKey _ coro found
        refine ⟨Nat.lt_of_lt_of_le created more, ?_⟩
        rw [State.dstCoroId, read, coroId_of_run effect.core_steps registry created]
        exact congrArg some coroId.symm

/-- Every step of a patient run keeps this. -/
theorem step (own : s.core.registry.OwnIds) (honest : Honest s label)
    (noneOutstanding : NoneOutstanding s label) : Paired s' where
  ids := paired.ids_step correlated named effect
  latest := paired.latest_step correlated effect
  responses := paired.responses_step effect honest
  once := paired.once_step effect honest
  settled := paired.settled_step correlated effect noneOutstanding
  dispatched := paired.dispatched_step correlated named effect
  decoded := paired.decoded_step correlated effect own

end Paired

/-! ## Whole runs -/

/-- Where no id is taken twice, every coroutine object has an id of its own. -/
theorem ownIds_of_run {env : Bool} {core : CoroMgr.State}
    (run : CoroMgr.machine.Run CoroMgr.Disciplined (CoroMgr.State.init env) core) :
    core.registry.OwnIds := by
  induction run with
  | start =>
      exact ⟨fun _ created => absurd created (Nat.not_lt_zero _),
        fun _ _ created => absurd created (Nat.not_lt_zero _)⟩
  | step _ disciplined taken ih =>
      exact ih.step (CoroMgr.State.step_registry taken) disciplined.newId

/-- Servers are honest, and callers wait for the answers to their earlier calls. -/
def Patient (protobuf : Protobuf Msg) (s : State Msg) (label : Label Msg) : Prop :=
  Disciplined protobuf s label ∧ Honest s label ∧ NoneOutstanding s label

instance (s : State Msg) (label : Label Msg) : Decidable (Patient protobuf s label) :=
  inferInstanceAs (Decidable (_ ∧ _ ∧ _))

theorem paired_init {env : Bool} : Paired (State.init protobuf env) where
  ids _ made := absurd made (Nat.not_lt_zero _)
  latest _ _ _ top := by cases top
  responses _ known := absurd known (Nat.not_lt_zero _)
  once _ _ _ answers := absurd answers.1 (Nat.not_lt_zero _)
  settled _ _ _ made := absurd made (Nat.not_lt_zero _)
  dispatched _ _ _ top := by cases top
  decoded _ _ made := absurd made (Nat.not_lt_zero _)

/-- So does every patient run. -/
theorem paired_of_run {env : Bool}
    (run : (machine protobuf).Run (Patient protobuf) (State.init protobuf env) s) :
    Paired s := by
  induction run with
  | start => exact paired_init
  | step prior patient taken ih =>
      have before := prior.mono fun _ _ patient => patient.1
      have core := core_run before
      exact ih.step (correlated_of_run before) (CoroMgr.settled_of_run core).2
        (step_effect taken) (ownIds_of_run core) patient.2.1 patient.2.2

/-- In every run with honest servers in which no coroutine makes a call while an earlier
one of its calls is unanswered, whatever a call has decoded is the answer to itself, and a
call of a coroutine that returns without a failure has decoded something. -/
theorem response_answers_its_call {env : Bool}
    (run : (machine protobuf).Run (Patient protobuf) (State.init protobuf env) s)
    {number : CallId} {time : Nat} (made : number < s.callCount)
    (returned : (s.call number).returnedAt = some time)
    (succeeded : (s.call number).controller.isFailed = false) :
    (∀ packet, (s.call number).decoded = some packet → s.Answers packet number) ∧
      ((s.call number).caller ≠ .main → ∃ packet, Decoded protobuf s (s.call number) packet) := by
  refine ⟨fun packet => (paired_of_run run).decoded number packet made, fun other => ?_⟩
  have outcome := outcome_of_run (run.mono fun _ _ patient => patient.1) number made
  exact (outcome.reports other (by simp [returned])).resolve_left (by simp [succeeded])

/-- A call is answered, and its coroutine goes on. -/
def reply (sessionId coroId : Int) (number : CallId) (msg : String) : List (Label EchoMessage) :=
  .flatten [[.user (.deliver (replyPacket echoProtobuf sessionId coroId .new
    ⟨EchoMessage.response, some (text msg)⟩) (some number))], works 6 0, [.proceed]]

/-- Two coroutines wait, the one that called later is answered first and ends, and then the
other one is. That one calls again, and is answered again. -/
def answeredInTurn : List (Label EchoMessage) :=
  .flatten [twoWaiting, reply 8 2 1 "two", [.user (.op .entryReturn)], works 1 0, [.proceed],
    reply 9 1 0 "one",
    [.user (.callMethod 9 echoMethod .new ⟨EchoMessage.request, some (text "three")⟩)],
    works 4 0, [.proceed], reply 9 1 2 "three"]

theorem echo_call_answered :
    let s := (machine echoProtobuf).play (State.init echoProtobuf false) answeredInTurn
    s.Answers 2 2 ∧ ∃ packet, Decoded echoProtobuf s (s.call 2) packet := by
  intro s
  have run : (machine echoProtobuf).Run (Patient echoProtobuf) (State.init echoProtobuf false) s :=
    .of_play (by decide +kernel)
  have both := response_answers_its_call run (show 2 < s.callCount by decide +kernel)
    (Option.some_get (by decide +kernel)).symm (by decide +kernel)
  exact ⟨both.1 2 (by decide +kernel), both.2 (by decide +kernel)⟩

/-- A coroutine calls `Echo` and is timed out, and calls it again. The answer to the first
call arrives, and the second call returns with it. -/
def lateAnswer : List (Label EchoMessage) :=
  let early : Label EchoMessage := .work ⟨0, 0⟩
  let expiry : Label EchoMessage := .work ⟨5000, 1⟩
  let late : Label EchoMessage := .work ⟨5000, 2⟩
  [.user (.op (.createCoro 0 0)), .user (.op (.coroResume 0 .nil)), early, early, early,
    .user (.callMethod 9 echoMethod .new ⟨EchoMessage.request, some (text "first")⟩),
    early, early, early, early, .user (.op .update)] ++
  List.replicate 9 expiry ++
  [.proceed,
    .user (.callMethod 9 echoMethod .new ⟨EchoMessage.request, some (text "second")⟩)] ++
  List.replicate 7 late ++
  [.user (.deliver (replyPacket echoProtobuf 9 1 .new
    ⟨EchoMessage.response, some (text "first")⟩) (some 0))] ++
  List.replicate 6 late ++ [.proceed]

theorem late_answer_taken :
    ((machine echoProtobuf).replay
      (fun s label => decide (Disciplined echoProtobuf s label ∧ Honest s label))
      (State.init echoProtobuf false) lateAnswer).map
      (fun s => ((s.call 1).returnedAt.isSome, (s.call 1).controller.isFailed,
        (s.call 1).decoded, (s.received 0).answers,
        decide ((s.call 1).response.msg = some (text "first")))) =
    some (true, false, some 0, some 0, true) := by
  decide +kernel

end LibcoRpc.Rpc
