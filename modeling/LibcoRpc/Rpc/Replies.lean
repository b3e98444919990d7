import LibcoRpc.Rpc.Echo
import LibcoRpc.Rpc.Effect
import LibcoRpc.Semantics.Ledger

/-!
# One reply for each request

A request that `HandleRpcReq` accepts is a job: the coroutine that runs its handler holds
it, in a `handler` or an `entry` frame, and `OnRpcDone` settles it with a reply. The
process thus refines a `Ledger` of jobs (`Represents`), whose soundness says that no job
is lost, held twice or settled twice, however the handlers are suspended and resumed.
Nothing is assumed about coroutine ids or timers.
-/

namespace LibcoRpc.Rpc

open LibcoRpc.Std
open LibcoRpc.CoroMgr (Co CoroPtr Choice Op)

variable {Msg : Type} {protobuf : Protobuf Msg} {s s' : State Msg}

/-! ## The process as a ledger -/

/-- The request whose handler runs above the frame. -/
def RpcFrame.job : RpcFrame → Option PacketPtr
  | .handler packet => some packet
  | .entry packet => some packet
  | _ => none

/-- The reply that `OnRpcDone` sends. -/
def Request.reply (protobuf : Protobuf Msg) (request : Request Msg) : Packet :=
  replyPacket protobuf request.sessionId request.srcCoroId request.controller request.rsp

/-- How far a packet has come as a job. -/
def stageOf : Option (Request Msg) → Stage
  | none => .refused
  | some request => if request.returned then .settled else .running

namespace State

/-- What `HandleRpcReq` made for each packet. -/
def request (s : State Msg) (packet : PacketPtr) : Option (Request Msg) :=
  (s.received packet).request

/-- The requests whose handlers a coroutine is inside, innermost first. -/
def jobs (s : State Msg) (co : Co) : List PacketPtr := (s.frames co).filterMap RpcFrame.job

/-- The replies handed to `PushPacket`, newest first. -/
def replies (s : State Msg) : List Packet := s.pushed.filter fun packet => packet.opcode = rpcRsp

/-- The requests whose handlers have not returned. -/
def handling (s : State Msg) : List PacketPtr :=
  s.jobs .main ++ (List.range s.core.coroCount).flatMap fun coro => s.jobs (.co coro)

theorem jobs_of_frames {self : Co} {frames : List RpcFrame} {jobs : List PacketPtr}
    (written : s'.frames = Function.update s.frames self frames)
    (are : frames.filterMap RpcFrame.job = jobs) :
    s'.jobs = Function.update s.jobs self jobs := by
  funext co
  simp only [State.jobs, written, ← are]
  exact Function.apply_update (fun _ => List.filterMap RpcFrame.job) s.frames self frames co

/-- Frames of other kinds come and go. -/
theorem jobs_kept {self : Co} {frames : List RpcFrame}
    (written : s'.frames = Function.update s.frames self frames)
    (kept : frames.filterMap RpcFrame.job = s.jobs self) : s'.jobs = s.jobs :=
  (jobs_of_frames written kept).trans (Function.update_eq_self self s.jobs)

theorem jobs_pop {self : Co} {frame : RpcFrame} {rest : List RpcFrame}
    (frames : s.frames self = frame :: rest) (other : frame.job = none) :
    rest.filterMap RpcFrame.job = s.jobs self := by
  rw [jobs, frames, List.filterMap_cons_none other]

theorem jobs_top {self : Co} {frame : RpcFrame} {rest : List RpcFrame} {packet : PacketPtr}
    (frames : s.frames self = frame :: rest) (job : frame.job = some packet) :
    s.jobs self = packet :: rest.filterMap RpcFrame.job := by
  rw [jobs, frames, List.filterMap_cons_some job]

theorem request_of_received {packet : PacketPtr} {value : Received Msg}
    {request : Option (Request Msg)}
    (written : s'.received = Function.update s.received packet value)
    (is : value.request = request) :
    s'.request = Function.update s.request packet request := by
  funext other
  simp only [State.request, written, ← is]
  exact Function.apply_update (fun _ => Received.request) s.received packet value other

theorem request_kept {packet : PacketPtr} {value : Received Msg}
    (written : s'.received = Function.update s.received packet value)
    (kept : value.request = s.request packet) : s'.request = s.request :=
  (request_of_received written kept).trans (Function.update_eq_self packet s.request)

end State

/-- The coroutine that `HandleRpcReq` creates runs nothing but the handler. -/
theorem Grounded.jobs_spawned (grounded : Grounded s) {packet : PacketPtr} :
    (fun co => (Function.update
      (Function.update s.frames (.co s.core.coroCount) [.entry packet]) s.core.coSelf
      (.reqRet packet :: Function.update s.frames (.co s.core.coroCount) [.entry packet]
        s.core.coSelf) co).filterMap RpcFrame.job) =
    Function.update s.jobs (.co s.core.coroCount) (packet :: s.jobs (.co s.core.coroCount)) := by
  have free : s.frames (.co s.core.coroCount) = [] := by
    by_contra framed
    exact absurd (grounded.framed _ framed) (Nat.lt_irrefl _)
  have other : s.core.coSelf ≠ .co s.core.coroCount := fun runs =>
    absurd (grounded.self_lt runs) (Nat.lt_irrefl _)
  funext co
  by_cases self : co = s.core.coSelf
  · subst self
    simp [other, State.jobs, List.filterMap_cons, RpcFrame.job]
  · by_cases new : co = .co s.core.coroCount
    · subst new
      simp [self, State.jobs, RpcFrame.job, free]
    · simp [self, new, State.jobs]

theorem Grounded.mem_handling_iff (grounded : Grounded s) {packet : PacketPtr} :
    packet ∈ s.handling ↔ ∃ co, packet ∈ s.jobs co := by
  simp only [State.handling, List.mem_append, List.mem_flatMap, List.mem_range]
  constructor
  · rintro (held | ⟨coro, _, held⟩)
    · exact ⟨.main, held⟩
    · exact ⟨.co coro, held⟩
  · rintro ⟨co, held⟩
    cases co with
    | main => exact .inl held
    | co coro =>
        have framed : s.frames (.co coro) ≠ [] := fun none => by simp [State.jobs, none] at held
        exact .inr ⟨coro, grounded.framed coro framed, held⟩

theorem stage_update {packet : PacketPtr} {requests : PacketPtr → Option (Request Msg)}
    {request : Option (Request Msg)} :
    (fun other => stageOf (Function.update requests packet request other)) =
      Function.update (fun other => stageOf (requests other)) packet (stageOf request) := by
  funext other
  exact Function.apply_update (fun _ => stageOf) requests packet request other

/-- The process has the jobs of the ledger, and each settled one has been answered. -/
structure Represents (protobuf : Protobuf Msg) (s : State Msg) (ledger : Ledger Co) : Prop where
  count : ledger.count = s.receivedCount
  stage : ledger.stage = fun packet => stageOf (s.request packet)
  holds : ledger.holds = s.jobs
  settled : s.replies.map some =
    ledger.settled.map fun packet => (s.request packet).map (Request.reply protobuf)

namespace Represents

variable {ledger : Ledger Co} (represents : Represents protobuf s ledger)

include represents

/-- The step concerns no job. -/
theorem same (count : s'.receivedCount = s.receivedCount) (requests : s'.request = s.request)
    (jobs : s'.jobs = s.jobs) (replies : s'.replies = s.replies) :
    Represents protobuf s' ledger where
  count := represents.count.trans count.symm
  stage := by rw [requests, represents.stage]
  holds := represents.holds.trans jobs.symm
  settled := by rw [replies, requests, represents.settled]

/-- What is known of a packet that has not been answered may change. -/
theorem settled_update {packet : PacketPtr} (request : Option (Request Msg))
    (unsettled : packet ∉ ledger.settled) :
    s.replies.map some = ledger.settled.map fun other =>
      (Function.update s.request packet request other).map (Request.reply protobuf) := by
  refine represents.settled.trans (List.map_congr_left fun other member => ?_)
  have different : other ≠ packet := fun same => unsettled (same ▸ member)
  rw [Function.update_of_ne different]

theorem stage_at (packet : PacketPtr) : ledger.stage packet = stageOf (s.request packet) :=
  congrFun represents.stage packet

theorem new_not_mem (sound : ledger.Sound) : s.receivedCount ∉ ledger.settled := by
  intro member
  exact absurd (represents.count ▸ ((sound.settled_iff _).mp member).1) (Nat.lt_irrefl _)

theorem running_not_mem (sound : ledger.Sound) {packet : PacketPtr} {request : Request Msg}
    (accepted : s.request packet = some request) (running : request.returned = false) :
    packet ∉ ledger.settled := by
  intro member
  have settled := ((sound.settled_iff packet).mp member).2
  simp [represents.stage_at, accepted, stageOf, running] at settled

/-- The service takes a packet from which no request comes. -/
theorem refuse (sound : ledger.Sound) (count : s'.receivedCount = s.receivedCount + 1)
    (requests : s'.request = Function.update s.request s.receivedCount none)
    (jobs : s'.jobs = s.jobs) (replies : s'.replies = s.replies) :
    Represents protobuf s' ledger.refuse where
  count := by rw [count, ← represents.count]; rfl
  stage := by
    rw [requests, stage_update, ← represents.stage, ← represents.count]
    rfl
  holds := represents.holds.trans jobs.symm
  settled := by
    rw [replies, requests]
    exact represents.settled_update _ (represents.new_not_mem sound)

/-- A coroutine starts the handler of the next packet. -/
theorem take (sound : ledger.Sound) {worker : Co} {request : Request Msg}
    (running : request.returned = false) (count : s'.receivedCount = s.receivedCount + 1)
    (requests : s'.request = Function.update s.request s.receivedCount (some request))
    (jobs : s'.jobs = Function.update s.jobs worker (s.receivedCount :: s.jobs worker))
    (replies : s'.replies = s.replies) :
    Represents protobuf s' (ledger.take worker) where
  count := by rw [count, ← represents.count]; rfl
  stage := by
    have stage : stageOf (some request) = .running := by simp [stageOf, running]
    rw [requests, stage_update, stage, ← represents.stage, ← represents.count]
    rfl
  holds := by
    rw [jobs, ← represents.holds, ← represents.count]
    rfl
  settled := by
    rw [replies, requests]
    exact represents.settled_update _ (represents.new_not_mem sound)

/-- A handler writes to its controller or its response. -/
theorem write (sound : ledger.Sound) {packet : PacketPtr} {request after : Request Msg}
    (accepted : s.request packet = some request) (running : request.returned = false)
    (stillRunning : after.returned = false) (count : s'.receivedCount = s.receivedCount)
    (requests : s'.request = Function.update s.request packet (some after))
    (jobs : s'.jobs = s.jobs) (replies : s'.replies = s.replies) :
    Represents protobuf s' ledger where
  count := represents.count.trans count.symm
  stage := by
    have stage : stageOf (some after) = ledger.stage packet := by
      simp [represents.stage_at, accepted, stageOf, running, stillRunning]
    rw [requests, stage_update, ← represents.stage, stage, Function.update_eq_self]
  holds := represents.holds.trans jobs.symm
  settled := by
    rw [replies, requests]
    exact represents.settled_update _ (represents.running_not_mem sound accepted running)

/-- A handler returns and its reply is sent. -/
theorem settle (sound : ledger.Sound) {worker : Co} {packet : PacketPtr} {rest : List PacketPtr}
    {request : Request Msg} (accepted : s.request packet = some request)
    (top : s.jobs worker = packet :: rest) (count : s'.receivedCount = s.receivedCount)
    (requests : s'.request =
      Function.update s.request packet (some { request with returned := true }))
    (jobs : s'.jobs = Function.update s.jobs worker rest)
    (replies : s'.replies = request.reply protobuf :: s.replies) :
    Represents protobuf s' (ledger.settle worker packet rest) where
  count := represents.count.trans count.symm
  stage := by
    rw [requests, stage_update, ← represents.stage]
    rfl
  holds := by
    rw [jobs, ← represents.holds]
    rfl
  settled := by
    have held : ∃ worker, packet ∈ ledger.holds worker :=
      ⟨worker, by simp [represents.holds, top]⟩
    have stage := ((sound.held_iff packet).mp held).2
    have running : request.returned = false := by
      simpa [represents.stage_at, accepted, stageOf] using stage
    rw [replies, requests, List.map_cons,
      represents.settled_update (some { request with returned := true })
        (represents.running_not_mem sound accepted running)]
    simp [Ledger.settle, Request.reply]

/-- A step does one thing to the ledger, or nothing. -/
theorem step (sound : ledger.Sound) (grounded : Grounded s) {label : Label Msg}
    (effect : Effect protobuf s label s') :
    ∃ after : Ledger Co, Represents protobuf s' after ∧ after.Sound := by
  cases effect with
  | work | op | rejected | addService =>
      exact ⟨ledger, represents.same rfl rfl rfl rfl, sound⟩
  | called =>
      exact ⟨ledger, represents.same rfl rfl (State.jobs_kept rfl rfl) rfl, sound⟩
  | flagged _ frames =>
      have jobs := State.jobs_pop frames rfl
      exact ⟨ledger, represents.same rfl rfl (State.jobs_kept rfl jobs) rfl, sound⟩
  | read _ frames =>
      have jobs := State.jobs_pop frames rfl
      exact ⟨ledger, represents.same rfl (State.request_kept rfl rfl)
        (State.jobs_kept rfl jobs) rfl, sound⟩
  | @back _ frame _ _ frames which =>
      have other : frame.job = none := by
        rcases which with ⟨coro, rfl⟩ | rfl <;> rfl
      have jobs := State.jobs_pop frames other
      exact ⟨ledger, represents.same rfl (State.request_kept rfl rfl)
        (State.jobs_kept rfl jobs) rfl, sound⟩
  | dropped =>
      refine ⟨ledger.refuse, represents.refuse sound rfl ?_ rfl rfl, sound.refuse⟩
      exact State.request_of_received (Function.update_idem ..) (by simp [State.receive])
  | dispatched =>
      exact ⟨ledger.refuse, represents.refuse sound rfl (State.request_of_received rfl rfl)
        (State.jobs_kept rfl rfl) rfl, sound.refuse⟩
  | inline _ _ accepts =>
      exact ⟨ledger.take s.core.coSelf, represents.take sound accepts.fresh.2.2 rfl
        (State.request_of_received rfl rfl) (State.jobs_of_frames rfl rfl) rfl, sound.take _⟩
  | spawned _ _ accepts =>
      refine ⟨ledger.take (.co s.core.coroCount), represents.take sound accepts.fresh.2.2 rfl
        (State.request_of_received rfl rfl) ?_ rfl, sound.take _⟩
      exact grounded.jobs_spawned
  | wrote _ accepted running _ kept =>
      exact ⟨ledger, represents.write sound accepted running kept.2.2 rfl
        (State.request_of_received rfl rfl) rfl rfl, sound⟩
  | handled _ frames accepted =>
      have top := State.jobs_top frames rfl
      refine ⟨_, represents.settle sound accepted top rfl
        (State.request_of_received (Function.update_idem ..) ?_)
        (State.jobs_of_frames rfl rfl) rfl, sound.settle (represents.holds ▸ top)⟩
      simp [State.onRpcDone, State.pushPacket, State.setReceived, State.goto]
  | finished _ frames accepted =>
      have top := State.jobs_top frames rfl
      exact ⟨_, represents.settle sound accepted top rfl (State.request_of_received rfl rfl)
        (State.jobs_of_frames rfl rfl) rfl, sound.settle (represents.holds ▸ top)⟩

end Represents

/-- Every process has a sound ledger. -/
theorem represented_of_run {Allowed : State Msg → Label Msg → Prop} {env : Bool}
    (run : (machine protobuf).Run Allowed (State.init protobuf env) s) :
    Grounded s ∧ ∃ ledger : Ledger Co, Represents protobuf s ledger ∧ ledger.Sound := by
  refine run.invariant
    (fun s => Grounded s ∧ ∃ ledger : Ledger Co, Represents protobuf s ledger ∧ ledger.Sound)
    ⟨grounded_init, .empty Co, ⟨rfl, rfl, rfl, rfl⟩, Ledger.empty_sound⟩ ?_
  rintro state label next ⟨grounded, ledger, represents, sound⟩ _ taken
  have effect := step_effect taken
  exact ⟨grounded.step effect, represents.step sound grounded effect⟩

/-- At any time the replies are those of the handlers that have returned, one for each. -/
theorem replies_perm {Allowed : State Msg → Label Msg → Prop} {env : Bool}
    (run : (machine protobuf).Run Allowed (State.init protobuf env) s) :
    (s.replies.map some).Perm
      (((List.range s.receivedCount).filter fun packet =>
        stageOf (s.request packet) = .settled).map fun packet =>
          (s.request packet).map (Request.reply protobuf)) := by
  obtain ⟨_, ledger, represents, sound⟩ := represented_of_run run
  rw [represents.settled]
  refine List.Perm.map _ (sound.settled_perm.trans (List.Perm.of_eq ?_))
  simp only [represents.count, represents.stage]

/-- A request is being handled until its handler returns. -/
theorem handling_iff {Allowed : State Msg → Label Msg → Prop} {env : Bool}
    (run : (machine protobuf).Run Allowed (State.init protobuf env) s) (packet : PacketPtr) :
    packet ∈ s.handling ↔
      packet < s.receivedCount ∧ stageOf (s.request packet) = .running := by
  obtain ⟨grounded, ledger, represents, sound⟩ := represented_of_run run
  rw [grounded.mem_handling_iff]
  have held := sound.held_iff packet
  rwa [represents.holds, represents.count, represents.stage] at held

/-! ## What is owed for a packet -/

/-- The request made from a packet is addressed as the packet says. -/
structure Received.Addressed (received : Received Msg) (request : Request Msg) : Prop where
  isReq : received.arrived.opcode = rpcReq
  session : request.sessionId = received.arrived.sessionId
  src : (readHeader received.arrived).map (fun header => header.2.2.1) = some request.srcCoroId

theorem addressed_of_run {Allowed : State Msg → Label Msg → Prop} {env : Bool}
    (run : (machine protobuf).Run Allowed (State.init protobuf env) s) :
    ∀ packet request, s.request packet = some request →
      (s.received packet).Addressed request := by
  refine run.invariant (fun s => ∀ packet request, s.request packet = some request →
    (s.received packet).Addressed request) (fun _ _ accepted => by cases accepted) ?_
  intro state label next addressed _ taken packet request accepted
  rcases (step_effect taken).received_cases with ⟨_, kept⟩ | ⟨arrived, answers, _, _, same, made⟩
  · have kept := kept packet
    rcases kept.request with sameRequest | ⟨before, after, was, is, session, src⟩
    · have before := addressed packet request (sameRequest.symm.trans accepted)
      exact ⟨kept.arrived ▸ before.isReq, kept.arrived ▸ before.session, kept.arrived ▸ before.src⟩
    · have before := addressed packet before was
      obtain rfl : after = request := Option.some.inj (is.symm.trans accepted)
      exact ⟨kept.arrived ▸ before.isReq, kept.arrived ▸ session.trans before.session,
        by rw [kept.arrived, src, before.src]⟩
  · by_cases new : packet = state.receivedCount
    · subst new
      rcases made.request with ⟨none, _⟩ | ⟨made', after, accepts, is⟩
      · exact absurd (none.symm.trans accepted) (by simp)
      · obtain rfl : made' = request := Option.some.inj (is.symm.trans accepted)
        obtain ⟨serviceName, methodName, rest, read, _, _⟩ := accepts.read
        exact ⟨made.arrived ▸ accepts.isReq, made.arrived ▸ accepts.session,
          by rw [made.arrived, read]; rfl⟩
    · rw [same packet new]
      exact addressed packet request
        (by rw [← accepted, State.request, State.request, same packet new])

/-- The packet a step hands to its handler. -/
def Label.delivered : Label Msg → Option Packet
  | .user (.deliver packet _) => some packet
  | _ => none

/-- Every request names a registered service and method, and its body parses. -/
def Serves (protobuf : Protobuf Msg) (s : State Msg) (label : Label Msg) : Prop :=
  ∀ packet ∈ label.delivered, packet.opcode = rpcReq → (s.target protobuf packet).isSome = true

instance (s : State Msg) (label : Label Msg) : Decidable (Serves protobuf s label) :=
  inferInstanceAs (Decidable (∀ packet ∈ label.delivered, _))

/-- The requests that have arrived. -/
def State.requests (s : State Msg) : List PacketPtr :=
  (List.range s.receivedCount).filter fun packet => (s.received packet).arrived.opcode = rpcReq

end LibcoRpc.Rpc
