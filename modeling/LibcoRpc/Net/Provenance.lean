import LibcoRpc.Net.Network
import LibcoRpc.Rpc.Traffic

/-!
# Where packets come from

Every packet that a service hands to the RPC layer was sent by the process at the other end
of the session, for a call that it made or for a request that it had handled, and no packet
is handed over twice (`Traced`). So a response answers a call: the call for which the
request was sent that the responding handler was started for.
-/

namespace LibcoRpc.Net

open LibcoRpc.Std
open LibcoRpc.Rpc
open NetPacket

variable {Msg : Type} {d : Deployment Msg} {net net' : Network Msg}

/-! ## Purposes -/

namespace Purpose

/-- The packet is what a process sends on a session for this purpose. -/
def Explains (d : Deployment Msg) (endpoint : Endpoint) (s : State Msg) (packet : NetPacket) :
    Purpose Msg → Prop
  | .call number method request =>
      number < s.callCount ∧ ∃ srcCoroId,
        (s.call number).address = (true, endpoint.2, srcCoroId, method.responseType) ∧
        packet = netPacket (d.serviceId endpoint.1)
          (requestPacket d.protobuf endpoint.2 method srcCoroId request)
  | .reply ptr =>
      ptr < s.receivedCount ∧ ∃ request, s.request ptr = some request ∧
        request.returned = true ∧ request.sessionId = endpoint.2 ∧
        packet = netPacket (d.serviceId endpoint.1) (request.reply d.protobuf)

/-- The opcode of a packet sent for this. -/
def opcode : Purpose Msg → Int
  | .call .. => rpcReq
  | .reply _ => rpcRsp

/-- Two packets were sent for the same call or the same request. -/
def Same : Purpose Msg → Purpose Msg → Prop
  | .call number _ _, .call other _ _ => number = other
  | .reply packet, .reply other => packet = other
  | _, _ => False

/-- A process has not sent a packet for this yet. -/
def New (s : State Msg) : Purpose Msg → Prop
  | .call number _ _ => number = s.callCount
  | .reply packet => ∃ request, s.request packet = some request ∧ request.returned = false

variable {endpoint : Endpoint} {s s' : State Msg} {packet : NetPacket} {why other : Purpose Msg}

theorem Explains.extends (explains : why.Explains d endpoint s packet)
    (extension : s.Extends s') : why.Explains d endpoint s' packet := by
  cases why with
  | call number method request =>
      obtain ⟨made, srcCoroId, address, isPacket⟩ := explains
      obtain ⟨stillMade, same⟩ := extension.calls number made
      exact ⟨stillMade, srcCoroId, same.trans address, isPacket⟩
  | reply ptr =>
      obtain ⟨known, request, accepted, returned, session, isPacket⟩ := explains
      exact ⟨(extension.packets ptr known).1, request,
        extension.settled ptr request known accepted returned, returned, session, isPacket⟩

theorem Explains.opcode_onWire (explains : why.Explains d endpoint s packet) :
    packet.onWire.opcode = why.opcode := by
  have small : Int.bmod rpcReq (256 ^ 4) = rpcReq ∧ Int.bmod rpcRsp (256 ^ 4) = rpcRsp := by decide
  cases why with
  | call =>
      obtain ⟨_, _, _, rfl⟩ := explains
      exact small.1
  | reply =>
      obtain ⟨_, _, _, _, _, rfl⟩ := explains
      exact small.2

theorem Explains.answers_kept (explains : why.Explains d endpoint s packet)
    (extension : s.Extends s') : why.answers s' = why.answers s := by
  cases why with
  | call => rfl
  | reply ptr => exact (extension.packets ptr explains.1).2.2

/-- What a process sends is new. -/
theorem New.not_same (new : why.New s) (explains : other.Explains d endpoint s packet) :
    ¬ why.Same other := by
  intro same
  cases why with
  | call number =>
      cases other with
      | call =>
          have made := explains.1
          rw [← same, new] at made
          exact absurd made (Nat.lt_irrefl _)
      | reply => exact same
  | reply ptr =>
      cases other with
      | call => exact same
      | reply =>
          obtain ⟨_, request, accepted, returned, _⟩ := explains
          obtain ⟨running, accepted', notReturned⟩ := new
          rw [← same, accepted'] at accepted
          rw [Option.some.inj accepted, returned] at notReturned
          cases notReturned

theorem Same.symm (same : why.Same other) : other.Same why := by
  cases why <;> cases other <;> first | exact Eq.symm same | exact same

end Purpose

/-- A step that sends a packet sends it for a new purpose. -/
theorem explained_of_step {Allowed : State Msg → Label Msg → Prop} {env : Bool} {s s' : State Msg}
    {label : Label Msg} {packet : Packet} {why : Purpose Msg}
    (run : (machine d.protobuf).Run Allowed (State.init d.protobuf env) s)
    (taken : (machine d.protobuf).step s label = .ok s') (purpose : purposeOf s label = some why)
    (pushed : pushedBy s s' = some packet) (process : Pid) :
    why.New s ∧ why.Explains d (process, packet.sessionId) s'
      (netPacket (d.serviceId process) packet) := by
  have head : ∀ {sent : Packet}, s'.pushed = sent :: s.pushed → packet = sent := by
    intro sent isPushed
    rw [pushedBy, isPushed, if_pos (by simp)] at pushed
    exact (Option.some.inj pushed).symm
  cases (step_effect taken).sends with
  | nothing same =>
      rw [pushedBy, same, if_neg (Nat.lt_irrefl _)] at pushed
      cases pushed
  | request isPushed count sent session responseType =>
      cases purpose
      rw [head isPushed]
      refine ⟨rfl, by rw [count]; exact Nat.lt_succ_self _, _, ?_, rfl⟩
      rw [Call.address, sent, session, responseType]
      rfl
  | @reply ptr frame rest request isPushed frames job accepted returned =>
      simp only [purposeOf, frames, List.head?_cons, Option.bind_some, job, Option.map_some,
        Option.some.injEq] at purpose
      subst purpose
      obtain ⟨known, running⟩ := running_of_job run frames job accepted
      rw [head isPushed]
      refine ⟨⟨request, accepted, running⟩,
        Nat.lt_of_lt_of_le known (step_effect taken).receivedCount_le,
        { request with returned := true }, ?_, rfl, rfl, rfl⟩
      rw [returned, Function.update_self]

/-- A packet that is delivered is a response if its opcode says so. -/
theorem response_of_deliver {packet : Packet} {answers : Option CallId}
    {response : Packet × Option CallId}
    (isResponse : response ∈ (Label.user (.deliver packet answers) : Label Msg).response) :
    packet.opcode = rpcRsp ∧ response = (packet, answers) := by
  have either : (if packet.opcode = rpcRsp then some (packet, answers) else none) =
      some response := isResponse
  by_cases isRsp : packet.opcode = rpcRsp
  · rw [if_pos isRsp] at either
    exact ⟨isRsp, (Option.some.inj either).symm⟩
  · rw [if_neg isRsp] at either
    cases either

/-! ## Growth -/

/-- What has happened stays as it is. -/
structure Network.Grows (net net' : Network Msg) : Prop where
  peers : ∀ endpoint other, net.peer endpoint = some other → net'.peer endpoint = some other
  processes : ∀ process, (net.process process).Extends (net'.process process)
  purposes : ∀ endpoint, net.purposes endpoint <+: net'.purposes endpoint
  accepted : ∀ endpoint, (net.link endpoint).accepted <+: (net'.link endpoint).accepted
  delivered : ∀ endpoint, (net.link endpoint).delivered <+: (net'.link endpoint).delivered
  source : ∀ process packet, packet < (net.process process).receivedCount →
    net'.source process packet = net.source process packet

section

variable {α : Type} {left right : List α} {index : Nat} {value new : α}

theorem found_of_begins (begins : left <+: right) (found : left[index]? = some value) :
    right[index]? = some value := by
  obtain ⟨rest, rfl⟩ := begins
  rw [List.getElem?_append_left (List.getElem?_eq_some_iff.mp found).1, found]

theorem found_of_concat (found : (left ++ [new])[index]? = some value) :
    left[index]? = some value ∨ index = left.length ∧ value = new := by
  rcases Nat.lt_or_ge index left.length with old | beyond
  · rw [List.getElem?_append_left old] at found
    exact .inl found
  · rw [List.getElem?_append_right beyond] at found
    obtain ⟨inside, isNew⟩ := List.getElem?_eq_some_iff.mp found
    simp only [List.length_singleton] at inside
    exact .inr ⟨by omega, by simpa using isNew.symm⟩

theorem found_of_update {κ : Type} [DecidableEq κ] {lists : κ → List α} {key place : κ}
    (found : (Function.update lists key (lists key ++ [new]) place)[index]? = some value) :
    (lists place)[index]? = some value ∨
      place = key ∧ index = (lists place).length ∧ value = new := by
  by_cases same : place = key
  · subst same
    rw [Function.update_self] at found
    exact (found_of_concat found).imp_right fun isNew => ⟨rfl, isNew⟩
  · rw [Function.update_of_ne same] at found
    exact .inl found

end

namespace Network.Grows

theorem trans {net'' : Network Msg} (first : net.Grows net') (second : net'.Grows net'') :
    net.Grows net'' where
  peers _ _ connected := second.peers _ _ (first.peers _ _ connected)
  processes process := (first.processes process).trans (second.processes process)
  purposes endpoint := (first.purposes endpoint).trans (second.purposes endpoint)
  accepted endpoint := (first.accepted endpoint).trans (second.accepted endpoint)
  delivered endpoint := (first.delivered endpoint).trans (second.delivered endpoint)
  source process packet known :=
    (second.source process packet ((first.processes process).packets packet known).1).trans
      (first.source process packet known)

theorem connect {left right : Endpoint} (freshLeft : net.peer left = none)
    (freshRight : net.peer right = none) :
    net.Grows (net.connect left right) where
  peers endpoint other connected := by
    have notRight : endpoint ≠ right := fun same => by
      rw [same, freshRight] at connected
      cases connected
    have notLeft : endpoint ≠ left := fun same => by
      rw [same, freshLeft] at connected
      cases connected
    simp only [Network.connect, Function.update_of_ne notRight, Function.update_of_ne notLeft,
      connected]
  processes _ := .refl _
  purposes _ := List.prefix_rfl
  accepted _ := List.prefix_rfl
  delivered _ := List.prefix_rfl
  source _ _ _ := rfl

theorem setProcess {process : Pid} {s : State Msg} (extension : (net.process process).Extends s) :
    net.Grows (net.setProcess process s) where
  peers _ _ connected := connected
  processes := by
    refine (Function.forall_update_iff net.process
      fun process s => (net.process process).Extends s).mpr ⟨extension, fun _ _ => .refl _⟩
  purposes _ := List.prefix_rfl
  accepted _ := List.prefix_rfl
  delivered _ := List.prefix_rfl
  source _ _ _ := rfl

theorem setLink {endpoint : Endpoint} {link : Link}
    (accepted : (net.link endpoint).accepted <+: link.accepted)
    (delivered : (net.link endpoint).delivered <+: link.delivered) :
    net.Grows (net.setLink endpoint link) where
  peers _ _ connected := connected
  processes _ := .refl _
  purposes _ := List.prefix_rfl
  accepted := (Function.forall_update_iff net.link
    fun endpoint link => (net.link endpoint).accepted <+: link.accepted).mpr
      ⟨accepted, fun _ _ => List.prefix_rfl⟩
  delivered := (Function.forall_update_iff net.link
    fun endpoint link => (net.link endpoint).delivered <+: link.delivered).mpr
      ⟨delivered, fun _ _ => List.prefix_rfl⟩
  source _ _ _ := rfl

theorem setSource (process : Pid) (index : Nat) : net.Grows (net.setSource process index) where
  peers _ _ connected := connected
  processes _ := .refl _
  purposes _ := List.prefix_rfl
  accepted _ := List.prefix_rfl
  delivered _ := List.prefix_rfl
  source other packet known := by
    by_cases same : other = process
    · subst same
      simp only [Network.setSource, Function.update_self,
        Function.update_of_ne (Nat.ne_of_lt known)]
    · simp only [Network.setSource, Function.update_of_ne same]

theorem post {process : Pid} {packet : Packet} {why : Purpose Msg} :
    net.Grows (net.post d process packet why) := by
  unfold Network.post
  dsimp only
  split
  next ready =>
    have accepted : (net.link (process, packet.sessionId)).accepted <+:
        ((net.link (process, packet.sessionId)).send
          (netPacket (d.serviceId process) packet)).accepted := by
      rw [Link.send, if_pos ready.2]
      exact List.prefix_append _ _
    have delivered : ((net.link (process, packet.sessionId)).send
          (netPacket (d.serviceId process) packet)).delivered =
        (net.link (process, packet.sessionId)).delivered := by
      rw [Link.send, if_pos ready.2]
    have linked := setLink accepted (delivered ▸ List.prefix_rfl)
    exact { linked with
      purposes := (Function.forall_update_iff net.purposes
        fun endpoint purposes => net.purposes endpoint <+: purposes).mpr
          ⟨List.prefix_append _ _, fun _ _ => List.prefix_rfl⟩ }
  next => exact ⟨fun _ _ connected => connected, fun _ => .refl _, fun _ => List.prefix_rfl,
    fun _ => List.prefix_rfl, fun _ => List.prefix_rfl, fun _ _ _ => rfl⟩

theorem after {process : Pid} {label : Label Msg} {s : State Msg}
    (extension : (net.process process).Extends s) : net.Grows (net.after d process label s) := by
  unfold Network.after
  dsimp only
  split
  next => exact (setProcess extension).trans post
  next => exact setProcess extension

end Network.Grows

/-- A received packet was sent on this link for this purpose. -/
structure Network.From (net : Network Msg) (process : Pid) (ptr : PacketPtr) (sender : Endpoint)
    (why : Purpose Msg) : Prop where
  connected : net.peer (process, ((net.process process).received ptr).arrived.sessionId) =
    some sender
  behind : net.source process ptr < (net.link sender).delivered.length
  purpose : (net.purposes sender)[net.source process ptr]? = some why
  packet : ∃ packet, (net.link sender).accepted[net.source process ptr]? = some packet ∧
    ((net.process process).received ptr).arrived.opcode = packet.onWire.opcode ∧
    ((net.process process).received ptr).arrived.payload = packet.payload
  unread : ((net.process process).received ptr).arrived.readPos = 0
  answers : ((net.process process).received ptr).answers = why.answers (net.process sender.1)

/-- The process at one end of a session has handled the request that the process at the other
end sent for a call. -/
structure Network.Handled (net : Network Msg) (server : Endpoint) (ptr : PacketPtr)
    (client : Endpoint) (number : CallId) (method : MethodDescriptor) (message : Msg)
    (request : Request Msg) : Prop where
  connected : net.peer server = some client
  known : ptr < (net.process server.1).receivedCount
  asked : net.From server.1 ptr client (.call number method message)
  accepted : (net.process server.1).request ptr = some request
  made : number < (net.process client.1).callCount
  address : ((net.process client.1).call number).address =
    (true, client.2, request.srcCoroId, method.responseType)
  idFits : IsInt32 request.srcCoroId
  session : request.sessionId = server.2

/-- Every packet that a link has accepted was sent for a purpose of its own. -/
structure Accounted (d : Deployment Msg) (net : Network Msg) : Prop where
  carries : ∀ endpoint, Link.Carries d.limits (net.link endpoint)
  counted : ∀ endpoint, (net.purposes endpoint).length = (net.link endpoint).accepted.length
  explained : ∀ (endpoint : Endpoint) (index : Nat) (why : Purpose Msg) (packet : NetPacket),
    (net.purposes endpoint)[index]? = some why →
    (net.link endpoint).accepted[index]? = some packet →
      why.Explains d endpoint (net.process endpoint.1) packet
  once : ∀ (process : Pid) (left right : Int) (first second : Nat) (why other : Purpose Msg),
    (net.purposes (process, left))[first]? = some why →
    (net.purposes (process, right))[second]? = some other →
    why.Same other → left = right ∧ first = second

/-- Every packet that a process has received came out of a link, and no two of them were one
packet there. -/
structure Collected (net : Network Msg) : Prop where
  paired : ∀ endpoint other, net.peer endpoint = some other → net.peer other = some endpoint
  received : ∀ process ptr, ptr < (net.process process).receivedCount →
    ∃ sender why, net.From process ptr sender why
  apart : ∀ process left right, left < (net.process process).receivedCount →
    right < (net.process process).receivedCount →
    ((net.process process).received left).arrived.sessionId =
      ((net.process process).received right).arrived.sessionId →
    net.source process left = net.source process right → left = right

/-- Everything that was sent and received can be traced back to a call or a request, and
every process runs with honest servers. -/
structure Traced (d : Deployment Msg) (Keeps : State Msg → Label Msg → Prop)
    (net : Network Msg) : Prop extends Accounted d net, Collected net where
  runs : ∀ process, (machine d.protobuf).Run (fun s label => Keeps s label ∧ Honest s label)
    (State.init d.protobuf (d.env process)) (net.process process)

namespace Traced

variable {Keeps : State Msg → Label Msg → Prop}

theorem init : Traced d Keeps (.init d) where
  runs _ := .start
  carries _ := Link.carries_init
  paired _ _ connected := by cases connected
  counted _ := rfl
  explained _ _ _ _ purpose := by simp [Network.init] at purpose
  once _ _ _ _ _ _ _ purpose := by simp [Network.init] at purpose
  received _ _ known := absurd known (Nat.not_lt_zero _)
  apart _ _ _ known := absurd known (Nat.not_lt_zero _)

variable (traced : Traced d Keeps net)

include traced

/-- Each accepted packet has a purpose. -/
theorem purpose_of_accepted {endpoint : Endpoint} {index : Nat} {packet : NetPacket}
    (accepted : (net.link endpoint).accepted[index]? = some packet) :
    ∃ why, (net.purposes endpoint)[index]? = some why ∧
      why.Explains d endpoint (net.process endpoint.1) packet := by
  have inside : index < (net.purposes endpoint).length := by
    rw [traced.counted]
    exact (List.getElem?_eq_some_iff.mp accepted).1
  have purpose := List.getElem?_eq_getElem inside
  exact ⟨_, purpose, traced.explained endpoint index _ packet purpose accepted⟩

theorem from_grows (grows : net.Grows net') {process : Pid} {ptr : PacketPtr}
    (known : ptr < (net.process process).receivedCount) {sender : Endpoint} {why : Purpose Msg}
    (came : net.From process ptr sender why) : net'.From process ptr sender why := by
  obtain ⟨connected, behind, purpose, ⟨packet, accepted, opcode, payload⟩, unread, answers⟩ := came
  obtain ⟨_, sameArrived, sameAnswers⟩ := (grows.processes process).packets ptr known
  have sameSource := grows.source process ptr known
  have explains := traced.explained _ _ _ _ purpose accepted
  refine ⟨?_, ?_, ?_, ⟨packet, ?_, ?_, ?_⟩, ?_, ?_⟩
  · rw [sameArrived]
    exact grows.peers _ _ connected
  · rw [sameSource]
    exact Nat.lt_of_lt_of_le behind (grows.delivered sender).length_le
  · rw [sameSource]
    exact found_of_begins (grows.purposes sender) purpose
  · rw [sameSource]
    exact found_of_begins (grows.accepted sender) accepted
  · rw [sameArrived, opcode]
  · rw [sameArrived, payload]
  · rw [sameArrived, unread]
  · rw [sameAnswers, answers, explains.answers_kept (grows.processes sender.1)]

/-! ## Requests and responses -/

/-- A packet that was sent for a call is a request, and one sent for a request a response. -/
theorem opcode_of_from {process : Pid} {ptr : PacketPtr} {sender : Endpoint} {why : Purpose Msg}
    (came : net.From process ptr sender why) :
    ((net.process process).received ptr).arrived.opcode = why.opcode := by
  obtain ⟨packet, accepted, opcode, _⟩ := came.packet
  rw [opcode, (traced.explained _ _ _ _ came.purpose accepted).opcode_onWire]

theorem request_from {process : Pid} {ptr : PacketPtr}
    (known : ptr < (net.process process).receivedCount)
    (isReq : ((net.process process).received ptr).arrived.opcode = rpcReq) :
    ∃ sender number method message, net.From process ptr sender (.call number method message) := by
  obtain ⟨sender, why, came⟩ := traced.received process ptr known
  have opcode := traced.opcode_of_from came
  cases why with
  | call number method message => exact ⟨sender, number, method, message, came⟩
  | reply => exact absurd (isReq.symm.trans opcode) (show rpcReq ≠ rpcRsp by decide)

theorem response_from {process : Pid} {ptr : PacketPtr}
    (known : ptr < (net.process process).receivedCount)
    (isRsp : ((net.process process).received ptr).arrived.opcode = rpcRsp) :
    ∃ sender packet, net.From process ptr sender (.reply packet) := by
  obtain ⟨sender, why, came⟩ := traced.received process ptr known
  have opcode := traced.opcode_of_from came
  cases why with
  | call => exact absurd (isRsp.symm.trans opcode) (show rpcRsp ≠ rpcReq by decide)
  | reply packet => exact ⟨sender, packet, came⟩

/-- The session of a received packet is the one that its link belongs to. -/
theorem session_of_from {server client : Endpoint} {ptr : PacketPtr} {why : Purpose Msg}
    (came : net.From server.1 ptr client why) (connected : net.peer server = some client) :
    ((net.process server.1).received ptr).arrived.sessionId = server.2 := by
  have back := traced.paired _ _ came.connected
  rw [traced.paired _ _ connected] at back
  exact (congrArg Prod.snd (Option.some.inj back)).symm

/-- A packet that was received is no longer than the limit. -/
theorem fits_of_from {process : Pid} {ptr : PacketPtr} {sender : Endpoint} {why : Purpose Msg}
    (came : net.From process ptr sender why) :
    headerLen + ((net.process process).received ptr).arrived.payload.length < 256 ^ 4 ∧
      headerLen + ((net.process process).received ptr).arrived.payload.length ≤
        d.limits.maxPacketLen := by
  obtain ⟨packet, accepted, _, payload⟩ := came.packet
  rw [payload]
  exact (traced.carries sender).fits packet (List.mem_of_getElem? accepted)

/-- What stands at the head of a request that was sent for a call, if it can be read. -/
theorem header_of_from {process : Pid} {ptr : PacketPtr} {client : Endpoint} {number : CallId}
    {method : MethodDescriptor} {message : Msg}
    (came : net.From process ptr client (.call number method message))
    (read : readHeader ((net.process process).received ptr).arrived ≠ none) :
    ∃ header : RequestHeader,
      number < (net.process client.1).callCount ∧
      ((net.process client.1).call number).address =
        (true, client.2, header.srcCoroId, method.responseType) ∧
      header.serviceName = method.service ∧ header.methodName = method.name ∧
      ((net.process process).received ptr).arrived.payload =
        header.bytes ++ Packet.sized (d.protobuf.serialize message) := by
  obtain ⟨packet, accepted, _, payload⟩ := came.packet
  obtain ⟨made, srcCoroId, address, isPacket⟩ :=
    traced.explained _ _ _ _ came.purpose accepted
  have short := (traced.fits_of_from came).1
  have idFits : IsInt32 srcCoroId := by
    have isId : ((net.process client.1).call number).srcCoroId = srcCoroId :=
      congrArg (fun address => address.2.2.1) address
    exact isId ▸ (srcCoroId_fits (traced.runs client.1)).2 number made
  have sent : ((net.process process).received ptr).arrived.payload =
      (requestPacket d.protobuf client.2 method srcCoroId message).payload := by
    rw [payload, isPacket]
    rfl
  unfold headerLen at short
  obtain ⟨service, name⟩ := names_written d.protobuf came.unread sent (by omega) read
  have length := congrArg List.length sent
  rw [requestPacket_payload, service, name] at length
  simp only [List.length_append, Packet.length_sized, length_encodeUInt32] at length
  let header : RequestHeader :=
    ⟨method.service, method.name, srcCoroId, by omega, by omega, idFits⟩
  refine ⟨header, made, address, rfl, rfl, ?_⟩
  rw [sent]
  exact requestPacket_header d.protobuf client.2 message header service name

/-- Every request that a process has accepted was sent for a call. -/
theorem handled {process : Pid} {ptr : PacketPtr} {request : Request Msg}
    (known : ptr < (net.process process).receivedCount)
    (accepted : (net.process process).request ptr = some request) :
    ∃ client number method message,
      net.Handled (process, request.sessionId) ptr client number method message request := by
  obtain ⟨isReq, session, src⟩ := addressed_of_run (traced.runs process) ptr request accepted
  obtain ⟨client, number, method, message, came⟩ := traced.request_from known isReq
  have readable : readHeader ((net.process process).received ptr).arrived ≠ none := by
    intro unreadable
    rw [unreadable] at src
    cases src
  obtain ⟨header, made, address, _, _, payload⟩ := traced.header_of_from came readable
  have read := readHeader_iff.mpr
    ⟨header, rfl, rfl, rfl, rfl, _, unread_of_payload came.unread payload⟩
  have isId : header.srcCoroId = request.srcCoroId := by
    rw [read] at src
    exact Option.some.inj src
  refine ⟨client, number, method, message, ?_, known, came, accepted, made, isId ▸ address,
    isId ▸ header.idFits, rfl⟩
  rw [session]
  exact came.connected

/-- A call is handled once, in one place. -/
theorem handled_unique {server server' : Endpoint} {ptr ptr' : PacketPtr} {process : Pid}
    {session session' : Int} {number : CallId} {method method' : MethodDescriptor}
    {message message' : Msg} {request request' : Request Msg}
    (handled : net.Handled server ptr (process, session) number method message request)
    (handled' : net.Handled server' ptr' (process, session') number method' message' request') :
    server = server' ∧ ptr = ptr' := by
  obtain ⟨rfl, sameSource⟩ :=
    traced.once _ _ _ _ _ _ _ handled.asked.purpose handled'.asked.purpose rfl
  have sameServer : server = server' := by
    have back := traced.paired _ _ handled.connected
    rw [traced.paired _ _ handled'.connected] at back
    exact (Option.some.inj back).symm
  subst sameServer
  refine ⟨rfl, traced.apart server.1 ptr ptr' handled.known handled'.known ?_ sameSource⟩
  rw [traced.session_of_from handled.asked handled.connected,
    traced.session_of_from handled'.asked handled'.connected]

/-- Every reply that has been sent is the reply to a call that has been handled. -/
theorem handled_of_reply {server : Endpoint} {index : Nat} {ptr : PacketPtr} {packet : NetPacket}
    (purpose : (net.purposes server)[index]? = some (.reply ptr))
    (accepted : (net.link server).accepted[index]? = some packet) :
    ∃ client number method message request,
      net.Handled server ptr client number method message request ∧ request.returned = true ∧
        packet = netPacket (d.serviceId server.1) (request.reply d.protobuf) := by
  obtain ⟨known, request, isRequest, returned, session, isPacket⟩ :=
    traced.explained _ _ _ _ purpose accepted
  obtain ⟨client, number, method, message, handled⟩ := traced.handled known isRequest
  rw [session] at handled
  exact ⟨client, number, method, message, request, handled, returned, isPacket⟩

/-- A response that has been received answers a call that was handled at the other end. -/
theorem handled_of_response {process : Pid} {ptr : PacketPtr} {number : CallId}
    (answers : (net.process process).Answers ptr number) :
    ∃ server packet session method message request,
      net.From process ptr server (.reply packet) ∧
      net.Handled server packet (process, session) number method message request ∧
      request.returned = true ∧
      ((net.process process).received ptr).arrived.payload =
        (request.reply d.protobuf).payload := by
  obtain ⟨known, isRsp, said⟩ := answers
  obtain ⟨server, packet, came⟩ := traced.response_from known isRsp
  obtain ⟨sent, accepted, _, payload⟩ := came.packet
  obtain ⟨client, number', method, message, request, handled, returned, isSent⟩ :=
    traced.handled_of_reply came.purpose accepted
  have isClient : client = (process, ((net.process process).received ptr).arrived.sessionId) := by
    have back := traced.paired _ _ came.connected
    rw [handled.connected] at back
    exact Option.some.inj back
  have isNumber : number' = number := by
    have same := came.answers
    rw [said, Purpose.answers, handled.asked.answers] at same
    exact (Option.some.inj same).symm
  subst isNumber isClient
  refine ⟨server, packet, _, method, message, request, came, handled, returned, ?_⟩
  rw [payload, isSent]
  rfl

/-! ## Servers are honest -/

/-- The next packet of a session is the next one that was accepted. -/
theorem arrival {sender : Endpoint} {packet : NetPacket} {rest : List NetPacket}
    (event : (net.link sender).arrivals = packet :: rest)
    (ready : (net.link sender).recvReady = true) :
    ∃ sent, (net.link sender).accepted[(net.link sender).delivered.length]? = some sent ∧
      packet = sent.onWire := by
  have carries := traced.carries sender
  have found : (net.link sender).arrived[(net.link sender).delivered.length]? = some packet := by
    rw [carries.waiting ready, event]
    simp
  have wired := found_of_begins carries.arrived found
  rw [List.getElem?_map, Option.map_eq_some_iff] at wired
  obtain ⟨sent, accepted, same⟩ := wired
  exact ⟨sent, accepted, same.symm⟩

/-- What a process is handed is honest: a response answers a call that the process has made,
on its session and to its coroutine, and nothing has answered the call before. -/
theorem honest_arrival {receiver sender : Endpoint} {packet : NetPacket} {rest : List NetPacket}
    (connected : net.peer receiver = some sender)
    (event : (net.link sender).arrivals = packet :: rest)
    (ready : (net.link sender).recvReady = true) (beyond : Bytes) (spare : Nat) :
    Honest (net.process receiver.1)
      (.user (.deliver (rpcPacket receiver.2 packet beyond spare)
        (net.answersAt sender (net.link sender).delivered.length))) := by
  intro response isResponse
  obtain ⟨sent, accepted, rfl⟩ := traced.arrival event ready
  obtain ⟨why, purpose, explains⟩ := traced.purpose_of_accepted accepted
  obtain ⟨isRsp, rfl⟩ := response_of_deliver isResponse
  have opcode := explains.opcode_onWire.symm.trans isRsp
  cases why with
  | call => exact absurd opcode (show rpcReq ≠ rpcRsp by decide)
  | reply ptr =>
      obtain ⟨client, number, method, message, request, handled, _, rfl⟩ :=
        traced.handled_of_reply purpose accepted
      obtain rfl : receiver = client :=
        Option.some.inj ((traced.paired _ _ connected).symm.trans handled.connected)
      have isAnswers : net.answersAt sender (net.link sender).delivered.length = some number := by
        rw [Network.answersAt, purpose]
        exact handled.asked.answers
      have address := handled.address
      refine ⟨number, isAnswers, handled.made, congrArg Prod.fst address,
        (congrArg (fun address => address.2.1) address).symm, ?_, ?_⟩
      · have isId : ((net.process receiver.1).call number).srcCoroId = request.srcCoroId :=
          congrArg (fun address => address.2.2.1) address
        rw [isId]
        exact readInt32_reply handled.idFits rfl rfl
      · rintro ⟨earlier, answers⟩
        obtain ⟨server, packet, session, _, _, _, came, handled', _⟩ :=
          traced.handled_of_response answers
        obtain ⟨rfl, rfl⟩ := traced.handled_unique handled handled'
        have same := (traced.once _ _ _ _ _ _ _ purpose came.purpose rfl).2
        exact absurd came.behind (by rw [← same]; exact Nat.lt_irrefl _)

end Traced

end LibcoRpc.Net
