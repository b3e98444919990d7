import LibcoRpc.Net.Link
import LibcoRpc.Rpc.Replies

/-!
# Processes and sessions

Any number of processes, each with its coroutine manager, its RPC layer and its LLBC
service, and the sessions between them. A session has an id of its own at each end, and a
link in each direction. `ConnMgr::PushPacket` is `LLBC_Service::Send`, so a packet that the
RPC layer of a process pushes goes into the link of its session; the service of the process
at the other end takes it out and hands it to `HandleRpcReq` or `HandleRpcRsp`. A process
may have any number of sessions, also with itself.

What a packet was sent for, and where a received packet came from, is kept beside the
links. No code reads it: it is there to be compared with what the code does.
-/

namespace LibcoRpc.Net

open LibcoRpc.Std
open LibcoRpc.Rpc

/-- A process. -/
abbrev Pid := Nat

/-- A session as one of its processes knows it. -/
abbrev Endpoint := Pid × Int

/-- What is given from outside. -/
structure Deployment (Msg : Type) where
  protobuf : Protobuf Msg
  limits : LinkLimits
  /-- The id of the service of a process. -/
  serviceId : Pid → Int
  env : Pid → Bool

/-- What a packet was sent for. -/
inductive Purpose (Msg : Type) where
  | call (number : CallId) (method : MethodDescriptor) (request : Msg)
  | reply (packet : PacketPtr)
deriving DecidableEq, Repr

/-- A packet of the RPC layer, as `LLBC_ServiceImpl::LockableSend` hands it on. -/
def netPacket (serviceId : Int) (packet : Packet) : NetPacket :=
  { length := 0, opcode := packet.opcode, status := 0, senderServiceId := serviceId,
    recverServiceId := 0, flags := 0, extData1 := 0, payload := packet.unread }

/-- A packet that has arrived, as its handler finds it, with some memory behind it. -/
def rpcPacket (sessionId : Int) (packet : NetPacket) (beyond : Bytes) (spare : Nat) : Packet :=
  { sessionId := sessionId, opcode := packet.opcode, payload := packet.payload, readPos := 0,
    beyond := beyond, spare := spare }

/-- The packet that a step of a process has handed to `PushPacket`. -/
def pushedBy {Msg : Type} (s s' : State Msg) : Option Packet :=
  if s.pushed.length < s'.pushed.length then s'.pushed.head? else none

/-- What a step sends a packet for, if it sends one. -/
def purposeOf {Msg : Type} (s : State Msg) : Label Msg → Option (Purpose Msg)
  | .user (.callMethod _ method _ request) => some (.call s.callCount method request)
  | .user .handlerReturn => (s.frames s.core.coSelf).head?.bind RpcFrame.job |>.map .reply
  | _ => none

/-- The call that a packet sent for this answers or asks about. -/
def Purpose.answers {Msg : Type} (s : State Msg) : Purpose Msg → Option CallId
  | .call number _ _ => some number
  | .reply packet => (s.received packet).answers

/-- The steps of a link that neither a sender nor a handler takes. -/
def LinkLabel.internal : LinkLabel → Bool
  | .send _ | .dispatch _ => false
  | _ => true

structure Network (Msg : Type) where
  process : Pid → State Msg
  /-- The other end of a session. -/
  peer : Endpoint → Option Endpoint
  /-- The direction of a session that begins here. -/
  link : Endpoint → Link
  /-- What each packet that the link has accepted was sent for. No code reads it. -/
  purposes : Endpoint → List (Purpose Msg)
  /-- How many packets of its session came before a received one. No code reads it. -/
  source : Pid → PacketPtr → Nat

/-- One step of the network. -/
inductive NetLabel (Msg : Type) where
  /-- A session is created between two processes. -/
  | connect (left right : Endpoint)
  /-- A process does something else than to take a packet from its service. -/
  | run (process : Pid) (label : Label Msg)
  /-- Pollers and kernels move on what is under way, or an end closes. -/
  | transfer (sender : Endpoint) (label : LinkLabel)
  /-- The service of a process takes the next `DataArrival` event of a session. -/
  | deliver (receiver : Endpoint) (beyond : Bytes) (spare : Nat)

namespace Network

variable {Msg : Type} (d : Deployment Msg) (net : Network Msg)

/-- Nothing has happened yet. -/
def init : Network Msg :=
  { process := fun process => .init d.protobuf (d.env process), peer := fun _ => none,
    link := fun _ => .init, purposes := fun _ => [], source := fun _ _ => 0 }

/-- A session between two processes, under its id at each of them. -/
def connect (left right : Endpoint) : Network Msg :=
  { net with
    peer := Function.update (Function.update net.peer left (some right)) right (some left) }

def setProcess (process : Pid) (s : State Msg) : Network Msg :=
  { net with process := Function.update net.process process s }

def setLink (endpoint : Endpoint) (link : Link) : Network Msg :=
  { net with link := Function.update net.link endpoint link }

/-- `LLBC_Service::Send`, which fails for a session that does not exist. -/
def post (process : Pid) (packet : Packet) (why : Purpose Msg) : Network Msg :=
  let endpoint := (process, packet.sessionId)
  if (net.peer endpoint).isSome ∧ (net.link endpoint).sendReady then
    { net with
      link := Function.update net.link endpoint
        ((net.link endpoint).send (netPacket (d.serviceId process) packet))
      purposes := Function.update net.purposes endpoint (net.purposes endpoint ++ [why]) }
  else net

/-- The network after a step of a process to the state `s`. -/
def after (process : Pid) (label : Label Msg) (s : State Msg) : Network Msg :=
  let moved := net.setProcess process s
  match purposeOf (net.process process) label, pushedBy (net.process process) s with
  | some why, some packet => moved.post d process packet why
  | _, _ => moved

/-- The call that the packet at a place in a link answers or asks about. -/
def answersAt (sender : Endpoint) (index : Nat) : Option CallId :=
  (net.purposes sender)[index]?.bind (Purpose.answers (net.process sender.1))

/-- What the service hands to the RPC layer when it takes the next event of a session. -/
def incoming (receiver : Endpoint) (beyond : Bytes) (spare : Nat) : Option (Label Msg) :=
  match net.peer receiver with
  | none => none
  | some sender =>
      match (net.link sender).arrivals with
      | [] => none
      | packet :: _ =>
          if (net.link sender).recvReady ∧ packet.ForService (d.serviceId receiver.1) then
            some (.user (.deliver (rpcPacket receiver.2 packet beyond spare)
              (net.answersAt sender (net.link sender).delivered.length)))
          else none

/-- Keep where the next packet of a process comes from. -/
def setSource (process : Pid) (index : Nat) : Network Msg :=
  { net with
    source := Function.update net.source process
      (Function.update (net.source process) (net.process process).receivedCount index) }

/-- One step. -/
def step : NetLabel Msg → Except Fault (Network Msg)
  | .connect left right => .ok (net.connect left right)
  | .run process label =>
      if label.delivered.isSome then .error .blocked
      else
        match (machine d.protobuf).step (net.process process) label with
        | .ok s => .ok (net.after d process label s)
        | .error fault => .error fault
  | .transfer sender label =>
      if (net.peer sender).isSome ∧ label.internal then
        match (net.link sender).next d.limits label with
        | some link => .ok (net.setLink sender link)
        | none => .error .blocked
      else .error .blocked
  | .deliver receiver beyond spare =>
      match net.peer receiver with
      | none => .error .blocked
      | some sender =>
          match (net.link sender).arrivals with
          | [] => .error .blocked
          | packet :: rest =>
              let taken := net.setLink sender
                ((net.link sender).dispatch (d.serviceId receiver.1) packet rest)
              match net.incoming d receiver beyond spare with
              | none => .ok taken
              | some label =>
                  match (machine d.protobuf).step (net.process receiver.1) label with
                  | .ok s =>
                      .ok ((taken.setSource receiver.1 (net.link sender).delivered.length).after d
                        receiver.1 label s)
                  | .error fault => .error fault

/-- Sending a packet concerns one link, at its beginning. -/
structure OnlySends (net net' : Network Msg) : Prop where
  process : net'.process = net.process
  peer : net'.peer = net.peer
  source : net'.source = net.source
  delivered : ∀ endpoint, (net'.link endpoint).delivered = (net.link endpoint).delivered
  sendReady : ∀ endpoint, (net'.link endpoint).sendReady = (net.link endpoint).sendReady

theorem post_elsewhere (process : Pid) (packet : Packet) (why : Purpose Msg) :
    net.OnlySends (net.post d process packet why) := by
  unfold post
  dsimp only
  split
  next ready =>
    have sent : ((net.link (process, packet.sessionId)).send
          (netPacket (d.serviceId process) packet)).delivered =
        (net.link (process, packet.sessionId)).delivered ∧
        ((net.link (process, packet.sessionId)).send
          (netPacket (d.serviceId process) packet)).sendReady =
        (net.link (process, packet.sessionId)).sendReady := by
      rw [Link.send, if_pos ready.2]
      exact ⟨rfl, rfl⟩
    exact ⟨rfl, rfl, rfl,
      (Function.forall_update_iff net.link
        fun endpoint link => link.delivered = (net.link endpoint).delivered).mpr
          ⟨sent.1, fun _ _ => rfl⟩,
      (Function.forall_update_iff net.link
        fun endpoint link => link.sendReady = (net.link endpoint).sendReady).mpr
          ⟨sent.2, fun _ _ => rfl⟩⟩
  next => exact ⟨rfl, rfl, rfl, fun _ => rfl, fun _ => rfl⟩

theorem after_elsewhere (process : Pid) (label : Label Msg) (s : State Msg) :
    OnlySends (net.setProcess process s) (net.after d process label s) := by
  unfold after
  dsimp only
  split
  next => exact (net.setProcess process s).post_elsewhere d process _ _
  next => exact ⟨rfl, rfl, rfl, fun _ => rfl, fun _ => rfl⟩

/-- A session is the new one or an old one. -/
theorem connect_cases {left right endpoint other : Endpoint}
    (connected : (net.connect left right).peer endpoint = some other) :
    endpoint = right ∧ other = left ∨ endpoint = left ∧ other = right ∨
      net.peer endpoint = some other := by
  simp only [connect] at connected
  by_cases isRight : endpoint = right
  · rw [isRight, Function.update_self] at connected
    exact .inl ⟨isRight, (Option.some.inj connected).symm⟩
  · rw [Function.update_of_ne isRight] at connected
    by_cases isLeft : endpoint = left
    · rw [isLeft, Function.update_self] at connected
      exact .inr (.inl ⟨isLeft, (Option.some.inj connected).symm⟩)
    · rw [Function.update_of_ne isLeft] at connected
      exact .inr (.inr connected)

end Network

/-- The network as a machine. -/
def network {Msg : Type} (d : Deployment Msg) : Machine (Network Msg) (NetLabel Msg) Fault where
  step := Network.step d

/-! ## What is assumed of a run -/

section

variable {Msg : Type} (d : Deployment Msg)

/-- What a step of a process sends fits into the length field, and is not too long for the
other end. -/
def SendsSmall (process : Pid) (s : State Msg) (label : Label Msg) : Prop :=
  ∀ s' ∈ ((machine d.protobuf).step s label).toOption, ∀ packet ∈ pushedBy s s',
    (netPacket (d.serviceId process) packet).Fits d.limits.maxPacketLen

instance (process : Pid) (s : State Msg) (label : Label Msg) :
    Decidable (SendsSmall d process s label) :=
  inferInstanceAs (Decidable (∀ s' ∈ _, ∀ packet ∈ _, _))

/-- Session ids are not used twice, packets are small enough, and the processes keep to a
discipline of their own. -/
def Orderly (Keeps : State Msg → Label Msg → Prop) (net : Network Msg) : NetLabel Msg → Prop
  | .connect left right => net.peer left = none ∧ net.peer right = none ∧ left ≠ right
  | .run process label =>
      Keeps (net.process process) label ∧ SendsSmall d process (net.process process) label
  | .transfer _ _ => True
  | .deliver receiver beyond spare =>
      ∀ label ∈ net.incoming d receiver beyond spare, Keeps (net.process receiver.1) label

instance (Keeps : State Msg → Label Msg → Prop) [∀ s label, Decidable (Keeps s label)]
    (net : Network Msg) : (label : NetLabel Msg) → Decidable (Orderly d Keeps net label)
  | .connect _ _ => inferInstanceAs (Decidable (_ ∧ _ ∧ _))
  | .run _ _ => inferInstanceAs (Decidable (_ ∧ _))
  | .transfer _ _ => isTrue trivial
  | .deliver _ _ _ => inferInstanceAs (Decidable (∀ label ∈ _, _))

end

/-! ## The code does nothing else -/

/-- Everything one step of the network can do. -/
inductive NetEffect {Msg : Type} (d : Deployment Msg) (net : Network Msg) :
    NetLabel Msg → Network Msg → Prop where
  | connected (left right : Endpoint) :
      NetEffect d net (.connect left right) (net.connect left right)
  | ran {process : Pid} {label : Label Msg} {s : State Msg}
      (taken : (machine d.protobuf).step (net.process process) label = .ok s)
      (other : label.delivered = none) :
      NetEffect d net (.run process label) (net.after d process label s)
  | transferred {sender : Endpoint} {label : LinkLabel} {link : Link}
      (moved : (net.link sender).next d.limits label = some link)
      (internal : label.internal = true) :
      NetEffect d net (.transfer sender label) (net.setLink sender link)
  /-- The service drops a packet of a session that it has given up, or one for another
  service. -/
  | ignored {receiver sender : Endpoint} {packet : NetPacket} {rest : List NetPacket}
      {beyond : Bytes} {spare : Nat} (event : (net.link sender).arrivals = packet :: rest)
      (notMine : ¬ ((net.link sender).recvReady = true ∧
        packet.ForService (d.serviceId receiver.1))) :
      NetEffect d net (.deliver receiver beyond spare)
        (net.setLink sender ((net.link sender).dispatch (d.serviceId receiver.1) packet rest))
  | delivered {receiver sender : Endpoint} {packet : NetPacket} {rest : List NetPacket}
      {beyond : Bytes} {spare : Nat} {s : State Msg} {label : Label Msg}
      (connected : net.peer receiver = some sender)
      (event : (net.link sender).arrivals = packet :: rest)
      (mine : (net.link sender).recvReady = true ∧ packet.ForService (d.serviceId receiver.1))
      (isLabel : label = .user (.deliver (rpcPacket receiver.2 packet beyond spare)
        (net.answersAt sender (net.link sender).delivered.length)))
      (incoming : net.incoming d receiver beyond spare = some label)
      (taken : (machine d.protobuf).step (net.process receiver.1) label = .ok s) :
      NetEffect d net (.deliver receiver beyond spare)
        (((net.setLink sender
          ((net.link sender).dispatch (d.serviceId receiver.1) packet rest)).setSource receiver.1
          (net.link sender).delivered.length).setProcess receiver.1 s)

theorem network_effect {Msg : Type} {d : Deployment Msg} {net net' : Network Msg}
    {label : NetLabel Msg} (taken : (network d).step net label = .ok net') :
    NetEffect d net label net' := by
  cases label with
  | connect left right =>
      cases taken
      exact .connected left right
  | run process label =>
      simp only [network, Network.step] at taken
      split at taken
      next => cases taken
      next other =>
        split at taken
        next s stepped =>
          cases taken
          exact .ran stepped (by simpa using other)
        next => cases taken
  | transfer sender label =>
      simp only [network, Network.step] at taken
      split at taken
      next allowed =>
        split at taken
        next link moved =>
          cases taken
          exact .transferred moved allowed.2
        next => cases taken
      next => cases taken
  | deliver receiver beyond spare =>
      simp only [network, Network.step] at taken
      split at taken
      next => cases taken
      next sender connected =>
        split at taken
        next => cases taken
        next packet rest event =>
          by_cases mine : (net.link sender).recvReady = true ∧
              packet.ForService (d.serviceId receiver.1)
          · have incoming : net.incoming d receiver beyond spare =
                some (.user (.deliver (rpcPacket receiver.2 packet beyond spare)
                  (net.answersAt sender (net.link sender).delivered.length))) := by
              simp only [Network.incoming, connected, event, if_pos mine]
            rw [incoming] at taken
            simp only at taken
            split at taken
            next s stepped =>
              cases taken
              exact .delivered connected event mine rfl incoming stepped
            next => cases taken
          · have incoming : net.incoming d receiver beyond spare = none := by
              simp only [Network.incoming, connected, event, if_neg mine]
            rw [incoming] at taken
            cases taken
            exact .ignored event mine

end LibcoRpc.Net
