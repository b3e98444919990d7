import LibcoRpc.Net.MessageBuffer
import LibcoRpc.Net.Reassembly
import LibcoRpc.Semantics.Machine

/-!
# One direction of a session

The way of a packet from `LLBC_Service::Send` in one process to its handler in another:
a `Send` event in the queue of the poller, the send buffer of the session, the kernel, the
packet protocol of the session at the other end, a `DataArrival` event in the queue of the
service. Four threads work on it, in any order; the kernel takes as much as it likes of
what is sent, and returns what has arrived in blocks of any size. Either end may close the
session at any time.

`Carries` says what is under way. While the session lasts nothing is lost, added or
overtaken, and what has come out is always a beginning of what was accepted.
-/

namespace LibcoRpc.Net

open LibcoRpc.Std
open LibcoRpc.Rpc (Bytes Byte)
open NetPacket

/-! ## The protocol stack -/

/-- `LLBC_CodecProtocol::Recv` with the coders of the service: the packet, or whether the
session is to be removed. -/
def codecRecv (coders : Int → Option (NetPacket → Bool)) (suppressed : Bool)
    (packet : NetPacket) : Except Bool NetPacket :=
  match coders packet.opcode with
  | some decode => if decode packet then .ok packet else .error true
  | none => if suppressed then .ok packet else .error false

/-- `LLBC_ProtocolStack::Recv`. The layer between the packets and the coders does nothing. -/
def stackRecv (maxPacketLen : Nat) (coders : Int → Option (NetPacket → Bool))
    (suppressed : Bool) (s : PacketProtocol) (block : Bytes) :
    Option (PacketProtocol × Except Bool (List NetPacket)) :=
  match s.recv maxPacketLen block with
  | none => none
  | some (s, none) => some (s, .error true)
  | some (s, some packets) => some (s, packets.mapM (codecRecv coders suppressed))

/-- A service without coders that does not insist on them passes every packet. -/
theorem mapM_codecRecv (packets : List NetPacket) :
    packets.mapM (codecRecv (fun _ => none) true) = .ok packets := by
  induction packets with
  | nil => rfl
  | cons packet packets ih =>
      rw [List.mapM_cons, ih]
      rfl

/-! ## The link -/

/-- What the kernel answers to a call of `send`. -/
inductive SendResult where
  | sent (len : Nat)
  /-- `EAGAIN` or `EWOULDBLOCK`. -/
  | wouldBlock
  | error
deriving DecidableEq, Repr

/-- The packet is for the service with this id: it says so, or names no service. -/
def NetPacket.ForService (serviceId : Int) (packet : NetPacket) : Prop :=
  packet.recverServiceId = 0 ∨ packet.recverServiceId = serviceId

instance (serviceId : Int) (packet : NetPacket) : Decidable (packet.ForService serviceId) :=
  inferInstanceAs (Decidable (_ ∨ _))

/-- Limits of a session; there is none on the send buffer by default. -/
structure LinkLimits where
  maxPacketLen : Nat
  sessionSendBufSize : Option Nat

/-- One direction of a session. -/
structure Link where
  /-- The sending service has the session among its `_readySessionInfos`. -/
  sendReady : Bool
  /-- The `Send` events of the session in the queue of the sending poller. -/
  sendEvents : List NetPacket
  /-- `_willSend`, while the sending poller has the session. -/
  willSend : Option MessageBuffer
  /-- What the kernel has taken and not returned. -/
  wire : Bytes
  /-- The packet protocol, while the receiving poller has the session. -/
  protocol : Option PacketProtocol
  /-- The `DataArrival` events of the session in the queue of the receiving service. -/
  arrivals : List NetPacket
  /-- The receiving service has the session among its `_readySessionInfos`. -/
  recvReady : Bool
  /-- Every packet that `Send` has accepted, oldest first. No code reads it. -/
  accepted : List NetPacket
  /-- Every packet that has become a `DataArrival` event. No code reads it. -/
  arrived : List NetPacket
  /-- Every packet that has reached its handler. No code reads it. -/
  delivered : List NetPacket

/-- One step of one of the threads. -/
inductive LinkLabel where
  /-- `LLBC_Service::Send`. -/
  | send (packet : NetPacket)
  /-- The sending poller handles a `Send` event, and tries to send at once. -/
  | handleSend (results : List SendResult)
  /-- The sending poller is told that the socket can be written. -/
  | onSend (results : List SendResult)
  /-- The receiving poller reads a block of this size. -/
  | onRecv (count : Nat)
  /-- The receiving service, which has this id, handles a `DataArrival` event. -/
  | dispatch (serviceId : Int)
  /-- The sending poller closes the session. -/
  | closeSend
  /-- The receiving poller closes the session. -/
  | closeRecv
  /-- The sending service drops the session. -/
  | dropSend
  /-- The receiving service drops the session. -/
  | dropRecv
deriving DecidableEq, Repr

/-- A step that only moves on what is under way, to the service with the given id. -/
def LinkLabel.moves (serviceId : Int) : LinkLabel → Bool
  | .handleSend _ | .onSend _ | .onRecv _ => true
  | .dispatch recver => recver = serviceId
  | _ => false

/-- The loop of `LLBC_Socket::OnSend`: the buffer after it, or `none` for a broken socket, and
the bytes that the kernel has taken. -/
def sendBlocks (buffer : MessageBuffer) : List SendResult → Option MessageBuffer × Bytes
  | [] => (some buffer, [])
  | result :: results =>
      match buffer.blocks with
      | [] => (some buffer, [])
      | first :: _ =>
          match result with
          | .wouldBlock => (some buffer, [])
          | .error => (none, [])
          | .sent len =>
              let taken := first.readable.take len
              let later := sendBlocks (buffer.remove taken.length).1 results
              (later.1, taken ++ later.2)

namespace Link

/-- A session that has just been created at both ends. -/
def init : Link :=
  { sendReady := true, sendEvents := [], willSend := some .init, wire := [],
    protocol := some .init, arrivals := [], recvReady := true, accepted := [], arrived := [],
    delivered := [] }

/-- `LLBC_ServiceImpl::LockableSend` and `LLBC_PollerMgr::Send`. -/
def send (link : Link) (packet : NetPacket) : Link :=
  if link.sendReady then
    { link with
      sendEvents := link.sendEvents ++ [packet]
      accepted := link.accepted ++ [packet] }
  else link

/-- `LLBC_Session::OnSend`. -/
def onSend (link : Link) (buffer : MessageBuffer) (results : List SendResult) : Link :=
  let sent := sendBlocks buffer results
  { link with willSend := sent.1, wire := link.wire ++ sent.2 }

/-- `LLBC_EpollPoller::HandleEv_Send` and `LLBC_Session::Send`. -/
def handleSend (limits : LinkLimits) (link : Link) (packet : NetPacket)
    (results : List SendResult) : Link :=
  match link.willSend with
  | none => link
  | some buffer =>
      let block := MessageBlock.new packet.send
      if limits.sessionSendBufSize.any fun size => size ≤ buffer.size + block.readableSize then
        { link with willSend := none }
      else link.onSend (buffer.append block) results

/-- `LLBC_Session::OnRecved`, with the protocol stack that `ConnMgr::Init` asks for. -/
def onRecved (limits : LinkLimits) (link : Link) (s : PacketProtocol) (block : Bytes) :
    Option Link :=
  match stackRecv limits.maxPacketLen (fun _ => none) true s block with
  | none => none
  | some (s, .ok packets) =>
      some { link with
        protocol := some s
        arrivals := link.arrivals ++ packets
        arrived := link.arrived ++ packets }
  | some (s, .error removeSession) =>
      some { link with protocol := if removeSession then none else some s }

/-- `LLBC_ServiceImpl::HandleEv_DataArrival` of the service with the given id, up to the
handler. A packet for another service is passed to that, or recycled if there is none. -/
def dispatch (link : Link) (serviceId : Int) (packet : NetPacket) (rest : List NetPacket) :
    Link :=
  { link with
    arrivals := rest
    delivered :=
      if link.recvReady ∧ packet.ForService serviceId then link.delivered ++ [packet]
      else link.delivered }

/-- One step; `none` when the thread has nothing to do. -/
def next (limits : LinkLimits) (link : Link) : LinkLabel → Option Link
  | .send packet => some (link.send packet)
  | .handleSend results =>
      match link.sendEvents with
      | [] => none
      | packet :: rest => some ({ link with sendEvents := rest }.handleSend limits packet results)
  | .onSend results =>
      match link.willSend with
      | none => none
      | some buffer => some (link.onSend buffer results)
  | .onRecv count =>
      match link.protocol with
      | none => none
      | some s =>
          if 0 < count ∧ count ≤ link.wire.length then
            { link with wire := link.wire.drop count }.onRecved limits s (link.wire.take count)
          else none
  | .dispatch serviceId =>
      match link.arrivals with
      | [] => none
      | packet :: rest => some (link.dispatch serviceId packet rest)
  | .closeSend => some { link with willSend := none }
  | .closeRecv => some { link with protocol := none }
  | .dropSend => some { link with sendReady := false }
  | .dropRecv => some { link with recvReady := false }

end Link

/-- The link as a machine. -/
def linkMachine (limits : LinkLimits) : Machine Link LinkLabel Unit where
  step link label :=
    match link.next limits label with
    | some link => .ok link
    | none => .error ()

/-- Packets are small enough for the length field and for the other end, and name no service
there. -/
def SendsFitting (limits : LinkLimits) (_ : Link) : LinkLabel → Prop
  | .send packet => packet.Fits limits.maxPacketLen ∧ packet.recverServiceId = 0
  | _ => True

instance (limits : LinkLimits) (link : Link) :
    (label : LinkLabel) → Decidable (SendsFitting limits link label)
  | .send packet => inferInstanceAs (Decidable (packet.Fits limits.maxPacketLen ∧ _))
  | .handleSend _ | .onSend _ | .onRecv _ | .dispatch _ | .closeSend | .closeRecv | .dropSend
  | .dropRecv => .isTrue trivial

/-! ## What is under way -/

/-- The kernel takes bytes from the front of the buffer. -/
theorem sendBlocks_spec (buffer : MessageBuffer) (results : List SendResult) :
    ∃ left, (sendBlocks buffer results).2 ++ left = buffer.bytes ∧
      ∀ after ∈ (sendBlocks buffer results).1, after.bytes = left := by
  induction results generalizing buffer with
  | nil => exact ⟨buffer.bytes, rfl, fun after same => Option.some.inj same ▸ rfl⟩
  | cons result results ih =>
      have stays : ∀ after ∈ some buffer, after.bytes = buffer.bytes :=
        fun after same => Option.some.inj same ▸ rfl
      simp only [sendBlocks]
      split
      next => exact ⟨buffer.bytes, rfl, stays⟩
      next first rest chain =>
        split
        next => exact ⟨buffer.bytes, rfl, stays⟩
        next => exact ⟨buffer.bytes, rfl, fun _ none => by cases none⟩
        next len =>
          obtain ⟨left, split, isLeft⟩ := ih (buffer.remove (first.readable.take len).length).1
          refine ⟨left, ?_, isLeft⟩
          obtain ⟨tail, isBytes⟩ : first.readable.take len <+: buffer.bytes := by
            rw [MessageBuffer.bytes, chain, chainBytes, List.flatMap_cons]
            exact (List.take_prefix _ _).trans (List.prefix_append _ _)
          rw [List.append_assoc, split, MessageBuffer.bytes_remove, ← isBytes, List.drop_left]

namespace Link

/-- The bytes in the send buffer. -/
def unsent (link : Link) : Bytes := (link.willSend.map MessageBuffer.bytes).getD []

/-- What is between the send buffer and the packets that have arrived: the packets `inside`,
the first of them perhaps in part already with the receiver, and of the last ones the bytes
`lost` with a buffer. -/
structure UnderWay (limits : LinkLimits) (link : Link) (s : PacketProtocol)
    (inside : List NetPacket) (lost : Bytes) : Prop where
  wellFormed : s.WellFormed limits.maxPacketLen
  stream : s.held ++ link.wire ++ link.unsent ++ lost = inside.flatMap NetPacket.send
  early : link.arrived ++ inside.map onWire <+: link.accepted.map onWire
  whole : link.willSend.isSome = true → lost = [] ∧
    link.arrived ++ (inside ++ link.sendEvents).map onWire = link.accepted.map onWire

/-- Packets come out as they went in. -/
structure Carries (limits : LinkLimits) (link : Link) : Prop where
  fits : ∀ packet ∈ link.accepted, packet.Fits limits.maxPacketLen
  unnamed : ∀ packet ∈ link.accepted, packet.recverServiceId = 0
  arrived : link.arrived <+: link.accepted.map onWire
  delivered : link.delivered <+: link.arrived
  waiting : link.recvReady = true → link.arrived = link.delivered ++ link.arrivals
  underWay : ∀ s ∈ link.protocol, ∃ inside lost, UnderWay limits link s inside lost

variable {limits : LinkLimits} {serviceId : Int} {link link' : Link}

theorem carries_init : Carries limits init where
  fits _ member := absurd member List.not_mem_nil
  unnamed _ member := absurd member List.not_mem_nil
  arrived := List.prefix_rfl
  delivered := List.prefix_rfl
  waiting _ := rfl
  underWay s same := by
    cases same
    exact ⟨[], [], PacketProtocol.wellFormed_init, rfl, List.prefix_rfl, fun _ => ⟨rfl, rfl⟩⟩

namespace Carries

/-- A step at one of the services leaves alone what is under way. -/
theorem stays (carries : Carries limits link)
    (sending : link'.willSend = link.willSend ∧ link'.sendEvents = link.sendEvents ∧
      link'.wire = link.wire)
    (protocol : link'.protocol = link.protocol) (accepted : link'.accepted = link.accepted)
    (arrived : link'.arrived = link.arrived) :
    ∀ s ∈ link'.protocol, ∃ inside lost, UnderWay limits link' s inside lost := by
  obtain ⟨willSend, sendEvents, wire⟩ := sending
  intro s current
  rw [protocol] at current
  obtain ⟨inside, lost, wellFormed, stream, early, whole⟩ := carries.underWay s current
  refine ⟨inside, lost, wellFormed, ?_, ?_, ?_⟩
  · rwa [wire, unsent, willSend]
  · rwa [arrived, accepted]
  · rwa [willSend, arrived, sendEvents, accepted]

/-- A packet is accepted. -/
theorem send (carries : Carries limits link) {packet : NetPacket}
    (isFitting : packet.Fits limits.maxPacketLen) (isUnnamed : packet.recverServiceId = 0) :
    Carries limits (link.send packet) := by
  unfold Link.send
  split
  next =>
    have longer : link.accepted.map onWire <+: (link.accepted ++ [packet]).map onWire := by
      rw [List.map_append]
      exact List.prefix_append _ _
    refine ⟨?_, ?_, carries.arrived.trans longer, carries.delivered, carries.waiting, ?_⟩
    · intro other member
      rcases List.mem_append.mp member with old | new
      · exact carries.fits other old
      · rwa [List.mem_singleton.mp new]
    · intro other member
      rcases List.mem_append.mp member with old | new
      · exact carries.unnamed other old
      · rwa [List.mem_singleton.mp new]
    · intro s same
      obtain ⟨inside, lost, wellFormed, stream, early, whole⟩ := carries.underWay s same
      refine ⟨inside, lost, wellFormed, stream, early.trans longer, fun open_ => ?_⟩
      obtain ⟨none, all⟩ := whole open_
      refine ⟨none, ?_⟩
      change link.arrived ++ (inside ++ (link.sendEvents ++ [packet])).map onWire =
        (link.accepted ++ [packet]).map onWire
      rw [@List.map_append _ _ onWire link.accepted, ← all, ← List.append_assoc inside,
        List.map_append, List.append_assoc]
  next => exact carries

/-- The kernel takes some of the send buffer. -/
theorem onSend {buffer : MessageBuffer} (carries : Carries limits link)
    (current : link.willSend = some buffer) (results : List SendResult) :
    Carries limits (link.onSend buffer results) := by
  obtain ⟨left, split, isLeft⟩ := sendBlocks_spec buffer results
  refine ⟨carries.fits, carries.unnamed, carries.arrived, carries.delivered,
    carries.waiting, fun s same => ?_⟩
  obtain ⟨inside, lost, wellFormed, stream, early, whole⟩ := carries.underWay s same
  obtain ⟨rfl, all⟩ := whole (by rw [current]; rfl)
  have unsent : link.unsent = buffer.bytes := by rw [Link.unsent, current]; rfl
  rw [unsent, ← split, List.append_nil] at stream
  cases after : (sendBlocks buffer results).1 with
  | some buffer' =>
      refine ⟨inside, [], wellFormed, ?_, early, fun _ => ⟨rfl, all⟩⟩
      have unsent' : (link.onSend buffer results).unsent = left := by
        simp only [Link.unsent, Link.onSend, after, Option.map_some, Option.getD_some]
        exact isLeft buffer' after
      rw [unsent', List.append_nil]
      simpa [Link.onSend, List.append_assoc] using stream
  | none =>
      refine ⟨inside, left, wellFormed, ?_, early, ?_⟩
      · have unsent' : (link.onSend buffer results).unsent = [] := by
          simp only [Link.unsent, Link.onSend, after, Option.map_none, Option.getD_none]
        rw [unsent', List.append_nil]
        simpa [Link.onSend, List.append_assoc] using stream
      · intro open_
        simp [Link.onSend, after] at open_

/-- The sending poller closes the session. -/
theorem closeSend (carries : Carries limits link) :
    Carries limits { link with willSend := none } := by
  refine ⟨carries.fits, carries.unnamed, carries.arrived, carries.delivered,
    carries.waiting, fun s same => ?_⟩
  obtain ⟨inside, lost, wellFormed, stream, early, _⟩ := carries.underWay s same
  refine ⟨inside, link.unsent ++ lost, wellFormed, ?_, early, fun open_ => by cases open_⟩
  simpa [Link.unsent, List.append_assoc] using stream

/-- A packet goes from its event to the send buffer. -/
theorem buffered {buffer : MessageBuffer} {packet : NetPacket} {rest : List NetPacket}
    (carries : Carries limits link) (current : link.willSend = some buffer)
    (event : link.sendEvents = packet :: rest) :
    Carries limits
      { link with
        sendEvents := rest
        willSend := some (buffer.append (MessageBlock.new packet.send)) } := by
  refine ⟨carries.fits, carries.unnamed, carries.arrived, carries.delivered,
    carries.waiting, fun s same => ?_⟩
  obtain ⟨inside, lost, wellFormed, stream, early, whole⟩ := carries.underWay s same
  obtain ⟨rfl, all⟩ := whole (by rw [current]; rfl)
  have unsent : link.unsent = buffer.bytes := by rw [Link.unsent, current]; rfl
  rw [unsent] at stream
  rw [event] at all
  refine ⟨inside ++ [packet], [], wellFormed, ?_, ?_, fun _ => ⟨rfl, ?_⟩⟩
  · simp only [Link.unsent, Option.map_some, Option.getD_some, MessageBuffer.bytes_append,
      MessageBlock.readable_new, List.flatMap_append, List.flatMap_cons, List.flatMap_nil,
      List.append_nil, ← stream, List.append_assoc]
  · rw [← all]
    exact ⟨rest.map onWire, by simp⟩
  · rw [← all]
    simp

/-- Without the session, a poller forgets the events. -/
theorem forgotten (carries : Carries limits link) (closed : link.willSend = none)
    (rest : List NetPacket) : Carries limits { link with sendEvents := rest } := by
  refine ⟨carries.fits, carries.unnamed, carries.arrived, carries.delivered,
    carries.waiting, fun s same => ?_⟩
  obtain ⟨inside, lost, wellFormed, stream, early, _⟩ := carries.underWay s same
  exact ⟨inside, lost, wellFormed, stream, early, fun open_ => by simp [closed] at open_⟩

theorem handleSend {packet : NetPacket} {rest : List NetPacket} (carries : Carries limits link)
    (event : link.sendEvents = packet :: rest) (results : List SendResult) :
    Carries limits ({ link with sendEvents := rest }.handleSend limits packet results) := by
  unfold Link.handleSend
  split
  next closed => exact carries.forgotten closed rest
  next buffer current =>
    simp only
    split
    next => exact carries.closeSend.forgotten rfl rest
    next => exact (carries.buffered current event).onSend rfl results

/-- Packets that are under way have been accepted. -/
theorem fits_inside {inside : List NetPacket} (carries : Carries limits link)
    (early : link.arrived ++ inside.map onWire <+: link.accepted.map onWire) :
    ∀ packet ∈ inside, packet.Fits limits.maxPacketLen := by
  intro packet member
  have wired := early.subset (List.mem_append_right _ (List.mem_map_of_mem member))
  obtain ⟨sent, isSent, same⟩ := List.mem_map.mp wired
  have payload : sent.payload = packet.payload := by
    simpa only [onWire] using congrArg NetPacket.payload same
  simpa only [NetPacket.Fits, payload] using carries.fits sent isSent

/-- The receiving poller is handed a block. -/
theorem onRecved {s : PacketProtocol} {count : Nat} (carries : Carries limits link)
    (current : link.protocol = some s)
    (taken : { link with wire := link.wire.drop count }.onRecved limits s
      (link.wire.take count) = some link') : Carries limits link' := by
  obtain ⟨inside, lost, wellFormed, stream, early, whole⟩ := carries.underWay s current
  have fits := carries.fits_inside early
  have cut : s.held ++ link.wire.take count ++ (link.wire.drop count ++ link.unsent ++ lost) =
      inside.flatMap NetPacket.send := by
    calc s.held ++ link.wire.take count ++ (link.wire.drop count ++ link.unsent ++ lost)
        = s.held ++ (link.wire.take count ++ link.wire.drop count) ++ link.unsent ++ lost := by
          simp only [List.append_assoc]
      _ = inside.flatMap NetPacket.send := by rw [List.take_append_drop, stream]
  obtain ⟨s', done, later, result, rfl, wellFormed', rest⟩ :=
    recv_of_stream wellFormed fits cut
  simp only [Link.onRecved, stackRecv, result, mapM_codecRecv, Option.some.injEq] at taken
  subst taken
  rw [List.map_append, ← List.append_assoc] at early
  refine ⟨carries.fits, carries.unnamed, (List.prefix_append _ _).trans early,
    carries.delivered.trans (List.prefix_append _ _), ?_, ?_⟩
  · intro ready
    change link.arrived ++ _ = link.delivered ++ (link.arrivals ++ _)
    rw [carries.waiting ready, List.append_assoc]
  · rintro _ ⟨⟩
    refine ⟨later, lost, wellFormed', by rw [← rest]; simp [Link.unsent], early, fun open_ => ?_⟩
    obtain ⟨none, all⟩ := whole open_
    refine ⟨none, ?_⟩
    rw [← all]
    simp

/-- What has arrived is for whichever service takes it. -/
theorem forService (carries : Carries limits link) {packet : NetPacket}
    (member : packet ∈ link.arrived) : packet.ForService serviceId := by
  obtain ⟨sent, isSent, rfl⟩ := List.mem_map.mp (carries.arrived.subset member)
  left
  simp only [onWire, carries.unnamed sent isSent]
  rfl

/-- The receiving service takes an event. -/
theorem dispatch {packet : NetPacket} {rest : List NetPacket} (carries : Carries limits link)
    (event : link.arrivals = packet :: rest) :
    Carries limits (link.dispatch serviceId packet rest) := by
  by_cases ready : link.recvReady = true
  · have all := carries.waiting ready
    rw [event] at all
    have mine : link.recvReady = true ∧ packet.ForService serviceId :=
      ⟨ready, carries.forService (by simp [all])⟩
    refine ⟨carries.fits, carries.unnamed, carries.arrived, ?_, fun _ => ?_,
      carries.stays ⟨rfl, rfl, rfl⟩ rfl rfl rfl⟩
    · simp only [Link.dispatch, if_pos mine, all]
      exact ⟨rest, by simp⟩
    · simp only [Link.dispatch, if_pos mine, all]
      simp
  · refine ⟨carries.fits, carries.unnamed, carries.arrived, ?_,
      fun isReady => absurd isReady ready, carries.stays ⟨rfl, rfl, rfl⟩ rfl rfl rfl⟩
    simp only [Link.dispatch, ready]
    exact carries.delivered

theorem step {label : LinkLabel} (carries : Carries limits link)
    (fitting : SendsFitting limits link label)
    (taken : (linkMachine limits).step link label = .ok link') : Carries limits link' := by
  simp only [linkMachine] at taken
  split at taken
  next reached moved =>
    cases taken
    cases label with
    | send packet =>
        cases moved
        exact carries.send fitting.1 fitting.2
    | handleSend results =>
        simp only [next] at moved
        split at moved
        next => cases moved
        next packet rest event =>
          cases moved
          exact carries.handleSend event results
    | onSend results =>
        simp only [next] at moved
        split at moved
        next => cases moved
        next buffer current =>
          cases moved
          exact carries.onSend current results
    | onRecv count =>
        simp only [next] at moved
        split at moved
        next => cases moved
        next s current =>
          split at moved
          next => exact carries.onRecved current moved
          next => cases moved
    | dispatch serviceId =>
        simp only [next] at moved
        split at moved
        next => cases moved
        next packet rest event =>
          cases moved
          exact carries.dispatch event
    | closeSend =>
        cases moved
        exact carries.closeSend
    | closeRecv =>
        cases moved
        exact ⟨carries.fits, carries.unnamed, carries.arrived, carries.delivered, carries.waiting,
          fun _ closed => by cases closed⟩
    | dropSend =>
        cases moved
        exact ⟨carries.fits, carries.unnamed, carries.arrived, carries.delivered, carries.waiting,
          carries.stays ⟨rfl, rfl, rfl⟩ rfl rfl rfl⟩
    | dropRecv =>
        cases moved
        exact ⟨carries.fits, carries.unnamed, carries.arrived, carries.delivered,
          fun ready => (by cases ready), carries.stays ⟨rfl, rfl, rfl⟩ rfl rfl rfl⟩
  next => cases taken

end Carries

theorem carries_of_run
    (run : (linkMachine limits).Run (SendsFitting limits) init link) : Carries limits link := by
  induction run with
  | start => exact carries_init
  | step _ fitting taken ih => exact ih.step fitting taken

/-- Over every interleaving of the threads, whatever the kernel takes and returns at a time:
what has reached its handler is a beginning of what was accepted, and while the session lasts
everything else that was accepted is under way, in order: as `DataArrival` events, as bytes
between the send buffer and the packet protocol, and as `Send` events. -/
theorem link_is_fifo
    (run : (linkMachine limits).Run (SendsFitting limits) init link) :
    link.delivered <+: link.accepted.map onWire ∧
      ∀ buffer s, link.willSend = some buffer → link.protocol = some s → link.recvReady = true →
        ∃ inside,
          link.accepted.map onWire =
            link.delivered ++ link.arrivals ++ (inside ++ link.sendEvents).map onWire ∧
          s.held ++ link.wire ++ buffer.bytes = inside.flatMap NetPacket.send := by
  have carries := carries_of_run run
  refine ⟨carries.delivered.trans carries.arrived, ?_⟩
  intro buffer s current open_ ready
  obtain ⟨inside, lost, _, stream, _, whole⟩ := carries.underWay s open_
  obtain ⟨rfl, all⟩ := whole (by rw [current]; rfl)
  have unsent : link.unsent = buffer.bytes := by rw [Link.unsent, current]; rfl
  refine ⟨inside, ?_, ?_⟩
  · rw [← carries.waiting ready, all]
  · rw [← stream, unsent, List.append_nil]

/-- Two packets are accepted. The kernel takes three bytes of the first at once, then
everything; the block that arrives ends inside the second packet. -/
theorem two_packets_under_way :
    let limits : LinkLimits := ⟨64, none⟩
    let first : NetPacket := ⟨0, 1, 0, 0, 0, 0, 0, [7, 8]⟩
    let second : NetPacket := ⟨0, 2, 0, 0, 0, 0, 0, [9]⟩
    let link := ((linkMachine limits).replay
      (fun link label => decide (SendsFitting limits link label)) init
      [.send first, .send second, .handleSend [.sent 3, .wouldBlock],
        .handleSend [.sent 99, .sent 99], .onRecv 35, .dispatch 1]).get (by decide +kernel)
    link.delivered = [first.onWire] ∧ link.delivered <+: link.accepted.map onWire :=
  ⟨by decide +kernel, (link_is_fifo
    (.of_replay (fun _ _ passes => of_decide_eq_true passes) (Option.some_get _).symm)).1⟩

/-! ## Nothing gets stuck -/

/-- The link goes on by itself: no packet is sent, and no end closes. -/
def Proceeds (limits : LinkLimits) (serviceId : Int) (link link' : Link) : Prop :=
  ∃ labels : List LinkLabel, (∀ label ∈ labels, label.moves serviceId = true) ∧
    (linkMachine limits).replay (fun _ _ => true) link labels = some link'

theorem Proceeds.refl : Proceeds limits serviceId link link := ⟨[], by simp, rfl⟩

theorem Proceeds.trans {middle : Link} (first : Proceeds limits serviceId link middle)
    (second : Proceeds limits serviceId middle link') : Proceeds limits serviceId link link' := by
  obtain ⟨labels, moves, replayed⟩ := first
  obtain ⟨later, movesLater, onward⟩ := second
  refine ⟨labels ++ later, ?_, by rw [Machine.replay_append replayed, onward]⟩
  intro label member
  rcases List.mem_append.mp member with early | late
  · exact moves label early
  · exact movesLater label late

theorem Proceeds.step {label : LinkLabel} (moves : label.moves serviceId = true)
    (moved : link.next limits label = some link') : Proceeds limits serviceId link link' := by
  refine ⟨[label], by simpa using moves, ?_⟩
  simp only [Machine.replay, linkMachine, moved, if_true]

/-- The poller empties its queue into the send buffer. -/
theorem proceeds_buffer {buffer : MessageBuffer} (unlimited : limits.sessionSendBufSize = none)
    (current : link.willSend = some buffer) :
    ∃ filled, Proceeds limits serviceId link
      { link with sendEvents := [], willSend := some filled } := by
  induction events : link.sendEvents generalizing link buffer with
  | nil =>
      refine ⟨buffer, ?_⟩
      rw [← events, ← current]
      exact .refl
  | cons packet rest ih =>
      have moved : link.next limits (.handleSend []) = some
          { link with
            sendEvents := rest
            willSend := some (buffer.append (MessageBlock.new packet.send)) } := by
        simp only [next, events, handleSend, current, unlimited, Option.any_none, onSend,
          sendBlocks, List.append_nil]
        rfl
      have still : { link with
          sendEvents := rest
          willSend := some (buffer.append (MessageBlock.new packet.send)) }.willSend =
          some (buffer.append (MessageBlock.new packet.send)) := rfl
      obtain ⟨filled, onward⟩ := ih still rfl
      exact ⟨filled, (Proceeds.step rfl moved).trans onward⟩

/-- The kernel can take everything that is in a buffer. -/
theorem sendBlocks_all (buffer : MessageBuffer) :
    ∃ results after, sendBlocks buffer results = (some after, buffer.bytes) := by
  induction chain : buffer.blocks generalizing buffer with
  | nil => exact ⟨[], buffer, by rw [MessageBuffer.bytes, chain]; rfl⟩
  | cons first rest ih =>
      have some_ : first.readableSize ≠ 0 := by
        have filled := buffer.filled first (by rw [chain]; exact List.mem_cons_self)
        rwa [ne_eq, first.readable_eq_nil_iff] at filled
      have shorter : (buffer.remove first.readableSize).1.blocks = rest := by
        simp [MessageBuffer.remove, chain, removeBlocks, some_]
      obtain ⟨results, after, sent⟩ := ih (buffer.remove first.readableSize).1 shorter
      have whole : first.readable.take first.readableSize = first.readable :=
        List.take_of_length_le (Nat.le_of_eq first.length_readable)
      refine ⟨.sent first.readableSize :: results, after, ?_⟩
      simp only [sendBlocks, chain, whole, first.length_readable, sent]
      rw [MessageBuffer.bytes, shorter, MessageBuffer.bytes, chain]
      rfl

/-- The poller empties the send buffer. -/
theorem proceeds_send {buffer : MessageBuffer} (current : link.willSend = some buffer) :
    ∃ after, after.bytes = [] ∧
      Proceeds limits serviceId link
        { link with willSend := some after, wire := link.wire ++ buffer.bytes } := by
  obtain ⟨results, after, sent⟩ := sendBlocks_all buffer
  obtain ⟨left, split, isLeft⟩ := sendBlocks_spec buffer results
  rw [sent] at split isLeft
  have empty : left = [] := by simpa using split
  refine ⟨after, (isLeft after rfl).trans empty, ?_⟩
  have moved : link.next limits (.onSend results) =
      some { link with willSend := some after, wire := link.wire ++ buffer.bytes } := by
    simp only [next, current, onSend, sent]
  exact .step rfl moved

/-- The service works off its queue. -/
theorem proceeds_dispatch (ready : link.recvReady = true)
    (mine : ∀ packet ∈ link.arrivals, packet.ForService serviceId) :
    Proceeds limits serviceId link
      { link with arrivals := [], delivered := link.delivered ++ link.arrivals } := by
  induction events : link.arrivals generalizing link with
  | nil =>
      rw [List.append_nil, ← events]
      exact .refl
  | cons packet rest ih =>
      rw [events] at mine
      have first := mine packet List.mem_cons_self
      have moved : link.next limits (.dispatch serviceId) = some
          { link with arrivals := rest, delivered := link.delivered ++ [packet] } := by
        simp only [next, events, dispatch, if_pos (And.intro ready first)]
      have still : { link with
          arrivals := rest
          delivered := link.delivered ++ [packet] }.recvReady = true := ready
      have onward := ih still (fun other member => mine other (List.mem_cons_of_mem _ member)) rfl
      simp only [List.append_assoc, List.singleton_append] at onward
      exact (Proceeds.step (by simp [LinkLabel.moves]) moved).trans onward

theorem Carries.proceeds (carries : Carries limits link)
    (proceeds : Proceeds limits serviceId link link') : Carries limits link' := by
  obtain ⟨labels, moves, replayed⟩ := proceeds
  induction labels generalizing link with
  | nil =>
      cases replayed
      exact carries
  | cons label labels ih =>
      obtain ⟨middle, _, taken, onward⟩ := Machine.replay_cons_cases replayed
      have fitting : SendsFitting limits link label := by
        have isMove := moves label List.mem_cons_self
        cases label with
        | send => cases isMove
        | _ => trivial
      exact ih (carries.step fitting taken)
        (fun other member => moves other (List.mem_cons_of_mem _ member)) onward

/-- When no bytes are under way, no packets are. -/
theorem UnderWay.none_inside {s : PacketProtocol} {inside : List NetPacket} {lost : Bytes}
    (underWay : UnderWay limits link s inside lost)
    (fits : ∀ packet ∈ inside, packet.Fits limits.maxPacketLen)
    (held : s.held = inside.flatMap NetPacket.send) : inside = [] := by
  cases inside with
  | nil => rfl
  | cons packet rest =>
      have front := front_send (fits packet List.mem_cons_self) (rest.flatMap NetPacket.send)
      rw [packetFraming_front, ← List.flatMap_cons, ← held, underWay.wellFormed.front_held] at front
      cases front

/-- The receiving poller reads everything that the kernel has. -/
theorem proceeds_recv {s : PacketProtocol} (carries : Carries limits link)
    (current : link.protocol = some s) :
    ∃ s' packets, Proceeds limits serviceId link
      { link with
        wire := []
        protocol := some s'
        arrivals := link.arrivals ++ packets
        arrived := link.arrived ++ packets } := by
  by_cases some_ : link.wire = []
  · refine ⟨s, [], ?_⟩
    rw [List.append_nil, List.append_nil, ← some_, ← current]
    exact .refl
  · obtain ⟨inside, lost, wellFormed, stream, early, _⟩ := carries.underWay s current
    have cut : s.held ++ link.wire ++ (link.unsent ++ lost) = inside.flatMap NetPacket.send := by
      rw [← stream]
      simp only [List.append_assoc]
    obtain ⟨s', done, _, result, _⟩ :=
      recv_of_stream wellFormed (carries.fits_inside early) cut
    refine ⟨s', done.map onWire, ?_⟩
    have moved : link.next limits (.onRecv link.wire.length) = some
        { link with
          wire := []
          protocol := some s'
          arrivals := link.arrivals ++ done.map onWire
          arrived := link.arrived ++ done.map onWire } := by
      have count : 0 < link.wire.length ∧ link.wire.length ≤ link.wire.length :=
        ⟨List.length_pos_iff.mpr some_, Nat.le_refl _⟩
      simp only [next, current, if_pos count, List.take_length, List.drop_length, onRecved,
        stackRecv, result, mapM_codecRecv]
    exact .step rfl moved

/-- While a session without a limit on its send buffer lasts, the threads can always bring
every packet that was accepted to its handler: nothing that is under way is stuck. -/
theorem link_drains {buffer : MessageBuffer} {s : PacketProtocol}
    (run : (linkMachine limits).Run (SendsFitting limits) init link)
    (unlimited : limits.sessionSendBufSize = none) (sending : link.willSend = some buffer)
    (receiving : link.protocol = some s) (ready : link.recvReady = true) :
    ∃ drained, Proceeds limits serviceId link drained ∧ drained.accepted = link.accepted ∧
      drained.delivered = link.accepted.map onWire := by
  have carries := carries_of_run run
  obtain ⟨filled, queued⟩ := proceeds_buffer unlimited sending
  obtain ⟨after, empty, sent⟩ := @proceeds_send limits serviceId
    { link with sendEvents := [], willSend := some filled } filled rfl
  have untilSent := queued.trans sent
  obtain ⟨s', packets, read⟩ := proceeds_recv (carries.proceeds untilSent) receiving
  have untilRead := untilSent.trans read
  -- Nothing is left between the services, so everything has arrived.
  obtain ⟨inside, lost, underWay⟩ := (carries.proceeds untilRead).underWay s' rfl
  obtain ⟨rfl, all⟩ := underWay.whole rfl
  have held : s'.held = inside.flatMap NetPacket.send := by
    rw [← underWay.stream]
    simp [unsent, empty]
  have none := underWay.none_inside ((carries.proceeds untilRead).fits_inside underWay.early) held
  subst none
  have arrived := (carries.proceeds untilRead).waiting ready
  have mine : ∀ packet ∈ link.arrivals ++ packets, packet.ForService serviceId :=
    fun packet member =>
      (carries.proceeds untilRead).forService (arrived ▸ List.mem_append_right _ member)
  refine ⟨_, untilRead.trans (proceeds_dispatch ready mine), rfl, ?_⟩
  simp only [List.append_nil, List.map_nil] at all arrived ⊢
  exact arrived.symm.trans all

/-- Two packets that have only been accepted. -/
theorem two_packets_drain :
    let limits : LinkLimits := ⟨64, none⟩
    let first : NetPacket := ⟨0, 1, 0, 0, 0, 0, 0, [7, 8]⟩
    let second : NetPacket := ⟨0, 2, 0, 0, 0, 0, 0, [9]⟩
    let link := (init.send first).send second
    ∃ drained, Proceeds limits 3 link drained ∧
      drained.delivered = [first.onWire, second.onWire] := by
  intro limits first second link
  have fits : (first.Fits 64 ∧ first.recverServiceId = 0) ∧ second.Fits 64 ∧
      second.recverServiceId = 0 := by decide +kernel
  have accepted : ∀ {link : Link} {packet : NetPacket},
      packet.Fits 64 ∧ packet.recverServiceId = 0 →
      (linkMachine limits).Run (SendsFitting limits) init link →
      (linkMachine limits).Run (SendsFitting limits) init (link.send packet) :=
    fun {_ packet} fits run =>
      @Machine.Run.step _ _ _ _ _ _ _ (LinkLabel.send packet) _ run fits rfl
  have run : (linkMachine limits).Run (SendsFitting limits) init link :=
    accepted fits.2 (accepted fits.1 .start)
  obtain ⟨drained, proceeds, _, delivered⟩ := link_drains run rfl rfl rfl rfl
  exact ⟨drained, proceeds, delivered⟩

end Link

end LibcoRpc.Net
