import LibcoRpc.Rpc.Wire
import LibcoRpc.Std.BigEndian
import LibcoRpc.Std.Framing

/-!
# Packets on the wire

`LLBC_PacketProtocol` writes a packet as a header of 28 bytes and its payload, and puts
packets together again from whatever pieces the socket returns: the header assembler keeps
the beginning of a header, and a packet whose header is complete keeps the beginning of
its payload. A header with an impossible length ends the session, and takes the packets of
the same piece with it.

The reference is the framing of the byte stream by the length field. `recv_meets` says
that what `Recv` holds and what it is handed are split as one stream.
-/

namespace LibcoRpc.Net

open LibcoRpc.Std
open LibcoRpc.Rpc (Bytes Byte)

/-- `__llbc_headerLen`. -/
abbrev headerLen : Nat := 28

/-- `LLBC_Packet`, as far as the protocol stack is concerned. -/
structure NetPacket where
  length : Nat
  opcode : Int
  status : Int
  senderServiceId : Int
  recverServiceId : Int
  flags : Int
  extData1 : Int
  payload : Bytes
deriving DecidableEq, Repr

namespace NetPacket

/-- The header that `LLBC_PacketProtocol::Send` writes, for a given length field. -/
def header (packet : NetPacket) (length : Nat) : Bytes :=
  bigEndian 4 length ++ bigEndianInt 4 packet.opcode ++ bigEndianInt 2 packet.status ++
    bigEndianInt 4 packet.senderServiceId ++ bigEndianInt 4 packet.recverServiceId ++
    bigEndianInt 2 packet.flags ++ bigEndianInt 8 packet.extData1

/-- `LLBC_PacketProtocol::Send`: the block that it makes. -/
def send (packet : NetPacket) : Bytes :=
  packet.header (headerLen + packet.payload.length) ++ packet.payload

/-- Part of a header. -/
def field (header : Bytes) (offset count : Nat) : Bytes := (header.drop offset).take count

/-- `LLBC_PacketHeaderAssembler::SetToPacket`, on a packet without a payload. -/
def setToPacket (header : Bytes) : NetPacket :=
  { length := ofBigEndian (field header 0 4)
    opcode := ofBigEndianInt (field header 4 4)
    status := ofBigEndian (field header 8 2)
    senderServiceId := ofBigEndianInt (field header 10 4)
    recverServiceId := ofBigEndianInt (field header 14 4)
    flags := ofBigEndian (field header 18 2)
    extData1 := ofBigEndianInt (field header 20 8)
    payload := [] }

/-- `LLBC_Packet::Write`. -/
def write (packet : NetPacket) (bytes : Bytes) : NetPacket :=
  { packet with payload := packet.payload ++ bytes }

end NetPacket

/-- `LLBC_PacketProtocol` of one session. -/
structure PacketProtocol where
  /-- What `_headerAssembler` has received of a header. -/
  header : Bytes
  packet : Option NetPacket
  payloadNeedRecv : Nat
  payloadRecved : Nat
deriving DecidableEq, Repr

/-- How one turn of the loop of `Recv` ends. -/
inductive Turn where
  /-- `return LLBC_OK`. -/
  | ok (s : PacketProtocol)
  /-- `return LLBC_FAILED`. -/
  | failed (s : PacketProtocol)
  /-- A packet is complete, and the loop goes on with the rest of the block. -/
  | complete (s : PacketProtocol) (packet : NetPacket) (block : Bytes)
deriving DecidableEq, Repr

/-- `LLBC_PacketHeaderAssembler::Assemble`: whether the header is complete, what has been
received of it, and how much of the data was used. -/
def assemble (header data : Bytes) : Bool × Bytes × Nat :=
  if header.length = headerLen then (true, header, 0)
  else
    let needSize := headerLen - header.length
    if needSize ≤ data.length then (true, header ++ data.take needSize, needSize)
    else (false, header ++ data, data.length)

namespace PacketProtocol

/-- `LLBC_PacketProtocol::LLBC_PacketProtocol()`. -/
def init : PacketProtocol :=
  { header := [], packet := none, payloadNeedRecv := 0, payloadRecved := 0 }

/-- The second half of a turn: more of the payload of `_packet`. -/
def recvPayload (s : PacketProtocol) (packet : NetPacket) (block : Bytes) : Turn :=
  let contentNeedRecv := s.payloadNeedRecv - s.payloadRecved
  if block.length < contentNeedRecv then
    .ok { s with
      packet := some (packet.write block)
      payloadRecved := s.payloadRecved + block.length }
  else
    .complete { s with packet := none, payloadRecved := 0, payloadNeedRecv := 0 }
      (packet.write (block.take contentNeedRecv)) (block.drop contentNeedRecv)

/-- One turn of the loop of `LLBC_PacketProtocol::Recv`. -/
def turn (maxPacketLen : Nat) (s : PacketProtocol) (block : Bytes) : Turn :=
  match s.packet with
  | some packet => s.recvPayload packet block
  | none =>
      match assemble s.header block with
      | (false, header, _) => .ok { s with header := header }
      | (true, header, used) =>
          let packet := NetPacket.setToPacket header
          if packet.length < headerLen ∨ maxPacketLen < packet.length then
            .failed { s with header := [], payloadNeedRecv := 0 }
          else
            { s with header := [], payloadNeedRecv := packet.length - headerLen }.recvPayload
              packet (block.drop used)

/-- The loop of `LLBC_PacketProtocol::Recv`, with the packets it has completed so far. It
deletes them when it fails. -/
def recvLoop (maxPacketLen : Nat) : Nat → PacketProtocol → Bytes → List NetPacket →
    Option (PacketProtocol × Option (List NetPacket))
  | 0, _, _, _ => none
  | fuel + 1, s, block, out =>
      if block = [] then some (s, some out)
      else
        match s.turn maxPacketLen block with
        | .ok s => some (s, some out)
        | .failed s => some (s, none)
        | .complete s packet block => recvLoop maxPacketLen fuel s block (out ++ [packet])

/-- `LLBC_PacketProtocol::Recv`: the packets that a block completes, or `none` for
`LLBC_FAILED`. -/
def recv (maxPacketLen : Nat) (s : PacketProtocol) (block : Bytes) :
    Option (PacketProtocol × Option (List NetPacket)) :=
  s.recvLoop maxPacketLen (block.length + 1) block []

end PacketProtocol

/-! ## The byte stream -/

namespace NetPacket

/-- A packet as it comes out at the other end: the header fields have their widths, and the
length is filled in. -/
def onWire (packet : NetPacket) : NetPacket :=
  { length := (headerLen + packet.payload.length) % 256 ^ 4
    opcode := packet.opcode.bmod (256 ^ 4)
    status := packet.status % 256 ^ 2
    senderServiceId := packet.senderServiceId.bmod (256 ^ 4)
    recverServiceId := packet.recverServiceId.bmod (256 ^ 4)
    flags := packet.flags % 256 ^ 2
    extData1 := packet.extData1.bmod (256 ^ 8)
    payload := packet.payload }

@[simp] theorem length_header (packet : NetPacket) (length : Nat) :
    (packet.header length).length = headerLen := by simp [header]

theorem length_send (packet : NetPacket) :
    packet.send.length = headerLen + packet.payload.length := by simp [send]

/-- The header fields are read back. -/
theorem setToPacket_header (packet : NetPacket) (length : Nat) :
    setToPacket (packet.header length) =
      { packet.onWire with length := length % 256 ^ 4, payload := [] } := by
  simp [setToPacket, header, field, onWire, List.drop_append, List.drop_of_length_le,
    List.take_of_length_le]

/-- Neighbouring fields. -/
theorem field_append_field (bytes : Bytes) (offset first second : Nat) :
    field bytes offset first ++ field bytes (offset + first) second =
      field bytes offset (first + second) := by
  simp [field, List.take_add, List.drop_drop]

theorem length_field {bytes : Bytes} {offset count : Nat} (inside : offset + count ≤ bytes.length) :
    (field bytes offset count).length = count := by
  simp only [field, List.length_take, List.length_drop]
  omega

/-- A header is written back from the fields that were read. -/
theorem header_setToPacket {bytes : Bytes} (size : bytes.length = headerLen) :
    (setToPacket bytes).header (setToPacket bytes).length = bytes := by
  have unsigned : ∀ {offset count}, offset + count ≤ headerLen →
      bigEndianInt count (ofBigEndian (field bytes offset count)) = field bytes offset count := by
    intro offset count inside
    have written := bigEndianInt_ofBigEndian (field bytes offset count)
    rwa [length_field (size ▸ inside)] at written
  have signed : ∀ {offset count}, offset + count ≤ headerLen →
      bigEndianInt count (ofBigEndianInt (field bytes offset count)) =
        field bytes offset count := by
    intro offset count inside
    have written := bigEndianInt_ofBigEndianInt (field bytes offset count)
    rwa [length_field (size ▸ inside)] at written
  have first : bigEndian 4 (ofBigEndian (field bytes 0 4)) = field bytes 0 4 := by
    have written := bigEndian_ofBigEndian (field bytes 0 4)
    rwa [length_field (by simp [size, headerLen])] at written
  have whole : field bytes 0 headerLen = bytes := by
    simp [field, ← size]
  simp only [header, setToPacket, first]
  rw [signed (by decide), unsigned (by decide), signed (by decide), signed (by decide),
    unsigned (by decide), signed (by decide)]
  have joined := field_append_field bytes 0
  simp only [Nat.zero_add] at joined
  rw [joined, joined, joined, joined, joined, joined, whole]

/-- What has been on the wire is not changed by the wire. -/
theorem send_onWire (packet : NetPacket) : packet.onWire.send = packet.send := by
  have same : ∀ count value, bigEndianInt count (value.bmod (256 ^ count)) =
      bigEndianInt count value := by
    intro count value
    rw [← ofBigEndianInt_bigEndianInt]
    have written := bigEndianInt_ofBigEndianInt (bigEndianInt count value)
    rwa [length_bigEndianInt] at written
  have sameUnsigned : ∀ (count : Nat) (value : Int),
      bigEndianInt count (value % 256 ^ count) = bigEndianInt count value := by
    intro count value
    rw [← ofBigEndian_bigEndianInt]
    have written := bigEndianInt_ofBigEndian (bigEndianInt count value)
    rwa [length_bigEndianInt] at written
  simp only [send, header, onWire, same, sameUnsigned]

end NetPacket

open NetPacket

/-- The framing of the byte stream by the length field: what a stream begins with. -/
def packetFront (maxPacketLen : Nat) (input : Bytes) : Front Byte NetPacket :=
  if input.length < headerLen then .short
  else
    let packet := setToPacket (input.take headerLen)
    if packet.length < headerLen ∨ maxPacketLen < packet.length then .bad
    else if input.length < packet.length then .short
    else
      .frame (packet.write ((input.drop headerLen).take (packet.length - headerLen)))
        (input.drop packet.length)

section

variable {maxPacketLen : Nat} {input rest : Bytes} {packet : NetPacket}

/-- A packet at the front of a stream. -/
structure Leads (maxPacketLen : Nat) (input : Bytes) (packet : NetPacket) (rest : Bytes) :
    Prop where
  enough : headerLen ≤ packet.length ∧ packet.length ≤ maxPacketLen
  inside : packet.length ≤ input.length
  isPacket : packet = (setToPacket (input.take headerLen)).write
    ((input.drop headerLen).take (packet.length - headerLen))
  isRest : rest = input.drop packet.length

theorem packetFront_frame_iff :
    packetFront maxPacketLen input = .frame packet rest ↔
      Leads maxPacketLen input packet rest := by
  constructor
  · intro front
    simp only [packetFront] at front
    split at front
    next => cases front
    next =>
      split at front
      next => cases front
      next good =>
        split at front
        next => cases front
        next inside =>
          cases front
          simp only [not_or, Nat.not_lt] at good inside
          exact ⟨good, inside, rfl, rfl⟩
  · intro leads
    have length : (setToPacket (input.take headerLen)).length = packet.length := by
      rw [leads.isPacket]
      rfl
    have enough := leads.enough
    have inside := leads.inside
    simp only [packetFront, length]
    rw [if_neg (by omega), if_neg (by omega), if_neg (by omega), ← leads.isPacket, leads.isRest]

theorem packetFront_bad_iff :
    packetFront maxPacketLen input = .bad ↔
      headerLen ≤ input.length ∧
        ((setToPacket (input.take headerLen)).length < headerLen ∨
          maxPacketLen < (setToPacket (input.take headerLen)).length) := by
  simp only [packetFront]
  split
  next short => simp; omega
  next long =>
    split
    next bad => simp [bad]; omega
    next good => split <;> simp [good]

/-- A packet that shows only with more input ends in that input. -/
theorem Leads.beyond {held more : Bytes} (isShort : packetFront maxPacketLen held = .short)
    (leads : Leads maxPacketLen (held ++ more) packet rest) : held.length < packet.length := by
  by_contra within
  have enough := leads.enough
  have early : Leads maxPacketLen held packet (held.drop packet.length) := by
    have isPacket := leads.isPacket
    rw [List.take_append_of_le_length (by omega), List.drop_append_of_le_length (by omega),
      List.take_append_of_le_length (by simp; omega)] at isPacket
    exact ⟨enough, by omega, isPacket, rfl⟩
  rw [packetFront_frame_iff.mpr early] at isShort
  cases isShort

theorem Leads.append (leads : Leads maxPacketLen input packet rest) (more : Bytes) :
    Leads maxPacketLen (input ++ more) packet (rest ++ more) := by
  have enough := leads.enough
  have inside := leads.inside
  refine ⟨enough, by simp; omega, ?_, ?_⟩
  · rw [List.take_append_of_le_length (by omega), List.drop_append_of_le_length (by omega),
      List.take_append_of_le_length (by simp; omega)]
    exact leads.isPacket
  · rw [List.drop_append_of_le_length inside, leads.isRest]

end

/-- The framing of packets. -/
def packetFraming (maxPacketLen : Nat) : Framing Byte NetPacket where
  front := packetFront maxPacketLen
  shrinks := by
    intro input rest value front
    have leads := packetFront_frame_iff.mp front
    have enough := leads.enough
    have inside := leads.inside
    rw [leads.isRest, List.length_drop]
    simp only [headerLen] at enough
    omega
  frame_append := by
    intro input rest value more front
    exact packetFront_frame_iff.mpr ((packetFront_frame_iff.mp front).append more)
  bad_append := by
    intro input more front
    obtain ⟨long, bad⟩ := packetFront_bad_iff.mp front
    refine packetFront_bad_iff.mpr ⟨by simp; omega, ?_⟩
    rwa [List.take_append_of_le_length long]

theorem packetFraming_front (maxPacketLen : Nat) (input : Bytes) :
    (packetFraming maxPacketLen).front input = packetFront maxPacketLen input := rfl

/-! ## `Recv` against the stream -/

/-- What a stream begins with, once the header is complete. -/
theorem packetFront_append {maxPacketLen length : Nat} {header : Bytes}
    (size : header.length = headerLen) (isLength : (setToPacket header).length = length)
    (low : headerLen ≤ length) (high : length ≤ maxPacketLen) (body : Bytes) :
    packetFront maxPacketLen (header ++ body) =
      if body.length < length - headerLen then .short
      else .frame ((setToPacket header).write (body.take (length - headerLen)))
        (body.drop (length - headerLen)) := by
  have first : (header ++ body).take headerLen = header := List.take_left' size
  have second : (header ++ body).drop headerLen = body := List.drop_left' size
  have after : (header ++ body).drop length = body.drop (length - headerLen) := by
    conv_rhs => rw [← second, List.drop_drop, Nat.add_sub_cancel' low]
  simp only [packetFront, first, second, isLength, after, List.length_append, size]
  rw [if_neg (by omega), if_neg (by omega)]
  by_cases short : body.length < length - headerLen
  · rw [if_pos (by omega), if_pos short]
  · rw [if_neg (by omega), if_neg short]

/-- `_packet` has its header, and some of its payload. -/
structure Filling (maxPacketLen : Nat) (s : PacketProtocol) (header : Bytes) (packet : NetPacket) :
    Prop where
  size : header.length = headerLen
  isPacket : packet = (setToPacket header).write packet.payload
  low : headerLen ≤ packet.length
  high : packet.length ≤ maxPacketLen
  noHeader : s.header = []
  need : s.payloadNeedRecv = packet.length - headerLen
  recved : s.payloadRecved = packet.payload.length
  room : packet.payload.length ≤ packet.length - headerLen

namespace PacketProtocol

/-- The bytes of a packet that is not complete. -/
def held (s : PacketProtocol) : Bytes :=
  match s.packet with
  | none => s.header
  | some packet => packet.header packet.length ++ packet.payload

/-- What holds between two blocks. -/
structure WellFormed (maxPacketLen : Nat) (s : PacketProtocol) : Prop where
  header : s.header.length < headerLen
  idle : s.packet = none → s.payloadNeedRecv = 0 ∧ s.payloadRecved = 0
  busy : ∀ packet, s.packet = some packet →
    (∃ header, Filling maxPacketLen s header packet) ∧
      packet.payload.length < packet.length - headerLen

end PacketProtocol

/-- How a turn of `Recv` ends, and what the stream that it has seen begins with. -/
def Turn.Meets (maxPacketLen : Nat) (stream : Bytes) : Turn → Prop
  | .ok s => s.WellFormed maxPacketLen ∧ s.held = stream ∧
      packetFront maxPacketLen stream = .short
  | .failed s => s = .init ∧ packetFront maxPacketLen stream = .bad
  | .complete s packet rest => s = .init ∧ packetFront maxPacketLen stream = .frame packet rest

namespace PacketProtocol

variable {maxPacketLen : Nat} {s : PacketProtocol} {header block : Bytes} {packet : NetPacket}

theorem wellFormed_init : WellFormed maxPacketLen init where
  header := by decide
  idle _ := ⟨rfl, rfl⟩
  busy _ none := by cases none

/-- More is written to a packet that has its header. -/
theorem write_of_isPacket (isPacket : packet = (setToPacket header).write packet.payload)
    (bytes : Bytes) : packet.write bytes = (setToPacket header).write (packet.payload ++ bytes) :=
  calc packet.write bytes
      = ((setToPacket header).write packet.payload).write bytes := congrArg (write · bytes) isPacket
    _ = (setToPacket header).write (packet.payload ++ bytes) := rfl

theorem held_of_packet (size : header.length = headerLen)
    (isPacket : packet = (setToPacket header).write packet.payload)
    (current : s.packet = some packet) : s.held = header ++ packet.payload := by
  have sameHeader : packet.header packet.length = header := by
    rw [isPacket]
    exact header_setToPacket size
  simp only [held, current, sameHeader]

theorem recvPayload_meets {stream : Bytes} (filling : Filling maxPacketLen s header packet)
    (isStream : stream = header ++ packet.payload ++ block) :
    (s.recvPayload packet block).Meets maxPacketLen stream := by
  subst isStream
  obtain ⟨size, isPacket, low, high, noHeader, need, recved, room⟩ := filling
  have length : (setToPacket header).length = packet.length :=
    (congrArg NetPacket.length isPacket).symm
  have front := packetFront_append size length low high (packet.payload ++ block)
  rw [← List.append_assoc, List.length_append] at front
  simp only [recvPayload, need, recved]
  split
  next short =>
    have longer : (packet.write block).payload.length = packet.payload.length + block.length :=
      List.length_append
    have written : packet.write block = (setToPacket header).write (packet.write block).payload :=
      write_of_isPacket isPacket block
    have shorter : (packet.write block).payload.length < packet.length - headerLen := by omega
    rw [if_pos (by omega)] at front
    refine ⟨⟨by simp [noHeader], by simp, ?_⟩, ?_, front⟩
    · rintro filled isFilled
      cases isFilled
      exact ⟨⟨header, size, written, low, high, noHeader, rfl, longer.symm,
        Nat.le_of_lt shorter⟩, shorter⟩
    · rw [held_of_packet size written rfl]
      simp [write]
  next enough =>
    rw [if_neg (by omega), List.take_append, List.drop_append, List.take_of_length_le room,
      List.drop_of_length_le room] at front
    refine ⟨by simp [init, noHeader], ?_⟩
    rw [front, write_of_isPacket isPacket, List.nil_append]

theorem turn_meets (wellFormed : WellFormed maxPacketLen s) (block : Bytes) :
    (s.turn maxPacketLen block).Meets maxPacketLen (s.held ++ block) := by
  simp only [turn]
  split
  next packet current =>
    obtain ⟨⟨header, filling⟩, _⟩ := wellFormed.busy packet current
    rw [held_of_packet filling.size filling.isPacket current]
    exact recvPayload_meets filling rfl
  next idle =>
    obtain ⟨noNeed, noneRecved⟩ := wellFormed.idle idle
    have short := wellFormed.header
    have isHeld : s.held = s.header := by simp only [held, idle]
    rw [isHeld]
    simp only [assemble, if_neg (Nat.ne_of_lt short)]
    by_cases fits : headerLen - s.header.length ≤ block.length
    · have size : (s.header ++ block.take (headerLen - s.header.length)).length = headerLen := by
        simp only [List.length_append, List.length_take]
        omega
      have whole : s.header ++ block = s.header ++ block.take (headerLen - s.header.length) ++
          block.drop (headerLen - s.header.length) := by
        rw [List.append_assoc, List.take_append_drop]
      rw [if_pos fits, whole]
      simp only
      split
      next bad =>
        refine ⟨by simp [init, idle, noneRecved], packetFront_bad_iff.mpr ⟨?_, ?_⟩⟩
        · simp only [List.length_append, List.length_drop] at size ⊢
          omega
        · rwa [List.take_left' size]
      next good =>
        simp only [not_or, Nat.not_lt] at good
        apply recvPayload_meets
        · exact ⟨size, rfl, good.1, good.2, rfl, rfl, noneRecved, Nat.zero_le _⟩
        · simp [setToPacket]
    · rw [if_neg fits]
      have stillShort : (s.header ++ block).length < headerLen := by
        simp only [List.length_append]
        omega
      refine ⟨⟨stillShort, fun _ => ⟨noNeed, noneRecved⟩, ?_⟩, ?_, ?_⟩
      · intro packet current
        rw [idle] at current
        cases current
      · simp only [held, idle]
      · simp only [packetFront, if_pos stillShort]

/-- What is held between two blocks is too little for a packet. -/
theorem WellFormed.front_held (wellFormed : WellFormed maxPacketLen s) :
    packetFront maxPacketLen s.held = .short := by
  cases current : s.packet with
  | none =>
      simp only [held, current, packetFront, if_pos wellFormed.header]
  | some packet =>
      obtain ⟨⟨header, filling⟩, shorter⟩ := wellFormed.busy packet current
      rw [held_of_packet filling.size filling.isPacket current,
        packetFront_append filling.size (congrArg NetPacket.length filling.isPacket).symm
          filling.low filling.high, if_pos shorter]

/-- What a call of `Recv` makes of the stream: either it holds the end of it and has given
out the packets before, or it has failed on a bad stream. -/
def RecvMeets (maxPacketLen : Nat) (stream : Bytes) (out : List NetPacket)
    (result : Option (PacketProtocol × Option (List NetPacket))) : Prop :=
  (∃ s packets, result = some (s, some (out ++ packets)) ∧ WellFormed maxPacketLen s ∧
    (packetFraming maxPacketLen).Splits stream packets (some s.held)) ∨
  (∃ packets, result = some (init, none) ∧
    (packetFraming maxPacketLen).Splits stream packets none)

theorem recvLoop_meets {fuel : Nat} (wellFormed : WellFormed maxPacketLen s)
    (enough : block.length < fuel) (out : List NetPacket) :
    RecvMeets maxPacketLen (s.held ++ block) out (s.recvLoop maxPacketLen fuel block out) := by
  induction fuel generalizing s block out with
  | zero => exact absurd enough (Nat.not_lt_zero _)
  | succ fuel ih =>
      simp only [recvLoop]
      split
      next empty =>
        subst empty
        rw [List.append_nil]
        exact .inl ⟨s, [], by rw [List.append_nil], wellFormed, .short wellFormed.front_held⟩
      next more =>
        have meets := turn_meets wellFormed block
        split
        next s' turn =>
          rw [turn] at meets
          obtain ⟨wellFormed', held, front⟩ := meets
          exact .inl ⟨s', [], by rw [List.append_nil], wellFormed', held ▸ .short (held ▸ front)⟩
        next s' turn =>
          rw [turn] at meets
          obtain ⟨rfl, front⟩ := meets
          exact .inr ⟨[], rfl, .bad front⟩
        next s' packet rest turn =>
          rw [turn] at meets
          obtain ⟨rfl, front⟩ := meets
          have leads := packetFront_frame_iff.mp front
          have beyond := leads.beyond wellFormed.front_held
          have shorter : rest.length < fuel := by
            have inside := leads.inside
            rw [leads.isRest, List.length_drop]
            rw [List.length_append] at inside ⊢
            omega
          rcases ih wellFormed_init shorter (out ++ [packet]) with
            ⟨s', packets, result, wellFormed', splits⟩ | ⟨packets, result, splits⟩
          · refine .inl ⟨s', packet :: packets, ?_, wellFormed', .frame front splits⟩
            rw [result, List.append_assoc, List.singleton_append]
          · exact .inr ⟨packet :: packets, result, .frame front splits⟩

/-- One call of `Recv` splits what the protocol holds and what it is handed as one stream. -/
theorem recv_meets (wellFormed : WellFormed maxPacketLen s) (block : Bytes) :
    RecvMeets maxPacketLen (s.held ++ block) [] (s.recv maxPacketLen block) :=
  recvLoop_meets wellFormed (Nat.lt_succ_self _) []

end PacketProtocol

end LibcoRpc.Net
