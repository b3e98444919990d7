import LibcoRpc.Net.PacketProtocol

/-!
# Packets out of any blocks

The socket returns the byte stream of a session in blocks of any size, and `Recv` is
called on one block after another. What comes out does not depend on the blocks as long as
the stream is good: the packets that were sent, in order, each as soon as its last byte is
there. On a bad stream the session is closed, and what came out before is a beginning of
the packets in front of the bad header.
-/

namespace LibcoRpc.Net

open LibcoRpc.Std
open LibcoRpc.Rpc (Bytes Byte)
open NetPacket

namespace PacketProtocol

variable {maxPacketLen : Nat} {s : PacketProtocol}

/-- The blocks of a session are handed to `Recv` one after another: the packets that it
gives out, and the protocol after them, or `none` when a failure has closed the session. -/
def recvAll (maxPacketLen : Nat) (s : PacketProtocol) :
    List Bytes → Option (List NetPacket × Option PacketProtocol)
  | [] => some ([], some s)
  | block :: blocks =>
      match s.recv maxPacketLen block with
      | none => none
      | some (_, none) => some ([], none)
      | some (s, some packets) =>
          (recvAll maxPacketLen s blocks).map fun later => (packets ++ later.1, later.2)

theorem recvAll_receives (wellFormed : WellFormed maxPacketLen s) (blocks : List Bytes) :
    ∃ packets left, s.recvAll maxPacketLen blocks = some (packets, left) ∧
      (packetFraming maxPacketLen).Receives s.held blocks packets (left.map held) ∧
      ∀ s' ∈ left, WellFormed maxPacketLen s' := by
  induction blocks generalizing s with
  | nil => exact ⟨[], some s, rfl, .done, fun _ same => Option.some.inj same ▸ wellFormed⟩
  | cons block blocks ih =>
      rcases recv_meets wellFormed block with
        ⟨next, packets, result, wellFormed', splits⟩ | ⟨packets, result, splits⟩
      · obtain ⟨later, left, rest, receives, stays⟩ := ih wellFormed'
        refine ⟨packets ++ later, left, ?_, .chunk splits receives, stays⟩
        simp only [recvAll, result, rest, List.nil_append, Option.map_some]
      · refine ⟨[], none, ?_, .bad splits, fun _ none => by cases none⟩
        simp only [recvAll, result]

theorem held_length_lt_iff (wellFormed : WellFormed maxPacketLen s) :
    s.held.length < headerLen ↔ s.packet = none := by
  cases current : s.packet with
  | none => simp [held, current, wellFormed.header]
  | some packet => simp [held, current]

/-- The bytes that are held determine the protocol. -/
theorem WellFormed.eq_of_held {other : PacketProtocol} (wellFormed : WellFormed maxPacketLen s)
    (otherFormed : WellFormed maxPacketLen other) (same : s.held = other.held) : s = other := by
  have both : s.packet = none ↔ other.packet = none := by
    rw [← held_length_lt_iff wellFormed, ← held_length_lt_iff otherFormed, same]
  cases current : s.packet with
  | none =>
      have otherCurrent := both.mp current
      obtain ⟨need, recved⟩ := wellFormed.idle current
      obtain ⟨otherNeed, otherRecved⟩ := otherFormed.idle otherCurrent
      simp only [held, current, otherCurrent] at same
      cases s
      cases other
      simp_all
  | some packet =>
      cases otherCurrent : other.packet with
      | none =>
          rw [both.mpr otherCurrent] at current
          cases current
      | some otherPacket =>
          obtain ⟨⟨header, filling⟩, _⟩ := wellFormed.busy packet current
          obtain ⟨⟨otherHeader, otherFilling⟩, _⟩ := otherFormed.busy otherPacket otherCurrent
          rw [held_of_packet filling.size filling.isPacket current,
            held_of_packet otherFilling.size otherFilling.isPacket otherCurrent] at same
          obtain ⟨rfl, samePayload⟩ :=
            List.append_inj same (filling.size.trans otherFilling.size.symm)
          have samePacket : packet = otherPacket := by
            rw [filling.isPacket, otherFilling.isPacket, samePayload]
          subst samePacket
          have need := filling.need.trans otherFilling.need.symm
          have recved := filling.recved.trans otherFilling.recved.symm
          have noHeader := filling.noHeader.trans otherFilling.noHeader.symm
          cases s
          cases other
          simp_all

end PacketProtocol

/-! ## The stream of the packets that were sent -/

/-- A packet whose length fits the length field and is accepted by the receiver. -/
def NetPacket.Fits (maxPacketLen : Nat) (packet : NetPacket) : Prop :=
  headerLen + packet.payload.length < 256 ^ 4 ∧ headerLen + packet.payload.length ≤ maxPacketLen

instance (maxPacketLen : Nat) (packet : NetPacket) : Decidable (packet.Fits maxPacketLen) :=
  inferInstanceAs (Decidable (_ ∧ _))

section

variable {maxPacketLen : Nat} {packet : NetPacket} {input rest : Bytes}
  {packets : List NetPacket}

theorem front_nil (maxPacketLen : Nat) : (packetFraming maxPacketLen).front [] = .short := by
  rw [packetFraming_front, packetFront, if_pos (by decide)]

/-- A packet that was sent is at the front of the stream. -/
theorem front_send (fits : packet.Fits maxPacketLen) (rest : Bytes) :
    (packetFraming maxPacketLen).front (packet.send ++ rest) = .frame packet.onWire rest := by
  have header := setToPacket_header packet (headerLen + packet.payload.length)
  have length : (setToPacket (packet.header (headerLen + packet.payload.length))).length =
      headerLen + packet.payload.length := by
    rw [header]
    exact Nat.mod_eq_of_lt fits.1
  rw [packetFraming_front, send, List.append_assoc,
    packetFront_append (packet.length_header _) length (Nat.le_add_right _ _) fits.2,
    Nat.add_sub_cancel_left, if_neg (by simp), List.take_left, List.drop_left, header]
  rfl

/-- A packet at the front of a stream could have been sent. -/
theorem Leads.sent (leads : Leads maxPacketLen input packet rest) :
    input = packet.send ++ rest ∧ packet.Fits maxPacketLen := by
  obtain ⟨⟨low, high⟩, inside, isPacket, isRest⟩ := leads
  have size : (input.take headerLen).length = headerLen := by
    rw [List.length_take]
    omega
  have payload : packet.payload = (input.drop headerLen).take (packet.length - headerLen) :=
    congrArg NetPacket.payload isPacket
  have length : headerLen + packet.payload.length = packet.length := by
    rw [payload, List.length_take, List.length_drop]
    omega
  have header : packet.header packet.length = input.take headerLen := by
    rw [isPacket]
    exact header_setToPacket size
  refine ⟨?_, ?_, length ▸ high⟩
  · rw [send, length, header, payload, isRest, ← List.take_add, Nat.add_sub_cancel' low,
      List.take_append_drop]
  · have bound := ofBigEndian_lt (field (input.take headerLen) 0 4)
    rw [length_field (by rw [size]; decide)] at bound
    rw [length, isPacket]
    exact bound

/-- The packets of a stream could have been sent, and are not changed by the wire. -/
theorem splits_sent {left : Option Bytes}
    (splits : (packetFraming maxPacketLen).Splits input packets left) :
    (∀ packet ∈ packets, packet.Fits maxPacketLen ∧ packet.onWire = packet) ∧
      ∃ rest, input = packets.flatMap send ++ rest ∧
        (left = some rest ∨ left = none ∧ packetFront maxPacketLen rest = .bad) := by
  induction splits with
  | @short input => exact ⟨fun _ member => absurd member List.not_mem_nil, input, rfl, .inl rfl⟩
  | @bad input front =>
      exact ⟨fun _ member => absurd member List.not_mem_nil, input, rfl, .inr ⟨rfl, front⟩⟩
  | @frame input packet next packets left front later ih =>
      obtain ⟨each, rest, split, last⟩ := ih
      obtain ⟨isInput, fits⟩ := (packetFront_frame_iff.mp front).sent
      have same : packet.onWire = packet := by
        have again := front_send fits next
        rw [← isInput] at again
        exact (Front.frame.inj (again.symm.trans front)).1
      refine ⟨?_, rest, ?_, last⟩
      · intro other member
        rcases List.mem_cons.mp member with rfl | member
        · exact ⟨fits, same⟩
        · exact each other member
      · rw [List.flatMap_cons, List.append_assoc, ← split, isInput]

theorem length_of_splits {left : Option Bytes}
    (splits : (packetFraming maxPacketLen).Splits input packets left) (member : packet ∈ packets) :
    headerLen + packet.payload.length = packet.length ∧ packet.length ≤ maxPacketLen := by
  obtain ⟨fits, same⟩ := (splits_sent splits).1 packet member
  have length : headerLen + packet.payload.length = packet.length := by
    rw [← same]
    exact (Nat.mod_eq_of_lt fits.1).symm
  exact ⟨length, length ▸ fits.2⟩

/-- Packets that were sent one after another. -/
theorem splits_send (fits : ∀ packet ∈ packets, packet.Fits maxPacketLen) :
    (packetFraming maxPacketLen).Splits (packets.flatMap send) (packets.map onWire) (some []) := by
  induction packets with
  | nil => exact .short (front_nil maxPacketLen)
  | cons packet packets ih =>
      have front := front_send (fits packet List.mem_cons_self) (packets.flatMap send)
      rw [List.flatMap_cons, List.map_cons]
      exact .frame front (ih fun other member => fits other (List.mem_cons_of_mem _ member))

end

/-! ## The packets that arrive -/

open PacketProtocol

/-- A protocol that is in the middle of the stream of some packets is handed more of it. -/
theorem recv_of_stream {maxPacketLen : Nat} {s : PacketProtocol} {packets : List NetPacket}
    {block more : Bytes} (wellFormed : WellFormed maxPacketLen s)
    (fits : ∀ packet ∈ packets, packet.Fits maxPacketLen)
    (stream : s.held ++ block ++ more = packets.flatMap send) :
    ∃ s' done later, s.recv maxPacketLen block = some (s', some (done.map onWire)) ∧
      packets = done ++ later ∧ WellFormed maxPacketLen s' ∧
      s'.held ++ more = later.flatMap send := by
  have whole := splits_send fits
  rw [← stream] at whole
  rcases recv_meets wellFormed block with ⟨s', out, result, wellFormed', splits⟩ |
    ⟨out, _, splits⟩
  · obtain ⟨later, left, onward⟩ :=
      @Framing.Splits.exists_of_input _ _ (packetFraming maxPacketLen) (s'.held ++ more)
    obtain ⟨isOut, rfl⟩ := (splits.append onward).unique whole
    obtain ⟨done, rest, rfl, rfl, rfl⟩ := List.append_eq_map_iff.mp isOut
    obtain ⟨_, last, input, isLast⟩ := splits_sent onward
    refine ⟨s', done, rest, result, rfl, wellFormed', ?_⟩
    rcases isLast with same | ⟨none, _⟩
    · rw [input, ← Option.some.inj same, List.append_nil, List.flatMap_map, funext send_onWire]
    · cases none
  · have bad : (packetFraming maxPacketLen).Splits (s.held ++ block ++ more) out none :=
      splits.append_bad
    cases (bad.unique whole).2

/-- A fresh protocol is handed any blocks. -/
theorem recvAll_init (maxPacketLen : Nat) (blocks : List Bytes) :
    ∃ packets left, init.recvAll maxPacketLen blocks = some (packets, left) ∧
      match left with
      | some s => WellFormed maxPacketLen s ∧
          (packetFraming maxPacketLen).Splits blocks.flatten packets (some s.held)
      | none => ∃ dropped,
          (packetFraming maxPacketLen).Splits blocks.flatten (packets ++ dropped) none := by
  obtain ⟨packets, left, result, receives, stays⟩ :=
    @recvAll_receives maxPacketLen init wellFormed_init blocks
  refine ⟨packets, left, result, ?_⟩
  cases left with
  | some s => exact ⟨stays s rfl, receives.splits (front_nil maxPacketLen)⟩
  | none => exact receives.splits_of_stopped

/-- Whatever the sizes of the blocks in which a beginning of the stream of some packets
arrives, `Recv` never fails, and gives out each packet as soon as its last byte is there: the
packets that are out come first and in order, the bytes that are held are a proper beginning
of the next one, and when the whole stream has arrived all packets are out. -/
theorem packets_arrive_in_any_blocks {maxPacketLen : Nat} {packets : List NetPacket}
    {blocks : List Bytes} (fits : ∀ packet ∈ packets, packet.Fits maxPacketLen)
    (arriving : blocks.flatten <+: packets.flatMap send) :
    ∃ out s, init.recvAll maxPacketLen blocks = some (out, some s) ∧
      out <+: packets.map onWire ∧ blocks.flatten = out.flatMap send ++ s.held ∧
      (∀ next ∈ packets[out.length]?, s.held <+: next.send ∧ s.held.length < next.send.length) ∧
      (blocks.flatten = packets.flatMap send → out = packets.map onWire ∧ s = init) := by
  obtain ⟨out, left, result, meets⟩ := recvAll_init maxPacketLen blocks
  have whole := splits_send fits
  obtain ⟨more, stream⟩ := arriving
  rw [← stream] at whole
  cases left with
  | none =>
      obtain ⟨dropped, splits⟩ := meets
      have bad : (packetFraming maxPacketLen).Splits (blocks.flatten ++ more) (out ++ dropped)
          none := splits.append_bad
      cases (bad.unique whole).2
  | some s =>
      obtain ⟨wellFormed, splits⟩ := meets
      obtain ⟨_, rest, input, last⟩ := splits_sent splits
      obtain rfl : s.held = rest := by
        rcases last with same | ⟨none, _⟩
        · exact Option.some.inj same
        · cases none
      obtain ⟨later, left, onward⟩ :=
        @Framing.Splits.exists_of_input _ _ (packetFraming maxPacketLen) (s.held ++ more)
      obtain ⟨isOut, isLeft⟩ := (splits.append onward).unique whole
      refine ⟨out, s, result, ⟨later, isOut⟩, input, ?_, ?_⟩
      · intro next isNext
        have isNextOut : later[0]? = some next.onWire := by
          have position := congrArg (fun packets => packets[out.length]?) isOut
          simp only [List.getElem?_append_right (Nat.le_refl _), Nat.sub_self, List.getElem?_map,
            Option.mem_def.mp isNext, Option.map_some] at position
          exact position
        cases onward with
        | short | bad => cases isNextOut
        | frame front _ =>
            obtain rfl := Option.some.inj isNextOut
            rw [packetFraming_front] at front
            have leads := packetFront_frame_iff.mp front
            have beyond := leads.beyond wellFormed.front_held
            obtain ⟨isInput, _⟩ := leads.sent
            rw [send_onWire] at isInput
            have length : next.onWire.length ≤ next.send.length := by
              rw [length_send]
              exact Nat.mod_le _ _
            have shorter := Nat.lt_of_lt_of_le beyond length
            exact ⟨List.prefix_of_prefix_length_le (List.prefix_append _ _)
              ⟨_, isInput.symm⟩ (Nat.le_of_lt shorter), shorter⟩
      · intro all
        rw [← stream, List.self_eq_append_right] at all
        subst all
        rw [List.append_nil] at onward
        obtain ⟨rfl, rfl⟩ := onward.unique (.short wellFormed.front_held)
        refine ⟨by rw [← isOut, List.append_nil], wellFormed.eq_of_held wellFormed_init ?_⟩
        exact Option.some.inj isLeft

/-- Two packets, the second without a payload, arrive in blocks of 5, 24, 3 and 26 bytes. -/
theorem two_packets_in_four_blocks :
    let packets : List NetPacket :=
      [⟨0, 1, 0, 0, 0, 0, 0, [7, 8]⟩, ⟨0, 2, 0, 3, 0, 0, -1, []⟩]
    let stream := packets.flatMap send
    let blocks := [stream.take 5, (stream.drop 5).take 24, (stream.drop 29).take 3,
      stream.drop 32]
    ∃ out s, init.recvAll 64 blocks = some (out, some s) ∧ out = packets.map onWire ∧ s = init := by
  intro packets stream blocks
  have whole : blocks.flatten = packets.flatMap send := by decide +kernel
  obtain ⟨out, s, result, _, _, _, all⟩ := @packets_arrive_in_any_blocks 64 packets blocks
    (by decide +kernel) (whole ▸ List.prefix_rfl)
  exact ⟨out, s, result, all whole⟩

/-- Whatever bytes a peer sends and however they are cut into blocks, `Recv` gives out packets
whose length field is their length and at most the limit, and whose bytes stand in the stream
one after another. Two ways of cutting a stream close the session both or neither; where they
do not, the same packets are out and the same bytes are held, and where they do, a bad header
follows the packets that are out on one side and those that are out on the other. -/
theorem blocks_do_not_matter {maxPacketLen : Nat} {blocks others : List Bytes}
    (same : blocks.flatten = others.flatten) :
    ∃ out left outs lefts,
      init.recvAll maxPacketLen blocks = some (out, left) ∧
      init.recvAll maxPacketLen others = some (outs, lefts) ∧
      (∀ packet ∈ out, headerLen + packet.payload.length = packet.length ∧
        packet.length ≤ maxPacketLen) ∧
      match left, lefts with
      | some s, some t => out = outs ∧ s = t ∧ blocks.flatten = out.flatMap send ++ s.held
      | none, none => ∃ packets rest, out <+: packets ∧ outs <+: packets ∧
          blocks.flatten = packets.flatMap send ++ rest ∧ packetFront maxPacketLen rest = .bad
      | _, _ => False := by
  obtain ⟨out, left, result, meets⟩ := recvAll_init maxPacketLen blocks
  obtain ⟨outs, lefts, results, meetsToo⟩ := recvAll_init maxPacketLen others
  rw [← same] at meetsToo
  refine ⟨out, left, outs, lefts, result, results, ?_, ?_⟩
  · intro packet member
    cases left with
    | some s => exact length_of_splits meets.2 member
    | none =>
        obtain ⟨dropped, splits⟩ := meets
        exact length_of_splits splits (List.mem_append_left _ member)
  · cases left with
    | some s =>
        obtain ⟨wellFormed, splits⟩ := meets
        cases lefts with
        | none =>
            obtain ⟨dropped, splitsToo⟩ := meetsToo
            cases (splits.unique splitsToo).2
        | some t =>
            obtain ⟨rfl, held⟩ := splits.unique meetsToo.2
            obtain ⟨_, rest, input, last⟩ := splits_sent splits
            rcases last with isRest | ⟨none, _⟩
            · exact ⟨rfl, wellFormed.eq_of_held meetsToo.1 (Option.some.inj held),
                Option.some.inj isRest ▸ input⟩
            · cases none
    | none =>
        obtain ⟨dropped, splits⟩ := meets
        cases lefts with
        | some t => cases (splits.unique meetsToo.2).2
        | none =>
            obtain ⟨droppedToo, splitsToo⟩ := meetsToo
            obtain ⟨together, _⟩ := splits.unique splitsToo
            obtain ⟨_, rest, input, last⟩ := splits_sent splits
            rcases last with isRest | ⟨_, bad⟩
            · cases isRest
            · exact ⟨out ++ dropped, rest, List.prefix_append _ _,
                together ▸ List.prefix_append _ _, input, bad⟩

/-- A packet and a header of length 0 behind it: in one block nothing is out, in two blocks the
packet is. -/
theorem bad_header_drops_its_block :
    let packet : NetPacket := ⟨30, 1, 0, 0, 0, 0, 0, [7, 8]⟩
    let bad := List.replicate 28 (0 : Byte)
    ∃ out left outs lefts, init.recvAll 64 [packet.send ++ bad] = some (out, left) ∧
      init.recvAll 64 [packet.send, bad] = some (outs, lefts) ∧ out = [] ∧ outs = [packet] ∧
      left = none ∧ lefts = none := by
  intro packet bad
  obtain ⟨out, left, outs, lefts, result, results, _⟩ :=
    @blocks_do_not_matter 64 [packet.send ++ bad] [packet.send, bad] (by simp)
  have first : init.recvAll 64 [packet.send ++ bad] = some ([], none) := by decide +kernel
  have second : init.recvAll 64 [packet.send, bad] = some ([packet], none) := by decide +kernel
  rw [first] at result
  rw [second] at results
  cases result
  cases results
  exact ⟨[], none, [packet], none, first, second, rfl, rfl, rfl, rfl⟩

end LibcoRpc.Net
