import LibcoRpc.Rpc.Echo

/-!
# Envelopes

What a request and a reply look like on the wire: strings and the message behind their
lengths, the id of a coroutine in four bytes. Each read of `LLBC_Packet` is characterised
by the bytes it finds, in both directions; that the reader gets back what the writer wrote
is one direction.
-/

namespace LibcoRpc.Rpc

/-! ## Integers -/

/-- The values that fit into an `int`. -/
def IsInt32 (value : Int) : Prop := -2 ^ 31 ≤ value ∧ value < 2 ^ 31

instance (value : Int) : Decidable (IsInt32 value) :=
  inferInstanceAs (Decidable (-2 ^ 31 ≤ value ∧ value < 2 ^ 31))

theorem ofInt32_lt (value : Int) : ofInt32 value < 2 ^ 32 := by
  unfold ofInt32
  omega

/-- An `int` survives the wire. -/
theorem toInt32_ofInt32 {value : Int} (fits : IsInt32 value) : toInt32 (ofInt32 value) = value := by
  unfold IsInt32 at fits
  unfold toInt32 ofInt32
  split <;> omega

/-- So does a pattern of 32 bits. -/
theorem ofInt32_toInt32 {value : Nat} (fits : value < 2 ^ 32) :
    ofInt32 (toInt32 value) = value := by
  unfold toInt32 ofInt32
  split <;> omega

theorem isInt32_toInt32 {value : Nat} (fits : value < 2 ^ 32) : IsInt32 (toInt32 value) := by
  unfold toInt32 IsInt32
  split <;> omega

theorem toInt32_of_lt {value : Nat} (small : value < 2 ^ 31) : toInt32 value = value :=
  if_pos small

@[simp] theorem length_encodeUInt32 (value : Nat) : (encodeUInt32 value).length = 4 := rfl

/-- Four bytes are read exactly where they were written. -/
theorem decodeUInt32_iff {bytes rest : Bytes} {value : Nat} :
    decodeUInt32 bytes = some (value, rest) ↔
      value < 2 ^ 32 ∧ bytes = encodeUInt32 value ++ rest := by
  constructor
  · intro decoded
    match bytes with
    | a :: b :: c :: d :: tail =>
        simp only [decodeUInt32, Option.some.injEq, Prod.mk.injEq] at decoded
        obtain ⟨isValue, rfl⟩ := decoded
        have := a.isLt
        have := b.isLt
        have := c.isLt
        have := d.isLt
        refine ⟨by omega, ?_⟩
        simp only [encodeUInt32, List.cons_append, List.nil_append, List.cons.injEq, and_true,
          Fin.ext_iff, Fin.val_ofNat]
        omega
    | [] | [_] | [_, _] | [_, _, _] => cases decoded
  · rintro ⟨fits, rfl⟩
    simp only [encodeUInt32, List.cons_append, List.nil_append, decodeUInt32, Fin.val_ofNat,
      Option.some.injEq, Prod.mk.injEq, and_true]
    omega

/-- A length is written modulo 2^32. -/
theorem encodeUInt32_mod (value : Nat) : encodeUInt32 (value % 2 ^ 32) = encodeUInt32 value := by
  simp only [encodeUInt32, List.cons.injEq, and_true, Fin.ext_iff, Fin.val_ofNat]
  omega

/-! ## Writes -/

/-- A run of bytes behind its length. -/
def Packet.sized (bytes : Bytes) : Bytes := encodeUInt32 bytes.length ++ bytes

theorem Packet.length_sized (bytes : Bytes) : (sized bytes).length = 4 + bytes.length := by
  rw [sized, List.length_append, length_encodeUInt32]

open Packet (sized)

/-- The mask of `AutoRecap` rounds down to a multiple of 16, and drops all but 32 bits. -/
theorem and_mask (value : Nat) : value &&& 0xfffffff0 = value % 2 ^ 32 / 2 ^ 4 * 2 ^ 4 := by
  rw [← Nat.shiftLeft_eq, ← Nat.shiftRight_eq_div_pow]
  apply Nat.eq_of_testBit_eq
  intro bit
  rw [show 0xfffffff0 = (2 ^ 28 - 1) <<< 4 from rfl, Nat.testBit_and, Nat.testBit_shiftLeft,
    Nat.testBit_two_pow_sub_one, Nat.testBit_shiftLeft, Nat.testBit_shiftRight,
    Nat.testBit_mod_two_pow]
  by_cases high : 4 ≤ bit
  · have same : bit - 4 < 28 ↔ bit < 32 := by omega
    simp only [Nat.add_sub_cancel' high, high, decide_true, Bool.true_and, same, Bool.and_comm]
  · simp only [high, decide_false, Bool.false_and, Bool.and_false]

namespace Stream

/-- The capacity that `AutoRecap` asks for to write a string behind its length. -/
def grown (length : Nat) : Nat := (max (4 + length) 32 + 0xf) &&& 0xfffffff0

variable {obj : Bytes}

/-- How a buffer with a length in it grows for the string. -/
theorem autoRecap_length (value length : Nat) :
    (⟨encodeUInt32 value, 16⟩ : Stream).autoRecap length =
      if length ≤ 12 then some ⟨encodeUInt32 value, 16⟩
      else if grown length < 16 then none else some ⟨encodeUInt32 value, grown length⟩ := rfl

/-- The three ways to write a string into a new stream. -/
theorem writeString_new (obj : Bytes) : new.writeString obj =
    if obj.length ≤ 12 then ⟨sized obj, 16⟩
    else if grown obj.length < 16 then ⟨encodeUInt32 obj.length, 16⟩
    else ⟨sized obj, grown obj.length⟩ := by
  have length : new.writeUInt32 obj.length = ⟨encodeUInt32 obj.length, 16⟩ := rfl
  rw [writeString, length, write, autoRecap_length]
  by_cases fits : obj.length ≤ 12
  · rw [if_pos fits, if_pos fits]
    cases obj <;> rfl
  · have some_ : ¬ obj.isEmpty = true := fun empty => by simp_all
    rw [if_neg some_, if_neg fits, if_neg fits]
    by_cases none_ : grown obj.length < 16
    · rw [if_pos none_, if_pos none_]
    · rw [if_neg none_, if_neg none_, sized]

/-- A string is left out, with only its length written, or it is written. -/
theorem writeString_cases (obj : Bytes) :
    (new.writeString obj).bytes = sized obj ∨
      (new.writeString obj).bytes = encodeUInt32 obj.length ∧
        2 ^ 32 - 19 ≤ obj.length % 2 ^ 32 := by
  rw [writeString_new]
  split
  · exact .inl rfl
  split
  next long none_ =>
    rw [grown, and_mask] at none_
    exact .inr ⟨rfl, by omega⟩
  · exact .inl rfl

/-- A string whose rounded capacity does not fit into 32 bits is left out. -/
theorem writeString_dropped (long : 2 ^ 32 - 19 ≤ obj.length) (short : obj.length ≤ 2 ^ 32 - 4) :
    (new.writeString obj).bytes = encodeUInt32 obj.length := by
  have none_ : grown obj.length < 16 := by
    rw [grown, and_mask]
    omega
  rw [writeString_new, if_neg (by omega), if_pos none_]

/-- A string is written, and into the buffer, exactly if it has at most 2³² - 20 bytes. -/
theorem writeString_iff :
    (new.writeString obj).bytes = sized obj ∧ ¬ (new.writeString obj).Overrun ↔
      obj.length ≤ 2 ^ 32 - 20 := by
  have same : (⟨encodeUInt32 obj.length, 16⟩ : Stream).bytes = sized obj ↔ obj.length = 0 := by
    simp [sized]
  rw [writeString_new]
  split
  next fits => simpa [Overrun, Packet.length_sized] using by omega
  next long =>
    split
    next none_ =>
      rw [grown, and_mask] at none_
      rw [same]
      omega
    next =>
      simp only [Overrun, Packet.length_sized, true_and, grown, and_mask]
      omega

/-- Shorter ones are written in full. -/
theorem writeString_of_le (short : obj.length ≤ 2 ^ 32 - 20) :
    (new.writeString obj).bytes = sized obj :=
  (writeString_iff.mpr short).1

/-- A message is written to a buffer of its size. -/
theorem writeMessage_new {Msg : Type} (protobuf : Protobuf Msg) (message : Msg) :
    (new.writeMessage protobuf message).bytes = sized (protobuf.serialize message) := by
  simp [writeMessage, new, recap, writeUInt32, autoRecap, sized]

end Stream

/-! ## Reads -/

/-- `ParseFromArray` gives back a message from the bytes that `SerializeToArray` made of it,
whatever stands behind them. -/
def Protobuf.Inverts {Msg : Type} (protobuf : Protobuf Msg) (type : MessageType) (message : Msg) :
    Prop :=
  ∀ beyond, protobuf.parseFromArray type (protobuf.serialize message ++ beyond)
    (protobuf.serialize message).length = (true, message)

namespace Packet

/-- The packet after a read that has taken so many bytes. -/
def advance (packet : Packet) (count : Nat) : Packet :=
  { packet with readPos := packet.readPos + count }

variable {packet next : Packet} {bytes rest : Bytes}

theorem length_of_unread (unread : packet.unread = bytes ++ rest) (some_ : bytes ≠ []) :
    packet.payload.length = packet.readPos + bytes.length + rest.length := by
  have length := congrArg List.length unread
  simp only [Packet.unread, List.length_drop, List.length_append] at length
  have positive := List.length_pos_iff.mpr some_
  omega

theorem advance_advance (first second : Nat) :
    (packet.advance first).advance second = packet.advance (first + second) := by
  simp only [advance, Nat.add_assoc]

theorem unread_advance (unread : packet.unread = bytes ++ rest) :
    (packet.advance bytes.length).unread = rest := by
  show packet.payload.drop (packet.readPos + bytes.length) = rest
  rw [← List.drop_drop]
  show packet.unread.drop bytes.length = rest
  rw [unread, List.drop_left]

/-- Moving on over bytes that are there moves on. -/
theorem shiftReadPos_of_unread (unread : packet.unread = bytes ++ rest) (some_ : bytes ≠ []) :
    packet.shiftReadPos bytes.length = packet.advance bytes.length := by
  have length := length_of_unread unread some_
  exact if_pos (by omega)

/-- An `int` is read if and only if its four bytes are next. -/
theorem readInt32_iff {value : Int} :
    packet.readInt32 = some (value, next) ↔
      IsInt32 value ∧ next = packet.advance 4 ∧
        ∃ rest, packet.unread = encodeUInt32 (ofInt32 value) ++ rest := by
  unfold readInt32
  constructor
  · intro read
    split at read
    · cases read
    next pattern rest decoded =>
      obtain ⟨fits, unread⟩ := decodeUInt32_iff.mp decoded
      cases read
      refine ⟨isInt32_toInt32 fits, shiftReadPos_of_unread unread (by simp [encodeUInt32]),
        rest, ?_⟩
      rw [ofInt32_toInt32 fits, unread]
  · rintro ⟨fits, rfl, rest, unread⟩
    rw [decodeUInt32_iff.mpr ⟨ofInt32_lt value, unread⟩]
    have moved : packet.shiftReadPos 4 = packet.advance 4 :=
      shiftReadPos_of_unread unread (by simp [encodeUInt32])
    simp only [toInt32_ofInt32 fits, moved]

theorem unread_advance_sized (unread : packet.unread = sized bytes ++ rest) :
    (packet.advance (4 + bytes.length)).unread = rest := by
  rw [← length_sized]
  exact unread_advance unread

/-- A string is read if and only if it is next, behind its length. -/
theorem readString_iff :
    packet.readString = some (bytes, next) ↔
      bytes.length < 2 ^ 32 ∧ next = packet.advance (4 + bytes.length) ∧
        ∃ rest, packet.unread = sized bytes ++ rest := by
  unfold readString
  constructor
  · intro read
    split at read
    · cases read
    next length after decoded =>
      obtain ⟨fits, unread⟩ := decodeUInt32_iff.mp decoded
      split at read
      · cases read
      next enough =>
        cases read
        have isLength : (after.take length).length = length := by
          rw [List.length_take]
          omega
        have parted : packet.unread = sized (after.take length) ++ after.drop length := by
          rw [sized, isLength, List.append_assoc, List.take_append_drop, unread]
        have moved := shiftReadPos_of_unread parted (by simp [sized, encodeUInt32])
        rw [length_sized, isLength] at moved
        exact ⟨by omega, by rw [isLength, moved], _, parted⟩
  · rintro ⟨fits, rfl, rest, unread⟩
    have moved := shiftReadPos_of_unread unread (by simp [sized, encodeUInt32])
    rw [length_sized] at moved
    rw [sized, List.append_assoc] at unread
    simp only [decodeUInt32_iff.mpr ⟨fits, unread⟩, List.length_append, List.take_left, moved]
    rw [if_neg (by omega)]

/-- No string is read where fewer bytes follow than the length says. -/
theorem readString_none {length : Nat} (unread : packet.unread = encodeUInt32 length ++ rest)
    (missing : rest.length < length % 2 ^ 32) : packet.readString = none := by
  have decoded : decodeUInt32 packet.unread = some (length % 2 ^ 32, rest) :=
    decodeUInt32_iff.mpr ⟨Nat.mod_lt _ (by decide), by rw [encodeUInt32_mod, unread]⟩
  simp only [readString, decoded, if_pos missing]

/-- A message is read if and only if protobuf accepts the memory behind the size. -/
theorem readMessage_iff {Msg : Type} {protobuf : Protobuf Msg} {type : MessageType}
    {old message : Msg} :
    packet.readMessage protobuf type old = (true, message, next) ↔
      ∃ size rest, size < 2 ^ 32 ∧ packet.unread = encodeUInt32 size ++ rest ∧
        protobuf.parseFromArray type (rest ++ packet.beyond) (toInt32 size) = (true, message) ∧
        next = packet.shiftReadPos (4 + size) := by
  unfold readMessage
  constructor
  · intro read
    split at read
    · cases read
    next size rest decoded =>
      obtain ⟨fits, unread⟩ := decodeUInt32_iff.mp decoded
      dsimp only at read
      split at read
      next success =>
        cases read
        exact ⟨size, rest, fits, unread, Prod.ext success rfl, rfl⟩
      next => cases read
  · rintro ⟨size, rest, fits, unread, parsed, rfl⟩
    simp only [decodeUInt32_iff.mpr ⟨fits, unread⟩, parsed, if_true]

/-- A message that was written is read back, if protobuf can read it back. -/
theorem readMessage_sized {Msg : Type} {protobuf : Protobuf Msg} {type : MessageType}
    {message : Msg} (unread : packet.unread = sized (protobuf.serialize message) ++ rest)
    (short : (protobuf.serialize message).length < 2 ^ 31)
    (inverts : protobuf.Inverts type message) (old : Msg) :
    packet.readMessage protobuf type old =
      (true, message, packet.advance (4 + (protobuf.serialize message).length)) := by
  have moved := shiftReadPos_of_unread unread (by simp [sized, encodeUInt32])
  rw [length_sized] at moved
  rw [sized, List.append_assoc] at unread
  refine readMessage_iff.mpr ⟨_, _, by omega, unread, ?_, moved.symm⟩
  rw [toInt32_of_lt short, List.append_assoc]
  exact inverts _

end Packet

/-! ## Requests and replies -/

/-- What stands before the message of a request. -/
structure RequestHeader where
  serviceName : Bytes
  methodName : Bytes
  srcCoroId : Int
  serviceFits : serviceName.length < 2 ^ 32
  methodFits : methodName.length < 2 ^ 32
  idFits : IsInt32 srcCoroId

def RequestHeader.bytes (header : RequestHeader) : Bytes :=
  sized header.serviceName ++ (sized header.methodName ++
    encodeUInt32 (ofInt32 header.srcCoroId))

theorem RequestHeader.length_bytes (header : RequestHeader) :
    header.bytes.length =
      4 + header.serviceName.length + (4 + header.methodName.length + 4) := by
  rw [bytes, List.length_append, List.length_append, Packet.length_sized, Packet.length_sized,
    length_encodeUInt32]

/-- What stands before the message of a reply. -/
structure ReplyHeader where
  dstCoroId : Int
  errText : Bytes
  idFits : IsInt32 dstCoroId
  textFits : errText.length < 2 ^ 32

def ReplyHeader.bytes (header : ReplyHeader) : Bytes :=
  encodeUInt32 (ofInt32 header.dstCoroId) ++ sized header.errText

theorem ReplyHeader.length_bytes (header : ReplyHeader) :
    header.bytes.length = 4 + (4 + header.errText.length) := by
  rw [bytes, List.length_append, Packet.length_sized, length_encodeUInt32]

/-- The header of a request is read if and only if it is next. -/
theorem readHeader_iff {packet next : Packet} {serviceName methodName : Bytes} {srcCoroId : Int} :
    readHeader packet = some (serviceName, methodName, srcCoroId, next) ↔
      ∃ header : RequestHeader, header.serviceName = serviceName ∧
        header.methodName = methodName ∧ header.srcCoroId = srcCoroId ∧
        next = packet.advance header.bytes.length ∧
        ∃ rest, packet.unread = header.bytes ++ rest := by
  constructor
  · intro read
    unfold readHeader at read
    split at read
    · cases read
    next first second service =>
      split at read
      · cases read
      next third fourth method =>
        split at read
        · cases read
        next id last isId =>
          cases read
          obtain ⟨serviceFits, rfl, afterService, unread⟩ := Packet.readString_iff.mp service
          obtain ⟨methodFits, rfl, afterMethod, unread'⟩ := Packet.readString_iff.mp method
          obtain ⟨idFits, rfl, rest, unread''⟩ := Packet.readInt32_iff.mp isId
          have isMethod := (Packet.unread_advance_sized unread).symm.trans unread'
          have isRest := (Packet.unread_advance_sized unread').symm.trans unread''
          let header : RequestHeader := ⟨_, _, _, serviceFits, methodFits, idFits⟩
          refine ⟨header, rfl, rfl, rfl, ?_, rest, ?_⟩
          · rw [header.length_bytes, Packet.advance_advance, Packet.advance_advance]
          · rw [unread, isMethod, isRest, RequestHeader.bytes, List.append_assoc,
              List.append_assoc]
  · rintro ⟨header, rfl, rfl, rfl, rfl, rest, unread⟩
    have service : packet.unread = sized header.serviceName ++ (sized header.methodName ++
        (encodeUInt32 (ofInt32 header.srcCoroId) ++ rest)) := by
      rw [unread, RequestHeader.bytes, List.append_assoc, List.append_assoc]
    have method := Packet.unread_advance_sized service
    have id := Packet.unread_advance_sized method
    simp only [readHeader, Packet.readString_iff.mpr ⟨header.serviceFits, rfl, _, service⟩,
      Packet.readString_iff.mpr ⟨header.methodFits, rfl, _, method⟩,
      Packet.readInt32_iff.mpr ⟨header.idFits, rfl, _, id⟩]
    rw [header.length_bytes, Packet.advance_advance, Packet.advance_advance]

/-- The fields of a request, in order. -/
theorem requestPacket_payload {Msg : Type} (protobuf : Protobuf Msg) (sessionId : Int)
    (method : MethodDescriptor) (srcCoroId : Int) (request : Msg) :
    (requestPacket protobuf sessionId method srcCoroId request).payload =
      (Stream.new.writeString method.service).bytes ++
        ((Stream.new.writeString method.name).bytes ++
          (encodeUInt32 (ofInt32 srcCoroId) ++ sized (protobuf.serialize request))) := by
  simp [requestPacket, Packet.writeMessage, Packet.writeString, Packet.writeInt32, Packet.write,
    Packet.new, Stream.writeMessage_new]

/-- The fields of a reply, in order. -/
theorem replyPacket_payload {Msg : Type} (protobuf : Protobuf Msg) (sessionId srcCoroId : Int)
    (controller : RpcController) (rsp : Msg) :
    (replyPacket protobuf sessionId srcCoroId controller rsp).payload =
      encodeUInt32 (ofInt32 srcCoroId) ++ ((Stream.new.writeString controller.errorText).bytes ++
        sized (protobuf.serialize rsp)) := by
  simp [replyPacket, Packet.writeMessage, Packet.writeString, Packet.writeInt32, Packet.write,
    Packet.new, Stream.writeMessage_new]

/-- The payload of a request whose names are written. -/
theorem requestPacket_header {Msg : Type} (protobuf : Protobuf Msg) (sessionId : Int)
    {method : MethodDescriptor} (request : Msg) (header : RequestHeader)
    (service : (Stream.new.writeString method.service).bytes = sized header.serviceName)
    (name : (Stream.new.writeString method.name).bytes = sized header.methodName) :
    (requestPacket protobuf sessionId method header.srcCoroId request).payload =
      header.bytes ++ sized (protobuf.serialize request) := by
  simp only [requestPacket_payload, service, name, RequestHeader.bytes, List.append_assoc]

/-- The payload of a reply whose error text is written. -/
theorem replyPacket_header {Msg : Type} (protobuf : Protobuf Msg) (sessionId : Int)
    {controller : RpcController} (rsp : Msg) (header : ReplyHeader)
    (text : (Stream.new.writeString controller.errorText).bytes = sized header.errText) :
    (replyPacket protobuf sessionId header.dstCoroId controller rsp).payload =
      header.bytes ++ sized (protobuf.serialize rsp) := by
  simp only [replyPacket_payload, text, ReplyHeader.bytes, List.append_assoc]

section

variable {Msg : Type} {protobuf : Protobuf Msg} {type : MessageType} {message : Msg}
  {packet : Packet} (unreadAll : packet.readPos = 0)
  (short : (protobuf.serialize message).length < 2 ^ 31)
  (inverts : protobuf.Inverts type message)

include unreadAll

theorem unread_of_payload {bytes : Bytes} (payload : packet.payload = bytes) :
    packet.unread = bytes := by
  rw [Packet.unread, unreadAll, payload, List.drop_zero]

include short inverts

/-- The message at the end of a payload is read, and with it the rest of the payload. -/
theorem readMessage_last {header : Bytes}
    (payload : packet.payload = header ++ sized (protobuf.serialize message)) :
    ∃ after, (∀ old, (packet.advance header.length).readMessage protobuf type old =
        (true, message, after)) ∧
      after.unread = [] ∧ after.readPos = packet.payload.length := by
  have unread := Packet.unread_advance (unread_of_payload unreadAll payload)
  have last : (packet.advance header.length).unread =
      sized (protobuf.serialize message) ++ [] := by rw [unread, List.append_nil]
  refine ⟨_, Packet.readMessage_sized last short inverts, Packet.unread_advance_sized last, ?_⟩
  show packet.readPos + header.length + (4 + (protobuf.serialize message).length) =
    packet.payload.length
  rw [unreadAll, payload, List.length_append, Packet.length_sized, Nat.zero_add]

omit short inverts in
/-- `HandleRpcRsp` and `CallMethod` read the two fields of the header of a reply. -/
theorem readReplyHeader {header : ReplyHeader} {rest : Bytes}
    (payload : packet.payload = header.bytes ++ rest) :
    packet.readInt32 = some (header.dstCoroId, packet.advance 4) ∧
      (packet.advance 4).readString =
        some (header.errText, packet.advance header.bytes.length) := by
  have unread := unread_of_payload unreadAll payload
  rw [ReplyHeader.bytes, List.append_assoc] at unread
  have text : (packet.advance 4).unread = sized header.errText ++ rest :=
    Packet.unread_advance unread
  refine ⟨Packet.readInt32_iff.mpr ⟨header.idFits, rfl, _, unread⟩, ?_⟩
  rw [header.length_bytes, ← Packet.advance_advance]
  exact Packet.readString_iff.mpr ⟨header.textFits, rfl, _, text⟩

end

section

variable {Msg : Type} (protobuf : Protobuf Msg) {packet : Packet} (unreadAll : packet.readPos = 0)

include unreadAll

/-- The names of a request that can be read have been written: after one that was left out,
fewer bytes follow than its length says. -/
theorem names_written {sessionId srcCoroId : Int} {method : MethodDescriptor} {request : Msg}
    (payload : packet.payload =
      (requestPacket protobuf sessionId method srcCoroId request).payload)
    (short : packet.payload.length < 2 ^ 32 - 19) (read : readHeader packet ≠ none) :
    (Stream.new.writeString method.service).bytes = sized method.service ∧
      (Stream.new.writeString method.name).bytes = sized method.name := by
  rw [requestPacket_payload] at payload
  have length := congrArg List.length payload
  simp only [List.length_append] at length
  have unread := unread_of_payload unreadAll payload
  rcases Stream.writeString_cases method.service with service | ⟨dropped, long⟩
  · refine ⟨service, ?_⟩
    rcases Stream.writeString_cases method.name with name | ⟨dropped, long⟩
    · exact name
    · rw [service, dropped] at unread
      have missing := Packet.readString_none (Packet.unread_advance_sized unread) (by
        simp only [List.length_append]
        omega)
      rw [service, Packet.length_sized] at length
      have found := Packet.readString_iff.mpr ⟨by omega, rfl, _, unread⟩
      simp only [readHeader, found, missing] at read
      exact absurd rfl read
  · rw [dropped] at unread
    have missing := Packet.readString_none unread (by
      simp only [List.length_append]
      omega)
    simp only [readHeader, missing] at read
    exact absurd rfl read

/-- An error text that was left out is not read. -/
theorem readString_dropped {sessionId srcCoroId : Int} {controller : RpcController} {rsp : Msg}
    (dropped : (Stream.new.writeString controller.errorText).bytes =
      encodeUInt32 controller.errorText.length)
    (long : 2 ^ 32 - 19 ≤ controller.errorText.length % 2 ^ 32)
    (short : 4 + (protobuf.serialize rsp).length < 2 ^ 32 - 19)
    (payload : packet.payload =
      (replyPacket protobuf sessionId srcCoroId controller rsp).payload) :
    (packet.advance 4).readString = none := by
  rw [replyPacket_payload, dropped] at payload
  refine Packet.readString_none (Packet.unread_advance (unread_of_payload unreadAll payload)) ?_
  rw [Packet.length_sized]
  omega

end

/-- What is written is read: `HandleRpcReq` recovers from the payload of a request the names,
the id and the message that `CallMethod` put there, `HandleRpcRsp` and `CallMethod` recover
from the payload of a reply the id, the error text and the response that `OnRpcDone` put
there, and nothing of either payload is left. Names and texts have at most 2³² - 20 bytes:
a longer one does not fit into the buffer of an `LLBC_Stream`. -/
theorem envelopes_round_trip {Msg : Type} (protobuf : Protobuf Msg) (sessionId : Int)
    (id : Int) (idFits : IsInt32 id) (packet : Packet) (unreadAll : packet.readPos = 0) :
    (∀ method request,
      method.service.length ≤ 2 ^ 32 - 20 → method.name.length ≤ 2 ^ 32 - 20 →
      (protobuf.serialize request).length < 2 ^ 31 →
      protobuf.Inverts method.requestType request →
      packet.payload = (requestPacket protobuf sessionId method id request).payload →
      ∃ rest after,
        readHeader packet = some (method.service, method.name, id, rest) ∧
        (∀ old, rest.readMessage protobuf method.requestType old = (true, request, after)) ∧
        after.unread = [] ∧ after.readPos = packet.payload.length) ∧
    (∀ controller type rsp,
      controller.errorText.length ≤ 2 ^ 32 - 20 →
      (protobuf.serialize rsp).length < 2 ^ 31 → protobuf.Inverts type rsp →
      packet.payload = (replyPacket protobuf sessionId id controller rsp).payload →
      ∃ rest body after,
        packet.readInt32 = some (id, rest) ∧
        rest.readString = some (controller.errorText, body) ∧
        (∀ old, body.readMessage protobuf type old = (true, rsp, after)) ∧
        (∀ call, call.responseType = type →
          (State.readResponse protobuf call rest).response = rsp ∧
          (State.readResponse protobuf call rest).packet = after ∧
          (State.readResponse protobuf call rest).decoded = true) ∧
        after.unread = [] ∧ after.readPos = packet.payload.length) := by
  constructor
  · intro method request serviceFits methodFits short inverts payload
    let header : RequestHeader :=
      ⟨method.service, method.name, id, by omega, by omega, idFits⟩
    have written := requestPacket_header protobuf sessionId request header
      (Stream.writeString_of_le serviceFits) (Stream.writeString_of_le methodFits)
    rw [written] at payload
    obtain ⟨after, read, ends⟩ := readMessage_last unreadAll short inverts payload
    refine ⟨_, after, ?_, read, ends⟩
    exact readHeader_iff.mpr ⟨header, rfl, rfl, rfl, rfl, _, unread_of_payload unreadAll payload⟩
  · intro controller type rsp textFits short inverts payload
    let header : ReplyHeader := ⟨id, controller.errorText, idFits, by omega⟩
    have written := replyPacket_header protobuf sessionId rsp header
      (Stream.writeString_of_le textFits)
    rw [written] at payload
    obtain ⟨id, text⟩ := readReplyHeader unreadAll payload
    obtain ⟨after, read, ends⟩ := readMessage_last unreadAll short inverts payload
    refine ⟨_, _, after, id, text, read, ?_, ends⟩
    rintro call rfl
    simp only [State.readResponse, text, header, read, and_self]

/-- Messages with short strings are read back. -/
theorem echoProtobuf_inverts {message : EchoMessage}
    (short : ∀ msg ∈ message.msg, msg.length < 128) :
    echoProtobuf.Inverts message.type message := by
  intro beyond
  have enough : ¬ ((message.serialize.length : Int) < 0 ∨
      ((message.serialize ++ beyond).length : Int) < message.serialize.length) := by
    rw [List.length_append]
    omega
  simp only [echoProtobuf, EchoMessage.parseFromArray, if_neg enough, Int.toNat_natCast,
    List.take_left, EchoMessage.parse_serialize short]

/-- A request and a failed reply of the echo service are read back. -/
theorem echo_round_trip :
    let hello : EchoMessage := ⟨EchoMessage.request, some (text "Hello, Echo.")⟩
    let sent := { requestPacket echoProtobuf 3 echoMethod 7 hello with beyond := [1] }
    let answer : EchoMessage := ⟨EchoMessage.response, none⟩
    let reply := replyPacket echoProtobuf 3 7 ⟨true, text "busy"⟩ answer
    (∃ rest after, readHeader sent = some (text "EchoService", text "Echo", 7, rest) ∧
      rest.readMessage echoProtobuf EchoMessage.request answer = (true, hello, after) ∧
      after.unread = []) ∧
    ∃ rest body after, reply.readInt32 = some (7, rest) ∧
      rest.readString = some (text "busy", body) ∧
      body.readMessage echoProtobuf EchoMessage.response hello = (true, answer, after) ∧
      after.unread = [] := by
  intro hello sent answer reply
  obtain ⟨rest, after, header, body, ends⟩ :=
    (envelopes_round_trip echoProtobuf 3 7 (by decide) sent rfl).1 echoMethod hello (by decide)
      (by decide) (by decide) (echoProtobuf_inverts (by decide)) rfl
  obtain ⟨rest', body', after', id, errText, read, -, ends'⟩ :=
    (envelopes_round_trip echoProtobuf 3 7 (by decide) reply rfl).2 ⟨true, text "busy"⟩
      EchoMessage.response answer (by decide) (by decide) (echoProtobuf_inverts (by decide)) rfl
  exact ⟨⟨rest, after, header, body _, ends.1⟩, rest', body', after', id, errText, read _, ends'.1⟩

/-- Protobuf with messages that are their own bytes. -/
def rawProtobuf : Protobuf Bytes where
  empty _ := []
  parseFromArray _ memory size := if size < 0 then (false, []) else (true, memory.take size.toNat)
  serialize := id

theorem rawProtobuf_inverts (type : MessageType) (message : Bytes) :
    rawProtobuf.Inverts type message := by
  intro beyond
  have notNegative : ¬ (message.length : Int) < 0 := by omega
  simp only [rawProtobuf, id_eq, if_neg notNegative, Int.toNat_natCast, List.take_left]

/-- A size of 2^31 or more is negative for protobuf, which refuses it. -/
theorem readMessage_negative {packet : Packet} {type : MessageType} {message : Bytes}
    (unread : packet.unread = sized message) (large : 2 ^ 31 ≤ message.length)
    (fits : message.length < 2 ^ 32) (old : Bytes) :
    (packet.readMessage rawProtobuf type old).1 = false := by
  have decoded := decodeUInt32_iff.mpr ⟨fits, unread⟩
  have negative : toInt32 message.length < 0 := by
    unfold toInt32
    split <;> omega
  simp only [Packet.readMessage, decoded, rawProtobuf, if_pos negative, Bool.false_eq_true,
    if_false]

/-- The limits are there: a service name of 2³² - 19 bytes is not written and the request is
not read, no more is an error text of that length, and a response of 2³¹ bytes is handed to
`ParseFromArray` with a negative size. -/
theorem long_fields_lost :
    let long : Bytes := List.replicate (2 ^ 32 - 19) 0
    let method : MethodDescriptor := { echoMethod with service := long }
    let request := requestPacket echoProtobuf 3 method 7 ⟨EchoMessage.request, none⟩
    let reply := replyPacket echoProtobuf 3 7 ⟨true, long⟩ ⟨EchoMessage.response, none⟩
    let rsp : Bytes := List.replicate (2 ^ 31) 0
    let large := replyPacket rawProtobuf 3 7 .new rsp
    (long.length < 2 ^ 32 ∧ readHeader request = none) ∧
    (∃ rest, reply.readInt32 = some (7, rest) ∧ rest.readString = none) ∧
    ∃ rest body, large.readInt32 = some (7, rest) ∧ rest.readString = some ([], body) ∧
      rawProtobuf.Inverts 0 rsp ∧ ∀ old, (body.readMessage rawProtobuf 0 old).1 = false := by
  intro long method request reply rsp large
  have length : long.length = 2 ^ 32 - 19 := List.length_replicate
  have size : rsp.length = 2 ^ 31 := List.length_replicate
  clear_value long rsp
  have short : long.length ≤ 2 ^ 32 - 4 := by omega
  have small : 4 + (echoProtobuf.serialize ⟨EchoMessage.response, none⟩).length < 2 ^ 32 - 19 := by
    decide
  have dropped := Stream.writeString_dropped length.ge short
  refine ⟨⟨by omega, ?_⟩, ⟨reply.advance 4, ?_, ?_⟩, ?_⟩
  · have payload : request.payload = _ := requestPacket_payload ..
    rw [dropped] at payload
    have size : request.payload.length = 20 := congrArg List.length payload
    by_contra read
    obtain ⟨written, -⟩ := names_written echoProtobuf (rfl : request.readPos = 0) rfl
      (by omega) read
    have same : 4 = 4 + long.length := by
      rw [← Packet.length_sized, ← length_encodeUInt32 long.length, ← dropped]
      exact congrArg List.length written
    omega
  · exact Packet.readInt32_iff.mpr ⟨by decide, rfl, _,
      unread_of_payload rfl (replyPacket_payload ..)⟩
  · have whole : long.length % 2 ^ 32 = long.length := Nat.mod_eq_of_lt (by omega)
    exact readString_dropped echoProtobuf rfl dropped (whole.trans length).ge small rfl
  · let header : ReplyHeader := ⟨7, [], by decide, by decide⟩
    have written : large.payload = header.bytes ++ sized rsp :=
      replyPacket_header rawProtobuf 3 rsp header rfl
    obtain ⟨id, text⟩ := readReplyHeader (rfl : large.readPos = 0) written
    have unread := Packet.unread_advance (unread_of_payload (rfl : large.readPos = 0) written)
    exact ⟨_, _, id, text, rawProtobuf_inverts 0 rsp,
      readMessage_negative unread size.ge (by omega)⟩

end LibcoRpc.Rpc
