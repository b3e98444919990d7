import LibcoRpc.Std.Decimal
import Mathlib.Algebra.Group.Int.Defs
import Mathlib.Algebra.Group.Nat.Defs
import Mathlib.Data.List.Lex
import Mathlib.Order.Fin.Basic

/-!
# Packets

`LLBC_Packet` with the reads and writes the RPC code makes: 32-bit integers in network
byte order, strings behind their length, and protobuf messages behind their size. A read
works on the unread part of the payload and moves the read position only when it
succeeds.

A string or a message is written to an `LLBC_Stream` first, whose buffer grows as
`AutoRecap` lets it: it rounds the capacity with a mask of 32 bits, and what does not fit
into the buffer is left out or written behind its end.

Protobuf itself is a parameter. `ParseFromArray` is handed a pointer and a size that
`LLBC_Stream` does not compare with the bytes it has, so the model hands it the memory
behind the pointer, which goes on after the payload.
-/

namespace LibcoRpc.Rpc

abbrev Byte := Fin 256

/-- `std::string`, and any other run of bytes. -/
abbrev Bytes := List Byte

/-- A string literal of the source, all of them ASCII. -/
def text (literal : String) : Bytes :=
  literal.toList.map fun char => Fin.ofNat 256 char.toNat

/-- `RpcOpCode::RpcReq`. -/
abbrev rpcReq : Int := 1

/-- `RpcOpCode::RpcRsp`. -/
abbrev rpcRsp : Int := 2

/-! ## Integers -/

/-- The four bytes of a `uint32`, most significant first. -/
def encodeUInt32 (value : Nat) : Bytes :=
  [Fin.ofNat 256 (value / 2 ^ 24), Fin.ofNat 256 (value / 2 ^ 16),
    Fin.ofNat 256 (value / 2 ^ 8), Fin.ofNat 256 value]

/-- The first four bytes as a `uint32`, and the bytes after them. -/
def decodeUInt32 : Bytes → Option (Nat × Bytes)
  | a :: b :: c :: d :: rest =>
      some (a.val * 2 ^ 24 + b.val * 2 ^ 16 + c.val * 2 ^ 8 + d.val, rest)
  | _ => none

/-- A 32-bit pattern as an `int`. -/
def toInt32 (value : Nat) : Int := if value < 2 ^ 31 then value else (value : Int) - 2 ^ 32

/-- An `int` as its 32-bit pattern. -/
def ofInt32 (value : Int) : Nat := (value % 2 ^ 32).toNat

/-! ## Protobuf -/

/-- The descriptor of a message type. -/
abbrev MessageType := Nat

/-- What the code asks of protobuf. -/
structure Protobuf (Msg : Type) where
  /-- `New()` on the prototype of a type, and `Clear()`. -/
  empty : MessageType → Msg
  /-- `ParseFromArray(data, size)` on a message of a type: the memory at `data` and the
  size, to the result and what is left in the message. -/
  parseFromArray : MessageType → Bytes → Int → Bool × Msg
  /-- `SerializeToArray`. -/
  serialize : Msg → Bytes

/-! ## Streams -/

/-- `LLBC_Stream` as a packet uses it for a write: the bytes before `_pos`, and `_cap`. -/
structure Stream where
  bytes : Bytes
  cap : Nat
deriving DecidableEq, Repr

namespace Stream

def new : Stream := ⟨[], 0⟩

/-- `LLBC_Stream::Recap`: a buffer does not shrink. -/
def recap (stream : Stream) (newCap : Nat) : Option Stream :=
  if newCap < stream.cap then none else some { stream with cap := newCap }

/-- `LLBC_Stream::AutoRecap`. -/
def autoRecap (stream : Stream) (needCap : Nat) : Option Stream :=
  if needCap ≤ stream.cap - stream.bytes.length then some stream
  else
    let newCap := max (stream.bytes.length + needCap)
      (min (stream.cap <<< 1) (stream.cap + 512))
    stream.recap ((newCap + 0xf) &&& 0xfffffff0)

/-- `LLBC_Stream::Write(const void *, size_t)`. -/
def write (stream : Stream) (buf : Bytes) : Stream :=
  if buf.isEmpty then stream
  else
    match stream.autoRecap buf.length with
    | none => stream
    -- `memcpy` does not compare the length with the capacity again.
    | some stream => { stream with bytes := stream.bytes ++ buf }

/-- `LLBC_Stream::Write(uint32)`, which does not look at the result of `AutoRecap`. -/
def writeUInt32 (stream : Stream) (obj : Nat) : Stream :=
  let stream := (stream.autoRecap 4).getD stream
  { stream with bytes := stream.bytes ++ encodeUInt32 obj }

/-- `LLBC_Stream::Write(const std::string &)`. -/
def writeString (stream : Stream) (obj : Bytes) : Stream :=
  (stream.writeUInt32 obj.length).write obj

/-- `LLBC_Stream::Write(const google::protobuf::Message &)`. -/
def writeMessage {Msg : Type} (stream : Stream) (protobuf : Protobuf Msg) (obj : Msg) : Stream :=
  let needSize := (protobuf.serialize obj).length
  let stream :=
    if stream.cap - stream.bytes.length < needSize + 4 then
      (stream.recap (stream.cap + (needSize + 4))).getD stream
    else stream
  let stream := stream.writeUInt32 needSize
  { stream with bytes := stream.bytes ++ protobuf.serialize obj }

/-- More has been written than the buffer holds. -/
def Overrun (stream : Stream) : Prop := stream.cap < stream.bytes.length

instance (stream : Stream) : Decidable stream.Overrun :=
  inferInstanceAs (Decidable (stream.cap < stream.bytes.length))

end Stream

/-! ## Packets -/

/-- `LLBC_Packet`. -/
structure Packet where
  sessionId : Int
  opcode : Int
  payload : Bytes
  /-- `_readPos` of the payload. -/
  readPos : Nat
  /-- What the memory after the payload holds. -/
  beyond : Bytes
  /-- How much of `beyond` still belongs to the payload's buffer. -/
  spare : Nat
deriving DecidableEq, Repr

/-- A packet that is about to be written. -/
def Packet.new (sessionId opcode : Int) : Packet :=
  { sessionId := sessionId, opcode := opcode, payload := [], readPos := 0, beyond := [],
    spare := 0 }

namespace Packet

def unread (packet : Packet) : Bytes := packet.payload.drop packet.readPos

/-- `LLBC_MessageBlock::ShiftReadPos`, whose result no caller looks at. -/
def shiftReadPos (packet : Packet) (offset : Nat) : Packet :=
  if packet.readPos + offset ≤ packet.payload.length + packet.spare then
    { packet with readPos := packet.readPos + offset }
  else packet

/-- `LLBC_Packet::Read(sint32 &)`. -/
def readInt32 (packet : Packet) : Option (Int × Packet) :=
  match decodeUInt32 packet.unread with
  | none => none
  | some (value, _) => some (toInt32 value, packet.shiftReadPos 4)

/-- `LLBC_Packet::Read(std::string &)`. -/
def readString (packet : Packet) : Option (Bytes × Packet) :=
  match decodeUInt32 packet.unread with
  | none => none
  | some (length, rest) =>
      if rest.length < length then none
      else some (rest.take length, packet.shiftReadPos (4 + length))

/-- `LLBC_Packet::Read(google::protobuf::Message &)` into a message that holds `old`. -/
def readMessage {Msg : Type} (packet : Packet) (protobuf : Protobuf Msg) (type : MessageType)
    (old : Msg) : Bool × Msg × Packet :=
  match decodeUInt32 packet.unread with
  | none => (false, old, packet)
  | some (size, rest) =>
      let parsed := protobuf.parseFromArray type (rest ++ packet.beyond) (toInt32 size)
      if parsed.1 then (true, parsed.2, packet.shiftReadPos (4 + size))
      else (false, parsed.2, packet)

/-- `LLBC_Packet::Write` of bytes that are already encoded. -/
def write (packet : Packet) (bytes : Bytes) : Packet :=
  { packet with payload := packet.payload ++ bytes }

/-- `LLBC_Packet::Write(sint32)`. -/
def writeInt32 (packet : Packet) (value : Int) : Packet :=
  packet.write (encodeUInt32 (ofInt32 value))

/-- `LLBC_Packet::Write(const std::string &)`. -/
def writeString (packet : Packet) (bytes : Bytes) : Packet :=
  packet.write (Stream.new.writeString bytes).bytes

/-- `LLBC_Packet::Write(const google::protobuf::Message &)`. -/
def writeMessage {Msg : Type} (packet : Packet) (protobuf : Protobuf Msg) (message : Msg) :
    Packet :=
  packet.write (Stream.new.writeMessage protobuf message).bytes

end Packet

end LibcoRpc.Rpc
