import LibcoRpc.Rpc.Envelope

/-!
# What decoding looks at

For each read of `LLBC_Packet`, the end of the bytes it looks at. The peer chooses every
length. A string is compared with the bytes that are there; the size of a message goes to
`ParseFromArray` as it is, so decoding stays inside the payload exactly if that size does.
-/

namespace LibcoRpc.Rpc

open Packet (sized)

/-- How far `ParseFromArray` looks into the memory it is handed: not beyond the size it is
handed with it, up to there if it succeeds, and far enough to tell what it returns. Nothing
is said about a negative size. -/
structure Protobuf.Looks {Msg : Type} (protobuf : Protobuf Msg) where
  count : MessageType → Bytes → Int → Nat
  inside : ∀ type memory size, 0 ≤ size → (count type memory size : Int) ≤ size
  whole : ∀ type memory size, 0 ≤ size → (protobuf.parseFromArray type memory size).1 = true →
    (count type memory size : Int) = size
  only : ∀ type memory memory' size, size ≤ memory.length → size ≤ memory'.length →
    memory.take (count type memory size) = memory'.take (count type memory size) →
    protobuf.parseFromArray type memory size = protobuf.parseFromArray type memory' size

namespace Packet

variable (packet : Packet)

/-- The end of what `readInt32` looks at, or 0 if it looks at nothing. -/
def int32Reach : Nat :=
  match decodeUInt32 packet.unread with
  | none => 0
  | some _ => packet.readPos + 4

/-- The end of what `readString` looks at, or 0 if it looks at nothing. -/
def stringReach : Nat :=
  match decodeUInt32 packet.unread with
  | none => 0
  | some (length, rest) =>
      if rest.length < length then packet.readPos + 4 else packet.readPos + 4 + length

/-- The end of what `readMessage` looks at, or 0 if it looks at nothing. -/
def messageReach {Msg : Type} {protobuf : Protobuf Msg} (looks : protobuf.Looks)
    (type : MessageType) : Nat :=
  match decodeUInt32 packet.unread with
  | none => 0
  | some (size, rest) =>
      packet.readPos + 4 + looks.count type (rest ++ packet.beyond) (toInt32 size)

variable {packet}

theorem length_of_decoded {value : Nat} {rest : Bytes}
    (decoded : decodeUInt32 packet.unread = some (value, rest)) :
    packet.payload.length = packet.readPos + 4 + rest.length := by
  obtain ⟨-, unread⟩ := decodeUInt32_iff.mp decoded
  exact length_of_unread unread (by simp [encodeUInt32])

/-- Reading an `int` stays in the payload. -/
theorem int32Reach_le : packet.int32Reach ≤ packet.payload.length := by
  unfold int32Reach
  split
  · exact Nat.zero_le _
  next decoded =>
    have := length_of_decoded decoded
    omega

/-- Reading a string stays in the payload. -/
theorem stringReach_le : packet.stringReach ≤ packet.payload.length := by
  unfold stringReach
  split
  · exact Nat.zero_le _
  next decoded =>
    have := length_of_decoded decoded
    split <;> omega

end Packet

/-! ## The message -/

/-- If a header and a size open the payload, the size is at most what is left, and an `int`
can hold it. -/
def SizeFits (header payload : Bytes) : Prop :=
  ∀ size rest, size < 2 ^ 32 → payload = header ++ (encodeUInt32 size ++ rest) →
    size < 2 ^ 31 ∧ size ≤ rest.length

/-- A header and a message behind its size open the payload. -/
def Complete (header payload : Bytes) : Prop :=
  ∃ body rest, body.length < 2 ^ 32 ∧ payload = header ++ (sized body ++ rest)

section

variable {Msg : Type} {protobuf : Protobuf Msg} {packet : Packet} {header : Bytes}
  (unreadAll : packet.readPos = 0) (opens : ∃ rest, packet.payload = header ++ rest)

include unreadAll opens

/-- The size field that is read stands behind the header. -/
theorem payload_of_decoded {size : Nat} {rest : Bytes}
    (decoded : decodeUInt32 (packet.advance header.length).unread = some (size, rest)) :
    size < 2 ^ 32 ∧ packet.payload = header ++ (encodeUInt32 size ++ rest) := by
  obtain ⟨behind, payload⟩ := opens
  obtain ⟨fits, unread⟩ := decodeUInt32_iff.mp decoded
  rw [Packet.unread_advance (unread_of_payload unreadAll payload)] at unread
  exact ⟨fits, by rw [payload, unread]⟩

/-- Reading a message stays in the payload, if its size field fits. -/
theorem messageReach_le (fits : SizeFits header packet.payload) (looks : protobuf.Looks)
    (type : MessageType) :
    (packet.advance header.length).messageReach looks type ≤ packet.payload.length := by
  unfold Packet.messageReach
  split
  · exact Nat.zero_le _
  next size rest decoded =>
    obtain ⟨small, payload⟩ := payload_of_decoded unreadAll opens decoded
    obtain ⟨isInt, enough⟩ := fits size rest small payload
    have inside := looks.inside type (rest ++ packet.beyond) (toInt32 size)
    rw [toInt32_of_lt isInt] at inside ⊢
    have within := inside (Int.natCast_nonneg size)
    have length : packet.payload.length = packet.readPos + header.length + 4 + rest.length :=
      Packet.length_of_decoded decoded
    show packet.readPos + header.length + 4 + looks.count type (rest ++ packet.beyond) size ≤ _
    omega

/-- A message that is read with a size that fits is there in full. -/
theorem complete_of_read (fits : SizeFits header packet.payload) {type : MessageType}
    {old message : Msg} {after : Packet}
    (read : (packet.advance header.length).readMessage protobuf type old = (true, message, after)) :
    Complete header packet.payload := by
  obtain ⟨size, rest, small, unread, -, -⟩ := Packet.readMessage_iff.mp read
  have decoded := decodeUInt32_iff.mpr ⟨small, unread⟩
  obtain ⟨-, payload⟩ := payload_of_decoded unreadAll opens decoded
  obtain ⟨-, enough⟩ := fits size rest small payload
  have isSize : (rest.take size).length = size := by
    rw [List.length_take]
    omega
  refine ⟨rest.take size, rest.drop size, by omega, ?_⟩
  rw [sized, isSize, List.append_assoc, List.take_append_drop, payload]

end

/-- A protobuf whose messages have no content, so that any bytes are one. -/
def trustingProtobuf : Protobuf Unit where
  empty _ := ()
  parseFromArray _ _ _ := (true, ())
  serialize _ := []

/-- It looks at everything it is told to, and at anything if the size is negative. -/
def trustingLooks : trustingProtobuf.Looks where
  count _ memory size := if 0 ≤ size then size.toNat else memory.length + 1
  inside _ _ size nonneg := by rw [if_pos nonneg, Int.toNat_of_nonneg nonneg]
  whole _ _ size nonneg _ := by rw [if_pos nonneg, Int.toNat_of_nonneg nonneg]
  only _ _ _ _ _ _ _ := rfl

/-- With a protobuf that looks at all it is handed, nothing less will do. -/
theorem sizeFits_of_messageReach_le {packet : Packet} {header : Bytes} {type : MessageType}
    (unreadAll : packet.readPos = 0)
    (inside : (packet.advance header.length).messageReach trustingLooks type ≤
      packet.payload.length) :
    SizeFits header packet.payload := by
  intro size rest small payload
  have unread := Packet.unread_advance (unread_of_payload unreadAll payload)
  have decoded := decodeUInt32_iff.mpr ⟨small, unread⟩
  have length : packet.payload.length = packet.readPos + header.length + 4 + rest.length :=
    Packet.length_of_decoded decoded
  have reach : packet.readPos + header.length + 4 +
      trustingLooks.count type (rest ++ packet.beyond) (toInt32 size) ≤ packet.payload.length := by
    simp only [Packet.messageReach, decoded] at inside
    exact inside
  simp only [trustingLooks, List.length_append] at reach
  by_cases isInt : size < 2 ^ 31
  · rw [toInt32_of_lt isInt, if_pos (Int.natCast_nonneg size), Int.toNat_natCast] at reach
    omega
  · have negative : ¬ 0 ≤ toInt32 size := by
      rw [toInt32, if_neg isInt]
      omega
    rw [if_neg negative] at reach
    omega

/-! ## Requests and replies -/

section

variable {Msg : Type} {protobuf : Protobuf Msg} (looks : protobuf.Looks) (type : MessageType)

/-- The ends of what the reads of `HandleRpcReq` look at, in order. -/
def requestReaches (packet : Packet) : List Nat :=
  packet.stringReach ::
    match packet.readString with
    | none => []
    | some (_, packet) =>
        packet.stringReach ::
          match packet.readString with
          | none => []
          | some (_, packet) =>
              packet.int32Reach ::
                match packet.readInt32 with
                | none => []
                | some (_, packet) => [packet.messageReach looks type]

/-- The ends of what the reads of `HandleRpcRsp` and then of `CallMethod` look at, in order. -/
def replyReaches (packet : Packet) : List Nat :=
  packet.int32Reach ::
    match packet.readInt32 with
    | none => []
    | some (_, packet) =>
        packet.stringReach ::
          match packet.readString with
          | none => []
          | some (_, packet) => [packet.messageReach looks type]

/-- Decoding a request stays inside the payload, and succeeds only on a whole request. -/
def RequestContained (old : Msg) (packet : Packet) : Prop :=
  (∀ reach ∈ requestReaches looks type packet, reach ≤ packet.payload.length) ∧
  ∀ serviceName methodName srcCoroId rest message after,
    readHeader packet = some (serviceName, methodName, srcCoroId, rest) →
    rest.readMessage protobuf type old = (true, message, after) →
    ∃ header : RequestHeader, Complete header.bytes packet.payload

/-- Decoding a reply stays inside the payload, and succeeds only on a whole reply. -/
def ReplyContained (packet : Packet) : Prop :=
  (∀ reach ∈ replyReaches looks type packet, reach ≤ packet.payload.length) ∧
  ∀ dstCoroId rest call, packet.readInt32 = some (dstCoroId, rest) → call.responseType = type →
    (State.readResponse protobuf call rest).decoded = true →
    ∃ header : ReplyHeader, Complete header.bytes packet.payload

variable {looks type} {packet : Packet}

/-- Of the reads of a request, only that of the message can leave the payload. -/
theorem mem_requestReaches {reach : Nat} (member : reach ∈ requestReaches looks type packet) :
    reach ≤ packet.payload.length ∨
      ∃ serviceName methodName srcCoroId rest,
        readHeader packet = some (serviceName, methodName, srcCoroId, rest) ∧
        reach = rest.messageReach looks type := by
  unfold requestReaches at member
  rcases List.mem_cons.mp member with rfl | member
  · exact .inl Packet.stringReach_le
  split at member
  · cases member
  next serviceName second service =>
    obtain ⟨-, rfl, -⟩ := Packet.readString_iff.mp service
    rcases List.mem_cons.mp member with rfl | member
    · exact .inl Packet.stringReach_le
    split at member
    · cases member
    next methodName third method =>
      obtain ⟨-, rfl, -⟩ := Packet.readString_iff.mp method
      rcases List.mem_cons.mp member with rfl | member
      · exact .inl Packet.int32Reach_le
      split at member
      · cases member
      next srcCoroId rest id =>
        refine .inr ⟨serviceName, methodName, srcCoroId, rest, ?_, List.mem_singleton.mp member⟩
        simp only [readHeader, service, method, id]

/-- The message of a request is read behind its header. -/
theorem messageReach_mem_requestReaches {serviceName methodName : Bytes} {srcCoroId : Int}
    {rest : Packet} (read : readHeader packet = some (serviceName, methodName, srcCoroId, rest)) :
    rest.messageReach looks type ∈ requestReaches looks type packet := by
  unfold readHeader at read
  split at read
  · cases read
  next second service =>
    split at read
    · cases read
    next third method =>
      split at read
      · cases read
      next last id =>
        cases read
        simp [requestReaches, service, method, id]

/-- Of the reads of a reply, only that of the message can leave the payload. -/
theorem mem_replyReaches {reach : Nat} (member : reach ∈ replyReaches looks type packet) :
    reach ≤ packet.payload.length ∨
      ∃ dstCoroId rest errText body, packet.readInt32 = some (dstCoroId, rest) ∧
        rest.readString = some (errText, body) ∧ reach = body.messageReach looks type := by
  unfold replyReaches at member
  rcases List.mem_cons.mp member with rfl | member
  · exact .inl Packet.int32Reach_le
  split at member
  · cases member
  next dstCoroId rest id =>
    obtain ⟨-, rfl, -⟩ := Packet.readInt32_iff.mp id
    rcases List.mem_cons.mp member with rfl | member
    · exact .inl Packet.stringReach_le
    split at member
    · cases member
    next errText body text =>
      exact .inr ⟨dstCoroId, _, errText, body, id, text, List.mem_singleton.mp member⟩

variable (unreadAll : packet.readPos = 0)

include unreadAll

/-- A request whose size field fits is read inside its payload. -/
theorem requestContained (fits : ∀ header : RequestHeader, SizeFits header.bytes packet.payload)
    (old : Msg) : RequestContained looks type old packet := by
  have found : ∀ {serviceName methodName srcCoroId rest},
      readHeader packet = some (serviceName, methodName, srcCoroId, rest) →
      ∃ header : RequestHeader, rest = packet.advance header.bytes.length ∧
        ∃ behind, packet.payload = header.bytes ++ behind := by
    intro serviceName methodName srcCoroId rest read
    obtain ⟨header, -, -, -, isRest, behind, unread⟩ := readHeader_iff.mp read
    rw [unread_of_payload unreadAll rfl] at unread
    exact ⟨header, isRest, behind, unread⟩
  constructor
  · intro reach member
    rcases mem_requestReaches member with inside | ⟨_, _, _, rest, read, rfl⟩
    · exact inside
    · obtain ⟨header, rfl, opens⟩ := found read
      exact messageReach_le unreadAll opens (fits header) looks type
  · intro _ _ _ rest message after read body
    obtain ⟨header, rfl, opens⟩ := found read
    exact ⟨header, complete_of_read unreadAll opens (fits header) body⟩

/-- A reply whose size field fits is read inside its payload. -/
theorem replyContained (fits : ∀ header : ReplyHeader, SizeFits header.bytes packet.payload) :
    ReplyContained looks type packet := by
  have found : ∀ {dstCoroId rest errText body}, packet.readInt32 = some (dstCoroId, rest) →
      rest.readString = some (errText, body) →
      ∃ header : ReplyHeader, body = packet.advance header.bytes.length ∧
        ∃ behind, packet.payload = header.bytes ++ behind := by
    intro dstCoroId rest errText body id text
    obtain ⟨idFits, rfl, afterId, unread⟩ := Packet.readInt32_iff.mp id
    obtain ⟨textFits, rfl, behind, unread'⟩ := Packet.readString_iff.mp text
    have isAfter : afterId = sized errText ++ behind :=
      (Packet.unread_advance unread).symm.trans unread'
    rw [unread_of_payload unreadAll rfl] at unread
    let header : ReplyHeader := ⟨_, _, idFits, textFits⟩
    refine ⟨header, ?_, behind, ?_⟩
    · rw [header.length_bytes, Packet.advance_advance]
    · rw [unread, isAfter, ReplyHeader.bytes, List.append_assoc]
  constructor
  · intro reach member
    rcases mem_replyReaches member with inside | ⟨_, _, _, body, id, text, rfl⟩
    · exact inside
    · obtain ⟨header, rfl, opens⟩ := found id text
      exact messageReach_le unreadAll opens (fits header) looks type
  · rintro dstCoroId rest call id rfl decoded
    unfold State.readResponse at decoded
    split at decoded
    · cases decoded
    next errText body text =>
      split at decoded
      · cases decoded
      next read =>
        obtain ⟨header, rfl, opens⟩ := found id text
        exact ⟨header, complete_of_read unreadAll opens (fits header) read⟩

end

/-- For every payload: whatever protobuf makes of the message and whatever stands behind the
payload, decoding it as a request looks at nothing outside it and succeeds only on a whole
request, if and only if the size in front of the message is at most what is left. The same
for replies. -/
theorem decoding_contained (payload : Bytes) :
    ((∀ (Msg : Type) (protobuf : Protobuf Msg) (looks : protobuf.Looks) (type : MessageType)
        (old : Msg) (packet : Packet), packet.payload = payload → packet.readPos = 0 →
        RequestContained looks type old packet) ↔
      ∀ header : RequestHeader, SizeFits header.bytes payload) ∧
    ((∀ (Msg : Type) (protobuf : Protobuf Msg) (looks : protobuf.Looks) (type : MessageType)
        (packet : Packet), packet.payload = payload → packet.readPos = 0 →
        ReplyContained looks type packet) ↔
      ∀ header : ReplyHeader, SizeFits header.bytes payload) := by
  let packet := (Packet.new 0 0).write payload
  have unreadAll : packet.readPos = 0 := rfl
  refine ⟨⟨?_, ?_⟩, ⟨?_, ?_⟩⟩
  · intro contained header size rest small opens
    have inside := (contained Unit trustingProtobuf trustingLooks 0 () packet rfl unreadAll).1
    have read := readHeader_iff.mpr
      ⟨header, rfl, rfl, rfl, rfl, _, unread_of_payload unreadAll opens⟩
    have reach := inside _ (messageReach_mem_requestReaches read)
    exact sizeFits_of_messageReach_le unreadAll reach size rest small opens
  · rintro fits Msg protobuf looks type old packet rfl unreadAll
    exact requestContained unreadAll fits old
  · intro contained header size rest small opens
    have inside := (contained Unit trustingProtobuf trustingLooks 0 packet rfl unreadAll).1
    obtain ⟨id, text⟩ := readReplyHeader unreadAll opens
    have reach := inside ((packet.advance header.bytes.length).messageReach trustingLooks 0)
      (by simp [replyReaches, id, text])
    exact sizeFits_of_messageReach_le unreadAll reach size rest small opens
  · rintro fits Msg protobuf looks type packet rfl unreadAll
    exact replyContained unreadAll fits

/-- How much of an array `ParseFromArray` looks at for the messages of `echo.proto`: all of
it, if it is there. -/
def echoCount (memory : Bytes) (size : Int) : Nat :=
  if size < 0 ∨ memory.length < size then 0 else size.toNat

/-- Protobuf looks at no more than it is told to. -/
theorem echoCount_le (memory : Bytes) {size : Int} (nonneg : 0 ≤ size) :
    (echoCount memory size : Int) ≤ size := by
  rw [echoCount]
  split <;> omega

/-- A message that it accepts it has seen in full. -/
theorem echoCount_of_parsed {type : MessageType} {memory : Bytes} {size : Int}
    (nonneg : 0 ≤ size) (success : (echoProtobuf.parseFromArray type memory size).1 = true) :
    (echoCount memory size : Int) = size := by
  simp only [echoProtobuf, EchoMessage.parseFromArray] at success
  split at success
  · cases success
  next enough => rw [echoCount, if_neg enough, Int.toNat_of_nonneg nonneg]

/-- What it answers depends on the bytes it looks at. -/
theorem parse_of_sameCount {type : MessageType} {memory memory' : Bytes} {size : Int}
    (enough : size ≤ memory.length) (enough' : size ≤ memory'.length)
    (same : memory.take (echoCount memory size) = memory'.take (echoCount memory size)) :
    echoProtobuf.parseFromArray type memory size =
      echoProtobuf.parseFromArray type memory' size := by
  simp only [echoProtobuf, EchoMessage.parseFromArray]
  by_cases negative : size < 0
  · rw [if_pos (.inl negative), if_pos (.inl negative)]
  · rw [echoCount, if_neg (by omega)] at same
    rw [if_neg (by omega), if_neg (by omega), same]

def echoLooks : echoProtobuf.Looks where
  count _ memory size := echoCount memory size
  inside _ memory _ nonneg := echoCount_le memory nonneg
  whole _ _ _ nonneg success := echoCount_of_parsed nonneg success
  only _ _ _ _ enough enough' same := parse_of_sameCount enough enough' same

/-- A request whose header and size have been read, and whose message is there. -/
theorem sizeFits_of_read {packet rest : Packet} {serviceName methodName behind : Bytes}
    {srcCoroId : Int} {size : Nat} (unreadAll : packet.readPos = 0)
    (read : readHeader packet = some (serviceName, methodName, srcCoroId, rest))
    (decoded : decodeUInt32 rest.unread = some (size, behind)) (isInt : size < 2 ^ 31)
    (enough : size ≤ behind.length) (header : RequestHeader) :
    SizeFits header.bytes packet.payload := by
  intro size' behind' small payload
  have unread := unread_of_payload unreadAll payload
  have again := readHeader_iff.mpr ⟨header, rfl, rfl, rfl, rfl, _, unread⟩
  simp only [read, Option.some.injEq, Prod.mk.injEq] at again
  have decoded' := decodeUInt32_iff.mpr ⟨small, Packet.unread_advance unread⟩
  rw [← again.2.2.2, decoded] at decoded'
  cases decoded'
  exact ⟨isInt, enough⟩

/-- A request that has the message it announces. -/
theorem echo_request_contained :
    let sent := requestPacket echoProtobuf 3 echoMethod 7 ⟨EchoMessage.request, some [65]⟩
    RequestContained echoLooks EchoMessage.request ⟨EchoMessage.request, none⟩
      { sent with beyond := [66] } := by
  intro sent
  have read : readHeader sent =
      some (text "EchoService", text "Echo", 7, sent.advance 27) := by decide +kernel
  have decoded : decodeUInt32 (sent.advance 27).unread = some (3, [10, 1, 65]) := by
    decide +kernel
  have fits := sizeFits_of_read rfl read decoded (by decide) (by decide)
  exact (decoding_contained sent.payload).1.mpr fits EchoMessage echoProtobuf echoLooks
    _ _ _ rfl rfl

/-- The header of a request for `Echo` by coroutine 7. -/
def echoHeader : RequestHeader :=
  ⟨text "EchoService", text "Echo", 7, by decide, by decide, by decide⟩

/-- A request that announces three bytes of message and has two. The third is the byte that
happens to stand behind the payload. -/
def shortRequest : Packet :=
  { sessionId := 3, opcode := rpcReq, payload := echoHeader.bytes ++ (encodeUInt32 3 ++ [10, 1]),
    readPos := 0, beyond := [65], spare := 0 }

/-- The short request is decoded without an error, with the byte behind the payload. -/
theorem short_request_overread :
    ¬ RequestContained echoLooks EchoMessage.request ⟨EchoMessage.request, none⟩ shortRequest ∧
      ∃ rest after, readHeader shortRequest = some (text "EchoService", text "Echo", 7, rest) ∧
        rest.unread = encodeUInt32 3 ++ [10, 1] ∧
        rest.readMessage echoProtobuf EchoMessage.request ⟨EchoMessage.request, none⟩ =
          (true, ⟨EchoMessage.request, some [65]⟩, after) := by
  let rest := shortRequest.advance echoHeader.bytes.length
  refine ⟨fun contained => ?_, rest, rest, ?_, ?_, ?_⟩
  · have inside := contained.1 34 (by decide +kernel)
    exact absurd inside (by decide +kernel)
  · decide +kernel
  · decide +kernel
  · decide +kernel

end LibcoRpc.Rpc
