import LibcoRpc.Rpc.Wire
import Mathlib.Data.List.Basic

/-!
# The send buffer

`LLBC_MessageBuffer` is a chain of `LLBC_MessageBlock`s with a count of the bytes in it.
Bytes go in at the tail, into the last block where that one has room, and come out at the
head, a block being deleted with its last byte. Seen from outside it is a queue of bytes.
-/

namespace LibcoRpc.Net

open LibcoRpc.Rpc (Bytes)

/-- `LLBC_MessageBlock`. -/
structure MessageBlock where
  /-- The bytes before `_writePos`. -/
  written : Bytes
  readPos : Nat
  size : Nat
  behind : readPos ≤ written.length
  fits : written.length ≤ size
deriving DecidableEq, Repr

namespace MessageBlock

/-- The bytes from `GetDataStartWithReadPos()` on. -/
def readable (block : MessageBlock) : Bytes := block.written.drop block.readPos

/-- `GetReadableSize`. -/
def readableSize (block : MessageBlock) : Nat := block.written.length - block.readPos

/-- `GetWritableSize`. -/
def writableSize (block : MessageBlock) : Nat := block.size - block.written.length

@[simp] theorem length_readable (block : MessageBlock) :
    block.readable.length = block.readableSize := List.length_drop

/-- `new LLBC_MessageBlock(len)` and `Write(buf, len)`. -/
def new (bytes : Bytes) : MessageBlock :=
  { written := bytes, readPos := 0, size := bytes.length, behind := Nat.zero_le _,
    fits := Nat.le_refl _ }

/-- `_size` after a `Write`. -/
def grown (block : MessageBlock) (count : Nat) : Nat :=
  if block.size < block.written.length + count then
    max (block.written.length + count) (block.size * 2)
  else block.size

theorem behind_append (block : MessageBlock) (bytes : Bytes) :
    block.readPos ≤ (block.written ++ bytes).length := by
  rw [List.length_append]
  exact Nat.le_trans block.behind (Nat.le_add_right _ _)

theorem length_le_grown (block : MessageBlock) (bytes : Bytes) :
    (block.written ++ bytes).length ≤ block.grown bytes.length := by
  rw [List.length_append, grown]
  split <;> omega

/-- `LLBC_MessageBlock::Write`. -/
def write (block : MessageBlock) (bytes : Bytes) : MessageBlock :=
  { written := block.written ++ bytes
    readPos := block.readPos
    size := block.grown bytes.length
    behind := block.behind_append bytes
    fits := block.length_le_grown bytes }

theorem fits_resize (block : MessageBlock) {newSize : Nat} (larger : block.size < newSize) :
    block.written.length ≤ newSize := Nat.le_trans block.fits (Nat.le_of_lt larger)

/-- `LLBC_MessageBlock::Resize`, which asserts that the block grows. -/
def resize (block : MessageBlock) (newSize : Nat) (larger : block.size < newSize) :
    MessageBlock :=
  { block with size := newSize, fits := block.fits_resize larger }

theorem behind_skip (block : MessageBlock) {count : Nat} (inside : count ≤ block.readableSize) :
    block.readPos + count ≤ block.written.length := by
  have behind := block.behind
  unfold readableSize at inside
  omega

/-- `SetReadPos(GetReadPos() + count)`, and what `Read` does to the block. -/
def skip (block : MessageBlock) (count : Nat) (inside : count ≤ block.readableSize) :
    MessageBlock :=
  { block with readPos := block.readPos + count, behind := block.behind_skip inside }

@[simp] theorem readable_new (bytes : Bytes) : (new bytes).readable = bytes := rfl

@[simp] theorem readable_write (block : MessageBlock) (bytes : Bytes) :
    (block.write bytes).readable = block.readable ++ bytes :=
  List.drop_append_of_le_length block.behind

@[simp] theorem readable_resize (block : MessageBlock) {newSize : Nat}
    (larger : block.size < newSize) : (block.resize newSize larger).readable = block.readable := rfl

@[simp] theorem readable_skip (block : MessageBlock) {count : Nat}
    (inside : count ≤ block.readableSize) :
    (block.skip count inside).readable = block.readable.drop count := List.drop_drop.symm

theorem readable_eq_nil_iff (block : MessageBlock) :
    block.readable = [] ↔ block.readableSize = 0 := by
  rw [← length_readable, List.length_eq_zero_iff]

end MessageBlock

/-- The bytes in a chain of blocks. -/
def chainBytes (blocks : List MessageBlock) : Bytes := blocks.flatMap MessageBlock.readable

/-- Replace the tail of a chain. -/
def onTail (tail : MessageBlock → List MessageBlock) (empty : List MessageBlock) :
    List MessageBlock → List MessageBlock
  | [] => empty
  | [block] => tail block
  | head :: next :: rest => head :: onTail tail empty (next :: rest)

/-- The blocks of a chain that have something to read. -/
def Filled (blocks : List MessageBlock) : Prop := ∀ block ∈ blocks, block.readable ≠ []

section

variable {tail : MessageBlock → List MessageBlock} {empty blocks : List MessageBlock}

theorem chainBytes_onTail {more : Bytes} (isEmpty : chainBytes empty = more)
    (isTail : ∀ block, chainBytes (tail block) = block.readable ++ more) :
    chainBytes (onTail tail empty blocks) = chainBytes blocks ++ more := by
  induction blocks with
  | nil => simpa [onTail, chainBytes] using isEmpty
  | cons head rest ih =>
      cases rest with
      | nil => simpa [onTail, chainBytes] using isTail head
      | cons next rest =>
          simp only [onTail, chainBytes, List.flatMap_cons] at ih ⊢
          rw [ih]
          simp only [List.append_assoc]

theorem filled_onTail (filled : Filled blocks) (isEmpty : Filled empty)
    (isTail : ∀ block, block.readable ≠ [] → Filled (tail block)) :
    Filled (onTail tail empty blocks) := by
  induction blocks with
  | nil => exact isEmpty
  | cons head rest ih =>
      cases rest with
      | nil => exact isTail head (filled head List.mem_cons_self)
      | cons next rest =>
          intro block member
          rcases List.mem_cons.mp member with rfl | later
          · exact filled _ List.mem_cons_self
          · refine ih (fun other isOther => ?_) block later
            exact filled other (List.mem_cons_of_mem _ isOther)

end

/-- `LLBC_CFG_COMM_MSG_BUFFER_ELEM_RESIZE_LIMIT`. -/
def elemResizeLimit : Nat := 8 * 1024

/-- `_tail->Resize` asserts that the tail grows. -/
theorem tail_grows {tail : MessageBlock} {count : Nat} (full : tail.writableSize < count)
    (small : tail.written.length + count < elemResizeLimit) :
    tail.size < min (max (tail.written.length + count) (tail.size * 2)) elemResizeLimit := by
  have fits := tail.fits
  unfold MessageBlock.writableSize at full
  omega

/-- What `Append` makes of the tail. -/
def appendTail (block tail : MessageBlock) : List MessageBlock :=
  if block.readableSize ≤ tail.writableSize then [tail.write block.readable] else [tail, block]

/-- What `Write` makes of the tail. -/
def writeTail (bytes : Bytes) (tail : MessageBlock) : List MessageBlock :=
  if full : tail.writableSize < bytes.length then
    if small : tail.written.length + bytes.length < elemResizeLimit then
      [(tail.resize _ (tail_grows full small)).write bytes]
    else appendTail (.new bytes) tail
  else [tail.write bytes]

/-- The loop of `Remove`: the blocks that are left, and how much is still to be removed. -/
def removeBlocks : List MessageBlock → Nat → List MessageBlock × Nat
  | [], need => ([], need)
  | head :: rest, need =>
      if need = 0 then (head :: rest, 0)
      else if inside : need ≤ head.readableSize then
        if head.readableSize = need then (rest, 0) else (head.skip need inside :: rest, 0)
      else removeBlocks rest (need - head.readableSize)

/-- The loop of `Read`, with the bytes it has read so far. -/
def readBlocks : List MessageBlock → Nat → Bytes → List MessageBlock × Nat × Bytes
  | [], need, out => ([], need, out)
  | head :: rest, need, out =>
      if need = 0 then (head :: rest, 0, out)
      else if inside : need ≤ head.readableSize then
        let out := out ++ head.readable.take need
        if head.readableSize = need then (rest, 0, out) else (head.skip need inside :: rest, 0, out)
      else readBlocks rest (need - head.readableSize) (out ++ head.readable)

/-- `Read` moves along the chain as `Remove` does. -/
theorem readBlocks_eq (blocks : List MessageBlock) (need : Nat) (out : Bytes) :
    readBlocks blocks need out =
      ((removeBlocks blocks need).1, (removeBlocks blocks need).2,
        out ++ (chainBytes blocks).take need) := by
  induction blocks generalizing need out with
  | nil => simp [readBlocks, removeBlocks, chainBytes]
  | cons head rest ih =>
      simp only [readBlocks, removeBlocks, chainBytes, List.flatMap_cons]
      split
      next zero => simp [zero]
      next =>
        split
        next inside =>
          rw [List.take_append_of_le_length (by simpa using inside)]
          split <;> rfl
        next beyond =>
          have all : head.readable.take need = head.readable :=
            List.take_of_length_le (by rw [MessageBlock.length_readable]; omega)
          rw [ih, List.take_append, all, MessageBlock.length_readable, List.append_assoc]
          rfl

/-- `Remove` drops bytes from the front, as many as there are. -/
theorem removeBlocks_spec (blocks : List MessageBlock) (need : Nat) :
    chainBytes (removeBlocks blocks need).1 = (chainBytes blocks).drop need ∧
      (removeBlocks blocks need).2 = need - (chainBytes blocks).length := by
  induction blocks generalizing need with
  | nil => simp [removeBlocks, chainBytes]
  | cons head rest ih =>
      have size := head.length_readable
      simp only [removeBlocks, chainBytes, List.flatMap_cons, List.length_append, size]
      split
      next zero => simp [zero]
      next =>
        split
        next inside =>
          have front : (head.readable ++ rest.flatMap MessageBlock.readable).drop need =
              head.readable.drop need ++ rest.flatMap MessageBlock.readable :=
            List.drop_append_of_le_length (by omega)
          rw [front]
          split
          next all =>
            rw [List.drop_of_length_le (by omega), List.nil_append]
            exact ⟨rfl, by omega⟩
          next => exact ⟨by simp, by omega⟩
        next beyond =>
          obtain ⟨left, need⟩ := ih (need - head.readableSize)
          rw [List.drop_append, List.drop_of_length_le (by omega), List.nil_append, size]
          refine ⟨left, ?_⟩
          rw [need, chainBytes]
          omega

theorem filled_removeBlocks {blocks : List MessageBlock} (filled : Filled blocks) (need : Nat) :
    Filled (removeBlocks blocks need).1 := by
  induction blocks generalizing need with
  | nil => exact filled
  | cons head rest ih =>
      have later : Filled rest := fun block member => filled block (List.mem_cons_of_mem _ member)
      simp only [removeBlocks]
      split
      next => exact filled
      next =>
        split
        next inside =>
          split
          next => exact later
          next part =>
            intro block member
            rcases List.mem_cons.mp member with rfl | member
            · rw [MessageBlock.readable_skip, ne_eq, List.drop_eq_nil_iff,
                MessageBlock.length_readable]
              omega
            · exact later block member
        next => exact ih later _

/-- `LLBC_MessageBuffer`. -/
structure MessageBuffer where
  /-- The chain from `_head` to `_tail`. -/
  blocks : List MessageBlock
  size : Nat
  sized : size = (chainBytes blocks).length
  filled : Filled blocks

namespace MessageBuffer

/-- The bytes in the buffer. -/
def bytes (buffer : MessageBuffer) : Bytes := chainBytes buffer.blocks

theorem filled_nil : Filled [] := fun _ member => absurd member List.not_mem_nil

theorem filled_singleton {block : MessageBlock} (some_ : block.readable ≠ []) : Filled [block] := by
  intro other member
  rwa [List.mem_singleton.mp member]

/-- `LLBC_MessageBuffer::LLBC_MessageBuffer()`. -/
def init : MessageBuffer := { blocks := [], size := 0, sized := rfl, filled := filled_nil }

theorem chainBytes_appendTail (block tail : MessageBlock) :
    chainBytes (appendTail block tail) = tail.readable ++ block.readable := by
  unfold appendTail
  split <;> simp [chainBytes]

theorem filled_appendTail {block tail : MessageBlock} (some_ : block.readable ≠ [])
    (tailFilled : tail.readable ≠ []) : Filled (appendTail block tail) := by
  unfold appendTail
  split
  next => exact filled_singleton (by simp [tailFilled])
  next =>
    intro other member
    rcases List.mem_pair.mp member with rfl | rfl
    · exact tailFilled
    · exact some_

theorem chainBytes_writeTail (bytes : Bytes) (tail : MessageBlock) :
    chainBytes (writeTail bytes tail) = tail.readable ++ bytes := by
  unfold writeTail
  split
  next =>
    split
    next => simp [chainBytes]
    next => rw [chainBytes_appendTail, MessageBlock.readable_new]
  next => simp [chainBytes]

theorem filled_writeTail {bytes : Bytes} {tail : MessageBlock} (some_ : bytes ≠ [])
    (tailFilled : tail.readable ≠ []) : Filled (writeTail bytes tail) := by
  unfold writeTail
  split
  next =>
    split
    next => exact filled_singleton (by simp [tailFilled])
    next => exact filled_appendTail some_ tailFilled
  next => exact filled_singleton (by simp [tailFilled])

variable (buffer : MessageBuffer)

section append

variable (block : MessageBlock)

theorem bytes_appendBlocks : chainBytes (onTail (appendTail block) [block] buffer.blocks) =
    buffer.bytes ++ block.readable :=
  chainBytes_onTail (by simp [chainBytes]) (chainBytes_appendTail block)

theorem sized_append : buffer.size + block.readableSize =
    (chainBytes (onTail (appendTail block) [block] buffer.blocks)).length := by
  rw [bytes_appendBlocks, List.length_append, MessageBlock.length_readable, buffer.sized, bytes]

theorem filled_append (some_ : ¬ block.readableSize = 0) :
    Filled (onTail (appendTail block) [block] buffer.blocks) := by
  have readable : block.readable ≠ [] := mt block.readable_eq_nil_iff.mp some_
  exact filled_onTail buffer.filled (filled_singleton readable)
    fun _ => filled_appendTail readable

/-- `LLBC_MessageBuffer::Append`. -/
def append : MessageBuffer :=
  if empty : block.readableSize = 0 then buffer
  else
    { blocks := onTail (appendTail block) [block] buffer.blocks
      size := buffer.size + block.readableSize
      sized := buffer.sized_append block
      filled := buffer.filled_append block empty }

theorem bytes_append : (buffer.append block).bytes = buffer.bytes ++ block.readable := by
  unfold append
  split
  next empty => rw [block.readable_eq_nil_iff.mpr empty, List.append_nil]
  next => exact buffer.bytes_appendBlocks block

end append

section write

variable (data : Bytes)

theorem bytes_writeBlocks : chainBytes (onTail (writeTail data) [.new data] buffer.blocks) =
    buffer.bytes ++ data :=
  chainBytes_onTail (by simp [chainBytes]) (chainBytes_writeTail data)

theorem sized_write : buffer.size + data.length =
    (chainBytes (onTail (writeTail data) [.new data] buffer.blocks)).length := by
  rw [bytes_writeBlocks, List.length_append, buffer.sized, bytes]

theorem filled_write (some_ : ¬ data = []) :
    Filled (onTail (writeTail data) [.new data] buffer.blocks) :=
  filled_onTail buffer.filled (filled_singleton some_) fun _ => filled_writeTail some_

/-- `LLBC_MessageBuffer::Write`. -/
def write : MessageBuffer :=
  if empty : data = [] then buffer
  else
    { blocks := onTail (writeTail data) [.new data] buffer.blocks
      size := buffer.size + data.length
      sized := buffer.sized_write data
      filled := buffer.filled_write data empty }

theorem bytes_write : (buffer.write data).bytes = buffer.bytes ++ data := by
  unfold write
  split
  next empty => rw [empty, List.append_nil]
  next => exact buffer.bytes_writeBlocks data

end write

section remove

variable (length : Nat)

theorem sized_remove : buffer.size - (length - (removeBlocks buffer.blocks length).2) =
    (chainBytes (removeBlocks buffer.blocks length).1).length := by
  obtain ⟨left, need⟩ := removeBlocks_spec buffer.blocks length
  rw [left, need, List.length_drop, ← buffer.sized]
  omega

/-- `LLBC_MessageBuffer::Remove`: the buffer after it, and the length it returns. -/
def remove : MessageBuffer × Nat :=
  let removed := removeBlocks buffer.blocks length
  ({ blocks := removed.1
     size := buffer.size - (length - removed.2)
     sized := buffer.sized_remove length
     filled := filled_removeBlocks buffer.filled length }, length - removed.2)

theorem bytes_remove : (buffer.remove length).1.bytes = buffer.bytes.drop length :=
  (removeBlocks_spec buffer.blocks length).1

theorem sized_read : buffer.size - (length - (readBlocks buffer.blocks length []).2.1) =
    (chainBytes (readBlocks buffer.blocks length []).1).length := by
  rw [readBlocks_eq]
  exact buffer.sized_remove length

theorem filled_read : Filled (readBlocks buffer.blocks length []).1 := by
  rw [readBlocks_eq]
  exact filled_removeBlocks buffer.filled length

/-- `LLBC_MessageBuffer::Read`: the buffer after it, and what it has read. -/
def read : MessageBuffer × Bytes :=
  let result := readBlocks buffer.blocks length []
  ({ blocks := result.1
     size := buffer.size - (length - result.2.1)
     sized := buffer.sized_read length
     filled := buffer.filled_read length }, result.2.2)

theorem bytes_read : (buffer.read length).2 ++ (buffer.read length).1.bytes = buffer.bytes := by
  have left : (buffer.read length).1.bytes = buffer.bytes.drop length := by
    simp only [bytes, read, readBlocks_eq]
    exact (removeBlocks_spec buffer.blocks length).1
  have out : (buffer.read length).2 = buffer.bytes.take length := by
    simp only [read, readBlocks_eq, List.nil_append, bytes]
  rw [left, out, List.take_append_drop]

end remove

end MessageBuffer

/-! ## A queue of bytes -/

namespace MessageBuffer

/-- A call of one of the operations. -/
inductive Op where
  | append (block : MessageBlock)
  | write (data : Bytes)
  | read (length : Nat)
  | remove (length : Nat)

/-- What an operation puts in. -/
def Op.supplies : Op → Bytes
  | .append block => block.readable
  | .write data => data
  | .read _ => []
  | .remove _ => []

/-- The buffer after an operation, and what it has taken out. -/
def apply (buffer : MessageBuffer) : Op → MessageBuffer × Bytes
  | .append block => (buffer.append block, [])
  | .write data => (buffer.write data, [])
  | .read length => buffer.read length
  | .remove length => ((buffer.remove length).1, buffer.bytes.take (buffer.remove length).2)

/-- Operations one after another, and all that they have taken out. -/
def applyAll : MessageBuffer → List Op → MessageBuffer × Bytes
  | buffer, [] => (buffer, [])
  | buffer, op :: ops =>
      let later := applyAll (buffer.apply op).1 ops
      (later.1, (buffer.apply op).2 ++ later.2)

variable (buffer : MessageBuffer)

theorem remove_length (length : Nat) :
    (buffer.remove length).2 = min length buffer.bytes.length := by
  obtain ⟨_, need⟩ := removeBlocks_spec buffer.blocks length
  simp only [remove, need, bytes]
  omega

theorem apply_bytes (op : Op) :
    (buffer.apply op).2 ++ (buffer.apply op).1.bytes = buffer.bytes ++ op.supplies := by
  cases op with
  | append block => exact buffer.bytes_append block
  | write data => exact buffer.bytes_write data
  | read length =>
      rw [Op.supplies, List.append_nil]
      exact buffer.bytes_read length
  | remove length =>
      simp only [apply, Op.supplies, remove_length, bytes_remove, List.append_nil]
      rw [List.take_eq_take_min.symm, List.take_append_drop]

/-- However the operations are mixed, what has been taken out and what is still in the buffer
are the bytes that were put in, in order, and `_size` counts the bytes in the buffer. -/
theorem buffer_keeps_order (ops : List Op) :
    buffer.bytes ++ ops.flatMap Op.supplies =
        (buffer.applyAll ops).2 ++ (buffer.applyAll ops).1.bytes ∧
      (buffer.applyAll ops).1.size = (buffer.applyAll ops).1.bytes.length := by
  refine ⟨?_, (buffer.applyAll ops).1.sized⟩
  induction ops generalizing buffer with
  | nil => simp [applyAll]
  | cons op ops ih =>
      simp only [applyAll, List.flatMap_cons]
      rw [← List.append_assoc, ← apply_bytes, List.append_assoc, ih, List.append_assoc]

end MessageBuffer

end LibcoRpc.Net
