import LibcoRpc.Libco.Context

/-!
# The memory of coroutines

`co_create_env` allocates a `stCoRoutine_t`, which contains the context, and a stack, and
`co_free` gives both back. `Layout` says which coroutines have memory and where; no two of them
share a byte. What `malloc` returns is only known to be free.
-/

namespace LibcoRpc.Libco

open LibcoRpc.Std

/-- `sizeof(stCoRoutine_t)`. -/
abbrev routineSize : Nat := 8392

/-- The memory of a coroutine. -/
structure Place where
  /-- The address of its `stCoRoutine_t`. -/
  routine : Word
  stack : Region
  bounded : stack.size ≤ 2 ^ 64
  apart : Region.Disjoint ⟨routine, routineSize⟩ stack

namespace Place

variable {place other : Place} {here slot : Word}

def block (place : Place) : Region := ⟨place.routine, routineSize⟩

/-- `&co->ctx`, which is also where `regs` begins. -/
def ctx (place : Place) : Word := place.routine + 24

/-- The array `regs` of the context. -/
def context (place : Place) : Region := ⟨place.ctx, contextSize⟩

/-- What must not change while the coroutine waits for a switch to it. -/
def Keeps (place : Place) (here : Word) : Prop := here ∈ place.context ∨ here ∈ place.stack

instance (place : Place) (here : Word) : Decidable (place.Keeps here) :=
  inferInstanceAs (Decidable (_ ∨ _))

/-- Two coroutines have no memory in common. -/
structure Apart (place other : Place) : Prop where
  blocks : place.block.Disjoint other.block
  blockStack : place.block.Disjoint other.stack
  stackBlock : place.stack.Disjoint other.block
  ownStacks : place.stack.Disjoint other.stack

instance (place other : Place) : Decidable (place.Apart other) :=
  decidable_of_iff (place.block.Disjoint other.block ∧ place.block.Disjoint other.stack ∧
      place.stack.Disjoint other.block ∧ place.stack.Disjoint other.stack)
    ⟨fun ⟨blocks, blockStack, stackBlock, ownStacks⟩ =>
        ⟨blocks, blockStack, stackBlock, ownStacks⟩,
      fun apart => ⟨apart.blocks, apart.blockStack, apart.stackBlock, apart.ownStacks⟩⟩

theorem Apart.symm (apart : place.Apart other) : other.Apart place where
  blocks := apart.blocks.symm
  blockStack := apart.stackBlock.symm
  stackBlock := apart.blockStack.symm
  ownStacks := apart.ownStacks.symm

/-- The context is part of the `stCoRoutine_t`. -/
theorem mem_block (inContext : here ∈ place.context) : here ∈ place.block := by
  have small : (here - (place.routine + 24)).toNat < 112 := inContext
  show (here - place.routine).toNat < 8392
  bv_omega

/-- A slot that begins in the stack, with room for it, is in the stack. -/
theorem slot_inside (inside : place.stack.offset slot + 8 ≤ place.stack.size)
    (member : here ∈ (⟨slot, 8⟩ : Region)) : here ∈ place.stack := by
  have distance : (here - slot).toNat < 8 := member
  have offset := Region.offset_of_mem member (Nat.le_trans inside place.bounded)
  rw [Region.mem_iff, offset]
  omega

theorem context_slot (inside : place.stack.offset slot + 8 ≤ place.stack.size) :
    place.context.Disjoint ⟨slot, 8⟩ := fun here inContext inSlot =>
  place.apart here (mem_block inContext) (slot_inside inside inSlot)

namespace Apart

variable (apart : place.Apart other)

include apart

/-- What one coroutine keeps is not in the `stCoRoutine_t` of another. -/
theorem not_mem_block (keeps : place.Keeps here) : here ∉ other.block :=
  keeps.elim (fun inContext => apart.blocks here (mem_block inContext)) (apart.stackBlock here)

theorem not_mem_context (keeps : place.Keeps here) : here ∉ other.context :=
  fun inContext => apart.not_mem_block keeps (mem_block inContext)

/-- Nor is it in the stack of another. -/
theorem not_mem_stack (keeps : place.Keeps here) : here ∉ other.stack :=
  keeps.elim (fun inContext => apart.blockStack here (mem_block inContext)) (apart.ownStacks here)

theorem context_slot (inside : other.stack.offset slot + 8 ≤ other.stack.size) :
    place.context.Disjoint ⟨slot, 8⟩ := fun _ inContext inSlot =>
  apart.not_mem_stack (.inl inContext) (slot_inside inside inSlot)

theorem contexts : place.context.Disjoint other.context := fun _ inContext =>
  apart.not_mem_context (.inl inContext)

end Apart

end Place

/-- Where the coroutines are that have memory. -/
structure Layout where
  live : List Nat
  place : Nat → Place
  apart : ∀ co ∈ live, ∀ other ∈ live, co ≠ other → (place co).Apart (place other)

namespace Layout

variable {layout : Layout} {co : Nat} {place : Place}

/-- Memory that no coroutine has. -/
def Free (layout : Layout) (place : Place) : Prop :=
  ∀ co ∈ layout.live, place.Apart (layout.place co)

instance (layout : Layout) (place : Place) : Decidable (layout.Free place) :=
  List.decidableBAll _ layout.live

/-- Free memory is apart from all that is in use. -/
theorem apart_add (free : layout.Free place) : ∀ one ∈ co :: layout.live,
    ∀ other ∈ co :: layout.live, one ≠ other →
      (Function.update layout.place co place one).Apart
        (Function.update layout.place co place other) := by
  intro one oneLive other otherLive differ
  have old : ∀ one ∈ co :: layout.live, one ≠ co → one ∈ layout.live := fun one live isOld =>
    (List.mem_cons.mp live).resolve_left isOld
  by_cases oneNew : one = co
  · subst oneNew
    rw [Function.update_self, Function.update_of_ne differ.symm]
    exact free other (old other otherLive differ.symm)
  · rw [Function.update_of_ne oneNew]
    by_cases otherNew : other = co
    · subst otherNew
      rw [Function.update_self]
      exact (free one (old one oneLive oneNew)).symm
    · rw [Function.update_of_ne otherNew]
      exact layout.apart one (old one oneLive oneNew) other (old other otherLive otherNew) differ

theorem apart_remove : ∀ one ∈ layout.live.filter (· ≠ co),
    ∀ other ∈ layout.live.filter (· ≠ co), one ≠ other →
      (layout.place one).Apart (layout.place other) :=
  fun one oneLive other otherLive =>
    layout.apart one (List.mem_of_mem_filter oneLive) other (List.mem_of_mem_filter otherLive)

/-- A coroutine gets memory. -/
def add (layout : Layout) (co : Nat) (place : Place) (free : layout.Free place) : Layout where
  live := co :: layout.live
  place := Function.update layout.place co place
  apart := apart_add free

/-- The memory of a coroutine is free again. -/
def remove (layout : Layout) (co : Nat) : Layout where
  live := layout.live.filter (· ≠ co)
  place := layout.place
  apart := apart_remove

theorem apart_single : ∀ one ∈ [co], ∀ other ∈ [co], one ≠ other → place.Apart place :=
  fun _ isOne _ isOther differ =>
    absurd ((List.mem_singleton.mp isOne).trans (List.mem_singleton.mp isOther).symm) differ

/-- One coroutine. -/
def single (co : Nat) (place : Place) : Layout where
  live := [co]
  place _ := place
  apart := apart_single

end Layout

/-! ## Stack sizes -/

/-- `at.stack_size` in `co_create_env`, from the size that is asked for. -/
def stackSize (asked : Int) : Nat :=
  let size : Nat :=
    if asked ≤ 0 then 128 * 1024 else if asked > 1024 * 1024 * 8 then 1024 * 1024 * 8
    else asked.toNat
  if size % 0x1000 ≠ 0 then size - size % 0x1000 + 0x1000 else size

/-- A stack has at least a page and at most eight megabytes. -/
theorem stackSize_bounds (asked : Int) :
    0x1000 ≤ stackSize asked ∧ stackSize asked ≤ 1024 * 1024 * 8 := by
  unfold stackSize
  dsimp only
  split_ifs <;> omega

end LibcoRpc.Libco
