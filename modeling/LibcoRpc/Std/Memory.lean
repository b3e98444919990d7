import Mathlib.Algebra.Group.Nat.Defs
import Mathlib.Data.Nat.Basic
import Mathlib.Logic.Function.Basic

/-!
# Byte memory

A 64-bit address space of bytes with little-endian words. Addresses wrap around, so a
region is an arc of the circle of addresses: what lies in it is told by the distance from its
base. Whether two regions overlap can be decided from the distance of their bases.
-/

namespace LibcoRpc.Std

abbrev Word := BitVec 64

abbrev Memory := Word → BitVec 8

/-- The `size` bytes from `base` on. -/
structure Region where
  base : Word
  size : Nat
deriving DecidableEq, Repr

namespace Region

/-- How far an address lies above the base. -/
def offset (region : Region) (address : Word) : Nat := (address - region.base).toNat

instance : Membership Word Region := ⟨fun region address => region.offset address < region.size⟩

instance (region : Region) (address : Word) : Decidable (address ∈ region) :=
  inferInstanceAs (Decidable (_ < _))

theorem mem_iff {region : Region} {address : Word} :
    address ∈ region ↔ region.offset address < region.size := .rfl

def Disjoint (region other : Region) : Prop := ∀ here ∈ region, here ∉ other

variable {region other : Region} {address base : Word}

theorem Disjoint.symm (disjoint : region.Disjoint other) : other.Disjoint region :=
  fun here inOther inRegion => disjoint here inRegion inOther

/-- Two regions that are not empty are disjoint if the second one lies between the end of the
first one and its beginning. -/
theorem disjoint_iff : region.Disjoint other ↔ region.size = 0 ∨ other.size = 0 ∨
    region.size ≤ region.offset other.base ∧ region.offset other.base + other.size ≤ 2 ^ 64 := by
  constructor
  · intro disjoint
    by_contra overlap
    have atOther : other.base ∈ region → other.size = 0 := fun inRegion => by
      have out := disjoint other.base inRegion
      rw [mem_iff, offset, BitVec.sub_self] at out
      exact Nat.eq_zero_of_not_pos out
    have atRegion : region.base ∈ other → region.size = 0 := fun inOther => by
      have out := disjoint.symm region.base inOther
      rw [mem_iff, offset, BitVec.sub_self] at out
      exact Nat.eq_zero_of_not_pos out
    rw [mem_iff] at atOther atRegion
    unfold offset at overlap atOther atRegion
    bv_omega
  · rintro separate here inRegion inOther
    rw [mem_iff] at inRegion inOther
    unfold offset at separate inRegion inOther
    bv_omega

instance (region other : Region) : Decidable (region.Disjoint other) :=
  decidable_of_iff' _ disjoint_iff

/-- A byte of a range that starts in a region lies as far above its start as in the range. -/
theorem offset_of_mem {size : Nat} (member : address ∈ (⟨base, size⟩ : Region))
    (fits : region.offset base + size ≤ 2 ^ 64) :
    region.offset address = region.offset base + (address - base).toNat := by
  have within : (address - base).toNat < size := member
  unfold offset at fits ⊢
  bv_omega

end Region

/-! ## Words -/

/-- Eight bytes, the least one first. -/
def wordOf (byte : Nat → BitVec 8) : Word :=
  byte 7 ++ byte 6 ++ byte 5 ++ byte 4 ++ byte 3 ++ byte 2 ++ byte 1 ++ byte 0

theorem wordOf_congr {byte byte' : Nat → BitVec 8}
    (same : ∀ index < 8, byte index = byte' index) : wordOf byte = wordOf byte' := by
  unfold wordOf
  rw [same 0 (by decide), same 1 (by decide), same 2 (by decide), same 3 (by decide),
    same 4 (by decide), same 5 (by decide), same 6 (by decide), same 7 (by decide)]

theorem wordOf_extract (value : Word) :
    (wordOf fun index => value.extractLsb' (8 * index) 8) = value := by
  simp only [wordOf, Nat.reduceMul, BitVec.extractLsb'_append_extractLsb'_eq_extractLsb']
  simp

theorem extract_wordOf (byte : Nat → BitVec 8) {index : Nat} (small : index < 8) :
    (wordOf byte).extractLsb' (8 * index) 8 = byte index := by
  unfold wordOf
  match index, small with
  | 0, _ | 1, _ | 2, _ | 3, _ | 4, _ | 5, _ | 6, _ | 7, _ =>
      simp (disch := decide) only [BitVec.extractLsb'_append_eq_of_le,
        BitVec.extractLsb'_append_eq_of_add_le, Nat.reduceMul, Nat.reduceSub,
        BitVec.extractLsb'_eq_self]

def loadWord (memory : Memory) (address : Word) : Word :=
  wordOf fun index => memory (address + BitVec.ofNat 64 index)

def storeWord (memory : Memory) (address value : Word) : Memory := fun here =>
  if here ∈ (⟨address, 8⟩ : Region) then value.extractLsb' (8 * (here - address).toNat) 8
  else memory here

section

variable {memory memory' : Memory} {address value here : Word}

theorem mem_of_index {index : Nat} (small : index < 8) :
    address + BitVec.ofNat 64 index ∈ (⟨address, 8⟩ : Region) := by
  show (address + BitVec.ofNat 64 index - address).toNat < 8
  bv_omega

theorem loadWord_congr (same : ∀ here ∈ (⟨address, 8⟩ : Region), memory here = memory' here) :
    loadWord memory address = loadWord memory' address :=
  wordOf_congr fun _ small => same _ (mem_of_index small)

theorem loadWord_zero (zero : ∀ here ∈ (⟨address, 8⟩ : Region), memory here = 0) :
    loadWord memory address = 0 := by
  have zeros : (wordOf fun _ => 0) = 0 := by decide
  exact (wordOf_congr fun _ small => zero _ (mem_of_index small)).trans zeros

theorem storeWord_of_not_mem (out : here ∉ (⟨address, 8⟩ : Region)) :
    storeWord memory address value here = memory here := if_neg out

theorem loadWord_storeWord (memory : Memory) (address value : Word) :
    loadWord (storeWord memory address value) address = value := by
  refine (wordOf_congr fun index small => ?_).trans (wordOf_extract value)
  have distance : (address + BitVec.ofNat 64 index - address).toNat = index := by bv_omega
  rw [storeWord, if_pos (mem_of_index small), distance]

/-- A store does not change the words that it does not overlap. -/
theorem loadWord_storeWord_disjoint (disjoint : Region.Disjoint ⟨here, 8⟩ ⟨address, 8⟩) :
    loadWord (storeWord memory address value) here = loadWord memory here :=
  loadWord_congr fun _ member => storeWord_of_not_mem (disjoint _ member)

/-- Storing a word that was loaded puts its bytes back. -/
theorem storeWord_loadWord (member : here ∈ (⟨address, 8⟩ : Region)) :
    storeWord memory address (loadWord memory' address) here = memory' here := by
  have small : (here - address).toNat < 8 := member
  have isHere : address + BitVec.ofNat 64 (here - address).toNat = here := by bv_omega
  rw [storeWord, if_pos member, loadWord, extract_wordOf _ small, isHere]

end

/-! ## Blocks -/

/-- `memset`. -/
def fill (memory : Memory) (region : Region) (byte : BitVec 8) : Memory := fun here =>
  if here ∈ region then byte else memory here

/-- A finite number of single bytes written one after the other. -/
def writeAll (memory : Memory) (writes : List (Word × BitVec 8)) : Memory :=
  writes.foldl (fun memory write => Function.update memory write.1 write.2) memory

section

variable {memory : Memory} {here : Word}

theorem fill_of_mem {region : Region} {byte : BitVec 8} (inside : here ∈ region) :
    fill memory region byte here = byte := if_pos inside

theorem fill_of_not_mem {region : Region} {byte : BitVec 8} (out : here ∉ region) :
    fill memory region byte here = memory here := if_neg out

theorem writeAll_of_forall_ne {writes : List (Word × BitVec 8)}
    (apart : ∀ write ∈ writes, write.1 ≠ here) : writeAll memory writes here = memory here := by
  induction writes generalizing memory with
  | nil => rfl
  | cons write rest ih =>
      have others : ∀ write ∈ rest, write.1 ≠ here :=
        fun other member => apart other (List.mem_cons_of_mem _ member)
      calc writeAll memory (write :: rest) here
          = Function.update memory write.1 write.2 here := ih others
        _ = memory here := Function.update_of_ne (apart write List.mem_cons_self).symm ..

end

end LibcoRpc.Std
