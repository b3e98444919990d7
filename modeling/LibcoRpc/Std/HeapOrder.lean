import Mathlib.Data.Finset.Image
import Mathlib.Logic.Equiv.Basic
import Mathlib.Order.Interval.Finset.Nat

/-!
# Binary heaps in an array

Slots are numbered from one, and the parent of slot `i` is slot `i / 2`. `Ordered` says
that no value ranks before its parent. A value may be out of place in one slot: in `Rising`
it may rank before its parent, in `Sinking` behind its children. Exchanging it with its
parent, or with the first of its children, moves the disorder one level, and where there is
nothing to exchange the whole is ordered.

Code that percolates a value does not exchange, it moves a hole: `update_hole_move` says that
filling the hole before and after such a move differs by an exchange.
-/

namespace LibcoRpc.Std.Heap

open Equiv (swap)

variable {α : Type}

/-- The comparison ranks values; several may have the same rank. -/
structure Ranks (less : α → α → Prop) : Prop where
  asymm : ∀ {left right}, less left right → ¬ less right left
  between : ∀ {left right} (other), less left right → less left other ∨ less other right

theorem ranks_of_key {κ : Type} [LinearOrder κ] (key : α → κ) :
    Ranks fun left right => decide (key left < key right) = true where
  asymm before := by
    rw [decide_eq_true_eq] at before ⊢
    exact before.asymm
  between {left _} other before := by
    simp only [decide_eq_true_eq] at before ⊢
    exact (lt_or_ge (key left) (key other)).imp_right fun first => first.trans_lt before

/-! ## Holes -/

/-- Moving the hole exchanges the value with the one that takes its place. -/
theorem update_hole_move (slots : Nat → α) {hole next : Nat} (value : α) (moves : hole ≠ next) :
    Function.update (Function.update slots hole (slots next)) next value =
      Function.update slots hole value ∘ swap hole next := by
  rw [Equiv.comp_swap_eq_update]
  funext slot
  by_cases isNext : slot = next
  · subst isNext
    simp [moves.symm]
  · by_cases isHole : slot = hole
    · subst isHole
      simp [moves, moves.symm]
    · simp [Function.update_apply, isNext, isHole]

/-! ## Contents -/

/-- The values in the first `size` slots. -/
def contents (size : Nat) (slots : Nat → α) : Multiset α := (Finset.Icc 1 size).val.map slots

theorem contents_succ (size : Nat) (slots : Nat → α) :
    contents (size + 1) slots = slots (size + 1) ::ₘ contents size slots := by
  have last : Finset.Icc 1 (size + 1) = (Finset.Icc 1 size).cons (size + 1) (by simp) := by
    ext slot
    simp only [Finset.mem_Icc, Finset.mem_cons]
    omega
  rw [contents, last, Finset.cons_val, Multiset.map_cons, contents]

theorem mem_contents {size : Nat} {slots : Nat → α} {value : α} :
    value ∈ contents size slots ↔ ∃ slot, 1 ≤ slot ∧ slot ≤ size ∧ slots slot = value := by
  simp [contents, and_assoc]

theorem contents_congr {size : Nat} {slots slots' : Nat → α}
    (same : ∀ slot, 1 ≤ slot → slot ≤ size → slots' slot = slots slot) :
    contents size slots' = contents size slots := by
  apply Multiset.map_congr rfl
  intro slot inside
  obtain ⟨low, high⟩ := Finset.mem_Icc.mp (Finset.mem_val.mp inside)
  exact same slot low high

theorem contents_swap {size left right : Nat} (slots : Nat → α) (leftLow : 1 ≤ left)
    (leftHigh : left ≤ size) (rightLow : 1 ≤ right) (rightHigh : right ≤ size) :
    contents size (slots ∘ swap left right) = contents size slots := by
  have same : (Finset.Icc 1 size).map (swap left right).toEmbedding = Finset.Icc 1 size := by
    apply Finset.map_perm
    intro slot moved
    rw [Finset.coe_Icc, Set.mem_Icc]
    by_contra outside
    apply moved
    apply Equiv.swap_apply_of_ne_of_ne <;> omega
  calc contents size (slots ∘ swap left right)
      = (((Finset.Icc 1 size).val.map (swap left right)).map slots) := by
        rw [contents, Multiset.map_map]
    _ = contents size slots := by
        rw [contents]
        conv_rhs => rw [← same]
        rfl

/-- Moving the last value to the first slot drops the first one. -/
theorem contents_move_last (size : Nat) (slots : Nat → α) :
    slots 1 ::ₘ contents size (Function.update slots 1 (slots (size + 1))) =
      contents (size + 1) slots := by
  rw [← contents_swap slots (Nat.le_refl 1) (Nat.succ_pos size) (Nat.succ_pos size)
    (Nat.le_refl (size + 1)), contents_succ, Function.comp_apply, Equiv.swap_apply_right]
  congr 1
  refine contents_congr fun slot positive inside => ?_
  by_cases isFirst : slot = 1
  · rw [isFirst, Function.update_self, Function.comp_apply, Equiv.swap_apply_left]
  · rw [Function.update_of_ne isFirst, Function.comp_apply,
      Equiv.swap_apply_of_ne_of_ne isFirst (by omega)]

/-! ## Order -/

/-- No value ranks before its parent, in the subtrees of the slots from `first` on. -/
def Ordered (less : α → α → Prop) (first size : Nat) (slots : Nat → α) : Prop :=
  ∀ slot, first ≤ slot / 2 → slot ≤ size → ¬ less (slots slot) (slots (slot / 2))

/-- The value in `slot` may rank before its parent. -/
structure Rising (less : α → α → Prop) (size slot : Nat) (slots : Nat → α) : Prop where
  others : ∀ other, 1 ≤ other / 2 → other ≤ size → other ≠ slot →
    ¬ less (slots other) (slots (other / 2))
  below : ∀ child, child / 2 = slot → 1 ≤ slot / 2 → child ≤ size →
    ¬ less (slots child) (slots (slot / 2))

/-- The value in `slot` may rank behind its children. -/
structure Sinking (less : α → α → Prop) (first size slot : Nat) (slots : Nat → α) : Prop where
  others : ∀ other, first ≤ other / 2 → other ≤ size → other / 2 ≠ slot →
    ¬ less (slots other) (slots (other / 2))
  below : ∀ child, child / 2 = slot → first ≤ slot / 2 → child ≤ size →
    ¬ less (slots child) (slots (slot / 2))

section

variable {less : α → α → Prop} {first size slot : Nat} {slots slots' : Nat → α}

/-- With too few slots for a child there is nothing to order. -/
theorem ordered_of_lt (few : size < 2 * first) : Ordered less first size slots := by
  intro slot isChild inside
  omega

theorem Ordered.congr {less' : α → α → Prop} (ordered : Ordered less first size slots)
    (positive : 1 ≤ first) (same : ∀ slot, 1 ≤ slot → slot ≤ size → slots' slot = slots slot)
    (agrees : ∀ left ∈ contents size slots, ∀ right ∈ contents size slots,
      less' left right → less left right) :
    Ordered less' first size slots' := by
  intro slot isChild inside before
  rw [same slot (by omega) inside, same (slot / 2) (by omega) (by omega)] at before
  refine ordered slot isChild inside (agrees _ ?_ _ ?_ before)
  · exact mem_contents.mpr ⟨slot, by omega, inside, rfl⟩
  · exact mem_contents.mpr ⟨slot / 2, by omega, by omega, rfl⟩

/-- A new last value is all that may be out of place. -/
theorem Ordered.rising (ordered : Ordered less 1 size slots) (value : α) :
    Rising less (size + 1) (size + 1) (Function.update slots (size + 1) value) where
  others other isChild inside notLast := by
    rw [Function.update_of_ne notLast, Function.update_of_ne (by omega)]
    exact ordered other isChild (by omega)
  below child isChild _ inside := by omega

/-- Whatever is in slot `first`, it is all that may be out of place. -/
theorem Ordered.sinking (ordered : Ordered less (first + 1) size slots) (positive : 1 ≤ first)
    (value : α) : Sinking less first size first (Function.update slots first value) where
  others other isChild inside notFirst := by
    rw [Function.update_of_ne (by omega), Function.update_of_ne notFirst]
    exact ordered other (by omega) inside
  below child isChild parent _ := by omega

namespace Rising

theorem step (ranks : Ranks less) (rising : Rising less size slot slots) (isChild : 1 ≤ slot / 2)
    (before : less (slots slot) (slots (slot / 2))) (inside : slot ≤ size) :
    Rising less size (slot / 2) (slots ∘ swap slot (slot / 2)) := by
  have atSlot : (slots ∘ swap slot (slot / 2)) slot = slots (slot / 2) := by simp
  have atParent : (slots ∘ swap slot (slot / 2)) (slot / 2) = slots slot := by simp
  have elsewhere : ∀ other, other ≠ slot → other ≠ slot / 2 →
      (slots ∘ swap slot (slot / 2)) other = slots other := fun other notSlot notParent => by
    rw [Function.comp_apply, Equiv.swap_apply_of_ne_of_ne notSlot notParent]
  constructor
  · intro other otherChild otherInside notParent
    by_cases isSlot : other = slot
    · subst isSlot
      rw [atSlot, atParent]
      exact ranks.asymm before
    · rw [elsewhere other isSlot notParent]
      by_cases under : other / 2 = slot
      · rw [under, atSlot]
        exact rising.below other under isChild otherInside
      · by_cases sibling : other / 2 = slot / 2
        · rw [sibling, atParent]
          -- The parent ranked before the sibling, and the value ranks before the parent.
          intro first
          have kept := rising.others other otherChild otherInside isSlot
          rw [sibling] at kept
          rcases ranks.between (slots other) before with after | after
          · exact ranks.asymm first after
          · exact kept after
        · rw [elsewhere _ under sibling]
          exact rising.others other otherChild otherInside isSlot
  · intro child isBelow isGrandchild childInside
    rw [elsewhere (slot / 2 / 2) (by omega) (by omega)]
    have parent := rising.others (slot / 2) isGrandchild (by omega) (by omega)
    by_cases isSlot : child = slot
    · subst isSlot
      rw [atSlot]
      exact parent
    · rw [elsewhere child isSlot (by omega)]
      have kept := rising.others child (by omega) childInside isSlot
      rw [isBelow] at kept
      intro first
      rcases ranks.between (slots (slot / 2)) first with after | after
      · exact kept after
      · exact parent after

theorem done (rising : Rising less size slot slots)
    (stops : ¬ (1 < slot ∧ less (slots slot) (slots (slot / 2)))) : Ordered less 1 size slots := by
  intro other isChild inside before
  by_cases isSlot : other = slot
  · subst isSlot
    exact stops ⟨by omega, before⟩
  · exact rising.others other isChild inside isSlot before

end Rising

namespace Sinking

theorem step (ranks : Ranks less) (sinking : Sinking less first size slot slots)
    (positive : 1 ≤ first) (reached : first ≤ slot) {child : Nat} (isChild : child / 2 = slot)
    (inside : child ≤ size)
    (least : ∀ other, other / 2 = slot → other ≤ size → ¬ less (slots other) (slots child))
    (before : less (slots child) (slots slot)) :
    Sinking less first size child (slots ∘ swap slot child) := by
  have atSlot : (slots ∘ swap slot child) slot = slots child := by simp
  have atChild : (slots ∘ swap slot child) child = slots slot := by simp
  have elsewhere : ∀ other, other ≠ slot → other ≠ child →
      (slots ∘ swap slot child) other = slots other := fun other notSlot notChild => by
    rw [Function.comp_apply, Equiv.swap_apply_of_ne_of_ne notSlot notChild]
  constructor
  · intro other otherBelow otherInside notUnder
    by_cases sibling : other / 2 = slot
    · rw [sibling, atSlot]
      by_cases isSame : other = child
      · subst isSame
        rw [atChild]
        exact ranks.asymm before
      · rw [elsewhere other (by omega) isSame]
        exact least other sibling otherInside
    · have notChild : other ≠ child := fun same => sibling (same ▸ isChild)
      by_cases isSlot : other = slot
      · subst isSlot
        rw [atSlot, elsewhere (other / 2) (by omega) notUnder]
        exact sinking.below child isChild otherBelow inside
      · rw [elsewhere other isSlot notChild, elsewhere (other / 2) sibling notUnder]
        exact sinking.others other otherBelow otherInside sibling
  · intro grandchild isGrandchild _ grandchildInside
    rw [isChild, atSlot, elsewhere grandchild (by omega) (by omega)]
    have kept := sinking.others grandchild (by omega) grandchildInside (by omega)
    rwa [isGrandchild] at kept

theorem done (sinking : Sinking less first size slot slots)
    (stops : ∀ child, child / 2 = slot → child ≤ size → ¬ less (slots child) (slots slot)) :
    Ordered less first size slots := by
  intro other isBelow inside before
  by_cases isChild : other / 2 = slot
  · exact stops other isChild inside (isChild ▸ before)
  · exact sinking.others other isBelow inside isChild before

end Sinking

/-- The first slot holds a value that no other ranks before. -/
theorem Ordered.least (ranks : Ranks less) (ordered : Ordered less 1 size slots) {value : α}
    (member : value ∈ contents size slots) : ¬ less value (slots 1) := by
  obtain ⟨slot, positive, inside, rfl⟩ := mem_contents.mp member
  clear member
  induction slot using Nat.strongRecOn with
  | ind slot ih =>
      intro before
      rcases Nat.eq_or_lt_of_le positive with isFirst | isChild
      · subst isFirst
        exact ranks.asymm before before
      · rcases ranks.between (slots (slot / 2)) before with after | after
        · exact ordered slot (by omega) inside after
        · exact ih (slot / 2) (by omega) (by omega) (by omega) after

end

end LibcoRpc.Std.Heap
