import LibcoRpc.CoroMgr.State
import LibcoRpc.Semantics.Machine
import LibcoRpc.Std.HeapOrder

/-!
# `LLBC_BinaryHeap`

The heap in which the timer scheduler keeps its records, as the vector it is. `none` is a
read or a write outside the vector, or an `int` that overflows: `PercolateDown` counts in
`int`, and doubles its index once more than there are levels. Every operation keeps `Valid`,
so with fewer than 2³⁰ elements none of them leaves the vector, and they are those of a
priority queue (`heap_is_priority_queue`).
-/

namespace LibcoRpc.Timer

open LibcoRpc.CoroMgr (llbcOk llbcFailed wrapInt32)
open LibcoRpc.Std.Heap

/-- `LLBC_BinaryHeap<T, Comp>`. The element at index zero is not used. -/
structure BinaryHeap (T : Type) where
  elems : Array T
  size : Nat
deriving Repr

/-- `elems[index] = elem`. -/
def write {T : Type} (elems : Array T) (index : Nat) (elem : T) : Option (Array T) :=
  if index < elems.size then some (elems.setIfInBounds index elem) else none

namespace BinaryHeap

section

variable {T : Type} [Inhabited T] (less : T → T → Bool)

/-- `LLBC_BinaryHeap(size_t capacity)`. -/
def new (capacity : Nat) : BinaryHeap T :=
  { elems := Array.replicate (if capacity > 1 then capacity else 1) default, size := 0 }

/-- `IsEmpty`. -/
def isEmpty (heap : BinaryHeap T) : Bool := heap.size == 0

/-- `FindTop`; the inner `none` is `LLBC_FAILED`. -/
def findTop (heap : BinaryHeap T) : Option (Option T) :=
  if heap.isEmpty then some none else heap.elems[1]?.map some

/-- The loop of `Insert`. -/
def insertLoop (elem : T) : Nat → Array T → Nat → Nat → Option (Array T)
  | 0, _, _, _ => none
  | fuel + 1, elems, pos, parentPos =>
      if pos > 1 then do
        let parent ← elems[parentPos]?
        if less elem parent then do
          let elems ← write elems pos parent
          insertLoop elem fuel elems parentPos (parentPos / 2)
        else write elems pos elem
      else write elems pos elem

/-- `Insert`. The vector is doubled when it is full. -/
def insert (heap : BinaryHeap T) (elem : T) : Option (BinaryHeap T) := do
  let elems :=
    if heap.size + 1 = heap.elems.size then
      heap.elems ++ Array.replicate heap.elems.size default
    else heap.elems
  let pos := heap.size + 1
  let elems ← insertLoop less elem pos elems pos (pos / 2)
  return { elems := elems, size := pos }

/-- `index * 2` for an `int`. -/
def doubled (index : Nat) : Option Nat := if index * 2 < 2 ^ 31 then some (index * 2) else none

/-- The child that `PercolateDown` compares with, from the left one. -/
def childOf (size : Nat) (elems : Array T) (child : Nat) : Option Nat :=
  if (child : Int) ≠ wrapInt32 size then do
    let right ← elems[child + 1]?
    let left ← elems[child]?
    return if less right left then child + 1 else child
  else some child

/-- The loop of `PercolateDown`. -/
def percolateLoop (size : Nat) (elem : T) : Nat → Array T → Nat → Option (Array T)
  | 0, _, _ => none
  | fuel + 1, elems, index => do
      let child ← doubled index
      if (child : Int) ≤ wrapInt32 size then do
        let child ← childOf less size elems child
        let value ← elems[child]?
        if less value elem then do
          let elems ← write elems index value
          percolateLoop size elem fuel elems child
        else write elems index elem
      else write elems index elem

/-- `PercolateDown`. -/
def percolateDown (size : Nat) (elems : Array T) (index : Nat) : Option (Array T) := do
  let elem ← elems[index]?
  percolateLoop less size elem (size + 1) elems index

/-- `BuildHeap`, from a given index down. -/
def buildHeap (size : Nat) : Nat → Array T → Option (Array T)
  | 0, elems => some elems
  | index + 1, elems => do
      let elems ← percolateDown less size elems (index + 1)
      buildHeap size index elems

/-- The start of `DeleteTop`: the last element takes the place of the first. -/
def moveLast (heap : BinaryHeap T) : Option (Array T) :=
  if heap.size ≠ 1 then do
    let last ← heap.elems[heap.size]?
    write heap.elems 1 last
  else some heap.elems

/-- `DeleteTop()`. -/
def deleteTop (heap : BinaryHeap T) : Option (BinaryHeap T × Int) :=
  if heap.isEmpty then some (heap, llbcFailed)
  else do
    let elems ← heap.moveLast
    let elems ← write elems heap.size default
    let size := heap.size - 1
    let elems ← percolateDown less size elems 1
    return ({ elems := elems, size := size }, llbcOk)

/-- The loop of `DeleteElem(size_t index)`, with the number of turns it still takes. -/
def shiftLoop : Nat → Array T → Nat → Option (Array T)
  | 0, elems, _ => some elems
  | count + 1, elems, i => do
      let next ← elems[i + 1]?
      let elems ← write elems i next
      shiftLoop count elems (i + 1)

/-- `DeleteElem(size_t index)`. -/
def deleteAt (heap : BinaryHeap T) (index : Nat) : Option (BinaryHeap T × Int) :=
  if heap.isEmpty then some (heap, llbcFailed)
  else if index = 0 ∨ heap.size < index then some (heap, llbcFailed)
  else do
    let elems ← shiftLoop (heap.size - index) heap.elems index
    let size := heap.size - 1
    let elems ← buildHeap less size (size / 2) elems
    return ({ elems := elems, size := size }, llbcOk)

variable [DecidableEq T]

/-- The loop of `DeleteElem(const T &elem)` from index `i` on. -/
def searchLoop (heap : BinaryHeap T) (elem : T) : Nat → Nat → Option (BinaryHeap T × Int)
  | 0, _ => some (heap, llbcFailed)
  | count + 1, i => do
      let found ← heap.elems[i]?
      if found = elem then heap.deleteAt less i else heap.searchLoop elem count (i + 1)

/-- `DeleteElem(const T &elem)`. -/
def deleteElem (heap : BinaryHeap T) (elem : T) : Option (BinaryHeap T × Int) :=
  heap.searchLoop less elem heap.size 1

end

/-! ## Slots of the vector -/

section

variable {T : Type} [Inhabited T] {less : T → T → Bool} {elems elems' : Array T} {elem : T}
  {size first index : Nat}

/-- The vector as a function of the index. -/
def slots (elems : Array T) : Nat → T := fun index => elems.getD index default

theorem read_inside (inside : index < elems.size) : elems[index]? = some (slots elems index) := by
  rw [Array.getElem?_eq_getElem inside, slots, Array.getD_eq_getD_getElem?,
    Array.getElem?_eq_getElem inside, Option.getD_some]

theorem write_inside (elem : T) (inside : index < elems.size) :
    ∃ elems', write elems index elem = some elems' ∧ elems'.size = elems.size ∧
      slots elems' = Function.update (slots elems) index elem := by
  refine ⟨_, if_pos inside, Array.size_setIfInBounds, ?_⟩
  funext other
  simp only [slots, Array.getD_eq_getD_getElem?, Array.getElem?_setIfInBounds,
    Function.update_apply, eq_comm (a := index)]
  by_cases same : other = index
  · rw [if_pos same, if_pos same, if_pos (same ▸ inside), Option.getD_some]
  · rw [if_neg same, if_neg same]

/-- What percolating leaves: the same values, ordered from `first` on. -/
structure Arranges (less : T → T → Bool) (first size : Nat) (elems : Array T)
    (before : Nat → T) (elems' : Array T) : Prop where
  capacity : elems'.size = elems.size
  ordered : Ordered (less · ·) first size (slots elems')
  contents : contents size (slots elems') = contents size before

/-! ## Percolating -/

theorem insertLoop_arranges (ranks : Ranks (less · ·)) (inside : size < elems.size)
    {fuel pos : Nat} (enough : pos ≤ fuel) (positive : 1 ≤ pos) (reached : pos ≤ size)
    (rising : Rising (less · ·) size pos (Function.update (slots elems) pos elem)) :
    ∃ elems', insertLoop less elem fuel elems pos (pos / 2) = some elems' ∧
      Arranges less 1 size elems (Function.update (slots elems) pos elem) elems' := by
  induction fuel generalizing elems pos with
  | zero => omega
  | succ fuel ih =>
      have stays : ¬ (1 < pos ∧ less elem (slots elems (pos / 2)) = true) →
          ∃ elems', write elems pos elem = some elems' ∧
            Arranges less 1 size elems (Function.update (slots elems) pos elem) elems' := by
        intro stops
        obtain ⟨elems', written, capacity, filled⟩ :=
          write_inside elem (reached.trans_lt inside)
        refine ⟨elems', written, capacity, ?_, by rw [filled]⟩
        rw [filled]
        apply rising.done
        rintro ⟨deep, before⟩
        rw [Function.update_self, Function.update_of_ne (by omega)] at before
        exact stops ⟨deep, before⟩
      by_cases deep : 1 < pos
      · have parent : elems[pos / 2]? = some (slots elems (pos / 2)) := read_inside (by omega)
        simp only [insertLoop, if_pos deep, parent, Option.bind_eq_bind, Option.bind_some]
        by_cases before : less elem (slots elems (pos / 2)) = true
        · -- The parent takes the place of the hole, and the hole moves up.
          obtain ⟨moved, written, capacity, filled⟩ :=
            write_inside (slots elems (pos / 2)) (reached.trans_lt inside)
          have next := rising.step ranks (by omega)
            (by rwa [Function.update_self, Function.update_of_ne (by omega)]) reached
          rw [← update_hole_move _ _ (by omega), ← filled] at next
          obtain ⟨elems', looped, arranges⟩ :=
            ih (by rw [capacity]; exact inside) (by omega) (by omega) (by omega) next
          refine ⟨elems', ?_, arranges.capacity.trans capacity, arranges.ordered, ?_⟩
          · rw [if_pos before, written, Option.bind_some, looped]
          · rw [arranges.contents, filled, update_hole_move _ _ (by omega),
              contents_swap _ positive reached (by omega) (by omega)]
        · rw [if_neg before]
          exact stays fun stops => before stops.2
      · simp only [insertLoop, if_neg deep]
        exact stays fun stops => deep stops.1

theorem wrapInt32_of_small (small : size < 2 ^ 30) : wrapInt32 size = size := by
  unfold wrapInt32
  omega

theorem doubled_of_small (small : index < 2 ^ 30) : doubled index = some (index * 2) := by
  have fits : index * 2 < 2 ^ 31 := by omega
  rw [doubled, if_pos fits]

/-- The child that is compared with is the first of the children. -/
theorem childOf_inside (ranks : Ranks (less · ·)) (small : size < 2 ^ 30)
    (inside : size < elems.size) (hasChild : index * 2 ≤ size) :
    ∃ child, childOf less size elems (index * 2) = some child ∧ child / 2 = index ∧ child ≤ size ∧
      ∀ other, other / 2 = index → other ≤ size →
        ¬ less (slots elems other) (slots elems child) = true := by
  have irrefl : ∀ value : T, ¬ less value value = true := fun value before =>
    ranks.asymm before before
  have children : ∀ other, other / 2 = index → other = index * 2 ∨ other = index * 2 + 1 := by
    intro other isChild
    omega
  have last_iff : ((index * 2 : Nat) : Int) = wrapInt32 size ↔ index * 2 = size := by
    rw [wrapInt32_of_small small, Int.natCast_inj]
  by_cases isLast : index * 2 = size
  · refine ⟨index * 2, by rw [childOf, if_neg (not_not.mpr (last_iff.mpr isLast))], by omega,
      hasChild, ?_⟩
    intro other isChild otherInside
    obtain rfl : other = index * 2 := by omega
    exact irrefl _
  · have right : elems[index * 2 + 1]? = some (slots elems (index * 2 + 1)) :=
      read_inside (by omega)
    have left : elems[index * 2]? = some (slots elems (index * 2)) := read_inside (by omega)
    have notLast : ((index * 2 : Nat) : Int) ≠ wrapInt32 size := fun same =>
      isLast (last_iff.mp same)
    simp only [childOf, if_pos notLast, right, left, Option.bind_eq_bind, Option.bind_some]
    by_cases before : less (slots elems (index * 2 + 1)) (slots elems (index * 2)) = true
    · refine ⟨index * 2 + 1, by rw [if_pos before]; rfl, by omega, by omega, ?_⟩
      intro other isChild _
      rcases children other isChild with rfl | rfl
      · exact ranks.asymm before
      · exact irrefl _
    · refine ⟨index * 2, by rw [if_neg before]; rfl, by omega, by omega, ?_⟩
      intro other isChild _
      rcases children other isChild with rfl | rfl
      · exact irrefl _
      · exact before

omit [Inhabited T] in
/-- One turn of `PercolateDown`, while its numbers are small. -/
theorem percolateLoop_succ (small : size < 2 ^ 30) (near : index < 2 ^ 30) (fuel : Nat) :
    percolateLoop less size elem (fuel + 1) elems index =
      if index * 2 ≤ size then do
        let child ← childOf less size elems (index * 2)
        let value ← elems[child]?
        if less value elem then do
          let elems ← write elems index value
          percolateLoop less size elem fuel elems child
        else write elems index elem
      else write elems index elem := by
  have fits : ((index * 2 : Nat) : Int) ≤ wrapInt32 size ↔ index * 2 ≤ size := by
    rw [wrapInt32_of_small small, Int.ofNat_le]
  rw [percolateLoop, doubled_of_small near, Option.bind_eq_bind, Option.bind_some]
  by_cases hasChild : index * 2 ≤ size
  · rw [if_pos (fits.mpr hasChild), if_pos hasChild]
  · rw [if_neg (mt fits.mp hasChild), if_neg hasChild]

theorem percolateLoop_arranges (ranks : Ranks (less · ·)) (small : size < 2 ^ 30)
    (near : index < 2 ^ 30) (inside : size < elems.size) (positive : 1 ≤ first) {fuel : Nat}
    (fueled : 0 < fuel) (enough : size < fuel + index) (reached : first ≤ index)
    (room : index < elems.size)
    (sinking : Sinking (less · ·) first size index (Function.update (slots elems) index elem)) :
    ∃ elems', percolateLoop less size elem fuel elems index = some elems' ∧
      Arranges less first size elems (Function.update (slots elems) index elem) elems' := by
  induction fuel generalizing elems index with
  | zero => omega
  | succ fuel ih =>
      have stays : (∀ child, child / 2 = index → child ≤ size →
            ¬ less (slots elems child) elem = true) →
          ∃ elems', write elems index elem = some elems' ∧
            Arranges less first size elems (Function.update (slots elems) index elem) elems' := by
        intro stops
        obtain ⟨elems', written, capacity, filled⟩ := write_inside elem room
        refine ⟨elems', written, capacity, ?_, by rw [filled]⟩
        rw [filled]
        apply sinking.done
        intro child isChild childInside
        rw [Function.update_self, Function.update_of_ne (by omega)]
        exact stops child isChild childInside
      rw [percolateLoop_succ small near]
      by_cases hasChild : index * 2 ≤ size
      · obtain ⟨child, isChild, parent, childInside, least⟩ :=
          childOf_inside ranks small inside hasChild
        have value : elems[child]? = some (slots elems child) := read_inside (by omega)
        simp only [if_pos hasChild, isChild, value, Option.bind_eq_bind, Option.bind_some]
        by_cases before : less (slots elems child) elem = true
        · -- The child takes the place of the hole, and the hole moves down.
          obtain ⟨moved, written, capacity, filled⟩ := write_inside (slots elems child) room
          have next := sinking.step ranks positive reached parent childInside
            (by
              intro other isOther otherInside
              rw [Function.update_of_ne (by omega), Function.update_of_ne (by omega)]
              exact least other isOther otherInside)
            (by rwa [Function.update_self, Function.update_of_ne (by omega)])
          rw [← update_hole_move _ _ (by omega), ← filled] at next
          obtain ⟨elems', looped, arranges⟩ := ih (by omega) (by rw [capacity]; exact inside)
            (by omega) (by omega) (by omega) (by omega) next
          refine ⟨elems', ?_, arranges.capacity.trans capacity, arranges.ordered, ?_⟩
          · rw [if_pos before, written, Option.bind_some, looped]
          · rw [arranges.contents, filled, update_hole_move _ _ (by omega),
              contents_swap _ (by omega) (by omega) (by omega) childInside]
        · rw [if_neg before]
          refine stays fun other isOther otherInside first => ?_
          rcases ranks.between (slots elems child) first with after | after
          · exact least other isOther otherInside after
          · exact before after
      · rw [if_neg hasChild]
        exact stays fun child isChild childInside => by omega

theorem percolateDown_arranges (ranks : Ranks (less · ·)) (small : size < 2 ^ 30)
    (near : index < 2 ^ 30) (inside : size < elems.size) (positive : 1 ≤ index)
    (room : index < elems.size) (ordered : Ordered (less · ·) (index + 1) size (slots elems)) :
    ∃ elems', percolateDown less size elems index = some elems' ∧
      Arranges less index size elems (slots elems) elems' := by
  have sinking := ordered.sinking positive (slots elems index)
  obtain ⟨elems', looped, arranges⟩ := percolateLoop_arranges ranks small near inside positive
    (Nat.succ_pos size) (by omega) (Nat.le_refl index) room sinking
  rw [Function.update_eq_self] at arranges
  exact ⟨elems', by rw [percolateDown, read_inside room, Option.bind_eq_bind, Option.bind_some,
    looped], arranges⟩

theorem buildHeap_arranges (ranks : Ranks (less · ·)) (small : size < 2 ^ 30)
    (inside : size < elems.size) (reached : index ≤ size)
    (ordered : Ordered (less · ·) (index + 1) size (slots elems)) :
    ∃ elems', buildHeap less size index elems = some elems' ∧
      Arranges less 1 size elems (slots elems) elems' := by
  induction index generalizing elems with
  | zero => exact ⟨elems, rfl, rfl, ordered, rfl⟩
  | succ index ih =>
      obtain ⟨next, percolated, arranged⟩ :=
        percolateDown_arranges ranks small (by omega) inside (Nat.succ_pos index) (by omega)
          ordered
      obtain ⟨elems', built, arranges⟩ :=
        ih (by rw [arranged.capacity]; exact inside) (by omega) arranged.ordered
      refine ⟨elems', ?_, arranges.capacity.trans arranged.capacity, arranges.ordered,
        arranges.contents.trans arranged.contents⟩
      rw [buildHeap, percolated, Option.bind_eq_bind, Option.bind_some, built]

/-- Shifting the values behind the hole drops what was to fill it. -/
theorem shiftLoop_drops {count : Nat} (inside : size < elems.size) (positive : 1 ≤ index)
    (turns : index + count = size) (elem : T) :
    ∃ elems', shiftLoop count elems index = some elems' ∧ elems'.size = elems.size ∧
      elem ::ₘ contents (size - 1) (slots elems') =
        contents size (Function.update (slots elems) index elem) := by
  induction count generalizing elems index with
  | zero =>
      obtain ⟨shorter, rfl⟩ : ∃ shorter, size = shorter + 1 := ⟨size - 1, by omega⟩
      obtain rfl : index = shorter + 1 := turns
      refine ⟨elems, rfl, rfl, ?_⟩
      rw [contents_succ, Function.update_self, Nat.add_sub_cancel]
      congr 1
      exact contents_congr fun slot _ before => (Function.update_of_ne (by omega) ..).symm
  | succ count ih =>
      have next : elems[index + 1]? = some (slots elems (index + 1)) := read_inside (by omega)
      obtain ⟨moved, written, capacity, filled⟩ :=
        write_inside (slots elems (index + 1)) (show index < elems.size by omega)
      obtain ⟨elems', shifted, sameCapacity, dropped⟩ :=
        ih (by rw [capacity]; exact inside) (Nat.le_add_left 1 index) (by omega)
      refine ⟨elems', ?_, sameCapacity.trans capacity, ?_⟩
      · rw [shiftLoop, next, Option.bind_eq_bind, Option.bind_some, written, Option.bind_eq_bind,
          Option.bind_some, shifted]
      · rw [dropped, filled, update_hole_move _ _ (by omega),
          contents_swap _ positive (by omega) (by omega) (by omega)]

end

/-! ## The operations -/

section

variable {T : Type} [Inhabited T] {less less' : T → T → Bool} {heap : BinaryHeap T} {elem : T}

/-- The elements in the heap. -/
def members (heap : BinaryHeap T) : Multiset T := contents heap.size (slots heap.elems)

/-- What every operation relies on and keeps. -/
structure Valid (less : T → T → Bool) (heap : BinaryHeap T) : Prop where
  room : heap.size < heap.elems.size
  ordered : Ordered (less · ·) 1 heap.size (slots heap.elems)

/-- Only the comparisons of members matter. -/
theorem Valid.congr (valid : heap.Valid less)
    (agrees : ∀ left ∈ heap.members, ∀ right ∈ heap.members,
      less' left right = true → less left right = true) : heap.Valid less' where
  room := valid.room
  ordered := valid.ordered.congr (Nat.le_refl 1) (fun _ _ _ => rfl) agrees

theorem valid_new (capacity : Nat) : (new capacity : BinaryHeap T).Valid less where
  room := by
    simp only [new, Array.size_replicate]
    split <;> omega
  ordered := ordered_of_lt (by simp [new])

theorem members_new (capacity : Nat) : (new capacity : BinaryHeap T).members = 0 := rfl

theorem isEmpty_iff : heap.isEmpty = true ↔ heap.members = 0 := by
  rw [isEmpty, beq_iff_eq, members, ← Multiset.card_eq_zero]
  simp [contents]

theorem findTop_of_empty (empty : heap.members = 0) : heap.findTop = some none := by
  rw [findTop, if_pos (isEmpty_iff.mpr empty)]

theorem deleteTop_of_empty (empty : heap.members = 0) :
    heap.deleteTop less = some (heap, llbcFailed) := by
  rw [deleteTop, if_pos (isEmpty_iff.mpr empty)]

/-- The root is a first member. -/
theorem findTop_of_nonempty (ranks : Ranks (less · ·)) (valid : heap.Valid less)
    (nonempty : heap.members ≠ 0) :
    ∃ top, heap.findTop = some (some top) ∧ top ∈ heap.members ∧
      ∀ other ∈ heap.members, less other top = false := by
  have holds : ¬ heap.isEmpty = true := fun empty => nonempty (isEmpty_iff.mp empty)
  have positive : 1 ≤ heap.size := by
    rw [isEmpty, beq_iff_eq] at holds
    omega
  refine ⟨slots heap.elems 1, ?_, mem_contents.mpr ⟨1, Nat.le_refl 1, positive, rfl⟩, ?_⟩
  · rw [findTop, if_neg holds, read_inside (positive.trans_lt valid.room), Option.map_some]
  · exact fun other member => Bool.eq_false_iff.mpr (valid.ordered.least ranks member)

theorem slots_resize (elems : Array T) (count : Nat) :
    slots (elems ++ Array.replicate count default) = slots elems := by
  funext index
  simp only [slots, Array.getD_eq_getD_getElem?, Array.getElem?_append]
  split
  · rfl
  next outside =>
    rw [Array.getElem?_eq_none (Nat.le_of_not_lt outside), Array.getElem?_replicate]
    split <;> rfl

theorem insert_valid (ranks : Ranks (less · ·)) (valid : heap.Valid less) (elem : T) :
    ∃ heap', heap.insert less elem = some heap' ∧ heap'.Valid less ∧
      heap'.members = elem ::ₘ heap.members := by
  -- The vector that `Insert` goes on with holds the same and has room for one more.
  obtain ⟨elems, isElems, same, room⟩ : ∃ elems : Array T,
      (if heap.size + 1 = heap.elems.size then
        heap.elems ++ Array.replicate heap.elems.size default else heap.elems) = elems ∧
      slots elems = slots heap.elems ∧ heap.size + 1 < elems.size := by
    have inside := valid.room
    by_cases full : heap.size + 1 = heap.elems.size
    · refine ⟨_, if_pos full, slots_resize .., ?_⟩
      rw [Array.size_append, Array.size_replicate]
      omega
    · exact ⟨_, if_neg full, rfl, by omega⟩
  have rising : Rising (less · ·) (heap.size + 1) (heap.size + 1)
      (Function.update (slots elems) (heap.size + 1) elem) := by
    rw [same]
    exact valid.ordered.rising elem
  obtain ⟨elems', looped, arranges⟩ := insertLoop_arranges ranks room (Nat.le_refl _)
    (Nat.succ_pos heap.size) (Nat.le_refl _) rising
  refine ⟨⟨elems', heap.size + 1⟩, ?_, ⟨?_, arranges.ordered⟩, ?_⟩
  · simp only [insert, isElems, looped, Option.bind_eq_bind, Option.bind_some]
    rfl
  · rw [arranges.capacity]
    exact room
  · rw [members, arranges.contents, contents_succ, Function.update_self, same, members]
    congr 1
    exact contents_congr fun slot _ inside => Function.update_of_ne (by omega) ..

/-- `DeleteTop` removes the element that `FindTop` shows. -/
theorem deleteTop_valid (ranks : Ranks (less · ·)) (valid : heap.Valid less)
    (small : heap.size < 2 ^ 30) {top : T} (found : heap.findTop = some (some top)) :
    ∃ heap', heap.deleteTop less = some (heap', llbcOk) ∧ heap'.Valid less ∧
      heap.members = top ::ₘ heap'.members := by
  have room := valid.room
  have holds : ¬ heap.isEmpty = true := by
    intro empty
    rw [findTop, if_pos empty] at found
    cases found
  obtain ⟨size, isSize⟩ : ∃ size, heap.size = size + 1 := by
    rw [isEmpty, beq_iff_eq] at holds
    exact ⟨heap.size - 1, by omega⟩
  have isTop : slots heap.elems 1 = top := by
    rw [findTop, if_neg holds, read_inside (by omega), Option.map_some] at found
    exact Option.some.inj (Option.some.inj found)
  -- The last element takes the place of the first, also where there is only one.
  obtain ⟨moved, moves, capacity, placed⟩ : ∃ moved, heap.moveLast = some moved ∧
      moved.size = heap.elems.size ∧
      slots moved = Function.update (slots heap.elems) 1 (slots heap.elems (size + 1)) := by
    by_cases several : heap.size ≠ 1
    · rw [moveLast, if_pos several, read_inside room, Option.bind_eq_bind, Option.bind_some,
        isSize]
      exact write_inside _ (by omega)
    · obtain rfl : size = 0 := by omega
      exact ⟨heap.elems, if_neg several, rfl, (Function.update_eq_self ..).symm⟩
  obtain ⟨cleared, clears, sameCapacity, emptied⟩ :=
    write_inside (default : T) (show heap.size < moved.size by omega)
  have below : ∀ slot, slot ≤ size → slots cleared slot = slots moved slot := fun slot inside => by
    rw [emptied, Function.update_of_ne (by omega)]
  obtain ⟨elems', percolated, arranges⟩ := percolateDown_arranges ranks
    (show size < 2 ^ 30 by omega) (show 1 < 2 ^ 30 by omega) (show size < cleared.size by omega)
    (Nat.le_refl 1) (by omega) (by
      intro slot isChild inside
      rw [below slot inside, below (slot / 2) (by omega), placed, Function.update_of_ne (by omega),
        Function.update_of_ne (by omega)]
      exact valid.ordered slot (by omega) (by omega))
  refine ⟨⟨elems', size⟩, ?_, ⟨?_, arranges.ordered⟩, ?_⟩
  · rw [isSize] at clears
    simp only [deleteTop, if_neg holds, moves, isSize, clears, Nat.add_sub_cancel, percolated,
      Option.bind_eq_bind, Option.bind_some]
    rfl
  · rw [arranges.capacity]
    show size < cleared.size
    omega
  · rw [members, members, isSize, arranges.contents, contents_congr fun slot _ => below slot,
      placed, ← isTop, contents_move_last]

/-- `DeleteElem` by index removes the element there. -/
theorem deleteAt_valid (ranks : Ranks (less · ·)) (valid : heap.Valid less)
    (small : heap.size < 2 ^ 30) {index : Nat} (positive : 1 ≤ index) (inside : index ≤ heap.size) :
    ∃ heap', heap.deleteAt less index = some (heap', llbcOk) ∧ heap'.Valid less ∧
      heap.members = slots heap.elems index ::ₘ heap'.members := by
  have room := valid.room
  obtain ⟨shifted, shifts, capacity, dropped⟩ := shiftLoop_drops room positive
    (Nat.add_sub_cancel' inside) (slots heap.elems index)
  rw [Function.update_eq_self] at dropped
  obtain ⟨elems', built, arranges⟩ := buildHeap_arranges ranks
    (show heap.size - 1 < 2 ^ 30 by omega) (show heap.size - 1 < shifted.size by omega)
    (Nat.div_le_self (heap.size - 1) 2) (ordered_of_lt (by omega))
  refine ⟨⟨elems', heap.size - 1⟩, ?_, ⟨?_, arranges.ordered⟩, ?_⟩
  · have holds : ¬ heap.isEmpty = true := by
      rw [isEmpty, beq_iff_eq]
      omega
    simp only [deleteAt, if_neg holds, if_neg (show ¬ (index = 0 ∨ heap.size < index) by omega),
      shifts, built, Option.bind_eq_bind, Option.bind_some]
    rfl
  · rw [arranges.capacity]
    show heap.size - 1 < shifted.size
    omega
  · rw [members, ← dropped, members, arranges.contents]

variable [DecidableEq T]

/-- The search finds the element among those it has not looked at. -/
theorem searchLoop_valid (ranks : Ranks (less · ·)) (valid : heap.Valid less)
    (small : heap.size < 2 ^ 30) {count index : Nat} (positive : 1 ≤ index)
    (turns : index + count = heap.size + 1)
    (ahead : ∃ slot, index ≤ slot ∧ slot ≤ heap.size ∧ slots heap.elems slot = elem) :
    ∃ heap', heap.searchLoop less elem count index = some (heap', llbcOk) ∧ heap'.Valid less ∧
      heap.members = elem ::ₘ heap'.members := by
  induction count generalizing index with
  | zero =>
      obtain ⟨slot, reached, inside, _⟩ := ahead
      omega
  | succ count ih =>
      have room := valid.room
      have here : heap.elems[index]? = some (slots heap.elems index) := read_inside (by omega)
      rw [searchLoop, here, Option.bind_eq_bind, Option.bind_some]
      by_cases isHere : slots heap.elems index = elem
      · rw [if_pos isHere, ← isHere]
        exact deleteAt_valid ranks valid small positive (by omega)
      · rw [if_neg isHere]
        refine ih (by omega) (by omega) ?_
        obtain ⟨slot, reached, inside, isThere⟩ := ahead
        refine ⟨slot, ?_, inside, isThere⟩
        rcases Nat.eq_or_lt_of_le reached with rfl | further
        · exact absurd isThere isHere
        · exact further

theorem deleteElem_valid (ranks : Ranks (less · ·)) (valid : heap.Valid less)
    (small : heap.size < 2 ^ 30) (member : elem ∈ heap.members) :
    ∃ heap', heap.deleteElem less elem = some (heap', llbcOk) ∧ heap'.Valid less ∧
      heap.members = elem ::ₘ heap'.members :=
  searchLoop_valid ranks valid small (Nat.le_refl 1) (Nat.add_comm ..) (mem_contents.mp member)

theorem searchLoop_missing (valid : heap.Valid less) (missing : elem ∉ heap.members)
    {count index : Nat} (positive : 1 ≤ index) (turns : index + count = heap.size + 1) :
    heap.searchLoop less elem count index = some (heap, llbcFailed) := by
  induction count generalizing index with
  | zero => rfl
  | succ count ih =>
      have room := valid.room
      have here : heap.elems[index]? = some (slots heap.elems index) := read_inside (by omega)
      have different : slots heap.elems index ≠ elem := fun same =>
        missing (mem_contents.mpr ⟨index, positive, by omega, same⟩)
      rw [searchLoop, here, Option.bind_eq_bind, Option.bind_some, if_neg different]
      exact ih (by omega) (by omega)

/-- An element that is not there is not found, and nothing changes. -/
theorem deleteElem_missing (valid : heap.Valid less) (missing : elem ∉ heap.members) :
    heap.deleteElem less elem = some (heap, llbcFailed) :=
  searchLoop_missing valid missing (Nat.le_refl 1) (Nat.add_comm ..)

end

/-! ## Runs of the heap -/

section

variable {T : Type} [Inhabited T] [DecidableEq T] {less : T → T → Bool} {heap : BinaryHeap T}

/-- An operation that changes the heap. -/
inductive Op (T : Type) where
  | insert (elem : T)
  | deleteTop
  | deleteElem (elem : T)
deriving DecidableEq, Repr

def apply (less : T → T → Bool) (heap : BinaryHeap T) : Op T → Option (BinaryHeap T)
  | .insert elem => heap.insert less elem
  | .deleteTop => (heap.deleteTop less).map Prod.fst
  | .deleteElem elem => (heap.deleteElem less elem).map Prod.fst

/-- The heap as a machine; it faults where an operation leaves the vector. -/
def machine (less : T → T → Bool) : Machine (BinaryHeap T) (Op T) Unit where
  step heap op := (heap.apply less op).elim (.error ()) .ok

/-- The operations are those of a priority queue. -/
structure Serves (less : T → T → Bool) (heap : BinaryHeap T) : Prop where
  inserts : ∀ elem, ∃ heap', heap.insert less elem = some heap' ∧
    heap'.members = elem ::ₘ heap.members
  empty : heap.members = 0 →
    heap.findTop = some none ∧ heap.deleteTop less = some (heap, llbcFailed)
  top : heap.members ≠ 0 → ∃ top heap', heap.findTop = some (some top) ∧
    (∀ other ∈ heap.members, less other top = false) ∧
    heap.deleteTop less = some (heap', llbcOk) ∧ heap.members = top ::ₘ heap'.members
  deletes : ∀ elem ∈ heap.members, ∃ heap', heap.deleteElem less elem = some (heap', llbcOk) ∧
    heap.members = elem ::ₘ heap'.members
  missing : ∀ elem, elem ∉ heap.members →
    heap.deleteElem less elem = some (heap, llbcFailed)

theorem Valid.serves (ranks : Ranks (less · ·)) (valid : heap.Valid less)
    (small : heap.size < 2 ^ 30) : heap.Serves less where
  inserts elem := by
    obtain ⟨heap', inserted, _, members⟩ := insert_valid ranks valid elem
    exact ⟨heap', inserted, members⟩
  empty none := ⟨findTop_of_empty none, deleteTop_of_empty none⟩
  top nonempty := by
    obtain ⟨top, found, _, least⟩ := findTop_of_nonempty ranks valid nonempty
    obtain ⟨heap', deleted, _, members⟩ := deleteTop_valid ranks valid small found
    exact ⟨top, heap', found, least, deleted, members⟩
  deletes elem member := by
    obtain ⟨heap', deleted, _, members⟩ := deleteElem_valid ranks valid small member
    exact ⟨heap', deleted, members⟩
  missing elem := deleteElem_missing valid

theorem Valid.step (ranks : Ranks (less · ·)) (valid : heap.Valid less)
    (small : heap.size < 2 ^ 30) (op : Op T) :
    ∃ heap', (machine less).step heap op = .ok heap' ∧ heap'.Valid less := by
  cases op with
  | insert elem =>
      obtain ⟨heap', inserted, valid', _⟩ := insert_valid ranks valid elem
      exact ⟨heap', by simp only [machine, apply, inserted, Option.elim_some], valid'⟩
  | deleteTop =>
      by_cases empty : heap.members = 0
      · exact ⟨heap, by simp only [machine, apply, deleteTop_of_empty empty, Option.map_some,
          Option.elim_some], valid⟩
      · obtain ⟨top, found, _⟩ := findTop_of_nonempty ranks valid empty
        obtain ⟨heap', deleted, valid', _⟩ := deleteTop_valid ranks valid small found
        exact ⟨heap', by simp only [machine, apply, deleted, Option.map_some, Option.elim_some],
          valid'⟩
  | deleteElem elem =>
      by_cases member : elem ∈ heap.members
      · obtain ⟨heap', deleted, valid', _⟩ := deleteElem_valid ranks valid small member
        exact ⟨heap', by simp only [machine, apply, deleted, Option.map_some, Option.elim_some],
          valid'⟩
      · exact ⟨heap, by simp only [machine, apply, deleteElem_missing valid member,
          Option.map_some, Option.elim_some], valid⟩

/-- However the operations are mixed, from an empty heap of any capacity and with fewer than
2³⁰ elements at any time, none of them leaves the vector and each acts as on a priority
queue. -/
theorem heap_is_priority_queue (ranks : Ranks (less · ·)) {capacity : Nat}
    (run : (machine less).Run (fun heap _ => heap.size < 2 ^ 30) (new capacity) heap)
    (small : heap.size < 2 ^ 30) :
    heap.Serves less ∧ ∀ op fault, (machine less).step heap op ≠ .error fault := by
  have valid : heap.Valid less := run.invariant (Valid less) (valid_new capacity) <| by
    intro before op after valid small taken
    obtain ⟨heap', reached, valid'⟩ := valid.step ranks small op
    rw [taken] at reached
    exact Except.ok.inj reached ▸ valid'
  refine ⟨valid.serves ranks small, fun op fault failed => ?_⟩
  obtain ⟨heap', reached, _⟩ := valid.step ranks small op
  rw [failed] at reached
  cases reached

theorem three_numbers_served :
    let less : Nat → Nat → Bool := fun left right => decide (left < right)
    let heap := ((machine less).replay (fun heap _ => decide (heap.size < 2 ^ 30)) (new 1)
      [.insert 3, .insert 1, .insert 2, .deleteElem 1, .deleteTop]).get (by decide +kernel)
    heap.findTop = some (some 3) ∧ heap.Serves less :=
  ⟨by decide +kernel, (heap_is_priority_queue (ranks_of_key id)
    (.of_replay (fun _ _ passes => of_decide_eq_true passes) (Option.some_get _).symm)
    (by decide +kernel)).1⟩

end

end BinaryHeap

end LibcoRpc.Timer
