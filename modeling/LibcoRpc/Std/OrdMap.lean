import Mathlib.Order.Lattice
import Mathlib.Data.List.Sort

/-!
# Ordered maps

An ordered map keeps its entries in a list with strictly increasing keys, which
is the iteration order of a tree map. `emplace` keeps an entry that is already
there, `assign` replaces it, and `next` is the position an iterator moves to.
Lookups decide everything the other modules need: `find_emplace`, `find_assign`
and `find_erase` say what each update does to every key, `first_le` and `next_le` that an
iterator leaves no key out.
-/

namespace LibcoRpc.Std

/-- Entries sorted by strictly increasing key. -/
structure OrdMap (κ : Type) (α : Type) [LinearOrder κ] where
  entries : List (κ × α)
  sorted : entries.Pairwise fun left right => left.1 < right.1

namespace OrdMap

variable {κ α : Type} [LinearOrder κ]

/-- First value stored under a key. -/
def lookup (key : κ) : List (κ × α) → Option α
  | [] => none
  | entry :: rest => if entry.1 = key then some entry.2 else lookup key rest

/-- Put an entry at its place; `replace` decides which value survives a clash. -/
def insertWith (replace : Bool) (key : κ) (value : α) : List (κ × α) → List (κ × α)
  | [] => [(key, value)]
  | entry :: rest =>
      if key < entry.1 then (key, value) :: entry :: rest
      else if key = entry.1 then (key, if replace then value else entry.2) :: rest
      else entry :: insertWith replace key value rest

theorem mem_insertWith {replace : Bool} {key : κ} {value : α} {entries : List (κ × α)}
    {entry : κ × α} (member : entry ∈ insertWith replace key value entries) :
    entry.1 = key ∨ entry ∈ entries := by
  induction entries with
  | nil =>
      simp only [insertWith, List.mem_singleton] at member
      exact .inl (by rw [member])
  | cons head rest ih =>
      simp only [insertWith] at member
      split at member
      · rcases List.mem_cons.mp member with rfl | member
        · exact .inl rfl
        · exact .inr member
      · split at member
        · rcases List.mem_cons.mp member with rfl | member
          · exact .inl rfl
          · exact .inr (List.mem_cons_of_mem _ member)
        · rcases List.mem_cons.mp member with rfl | member
          · exact .inr List.mem_cons_self
          · rcases ih member with same | member
            · exact .inl same
            · exact .inr (List.mem_cons_of_mem _ member)

theorem insertWith_sorted (replace : Bool) (key : κ) (value : α) {entries : List (κ × α)}
    (sorted : entries.Pairwise fun left right => left.1 < right.1) :
    (insertWith replace key value entries).Pairwise fun left right => left.1 < right.1 := by
  induction entries with
  | nil => simp [insertWith]
  | cons head rest ih =>
      obtain ⟨below, restSorted⟩ := List.pairwise_cons.mp sorted
      simp only [insertWith]
      split
      next before =>
        refine List.pairwise_cons.mpr ⟨fun entry member => ?_, sorted⟩
        rcases List.mem_cons.mp member with rfl | member
        · exact before
        · exact lt_trans before (below entry member)
      next notBefore =>
        split
        next same =>
          refine List.pairwise_cons.mpr ⟨fun entry member => ?_, restSorted⟩
          exact same ▸ below entry member
        next different =>
          refine List.pairwise_cons.mpr ⟨fun entry member => ?_, ih restSorted⟩
          rcases mem_insertWith member with same | member
          · rw [same]
            exact lt_of_le_of_ne (not_lt.mp notBefore) (Ne.symm different)
          · exact below entry member

/-- A lookup after an insertion: at the key itself the surviving value, elsewhere
what was there. -/
theorem lookup_insertWith (replace : Bool) (key other : κ) (value : α)
    (entries : List (κ × α)) (sorted : entries.Pairwise fun left right => left.1 < right.1) :
    lookup other (insertWith replace key value entries) =
      if other = key then
        some (if replace then value else (lookup key entries).getD value)
      else lookup other entries := by
  induction entries with
  | nil =>
      by_cases same : key = other
      · simp [insertWith, lookup, same]
      · simp [insertWith, lookup, same, Ne.symm same]
  | cons head rest ih =>
      obtain ⟨below, restSorted⟩ := List.pairwise_cons.mp sorted
      simp only [insertWith]
      split
      next before =>
        -- The key is below every entry, so it was not there before.
        have absent : lookup key (head :: rest) = none := by
          have none_of_below : ∀ tail : List (κ × α), (∀ entry ∈ tail, key < entry.1) →
              lookup key tail = none := by
            intro tail above
            induction tail with
            | nil => rfl
            | cons entry tail ih =>
                have strict := above entry List.mem_cons_self
                simp only [lookup, if_neg (ne_of_gt strict)]
                exact ih fun entry member => above entry (List.mem_cons_of_mem _ member)
          apply none_of_below
          intro entry member
          rcases List.mem_cons.mp member with rfl | member
          · exact before
          · exact lt_trans before (below entry member)
        by_cases same : other = key
        · subst same
          rw [absent]
          simp [lookup]
        · simp [lookup, Ne.symm same, same]
      next notBefore =>
        split
        next same =>
          by_cases otherSame : other = key
          · subst otherSame
            cases replace <;> simp [lookup, same]
          · have notHead : head.1 ≠ other := fun equal => otherSame (equal ▸ same ▸ rfl)
            simp [lookup, otherSame, Ne.symm otherSame, notHead]
        next different =>
          have ih := ih restSorted
          by_cases atHead : head.1 = other
          · have notKey : other ≠ key := fun equal => different (equal ▸ atHead.symm ▸ rfl)
            simp [lookup, atHead, notKey]
          · simp only [lookup, if_neg atHead, ih, if_neg (Ne.symm different)]

/-- The empty map. -/
def empty : OrdMap κ α := ⟨[], List.Pairwise.nil⟩

/-- The value stored under a key. -/
def find (map : OrdMap κ α) (key : κ) : Option α := lookup key map.entries

/-- Insert unless the key is taken; the old entry survives a clash. -/
def emplace (map : OrdMap κ α) (key : κ) (value : α) : OrdMap κ α :=
  ⟨insertWith false key value map.entries, insertWith_sorted _ _ _ map.sorted⟩

/-- Insert or replace. -/
def assign (map : OrdMap κ α) (key : κ) (value : α) : OrdMap κ α :=
  ⟨insertWith true key value map.entries, insertWith_sorted _ _ _ map.sorted⟩

/-- Remove the entry of a key, if any. -/
def erase (map : OrdMap κ α) (key : κ) : OrdMap κ α :=
  ⟨map.entries.filter fun entry => entry.1 ≠ key, map.sorted.filter _⟩

/-- The entry an iterator starts at. -/
def first (map : OrdMap κ α) : Option (κ × α) := map.entries.head?

/-- The entry an iterator moves to from `key`. -/
def next (map : OrdMap κ α) (key : κ) : Option (κ × α) :=
  map.entries.find? fun entry => key < entry.1

/-- The stored values, in key order. -/
def values (map : OrdMap κ α) : List α := map.entries.map Prod.snd

@[simp] theorem find_empty (key : κ) : (empty : OrdMap κ α).find key = none := rfl

theorem find_emplace (map : OrdMap κ α) (key other : κ) (value : α) :
    (map.emplace key value).find other =
      if other = key then some ((map.find key).getD value) else map.find other := by
  simpa [find, emplace] using lookup_insertWith false key other value map.entries map.sorted

theorem find_assign (map : OrdMap κ α) (key other : κ) (value : α) :
    (map.assign key value).find other =
      if other = key then some value else map.find other := by
  simpa [find, assign] using lookup_insertWith true key other value map.entries map.sorted

theorem find_erase (map : OrdMap κ α) (key other : κ) :
    (map.erase key).find other = if other = key then none else map.find other := by
  obtain ⟨entries, sorted⟩ := map
  simp only [find, erase]
  clear sorted
  induction entries with
  | nil => simp [lookup]
  | cons head rest ih =>
      by_cases atKey : head.1 = key
      · rw [List.filter_cons_of_neg (by simp [atKey]), ih]
        by_cases same : other = key
        · simp [same]
        · have notHead : head.1 ≠ other := fun equal => same (equal ▸ atKey)
          simp [lookup, same, notHead]
      · rw [List.filter_cons_of_pos (by simp [atKey])]
        by_cases atHead : head.1 = other
        · have notKey : other ≠ key := fun equal => atKey (equal ▸ atHead)
          simp [lookup, atHead, notKey]
        · simp only [lookup, if_neg atHead, ih]

/-- An entry is in the list exactly when a lookup returns it. -/
theorem mem_entries_iff (map : OrdMap κ α) (key : κ) (value : α) :
    (key, value) ∈ map.entries ↔ map.find key = some value := by
  obtain ⟨entries, sorted⟩ := map
  simp only [find]
  induction entries with
  | nil => simp [lookup]
  | cons head rest ih =>
      obtain ⟨below, restSorted⟩ := List.pairwise_cons.mp sorted
      have ih := ih restSorted
      by_cases atHead : head.1 = key
      · simp only [lookup, if_pos atHead, Option.some.injEq]
        constructor
        · intro member
          rcases List.mem_cons.mp member with equal | member
          · rw [← equal]
          · exact absurd (below _ member) (by simp [atHead])
        · intro equal
          have : head = (key, value) := Prod.ext atHead equal
          rw [this]
          exact List.mem_cons_self
      · simp only [lookup, if_neg atHead, ← ih]
        constructor
        · intro member
          rcases List.mem_cons.mp member with equal | member
          · exact absurd (congrArg Prod.fst equal).symm atHead
          · exact member
        · exact List.mem_cons_of_mem _

theorem mem_values_iff (map : OrdMap κ α) (value : α) :
    value ∈ map.values ↔ ∃ key, map.find key = some value := by
  simp only [values, List.mem_map, Prod.exists, exists_eq_right, mem_entries_iff]

/-- A map whose values know their keys holds no value twice. -/
theorem values_nodup (map : OrdMap κ α) (keyOf : α → κ)
    (keyed : ∀ key value, map.find key = some value → keyOf value = key) : map.values.Nodup := by
  have keyedEntries : ∀ entry ∈ map.entries, keyOf entry.2 = entry.1 := fun entry member =>
    keyed entry.1 entry.2 ((mem_entries_iff map entry.1 entry.2).mp member)
  have distinct : map.entries.Pairwise fun left right => left.2 ≠ right.2 := by
    refine map.sorted.imp_of_mem fun {left right} leftMember rightMember before same => ?_
    rw [← keyedEntries left leftMember, same, keyedEntries right rightMember] at before
    exact lt_irrefl _ before
  exact List.pairwise_map.mpr distinct

/-! ## Equality -/

theorem eq_empty {map : OrdMap κ α} (none : map.entries.isEmpty = true) : map = .empty := by
  cases map
  rw [List.isEmpty_iff] at none
  cases none
  rfl

theorem emplace_nonempty (map : OrdMap κ α) (key : κ) (value : α) :
    ¬ (map.emplace key value).entries.isEmpty = true := by
  intro none
  have found := find_emplace map key key value
  rw [eq_empty none, if_pos rfl] at found
  cases found

/-- Lookups determine a map. -/
theorem ext_find {left right : OrdMap κ α} (same : ∀ key, left.find key = right.find key) :
    left = right := by
  have entries : ∀ entry, entry ∈ left.entries ↔ entry ∈ right.entries := fun entry => by
    rw [mem_entries_iff left entry.1 entry.2, mem_entries_iff right entry.1 entry.2, same]
  have irreflexive : Std.Irrefl fun left right : κ × α => left.1 < right.1 :=
    ⟨fun entry => lt_irrefl entry.1⟩
  have antisymmetric : Std.Antisymm fun left right : κ × α => left.1 < right.1 :=
    ⟨fun _ _ before after => absurd before (lt_asymm after)⟩
  have equal := left.sorted.eq_of_mem_iff right.sorted entries
  cases left
  cases right
  congr

/-- Entries of different keys can be put in either order. -/
theorem emplace_comm (map : OrdMap κ α) {key other : κ} (different : other ≠ key)
    (value another : α) : (map.emplace key value).emplace other another =
      (map.emplace other another).emplace key value := by
  apply ext_find
  intro asked
  simp only [find_emplace, if_neg different, if_neg (Ne.symm different)]
  split_ifs with isOther isKey
  · exact absurd (isOther.symm.trans isKey) different
  all_goals rfl

/-- Putting in a new entry and taking it out again changes nothing. -/
theorem erase_emplace (map : OrdMap κ α) {key : κ} (absent : map.find key = none) (value : α) :
    (map.emplace key value).erase key = map := by
  apply ext_find
  intro asked
  rw [find_erase, find_emplace]
  split_ifs with isKey
  · rw [isKey, absent]
  · rfl

/-- A new entry adds its value to the values there are. -/
theorem values_emplace [DecidableEq α] (map : OrdMap κ α) {key : κ} {value : α}
    (absent : map.find key = none) (new : ∀ other, map.find other ≠ some value) :
    (map.emplace key value).values.filter (· ≠ value) = map.values := by
  have others : ∀ entry ∈ map.entries, entry.1 ≠ key ∧ entry.2 ≠ value := by
    intro entry member
    have found := (mem_entries_iff map entry.1 entry.2).mp member
    constructor
    · rintro rfl
      rw [absent] at found
      cases found
    · rintro rfl
      exact new _ found
  simp only [values, emplace]
  generalize map.entries = entries at others
  induction entries with
  | nil => simp [insertWith]
  | cons head rest ih =>
      obtain ⟨here, later⟩ := List.forall_mem_cons.mp others
      have kept : (rest.map Prod.snd).filter (· ≠ value) = rest.map Prod.snd := by
        simpa [List.filter_eq_self] using fun other key member => (later (key, other) member).2
      simp only [insertWith, if_neg here.1.symm]
      split_ifs
      · simpa [here.2] using kept
      · simpa [here.2] using ih later

/-! ## Iteration -/

theorem find_of_first {map : OrdMap κ α} {entry : κ × α} (starts : map.first = some entry) :
    map.find entry.1 = some entry.2 :=
  (mem_entries_iff map _ _).mp (List.mem_of_mem_head? starts)

theorem find_of_next {map : OrdMap κ α} {key : κ} {entry : κ × α}
    (moves : map.next key = some entry) : map.find entry.1 = some entry.2 :=
  (mem_entries_iff map _ _).mp (List.mem_of_find?_eq_some moves)

/-- An iterator starts at or before every entry. -/
theorem first_le {map : OrdMap κ α} {key : κ} {value : α} (found : map.find key = some value) :
    ∃ entry, map.first = some entry ∧ entry.1 ≤ key := by
  have member := (mem_entries_iff map _ _).mpr found
  obtain ⟨entries, sorted⟩ := map
  cases entries with
  | nil => cases member
  | cons head rest =>
      refine ⟨head, rfl, ?_⟩
      rcases List.mem_cons.mp member with isHead | later
      · rw [← isHead]
      · exact le_of_lt ((List.pairwise_cons.mp sorted).1 _ later)

/-- An iterator does not move past an entry. -/
theorem next_le {map : OrdMap κ α} {key other : κ} {value : α}
    (found : map.find other = some value) (after : key < other) :
    ∃ entry, map.next key = some entry ∧ entry.1 ≤ other := by
  have member := (mem_entries_iff map _ _).mpr found
  have moves : (map.next key).isSome = true :=
    List.find?_isSome.mpr ⟨_, member, by simpa using after⟩
  obtain ⟨entry, moved⟩ := Option.isSome_iff_exists.mp moves
  refine ⟨entry, moved, ?_⟩
  obtain ⟨_, skipped, left, split, passed⟩ := List.find?_eq_some_iff_append.mp moved
  have sorted := map.sorted
  rw [split] at member sorted
  rcases List.mem_append.mp member with earlier | here
  · have notAfter := passed _ earlier
    simp [after] at notAfter
  · rcases List.mem_cons.mp here with isEntry | later
    · rw [← isEntry]
    · exact le_of_lt ((List.pairwise_cons.mp (List.pairwise_append.mp sorted).2.1).1 _ later)

end OrdMap
end LibcoRpc.Std
