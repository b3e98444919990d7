import Mathlib.Data.Int.DivMod

/-!
# Positions on a ring

A counter that only grows, seen through a ring of slots. Two counters less than a full
turn apart never share a slot, and their distance can be read off the slots.
-/

namespace LibcoRpc.Std.Ring

/-- The slot of a position. -/
def slot (capacity position : Nat) : Int := (position % capacity : Nat)

/-- How far the slot `ahead` is from the slot `behind`, going forward. -/
def distance (capacity : Nat) (ahead behind : Int) : Int :=
  if ahead - behind < 0 then ahead - behind + capacity else ahead - behind

variable {capacity behind ahead : Nat}

theorem slot_nonneg (position : Nat) : 0 ≤ slot capacity position := Int.natCast_nonneg _

theorem slot_lt (positive : 0 < capacity) (position : Nat) :
    slot capacity position < capacity :=
  Int.ofNat_lt.mpr (Nat.mod_lt position positive)

/-- The slot after the slot of a position is the slot of the next position. -/
theorem slot_succ (position : Nat) :
    (slot capacity position + 1).tmod capacity = slot capacity (position + 1) := by
  have step : slot capacity position + 1 = ((position % capacity + 1 : Nat) : Int) := by
    simp [slot]
  rw [step, ← Int.ofNat_tmod, slot, Nat.mod_add_mod]

/-- Positions less than a turn apart have slots of their own. -/
theorem slot_ne (before : behind < ahead) (near : ahead < behind + capacity) :
    slot capacity behind ≠ slot capacity ahead := by
  intro same
  have sameNat : ahead % capacity = behind % capacity := (Int.ofNat_inj.mp same).symm
  have turns := Nat.sub_mod_eq_zero_of_mod_eq sameNat
  rw [Nat.mod_eq_of_lt (by omega)] at turns
  omega

/-- The slots tell how far apart two positions are. -/
theorem distance_slot (behindAhead : behind ≤ ahead) (near : ahead < behind + capacity) :
    distance capacity (slot capacity ahead) (slot capacity behind) =
      ((ahead - behind : Nat) : Int) := by
  have positive : 0 < capacity := by omega
  have aheadLt := Nat.mod_lt ahead positive
  have behindLt := Nat.mod_lt behind positive
  have aheadIs := Nat.div_add_mod ahead capacity
  have behindIs := Nat.div_add_mod behind capacity
  -- Less than a turn apart, the two are in the same turn or in consecutive ones.
  have turns : ahead / capacity = behind / capacity ∨
      ahead / capacity = behind / capacity + 1 := by
    have atLeast : behind / capacity ≤ ahead / capacity := Nat.div_le_div_right behindAhead
    have atMost : ahead / capacity < behind / capacity + 2 := by
      apply Nat.div_lt_of_lt_mul
      rw [Nat.mul_add]
      omega
    omega
  unfold distance slot
  rcases turns with same | next
  · rw [same] at aheadIs
    split <;> omega
  · rw [next, Nat.mul_add] at aheadIs
    split <;> omega

end LibcoRpc.Std.Ring
