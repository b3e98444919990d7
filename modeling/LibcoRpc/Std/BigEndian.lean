import LibcoRpc.Std.Decimal
import Mathlib.Data.List.Induction
import Mathlib.Data.Nat.Digits.Defs

/-!
# Integers in network byte order

Numbers of a fixed number of bytes, most significant byte first. An unsigned number is
written modulo its width, and a signed one as its two's complement.
-/

namespace LibcoRpc.Std

/-- The lowest `count` bytes of a number, most significant first. -/
def bigEndian : Nat → Nat → List (Fin 256)
  | 0, _ => []
  | count + 1, value => bigEndian count (value / 256) ++ [Fin.ofNat 256 value]

/-- The number that bytes stand for, most significant first. -/
def ofBigEndian (bytes : List (Fin 256)) : Nat :=
  Nat.ofDigits 256 (bytes.reverse.map Fin.val)

/-- The bytes of a signed number. -/
def bigEndianInt (count : Nat) (value : Int) : List (Fin 256) :=
  bigEndian count (value % 256 ^ count).toNat

/-- The signed number that bytes stand for. -/
def ofBigEndianInt (bytes : List (Fin 256)) : Int :=
  (ofBigEndian bytes : Int).bmod (256 ^ bytes.length)

@[simp] theorem length_bigEndian (count value : Nat) : (bigEndian count value).length = count := by
  induction count generalizing value with
  | zero => rfl
  | succ count ih => simp [bigEndian, ih]

@[simp] theorem length_bigEndianInt (count : Nat) (value : Int) :
    (bigEndianInt count value).length = count := length_bigEndian _ _

theorem ofBigEndian_concat (bytes : List (Fin 256)) (byte : Fin 256) :
    ofBigEndian (bytes ++ [byte]) = byte.val + 256 * ofBigEndian bytes := by
  simp [ofBigEndian, Nat.ofDigits_cons]

/-- A number is read back modulo its width. -/
@[simp] theorem ofBigEndian_bigEndian (count value : Nat) :
    ofBigEndian (bigEndian count value) = value % 256 ^ count := by
  induction count generalizing value with
  | zero => simp [bigEndian, ofBigEndian, Nat.mod_one]
  | succ count ih =>
      rw [bigEndian, ofBigEndian_concat, ih, pow_succ', Nat.mod_mul]
      rfl

theorem ofBigEndian_lt (bytes : List (Fin 256)) : ofBigEndian bytes < 256 ^ bytes.length := by
  have small : ∀ digit ∈ bytes.reverse.map Fin.val, digit < 256 := by
    intro digit member
    obtain ⟨byte, _, rfl⟩ := List.mem_map.mp member
    exact byte.isLt
  simpa [ofBigEndian] using Nat.ofDigits_lt_base_pow_length (by decide) small

/-- Bytes are written back. -/
theorem bigEndian_ofBigEndian (bytes : List (Fin 256)) :
    bigEndian bytes.length (ofBigEndian bytes) = bytes := by
  induction bytes using List.reverseRecOn with
  | nil => rfl
  | append_singleton bytes byte ih =>
      have high : (byte.val + 256 * ofBigEndian bytes) / 256 = ofBigEndian bytes := by omega
      have low : Fin.ofNat 256 (byte.val + 256 * ofBigEndian bytes) = byte := by
        apply Fin.ext
        simp only [Fin.ofNat]
        omega
      rw [List.length_append, List.length_singleton, bigEndian, ofBigEndian_concat, high, low, ih]

/-- The unsigned number behind the bytes of a signed one. -/
@[simp] theorem ofBigEndian_bigEndianInt (count : Nat) (value : Int) :
    (ofBigEndian (bigEndianInt count value) : Int) = value % 256 ^ count := by
  have positive : (0 : Int) < (256 : Int) ^ count := by positivity
  have nonneg := Int.emod_nonneg value (ne_of_gt positive)
  rw [bigEndianInt, ofBigEndian_bigEndian]
  push_cast
  rw [Int.toNat_of_nonneg nonneg, Int.emod_emod_of_dvd _ (dvd_refl _)]

/-- A signed number is read back modulo its width. -/
@[simp] theorem ofBigEndianInt_bigEndianInt (count : Nat) (value : Int) :
    ofBigEndianInt (bigEndianInt count value) = value.bmod (256 ^ count) := by
  rw [ofBigEndianInt, ofBigEndian_bigEndianInt, length_bigEndianInt]
  exact_mod_cast Int.emod_bmod value (256 ^ count)

/-- The bytes of a natural number, written as a signed one. -/
theorem bigEndianInt_natCast (count value : Nat) :
    bigEndianInt count value = bigEndian count (value % 256 ^ count) := by
  have cast : ((value : Int) % 256 ^ count).toNat = value % 256 ^ count := by
    rw [show (256 : Int) ^ count = ((256 ^ count : Nat) : Int) by push_cast; rfl,
      ← Int.natCast_emod, Int.toNat_natCast]
  rw [bigEndianInt, cast]

/-- Bytes read as an unsigned number are written back, also as a signed one. -/
theorem bigEndianInt_ofBigEndian (bytes : List (Fin 256)) :
    bigEndianInt bytes.length (ofBigEndian bytes) = bytes := by
  rw [bigEndianInt_natCast, Nat.mod_eq_of_lt (ofBigEndian_lt bytes), bigEndian_ofBigEndian]

/-- Bytes read as a signed number are written back. -/
theorem bigEndianInt_ofBigEndianInt (bytes : List (Fin 256)) :
    bigEndianInt bytes.length (ofBigEndianInt bytes) = bytes := by
  have pattern : (ofBigEndianInt bytes % 256 ^ bytes.length).toNat = ofBigEndian bytes := by
    rw [ofBigEndianInt,
      show (256 : Int) ^ bytes.length = ((256 ^ bytes.length : Nat) : Int) by push_cast; rfl,
      Int.bmod_emod, ← Int.natCast_emod, Int.toNat_natCast,
      Nat.mod_eq_of_lt (ofBigEndian_lt bytes)]
  rw [bigEndianInt, pattern, bigEndian_ofBigEndian]

end LibcoRpc.Std
