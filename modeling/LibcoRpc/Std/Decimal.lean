import Mathlib.Algebra.GroupWithZero.Nat
import Mathlib.Data.List.Basic
import Mathlib.Order.Fin.Basic

/-!
# Decimal notation

Integers written out in decimal, as bytes, and texts that end in such a number behind a
separator. Both can be read back, so different values have different texts.
-/

namespace LibcoRpc.Std

/-- The instance behind every literal of a byte. -/
instance neZero_byte : NeZero 256 := ⟨by decide⟩

/-- The byte of an ASCII character. -/
def asciiByte (char : Char) : Fin 256 := Fin.ofNat 256 char.toNat

/-- The character of a byte. -/
def asciiChar (byte : Fin 256) : Char := Char.ofNat byte.val

/-- A natural number in decimal. -/
def digits (value : Nat) : List (Fin 256) := (Nat.toDigits 10 value).map asciiByte

/-- An integer in decimal, as `std::to_string` writes it. -/
def decimal : Int → List (Fin 256)
  | .ofNat value => digits value
  | .negSucc value => asciiByte '-' :: digits (value + 1)

theorem asciiByte_digit {char : Char} (isDigit : char.isDigit = true) :
    48 ≤ (asciiByte char).val ∧ (asciiByte char).val ≤ 57 ∧ asciiChar (asciiByte char) = char := by
  simp only [Char.isDigit, Bool.and_eq_true, decide_eq_true_eq] at isDigit
  obtain ⟨low, high⟩ := isDigit
  have lowNat : 48 ≤ char.toNat := low
  have highNat : char.toNat ≤ 57 := high
  have value : (asciiByte char).val = char.toNat := by
    simp only [asciiByte, Fin.ofNat]
    exact Nat.mod_eq_of_lt (by omega)
  refine ⟨by omega, by omega, ?_⟩
  rw [asciiChar, value, Char.ofNat_toNat]

theorem mem_digits {byte : Fin 256} {value : Nat} (member : byte ∈ digits value) :
    48 ≤ byte.val ∧ byte.val ≤ 57 := by
  obtain ⟨char, isChar, rfl⟩ := List.mem_map.mp member
  have ascii := asciiByte_digit (Nat.isDigit_of_mem_toDigits (by decide) (by decide) isChar)
  exact ⟨ascii.1, ascii.2.1⟩

theorem digits_injective : Function.Injective digits := by
  have back : ∀ value, (digits value).map asciiChar = Nat.toDigits 10 value := by
    intro value
    rw [digits, List.map_map]
    calc (Nat.toDigits 10 value).map (asciiChar ∘ asciiByte)
        = (Nat.toDigits 10 value).map id := by
          apply List.map_congr_left
          intro char member
          exact (asciiByte_digit (Nat.isDigit_of_mem_toDigits (by decide) (by decide) member)).2.2
      _ = Nat.toDigits 10 value := List.map_id _
  intro left right same
  have sameDigits : Nat.toDigits 10 left = Nat.toDigits 10 right := by
    rw [← back, ← back, same]
  rw [← Nat.ofDigitChars_ten_toDigits (n := left), sameDigits, Nat.ofDigitChars_ten_toDigits]

/-- A minus sign begins no natural number. -/
theorem minus_not_digit {rest : List (Fin 256)} {value : Nat} :
    digits value ≠ asciiByte '-' :: rest := by
  intro same
  have member : asciiByte '-' ∈ digits value := by simp [same]
  have low := (mem_digits member).1
  exact absurd low (by decide)

theorem decimal_injective : Function.Injective decimal := by
  intro left right same
  cases left with
  | ofNat left =>
      cases right with
      | ofNat right => exact congrArg Int.ofNat (digits_injective same)
      | negSucc right => exact absurd same minus_not_digit
  | negSucc left =>
      cases right with
      | ofNat right => exact absurd same.symm minus_not_digit
      | negSucc right =>
          have next := digits_injective (List.cons.inj same).2
          exact congrArg Int.negSucc (Nat.succ.inj next)

/-- A number in decimal has digits and a minus sign, and nothing else. -/
theorem mem_decimal {byte : Fin 256} {value : Int} (member : byte ∈ decimal value) :
    byte.val ≤ 57 := by
  cases value with
  | ofNat value => exact (mem_digits member).2
  | negSucc value =>
      rcases List.mem_cons.mp member with rfl | digit
      · decide
      · exact (mem_digits digit).2

/-- What stands before and behind the last separator. -/
theorem split_at_last {α : Type} {separator : α} {head head' tail tail' : List α}
    (absent : separator ∉ tail) (absent' : separator ∉ tail')
    (same : head ++ separator :: tail = head' ++ separator :: tail') :
    head = head' ∧ tail = tail' := by
  rcases List.append_eq_append_iff.mp same with ⟨middle, isHead, isTail⟩ | ⟨middle, isHead, isTail⟩
  · cases middle with
    | nil => simpa using And.intro isHead.symm isTail
    | cons first middle =>
        obtain ⟨_, rest⟩ := List.cons.inj isTail
        exact absurd (by simp [rest]) absent
  · cases middle with
    | nil => simpa using And.intro isHead isTail.symm
    | cons first middle =>
        obtain ⟨_, rest⟩ := List.cons.inj isTail
        exact absurd (by simp [rest]) absent'

end LibcoRpc.Std
