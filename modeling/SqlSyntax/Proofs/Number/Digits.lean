import Mathlib.Algebra.GroupWithZero.Nat
import Mathlib.Data.List.Basic
import SqlSyntax.Number.Numeral

/-!
# Digits of numbers

The decimal digits of a natural number, read as a numeral, give the number. They are within the
limit exactly if the number is below a power of ten.
-/

namespace SqlSyntax

theorem Text.digitValue?_of_isDigit {c : Char} (digit : c.isDigit = true) :
    Text.digitValue? c = some (c.toNat - '0'.toNat) := by
  have ascii : c.toNat < 128 := by
    simp only [Char.isDigit, Bool.and_eq_true, decide_eq_true_eq, UInt32.le_iff_toNat_le] at digit
    have upper : c.toNat ≤ 57 := digit.2
    omega
  simp [Text.digitValue?, ascii, digit]

namespace Numeral

theorem value_eq_ofDigitChars {digits : List Char} (ascii : ∀ c ∈ digits, c.isDigit = true) :
    value digits = Nat.ofDigitChars 10 digits 0 := by
  unfold value
  rw [Nat.ofDigitChars_eq_foldl]
  refine List.foldl_ext _ _ 0 ?_
  intro n c member
  rw [Text.digitValue?_of_isDigit (ascii c member)]
  rfl

theorem value_toDigits (n : Nat) : value (Nat.toDigits 10 n) = n := by
  have ascii : ∀ c ∈ Nat.toDigits 10 n, c.isDigit = true := fun _ member =>
    Nat.isDigit_of_mem_toDigits (by decide) (by decide) member
  rw [value_eq_ofDigitChars ascii, Nat.ofDigitChars_toDigits (by decide) (by decide)]

theorem isShort_iff {n : Int} : isShort n ↔ n.natAbs < 10 ^ digitLimit := by
  rw [isShort, isWithin, Option.all_some, decide_eq_true_iff]
  exact Nat.length_toDigits_le_iff (by decide) (by decide)

end Numeral

end SqlSyntax
