import Mathlib.Algebra.Field.Rat
import Mathlib.Data.List.TakeWhile
import Mathlib.Tactic.FieldSimp
import Mathlib.Tactic.Ring
import SqlSyntax.Proofs.Number.Digits

/-!
# What a numeral denotes

A numeral in decimal notation denotes a rational number: its digits count according to their places,
and an exponent moves the point. The text of a decimal denotes that decimal whether it is written
positionally or with an exponent, and the digits of an integer begin with a zero only for zero.
-/

namespace SqlSyntax

namespace Numeral

/-! ### Notation -/

/-- Digits counted by their places: the last one by ones, the one before it by tens, and so on. -/
def positional : List Char → Nat
  | [] => 0
  | c :: cs => (Text.digitValue? c).getD 0 * 10 ^ cs.length + positional cs

/-- A natural number, by at least one digit. -/
def natural? (cs : List Char) : Option Nat :=
  if cs ≠ [] ∧ cs.all Text.isDigit then some (positional cs) else none

/-- An integer: a sign or none, and digits. -/
def signed? : List Char → Option Int
  | '-' :: digits => (natural? digits).map fun n : Nat => -(n : Int)
  | '+' :: digits => (natural? digits).map fun n : Nat => (n : Int)
  | digits => (natural? digits).map fun n : Nat => (n : Int)

/-- The exponent at the end of a numeral: nothing, or a mark and an integer. -/
def power? : List Char → Option Int
  | [] => some 0
  | mark :: rest => if isExponentMark mark then signed? rest else none

theorem power?_nil : power? [] = some 0 :=
  rfl

/-- The digits behind a point, if there is one, and what follows. -/
def fraction : List Char → List Char × List Char
  | '.' :: rest => (rest.takeWhile Text.isDigit, rest.dropWhile Text.isDigit)
  | rest => ([], rest)

/-- The rational number that an unsigned numeral denotes: digits before or behind a point or both,
in any script, and then perhaps an exponent of ten. -/
def denoted? (cs : List Char) : Option Rat :=
  let whole := cs.takeWhile Text.isDigit
  let (places, rest) := fraction (cs.dropWhile Text.isDigit)
  if whole = [] ∧ places = [] then none
  else (power? rest).map fun e =>
    (positional whole + (positional places : Rat) / 10 ^ places.length) * 10 ^ e

/-- The digits before and behind the point of a numeral without exponent. -/
structure Splits (cs whole places : List Char) : Prop where
  digits : ∀ c ∈ whole ++ places, Text.isDigit c = true
  occupied : whole ++ places ≠ []
  layout : cs = whole ++ '.' :: places ∨ places = [] ∧ cs = whole

theorem positional_append (as bs : List Char) :
    positional (as ++ bs) = positional as * 10 ^ bs.length + positional bs := by
  induction as with
  | nil => simp [positional]
  | cons c as ih =>
    rw [List.cons_append, positional, positional, ih, List.length_append]
    ring

theorem positional_zeros (count : Nat) : positional (List.replicate count '0') = 0 := by
  induction count with
  | zero => rfl
  | succ count ih =>
    have zero : Text.digitValue? '0' = some 0 := by decide
    simp [List.replicate_succ, positional, ih, zero]

theorem foldl_eq_positional (cs : List Char) (n : Nat) :
    cs.foldl (fun n c => 10 * n + (Text.digitValue? c).getD 0) n =
      n * 10 ^ cs.length + positional cs := by
  induction cs generalizing n with
  | nil => simp [positional]
  | cons c cs ih =>
    rw [List.foldl_cons, ih, positional, List.length_cons]
    ring

theorem value_eq_positional (cs : List Char) : value cs = positional cs := by
  rw [value, foldl_eq_positional, Nat.zero_mul, Nat.zero_add]

/-- A numeral goes on behind its digits with nothing or with an exponent mark. -/
theorem ends_of_power? {rest : List Char} {e : Int} (power : power? rest = some e) :
    ∀ c ∈ rest.head?, Text.isDigit c = false ∧ c ≠ '.' := by
  cases rest with
  | nil => nofun
  | cons mark rest =>
    intro c first
    cases first
    rw [power?] at power
    split_ifs at power with marked
    rw [isExponentMark, Bool.or_eq_true, beq_iff_eq, beq_iff_eq] at marked
    obtain rfl | rfl := marked <;> decide

theorem takeWhile_digits {digits rest : List Char} (all : ∀ c ∈ digits, Text.isDigit c = true)
    (ends : ∀ c ∈ rest.head?, Text.isDigit c = false) :
    (digits ++ rest).takeWhile Text.isDigit = digits ∧
      (digits ++ rest).dropWhile Text.isDigit = rest := by
  rw [List.takeWhile_append_of_pos all, List.dropWhile_append_of_pos all]
  cases rest with
  | nil => simp
  | cons c rest => simp [ends c rfl]

theorem fraction_point {places rest : List Char} (all : ∀ c ∈ places, Text.isDigit c = true)
    (ends : ∀ c ∈ rest.head?, Text.isDigit c = false) :
    fraction ('.' :: (places ++ rest)) = (places, rest) := by
  rw [fraction, (takeWhile_digits all ends).1, (takeWhile_digits all ends).2]

theorem fraction_none {rest : List Char} (ends : ∀ c ∈ rest.head?, c ≠ '.') :
    fraction rest = ([], rest) := by
  unfold fraction
  split
  · exact absurd rfl (ends '.' rfl)
  · rfl

/-- The digits of a numeral in a row denote it but for the number of those behind its point. -/
theorem Splits.denoted? {cs whole places rest : List Char} (splits : Splits cs whole places)
    {e : Int} (power : power? rest = some e) :
    Numeral.denoted? (cs ++ rest) =
      some ((positional (whole ++ places) : Rat) * 10 ^ (e - places.length)) := by
  have ends := ends_of_power? power
  have first : ∀ c ∈ whole, Text.isDigit c = true := fun c member =>
    splits.digits c (List.mem_append_left _ member)
  have second : ∀ c ∈ places, Text.isDigit c = true := fun c member =>
    splits.digits c (List.mem_append_right _ member)
  have some : ¬ (whole = [] ∧ places = []) := fun none => splits.occupied (by simp [none])
  have worth : ((positional whole : Rat) + positional places / 10 ^ places.length) * 10 ^ e =
      positional (whole ++ places) * 10 ^ (e - places.length) := by
    rw [positional_append, zpow_sub₀ (by norm_num), zpow_natCast]
    push_cast
    field_simp
  obtain rfl | ⟨rfl, rfl⟩ := splits.layout
  · have point : Text.isDigit '.' = false := by decide
    have behind : ∀ c ∈ ('.' :: (places ++ rest)).head?, Text.isDigit c = false := by
      rintro c ⟨⟩
      exact point
    rw [Numeral.denoted?, List.append_assoc, List.cons_append, (takeWhile_digits first behind).1,
      (takeWhile_digits first behind).2, fraction_point second fun c head => (ends c head).1]
    dsimp only
    rw [if_neg some, power, Option.map_some, worth]
  · have behind : ∀ c ∈ rest.head?, Text.isDigit c = false := fun c head => (ends c head).1
    rw [Numeral.denoted?, (takeWhile_digits first behind).1, (takeWhile_digits first behind).2,
      fraction_none fun c head => (ends c head).2]
    dsimp only
    rw [if_neg some, power, Option.map_some, worth]

theorem isDigit_toDigits (n : Nat) : ∀ c ∈ Nat.toDigits 10 n, Text.isDigit c = true := by
  intro c member
  have ascii := Nat.isDigit_of_mem_toDigits (by decide) (by decide) member
  rw [Text.isDigit, Text.digitValue?_of_isDigit ascii]
  rfl

theorem positional_toDigits (n : Nat) : positional (Nat.toDigits 10 n) = n := by
  rw [← value_eq_positional, value_toDigits]

theorem natural?_toDigits (n : Nat) : natural? (Nat.toDigits 10 n) = some n := by
  have digits : (Nat.toDigits 10 n).all Text.isDigit = true :=
    List.all_eq_true.mpr (isDigit_toDigits n)
  rw [natural?, if_pos ⟨Nat.toDigits_ne_nil, digits⟩, positional_toDigits]

/-- Digits without a zero in front, unless there is nothing else. -/
def IsCanonical (cs : List Char) : Prop :=
  cs ≠ [] ∧ (∀ c ∈ cs, c.isDigit = true) ∧ (cs.head? = some '0' → cs = ['0'])

theorem isCanonical_toDigits (n : Nat) : IsCanonical (Nat.toDigits 10 n) := by
  refine ⟨Nat.toDigits_ne_nil, fun c member =>
    Nat.isDigit_of_mem_toDigits (by decide) (by decide) member, ?_⟩
  induction n using Nat.strongRecOn with
  | ind n ih =>
    by_cases small : n < 10
    · rw [Nat.toDigits_of_lt_base small]
      intro zero
      rw [Option.some.inj zero]
    · have large : 10 ≤ n := Nat.le_of_not_lt small
      rw [Nat.toDigits_of_base_le (by decide) large,
        List.head?_append_of_ne_nil _ Nat.toDigits_ne_nil]
      intro zero
      have alone := congrArg positional (ih (n / 10) (by omega) zero)
      have nothing : positional ['0'] = 0 := by decide
      rw [positional_toDigits, nothing] at alone
      omega

end Numeral

/-! ### Texts of decimals -/

namespace Decimal

open Numeral

/-- The text of a signed exponent is read as the exponent. -/
theorem power?_exponentText (e : Int) : power? ('E' :: (exponentText e).toList) = some e := by
  rw [power?, if_pos (by decide), exponentText]
  split_ifs with negative
  · have written : ("-" ++ toString e.natAbs).toList = '-' :: Nat.toDigits 10 e.natAbs := by
      simp [Nat.repr_eq_ofList_toDigits]
    rw [written, signed?, natural?_toDigits, Option.map_some]
    congr 1
    omega
  · have written : ("+" ++ toString e.natAbs).toList = '+' :: Nat.toDigits 10 e.natAbs := by
      simp [Nat.repr_eq_ofList_toDigits]
    rw [written, signed?, natural?_toDigits, Option.map_some]
    congr 1
    omega

/-- A point in front of digits, among them or behind them leaves so many digits behind it. -/
theorem splits_pointed {digits : List Char} (all : ∀ c ∈ digits, Text.isDigit c = true)
    (occupied : digits ≠ []) {place : Int} (inside : place ≤ digits.length) :
    ∃ whole places, Splits (pointed (String.ofList digits) place).toList whole places ∧
      positional (whole ++ places) = positional digits ∧
      (places.length : Int) = digits.length - place := by
  have size : (String.ofList digits).length = digits.length := String.length_ofList
  unfold pointed
  rw [size]
  split_ifs with early late
  · have zero : Text.isDigit '0' = true := by decide
    refine ⟨['0'], List.replicate place.natAbs '0' ++ digits, ⟨?_, ?_, .inl (by simp)⟩, ?_, ?_⟩
    · intro c member
      simp only [List.mem_append, List.mem_singleton, List.mem_replicate] at member
      rcases member with rfl | ⟨-, rfl⟩ | member
      · exact zero
      · exact zero
      · exact all c member
    · simp
    · rw [positional_append, positional_append, positional_zeros]
      have nothing : positional ['0'] = 0 := by decide
      rw [nothing]
      simp
    · rw [List.length_append, List.length_replicate]
      omega
  · have exact : place.natAbs - digits.length = 0 := by omega
    refine ⟨digits, [], ⟨by simpa using all, by simpa using occupied, .inr ⟨rfl, by simp [exact]⟩⟩,
      by rw [List.append_nil], ?_⟩
    rw [List.length_nil]
    omega
  · refine ⟨digits.take place.natAbs, digits.drop place.natAbs, ⟨?_, ?_, .inl (by simp)⟩, ?_, ?_⟩
    · rwa [List.take_append_drop]
    · rwa [List.take_append_drop]
    · rw [List.take_append_drop]
    · rw [List.length_drop]
      omega

/-- Digits with a point and an exponent behind them. -/
theorem denoted?_pointed (n : Nat) {place : Int} (inside : place ≤ (Nat.toDigits 10 n).length)
    {rest : List Char} {e : Int} (power : power? rest = some e) :
    denoted? ((pointed (String.ofList (Nat.toDigits 10 n)) place).toList ++ rest) =
      some ((n : Rat) * 10 ^ (place - (Nat.toDigits 10 n).length + e)) := by
  obtain ⟨whole, places, splits, same, length⟩ :=
    splits_pointed (isDigit_toDigits n) Nat.toDigits_ne_nil inside
  have moved : e - ((Nat.toDigits 10 n).length - place) =
      place - (Nat.toDigits 10 n).length + e := by omega
  rw [splits.denoted? power, same, positional_toDigits, length, moved]

theorem text_finite (coefficient : Nat) (exponent : Int) :
    text (.finite false coefficient exponent) =
      let digits := String.ofList (Nat.toDigits 10 coefficient)
      let left : Int := exponent + (Nat.toDigits 10 coefficient).length
      if exponent ≤ 0 ∧ -6 < left then pointed digits left
      else pointed digits 1 ++ (if left = 1 then "" else "E" ++ exponentText (left - 1)) := by
  simp only [text, Nat.toString_eq_ofList_toDigits, String.length_ofList, Bool.false_eq_true,
    if_false, String.empty_append]

/-- The text of a decimal denotes it. -/
theorem denoted?_text (coefficient : Nat) (exponent : Int) :
    denoted? (text (.finite false coefficient exponent)).toList =
      some ((coefficient : Rat) * 10 ^ exponent) := by
  have size : 0 < (Nat.toDigits 10 coefficient).length := Nat.length_toDigits_pos
  rw [text_finite]
  dsimp only
  generalize left : exponent + ((Nat.toDigits 10 coefficient).length : Int) = place
  split_ifs with positional one
  · have read := denoted?_pointed coefficient (by omega : place ≤ _) power?_nil
    have moved : place - (Nat.toDigits 10 coefficient).length + 0 = exponent := by omega
    rw [List.append_nil] at read
    rw [read, moved]
  · have read := denoted?_pointed coefficient (by omega : (1 : Int) ≤ _) power?_nil
    have moved : 1 - ((Nat.toDigits 10 coefficient).length : Int) + 0 = exponent := by omega
    rw [List.append_nil] at read
    rw [String.append_empty, read, moved]
  · have read := denoted?_pointed coefficient (by omega : (1 : Int) ≤ _)
      (power?_exponentText (place - 1))
    have moved : 1 - ((Nat.toDigits 10 coefficient).length : Int) + (place - 1) = exponent := by
      omega
    have marked : ("E" ++ exponentText (place - 1)).toList =
        'E' :: (exponentText (place - 1)).toList := by simp
    rw [String.toList_append, marked, read, moved]

/-- An integer is written by its digits alone. -/
theorem text_integer (n : Nat) : text (.finite false n 0) = toString n := by
  have size : 0 < (Nat.toDigits 10 n).length := Nat.length_toDigits_pos
  rw [text_finite, Nat.toString_eq_ofList_toDigits]
  dsimp only
  rw [if_pos ⟨by omega, by omega⟩, Int.zero_add, pointed, if_neg (by omega), Int.natAbs_natCast,
    String.length_ofList, if_pos (Nat.le_refl _), Nat.sub_self]
  simp

end Decimal

end SqlSyntax
