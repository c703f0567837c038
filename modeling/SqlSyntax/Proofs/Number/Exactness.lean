import SqlSyntax.Grammar.Expression
import SqlSyntax.Proofs.Lexical.Continuations
import SqlSyntax.Proofs.Lexical.Tokens
import SqlSyntax.Proofs.Number.Denotation
import SqlSyntax.Tree.Render

/-!
# Numbers without exponent are kept exactly

A numeral without exponent is kept as an integer or as a decimal, and is rendered by a numeral that
denotes the same rational number, however long it is, in whatever script its digits are and wherever
its point stands. Digits alone are rendered in their shortest form. Numerals with an exponent are
rounded to doubles and left aside here.
-/

namespace SqlSyntax

namespace Numeral

variable {cs whole places : List Char}

theorem splits_of_digits (occupied : cs ≠ []) (digits : ∀ c ∈ cs, Text.isDigit c = true) :
    Splits cs cs [] where
  digits := by simpa using digits
  occupied := by simpa using occupied
  layout := .inr ⟨rfl, rfl⟩

theorem exponentLength_eq_zero (plain : ∀ c ∈ cs, isExponentMark c = false) :
    Lexeme.exponentLength cs = 0 := by
  cases cs with
  | nil => rfl
  | cons c cs =>
    have unmarked : (c == 'e' || c == 'E') = false := plain c List.mem_cons_self
    simp [Lexeme.exponentLength, unmarked]

/-- Without an exponent mark the whole of a number is its mantissa. -/
theorem mantissaLength?_plain (number : Lexeme.numberLength? cs = some cs.length)
    (plain : ∀ c ∈ cs, isExponentMark c = false) :
    Lexeme.mantissaLength? cs = some cs.length := by
  unfold Lexeme.numberLength? at number
  split at number
  case h_1 n found =>
    have none : Lexeme.exponentLength (cs.drop n) = 0 :=
      exponentLength_eq_zero fun c member => plain c (List.mem_of_mem_drop member)
    rwa [none, Nat.add_zero, ← found] at number
  case h_2 => cases number

/-- What a number token without exponent looks like. -/
theorem exists_splits (number : Lexeme.numberLength? cs = some cs.length)
    (plain : ∀ c ∈ cs, isExponentMark c = false) : ∃ whole places, Splits cs whole places := by
  have mantissa := mantissaLength?_plain number plain
  have parts := List.takeWhile_append_dropWhile (p := Text.isDigit) (l := cs)
  unfold Lexeme.mantissaLength? at mantissa
  dsimp only at mantissa
  rw [Lexeme.drop_runLength] at mantissa
  split at mantissa
  case h_1 rest behind =>
    rw [behind] at parts
    split_ifs at mantissa with nothing
    have length := congrArg List.length parts
    rw [List.length_append, List.length_cons] at length
    -- The token ends with its digits, so nothing else stands behind the point.
    have reached : rest.length ≤ Lexeme.runLength Text.isDigit rest := by
      rw [Lexeme.runLength] at mantissa
      have sum := Option.some.inj mantissa
      omega
    refine ⟨cs.takeWhile Text.isDigit, rest, ⟨?_, ?_, .inl parts.symm⟩⟩
    · intro c member
      rcases List.mem_append.mp member with first | second
      · exact List.mem_takeWhile_imp first
      · exact Lexeme.all_of_runLength reached c second
    · intro empty
      obtain ⟨left, right⟩ := List.append_eq_nil_iff.mp empty
      apply nothing
      simp [Lexeme.runLength, left, right]
  case h_2 =>
    split_ifs at mantissa with nothing
    have reached : cs.length ≤ Lexeme.runLength Text.isDigit cs := (Option.some.inj mantissa).ge
    refine ⟨cs, [], splits_of_digits ?_ (Lexeme.all_of_runLength reached)⟩
    rintro rfl
    exact nothing rfl

/-- A point is no digit, so it is found and left out where it stands. -/
theorem mantissa_of_splits (splits : Splits cs whole places) :
    mantissa cs = (positional (whole ++ places), places.length) := by
  have other : ∀ c ∈ whole ++ places, (c != '.') = true := by
    intro c member
    rw [bne_iff_ne]
    rintro rfl
    exact absurd (splits.digits '.' member) (by decide)
  have kept : cs.filter (· != '.') = whole ++ places := by
    obtain rfl | ⟨rfl, rfl⟩ := splits.layout
    · rw [List.filter_append, List.filter_cons_of_neg (by decide), ← List.filter_append]
      exact List.filter_eq_self.mpr other
    · rw [List.append_nil] at other ⊢
      exact List.filter_eq_self.mpr other
  have behind : (cs.dropWhile (· != '.')).drop 1 = places := by
    obtain rfl | ⟨rfl, rfl⟩ := splits.layout
    · rw [List.dropWhile_append_of_pos fun c member => other c (List.mem_append_left _ member),
        List.dropWhile_cons_of_neg (by decide)]
      rfl
    · rw [List.append_nil] at other
      rw [List.dropWhile_eq_nil_iff.mpr other]
      rfl
  rw [mantissa, kept, behind, value_eq_positional]

/-- The number of digits behind the point becomes the exponent. -/
theorem toDecimal_of_splits (splits : Splits cs whole places)
    (plain : ∀ c ∈ cs, isExponentMark c = false) :
    toDecimal cs = .finite false (positional (whole ++ places)) (-places.length) := by
  have unmarked : ∀ c ∈ cs, (!isExponentMark c) = true := by simpa using plain
  rw [toDecimal, List.takeWhile_eq_self_iff.mpr unmarked, List.dropWhile_eq_nil_iff.mpr unmarked,
    mantissa_of_splits splits]
  simp [exponent, value]

/-- Digits alone denote the number they count. -/
theorem denoted?_digits (occupied : cs ≠ []) (digits : ∀ c ∈ cs, Text.isDigit c = true) :
    denoted? cs = some (positional cs : Rat) := by
  have read := (splits_of_digits occupied digits).denoted? power?_nil
  simpa using read

theorem Splits.digits_of_no_point (splits : Splits cs whole places) (none : '.' ∉ cs) :
    ∀ c ∈ cs, Text.isDigit c = true := by
  obtain rfl | ⟨rfl, rfl⟩ := splits.layout
  · simp at none
  · simpa using splits.digits

end Numeral

namespace Literal

open Numeral

variable {cs whole places : List Char}

/-- The decimal that a numeral without exponent is kept as is written with the same value. -/
theorem denoted?_render_toDecimal (splits : Splits cs whole places)
    (plain : ∀ c ∈ cs, isExponentMark c = false) :
    denoted? (Literal.decimal (toDecimal cs)).render.toList = denoted? cs := by
  have read := splits.denoted? power?_nil
  rw [List.append_nil, Int.zero_sub] at read
  rw [render, toDecimal_of_splits splits plain, Decimal.denoted?_text, read]

/-- Digits are written alike as a decimal and as an integer. -/
theorem render_toDecimal_digits (occupied : cs ≠ []) (digits : ∀ c ∈ cs, Text.isDigit c = true)
    (plain : ∀ c ∈ cs, isExponentMark c = false) :
    (Literal.decimal (toDecimal cs)).render = toString (positional cs) := by
  have whole : toDecimal cs = .finite false (positional cs) 0 := by
    simpa using toDecimal_of_splits (splits_of_digits occupied digits) plain
  rw [render, whole, Decimal.text_integer]

end Literal

namespace Grammar

open Numeral

theorem render_literalNode (v : Literal) : (literalNode v).render = .ok v.render :=
  rfl

variable {t : Token}

theorem numberNode_point (plain : ∀ c ∈ t.text.toList, isExponentMark c = false)
    (point : '.' ∈ t.text.toList) :
    numberNode t = .ok (literalNode (.decimal (toDecimal t.text.toList))) := by
  have unmarked : t.text.toList.any isExponentMark = false := by simpa using plain
  have pointed : t.text.toList.contains '.' = true := by simpa using point
  simp only [numberNode, unmarked, pointed]
  rfl

/-- Digits are kept as an integer up to the limit, and beyond it as a decimal. -/
theorem numberNode_no_point (plain : ∀ c ∈ t.text.toList, isExponentMark c = false)
    (none : '.' ∉ t.text.toList) :
    numberNode t = .ok (literalNode
      (if digitLimit < t.text.toList.length then .decimal (toDecimal t.text.toList)
        else .integer (positional t.text.toList))) := by
  have unmarked : t.text.toList.any isExponentMark = false := by simpa using plain
  have pointless : t.text.toList.contains '.' = false := by simpa using none
  simp only [numberNode, unmarked, pointless, value_eq_positional, Bool.false_eq_true, if_false,
    false_or]
  split_ifs <;> rfl

/-- A number without exponent is rendered with the value it has as it stands. Where it is made of
digits only, its text has no zeros in front and does not tell how the number was kept. -/
theorem numberNode_exact (cut : t.Cut .number)
    (plain : ∀ c ∈ t.text.toList, isExponentMark c = false) :
    ∃ node text x, numberNode t = .ok node ∧ node.render = .ok text ∧
      denoted? t.text.toList = some x ∧ denoted? text.toList = some x ∧
      ((∀ c ∈ t.text.toList, Text.isDigit c = true) →
        ∃ n : Nat, x = n ∧ text = toString n ∧ IsCanonical text.toList ∧
          (Literal.integer n).render = text ∧
          (Literal.decimal (toDecimal t.text.toList)).render = text ∧
          node = literalNode
            (if digitLimit < t.text.toList.length then .decimal (toDecimal t.text.toList)
              else .integer n)) := by
  obtain ⟨whole, places, splits⟩ := exists_splits cut.number plain
  -- A numeral with a point is always kept as a decimal; only digits have two ways to be kept.
  by_cases point : '.' ∈ t.text.toList
  · have read := splits.denoted? power?_nil
    rw [List.append_nil] at read
    refine ⟨_, _, _, numberNode_point plain point, render_literalNode _, read, ?_, ?_⟩
    · rw [Literal.denoted?_render_toDecimal splits plain, read]
    · intro digits
      exact absurd (digits '.' point) (by decide)
  · have digits := splits.digits_of_no_point point
    have occupied := cut.text_ne
    have decimal := Literal.render_toDecimal_digits occupied digits plain
    generalize number : positional t.text.toList = n at decimal
    have written : (toString n).toList = Nat.toDigits 10 n := by
      rw [Nat.toString_eq_ofList_toDigits, String.toList_ofList]
    have integer : (Literal.integer n).render = toString n := rfl
    refine ⟨_, toString n, n, numberNode_no_point plain point, ?_, ?_, ?_, ?_⟩
    · rw [render_literalNode, number]
      split_ifs
      · rw [decimal]
      · rw [integer]
    · rw [denoted?_digits occupied digits, number]
    · rw [written, denoted?_digits Nat.toDigits_ne_nil (isDigit_toDigits n), positional_toDigits]
    · intro _
      refine ⟨n, rfl, rfl, ?_, integer, decimal, by rw [number]⟩
      rw [written]
      exact isCanonical_toDigits n

/-- Digits of two scripts: so small a number is written with an exponent, and zeros in front of an
integer are dropped. -/
theorem numberNode_exact_scripts :
    let small : Token := ⟨.number, "00.000000٧0", .start⟩
    let whole : Token := ⟨.number, "00٧", .start⟩
    (small.Cut .number ∧ (∀ c ∈ small.text.toList, isExponentMark c = false) ∧
        ∃ x, denoted? small.text.toList = some x ∧ denoted? "7.0E-7".toList = some x) ∧
      whole.Cut .number ∧ (∀ c ∈ whole.text.toList, isExponentMark c = false) ∧
        (∀ c ∈ whole.text.toList, Text.isDigit c = true) ∧
        numberNode whole = .ok (literalNode (.integer 7)) ∧ IsCanonical "7".toList ∧
        (Literal.decimal (toDecimal whole.text.toList)).render = "7" := by
  intro small whole
  have first : small.Cut .number := ⟨rfl, small.text.toList, 11, by decide, by decide⟩
  have second : whole.Cut .number := ⟨rfl, whole.text.toList, 3, by decide, by decide⟩
  have unmarked : ∀ c ∈ small.text.toList, isExponentMark c = false := by
    simp [small, isExponentMark]
  have unmarked' : ∀ c ∈ whole.text.toList, isExponentMark c = false := by
    simp [whole, isExponentMark]
  have digits : ∀ c ∈ whole.text.toList, Text.isDigit c = true := List.all_eq_true.mp (by decide)
  refine ⟨⟨first, unmarked, ?_⟩, second, unmarked', digits, ?_⟩
  · obtain ⟨node, text, x, built, rendered, read, same, -⟩ := numberNode_exact first unmarked
    have kept : numberNode ⟨.number, "00.000000٧0", .start⟩ =
        .ok (literalNode (.decimal (.finite false 70 (-8)))) := by rfl
    have written : (Decimal.finite false 70 (-8)).text = "7.0E-7" := by decide
    obtain rfl := Except.ok.inj (built.symm.trans kept)
    obtain rfl := Except.ok.inj rendered
    rw [Literal.render, written] at same
    exact ⟨x, read, same⟩
  · obtain ⟨node, text, x, built, rendered, -, -, plain⟩ := numberNode_exact second unmarked'
    have kept : numberNode ⟨.number, "00٧", .start⟩ = .ok (literalNode (.integer 7)) := by rfl
    have written : (Literal.integer 7).render = "7" := by decide
    obtain rfl := Except.ok.inj (built.symm.trans kept)
    obtain rfl := Except.ok.inj rendered
    obtain ⟨n, -, -, canonical, -, decimal, -⟩ := plain digits
    rw [written] at canonical decimal
    exact ⟨kept, canonical, decimal⟩

end Grammar

end SqlSyntax
