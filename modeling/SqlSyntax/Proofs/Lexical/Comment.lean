import SqlSyntax.Proofs.Lexical.Recased

/-!
# Block comments

A text between the marks of a block comment that does not hold the end mark itself is a comment up
to the end mark, and is skipped as a blank. Of the characters that belong to words, those that no
name goes on with start neither a blank nor any lexeme but a number.
-/

namespace SqlSyntax

namespace Lexeme

/-! ### Block comments -/

def comment (c : List Char) : List Char :=
  '/' :: '*' :: (c ++ ['*', '/'])

theorem blockEnd?_closed {c : List Char} (closed : ¬['*', '/'] <:+: c) (taken : Nat)
    (rest : List Char) :
    blockEnd? (c ++ '*' :: '/' :: rest) taken = some (taken + c.length + 2) := by
  induction c generalizing taken with
  | nil => rfl
  | cons x c ih =>
    have later := ih (fun inside => closed (List.infix_cons inside)) (taken + 1)
    rw [List.cons_append, blockEnd?, later, List.length_cons, Nat.add_right_comm taken,
      ← Nat.add_assoc]
    -- The comment does not end at `x`.
    intro left star slash
    subst star
    cases c with
    | nil => cases slash
    | cons y c =>
      obtain ⟨rfl, _⟩ := List.cons.inj slash
      exact closed ⟨[], c, rfl⟩

theorem blankLength?_comment {c : List Char} (closed : ¬['*', '/'] <:+: c) (rest : List Char) :
    blankLength? (comment c ++ rest) = some (comment c).length := by
  have text : comment c ++ rest = '/' :: '*' :: (c ++ '*' :: '/' :: rest) := by simp [comment]
  rw [text, blankLength?, blockEnd?_closed closed]
  simp only [comment, List.length_cons, List.length_append, List.length_nil]
  congr 1
  omega

/-- Any number of block comments. -/
inductive Comments : List Char → Prop where
  | nil : Comments []
  | cons {c more : List Char} (closed : ¬['*', '/'] <:+: c) (later : Comments more) :
      Comments (comment c ++ more)

/-! ### First characters -/

/-- Characters of words that no name goes on with. -/
def isForeign (c : Char) : Bool :=
  Text.isWordChar c && !isNameChar (foldLetter c)

theorem startsBlank_of_isForeign {c : Char} (foreign : isForeign c = true) :
    startsBlank c = false := by
  have other {k : Char} (plain : isForeign k = false) : c ≠ k := by
    rintro rfl
    rw [foreign] at plain
    cases plain
  simp only [startsBlank, Text.isLayout, Bool.or_eq_false_iff, beq_eq_false_iff_ne]
  refine ⟨⟨⟨other (by decide), other (by decide)⟩, other (by decide)⟩,
    ⟨⟨⟨other (by decide), other (by decide)⟩, other (by decide)⟩,
      other (by decide)⟩, other (by decide)⟩

theorem startsBlank_of_isNameChar {c : Char} (letter : isNameChar c = true) :
    startsBlank c = false :=
  Text.holds_of_small (p := fun c => isNameChar c = true → startsBlank c = false)
    (Text.toNat_lt_of_isNameChar letter) (by decide) letter

end Lexeme

namespace Terminal

theorem symbol_not_foreign (t : Terminal) :
    (t.symbol?.all fun symbol => symbol.toList.head?.all fun c => !Lexeme.isForeign c) = true := by
  revert t
  decide +kernel

/-- Only a number starts with a character of words that is none of names: a digit of another
script. -/
theorem eq_number_of_starts {t : Terminal} {c : Char} (foreign : Lexeme.isForeign c = true)
    (starts : t.starts c = true) : t = .number := by
  have other {k : Char} (plain : Lexeme.isForeign k = false) : (c == k) = false := by
    rw [beq_eq_false_iff_ne]
    rintro rfl
    rw [foreign] at plain
    cases plain
  have outside : Lexeme.isNameChar (Lexeme.foldLetter c) = false := by
    simpa using (Bool.and_eq_true_iff.mp foreign).2
  have mark {k : Char} (letter : Lexeme.isNameChar (Lexeme.foldLetter k) = true) :
      (c.toLower == k) = false := by
    rw [beq_eq_false_iff_ne]
    rintro rfl
    rw [Lexeme.foldLetter_toLower, outside] at letter
    cases letter
  unfold Terminal.starts at starts
  split at starts
  · rfl
  · rw [other (by decide), mark (by decide)] at starts
    cases starts
  · rw [other (by decide), mark (by decide)] at starts
    cases starts
  · rw [other (by decide), other (by decide)] at starts
    cases starts
  · rw [Lexeme.isNameChar, starts] at outside
    cases outside
  · rw [other (by decide)] at starts
    cases starts
  · rw [other (by decide)] at starts
    cases starts
  · rw [other (by decide), other (by decide), other (by decide)] at starts
    cases starts
  · rw [other (by decide), other (by decide)] at starts
    cases starts
  · cases starts
  · exfalso
    rw [Bool.or_eq_true] at starts
    obtain spelled | marked := starts
    · obtain ⟨word, spells, first⟩ := List.any_eq_true.mp spelled
      have small := small_of_mem_word spells (List.mem_of_head? (beq_iff_eq.mp first))
      rw [isNameChar_of_small small] at outside
      cases outside
    · have plain := t.symbol_not_foreign
      cases spells : t.symbol? with
      | none => simp [spells] at marked
      | some symbol =>
        rw [spells, Option.any_some, beq_iff_eq] at marked
        rw [spells, Option.all_some, marked, Option.all_some, foreign] at plain
        cases plain

end Terminal

end SqlSyntax
