import SqlSyntax.Proofs.Grammar.Alike
import SqlSyntax.Proofs.Grammar.Portions

/-!
# Keywords in other letter case

An accepted text is read in the same portions when letters of its keywords change their case, and
ends in the same statements. A zero in front of such a letter is the only danger: `0` and `x1` would
be one number, but no keyword goes on like that.
-/

namespace SqlSyntax.Grammar

open Lexeme (lowered)
open Portion (texts)

/-- The second portion is the first with other letter case, if it is a keyword, and else the
same. -/
inductive Portion.Recased : Portion → Portion → Prop where
  | blank (w : List Char) : Recased (.blank w) (.blank w)
  | keyword {t : Terminal} {w w' : List Char} (keyword : t.words ≠ [])
      (same : lowered w = lowered w') : Recased (.token t w) (.token t w')
  | other {t : Terminal} (w : List Char) (other : t.words = []) : Recased (.token t w) (.token t w)

variable {a : Automaton} {outcome : Except BuildError (List Node)} {c : Configuration}
  {ps qs : List Portion}

theorem lowered_texts (recased : List.Forall₂ Portion.Recased ps qs) :
    lowered (texts ps) = lowered (texts qs) := by
  induction recased with
  | nil => rfl
  | cons first _ ih =>
    rw [Portion.texts_cons, Portion.texts_cons, Lexeme.lowered_append, Lexeme.lowered_append, ih]
    cases first with
    | keyword _ same => exact congrArg (· ++ _) same
    | blank | other => rfl

theorem stripped_of_keyword {t : Terminal} (keyword : t.words ≠ []) (text : String)
    (position : Position) :
    Token.stripped ⟨t, text, position⟩ = ⟨t, String.ofList (lowered text.toList), .start⟩ := by
  cases t
  case string => exact absurd rfl keyword
  case quotedName => exact absurd rfl keyword
  all_goals rfl

/-- A token on the stack is like the token of the recased portion, wherever the two stand. -/
theorem alike_recased {t : Terminal} {w w' : List Char}
    (recased : Portion.Recased (.token t w) (.token t w')) (target : Nat)
    (position position' : Position) :
    Entry.Alike ⟨target, .terminal t, .ok ⟨t, String.ofList w, position⟩⟩
      ⟨target, .terminal t, .ok ⟨t, String.ofList w', position'⟩⟩ := by
  cases recased with
  | other => exact .of_place ..
  | keyword keyword same =>
    refine .intro target (.terminal t) (congrArg some ?_)
    obtain ⟨word, words, spelled⟩ := List.exists_cons_of_ne_nil keyword
    simp only [Symbol.stripped]
    rw [spelled]
    dsimp only
    rw [stripped_of_keyword keyword, stripped_of_keyword keyword, String.toList_ofList,
      String.toList_ofList, same]

/-- Where the first character of a text changes its case, no mark and digit of a based number
stand. -/
theorem Reads.head_recased (reads : Reads a outcome c ps)
    (recased : List.Forall₂ Portion.Recased ps qs) :
    c.rest.head? = (texts qs).head? ∨ Lexeme.Unmarked c.rest := by
  cases reads with
  | ends ends =>
    cases recased
    rw [ends.1]
    exact .inl rfl
  | @blank position w rest m stack ps ahead later =>
    cases recased with
    | cons first _ =>
      have within := (Lexeme.blankLength?_within (Ahead.scan_blank ahead)).1
      obtain ⟨x, w, rfl⟩ := List.exists_cons_of_length_pos within
      cases first
      exact .inl rfl
  | @token position t w rest m stack settled m' target ps ahead ready later =>
    cases recased with
    | cons first _ =>
      have found := (Ahead.scan_lexeme ahead).2
      cases first with
      | keyword keyword same => exact .inr (Terminal.unmarked_of_keyword keyword found)
      | other =>
        obtain ⟨x, w, rfl⟩ := List.exists_cons_of_length_pos (Terminal.lexemeLength?_within found).1
        exact .inl rfl

/-- The condition under which a text has the same lexeme ahead as a recased one, for texts that
differ behind their first portion only. -/
theorem marks_of_head {w rest rest' : List Char}
    (head : rest.head? = rest'.head? ∨ Lexeme.Unmarked rest) (occupied : 0 < w.length)
    (tail : List Char) (zero : w ++ rest = '0' :: tail) :
    tail.head? = (w ++ rest').tail.head? ∨ Lexeme.Unmarked tail := by
  match w, occupied with
  | [x], _ =>
    cases zero
    exact head
  | x :: y :: w, _ =>
    cases zero
    exact .inl rfl

/-- No keyword starts with a zero. -/
theorem starts_zero_of_keyword {t : Terminal} (keyword : t.words ≠ []) : t.starts '0' = false := by
  rw [Terminal.starts_of_isMark (by decide)]
  revert t
  decide +kernel

/-- A text with recased keywords is read in the recased portions. -/
theorem Reads.recased {statements : List Node} (reads : Reads a (.ok statements) c ps)
    (recased : List.Forall₂ Portion.Recased ps qs) {r : Stack} (alike : Stack.Alike c.stack r)
    (position : Position) :
    Reads a (.ok statements) ⟨position, texts qs, c.markers, r⟩ qs := by
  induction reads generalizing qs r position with
  | @ends c ends =>
    cases recased
    obtain ⟨start, rest, m, s⟩ := c
    obtain rfl : rest = [] := ends.1
    exact .ends (alike.ends ends)
  | @blank start w rest m s ps ahead later ih =>
    have whole := lowered_texts recased
    cases recased with
    | @cons _ q _ qs first others =>
      cases first
      have head := later.head_recased others
      have occupied := (Lexeme.blankLength?_within (Ahead.scan_blank ahead)).1
      rw [Portion.texts_cons, later.texts_eq, Portion.texts_cons, Portion.text_blank] at whole
      rw [alike.expected, Ahead.scan_recased whole (marks_of_head head occupied)] at ahead
      exact .blank ahead (ih others alike _)
  | @token start t w rest m s settled m' target ps ahead ready later ih =>
    have whole := lowered_texts recased
    cases recased with
    | @cons _ q _ qs first others =>
      have head := later.head_recased others
      have found := (Ahead.scan_lexeme ahead).2
      obtain ⟨settled', ready', alike'⟩ := alike.ready ready
      rw [alike.reductionBound] at ready'
      rw [Portion.texts_cons, later.texts_eq, Portion.texts_cons, Portion.text_token] at whole
      cases first with
      | other w other =>
        have occupied := (Terminal.lexemeLength?_within found).1
        rw [alike.expected, Ahead.scan_recased whole (marks_of_head head occupied)] at ahead
        exact .token ahead ready'
          (ih others (.cons (alike_recased (.other w other) _ _ _) alike') _)
      | @keyword _ _ w' keyword same =>
        have marks (tail : List Char) (zero : w ++ rest = '0' :: tail) :
            tail.head? = (w' ++ texts qs).tail.head? ∨ Lexeme.Unmarked tail := by
          rw [zero, Terminal.lexemeLength?_eq_none (starts_zero_of_keyword keyword)] at found
          cases found
        rw [alike.expected, Ahead.scan_recased whole marks, Lexeme.length_of_lowered same] at ahead
        exact .token ahead ready'
          (ih others (.cons (alike_recased (.keyword keyword same) _ _ _) alike') _)

end SqlSyntax.Grammar
