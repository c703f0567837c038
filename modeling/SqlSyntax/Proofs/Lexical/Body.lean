import Mathlib.Tactic.SplitIfs
import SqlSyntax.Lexical.Lexeme

/-!
# The inside of quoted texts

Between its quotes a text is a row of pairs of quotes, of escapes and of other characters. The first
character tells which of them comes next, so that a text is divided into them in one way only.
Hence the end of a quoted text is the first quote that is not in a pair, and it makes no difference
whether the pairs are read before the escapes or together with them.
-/

namespace SqlSyntax

open Text (singleQuote backQuote backslash)

/-- The text does not go on with that character. -/
def Avoids (c : Char) (rest : List Char) : Prop :=
  rest.head? ≠ some c

namespace Lexeme

/-- What may stand between two quotes; with `escapes` a backslash takes the character behind it. -/
inductive Body (quote : Char) (escapes : Bool) : List Char → Prop
  | nil : Body quote escapes []
  | pair {rest : List Char} (inside : Body quote escapes rest) :
      Body quote escapes (quote :: quote :: rest)
  | escape (c : Char) {rest : List Char} (allowed : escapes = true)
      (inside : Body quote escapes rest) : Body quote escapes (backslash :: c :: rest)
  | plain {c : Char} {rest : List Char} (other : c ≠ quote)
      (ordinary : ¬ (c = backslash ∧ escapes = true)) (inside : Body quote escapes rest) :
      Body quote escapes (c :: rest)

theorem body_escapeString (s : List Char) : Body singleQuote true (Text.escapeString s) := by
  induction s with
  | nil => exact .nil
  | cons c s ih =>
    rw [Text.escapeString]
    split_ifs with escaped
    · exact .escape c rfl ih
    · exact .plain (fun same => escaped (.inr same)) (fun both => escaped (.inl both.1)) ih

theorem body_doubleEach (quote : Char) (s : List Char) :
    Body quote false (Text.doubleEach quote s) := by
  induction s with
  | nil => exact .nil
  | cons c s ih =>
    rw [Text.doubleEach]
    split_ifs with same
    · exact .pair ih
    · exact .plain same (by simp) ih

variable {quote : Char} {escapes : Bool} {least taken : Nat} {body rest cs : List Char}

/-! ### Where a quoted text ends -/

theorem closing_end (avoids : Avoids quote rest) (enough : least < taken) (last : Option Nat) :
    closing quote escapes least (quote :: rest) taken last = some (taken + 1) := by
  cases rest with
  | nil => rw [closing, if_pos ⟨rfl, enough⟩]
  | cons d rest =>
    have other : d ≠ quote := fun same => avoids (by simp [same])
    rw [closing, if_pos rfl, if_neg other, if_pos enough]

/-- A text that is quoted ends at its own end, whatever follows. -/
theorem closing_body (apart : quote ≠ backslash) (inside : Body quote escapes body)
    (avoids : Avoids quote rest) (enough : least < taken + body.length) (last : Option Nat) :
    closing quote escapes least (body ++ quote :: rest) taken last =
      some (taken + body.length + 1) := by
  induction inside generalizing taken last with
  | nil => exact closing_end avoids enough last
  | @pair body _ ih =>
    rw [List.length_cons, List.length_cons] at enough ⊢
    rw [List.cons_append, List.cons_append, closing, if_pos rfl, if_pos rfl, ih (by omega)]
    congr 1
    omega
  | @escape c body allowed _ ih =>
    rw [List.length_cons, List.length_cons] at enough ⊢
    rw [List.cons_append, List.cons_append, closing, if_neg apart.symm, if_pos ⟨rfl, allowed⟩,
      ih (by omega)]
    congr 1
    omega
  | @plain c body other ordinary _ ih =>
    rw [List.length_cons] at enough ⊢
    have onward := @ih (taken + 1) (by omega) last
    rw [List.cons_append]
    cases behind : body ++ quote :: rest with
    | nil => simp at behind
    | cons d tail =>
      rw [behind] at onward
      rw [closing, if_neg other, if_neg ordinary, onward]
      congr 1
      omega

/-- A quoted text that takes all there is has its end there: going back to a pair of quotes would
leave something over. -/
theorem body_of_closing {last : Option Nat} {n : Nat}
    (found : closing quote escapes least cs taken last = some n) (whole : n = taken + cs.length)
    (earlier : ∀ k ∈ last, k < taken + cs.length) :
    ∃ body, cs = body ++ [quote] ∧ Body quote escapes body := by
  -- What is remembered in `last` lies before the end, so it cannot be the answer.
  fun_induction closing quote escapes least cs taken last with
  | case1 taken last => exact absurd (earlier n found) (by omega)
  | case2 c taken last ends => exact ⟨[], by rw [ends.1]; rfl, .nil⟩
  | case3 c taken last _ => exact absurd (earlier n found) (by omega)
  | case4 rest taken last ih =>
    rw [List.length_cons, List.length_cons] at whole earlier
    obtain ⟨body, rfl, inside⟩ := ih found (by omega) (by
      intro k remembered
      split_ifs at remembered
      · cases remembered
        omega
      · have := earlier k remembered
        omega)
    exact ⟨quote :: quote :: body, rfl, .pair inside⟩
  | case5 d rest taken last _ _ =>
    rw [List.length_cons, List.length_cons] at whole
    cases found
    omega
  | case6 d rest taken last _ _ => exact absurd (earlier n found) (by omega)
  | case7 c d rest taken last _ escaped ih =>
    rw [List.length_cons, List.length_cons] at whole earlier
    obtain ⟨body, rfl, inside⟩ := ih found (by omega) (by
      intro k remembered
      have := earlier k remembered
      omega)
    exact ⟨c :: d :: body, rfl, escaped.1 ▸ .escape d escaped.2 inside⟩
  | case8 c d rest taken last other ordinary ih =>
    rw [List.length_cons] at whole earlier
    obtain ⟨body, same, inside⟩ := ih found (by omega) (by
      intro k remembered
      have := earlier k remembered
      omega)
    exact ⟨c :: body, by rw [same]; rfl, .plain other ordinary inside⟩

/-- The string literals that take a text to its end. -/
theorem stringLength?_eq_length_iff :
    stringLength? cs = some cs.length ↔
      ∃ quote body, (quote = Text.singleQuote ∨ quote = Text.doubleQuote) ∧
        cs = quote :: (body ++ [quote]) ∧ Body quote true body := by
  constructor
  · intro found
    cases cs with
    | nil => cases found
    | cons quote cs =>
      rw [stringLength?] at found
      split_ifs at found with quoted
      obtain ⟨body, rfl, inside⟩ := body_of_closing found (Nat.add_comm _ _) nofun
      exact ⟨quote, body, quoted, rfl, inside⟩
  · rintro ⟨quote, body, quoted, rfl, inside⟩
    have apart : quote ≠ backslash := by
      obtain rfl | rfl := quoted <;> decide
    have ends : Avoids quote [] := by simp [Avoids]
    rw [stringLength?, if_pos quoted, closing_body apart inside ends (by omega)]
    simp only [List.length_cons, List.length_append, List.length_nil]
    congr 1
    omega

end Lexeme

/-! ### One pass and two -/

namespace Text

open Lexeme (Body)

/-- Reads a text from the left: a pair of quotes is one quote, a backslash and the character behind
it are what they stand for, and any other character is itself. -/
def decodeOnce (quote : Char) : List Char → List Char
  | x :: y :: rest =>
    if x = quote ∧ y = quote then quote :: decodeOnce quote rest
    else if x = backslash then escapeMeaning y ++ decodeOnce quote rest
    else x :: decodeOnce quote (y :: rest)
  | rest => rest

variable {quote : Char} {body : List Char}

theorem collapsePairs_cons {c : Char} (other : c ≠ quote) (rest : List Char) :
    collapsePairs quote (c :: rest) = c :: collapsePairs quote rest := by
  cases rest with
  | nil => rfl
  | cons d rest => rw [collapsePairs, if_neg fun both => other both.1]

theorem resolveEscapes_cons {c : Char} (other : c ≠ backslash) (rest : List Char) :
    resolveEscapes (c :: rest) = c :: resolveEscapes rest := by
  cases rest with
  | nil => rfl
  | cons d rest => rw [resolveEscapes, if_neg other]

theorem decodeOnce_cons {c : Char} (other : c ≠ quote) (ordinary : c ≠ backslash)
    (rest : List Char) : decodeOnce quote (c :: rest) = c :: decodeOnce quote rest := by
  cases rest with
  | nil => rfl
  | cons d rest => rw [decodeOnce, if_neg fun both => other both.1, if_neg ordinary]

/-- In front of pairs a quote makes a pair with the first quote of the first of them, and so on; but
in the end the same number of quotes is left. -/
theorem collapsePairs_quote_body {escapes : Bool} (apart : quote ≠ backslash)
    (inside : Body quote escapes body) :
    collapsePairs quote (quote :: body) = quote :: collapsePairs quote body := by
  induction inside with
  | nil => rfl
  | pair _ ih => rw [collapsePairs, if_pos ⟨rfl, rfl⟩, ih, collapsePairs, if_pos ⟨rfl, rfl⟩]
  | escape c allowed _ _ => rw [collapsePairs, if_neg fun both => apart both.2.symm]
  | plain other _ _ _ => rw [collapsePairs, if_neg fun both => other both.2]

/-- The second pass finds the escapes where the first one has left them. -/
theorem resolveEscapes_collapsePairs (apart : quote ≠ backslash) (inside : Body quote true body) :
    resolveEscapes (collapsePairs quote body) = decodeOnce quote body := by
  induction inside with
  | nil => rfl
  | pair _ ih =>
    rw [collapsePairs, if_pos ⟨rfl, rfl⟩, resolveEscapes_cons apart, ih, decodeOnce,
      if_pos ⟨rfl, rfl⟩]
  | @escape c rest _ inside ih =>
    have kept : collapsePairs quote (c :: rest) = c :: collapsePairs quote rest := by
      by_cases same : c = quote
      · subst same
        exact collapsePairs_quote_body apart inside
      · exact collapsePairs_cons same rest
    rw [collapsePairs_cons apart.symm, kept, resolveEscapes, if_pos rfl, ih, decodeOnce,
      if_neg fun both => apart both.1.symm, if_pos rfl]
  | plain other ordinary _ ih =>
    have plain := fun same => ordinary ⟨same, rfl⟩
    rw [collapsePairs_cons other, resolveEscapes_cons plain, ih, decodeOnce_cons other plain]

/-- An escaped text means the text. -/
theorem decodeOnce_escapeString (s : List Char) : decodeOnce singleQuote (escapeString s) = s := by
  induction s with
  | nil => rfl
  | cons c s ih =>
    rw [escapeString]
    split_ifs with escaped
    · have apart : backslash ≠ singleQuote := by decide
      have means : escapeMeaning c = [c] := by
        obtain rfl | rfl := escaped <;> rfl
      rw [decodeOnce, if_neg fun both => apart both.1, if_pos rfl, means, ih]
      rfl
    · rw [decodeOnce_cons (fun same => escaped (.inr same)) fun same => escaped (.inl same), ih]

end Text

end SqlSyntax
