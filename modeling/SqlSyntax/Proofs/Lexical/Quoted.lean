import SqlSyntax.Proofs.Lexical.Stop

/-!
# The end of quoted texts

If the end of a quoted text is missing, it is taken to end at the first quote of its last pair. What
is left then starts with a quote that is never closed, at which no lexeme can be found. So in a text
that is read to its end every quoted text has its own end, and more text behind does not move it.
-/

namespace SqlSyntax.Lexeme

/-- No quote ends the text. -/
def Unended (quote : Char) (escapes : Bool) : List Char → Prop
  | [] => True
  | [c] => c ≠ quote
  | c :: d :: rest =>
    c ≠ quote ∧
      if c = Text.backslash ∧ escapes then Unended quote escapes rest
      else Unended quote escapes (d :: rest)

variable {quote : Char} {escapes : Bool} {least : Nat}

theorem closing_of_unended {cs : List Char} (unended : Unended quote escapes cs) (taken : Nat)
    (last : Option Nat) : closing quote escapes least cs taken last = last := by
  fun_induction closing quote escapes least cs taken last with
  | case1 => rfl
  | case2 c taken last ends => exact absurd ends.1 unended
  | case3 => rfl
  | case4 => exact absurd rfl unended.1
  | case5 => exact absurd rfl unended.1
  | case6 => rfl
  | case7 c d rest taken last _ escaped ih =>
    rw [Unended, if_pos escaped] at unended
    exact ih unended.2
  | case8 c d rest taken last _ plain ih =>
    rw [Unended, if_neg plain] at unended
    exact ih unended.2

/-- What `closing` finds is the end of the text whatever follows, or the quote it went back to. -/
theorem closing_append {cs : List Char} {taken n : Nat} {last : Option Nat} (behind : least < taken)
    (found : closing quote escapes least cs taken last = some n) {x : Char} (other : x ≠ quote)
    (r : List Char) :
    closing quote escapes least (cs ++ x :: r) taken last = some n ∨
      (last = some n ∧ Unended quote escapes cs) ∨
      taken ≤ n ∧ ∃ left, cs.drop (n - taken) = quote :: left ∧ Unended quote escapes left := by
  fun_induction closing quote escapes least cs taken last with
  | case1 => exact .inr (.inl ⟨found, trivial⟩)
  | case2 c taken last ends =>
    left
    simp [closing, ends.1, other, behind, found]
  | case3 c taken last goes =>
    exact .inr (.inl ⟨found, fun same => goes ⟨same, behind⟩⟩)
  | case4 rest taken last ih =>
    rw [if_pos behind] at ih found
    obtain same | ⟨back, unended⟩ | ⟨later, left, stays, unended⟩ := ih (by omega) found
    · left
      simpa [closing, behind] using same
    · cases back
      exact .inr (.inr ⟨by omega, rest, by simp, unended⟩)
    · refine .inr (.inr ⟨by omega, left, ?_, unended⟩)
      obtain ⟨k, rfl⟩ := Nat.exists_eq_add_of_le later
      rw [show taken + 2 + k - taken = k + 2 by omega]
      rwa [show taken + 2 + k - (taken + 2) = k by omega] at stays
  | case5 d rest taken last different =>
    left
    simpa [closing, different, behind] using found
  | case6 d rest taken last different short => exact absurd behind short
  | case7 c d rest taken last ordinary escaped ih =>
    obtain same | ⟨back, unended⟩ | ⟨later, left, stays, unended⟩ := ih (by omega) found
    · left
      rw [List.cons_append, List.cons_append, closing, if_neg ordinary, if_pos escaped]
      exact same
    · refine .inr (.inl ⟨back, ordinary, ?_⟩)
      rw [if_pos escaped]
      exact unended
    · refine .inr (.inr ⟨by omega, left, ?_, unended⟩)
      obtain ⟨k, rfl⟩ := Nat.exists_eq_add_of_le later
      rw [show taken + 2 + k - taken = k + 2 by omega]
      rwa [show taken + 2 + k - (taken + 2) = k by omega] at stays
  | case8 c d rest taken last ordinary plain ih =>
    obtain same | ⟨back, unended⟩ | ⟨later, left, stays, unended⟩ := ih (by omega) found
    · left
      rw [List.cons_append, List.cons_append, closing, if_neg ordinary, if_neg plain]
      exact same
    · refine .inr (.inl ⟨back, ordinary, ?_⟩)
      rw [if_neg plain]
      exact unended
    · refine .inr (.inr ⟨by omega, left, ?_, unended⟩)
      obtain ⟨k, rfl⟩ := Nat.exists_eq_add_of_le later
      rw [show taken + 1 + k - taken = k + 1 by omega]
      rwa [show taken + 1 + k - (taken + 1) = k by omega] at stays

theorem closing_none_append {cs : List Char} {taken n : Nat} (behind : least < taken)
    (found : closing quote escapes least cs taken none = some n) {x : Char} (other : x ≠ quote)
    (r : List Char) :
    closing quote escapes least (cs ++ x :: r) taken none = some n ∨
      taken ≤ n ∧ ∃ left, cs.drop (n - taken) = quote :: left ∧ Unended quote escapes left := by
  obtain same | ⟨back, _⟩ | later := closing_append behind found other r
  · exact .inl same
  · cases back
  · exact .inr later

/-- What is left of a quoted text that has lost its end. -/
def LeftOpen (cs : List Char) : Prop :=
  ∃ quote left, cs = quote :: left ∧
    ((quote = Text.singleQuote ∨ quote = Text.doubleQuote) ∧ Unended quote true left ∨
      quote = Text.backQuote ∧ Unended quote false left)

theorem stringLength?_append {cs : List Char} {n : Nat} (found : stringLength? cs = some n)
    {x : Char}
    (stop : x ∈ stops) (r : List Char) :
    stringLength? (cs ++ x :: r) = some n ∨ LeftOpen (cs.drop n) := by
  cases cs with
  | nil => simp [stringLength?] at found
  | cons quote cs =>
    rw [stringLength?] at found
    split_ifs at found with quoted
    have other : x ≠ quote := by
      obtain rfl | rfl := quoted <;> exact ne_of_mem_stops stop (by decide)
    obtain same | ⟨later, left, stays, unended⟩ := closing_none_append (by decide) found other r
    · left
      rwa [List.cons_append, stringLength?, if_pos quoted]
    · right
      obtain ⟨k, rfl⟩ := Nat.exists_eq_add_of_le' later
      exact ⟨quote, left, stays, .inl ⟨quoted, unended⟩⟩

/-- A quoted name has at least one character, so its first two steps are looked at one by one. -/
theorem quotedNameLength?_append {cs : List Char} {n : Nat}
    (found : quotedNameLength? cs = some n) {x : Char} (stop : x ∈ stops) (r : List Char) :
    quotedNameLength? (cs ++ x :: r) = some n ∨ LeftOpen (cs.drop n) := by
  have other : x ≠ Text.backQuote := ne_of_mem_stops stop (by decide)
  match cs with
  | [] => simp [quotedNameLength?] at found
  | [quote] => simp [quotedNameLength?, closing] at found
  | [quote, c] => simp [quotedNameLength?, closing] at found
  | quote :: c :: d :: cs =>
    rw [quotedNameLength?] at found
    split_ifs at found with quoted
    rw [List.cons_append, quotedNameLength?, if_pos quoted]
    subst quoted
    rw [closing] at found
    rw [List.cons_append, List.cons_append, closing]
    by_cases first : c = Text.backQuote
    · by_cases second : d = Text.backQuote
      · simp only [first, second, Nat.lt_irrefl, if_true, if_false] at found ⊢
        obtain same | ⟨later, left, stays, unended⟩ :=
          closing_none_append (by decide) found other r
        · exact .inl same
        · right
          obtain ⟨k, rfl⟩ := Nat.exists_eq_add_of_le' later
          exact ⟨Text.backQuote, left, stays, .inr ⟨rfl, unended⟩⟩
      · simp [first, second] at found
    · rw [if_neg first, if_neg (by simp)] at found ⊢
      obtain same | ⟨later, left, stays, unended⟩ := closing_none_append (by decide) found other r
      · exact .inl same
      · right
        obtain ⟨k, rfl⟩ := Nat.exists_eq_add_of_le' later
        exact ⟨Text.backQuote, left, stays, .inr ⟨rfl, unended⟩⟩

theorem stringLength?_of_unended {quote : Char} {left : List Char}
    (unended : Unended quote true left) : stringLength? (quote :: left) = none := by
  rw [stringLength?, closing_of_unended unended, ite_self]

theorem quotedNameLength?_of_unended {quote : Char} {left : List Char}
    (unended : Unended quote false left) : quotedNameLength? (quote :: left) = none := by
  rw [quotedNameLength?, closing_of_unended unended, ite_self]

end SqlSyntax.Lexeme

namespace SqlSyntax

theorem Terminal.eq_string_of_starts {t : Terminal} {quote : Char}
    (quoted : quote = Text.singleQuote ∨ quote = Text.doubleQuote)
    (starts : t.starts quote = true) : t = .string := by
  rw [Terminal.starts_of_isMark (by obtain rfl | rfl := quoted <;> decide)] at starts
  revert t
  obtain rfl | rfl := quoted <;> decide +kernel

theorem Terminal.eq_quotedName_of_starts {t : Terminal} (starts : t.starts Text.backQuote = true) :
    t = .quotedName := by
  rw [Terminal.starts_of_isMark (by decide)] at starts
  revert t
  decide +kernel

namespace Ahead

theorem scan_eq_unknown {expected : TerminalSet} {c : Char} {cs : List Char}
    (blank : Lexeme.blankLength? (c :: cs) = none)
    (lexemes : ∀ t, expected.contains t = true → t.lexemeLength? (c :: cs) = none) :
    scan expected (c :: cs) = .unknown := by
  have none_found : (Terminal.precedence.filter expected.contains).findSome? (fun t =>
      (t.lexemeLength? (c :: cs)).map fun n => Ahead.lexeme t n) = none := by
    rw [List.findSome?_eq_none_iff]
    intro t member
    rw [lexemes t (List.mem_filter.mp member).2, Option.map_none]
  simp only [scan, blank, none_found]

theorem scan_leftOpen {cs : List Char} (left : Lexeme.LeftOpen cs) (expected : TerminalSet) :
    scan expected cs = .unknown := by
  obtain ⟨quote, left, rfl, unended⟩ := left
  apply scan_eq_unknown
  · obtain ⟨rfl | rfl, _⟩ | ⟨rfl, _⟩ := unended <;>
      simp [Lexeme.blankLength?, Text.singleQuote, Text.doubleQuote, Text.backQuote, Text.isLayout]
  · intro t _
    cases found : t.lexemeLength? (quote :: left) with
    | none => rfl
    | some n =>
      have starts := Terminal.starts_of_lexemeLength? found
      obtain ⟨quoted, unended⟩ | ⟨rfl, unended⟩ := unended
      · cases Terminal.eq_string_of_starts quoted starts
        rw [Terminal.lexemeLength?, Lexeme.stringLength?_of_unended unended] at found
        cases found
      · cases Terminal.eq_quotedName_of_starts starts
        rw [Terminal.lexemeLength?, Lexeme.quotedNameLength?_of_unended unended] at found
        cases found

end Ahead

end SqlSyntax
