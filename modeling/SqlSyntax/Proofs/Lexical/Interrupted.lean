import SqlSyntax.Proofs.Lexical.Continuations

/-!
# Texts that a comment interrupts

A slash ends every lexeme before it that is not quoted. So a text in which a comment is put behind
some of its lexemes has the same lexeme ahead, unless the text behind that lexeme can not be read,
or a keyword or a based number was continued at the place of the comment.
-/

namespace SqlSyntax

namespace Lexeme

/-! ### Quoted texts -/

variable {quote : Char} {escapes : Bool} {least : Nat}

/-- An end that does not lie ahead was remembered, and there is none ahead. -/
theorem unended_of_closing {cs : List Char} {taken n : Nat} {last : Option Nat}
    (behind : least < taken)
    (found : closing quote escapes least cs taken last = some n) (passed : n ≤ taken) :
    last = some n ∧ Unended quote escapes cs := by
  fun_induction closing quote escapes least cs taken last with
  | case1 => exact ⟨found, trivial⟩
  | case2 c taken last ends =>
    cases found
    omega
  | case3 c taken last goes => exact ⟨found, fun same => goes ⟨same, behind⟩⟩
  | case4 rest taken last ih =>
    rw [if_pos behind] at ih found
    obtain ⟨remembered, _⟩ := ih (by omega) found (by omega)
    cases remembered
    omega
  | case5 d rest taken last different =>
    cases found
    omega
  | case6 d rest taken last different short => exact absurd behind short
  | case7 c d rest taken last ordinary escaped ih =>
    obtain ⟨remembered, unended⟩ := ih (by omega) found (by omega)
    refine ⟨remembered, ordinary, ?_⟩
    rw [if_pos escaped]
    exact unended
  | case8 c d rest taken last ordinary plain ih =>
    obtain ⟨remembered, unended⟩ := ih (by omega) found (by omega)
    refine ⟨remembered, ordinary, ?_⟩
    rw [if_neg plain]
    exact unended

theorem drop_sub_cons {c : Char} {cs : List Char} {taken n : Nat} (later : taken + 1 ≤ n) :
    (c :: cs).drop (n - taken) = cs.drop (n - (taken + 1)) := by
  rw [show n - taken = n - (taken + 1) + 1 by omega, List.drop_succ_cons]

/-- The end of a quoted text is found too if something else follows it, unless the text went back to
a pair of quotes. -/
theorem closing_interrupted {cs rest : List Char} {taken n : Nat} {last : Option Nat}
    (behind : least < taken) (found : closing quote escapes least (cs ++ rest) taken last = some n)
    (room : n ≤ taken + cs.length) {x : Char} (other : x ≠ quote) (y : List Char) :
    closing quote escapes least (cs ++ x :: y) taken last = some n ∨
      (last = some n ∧ Unended quote escapes (cs ++ rest)) ∨
      taken ≤ n ∧ ∃ left, (cs ++ rest).drop (n - taken) = quote :: left ∧
        Unended quote escapes left := by
  fun_induction closing quote escapes least cs taken last with
  | case1 taken last => exact .inr (.inl (unended_of_closing behind found room))
  | case2 c taken last ends =>
    have same : closing quote escapes least (c :: x :: y) taken last = some (taken + 1) := by
      rw [closing, if_pos ends.1, if_neg other, if_pos behind]
    cases rest with
    | nil => exact .inl (same.trans (by simpa [closing, ends] using found))
    | cons d rest =>
      rw [List.cons_append, List.nil_append, closing, if_pos ends.1, if_pos behind] at found
      split_ifs at found with pair
      · obtain ⟨remembered, unended⟩ := unended_of_closing (by omega) found (by
          rw [List.length_singleton] at room
          omega)
        cases remembered
        exact .inr (.inr ⟨by omega, rest, by simp [pair], unended⟩)
      · exact .inl (same.trans found)
  | case3 c taken last goes =>
    have ordinary : c ≠ quote := fun same => goes ⟨same, behind⟩
    rw [List.length_singleton] at room
    cases rest with
    | nil => exact .inr (.inl ⟨by simpa [closing, ordinary] using found, ordinary⟩)
    | cons d rest =>
      right
      left
      rw [List.cons_append, List.nil_append, closing, if_neg ordinary] at found
      split_ifs at found with escaped
      · obtain ⟨remembered, unended⟩ := unended_of_closing (by omega) found (by omega)
        refine ⟨remembered, ordinary, ?_⟩
        rwa [if_pos escaped]
      · obtain ⟨remembered, unended⟩ := unended_of_closing (by omega) found room
        refine ⟨remembered, ordinary, ?_⟩
        rwa [if_neg escaped]
  | case4 cs taken last ih =>
    rw [List.cons_append, List.cons_append, closing, if_pos rfl, if_pos rfl, if_pos behind] at found
    rw [if_pos behind] at ih
    simp only [List.length_cons] at room
    obtain same | ⟨back, unended⟩ | ⟨later, left, stays, unended⟩ := ih (by omega) found (by omega)
    · left
      simpa [closing, behind] using same
    · cases back
      exact .inr (.inr ⟨by omega, cs ++ rest, by simp, unended⟩)
    · refine .inr (.inr ⟨by omega, left, ?_, unended⟩)
      rwa [List.cons_append, List.cons_append, drop_sub_cons (by omega), drop_sub_cons later]
  | case5 d cs taken last different enough =>
    left
    simpa [closing, different, behind] using found
  | case6 d cs taken last different short => exact absurd behind short
  | case7 c d cs taken last ordinary escaped ih =>
    rw [List.cons_append, List.cons_append, closing, if_neg ordinary, if_pos escaped] at found
    simp only [List.length_cons] at room
    obtain same | ⟨back, unended⟩ | ⟨later, left, stays, unended⟩ := ih (by omega) found (by omega)
    · left
      rw [List.cons_append, List.cons_append, closing, if_neg ordinary, if_pos escaped]
      exact same
    · refine .inr (.inl ⟨back, ordinary, ?_⟩)
      rw [if_pos escaped]
      exact unended
    · refine .inr (.inr ⟨by omega, left, ?_, unended⟩)
      rwa [List.cons_append, List.cons_append, drop_sub_cons (by omega), drop_sub_cons later]
  | case8 c d cs taken last ordinary plain ih =>
    rw [List.cons_append, List.cons_append, closing, if_neg ordinary, if_neg plain] at found
    rw [List.length_cons] at room
    obtain same | ⟨back, unended⟩ | ⟨later, left, stays, unended⟩ := ih (by omega) found (by omega)
    · left
      rw [List.cons_append, List.cons_append, closing, if_neg ordinary, if_neg plain]
      exact same
    · refine .inr (.inl ⟨back, ordinary, ?_⟩)
      rw [if_neg plain]
      exact unended
    · refine .inr (.inr ⟨by omega, left, ?_, unended⟩)
      rwa [List.cons_append, drop_sub_cons later]

theorem stringLength?_interrupted {cs rest : List Char} {n : Nat}
    (found : stringLength? (cs ++ rest) = some n) (room : n ≤ cs.length) (y : List Char) :
    stringLength? (cs ++ '/' :: y) = some n ∨ LeftOpen ((cs ++ rest).drop n) := by
  cases cs with
  | nil =>
    have := (stringLength?_within found).1
    rw [List.length_nil] at room
    omega
  | cons quote cs =>
    rw [List.cons_append, stringLength?] at found
    split_ifs at found with quoted
    have other : '/' ≠ quote := by
      obtain rfl | rfl := quoted <;> decide
    obtain same | ⟨back, _⟩ | ⟨later, left, stays, unended⟩ :=
      closing_interrupted (by decide) found (by rwa [Nat.add_comm]) other y
    · left
      rwa [List.cons_append, stringLength?, if_pos quoted]
    · cases back
    · right
      refine ⟨quote, left, ?_, .inl ⟨quoted, unended⟩⟩
      obtain ⟨k, rfl⟩ := Nat.exists_eq_add_of_le' later
      exact stays

theorem quotedNameLength?_interrupted {cs rest : List Char} {n : Nat}
    (found : quotedNameLength? (cs ++ rest) = some n) (room : n ≤ cs.length) (y : List Char) :
    quotedNameLength? (cs ++ '/' :: y) = some n ∨ LeftOpen ((cs ++ rest).drop n) := by
  have long := two_lt_of_quotedNameLength? found
  match cs, long.trans_le room with
  | quote :: c :: d :: cs, _ =>
    simp only [List.cons_append, quotedNameLength?] at found ⊢
    split_ifs at found with quoted
    rw [if_pos quoted]
    subst quoted
    have other : '/' ≠ Text.backQuote := by decide
    simp only [List.length_cons] at room
    rw [closing] at found ⊢
    by_cases first : c = Text.backQuote
    · by_cases second : d = Text.backQuote
      · simp only [first, second, Nat.lt_irrefl, if_true, if_false] at found ⊢
        obtain same | ⟨back, _⟩ | ⟨later, left, stays, unended⟩ :=
          closing_interrupted (by decide) found (by omega) other y
        · exact .inl same
        · cases back
        · refine .inr ⟨Text.backQuote, left, ?_, .inr ⟨rfl, unended⟩⟩
          rw [← stays]
          obtain ⟨k, rfl⟩ := Nat.exists_eq_add_of_le' later
          rfl
      · simp [first, second] at found
    · rw [if_neg first, if_neg (by simp)] at found ⊢
      have found : closing Text.backQuote false 1 (d :: cs ++ rest) 2 none = some n := found
      obtain same | ⟨back, _⟩ | ⟨later, left, stays, unended⟩ :=
        closing_interrupted (by decide) found (by rw [List.length_cons]; omega) other y
      · exact .inl same
      · cases back
      · refine .inr ⟨Text.backQuote, left, ?_, .inr ⟨rfl, unended⟩⟩
        rw [← stays]
        obtain ⟨k, rfl⟩ := Nat.exists_eq_add_of_le' later
        rfl

/-! ### Blanks -/

theorem runLength_interrupted {p : Char → Bool} {cs rest : List Char}
    (inside : runLength p (cs ++ rest) < cs.length) (y : List Char) :
    runLength p (cs ++ y) = runLength p (cs ++ rest) := by
  have cut (zs : List Char) := runLength_take p (cs ++ zs) cs.length
  have := cut rest
  have := cut y
  rw [List.take_left] at *
  omega

theorem add_two_le_of_blockEnd? {cs : List Char} {taken n : Nat}
    (found : blockEnd? cs taken = some n) : taken + 2 ≤ n := by
  fun_induction blockEnd? cs taken with
  | case1 rest taken => exact Nat.le_of_eq (Option.some.inj found)
  | case2 c rest taken _ ih => exact Nat.le_of_succ_le (ih found)
  | case3 => cases found

theorem blockEnd?_interrupted {cs rest : List Char} {taken n : Nat}
    (found : blockEnd? (cs ++ rest) taken = some n) (room : n ≤ taken + cs.length) (y : List Char) :
    blockEnd? (cs ++ y) taken = some n := by
  induction cs generalizing taken with
  | nil =>
    have := add_two_le_of_blockEnd? found
    rw [List.length_nil] at room
    omega
  | cons c cs ih =>
    rw [List.length_cons] at room
    cases cs with
    | nil =>
      have := add_two_le_of_blockEnd? found
      rw [List.length_nil] at room
      omega
    | cons d cs =>
      by_cases ends : c = '*' ∧ d = '/'
      · obtain ⟨rfl, rfl⟩ := ends
        exact found
      · have goes (tail : List Char) :
            blockEnd? (c :: d :: tail) taken = blockEnd? (d :: tail) (taken + 1) := by
          rw [blockEnd?]
          exact fun _ star slash => ends ⟨star, (List.cons.inj slash).1⟩
        rw [List.cons_append, List.cons_append, goes] at found ⊢
        exact ih found (by omega)

/-- The four kinds of blanks. -/
theorem blankLength?_cases {cs : List Char} {n : Nat} (found : blankLength? cs = some n) :
    (∃ rest, cs = '#' :: rest ∧ n = 1 + runLength (· != '\n') rest) ∨
      (∃ rest, cs = '-' :: '-' :: rest ∧ rest.head?.all Text.isBlank = true ∧
        n = 2 + runLength (· != '\n') rest) ∨
      (∃ rest, cs = '/' :: '*' :: rest ∧ blockEnd? rest 2 = some n) ∨
      ∃ c rest, cs = c :: rest ∧ Text.isLayout c = true ∧
        n = 1 + runLength Text.isLayout rest := by
  unfold blankLength? at found
  split at found
  · exact .inl ⟨_, rfl, (Option.some.inj found).symm⟩
  · split_ifs at found with blank
    exact .inr (.inl ⟨_, rfl, blank, (Option.some.inj found).symm⟩)
  · exact .inr (.inr (.inl ⟨_, rfl, found⟩))
  · split_ifs at found with layout
    exact .inr (.inr (.inr ⟨_, _, rfl, layout, (Option.some.inj found).symm⟩))
  · cases found

theorem exists_cons_cons {cs : List Char} (long : 2 ≤ cs.length) :
    ∃ c d tail, cs = c :: d :: tail := by
  match cs, long with
  | c :: d :: tail, _ => exact ⟨c, d, tail, rfl⟩

/-- A blank that ends within the text does not depend on what follows. -/
theorem blankLength?_interrupted {cs rest : List Char} {n : Nat}
    (found : blankLength? (cs ++ rest) = some n) (inside : n < cs.length) (y : List Char) :
    blankLength? (cs ++ y) = some n := by
  obtain ⟨tail, same, rfl⟩ | ⟨tail, same, blank, rfl⟩ | ⟨tail, same, ends⟩ |
    ⟨c, tail, same, layout, rfl⟩ := blankLength?_cases found
  · obtain ⟨c, cs, rfl⟩ := List.exists_cons_of_length_pos (Nat.zero_lt_of_lt inside)
    rw [List.cons_append, List.cons.injEq] at same
    obtain ⟨rfl, rfl⟩ := same
    have inside : runLength (· != '\n') (cs ++ rest) < cs.length := by
      rw [List.length_cons] at inside
      omega
    rw [List.cons_append, blankLength?, runLength_interrupted inside]
  · have long : 2 ≤ cs.length := by omega
    obtain ⟨c, d, cs, rfl⟩ := exists_cons_cons long
    simp only [List.cons_append, List.cons.injEq] at same
    obtain ⟨rfl, rfl, rfl⟩ := same
    have inside : runLength (· != '\n') (cs ++ rest) < cs.length := by
      simp only [List.length_cons] at inside
      omega
    have more : cs ≠ [] := List.ne_nil_of_length_pos (Nat.zero_lt_of_lt inside)
    rw [List.head?_append_of_ne_nil _ more] at blank
    rw [List.cons_append, List.cons_append, blankLength?, List.head?_append_of_ne_nil _ more,
      if_pos blank, runLength_interrupted inside]
  · have long : 2 ≤ cs.length := by
      have := add_two_le_of_blockEnd? ends
      omega
    obtain ⟨c, d, cs, rfl⟩ := exists_cons_cons long
    simp only [List.cons_append, List.cons.injEq] at same
    obtain ⟨rfl, rfl, rfl⟩ := same
    simp only [List.length_cons] at inside
    exact blockEnd?_interrupted ends (by omega) y
  · obtain ⟨d, cs, rfl⟩ := List.exists_cons_of_length_pos (Nat.zero_lt_of_lt inside)
    rw [List.cons_append, List.cons.injEq] at same
    obtain ⟨rfl, rfl⟩ := same
    have inside : runLength Text.isLayout (cs ++ rest) < cs.length := by
      rw [List.length_cons] at inside
      omega
    rw [List.cons_append, blankLength?_of_layout layout, runLength_interrupted inside]

/-- A slash does not make a blank of what is none, unless a block comment is open. -/
theorem blankLength?_interrupted_of_none {c : Char} {cs rest : List Char}
    (absent : blankLength? (c :: cs ++ rest) = none) (y : List Char) :
    blankLength? (c :: cs ++ '/' :: y) = none ∨ ∃ left, c :: cs = '/' :: '*' :: left := by
  by_contra neither
  obtain ⟨blank, closed⟩ := not_or.mp neither
  obtain ⟨n, found⟩ := Option.ne_none_iff_exists'.mp blank
  obtain ⟨tail, same, _⟩ | ⟨tail, same, blank, _⟩ | ⟨tail, same, _⟩ | ⟨d, tail, same, layout, _⟩ :=
    blankLength?_cases found
  · rw [List.cons_append, List.cons.injEq] at same
    rw [same.1] at absent
    simp [blankLength?] at absent
  · cases cs with
    | nil => simp at same
    | cons d cs =>
      simp only [List.cons_append, List.cons.injEq] at same
      obtain ⟨rfl, rfl, rfl⟩ := same
      cases cs with
      | nil => exact absurd (show Text.isBlank '/' = true from blank) (by decide)
      | cons e cs =>
        have blank : Text.isBlank e = true := blank
        simp [blankLength?, blank] at absent
  · cases cs with
    | nil => simp at same
    | cons d cs =>
      simp only [List.cons_append, List.cons.injEq] at same
      obtain ⟨rfl, rfl, _⟩ := same
      exact closed ⟨cs, rfl⟩
  · rw [List.cons_append, List.cons.injEq] at same
    rw [List.cons_append, same.1, blankLength?_of_layout layout] at absent
    cases absent

end Lexeme

/-! ### The lexeme ahead -/

namespace Terminal

/-- What stands before the first element with the given image, and is kept, has none. -/
theorem eq_none_of_findSome?_filter {α β : Type} [DecidableEq α] {f : α → Option β} {p : α → Bool}
    {a : α} {b : β} {xs : List α} (own : ∀ x, f x = some b → x = a)
    (found : (xs.filter p).findSome? f = some b) :
    ∀ x ∈ xs.takeWhile (· != a), p x = true → f x = none := by
  induction xs with
  | nil => nofun
  | cons x xs ih =>
    by_cases same : x = a
    · simp [same]
    · rw [List.takeWhile_cons_of_pos (by simpa using same)]
      by_cases keeps : p x = true
      · rw [List.filter_cons_of_pos keeps, List.findSome?_cons] at found
        cases image : f x with
        | some c =>
          rw [image] at found
          exact absurd (own x (image.trans found)) same
        | none =>
          rw [image] at found
          rintro y (_ | ⟨_, member⟩) kept
          · exact image
          · exact ih found y member kept
      · rw [List.filter_cons_of_neg keeps] at found
        rintro y (_ | ⟨_, member⟩) kept
        · exact absurd kept keeps
        · exact ih found y member kept

theorem ne_of_mem_preferred {t u : Terminal} (before : u ∈ t.preferred) : u ≠ t := by
  simpa using List.mem_takeWhile_imp before

/-- What names are preferred to are no names, keywords or based numbers. -/
theorem name_mem_preferred {t : Terminal} (before : .name ∈ t.preferred) :
    t.words = [] ∧ t ≠ .hexNumber ∧ t ≠ .bitNumber := by
  revert t
  decide +kernel

/-- The only terminals that start with a quote are quoted. -/
theorem eq_of_quoted {t u : Terminal} {c : Char} (quoted : u.isBare = false)
    (first : u.starts c = true)
    (starts : t.starts c = true) : t = u := by
  obtain rfl | rfl := isBare_cases quoted
  · exact eq_string_of_starts (by simpa [Terminal.starts] using first) starts
  · obtain rfl : c = Text.backQuote := by simpa [Terminal.starts] using first
    exact eq_quotedName_of_starts starts

variable {c : Char} {cs rest : List Char} {t u : Terminal} {n : Nat}

/-- A lexeme within the text is a lexeme there when a slash follows the text. -/
theorem lexemeLength?_interrupted (found : t.lexemeLength? (c :: cs ++ rest) = some n)
    (room : n ≤ (c :: cs).length) (y : List Char) :
    t.lexemeLength? (c :: cs ++ '/' :: y) = some n ∨
      Lexeme.LeftOpen ((c :: cs ++ rest).drop n) := by
  cases bare : t.isBare with
  | true =>
    left
    have cut := lexemeLength?_take bare found room
    rw [List.take_left] at cut
    rw [lexemeLength?_append bare (by decide), cut]
  | false =>
    obtain rfl | rfl := isBare_cases bare
    · rw [lexemeLength?] at found ⊢
      exact Lexeme.stringLength?_interrupted found room y
    · rw [lexemeLength?] at found ⊢
      exact Lexeme.quotedNameLength?_interrupted found room y

/-- What is preferred to the lexeme, and was not found, is not found there either, unless it was
continued. -/
theorem eq_none_of_interrupted (found : t.lexemeLength? (c :: cs ++ rest) = some n)
    (before : u ∈ t.preferred) (absent : u.lexemeLength? (c :: cs ++ rest) = none) (y : List Char) :
    u.lexemeLength? (c :: cs ++ '/' :: y) = none ∨ Lexeme.WordContinued (c :: cs) rest ∨
      Lexeme.BaseContinued (c :: cs) rest := by
  cases ahead : u.lexemeLength? (c :: cs ++ '/' :: y) with
  | none => exact .inl rfl
  | some m =>
    right
    have first := starts_of_lexemeLength? ahead
    have starts := starts_of_lexemeLength? found
    have bare : u.isBare = true := by
      by_contra quoted
      exact ne_of_mem_preferred before (eq_of_quoted (eq_false_of_ne_true quoted) first starts).symm
    have other : u ≠ .name := by
      rintro rfl
      obtain ⟨wordless, plain⟩ := name_mem_preferred before
      obtain rfl | keyword | hex | bit := cases_of_starts_letter first starts
      · exact ne_of_mem_preferred before rfl
      · exact keyword wordless
      · exact plain.1 hex
      · exact plain.2 bit
    rw [lexemeLength?_append bare (by decide)] at ahead
    refine (lexemeLength?_append_of_bare bare other ahead rest).resolve_left fun found => ?_
    rw [absent] at found
    cases found

end Terminal

namespace Ahead

variable {expected : TerminalSet} {cs rest : List Char} {t : Terminal} {n : Nat}

theorem scan_preferred (ahead : scan expected cs = .lexeme t n) :
    ∀ u ∈ t.preferred, expected.contains u = true → u.lexemeLength? cs = none := by
  cases cs with
  | nil => cases ahead
  | cons c cs =>
    have blank := scan_lexeme_blank ahead
    unfold scan at ahead
    simp only [blank] at ahead
    split at ahead
    · rename_i found first
      cases ahead
      intro u before kept
      have absent := Terminal.eq_none_of_findSome?_filter (fun x image => ?_) first u before kept
      · exact Option.map_eq_none_iff.mp absent
      · obtain ⟨m, _, same⟩ := Option.map_eq_some_iff.mp image
        exact (Ahead.lexeme.inj same).1
    · cases ahead

/-- A lexeme ahead is ahead too when a comment interrupts the text behind it, but for four cases. In
the first two the text behind the lexeme can not be read: it is what is left of a quoted text, or of
a block comment. In the others a keyword or a based number was continued there, and a name or the
zero was found instead. -/
theorem scan_interrupted (ahead : scan expected (cs ++ rest) = .lexeme t n) (room : n ≤ cs.length)
    (y : List Char) :
    scan expected (cs ++ '/' :: y) = .lexeme t n ∨ Lexeme.LeftOpen ((cs ++ rest).drop n) ∨
      (t = .slash ∧ ∃ left, (cs ++ rest).drop n = '*' :: left) ∨
      (t = .name ∧ n = cs.length ∧ rest.head?.any Text.isWordChar = true ∧
        rest.head?.any (Lexeme.isNameChar ∘ Lexeme.foldLetter) = false) ∨
      (n = 1 ∧ Lexeme.BaseContinued cs rest) := by
  obtain ⟨member, found⟩ := scan_lexeme ahead
  have positive := (Terminal.lexemeLength?_within found).1
  obtain ⟨c, tail, rfl⟩ := List.exists_cons_of_length_pos (positive.trans_le room)
  by_cases word : Lexeme.WordContinued (c :: tail) rest
  · exact .inr (.inr (.inr (.inl ⟨(word.found found room).1, (word.found found room).2.1, word.2,
      (word.found found room).2.2⟩)))
  by_cases base : Lexeme.BaseContinued (c :: tail) rest
  · exact .inr (.inr (.inr (.inr ⟨base.found found room, base⟩)))
  obtain own | left := Terminal.lexemeLength?_interrupted found room y
  · obtain blank | ⟨left, comment⟩ :=
      Lexeme.blankLength?_interrupted_of_none (scan_lexeme_blank ahead) y
    · left
      refine scan_eq_first blank member own fun u before kept => ?_
      refine (Terminal.eq_none_of_interrupted found before (scan_preferred ahead u before kept)
        y).resolve_right ?_
      exact not_or.mpr ⟨word, base⟩
    · cases comment
      cases Terminal.eq_slash_of_starts (Terminal.starts_of_lexemeLength? found)
      obtain rfl := Terminal.eq_length_of_slash found
      exact .inr (.inr (.inl ⟨rfl, left ++ rest, rfl⟩))
  · exact .inr (.inl left)

end Ahead

end SqlSyntax
