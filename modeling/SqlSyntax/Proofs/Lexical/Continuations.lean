import SqlSyntax.Proofs.Lexical.Shortened

/-!
# Lexemes that are continued

A lexeme at the end of a text is found too when the text goes on, unless it is continued: a keyword
by another letter, or a based number by another character of a name. What is found there instead is
a name, or the zero of the number with a longer name behind it.
-/

namespace SqlSyntax

namespace Lexeme

/-- The text is a keyword, and another letter follows it. -/
def WordContinued (cs rest : List Char) : Prop :=
  (∃ t : Terminal, ∃ word ∈ t.words, cs.map foldLetter = word.toList) ∧
    rest.head?.any Text.isWordChar = true

/-- The text is a zero with a mark and digits, and another character of a name follows it. -/
def BaseContinued (cs rest : List Char) : Prop :=
  (∃ tail, cs = '0' :: tail ∧ ¬Unmarked tail ∧ ∀ c ∈ tail, isNameChar c = true) ∧
    rest.head?.any isNameChar = true

theorem spelled?_append_of_some {word cs left : List Char} (spelled : spelled? word cs = some left)
    (rest : List Char) : spelled? word (cs ++ rest) = some (left ++ rest) := by
  induction word generalizing cs with
  | nil =>
    cases spelled
    rfl
  | cons w word ih =>
    cases cs with
    | nil => cases spelled
    | cons c cs =>
      rw [spelled?] at spelled
      split_ifs at spelled with same
      rw [List.cons_append, spelled?, if_pos same, ih spelled]

theorem wordLength?_append_of_some {word : String} {cs : List Char} {n : Nat}
    (found : wordLength? word cs = some n) (rest : List Char) :
    wordLength? word (cs ++ rest) = some n ∨
      cs.map foldLetter = word.toList ∧ rest.head?.any Text.isWordChar = true := by
  unfold wordLength? at found ⊢
  cases spelled : spelled? word.toList cs with
  | none => simp [spelled] at found
  | some left =>
    rw [spelled] at found
    rw [spelled?_append_of_some spelled]
    cases left with
    | cons c left => exact .inl found
    | nil =>
      cases rest with
      | nil => exact .inl found
      | cons q rest =>
        by_cases letter : Text.isWordChar q = true
        · exact .inr ⟨map_of_spelled? spelled, letter⟩
        · left
          rw [← found]
          exact if_neg letter

theorem symbolLength?_append_of_some {symbol : String} {cs : List Char} {n : Nat}
    (found : symbolLength? symbol cs = some n) (rest : List Char) :
    symbolLength? symbol (cs ++ rest) = some n := by
  obtain ⟨rfl, left, rfl⟩ := exists_of_symbolLength? found
  rw [List.append_assoc, symbolLength?_append_self]

theorem findSome?_symbolLength?_append {symbols : List String} {cs : List Char} {n : Nat}
    (found : symbols.findSome? (symbolLength? · cs) = some n) (rest : List Char) :
    (symbols.findSome? (symbolLength? · (cs ++ rest))).isSome = true := by
  obtain ⟨symbol, member, ahead⟩ := List.exists_of_findSome?_eq_some found
  rw [List.findSome?_isSome_iff]
  exact ⟨symbol, member, by rw [symbolLength?_append_of_some ahead]; rfl⟩

theorem runLength_append_of_lt {p : Char → Bool} {cs : List Char}
    (inside : runLength p cs < cs.length)
    (rest : List Char) : runLength p (cs ++ rest) = runLength p cs := by
  have cut := runLength_take p (cs ++ rest) cs.length
  rw [List.take_left] at cut
  omega

theorem mantissaLength?_append_of_some {cs : List Char} {n : Nat}
    (found : mantissaLength? cs = some n) (rest : List Char) :
    (mantissaLength? (cs ++ rest)).isSome = true := by
  have digits {ds : List Char} (some_digit : runLength Text.isDigit ds ≠ 0) :
      (mantissaLength? ds).isSome = true := by
    unfold mantissaLength?
    dsimp only
    split
    · rw [if_neg (fun none => some_digit none.1)]
      rfl
    · rw [if_neg some_digit]
      rfl
  have more (ds : List Char) : runLength Text.isDigit ds ≤ runLength Text.isDigit (ds ++ rest) := by
    have cut := runLength_take Text.isDigit (ds ++ rest) ds.length
    rw [List.take_left] at cut
    omega
  by_cases whole : runLength Text.isDigit cs = 0
  · -- Without a digit in front the text starts with a point and a digit.
    unfold mantissaLength? at found
    dsimp only at found
    rw [whole, List.drop_zero] at found
    split at found
    · rename_i places
      have some_place : runLength Text.isDigit places ≠ 0 := by
        intro none
        simp [none] at found
      have front : runLength Text.isDigit ('.' :: (places ++ rest)) = 0 := by
        simp [runLength, show Text.isDigit '.' = false by decide]
      have := more places
      unfold mantissaLength?
      dsimp only
      rw [List.cons_append, front, List.drop_zero]
      change (if 0 = 0 ∧ runLength Text.isDigit (places ++ rest) = 0 then none else
        some (0 + 1 + runLength Text.isDigit (places ++ rest))).isSome = true
      rw [if_neg (by omega)]
      rfl
    · simp at found
  · have := more cs
    exact digits (by omega)

theorem variableLength?_append_of_some {cs : List Char} {n : Nat}
    (found : variableLength? cs = some n) (rest : List Char) :
    (variableLength? (cs ++ rest)).isSome = true := by
  fun_cases variableLength? cs
  case case1 c tail start => simp [variableLength?, start]
  case case3 c tail single start =>
    have other : c ≠ '@' := by
      rintro rfl
      exact absurd start (by decide)
    simp [variableLength?, start, other]
  case case2 c tail other => simp [variableLength?, other] at found
  case case4 c tail single other =>
    rw [variableLength?, if_neg other] at found
    · cases found
    · exact single
  case case5 double single =>
    rw [variableLength?] at found
    · cases found
    · exact double
    · exact single

theorem all_of_runLength {p : Char → Bool} {cs : List Char} (whole : cs.length ≤ runLength p cs) :
    ∀ c ∈ cs, p c = true := by
  have same : cs.takeWhile p = cs := (List.takeWhile_prefix p).eq_of_length_le whole
  exact List.takeWhile_eq_self_iff.mp same

theorem basedLength?_append_of_some {mark : Char} {p : Char → Bool} {cs : List Char} {n : Nat}
    (letters : ∀ c, p c = true → isNameChar c = true)
    (found : basedLength? mark p cs = some n) (rest : List Char) :
    (basedLength? mark p (cs ++ rest)).isSome = true ∨
      ∃ digits, cs = '0' :: mark :: digits ∧ digits ≠ [] ∧ (∀ c ∈ digits, p c = true) ∧
        rest.head?.any isNameChar = true := by
  obtain ⟨digits, rfl, some_digit, ended, rfl⟩ | ⟨m, digits, rfl, first, marked, closed, rfl⟩ :=
    basedLength?_cases found
  · by_cases inside : runLength p digits < digits.length
    · left
      have run := runLength_append_of_lt inside rest
      rw [List.cons_append, List.cons_append, basedLength?_plain]
      · rfl
      · rw [run]
        exact some_digit
      · rw [run, List.drop_append_of_le_length (Nat.le_of_lt inside), List.head?_append_of_ne_nil]
        · exact ended
        · exact List.ne_nil_of_length_pos (by rw [List.length_drop]; omega)
    · by_cases goes : rest.head?.any isNameChar = true
      · right
        refine ⟨digits, rfl, ?_, ?_, goes⟩
        · rintro rfl
          cases some_digit
        · exact all_of_runLength (Nat.le_of_not_lt inside)
      · left
        cases rest with
        | nil =>
          rw [List.append_nil, found]
          rfl
        | cons q rest =>
          have other : p q = false := by
            by_contra digit
            exact goes (letters q (eq_true_of_ne_false digit))
          have run := runLength_append (r := rest) p other digits
          rw [List.cons_append, List.cons_append, basedLength?_plain]
          · rfl
          · rw [run]
            exact some_digit
          · rw [run, List.drop_append, List.drop_eq_nil_of_le (by omega), List.nil_append,
              Nat.sub_eq_zero_of_le (runLength_le p digits)]
            exact eq_false_of_ne_true goes
  · left
    have inside : runLength p digits < digits.length := by
      by_contra outside
      rw [List.drop_eq_nil_of_le (by omega)] at closed
      cases closed
    have run := runLength_append_of_lt inside rest
    rw [List.cons_append, List.cons_append, basedLength?_between first marked]
    · rfl
    · rw [run, List.drop_append_of_le_length (Nat.le_of_lt inside), List.head?_append_of_ne_nil]
      · exact closed
      · exact List.ne_nil_of_length_pos (by rw [List.length_drop]; omega)

theorem isNameChar_of_isHexDigit {c : Char} (digit : isHexDigit c = true) :
    isNameChar c = true := by
  have small : c.toNat < 128 := by
    have bound {d : Char} (less : c ≤ d) (ascii : d.toNat < 128) : c.toNat < 128 :=
      (UInt32.le_iff_toNat_le.mp less).trans_lt ascii
    simp only [isHexDigit, Char.isDigit, Bool.or_eq_true, Bool.and_eq_true, decide_eq_true_eq]
      at digit
    obtain (decimal | lower) | upper := digit
    · exact bound (d := '9') decimal.2 (by decide)
    · exact bound (d := 'f') lower.2 (by decide)
    · exact bound (d := 'F') upper.2 (by decide)
  exact Text.holds_of_small (p := fun c => isHexDigit c = true → isNameChar c = true) small
    (by decide) digit

theorem isNameChar_of_isBitDigit {c : Char} (digit : isBitDigit c = true) :
    isNameChar c = true := by
  obtain rfl | rfl : c = '0' ∨ c = '1' := by simpa [isBitDigit] using digit
  · decide
  · decide

theorem baseContinued_of_digits {mark : Char} {p : Char → Bool} {digits rest : List Char}
    (letter : isNameChar mark = true) (names : ∀ c, p c = true → isNameChar c = true)
    (marks : ∀ c tail, p c = true → ¬Unmarked (mark :: c :: tail)) (occupied : digits ≠ [])
    (all : ∀ c ∈ digits, p c = true) (goes : rest.head?.any isNameChar = true) :
    BaseContinued ('0' :: mark :: digits) rest := by
  obtain ⟨d, tail, rfl⟩ := List.exists_cons_of_ne_nil occupied
  refine ⟨⟨mark :: d :: tail, rfl, marks d tail (all d List.mem_cons_self), ?_⟩, goes⟩
  rintro c (_ | ⟨_, member⟩)
  · exact letter
  · exact names c (all c member)

end Lexeme

namespace Terminal

/-- A lexeme that fills a text is found there too when the text goes on, unless it is continued. -/
theorem lexemeLength?_append_of_bare {t : Terminal} (bare : t.isBare = true) (other : t ≠ .name)
    {cs : List Char} {n : Nat} (found : t.lexemeLength? cs = some n) (rest : List Char) :
    (t.lexemeLength? (cs ++ rest)).isSome = true ∨ Lexeme.WordContinued cs rest ∨
      Lexeme.BaseContinued cs rest := by
  by_cases spelled : t.words ≠ [] ∨ t.symbol? ≠ none
  · obtain ⟨word, spells, ahead⟩ | ⟨symbol, spells, ahead⟩ := spelling_cases spelled found
    · obtain same | ⟨whole, letter⟩ := Lexeme.wordLength?_append_of_some ahead rest
      · rw [lexemeLength?_of_mem_words spells same]
        exact .inl rfl
      · exact .inr (.inl ⟨⟨t, word, spells, whole⟩, letter⟩)
    · rw [lexemeLength?_of_symbol spells (Lexeme.symbolLength?_append_of_some ahead rest)]
      exact .inl rfl
  · unfold lexemeLength? at found ⊢
    split at found
    · left
      unfold Lexeme.numberLength? at found ⊢
      cases mantissa : Lexeme.mantissaLength? cs with
      | none => simp [mantissa] at found
      | some m =>
        obtain ⟨k, more⟩ := Option.isSome_iff_exists.mp
          (Lexeme.mantissaLength?_append_of_some mantissa rest)
        rw [more]
        rfl
    · have names (c : Char) := Lexeme.isNameChar_of_isHexDigit (c := c)
      obtain same | ⟨digits, rfl, occupied, all, goes⟩ :=
        Lexeme.basedLength?_append_of_some names found rest
      · exact .inl same
      · refine .inr (.inr (Lexeme.baseContinued_of_digits rfl names ?_ occupied all goes))
        exact fun c tail digit unmarked => (unmarked _ c tail rfl).1 ⟨rfl, digit⟩
    · have names (c : Char) := Lexeme.isNameChar_of_isBitDigit (c := c)
      obtain same | ⟨digits, rfl, occupied, all, goes⟩ :=
        Lexeme.basedLength?_append_of_some names found rest
      · exact .inl same
      · refine .inr (.inr (Lexeme.baseContinued_of_digits rfl names ?_ occupied all goes))
        exact fun c tail digit unmarked => (unmarked _ c tail rfl).2 ⟨rfl, digit⟩
    · simp [isBare] at bare
    · exact absurd rfl other
    · simp [isBare] at bare
    · exact .inl (Lexeme.variableLength?_append_of_some found rest)
    · rw [Lexeme.comparisonLength?_eq] at found ⊢
      exact .inl (Lexeme.findSome?_symbolLength?_append found rest)
    · rw [Lexeme.shiftLength?_eq] at found ⊢
      exact .inl (Lexeme.findSome?_symbolLength?_append found rest)
    · cases found
    · obtain ⟨wordless, markless⟩ := not_or.mp spelled
      rw [not_not.mp wordless, not_not.mp markless] at found
      cases found

/-! ### What is found instead -/

theorem isDigit_of_isNameStart {c : Char}
    (letter : Lexeme.isNameStart (Lexeme.foldLetter c) = true) : Text.isDigit c = false := by
  obtain ascii | rfl | rfl | rfl | rfl | ⟨large, same⟩ := Text.foldLetter_cases c
  · exact Text.holds_of_small (p := fun c => Lexeme.isNameStart (Lexeme.foldLetter c) = true →
      Text.isDigit c = false) ascii (by decide) letter
  · decide
  · decide
  · decide
  · decide
  · rw [same] at letter
    have := Text.toNat_lt_of_isNameChar (c := c) (by simp [Lexeme.isNameChar, letter])
    omega

theorem symbol_not_letter (t : Terminal) :
    (t.symbol?.all fun symbol => symbol.toList.head?.all fun c =>
      !Lexeme.isNameStart (Lexeme.foldLetter c)) = true := by
  revert t
  decide +kernel

/-- Names, keywords and quoted based numbers start with a letter. -/
theorem cases_of_starts_letter {t : Terminal} {c : Char}
    (letter : Lexeme.isNameStart (Lexeme.foldLetter c) = true) (starts : t.starts c = true) :
    t = .name ∨ t.words ≠ [] ∨ t = .hexNumber ∨ t = .bitNumber := by
  have other {k : Char} (plain : Lexeme.isNameStart (Lexeme.foldLetter k) = false) :
      (c == k) = false := by
    rw [beq_eq_false_iff_ne]
    rintro rfl
    rw [letter] at plain
    cases plain
  by_cases keyword : t.words = []
  · unfold Terminal.starts at starts
    split at starts
    · rw [isDigit_of_isNameStart letter, other (by decide)] at starts
      cases starts
    · exact .inr (.inr (.inl rfl))
    · exact .inr (.inr (.inr rfl))
    · rw [other (by decide), other (by decide)] at starts
      cases starts
    · exact .inl rfl
    · rw [other (by decide)] at starts
      cases starts
    · rw [other (by decide)] at starts
      cases starts
    · rw [other (by decide), other (by decide), other (by decide)] at starts
      cases starts
    · rw [other (by decide), other (by decide)] at starts
      cases starts
    · cases starts
    · have plain := t.symbol_not_letter
      rw [keyword, List.any_nil, Bool.false_or] at starts
      cases spells : t.symbol? with
      | none => simp [spells] at starts
      | some symbol =>
        rw [spells, Option.any_some, beq_iff_eq] at starts
        rw [spells, Option.all_some, starts, Option.all_some, letter] at plain
        cases plain
  · exact .inr (.inl keyword)

theorem cases_of_starts_zero {t : Terminal} (starts : t.starts '0' = true) :
    t = .number ∨ t = .hexNumber ∨ t = .bitNumber := by
  rw [starts_of_isMark (by decide)] at starts
  revert t
  decide +kernel

end Terminal

namespace Lexeme

/-- What the letters of a word are taken from. -/
theorem isWordChar_of_small {c : Char}
    (small : ((foldLetter c).isLower || foldLetter c == '_') = true) :
    Text.isWordChar c = true ∧ isNameStart (foldLetter c) = true := by
  obtain ascii | rfl | rfl | rfl | rfl | ⟨large, same⟩ := Text.foldLetter_cases c
  · exact Text.holds_of_small (p := fun c => ((foldLetter c).isLower || foldLetter c == '_') =
      true →
      Text.isWordChar c = true ∧ isNameStart (foldLetter c) = true) ascii (by decide) small
  · decide +kernel
  · decide +kernel
  · decide +kernel
  · decide +kernel
  · rw [same] at small
    have := Text.toNat_lt_of_isNameChar (isNameChar_of_small small)
    omega

theorem WordContinued.letters {cs rest : List Char} (continued : WordContinued cs rest) :
    ∀ c ∈ cs, Text.isWordChar c = true ∧ isNameStart (foldLetter c) = true := by
  obtain ⟨⟨t, word, spells, whole⟩, _⟩ := continued
  intro c member
  apply isWordChar_of_small
  exact Terminal.small_of_mem_word spells (whole ▸ List.mem_map_of_mem member)

theorem WordContinued.eq_cons {cs rest : List Char} (continued : WordContinued cs rest) :
    ∃ c d tail, cs = c :: d :: tail := by
  obtain ⟨⟨t, word, spells, whole⟩, _⟩ := continued
  have long := List.all_eq_true.mp t.words_apart word spells
  rw [Bool.and_eq_true, decide_eq_true_eq, ← String.length_toList, ← whole, List.length_map] at long
  match cs, long.1 with
  | c :: d :: tail, _ => exact ⟨c, d, tail, rfl⟩

theorem eq_drop_of_spelled? {word cs left : List Char} (spelled : spelled? word cs = some left) :
    left = cs.drop word.length := by
  induction word generalizing cs with
  | nil =>
    cases spelled
    rfl
  | cons w word ih =>
    cases cs with
    | nil => cases spelled
    | cons c cs =>
      rw [spelled?] at spelled
      split_ifs at spelled
      exact ih spelled

/-- A word ends where no letter follows. -/
theorem head?_drop_of_wordLength? {word : String} {cs : List Char} {n : Nat}
    (found : wordLength? word cs = some n) : (cs.drop n).head?.any Text.isWordChar = false := by
  have size : word.toList.length = n := by
    rw [String.length_toList, length_of_wordLength? found]
  unfold wordLength? at found
  cases spelled : spelled? word.toList cs with
  | none => simp [spelled] at found
  | some left =>
    rw [← size, ← eq_drop_of_spelled? spelled]
    cases left with
    | nil => rfl
    | cons c left =>
      rw [spelled] at found
      dsimp only at found
      split_ifs at found with letter
      exact eq_false_of_ne_true letter

theorem eq_runLength_of_nameLength? {cs : List Char} {n : Nat} (found : nameLength? cs = some n) :
    n = runLength (isNameChar ∘ foldLetter) cs := by
  cases cs with
  | nil => cases found
  | cons c cs =>
    unfold nameLength? at found
    dsimp only at found
    split_ifs at found
    rw [List.length_map] at found
    exact (Option.some.inj found).symm

theorem runLength_append_of_letters {p : Char → Bool} {cs : List Char} (all : ∀ c ∈ cs, p c = true)
    (rest : List Char) : runLength p (cs ++ rest) = cs.length + runLength p rest := by
  unfold runLength
  rw [List.takeWhile_append_of_pos all, List.length_append]

theorem runLength_eq_zero {p : Char → Bool} {cs : List Char} (none : runLength p cs = 0) :
    cs.head?.any p = false := by
  cases cs with
  | nil => rfl
  | cons c cs =>
    cases holds : p c with
    | false => exact holds
    | true => simp [runLength, holds] at none

theorem head?_any_of_letters {p : Char → Bool} {cs rest : List Char} {n : Nat}
    (all : ∀ c ∈ cs, p c = true) (goes : rest.head?.any p = true) (room : n ≤ cs.length) :
    ((cs ++ rest).drop n).head?.any p = true := by
  rw [List.drop_append_of_le_length room]
  cases left : cs.drop n with
  | nil => exact goes
  | cons c left => exact all c (List.mem_of_mem_drop (left ▸ List.mem_cons_self))

/-- A based number starts with a zero or has a quote behind its first character. -/
theorem not_based {c d : Char} (first : c ≠ '0') (unquoted : d ≠ Text.singleQuote) {t : Terminal}
    (based : t = .hexNumber ∨ t = .bitNumber) {tail : List Char} {n : Nat}
    (found : t.lexemeLength? (c :: d :: tail) = some n) : False := by
  have none_based {mark : Char} {p : Char → Bool}
      (found : basedLength? mark p (c :: d :: tail) = some n) : False := by
    obtain ⟨_, same, _⟩ | ⟨_, _, same, _⟩ := basedLength?_cases found
    · exact first (List.cons.inj same).1
    · exact unquoted (List.cons.inj (List.cons.inj same).2).1
  obtain rfl | rfl := based
  · exact none_based found
  · exact none_based found

/-- Where a letter continues a keyword, a lexeme that does not reach further is a name. -/
theorem WordContinued.found {cs rest : List Char} (continued : WordContinued cs rest) {t : Terminal}
    {n : Nat} (found : t.lexemeLength? (cs ++ rest) = some n) (room : n ≤ cs.length) :
    t = .name ∧ n = cs.length ∧ rest.head?.any (isNameChar ∘ foldLetter) = false := by
  have letters := continued.letters
  obtain ⟨c, d, tail, rfl⟩ := continued.eq_cons
  have start := (letters c List.mem_cons_self).2
  obtain rfl | keyword | based :=
    Terminal.cases_of_starts_letter start (Terminal.starts_of_lexemeLength? found)
  · rw [Terminal.lexemeLength?] at found
    have run := eq_runLength_of_nameLength? found
    rw [runLength_append_of_letters] at run
    · refine ⟨rfl, by omega, runLength_eq_zero (by omega)⟩
    · intro e member
      simp [isNameChar, (letters e member).2]
  · exfalso
    obtain ⟨word, spells, ahead⟩ | ⟨symbol, spells, ahead⟩ :=
      Terminal.spelling_cases (.inl keyword) found
    · have ended := head?_drop_of_wordLength? ahead
      rw [head?_any_of_letters (fun e member => (letters e member).1) continued.2 room] at ended
      cases ended
    · have plain := t.symbol_not_letter
      rw [spells, Option.all_some,
        Terminal.head?_of_symbolLength? (Terminal.symbol_length_pos spells) ahead, Option.all_some,
        start] at plain
      cases plain
  · exfalso
    have unquoted : d ≠ Text.singleQuote := by
      rintro rfl
      exact absurd (letters _ (List.mem_cons_of_mem c List.mem_cons_self)).2 (by decide)
    have first : c ≠ '0' := by
      rintro rfl
      exact absurd start (by decide)
    exact not_based first unquoted based found

theorem eq_cons_of_not_unmarked {cs : List Char} (marked : ¬Unmarked cs) :
    ∃ m c rest, cs = m :: c :: rest ∧ (m.toLower = 'x' ∨ m.toLower = 'b') := by
  by_contra absent
  refine marked fun m c rest same => ⟨fun mark => ?_, fun mark => ?_⟩
  · exact absent ⟨m, c, rest, same, .inl mark.1⟩
  · exact absent ⟨m, c, rest, same, .inr mark.1⟩

theorem not_unmarked_append {cs : List Char} (marked : ¬Unmarked cs) (rest : List Char) :
    ¬Unmarked (cs ++ rest) := by
  intro unmarked
  refine marked fun m c tail same => ?_
  subst same
  exact unmarked m c (tail ++ rest) rfl

theorem numberLength?_zero {m : Char} (mark : m.toLower = 'x' ∨ m.toLower = 'b')
    (rest : List Char) : numberLength? ('0' :: m :: rest) = some 1 := by
  have digit : Text.isDigit m = false := by
    rw [← isDigit_toLower]
    obtain mark | mark := mark <;> rw [mark] <;> decide
  have point : m ≠ '.' := by
    rintro rfl
    revert mark
    decide
  have exponent : (m == 'e' || m == 'E') = false := by
    rw [← Text.toLower_blind (fun c => c == 'e' || c == 'E') (by decide)]
    obtain mark | mark := mark <;> rw [mark] <;> decide
  have whole : runLength Text.isDigit ('0' :: m :: rest) = 1 := by
    simp [runLength, show Text.isDigit '0' = true by decide, digit]
  have mantissa : mantissaLength? ('0' :: m :: rest) = some 1 := by
    simp [mantissaLength?, whole, point]
  simp [numberLength?, mantissa, exponentLength, exponent]

/-- Where a character of a name continues a based number, a lexeme that does not reach further is
the zero. -/
theorem BaseContinued.found {cs rest : List Char} (continued : BaseContinued cs rest) {t : Terminal}
    {n : Nat} (found : t.lexemeLength? (cs ++ rest) = some n) (room : n ≤ cs.length) : n = 1 := by
  obtain ⟨⟨tail, rfl, marked, letters⟩, goes⟩ := continued
  have none_based {mark : Char} {p : Char → Bool} {n : Nat}
      (found : basedLength? mark p ('0' :: tail ++ rest) = some n) (room : n ≤ tail.length + 1) :
      False := by
    obtain ⟨digits, same, _, ended, rfl⟩ | ⟨m, _, same, first, _⟩ := basedLength?_cases found
    · obtain ⟨m, c, tail, rfl, _⟩ := eq_cons_of_not_unmarked marked
      obtain rfl : c :: tail ++ rest = digits := (List.cons.inj (List.cons.inj same).2).2
      rw [head?_any_of_letters (fun e member => letters e (List.mem_cons_of_mem m member)) goes
        (by simp only [List.length_cons] at room ⊢; omega)] at ended
      cases ended
    · exact first (List.cons.inj same).1.symm
  obtain rfl | rfl | rfl := Terminal.cases_of_starts_zero (Terminal.starts_of_lexemeLength? found)
  · obtain ⟨m, c, tail, rfl, mark⟩ := eq_cons_of_not_unmarked marked
    rw [Terminal.lexemeLength?] at found
    exact (Option.some.inj ((numberLength?_zero mark _).symm.trans found)).symm
  · exact (none_based found room).elim
  · exact (none_based found room).elim

theorem isNameChar_foldLetter {c : Char} (letter : isNameChar c = true) :
    isNameChar (foldLetter c) = true :=
  Text.holds_of_small (p := fun c => isNameChar c = true → isNameChar (foldLetter c) = true)
    (Text.toNat_lt_of_isNameChar letter) (by decide) letter

/-- Behind that zero only a name is found, which goes on. -/
theorem length_lt_of_marked {tail rest : List Char} (marked : ¬Unmarked tail)
    (letters : ∀ c ∈ tail, isNameChar c = true) (goes : rest.head?.any isNameChar = true)
    {t : Terminal} {n : Nat} (found : t.lexemeLength? (tail ++ rest) = some n) :
    tail.length < n := by
  obtain ⟨m, c, digits, rfl, mark⟩ := eq_cons_of_not_unmarked marked
  have start : isNameStart (foldLetter m) = true := by
    rw [← foldLetter_toLower]
    obtain mark | mark := mark <;> rw [mark] <;> decide
  obtain rfl | keyword | based :=
    Terminal.cases_of_starts_letter start (Terminal.starts_of_lexemeLength? found)
  · rw [Terminal.lexemeLength?] at found
    have run := eq_runLength_of_nameLength? found
    rw [runLength_append_of_letters (p := isNameChar ∘ foldLetter) fun e member =>
      isNameChar_foldLetter (letters e member)] at run
    by_contra ended
    have none_more : runLength (isNameChar ∘ foldLetter) rest = 0 := by omega
    have none_more := runLength_eq_zero none_more
    cases rest with
    | nil => cases goes
    | cons q rest =>
      have more : isNameChar (foldLetter q) = false := none_more
      rw [isNameChar_foldLetter goes] at more
      cases more
  · exact absurd (Terminal.unmarked_of_keyword keyword found) (not_unmarked_append marked rest)
  · have unquoted : c ≠ Text.singleQuote := by
      rintro rfl
      exact absurd (letters _ (List.mem_cons_of_mem m List.mem_cons_self)) (by decide)
    have first : m ≠ '0' := by
      rintro rfl
      exact absurd start (by decide)
    exact (not_based first unquoted based found).elim

end Lexeme

end SqlSyntax
