import SqlSyntax.Proofs.Lexical.Recased

/-!
# Lexemes of a shortened text

A lexeme that is not quoted looks at most one character beyond its end, and only for what would
continue it. So it is found too in a text that is cut anywhere behind it.
-/

namespace SqlSyntax

namespace Lexeme

/-! ### Words, names and variables -/

theorem spelled?_take {word cs rest : List Char} (spelled : spelled? word cs = some rest) {k : Nat}
    (room : word.length ≤ k) :
    spelled? word (cs.take k) = some (rest.take (k - word.length)) := by
  induction word generalizing cs k with
  | nil =>
    cases spelled
    rfl
  | cons w word ih =>
    cases cs with
    | nil => cases spelled
    | cons c cs =>
      obtain ⟨k, rfl⟩ : ∃ i, k = i + 1 := ⟨k - 1, by simp only [List.length_cons] at room; omega⟩
      rw [spelled?] at spelled
      split_ifs at spelled with same
      rw [List.take_succ_cons, spelled?, if_pos same, ih spelled (by simpa using room),
        List.length_cons, Nat.add_sub_add_right]

theorem wordLength?_take {word : String} {cs : List Char} {n k : Nat}
    (found : wordLength? word cs = some n) (room : n ≤ k) :
    wordLength? word (cs.take k) = some n := by
  have size : word.toList.length = word.length := String.length_toList
  unfold wordLength? at found ⊢
  cases spelled : spelled? word.toList cs with
  | none => simp [spelled] at found
  | some rest =>
    rw [spelled] at found
    cases rest with
    | nil =>
      cases found
      rw [spelled?_take spelled (by omega), List.take_nil]
    | cons c rest =>
      dsimp only at found
      split_ifs at found with goes
      cases found
      rw [spelled?_take spelled (by omega)]
      cases k - word.toList.length with
      | zero => rfl
      | succ i =>
        rw [List.take_succ_cons]
        exact if_neg goes

theorem symbolLength?_take {symbol : String} {cs : List Char} {n k : Nat}
    (found : symbolLength? symbol cs = some n) (room : n ≤ k) :
    symbolLength? symbol (cs.take k) = some n := by
  obtain ⟨rfl, rest, rfl⟩ := exists_of_symbolLength? found
  have size : symbol.toList.length = symbol.length := String.length_toList
  rw [List.take_append, List.take_of_length_le (by omega)]
  exact symbolLength?_append_self symbol _

theorem nameLength?_take_of_le {cs : List Char} {n k : Nat} (found : nameLength? cs = some n)
    (room : n ≤ k) : nameLength? (cs.take k) = some n := by
  cases cs with
  | nil => cases found
  | cons c cs =>
    cases k with
    | zero =>
      have := (nameLength?_within found).1
      omega
    | succ k =>
      have run : ((c :: cs).takeWhile fun c => isNameChar (foldLetter c)).take (k + 1) =
          ((c :: cs).take (k + 1)).takeWhile fun c => isNameChar (foldLetter c) :=
        List.take_takeWhile
      rw [List.take_succ_cons] at run ⊢
      unfold nameLength? at found ⊢
      dsimp only at found ⊢
      split_ifs at found with start reserved
      cases found
      rw [List.length_map] at room
      rw [if_pos start, ← run, List.take_of_length_le room, if_neg reserved]

theorem variableLength?_take {cs : List Char} {n k : Nat} (found : variableLength? cs = some n)
    (room : n ≤ k) : variableLength? (cs.take k) = some n := by
  fun_cases variableLength? cs
  case case1 c rest start =>
    simp only [variableLength?, start, if_true, Option.some.injEq] at found
    obtain ⟨k, rfl⟩ : ∃ i, k = i + 3 := ⟨k - 3, by omega⟩
    rw [List.take_succ_cons, List.take_succ_cons, List.take_succ_cons, variableLength?,
      if_pos start, runLength_take, Nat.min_eq_right (by omega), found]
  case case2 c rest other => simp [variableLength?, other] at found
  case case3 c rest single start =>
    have other : c ≠ '@' := by
      rintro rfl
      exact absurd start (by decide)
    rw [variableLength?, if_pos start, Option.some.injEq] at found
    · obtain ⟨k, rfl⟩ : ∃ i, k = i + 2 := ⟨k - 2, by omega⟩
      rw [List.take_succ_cons, List.take_succ_cons, variableLength?, if_pos start, runLength_take,
        Nat.min_eq_right (by omega), found]
      exact fun _ _ same => absurd same other
    · exact single
  case case4 c rest single other =>
    rw [variableLength?, if_neg other] at found
    · cases found
    · exact single
  case case5 double single =>
    rw [variableLength?] at found
    · cases found
    · exact double
    · exact single

/-! ### Numbers -/

theorem exponentLength_take_of_le {cs : List Char} {k : Nat} (room : exponentLength cs ≤ k) :
    exponentLength (cs.take k) = exponentLength cs := by
  match cs, k with
  | [], k => simp
  | e :: rest, 0 =>
    rw [List.take_zero]
    exact (Nat.le_zero.mp room).symm
  | [e], k + 1 => simp
  | e :: s :: digits, 1 =>
    have long : exponentLength (e :: s :: digits) ≠ 1 := by
      simp only [exponentLength]
      split_ifs <;> omega
    have short : exponentLength ((e :: s :: digits).take 1) = 0 := by simp [exponentLength]
    omega
  | e :: s :: digits, k + 2 =>
    have whole := runLength_take Text.isDigit (s :: digits) (k + 1)
    rw [List.take_succ_cons] at whole
    simp only [List.take_succ_cons, exponentLength, whole, runLength_take] at room ⊢
    split_ifs at room ⊢ <;> omega

theorem numberLength?_take_of_le {cs : List Char} {n k : Nat} (found : numberLength? cs = some n)
    (room : n ≤ k) : numberLength? (cs.take k) = some n := by
  unfold numberLength? at found ⊢
  cases mantissa : mantissaLength? cs with
  | none => simp [mantissa] at found
  | some m =>
    rw [mantissa] at found
    cases found
    rw [mantissaLength?_take mantissa (by omega)]
    dsimp only
    rw [List.drop_take, exponentLength_take_of_le (by omega)]

theorem basedLength?_plain {mark : Char} {p : Char → Bool} {rest : List Char}
    (digits : 0 < runLength p rest)
    (ended : (rest.drop (runLength p rest)).head?.any isNameChar = false) :
    basedLength? mark p ('0' :: mark :: rest) = some (runLength p rest + 2) := by
  simp only [basedLength?, digits, ended, Bool.not_false, and_self, if_true]

theorem basedLength?_between {mark m : Char} {p : Char → Bool} {rest : List Char} (first : m ≠ '0')
    (marked : m.toLower = mark)
    (closed : (rest.drop (runLength p rest)).head? = some Text.singleQuote) :
    basedLength? mark p (m :: Text.singleQuote :: rest) = some (runLength p rest + 3) := by
  rw [basedLength?, if_pos ⟨marked, rfl, closed⟩]
  exact first

/-- The two spellings of a based number. -/
theorem basedLength?_cases {mark : Char} {p : Char → Bool} {cs : List Char} {n : Nat}
    (found : basedLength? mark p cs = some n) :
    (∃ rest, cs = '0' :: mark :: rest ∧ 0 < runLength p rest ∧
        (rest.drop (runLength p rest)).head?.any isNameChar = false ∧ n = runLength p rest + 2) ∨
      ∃ m rest, cs = m :: Text.singleQuote :: rest ∧ m ≠ '0' ∧ m.toLower = mark ∧
        (rest.drop (runLength p rest)).head? = some Text.singleQuote ∧
          n = runLength p rest + 3 := by
  unfold basedLength? at found
  split at found
  · rename_i m rest
    dsimp only at found
    split_ifs at found with holds
    obtain ⟨rfl, digits, ended⟩ := holds
    exact .inl ⟨rest, rfl, digits, by simpa using ended, (Option.some.inj found).symm⟩
  · rename_i m quote rest first
    dsimp only at found
    split_ifs at found with holds
    obtain ⟨marked, rfl, closed⟩ := holds
    exact .inr ⟨m, rest, rfl, fun zero => first zero, marked, closed, (Option.some.inj found).symm⟩
  · cases found

theorem basedLength?_take {mark : Char} {p : Char → Bool} {cs : List Char} {n k : Nat}
    (found : basedLength? mark p cs = some n) (room : n ≤ k) :
    basedLength? mark p (cs.take k) = some n := by
  obtain ⟨rest, rfl, digits, ended, rfl⟩ | ⟨m, rest, rfl, first, marked, closed, rfl⟩ :=
    basedLength?_cases found
  · obtain ⟨k, rfl⟩ : ∃ i, k = i + 2 := ⟨k - 2, by omega⟩
    have run : runLength p (rest.take k) = runLength p rest := by
      rw [runLength_take, Nat.min_eq_right (by omega)]
    rw [List.take_succ_cons, List.take_succ_cons, ← run]
    refine basedLength?_plain (by omega) ?_
    rw [run, List.drop_take]
    cases k - runLength p rest with
    | zero => simp
    | succ i => rwa [List.head?_take, if_neg i.succ_ne_zero]
  · obtain ⟨k, rfl⟩ : ∃ i, k = i + 2 := ⟨k - 2, by omega⟩
    have run : runLength p (rest.take k) = runLength p rest := by
      rw [runLength_take, Nat.min_eq_right (by omega)]
    rw [List.take_succ_cons, List.take_succ_cons, ← run]
    refine basedLength?_between first marked ?_
    rwa [run, List.drop_take, List.head?_take, if_neg (by omega)]

/-! ### Operators and keywords -/

theorem findSome?_symbolLength?_take {symbols : List String} {cs : List Char} {n k : Nat}
    (found : symbols.findSome? (symbolLength? · cs) = some n) (room : n ≤ k) :
    symbols.findSome? (symbolLength? · (cs.take k)) = some n := by
  induction symbols with
  | nil => cases found
  | cons symbol symbols ih =>
    rw [List.findSome?_cons] at found ⊢
    cases ahead : symbolLength? symbol cs with
    | some m =>
      rw [ahead] at found
      cases found
      rw [symbolLength?_take ahead room]
    | none =>
      rw [ahead] at found
      have absent : symbolLength? symbol (cs.take k) = none := by
        cases cut : symbolLength? symbol (cs.take k) with
        | none => rfl
        | some m =>
          obtain ⟨_, rest, same⟩ := exists_of_symbolLength? cut
          rw [← List.take_append_drop k cs, same, List.append_assoc,
            symbolLength?_append_self] at ahead
          cases ahead
      rw [absent]
      exact ih found

theorem length_of_wordLength? {word : String} {cs : List Char} {n : Nat}
    (found : wordLength? word cs = some n) : word.length = n := by
  unfold wordLength? at found
  split at found
  · split_ifs at found
    exact Option.some.inj found
  · exact Option.some.inj found
  · cases found

end Lexeme

namespace Terminal

/-- Two spellings of one keyword differ within their first two letters. -/
theorem words_apart (t : Terminal) :
    (t.words.all fun word => decide (2 ≤ word.length) && t.words.all fun other =>
      word == other || word.toList.take 2 != other.toList.take 2) = true := by
  revert t
  decide +kernel

/-- A symbol starts with no letter of the word that it stands for. -/
theorem symbol_apart (t : Terminal) :
    (t.symbol?.all fun symbol => t.words.all fun word =>
      (symbol.toList.head?.map Lexeme.foldLetter != word.toList.head?)) = true := by
  revert t
  decide +kernel

theorem eq_of_wordLength? {t : Terminal} {word other : String} {cs : List Char} {n m : Nat}
    (spells : word ∈ t.words) (also : other ∈ t.words)
    (found : Lexeme.wordLength? word cs = some n) (ahead : Lexeme.wordLength? other cs = some m) :
    word = other := by
  have apart := t.words_apart
  simp only [List.all_eq_true, Bool.and_eq_true, decide_eq_true_eq, Bool.or_eq_true, beq_iff_eq,
    bne_iff_ne] at apart
  have start {word : String} {n : Nat} (spells : word ∈ t.words)
      (found : Lexeme.wordLength? word cs = some n) :
      word.toList.take 2 = (cs.take 2).map Lexeme.foldLetter := by
    have long : 2 ≤ n := Lexeme.length_of_wordLength? found ▸ (apart word spells).1
    rw [← Lexeme.map_foldLetter_take found, ← List.map_take, List.take_take, Nat.min_eq_left long]
  refine ((apart word spells).2 other also).resolve_right fun differ => differ ?_
  rw [start spells found, start also ahead]

theorem lexemeLength?_eq_spelling {t : Terminal} (spelled : t.words ≠ [] ∨ t.symbol? ≠ none)
    (cs : List Char) :
    t.lexemeLength? cs = match t.words.findSome? (Lexeme.wordLength? · cs) with
      | some n => some n
      | none => t.symbol?.bind (Lexeme.symbolLength? · cs) := by
  unfold lexemeLength?
  split
  case h_11 => rfl
  all_goals exact spelled.elim (absurd rfl) (absurd rfl)

theorem lexemeLength?_of_mem_words {t : Terminal} {word : String} (spells : word ∈ t.words)
    {cs : List Char} {n : Nat} (found : Lexeme.wordLength? word cs = some n) :
    t.lexemeLength? cs = some n := by
  have first : t.words.findSome? (Lexeme.wordLength? · cs) = some n := by
    cases ahead : t.words.findSome? (Lexeme.wordLength? · cs) with
    | none =>
      rw [List.findSome?_eq_none_iff.mp ahead word spells] at found
      cases found
    | some m =>
      obtain ⟨other, also, ahead⟩ := List.exists_of_findSome?_eq_some ahead
      rw [← ahead, ← eq_of_wordLength? spells also found ahead, found]
  rw [lexemeLength?_eq_spelling (.inl (List.ne_nil_of_mem spells)), first]

theorem lexemeLength?_of_symbol {t : Terminal} {symbol : String} (spells : t.symbol? = some symbol)
    {cs : List Char} {n : Nat} (found : Lexeme.symbolLength? symbol cs = some n) :
    t.lexemeLength? cs = some n := by
  have apart := t.symbol_apart
  rw [spells, Option.all_some, List.all_eq_true] at apart
  have absent : t.words.findSome? (Lexeme.wordLength? · cs) = none := by
    rw [List.findSome?_eq_none_iff]
    intro word member
    cases ahead : Lexeme.wordLength? word cs with
    | none => rfl
    | some m =>
      obtain ⟨c, rest, rfl⟩ : ∃ c rest, cs = c :: rest := by
        have within := Lexeme.symbolLength?_within (symbol_length_pos spells) found
        exact List.exists_cons_of_ne_nil (List.ne_nil_of_length_pos (within.1.trans_le within.2))
      have differ := apart word member
      rw [head?_of_symbolLength? (symbol_length_pos spells) found,
        head?_of_wordLength? (word_length_pos member) ahead] at differ
      simp at differ
  rw [lexemeLength?_eq_spelling (.inr (by simp [spells])), absent, spells]
  exact found

/-- A lexeme that is not quoted is found too when the text is cut behind it. -/
theorem lexemeLength?_take {t : Terminal} (bare : t.isBare = true) {cs : List Char} {n k : Nat}
    (found : t.lexemeLength? cs = some n) (room : n ≤ k) :
    t.lexemeLength? (cs.take k) = some n := by
  by_cases spelled : t.words ≠ [] ∨ t.symbol? ≠ none
  · obtain ⟨word, spells, ahead⟩ | ⟨symbol, spells, ahead⟩ := spelling_cases spelled found
    · exact lexemeLength?_of_mem_words spells (Lexeme.wordLength?_take ahead room)
    · exact lexemeLength?_of_symbol spells (Lexeme.symbolLength?_take ahead room)
  · unfold lexemeLength? at found ⊢
    split at found
    · exact Lexeme.numberLength?_take_of_le found room
    · exact Lexeme.basedLength?_take found room
    · exact Lexeme.basedLength?_take found room
    · simp [isBare] at bare
    · exact Lexeme.nameLength?_take_of_le found room
    · simp [isBare] at bare
    · exact Lexeme.variableLength?_take found room
    · rw [Lexeme.comparisonLength?_eq] at found ⊢
      exact Lexeme.findSome?_symbolLength?_take found room
    · rw [Lexeme.shiftLength?_eq] at found ⊢
      exact Lexeme.findSome?_symbolLength?_take found room
    · cases found
    · obtain ⟨wordless, markless⟩ := not_or.mp spelled
      rw [not_not.mp wordless, not_not.mp markless] at found
      cases found

end Terminal

end SqlSyntax
