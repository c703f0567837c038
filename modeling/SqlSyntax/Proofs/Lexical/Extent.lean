import Mathlib.Tactic.SplitIfs
import SqlSyntax.Lexical.Token

/-!
# The extent of a lexeme

A lexeme or blank takes at least one character and does not reach behind the text it was found in.
-/

namespace SqlSyntax

namespace Lexeme

/-- A length that fits into `cs` and is not zero. -/
def Within (cs : List Char) (n : Nat) : Prop :=
  0 < n ∧ n ≤ cs.length

theorem runLength_le (p : Char → Bool) (cs : List Char) : runLength p cs ≤ cs.length := by
  unfold runLength
  exact List.IsPrefix.length_le (List.takeWhile_prefix p)

/-! ### Words and symbols -/

theorem spelled?_length {word cs rest : List Char} (spelled : spelled? word cs = some rest) :
    cs.length = word.length + rest.length := by
  induction word generalizing cs with
  | nil =>
    cases spelled
    simp
  | cons w word ih =>
    cases cs with
    | nil => simp [spelled?] at spelled
    | cons c cs =>
      rw [spelled?] at spelled
      split at spelled
      · have := ih spelled
        simp only [List.length_cons]
        omega
      · simp at spelled

theorem wordLength?_within {word : String} {cs : List Char} {n : Nat} (spells : 0 < word.length)
    (found : wordLength? word cs = some n) : Within cs n := by
  have size : word.toList.length = word.length := String.length_toList
  unfold wordLength? at found
  split at found
  · rename_i c rest spelled
    have whole := spelled?_length spelled
    split at found
    · simp at found
    · cases found
      exact ⟨spells, by simp only [List.length_cons] at whole; omega⟩
  · rename_i spelled
    have whole := spelled?_length spelled
    cases found
    exact ⟨spells, by omega⟩
  · simp at found

theorem symbolLength?_within {symbol : String} {cs : List Char} {n : Nat}
    (spells : 0 < symbol.length)
    (found : symbolLength? symbol cs = some n) : Within cs n := by
  unfold symbolLength? at found
  split at found
  · rename_i begins
    cases found
    have size := (List.isPrefixOf_iff_prefix.mp begins).length_le
    rw [String.length_toList] at size
    exact ⟨spells, size⟩
  · simp at found

/-! ### Names and numbers -/

theorem nameLength?_within {cs : List Char} {n : Nat} (found : nameLength? cs = some n) :
    Within cs n := by
  unfold nameLength? at found
  split at found
  · simp at found
  · rename_i c rest
    dsimp only at found
    split_ifs at found with starts reserved
    cases found
    have first : isNameChar (foldLetter c) = true := by simp [isNameChar, starts]
    rw [List.length_map]
    refine ⟨?_, List.IsPrefix.length_le (List.takeWhile_prefix _)⟩
    simp [first]

theorem variableLength?_within {cs : List Char} {n : Nat} (found : variableLength? cs = some n) :
    Within cs n := by
  unfold variableLength? at found
  split at found
  · rename_i c rest
    split at found
    · cases found
      have := runLength_le (fun c => isNameChar c || c == '.') rest
      exact ⟨by omega, by simp only [List.length_cons]; omega⟩
    · simp at found
  · rename_i c rest _
    split at found
    · cases found
      have := runLength_le (fun c => isNameChar c || c == '.') rest
      exact ⟨by omega, by simp only [List.length_cons]; omega⟩
    · simp at found
  · simp at found

theorem exponentLength_le (cs : List Char) : exponentLength cs ≤ cs.length := by
  unfold exponentLength
  split
  · rename_i e rest
    split_ifs
    · split
      · rename_i s digits
        dsimp only
        split_ifs
        · omega
        · have := runLength_le Text.isDigit digits
          simp only [List.length_cons]
          omega
        · omega
        · have := runLength_le Text.isDigit (s :: digits)
          simp only [List.length_cons] at this ⊢
          omega
      · omega
    · omega
  · omega

theorem mantissaLength?_within {cs : List Char} {n : Nat} (found : mantissaLength? cs = some n) :
    Within cs n := by
  have whole := runLength_le Text.isDigit cs
  unfold mantissaLength? at found
  dsimp only at found
  split at found
  · rename_i rest dropped
    have size : (cs.drop (runLength Text.isDigit cs)).length = rest.length + 1 := by simp [dropped]
    rw [List.length_drop] at size
    have places := runLength_le Text.isDigit rest
    split_ifs at found
    cases found
    exact ⟨by omega, by omega⟩
  · split_ifs at found
    cases found
    exact ⟨by omega, whole⟩

theorem numberLength?_within {cs : List Char} {n : Nat} (found : numberLength? cs = some n) :
    Within cs n := by
  unfold numberLength? at found
  split at found
  · rename_i m mantissa
    cases found
    have inside := mantissaLength?_within mantissa
    have exponent := exponentLength_le (cs.drop m)
    rw [List.length_drop] at exponent
    exact ⟨Nat.add_pos_left inside.1 _, by have := inside.2; omega⟩
  · simp at found

theorem basedLength?_within {mark : Char} {isBaseDigit : Char → Bool} {cs : List Char} {n : Nat}
    (found : basedLength? mark isBaseDigit cs = some n) : Within cs n := by
  unfold basedLength? at found
  split at found
  · rename_i m rest
    dsimp only at found
    split_ifs at found
    cases found
    have := runLength_le isBaseDigit rest
    exact ⟨by omega, by simp only [List.length_cons]; omega⟩
  · rename_i m quote rest _
    dsimp only at found
    split_ifs at found with quoted
    cases found
    have behind : rest.drop (runLength isBaseDigit rest) ≠ [] := by
      intro nothing
      simp [nothing] at quoted
    have := List.length_pos_iff.mpr behind
    rw [List.length_drop] at this
    exact ⟨by omega, by simp only [List.length_cons]; omega⟩
  · simp at found

/-! ### Quoted text -/

theorem closing_within {quote : Char} {escapes : Bool} {least : Nat} {cs : List Char}
    {taken n : Nat} {last : Option Nat} (found : closing quote escapes least cs taken last = some n)
    (inside : ∀ m ∈ last, 0 < m ∧ m ≤ taken + cs.length) : 0 < n ∧ n ≤ taken + cs.length := by
  fun_induction closing quote escapes least cs taken last with
  | case1 => exact inside n found
  | case2 =>
    cases found
    simp
  | case3 => exact inside n found
  | case4 rest taken last ih =>
    have later := ih found (by
      intro m member
      split_ifs at member
      · cases member
        exact ⟨by omega, by omega⟩
      · have := inside m member
        simp only [List.length_cons] at this
        omega)
    simp only [List.length_cons]
    omega
  | case5 =>
    cases found
    simp only [List.length_cons]
    omega
  | case6 => exact inside n found
  | case7 c d rest taken last _ _ ih =>
    have later := ih found (by
      intro m member
      have := inside m member
      simp only [List.length_cons] at this
      omega)
    simp only [List.length_cons]
    omega
  | case8 c d rest taken last _ _ ih =>
    have later := ih found (by
      intro m member
      have := inside m member
      simp only [List.length_cons] at this ⊢
      omega)
    simp only [List.length_cons] at later ⊢
    omega

theorem stringLength?_within {cs : List Char} {n : Nat} (found : stringLength? cs = some n) :
    Within cs n := by
  unfold stringLength? at found
  split at found
  · rename_i quote rest
    split_ifs at found
    have inside := closing_within found (by simp)
    exact ⟨inside.1, by simp only [List.length_cons]; omega⟩
  · simp at found

theorem quotedNameLength?_within {cs : List Char} {n : Nat}
    (found : quotedNameLength? cs = some n) : Within cs n := by
  unfold quotedNameLength? at found
  split at found
  · rename_i quote rest
    split_ifs at found
    have inside := closing_within found (by simp)
    exact ⟨inside.1, by simp only [List.length_cons]; omega⟩
  · simp at found

/-! ### Operators and blanks -/

theorem comparisonLength?_within {cs : List Char} {n : Nat}
    (found : comparisonLength? cs = some n) : Within cs n := by
  unfold comparisonLength? at found
  split at found <;> cases found <;> simp [Within]

theorem shiftLength?_within {cs : List Char} {n : Nat} (found : shiftLength? cs = some n) :
    Within cs n := by
  unfold shiftLength? at found
  split at found <;> cases found <;> simp [Within]

theorem blockEnd?_within {cs : List Char} {taken n : Nat} (found : blockEnd? cs taken = some n) :
    taken < n ∧ n ≤ taken + cs.length := by
  fun_induction blockEnd? cs taken with
  | case1 rest taken =>
    cases found
    simp only [List.length_cons]
    omega
  | case2 c rest taken _ ih =>
    have later := ih found
    simp only [List.length_cons]
    omega
  | case3 => simp at found

theorem blankLength?_within {cs : List Char} {n : Nat} (found : blankLength? cs = some n) :
    Within cs n := by
  unfold blankLength? at found
  split at found
  · rename_i rest
    cases found
    have := runLength_le (· != '\n') rest
    exact ⟨by omega, by simp only [List.length_cons]; omega⟩
  · rename_i rest
    split_ifs at found
    cases found
    have := runLength_le (· != '\n') rest
    exact ⟨by omega, by simp only [List.length_cons]; omega⟩
  · have := blockEnd?_within found
    exact ⟨by omega, by simp only [List.length_cons]; omega⟩
  · rename_i c rest _ _ _
    split_ifs at found
    cases found
    have := runLength_le Text.isLayout rest
    exact ⟨by omega, by simp only [List.length_cons]; omega⟩
  · simp at found

end Lexeme

namespace Terminal

theorem ctorIdx_lt (t : Terminal) : t.ctorIdx < 125 := by
  cases t <;> decide

/-- What is to hold of every terminal is tried for one after the other. -/
instance decidableForall {p : Terminal → Prop} [DecidablePred p] : Decidable (∀ t, p t) :=
  decidable_of_iff (∀ i < 125, p (.ofNat i))
    ⟨fun all t => t.ofNat_ctorIdx ▸ all t.ctorIdx t.ctorIdx_lt, fun all i _ => all (.ofNat i)⟩

/-- A word has some letters, all of them small letters or underscores. -/
theorem words_spelled : ∀ t : Terminal, ∀ word ∈ t.words,
    0 < word.toList.length ∧ ∀ w ∈ word.toList, (w.isLower || w == '_') = true := by
  have all : ∀ t : Terminal, ∀ word ∈ t.words,
      0 < word.toList.length ∧ word.toList.all (fun w => w.isLower || w == '_') = true := by
    decide +kernel
  intro t word spells
  exact ⟨(all t word spells).1, List.all_eq_true.1 (all t word spells).2⟩

theorem word_length_pos {t : Terminal} {word : String} (spells : word ∈ t.words) :
    0 < word.length := by
  rw [← String.length_toList]
  exact (words_spelled t word spells).1

theorem small_of_mem_word {t : Terminal} {word : String} (spells : word ∈ t.words) {w : Char}
    (member : w ∈ word.toList) : (w.isLower || w == '_') = true :=
  (words_spelled t word spells).2 w member

theorem symbol_length_pos {t : Terminal} {symbol : String} (spells : t.symbol? = some symbol) :
    0 < symbol.length := by
  have all : ∀ t : Terminal, t.symbol?.all (0 < ·.length) = true := by decide +kernel
  simpa [spells] using all t

theorem spelling_within {t : Terminal} {cs : List Char} {n : Nat}
    (found : (match t.words.findSome? (Lexeme.wordLength? · cs) with
      | some n => some n
      | none => t.symbol?.bind (Lexeme.symbolLength? · cs)) = some n) : Lexeme.Within cs n := by
  split at found
  · rename_i m spelled
    cases found
    obtain ⟨word, member, ahead⟩ := List.exists_of_findSome?_eq_some spelled
    exact Lexeme.wordLength?_within (word_length_pos member) ahead
  · obtain ⟨symbol, spells, ahead⟩ := Option.bind_eq_some_iff.mp found
    exact Lexeme.symbolLength?_within (symbol_length_pos spells) ahead

theorem lexemeLength?_within {t : Terminal} {cs : List Char} {n : Nat}
    (found : t.lexemeLength? cs = some n) : Lexeme.Within cs n := by
  unfold lexemeLength? at found
  split at found
  · exact Lexeme.numberLength?_within found
  · exact Lexeme.basedLength?_within found
  · exact Lexeme.basedLength?_within found
  · exact Lexeme.stringLength?_within found
  · exact Lexeme.nameLength?_within found
  · exact Lexeme.quotedNameLength?_within found
  · exact Lexeme.variableLength?_within found
  · exact Lexeme.comparisonLength?_within found
  · exact Lexeme.shiftLength?_within found
  · simp at found
  · exact spelling_within found

end Terminal

namespace Ahead

theorem scan_blank {expected : TerminalSet} {cs : List Char} {n : Nat}
    (ahead : scan expected cs = .blank n) : Lexeme.blankLength? cs = some n := by
  unfold scan at ahead
  split at ahead
  · simp at ahead
  · split at ahead
    · rename_i m blank
      cases ahead
      exact blank
    · split at ahead
      · rename_i found
        obtain ⟨t, _, spelled⟩ := List.exists_of_findSome?_eq_some found
        obtain ⟨m, _, same⟩ := Option.map_eq_some_iff.mp spelled
        rw [← same] at ahead
        cases ahead
      · cases ahead

theorem scan_lexeme {expected : TerminalSet} {cs : List Char} {t : Terminal} {n : Nat}
    (ahead : scan expected cs = .lexeme t n) :
    expected.contains t ∧ t.lexemeLength? cs = some n := by
  unfold scan at ahead
  split at ahead
  · simp at ahead
  · split at ahead
    · cases ahead
    · split at ahead
      · rename_i found
        obtain ⟨s, member, spelled⟩ := List.exists_of_findSome?_eq_some found
        obtain ⟨m, length, same⟩ := Option.map_eq_some_iff.mp spelled
        rw [← same] at ahead
        cases ahead
        exact ⟨(List.mem_filter.mp member).2, length⟩
      · cases ahead

/-- A lexeme ahead is taken if it is the only one that is looked for. -/
theorem scan_eq_lexeme {expected : TerminalSet} {c : Char} {cs : List Char} {t : Terminal} {n : Nat}
    (blank : Lexeme.blankLength? (c :: cs) = none) (listed : t ∈ Terminal.precedence)
    (member : expected.contains t = true) (found : t.lexemeLength? (c :: cs) = some n)
    (only : ∀ s m, expected.contains s = true → s.lexemeLength? (c :: cs) = some m → s = t) :
    scan expected (c :: cs) = .lexeme t n := by
  simp only [scan, blank]
  cases first : (Terminal.precedence.filter expected.contains).findSome? fun t =>
      (t.lexemeLength? (c :: cs)).map fun n => Ahead.lexeme t n with
  | none =>
    have absent := List.findSome?_eq_none_iff.mp first t (List.mem_filter.mpr ⟨listed, member⟩)
    rw [found] at absent
    cases absent
  | some ahead =>
    obtain ⟨s, member, spelled⟩ := List.exists_of_findSome?_eq_some first
    obtain ⟨m, length, rfl⟩ := Option.map_eq_some_iff.mp spelled
    obtain rfl := only s m (List.mem_filter.mp member).2 length
    cases found.symm.trans length
    rfl

theorem scan_eq_nothing {expected : TerminalSet} {cs : List Char}
    (ahead : scan expected cs = .nothing) : cs = [] := by
  cases cs with
  | nil => rfl
  | cons c rest =>
    unfold scan at ahead
    dsimp only at ahead
    split at ahead
    · cases ahead
    · split at ahead
      · rename_i found
        obtain ⟨t, _, spelled⟩ := List.exists_of_findSome?_eq_some found
        obtain ⟨m, _, same⟩ := Option.map_eq_some_iff.mp spelled
        rw [← same] at ahead
        cases ahead
      · cases ahead

end Ahead

end SqlSyntax
