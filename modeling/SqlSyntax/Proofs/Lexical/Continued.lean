import SqlSyntax.Proofs.Lexical.Quoted

/-!
# Text that goes on

What is found at the head of a text is found there too when a line feed and more text follow. White
space takes the line feed in; a block comment that was open could be closed by what follows, so it
is excluded.
-/

namespace SqlSyntax

namespace Lexeme

theorem blockEnd?_append {cs : List Char} {taken n : Nat} (found : blockEnd? cs taken = some n)
    (r : List Char) : blockEnd? (cs ++ r) taken = some n := by
  fun_induction blockEnd? cs taken with
  | case1 rest taken => simpa [blockEnd?] using found
  | case2 c rest taken goes ih =>
    cases rest with
    | nil => simp [blockEnd?] at found
    | cons d rest =>
      rw [List.cons_append, blockEnd?]
      · exact ih found
      · intro left star slash
        exact goes rest star (by rw [(List.cons.inj slash).1])
  | case3 => cases found

theorem blankLength?_of_layout {c : Char} (layout : Text.isLayout c = true) (cs : List Char) :
    blankLength? (c :: cs) = some (1 + runLength Text.isLayout cs) := by
  rw [blankLength?, if_pos layout]
  · rintro rfl
    exact absurd layout (by decide)
  · rintro left rfl
    exact absurd layout (by decide)
  · rintro left rfl
    exact absurd layout (by decide)

theorem runLength_lineFeed (cs r : List Char) :
    runLength Text.isLayout (cs ++ '\n' :: r) = runLength Text.isLayout cs ∨
      runLength Text.isLayout cs = cs.length ∧
        runLength Text.isLayout (cs ++ '\n' :: r) = cs.length + 1 + runLength Text.isLayout r := by
  unfold runLength
  induction cs with
  | nil =>
    right
    simp [Text.isLayout, Nat.add_comm]
  | cons c cs ih =>
    by_cases layout : Text.isLayout c = true
    · simp only [List.cons_append, List.takeWhile_cons, layout, if_true, List.length_cons]
      omega
    · left
      simp [layout]

theorem blankLength?_lineFeed {cs : List Char} {n : Nat} (found : blankLength? cs = some n)
    (r : List Char) :
    blankLength? (cs ++ '\n' :: r) = some n ∨
      n = cs.length ∧ blankLength? (cs ++ '\n' :: r) =
        some (n + 1 + runLength Text.isLayout r) := by
  unfold blankLength? at found
  split at found
  · rename_i rest
    left
    rw [List.cons_append, blankLength?, runLength_append _ (by decide)]
    exact found
  · rename_i rest
    left
    have blank : (rest ++ '\n' :: r).head?.all Text.isBlank = rest.head?.all Text.isBlank := by
      cases rest with
      | nil =>
        change Text.isBlank '\n' = true
        decide
      | cons c rest => rfl
    rw [List.cons_append, List.cons_append, blankLength?, blank, runLength_append _ (by decide)]
    exact found
  · left
    rw [List.cons_append, List.cons_append, blankLength?]
    exact blockEnd?_append found _
  · rename_i c rest _ _ _
    split_ifs at found with layout
    cases found
    rw [List.cons_append, blankLength?_of_layout layout]
    obtain same | ⟨whole, same⟩ := runLength_lineFeed rest r
    · rw [same]
      exact .inl rfl
    · rw [same, whole]
      exact .inr ⟨by rw [List.length_cons]; omega, by congr 1; omega⟩
  · cases found

/-- Without a blank ahead there is none either when the text goes on, unless a block comment is
open. -/
theorem blankLength?_append_of_none {c : Char} {cs : List Char}
    (absent : blankLength? (c :: cs) = none) {x : Char} (stop : x ∈ stops) (r : List Char) :
    blankLength? (c :: cs ++ x :: r) = none ∨ ∃ left, c :: cs = '/' :: '*' :: left := by
  have dash : x ≠ '-' := ne_of_mem_stops stop (by decide)
  have star : x ≠ '*' := ne_of_mem_stops stop (by decide)
  unfold blankLength? at absent
  split at absent
  · cases absent
  · rename_i rest same
    cases same
    left
    cases rest with
    | nil => simp at absent
    | cons d rest =>
      split_ifs at absent with blank
      rw [List.cons_append, List.cons_append, blankLength?]
      exact if_neg blank
  · rename_i rest same
    exact .inr ⟨rest, same⟩
  · rename_i c' rest hash dashes block same
    cases same
    left
    split_ifs at absent with layout
    rw [List.cons_append, blankLength?, if_neg layout]
    · exact hash
    · rintro left rfl same
      cases cs with
      | nil => exact dash (List.cons.inj same).1
      | cons d cs => exact dashes cs rfl (by rw [(List.cons.inj same).1])
    · rintro left rfl same
      cases cs with
      | nil => exact star (List.cons.inj same).1
      | cons d cs => exact block cs rfl (by rw [(List.cons.inj same).1])
  · rename_i same
    cases same

end Lexeme

namespace Terminal

theorem eq_slash_of_starts {t : Terminal} (starts : t.starts '/' = true) : t = .slash := by
  rw [starts_of_isMark (by decide)] at starts
  revert t
  decide +kernel

theorem eq_length_of_slash {cs : List Char} {n : Nat}
    (found : Terminal.slash.lexemeLength? ('/' :: cs) = some n) : "/".length = n := by
  have spelled (cs : List Char) :
      Terminal.slash.lexemeLength? cs = Lexeme.symbolLength? "/" cs := rfl
  rw [spelled] at found
  simpa [Lexeme.symbolLength?] using found

theorem eq_star_of_starts {t : Terminal} (starts : t.starts '*' = true) : t = .star := by
  rw [starts_of_isMark (by decide)] at starts
  revert t
  decide +kernel

/-- The terminals between quotes. -/
theorem isBare_cases {t : Terminal} (quoted : t.isBare = false) :
    t = .string ∨ t = .quotedName := by
  revert t
  decide +kernel

/-- A lexeme that was found is found too when the text goes on, or it was an unended quoted text. -/
theorem lexemeLength?_append_of_some {t : Terminal} {c : Char} {cs : List Char} {n : Nat}
    (found : t.lexemeLength? (c :: cs) = some n) {x : Char} (stop : x ∈ Lexeme.stops)
    (r : List Char) :
    (∀ s : Terminal, s.lexemeLength? (c :: cs ++ x :: r) = s.lexemeLength? (c :: cs)) ∨
      Lexeme.LeftOpen ((c :: cs).drop n) := by
  by_cases left : Lexeme.LeftOpen ((c :: cs).drop n)
  · exact .inr left
  · left
    intro s
    cases starts : s.starts c with
    | false => rw [List.cons_append, lexemeLength?_eq_none starts, lexemeLength?_eq_none starts]
    | true =>
      -- Only one quoted terminal starts with a quote, so it is the one that was found.
      cases bare : s.isBare with
      | true => exact lexemeLength?_append bare stop c cs r
      | false =>
        have first := starts_of_lexemeLength? found
        obtain rfl | rfl := isBare_cases bare
        · cases eq_string_of_starts (by simpa [Terminal.starts] using starts) first
          rw [lexemeLength?] at found
          exact ((Lexeme.stringLength?_append found stop r).resolve_right left).trans found.symm
        · obtain rfl : c = Text.backQuote := by simpa [Terminal.starts] using starts
          cases eq_quotedName_of_starts first
          rw [lexemeLength?] at found
          exact ((Lexeme.quotedNameLength?_append found stop r).resolve_right left).trans found.symm

end Terminal

namespace Ahead

theorem scan_star {expected : TerminalSet} (absent : expected.contains .star = false)
    (cs : List Char) : scan expected ('*' :: cs) = .unknown := by
  apply scan_eq_unknown
  · simp [Lexeme.blankLength?, Text.isLayout]
  · intro t member
    cases found : t.lexemeLength? ('*' :: cs) with
    | none => rfl
    | some n =>
      cases Terminal.eq_star_of_starts (Terminal.starts_of_lexemeLength? found)
      rw [absent] at member
      cases member

theorem scan_lexeme_blank {expected : TerminalSet} {cs : List Char} {t : Terminal} {n : Nat}
    (ahead : scan expected cs = .lexeme t n) : Lexeme.blankLength? cs = none := by
  cases cs with
  | nil => rfl
  | cons c cs =>
    unfold scan at ahead
    dsimp only at ahead
    split at ahead
    · cases ahead
    · assumption

/-- A lexeme ahead is ahead too when the text goes on, but for two cases in which the text behind
the lexeme can not be read: it is what is left of a quoted text, or of a block comment. -/
theorem scan_lexeme_append {expected : TerminalSet} {cs : List Char} {t : Terminal} {n : Nat}
    (ahead : scan expected cs = .lexeme t n) {x : Char} (stop : x ∈ Lexeme.stops) (r : List Char) :
    scan expected (cs ++ x :: r) = .lexeme t n ∨ Lexeme.LeftOpen (cs.drop n) ∨
      t = .slash ∧ ∃ left, cs.drop n = '*' :: left := by
  cases cs with
  | nil => cases ahead
  | cons c cs =>
    have found := (scan_lexeme ahead).2
    obtain same | left := Terminal.lexemeLength?_append_of_some found stop r
    · obtain blank | ⟨left, comment⟩ :=
        Lexeme.blankLength?_append_of_none (scan_lexeme_blank ahead) stop r
      · left
        rw [← ahead]
        simp only [List.cons_append] at same blank
        simp only [scan, List.cons_append, blank, scan_lexeme_blank ahead, same]
      · cases comment
        cases Terminal.eq_slash_of_starts (Terminal.starts_of_lexemeLength? found)
        obtain rfl := Terminal.eq_length_of_slash found
        exact .inr (.inr ⟨rfl, left, rfl⟩)
    · exact .inr (.inl left)

theorem scan_of_blank {expected : TerminalSet} {cs : List Char} {n : Nat}
    (blank : Lexeme.blankLength? cs = some n) : scan expected cs = .blank n := by
  cases cs with
  | nil => simp [Lexeme.blankLength?] at blank
  | cons c cs => simp only [scan, blank]

theorem scan_blank_lineFeed {expected : TerminalSet} {cs : List Char} {n : Nat}
    (ahead : scan expected cs = .blank n) (r : List Char) :
    scan expected (cs ++ '\n' :: r) = .blank n ∨ n = cs.length ∧
      scan expected (cs ++ '\n' :: r) = .blank (n + 1 + Lexeme.runLength Text.isLayout r) := by
  obtain same | ⟨whole, same⟩ := Lexeme.blankLength?_lineFeed (scan_blank ahead) r
  · exact .inl (scan_of_blank same)
  · exact .inr ⟨whole, scan_of_blank same⟩

end Ahead

end SqlSyntax
