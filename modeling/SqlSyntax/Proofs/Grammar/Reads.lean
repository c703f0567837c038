import SqlSyntax.Proofs.Grammar.Derivation
import SqlSyntax.Proofs.Lexical.Found

/-!
# Texts that spell out rows of symbols

A text reads as a row of symbols if it is put together from legible pieces that the row derives.
Such texts are built up symbol by symbol; what has to be seen to at each joint is only that the text
behind it ends the lexeme in front.
-/

namespace SqlSyntax.Grammar.Fragment

open Piece (Found Legible textOf)

variable {f : Fragment} {Ends : List Char → Terminal → Prop} {scope : TerminalSet}
  {symbols : List Symbol} {text later : String} {vs : Values symbols}

/-- The text spells out the row of symbols, which have the values, in front of whatever text and
next terminal `Ends` admits. -/
def Reads (f : Fragment) (Ends : List Char → Terminal → Prop) (scope : TerminalSet)
    (symbols : List Symbol) (text : String) (vs : Values symbols) : Prop :=
  ∃ pieces, textOf pieces = text.toList ∧
    ∀ rest behind, Ends rest behind → f.Derives behind scope symbols pieces vs ∧ Legible rest pieces

theorem Reads.nil : f.Reads Ends scope [] "" () :=
  ⟨[], rfl, fun _ _ _ => ⟨.nil, trivial⟩⟩

theorem Reads.token {t : Terminal} {spelling : String}
    (found : ∀ rest behind, Ends rest behind → Found scope t spelling.toList (text.toList ++ rest))
    (tail : f.Reads Ends (f.scope (.terminal t) symbols.head?) symbols text vs) :
    f.Reads Ends scope (.terminal t :: symbols) (spelling ++ text)
      ((⟨t, spelling, .start⟩ : Token), vs) := by
  obtain ⟨pieces, spelled, reads⟩ := tail
  refine ⟨.token scope t spelling.toList :: pieces, ?_, fun rest behind ends => ?_⟩
  · rw [Piece.textOf_cons, spelled, String.toList_append]
    rfl
  · obtain ⟨derives, legible⟩ := reads rest behind ends
    have derived : f.Derives behind scope (.terminal t :: symbols)
        (.token scope t spelling.toList :: pieces)
        ((⟨t, String.ofList spelling.toList, .start⟩ : Token), vs) :=
      .terminal t spelling.toList derives
    rw [String.ofList_toList] at derived
    refine ⟨derived, ?_, legible⟩
    rw [spelled]
    exact found rest behind ends

/-- A single space in front. -/
theorem Reads.space (row : f.Reads Ends scope symbols text vs)
    (solid : ∃ c tail, text.toList = c :: tail ∧ Text.isLayout c = false) :
    f.Reads Ends scope symbols (" " ++ text) vs := by
  obtain ⟨pieces, spelled, reads⟩ := row
  obtain ⟨c, tail, begins, visible⟩ := solid
  refine ⟨.blank :: pieces, ?_, fun rest behind ends => ?_⟩
  · rw [Piece.textOf_cons, spelled, String.toList_append]
    rfl
  · obtain ⟨derives, legible⟩ := reads rest behind ends
    refine ⟨.blank derives, ?_, legible⟩
    rw [spelled, begins]
    intro d member
    cases member
    exact visible

/-- What comes behind the first symbol starts as the others can start, and with one of them unless
they are not written at all. -/
theorem Reads.cons {a : Automaton} (fits : f.Fits a) {Meets : List Char → Terminal → Prop}
    {s : Symbol} {v : s.Value} (head : f.Reads Meets scope [s] text (v, ()))
    (tail : f.Reads Ends (f.scope s symbols.head?) symbols later vs)
    (meets : ∀ rest behind next, Ends rest behind →
      (∀ other, other = behind ∨ (∃ c ∈ later.toList, c ≠ ' ') → f.Starts other symbols next) →
        Meets (later.toList ++ rest) next) :
    f.Reads Ends scope (s :: symbols) (text ++ later) (v, vs) := by
  obtain ⟨pieces, spelled, reads⟩ := head
  obtain ⟨pieces', spelled', reads'⟩ := tail
  refine ⟨pieces ++ pieces', ?_, fun rest behind ends => ?_⟩
  · rw [Piece.textOf_append, spelled, spelled', String.toList_append]
  · obtain ⟨derives', legible'⟩ := reads' rest behind ends
    have starts (other : Terminal) (known : other = behind ∨ ∃ c ∈ later.toList, c ≠ ' ') :
        f.Starts other symbols (Piece.ahead pieces' behind) := by
      have same : Piece.ahead pieces' behind = Piece.ahead pieces' other := by
        obtain rfl | solid := known
        · rfl
        · exact Piece.ahead_of_solid (spelled' ▸ solid) behind other
      rw [same]
      exact derives'.starts fits other
    obtain ⟨derives, legible⟩ := reads _ _ (meets rest behind _ ends starts)
    refine ⟨derives.cons derives', ?_⟩
    rw [Piece.legible_append, spelled']
    exact ⟨legible, legible'⟩

theorem Reads.production (p : Production) (covered : f.covers p = true)
    (admits : ∀ rest behind, Ends rest behind → (f.ends p).contains behind = true)
    {values : Values p.rhs} {v : p.lhs.Value} (row : f.Reads Ends scope p.rhs text values)
    (builds : p.build 0 values = .ok v) : f.Reads Ends scope [.nonterminal p.lhs] text (v, ()) := by
  obtain ⟨pieces, spelled, reads⟩ := row
  refine ⟨pieces ++ [], ?_, fun rest behind ends => ?_⟩
  · rw [List.append_nil, spelled]
  · obtain ⟨derives, legible⟩ := reads rest behind ends
    refine ⟨.nonterminal p covered derives builds (admits rest behind ends) .nil, ?_⟩
    rw [List.append_nil]
    exact legible

/-! ### Fixed words -/

theorem stops_append {mark : String} (stop : mark.toList.head?.any Lexeme.stops.contains = true)
    (text : String) (rest : List Char) : Stops ((mark ++ text).toList ++ rest) := by
  rw [String.toList_append]
  cases spelling : mark.toList with
  | nil =>
    rw [spelling] at stop
    cases stop
  | cons c tail =>
    rw [spelling] at stop
    exact stops_cons (by simpa using stop) _

theorem solid_of_spells {t : Terminal} {word : String} (spelled : Piece.spells t word.toList = true)
    (text : String) : ∃ c tail, (word ++ text).toList = c :: tail ∧ Text.isLayout c = false := by
  rw [String.toList_append]
  cases spelling : word.toList with
  | nil =>
    rw [spelling] at spelled
    cases spelled
  | cons c tail =>
    rw [spelling] at spelled
    refine ⟨c, tail ++ text.toList, rfl, ?_⟩
    simp only [Piece.spells, Bool.and_eq_true, beq_iff_eq] at spelled
    by_contra layout
    rw [Lexeme.blankLength?_of_layout (eq_true_of_ne_false layout)] at spelled
    cases spelled.1.1.2

/-- A keyword or mark in front of a stop. -/
theorem Reads.word {t : Terminal} {word : String} (spelled : Piece.spells t word.toList = true)
    (tail : f.Reads Ends (f.scope (.terminal t) symbols.head?) symbols text vs)
    (stops : ∀ rest behind, Ends rest behind → Stops (text.toList ++ rest)) :
    f.Reads Ends scope (.terminal t :: symbols) (word ++ text)
      ((⟨t, word, .start⟩ : Token), vs) :=
  .token (fun rest behind ends => Piece.found_of_spells spelled (stops rest behind ends)) tail

/-- What the text can be in front of may be narrowed down. -/
theorem Reads.before {Narrow : List Char → Terminal → Prop}
    (row : f.Reads Ends scope symbols text vs)
    (admits : ∀ rest behind, Narrow rest behind → Ends rest behind) :
    f.Reads Narrow scope symbols text vs := by
  obtain ⟨pieces, spelled, reads⟩ := row
  exact ⟨pieces, spelled, fun rest behind narrow => reads rest behind (admits rest behind narrow)⟩

end SqlSyntax.Grammar.Fragment
