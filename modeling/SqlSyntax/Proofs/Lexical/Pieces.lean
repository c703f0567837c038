import SqlSyntax.Proofs.Lexical.Extent

/-!
# Texts put together from pieces

A written text is a row of blanks and tokens. It is legible if each of its tokens is the lexeme that
is found at its place, whatever else is looked for there: with a token goes the set of terminals
that may be looked for where it stands.
-/

namespace SqlSyntax

inductive Piece where
  | blank
  | token (scope : TerminalSet) (terminal : Terminal) (spelling : List Char)

namespace Piece

def text : Piece → List Char
  | blank => [' ']
  | token _ _ spelling => spelling

def textOf (pieces : List Piece) : List Char :=
  pieces.flatMap text

@[simp]
theorem textOf_nil : textOf [] = [] :=
  rfl

@[simp]
theorem textOf_cons (piece : Piece) (pieces : List Piece) :
    textOf (piece :: pieces) = piece.text ++ textOf pieces :=
  rfl

@[simp]
theorem textOf_append (pieces later : List Piece) :
    textOf (pieces ++ later) = textOf pieces ++ textOf later :=
  List.flatMap_append

/-- The first terminal of the pieces, or the one behind them. -/
def ahead : List Piece → Terminal → Terminal
  | [], behind => behind
  | blank :: rest, behind => ahead rest behind
  | token _ t _ :: _, _ => t

theorem ahead_append (pieces later : List Piece) (behind : Terminal) :
    ahead (pieces ++ later) behind = ahead pieces (ahead later behind) := by
  induction pieces with
  | nil => rfl
  | cons piece pieces ih =>
    cases piece with
    | blank => exact ih
    | token scope t spelling => rfl

/-- What comes behind does not matter if more than spaces are written. -/
theorem ahead_of_solid {pieces : List Piece} (solid : ∃ c ∈ textOf pieces, c ≠ ' ')
    (behind other : Terminal) : ahead pieces behind = ahead pieces other := by
  induction pieces with
  | nil => simp at solid
  | cons piece pieces ih =>
    cases piece with
    | blank => exact ih (by simpa [text] using solid)
    | token scope t spelling => rfl

/-- In front of `rest` the spelling is found as a lexeme of `t` whatever else of `scope` is looked
for. -/
def Found (scope : TerminalSet) (t : Terminal) (spelling rest : List Char) : Prop :=
  ∀ expected : TerminalSet, (∀ u, expected.contains u = true → scope.contains u = true) →
    expected.contains t = true →
      Ahead.scan expected (spelling ++ rest) = .lexeme t spelling.length

/-- In front of `rest` every piece can be told from what follows it. -/
def Legible (rest : List Char) : List Piece → Prop
  | [] => True
  | blank :: pieces =>
    (∀ c ∈ (textOf pieces ++ rest).head?, Text.isLayout c = false) ∧ Legible rest pieces
  | token scope t spelling :: pieces =>
    Found scope t spelling (textOf pieces ++ rest) ∧ Legible rest pieces

theorem legible_append {pieces later : List Piece} {rest : List Char} :
    Legible rest (pieces ++ later) ↔ Legible (textOf later ++ rest) pieces ∧
      Legible rest later := by
  induction pieces with
  | nil => simp [Legible]
  | cons piece pieces ih =>
    cases piece with
    | blank =>
      simp only [List.cons_append, Legible, ih, textOf_append, List.append_assoc, and_assoc]
    | token scope t spelling =>
      simp only [List.cons_append, Legible, ih, textOf_append, List.append_assoc, and_assoc]

end Piece

namespace Ahead

/-- A single space is skipped alone. -/
theorem scan_space {rest : List Char} (ends : ∀ c ∈ rest.head?, Text.isLayout c = false)
    (expected : TerminalSet) : scan expected (' ' :: rest) = .blank 1 := by
  have alone : Lexeme.runLength Text.isLayout rest = 0 := by
    cases rest with
    | nil => rfl
    | cons c rest => simp [Lexeme.runLength, ends c rfl]
  have space : Lexeme.blankLength? (' ' :: rest) = some 1 := by
    simp [Lexeme.blankLength?, alone, show Text.isLayout ' ' = true by decide]
  simp only [scan, space]

end Ahead

end SqlSyntax
