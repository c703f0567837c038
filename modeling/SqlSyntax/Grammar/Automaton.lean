import SqlSyntax.Grammar.Script

/-! Shift-reduce automata. A row says what a state does: move on a terminal, reduce by a production
before certain terminals, and where to go after a reduction. -/

namespace SqlSyntax.Grammar

structure Row where
  shifts : List (Terminal × Nat)
  reductions : List (Production × TerminalSet)
  gotos : List (Nonterminal × Nat)

inductive Action where
  | shift (state : Nat)
  | reduce (p : Production)

namespace Row

/-- A shift goes before a reduction. -/
def action? (r : Row) (t : Terminal) : Option Action :=
  match r.shifts.lookup t with
  | some state => some (.shift state)
  | none => (r.reductions.find? fun e => e.2.contains t).map fun e => .reduce e.1

/-- The terminals on which the row does something. -/
def expected (r : Row) : TerminalSet :=
  (r.reductions.map Prod.snd).foldl TerminalSet.union
    (TerminalSet.ofList (r.shifts.map Prod.fst))

end Row

/-- Rows are grouped in blocks of `Automaton.blockSize`. -/
structure Automaton where
  blocks : Array (Array Row)
  /-- The state in which a whole script has been read. -/
  final : Nat

namespace Automaton

def blockSize : Nat := 32

def row? (a : Automaton) (state : Nat) : Option Row :=
  match a.blocks[state / blockSize]? with
  | some block => block[state % blockSize]?
  | none => none

end Automaton

end SqlSyntax.Grammar
