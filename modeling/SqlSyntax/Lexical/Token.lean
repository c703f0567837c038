import SqlSyntax.Lexical.Lexeme

/-! Tokens and their places. Lines and columns count from one; only a line feed ends a line. -/

namespace SqlSyntax

structure Position where
  offset : Nat
  line : Nat
  column : Nat
deriving DecidableEq, Repr

namespace Position

def start : Position := ⟨0, 1, 1⟩

def next (p : Position) (c : Char) : Position :=
  if c = '\n' then ⟨p.offset + 1, p.line + 1, 1⟩ else ⟨p.offset + 1, p.line, p.column + 1⟩

/-- The place behind the given characters. -/
def after (p : Position) (cs : List Char) : Position :=
  cs.foldl next p

end Position

structure Token where
  terminal : Terminal
  text : String
  position : Position
deriving DecidableEq, Repr

/-- The name that a name, quoted name or string token spells. -/
def Token.name (t : Token) : String :=
  match t.terminal with
  | .quotedName => Text.unquoteName t.text
  | .string => Text.unquoteString t.text
  | _ => t.text

/-- A set of terminals, one bit for each. -/
structure TerminalSet where
  bits : Nat
deriving DecidableEq, Repr

namespace TerminalSet

def empty : TerminalSet := ⟨0⟩

def insert (s : TerminalSet) (t : Terminal) : TerminalSet :=
  ⟨s.bits ||| 1 <<< t.ctorIdx⟩

def union (s t : TerminalSet) : TerminalSet :=
  ⟨s.bits ||| t.bits⟩

def contains (s : TerminalSet) (t : Terminal) : Bool :=
  s.bits.testBit t.ctorIdx

def ofList (ts : List Terminal) : TerminalSet :=
  ts.foldl insert empty

end TerminalSet

/-- What stands at the head of a text. -/
inductive Ahead where
  | nothing
  | blank (length : Nat)
  | lexeme (terminal : Terminal) (length : Nat)
  | unknown
deriving DecidableEq, Repr

/-- Looks for white space, a comment, or the first of the `expected` terminals, in the order of
`Terminal.precedence`, that has a lexeme here. -/
def Ahead.scan (expected : TerminalSet) (cs : List Char) : Ahead :=
  match cs with
  | [] => .nothing
  | _ :: _ =>
    match Lexeme.blankLength? cs with
    | some n => .blank n
    | none =>
      match (Terminal.precedence.filter expected.contains).findSome? fun t =>
          (t.lexemeLength? cs).map fun n => Ahead.lexeme t n with
      | some found => found
      | none => .unknown

end SqlSyntax
