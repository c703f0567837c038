import SqlSyntax.Log.Record

/-! Thresholds: which records are written. A logger without a level of its own has that of the
nearest one above it by name, in the end that of the root. -/

namespace SqlSyntax.Log

structure Thresholds where
  root : Level
  own : Entries Level

namespace Thresholds

/-- Loggers that only speak up when something is wrong. -/
def quietLoggers : List String := ["lark", "uvicorn.access", "httpx"]

/-- The set-up for a level given by its name. -/
def configured (level : Level) : Thresholds :=
  ⟨level, quietLoggers.map fun name => (name, .warning)⟩

/-- The name without its last part. -/
def parent (name : List Char) : List Char :=
  ((name.reverse.dropWhile (· != '.')).drop 1).reverse

/-- `fuel` bounds the number of dots in the name. -/
def levelFrom (t : Thresholds) : Nat → List Char → Level
  | 0, _ => t.root
  | _, [] => t.root
  | fuel + 1, name =>
    match t.own.get? (String.ofList name) with
    | some level => level
    | none => t.levelFrom fuel (parent name)

/-- The level that a logger has to reach. -/
def levelOf (t : Thresholds) (name : String) : Level :=
  t.levelFrom (name.length + 1) name.toList

/-- The name under which a logger writes. -/
def writtenName (name : String) : String :=
  if name.isEmpty then "root" else name

/-- Whether the record of a logger is written; the root's level also holds for the line as such. -/
def isWritten (t : Thresholds) (name : String) (level : Level) : Bool :=
  0 < level.number && (t.levelOf name).number ≤ level.number && t.root.number ≤ level.number

end Thresholds

end SqlSyntax.Log
