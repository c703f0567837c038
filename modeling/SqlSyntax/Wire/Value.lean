import SqlSyntax.Number.Numeral
import SqlSyntax.Tree.Literal
import SqlSyntax.Wire.Entries

/-! Data as it goes over the wire and into logs: literals, lists and records. -/

namespace SqlSyntax

inductive Value where
  | plain (l : Literal)
  | list (items : List Value)
  | record (fields : List (String × Value))

namespace Value

@[match_pattern]
abbrev null : Value := .plain .null

instance : Inhabited Value := ⟨null⟩

@[match_pattern]
abbrev boolean (b : Bool) : Value := .plain (.boolean b)

@[match_pattern]
abbrev integer (n : Int) : Value := .plain (.integer n)

@[match_pattern]
abbrev float (x : Binary64) : Value := .plain (.float x)

@[match_pattern]
abbrev text (s : String) : Value := .plain (.text s)

def optionalText : Option String → Value
  | some s => text s
  | none => null

def optionalNumber : Option Nat → Value
  | some n => integer n
  | none => null

/-- The field of a record. -/
def get? (v : Value) (key : String) : Option Value :=
  match v with
  | .record fields => fields.lookup key
  | _ => none

/-- Empty, zero, false and null count as nothing. -/
def isNothing : Value → Bool
  | .plain .null => true
  | .plain (.boolean b) => !b
  | .plain (.integer n) => n == 0
  | .plain (.decimal (.finite _ c _)) => c == 0
  | .plain (.float (.finite _ m _)) => m == 0
  | .plain (.text s) => s.isEmpty
  | .list items => items.isEmpty
  | .record fields => fields.isEmpty
  | _ => false

mutual

/-- Whether no integer in the value has more digits than the limit, if there is one. -/
def isWithin (limit : Option Nat) : Value → Bool
  | .plain (.integer n) => Numeral.isWithin limit n
  | .plain _ => true
  | .list items => areWithin limit items
  | .record fields => fieldsAreWithin limit fields

def areWithin (limit : Option Nat) : List Value → Bool
  | [] => true
  | v :: rest => v.isWithin limit && areWithin limit rest

def fieldsAreWithin (limit : Option Nat) : List (String × Value) → Bool
  | [] => true
  | (_, v) :: rest => v.isWithin limit && fieldsAreWithin limit rest

end

/-- Whether the value can be told: an integer of too many digits can be neither written nor read. -/
def isTellable (v : Value) : Bool :=
  v.isWithin (some Numeral.digitLimit)

mutual

/-- The form in which messages show a value. -/
def shown : Value → String
  | .plain l => l.shown
  | .list items => "[" ++ shownItems items ++ "]"
  | .record fields => "\x7b" ++ shownFields fields ++ "\x7d"

def shownItems : List Value → String
  | [] => ""
  | [v] => shown v
  | v :: rest => shown v ++ ", " ++ shownItems rest

def shownFields : List (String × Value) → String
  | [] => ""
  | [(key, v)] => Text.shown key ++ ": " ++ shown v
  | (key, v) :: rest => Text.shown key ++ ": " ++ shown v ++ ", " ++ shownFields rest

end

/-- A text as it is, a decimal by its digits, anything else as messages show it. -/
def plainText : Value → String
  | .text s => s
  | .plain (.decimal d) => d.text
  | v => v.shown

end Value

end SqlSyntax
