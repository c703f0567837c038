import SqlSyntax.Number.Shortest
import SqlSyntax.Text.Case
import SqlSyntax.Text.Quoted
import SqlSyntax.Text.Shown

/-! Literal values. Hexadecimal and bit literals keep their digits and their base only, so both
spellings of one render alike. -/

namespace SqlSyntax

inductive BinaryBase where
  | hexadecimal
  | bit
deriving DecidableEq, Repr

namespace BinaryBase

def radix : BinaryBase → Nat
  | .hexadecimal => 16
  | .bit => 2

def mark : BinaryBase → String
  | .hexadecimal => "X"
  | .bit => "B"

end BinaryBase

inductive Literal where
  | null
  | boolean (b : Bool)
  | integer (n : Int)
  | decimal (d : Decimal)
  | float (x : Binary64)
  | text (s : String)
  | binary (digits : String) (base : BinaryBase)
deriving DecidableEq, Repr

namespace Literal

/-- The number that the digits of a hexadecimal or bit literal stand for. -/
def binaryValue (digits : String) (base : BinaryBase) : Nat :=
  digits.toList.foldl
    (fun n c =>
      let d := if c.isDigit then c.toNat - 48 else c.toLower.toNat - 87
      n * base.radix + d)
    0

def render : Literal → String
  | .null => "NULL"
  | .boolean b => if b then "TRUE" else "FALSE"
  | .integer n => toString n
  | .decimal d => d.text
  | .float x => x.text
  | .text s => Text.quoteString s
  | .binary digits base => base.mark ++ "'" ++ digits ++ "'"

/-- The name by which messages call the type of the value. -/
def typeName : Literal → String
  | .null => "NoneType"
  | .boolean _ => "bool"
  | .integer _ => "int"
  | .decimal _ => "decimal.Decimal"
  | .float _ => "float"
  | .text _ => "str"
  | .binary _ _ => "BinaryLiteral"

/-- Nothing, zero and the empty text count as false. -/
def isTrue : Literal → Bool
  | .null => false
  | .boolean b => b
  | .integer n => n != 0
  | .decimal (.finite _ coefficient _) => coefficient != 0
  | .decimal _ => true
  | .float (.finite _ mantissa _) => mantissa != 0
  | .float _ => true
  | .text s => !s.isEmpty
  | .binary _ _ => true

/-- The form in which messages show the value. -/
def shown : Literal → String
  | .null => "None"
  | .boolean b => if b then "True" else "False"
  | .integer n => toString n
  | .decimal d => "Decimal('" ++ d.text ++ "')"
  | .float x => x.text
  | .text s => Text.shown s
  | .binary digits base =>
    "BinaryLiteral(digits=" ++ Text.shown digits ++ ", base=" ++ toString base.radix ++ ")"

end Literal

end SqlSyntax
