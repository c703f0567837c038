import SqlSyntax.Text.Letter
import SqlSyntax.Tree.Shown

/-! Pieces of canonical text, and why a tree may have none. -/

namespace SqlSyntax

inductive RenderError where
  /-- A value of that type stands where a node is required. -/
  | notANode (typeName : String)
  /-- The kind has no written form. -/
  | unwritable (kind : String)
  /-- The value shown is no literal. -/
  | badLiteral (shown : String)
  /-- A set operation has fewer operators than it needs, in a sequence of that type. -/
  | missingOperator (typeName : String)
  /-- Operators stand under names and not in an order. -/
  | unorderedOperators
  /-- A value of that type stands where a sequence of operators is required. -/
  | notIndexed (typeName : String)
  /-- A value of that type stands where a word is required. -/
  | notAWord (typeName : String)
  /-- A value of that type stands where a name or a string is required. -/
  | notAName (typeName : String)
  /-- A value of that type stands where a text is written as it is, after so many pieces. -/
  | notAText (pieces : Nat) (typeName : String)
  /-- A value of that type stands where a row of values is required. -/
  | notARow (typeName : String)
  /-- A value of that type stands behind a word that it should complete. -/
  | notBehindWord (typeName : String)
  /-- A value of that type stands before a word that should complete it. -/
  | notBeforeWord (typeName : String)
deriving DecidableEq, Repr

namespace RenderError

def lacking (typeName ability : String) : String :=
  "'" ++ typeName ++ "' object has no attribute '" ++ ability ++ "'"

def message : RenderError → String
  | .notANode typeName => lacking typeName "restore"
  | .unwritable kind => kind ++ " cannot be restored"
  | .badLiteral shown => "Unsupported literal " ++ shown
  | .missingOperator typeName => typeName ++ " index out of range"
  | .unorderedOperators => "0"
  | .notIndexed typeName => "'" ++ typeName ++ "' object is not subscriptable"
  | .notAWord typeName => lacking typeName "upper"
  | .notAName typeName => lacking typeName "replace"
  | .notAText pieces typeName =>
    "sequence item " ++ toString pieces ++ ": expected str instance, " ++ typeName ++ " found"
  | .notARow typeName => "'" ++ typeName ++ "' object is not iterable"
  | .notBehindWord typeName => "can only concatenate str (not \"" ++ typeName ++ "\") to str"
  | .notBeforeWord typeName =>
    if typeName = "list" ∨ typeName = "tuple" then
      "can only concatenate " ++ typeName ++ " (not \"str\") to " ++ typeName
    else "unsupported operand type(s) for +: '" ++ typeName ++ "' and 'str'"

end RenderError

/-- The name by which messages call the type of what a slot holds. -/
def Slot.typeName : Slot → String
  | .node n => n.kind.name
  | .list _ => "list"
  | .tuple _ => "tuple"
  | .mapping _ => "dict"
  | .plain v => v.typeName

/-- A name before the dot it qualifies, or nothing. -/
def qualifier (name : String) : String :=
  if name.isEmpty then "" else Text.quoteName name ++ "."

/-- The alias of a field or table, or nothing. -/
def aliasText (name : String) : String :=
  if name.isEmpty then "" else " AS " ++ Text.quoteName name

def nameList (names : List String) : String :=
  ", ".intercalate (names.map Text.quoteName)

/-- A word operator is set off from its operand. -/
def unaryText (op : String) : String :=
  Text.toUpper op ++ (if !op.isEmpty && op.toList.all Text.isLetter then " " else "")

/-- A join on the right of a join needs parentheses, one of a single table does not. -/
def Slot.isProperJoin : Slot → Bool
  | .node (.join _ right _ _ _) => !right.isEmpty
  | .node (.loose .join members) => (members.lookup "right").any (!·.isEmpty)
  | _ => false

end SqlSyntax
