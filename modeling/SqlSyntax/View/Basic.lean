import SqlSyntax.Wire.Value

/-! Views: what a client sees of a syntax tree. Every node has the same shape; its kind is a tag,
its text the canonical one, and its data tell its categories and where in its parent it stands. -/

namespace SqlSyntax

structure View where
  type : String
  text : String
  children : List View
  data : Entries Value
  /-- Whether some of the node could not be told. -/
  degraded : Bool

namespace View

def fieldKey : String := "field_name"

def indexKey : String := "array_index"

def fieldName? (v : View) : Option Value :=
  v.data.get? fieldKey

def arrayIndex? (v : View) : Option Value :=
  v.data.get? indexKey

/-- The view with its origin; a place that is null is not told. -/
def withOrigin (v : View) (field index : Value) : View :=
  let named := v.data.put fieldKey field
  { v with
    data := match index with
      | .null => named
      | index => Entries.put indexKey index named }

/-- The view with the member of its parent that holds it, and its place in a list of them. -/
def tagged (v : View) (field : String) (index : Option Nat) : View :=
  v.withOrigin (.text field) (match index with
    | none => .null
    | some i => .integer i)

end View

end SqlSyntax
