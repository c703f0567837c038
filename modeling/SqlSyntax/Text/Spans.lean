/-! Sets of code points, written as ascending inclusive spans. -/

namespace SqlSyntax.Text

/-- First and last code point of each span in turn, spans ascending. -/
abbrev Spans := List Nat

def Spans.contains : Spans → Nat → Bool
  | first :: last :: rest, code =>
    if code < first then false
    else if code ≤ last then true
    else Spans.contains rest code
  | _, _ => false

end SqlSyntax.Text
