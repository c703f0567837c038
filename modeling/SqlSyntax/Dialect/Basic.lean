import SqlSyntax.Dialect.Category
import SqlSyntax.Script

/-! Dialects: a parser of scripts, and what can be told of the nodes it makes. -/

namespace SqlSyntax

/-- Why a dialect gives no statements: it rejects the text, or it fails. -/
inductive Refusal where
  | rejected (e : ParseError)
  | crashed (fault : Fault)

/-- What a call of the parser logs, and what it gives. A statement may be absent. -/
abbrev Parsing := List Log.Record × Except Refusal (List (Option Node))

/-- Each of the things that can be told of a node may fail to be told. -/
structure Dialect where
  name : String
  aliases : List String
  version : String
  categories : Categories
  parse : String → Parsing
  render : Node → Except Fault String
  members : Node → Except Fault (List (String × Member))
  /-- The tag of the node's kind. -/
  tag : Node → Except Fault String := fun n => .ok n.kind.tag
  /-- The node that a value is to the dialect, if it is one. -/
  node? : Slot → Except Fault (Option Node) := fun s => .ok s.node?
  /-- Whether the node can be marked with its categories; a key that no record can have prevents
  it. -/
  marking : Node → Except Fault Unit := fun _ => .ok ()

namespace RenderError

def fault (e : RenderError) : Fault :=
  let type := match e with
    | .notANode _ | .notAWord _ | .notAName _ => "AttributeError"
    | .unwritable _ => "NotImplementedError"
    | .missingOperator _ => "IndexError"
    | .unorderedOperators => "KeyError"
    | .badLiteral _ | .notIndexed _ | .notAText _ _ | .notARow _ | .notBehindWord _
    | .notBeforeWord _ => "TypeError"
  ⟨type, e.message⟩

end RenderError

/-- The canonical text, a failure named as logs name it. -/
def Node.rendered (n : Node) : Except Fault String :=
  match n.render with
  | .ok text => .ok text
  | .error e => .error e.fault

/-- The members of a node of a particular kind; a bare node has none to enumerate. -/
def Node.enumerated : Node → Except Fault (List (String × Member))
  | .bare _ => .error ⟨"TypeError", "must be called with a dataclass type or instance"⟩
  | n => .ok n.members

end SqlSyntax
