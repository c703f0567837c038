import SqlSyntax.Yaml.Node
import SqlSyntax.Yaml.Scalar

/-! Reading YAML: block and flow lists and mappings of plain and quoted scalars, with comments. A
text with anything else in it is malformed, and so is one of several documents. -/

namespace SqlSyntax.Yaml

/-- Whether a key asks to take over the fields of its value. -/
def Node.isMerge : Node → Bool
  | .scalar text plain => plain && text == mergeKey
  | _ => false

/-- The name that a key gives; only scalars give one. -/
def Node.name : Node → Except Fault String
  | .scalar text plain =>
    if !plain || text == defaultKey then .ok text
    else (resolve text).map fun v => (keyText v).getD text
  | _ => .error .malformed

mutual

def Node.value : Node → Except Fault Value
  | .scalar text plain => if plain then resolve text else .ok (.text text)
  | .list items => do
    let vs ← itemValues items
    return .list vs
  | .mapping entries => do
    let (taken, own) ← fields entries
    return .record (Entries.merge [] (taken ++ own))

def itemValues : List Node → Except Fault (List Value)
  | [] => .ok []
  | n :: rest => do
    let v ← n.value
    let vs ← itemValues rest
    return v :: vs

/-- The fields that a mapping takes over, and its own. -/
def fields : List (Node × Node) → Except Fault (Entries Value × Entries Value)
  | [] => .ok ([], [])
  | (key, n) :: rest =>
    if key.isMerge then do
      let first ← n.offered
      let (taken, own) ← fields rest
      return (first ++ taken, own)
    else do
      let name ← key.name
      let v ← n.value
      let (taken, own) ← fields rest
      return (taken, (name, v) :: own)

/-- The fields that a mapping or a list of mappings gives to another. -/
def Node.offered : Node → Except Fault (Entries Value)
  | .mapping entries => do
    let (taken, own) ← fields entries
    return taken ++ own
  | .list items => offeredByAll items
  | .scalar _ _ => .error .malformed

/-- Earlier mappings overrule later ones. -/
def offeredByAll : List Node → Except Fault (Entries Value)
  | [] => .ok []
  | .mapping entries :: rest => do
    let (taken, own) ← fields entries
    let later ← offeredByAll rest
    return later ++ taken ++ own
  | _ :: _ => .error .malformed

end

/-- Line breaks of other systems as line feeds. -/
def unifiedBreaks : List Char → List Char
  | '\r' :: '\n' :: rest => '\n' :: unifiedBreaks rest
  | '\r' :: rest => '\n' :: unifiedBreaks rest
  | '\u0085' :: rest => '\n' :: unifiedBreaks rest
  | c :: rest => c :: unifiedBreaks rest
  | [] => []

/-- A character that a document may hold. -/
def isAllowed (c : Char) : Bool :=
  let n := c.toNat
  c == '\t' || c == '\n' || c == '\r' || (0x20 ≤ n && n ≤ 0x7e) || n == 0x85 ||
    (0xa0 ≤ n && n ≤ 0xd7ff) || (0xe000 ≤ n && n ≤ 0xfffd) || 0x10000 ≤ n

/-- The value that a text spells; a text without content spells nothing. -/
def read (s : String) : Except Fault Value :=
  if s.toList.all isAllowed then do
    let ts ← tokens (unifiedBreaks s.toList)
    match Node.document? ts with
    | some node => node.value
    | none => .error .malformed
  else .error .malformed

end SqlSyntax.Yaml
