import SqlSyntax.Yaml.Token

/-! The content of a YAML document: scalars, lists and mappings, read from its tokens. What is left
out is an empty plain scalar. -/

namespace SqlSyntax.Yaml

inductive Node where
  | scalar (text : String) (plain : Bool)
  | list (items : List Node)
  | mapping (entries : List (Node × Node))

namespace Node

def empty : Node := .scalar "" true

/-- One of the tokens `stops` comes next, or none. -/
def stopsAt (stops ts : List Token) : Bool :=
  ts.head?.all stops.contains

mutual

/-- A node; those of blocks only if `block`, and a list that is not indented only if `loose`. -/
def ofTokens (block loose : Bool) : Nat → List Token → Option (Node × List Token)
  | 0, _ => none
  | _, [] => none
  | fuel + 1, t :: ts =>
    match t with
    | .scalar text plain => some (.scalar text plain, ts)
    | .flowListStart => flowItems fuel [] true ts
    | .flowMappingStart => flowEntries fuel [] true ts
    | .listStart => if block then blockItems fuel [] ts else none
    | .mappingStart => if block then blockEntries fuel [] ts else none
    | .entry => if loose then looseItems fuel [] (t :: ts) else none
    | _ => none

/-- A node, or an empty one where one of the tokens `stops` comes next. -/
def orEmpty (stops : List Token) (block loose : Bool) :
    Nat → List Token → Option (Node × List Token)
  | 0, _ => none
  | fuel + 1, ts =>
    if stopsAt stops ts then some (empty, ts) else ofTokens block loose fuel ts

/-- What stands behind the colon of a key, if there is one. -/
def behindColon (stops : List Token) (block : Bool) :
    Nat → List Token → Option (Node × List Token)
  | 0, _ => none
  | fuel + 1, .value :: ts => orEmpty stops block block fuel ts
  | _ + 1, ts => some (empty, ts)

def blockItems : Nat → List Node → List Token → Option (Node × List Token)
  | 0, _, _ => none
  | fuel + 1, items, .entry :: ts => do
    let (item, ts) ← orEmpty [.entry, .blockEnd] true false fuel ts
    blockItems fuel (item :: items) ts
  | _ + 1, items, .blockEnd :: ts => some (.list items.reverse, ts)
  | _ + 1, _, _ => none

/-- The items of a list at the column of the mapping around it; no token ends it. -/
def looseItems : Nat → List Node → List Token → Option (Node × List Token)
  | 0, _, _ => none
  | fuel + 1, items, .entry :: ts => do
    let (item, ts) ← orEmpty [.entry, .key, .value, .blockEnd] true false fuel ts
    looseItems fuel (item :: items) ts
  | _ + 1, items, ts => some (.list items.reverse, ts)

def blockEntries : Nat → List (Node × Node) → List Token → Option (Node × List Token)
  | 0, _, _ => none
  | fuel + 1, entries, .key :: ts => do
    let stops := [.key, .value, .blockEnd]
    let (key, ts) ← orEmpty stops true true fuel ts
    let (value, ts) ← behindColon stops true fuel ts
    blockEntries fuel ((key, value) :: entries) ts
  | _ + 1, entries, .blockEnd :: ts => some (.mapping entries.reverse, ts)
  | _ + 1, _, _ => none

/-- The items of a list up to its bracket; a pair among them is a mapping of its own. -/
def flowItems : Nat → List Node → Bool → List Token → Option (Node × List Token)
  | 0, _, _, _ => none
  | _ + 1, items, _, .flowListEnd :: ts => some (.list items.reverse, ts)
  | fuel + 1, items, false, .comma :: ts => flowItems fuel items true ts
  | fuel + 1, items, true, .key :: ts => do
    let (key, ts) ← orEmpty [.value, .comma, .flowListEnd] false false fuel ts
    let (value, ts) ← behindColon [.comma, .flowListEnd] false fuel ts
    flowItems fuel (.mapping [(key, value)] :: items) false ts
  | fuel + 1, items, true, ts => do
    let (item, ts) ← ofTokens false false fuel ts
    flowItems fuel (item :: items) false ts
  | _ + 1, _, false, _ => none

/-- The entries of a mapping up to its brace; a node that is no key has no value. -/
def flowEntries : Nat → List (Node × Node) → Bool → List Token → Option (Node × List Token)
  | 0, _, _, _ => none
  | _ + 1, entries, _, .flowMappingEnd :: ts => some (.mapping entries.reverse, ts)
  | fuel + 1, entries, false, .comma :: ts => flowEntries fuel entries true ts
  | fuel + 1, entries, true, .key :: ts => do
    let (key, ts) ← orEmpty [.value, .comma, .flowMappingEnd] false false fuel ts
    let (value, ts) ← behindColon [.comma, .flowMappingEnd] false fuel ts
    flowEntries fuel ((key, value) :: entries) false ts
  | fuel + 1, entries, true, ts => do
    let (key, ts) ← ofTokens false false fuel ts
    flowEntries fuel ((key, empty) :: entries) false ts
  | _ + 1, _, false, _ => none

end

/-- The one document that the tokens hold. -/
def document? (ts : List Token) : Option Node := do
  let fuel := 4 * ts.length + 4
  let (node, rest) ← match ts with
    | .documentStart :: ts => orEmpty [.documentStart, .documentEnd] true false fuel ts
    | [] => some (empty, [])
    | ts => ofTokens true false fuel ts
  if rest.all (· == .documentEnd) then some node else none

end Node

end SqlSyntax.Yaml
