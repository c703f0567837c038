import SqlSyntax.Tree.Piece

/-! Canonical text of loose nodes. Each member is used as its kind asks: as a child, a row of
children, a word, a name, a text or a condition; what it holds has to allow that use. A member that
the text does not need may hold anything. -/

namespace SqlSyntax

/-- What a member holds, its text as a child, and the texts of its items. -/
structure Rendered where
  value : Slot
  text : Except RenderError String
  items : List (Except RenderError String)

namespace Rendered

def isTrue (r : Rendered) : Bool :=
  r.value.isTrue

/-- The text of an optional child after `lead`. -/
def after (lead : String) (r : Rendered) : Except RenderError String :=
  if r.value.isEmpty then .ok "" else r.text.map (lead ++ ·)

/-- The text of an optional child before `trail`. -/
def before (trail : String) (r : Rendered) : Except RenderError String :=
  if r.value.isEmpty then .ok "" else r.text.map (· ++ trail)

/-- What is written if the condition is met. -/
def guarded (r : Rendered) (piece : Except RenderError String) : Except RenderError String :=
  if r.isTrue then piece else .ok ""

/-- The texts of the children in a row; the letters of a text and the names in a mapping are
none. -/
def row (r : Rendered) : Except RenderError (List (Except RenderError String)) :=
  match r.value with
  | .list _ => .ok r.items
  | .tuple _ => .ok r.items
  | .text s => .ok (s.toList.map fun _ => .error (.notANode "str"))
  | .mapping entries => .ok (entries.map fun _ => .error (.notANode "str"))
  | v => .error (.notARow v.typeName)

def texts (r : Rendered) : Except RenderError (List String) := do
  let row ← r.row
  row.mapM id

/-- The texts of all items with a comma and a space between them. -/
def separated (r : Rendered) : Except RenderError String :=
  r.texts.map (", ".intercalate ·)

/-- The texts of all items with a text between them, which may be anything if it is not needed. -/
def separatedBy (r separator : Rendered) : Except RenderError String := do
  match ← r.texts with
  | first :: second :: rest =>
    match separator.value with
    | .text s => return s.intercalate (first :: second :: rest)
    | v => .error (.notAText 1 v.typeName)
  | ts => return String.join ts

/-- The texts of all items, each after a space. -/
def spaced (r : Rendered) : Except RenderError String :=
  r.texts.map fun ts => String.join (ts.map (" " ++ ·))

def wordOf : Slot → Except RenderError String
  | .text s => .ok (Text.toUpper s)
  | v => .error (.notAWord v.typeName)

def word (r : Rendered) : Except RenderError String :=
  wordOf r.value

def nameOf : Slot → Except RenderError String
  | .text s => .ok (Text.quoteName s)
  | v => .error (.notAName v.typeName)

def name (r : Rendered) : Except RenderError String :=
  nameOf r.value

def string (r : Rendered) : Except RenderError String :=
  match r.value with
  | .text s => .ok (Text.quoteString s)
  | v => .error (.notAName v.typeName)

/-- The text as it is, after so many pieces. -/
def plain (pieces : Nat) (r : Rendered) : Except RenderError String :=
  match r.value with
  | .text s => .ok s
  | v => .error (.notAText pieces v.typeName)

/-- What the names in a row are: the items of a list, the letters of a text, the names in a
mapping. -/
def nameRow (r : Rendered) : Except RenderError (List Slot) :=
  match r.value with
  | .list items => .ok items
  | .tuple items => .ok items
  | .text s => .ok (s.toList.map fun c => .text (String.singleton c))
  | .mapping entries => .ok (entries.map fun e => .text e.1)
  | v => .error (.notARow v.typeName)

def names (r : Rendered) : Except RenderError String := do
  let row ← r.nameRow
  let ts ← row.mapM nameOf
  return ", ".intercalate ts

/-- A word completed by a text. -/
def behind (lead : String) (r : Rendered) : Except RenderError String :=
  match r.value with
  | .text s => .ok (Text.toUpper (lead ++ s))
  | v => .error (.notBehindWord v.typeName)

/-- A text completed by a word. -/
def completed (r : Rendered) (trail : String) : Except RenderError String :=
  match r.value with
  | .text s => .ok (Text.toUpper (s ++ trail))
  | v => .error (.notBeforeWord v.typeName)

/-- A name before the dot it qualifies, or nothing. -/
def qualifier (r : Rendered) : Except RenderError String :=
  r.guarded (r.name.map (· ++ "."))

/-- The alias of a field or table, or nothing. -/
def asName (r : Rendered) : Except RenderError String :=
  r.guarded (r.name.map (" AS " ++ ·))

/-- The operator at a place. -/
def operator (r : Rendered) (place : Nat) : Except RenderError String :=
  let found (items : List Slot) : Except RenderError String :=
    match items[place]? with
    | some v => wordOf v
    | none => .error (.missingOperator (if r.value.typeName = "str" then "string"
        else r.value.typeName))
  match r.value with
  | .list items => found items
  | .tuple items => found items
  | .text s => found (s.toList.map fun c => .text (String.singleton c))
  | .mapping _ => .error .unorderedOperators
  | v => .error (.notIndexed v.typeName)

/-- The texts of selects, each but the first after its operator. -/
def combined (operators : Rendered) : Nat → List (Except RenderError String) →
    Except RenderError String
  | _, [] => .ok ""
  | 0, first :: rest => do
    let t ← first
    let ts ← combined operators 1 rest
    return t ++ ts
  | place + 1, select :: rest => do
    let op ← operators.operator place
    let t ← select
    let ts ← combined operators (place + 2) rest
    return " " ++ op ++ " " ++ t ++ ts

end Rendered

namespace Loose

/-- The canonical text of a loose node from its members. Kinds whose members are all children are
never loose. -/
def render (kind : Kind) (members : List (String × Rendered)) : Except RenderError String :=
  let m (name : String) : Rendered :=
    (members.lookup name).getD ⟨Slot.empty, .error (.notANode Literal.null.typeName), []⟩
  let on (name yes no : String) : String := if (m name).isTrue then yes else no
  match kind with
  | .paramMarker => .ok "?"
  | .variableRef => do
    match (m "name").value with
    | .text s => return on "is_system" "@@" "@" ++ s
    | v => .error (.notBehindWord v.typeName)
  | .columnName => do
    let s ← (m "schema").qualifier
    let t ← (m "table").qualifier
    let n ← (m "name").name
    return s ++ t ++ n
  | .binaryOp => do
    let l ← (m "left").text
    let op ← (m "op").word
    let r ← (m "right").text
    return l ++ " " ++ op ++ " " ++ r
  | .unaryOp => do
    let op ← match (m "op").value with
      | .text s => .ok (unaryText s)
      | v => .error (.notAWord v.typeName)
    let x ← (m "operand").text
    return op ++ x
  | .isNull => do
    let x ← (m "expr").text
    return x ++ on "negated" " IS NOT NULL" " IS NULL"
  | .isTruth => do
    let x ← (m "expr").text
    return x ++ on "negated" " IS NOT" " IS" ++ on "truth" " TRUE" " FALSE"
  | .inSet => do
    let x ← (m "expr").text
    let word := on "negated" " NOT IN " " IN "
    if (m "subquery").value.isEmpty then
      let list ← (m "items").separated
      return x ++ word ++ "(" ++ list ++ ")"
    else
      let q ← (m "subquery").text
      return x ++ word ++ q
  | .like => do
    let x ← (m "expr").text
    let p ← (m "pattern").text
    let e ← if (m "escape").value.isEmpty then .ok ""
      else (m "escape").string.map (" ESCAPE " ++ ·)
    return x ++ on "negated" " NOT LIKE " " LIKE " ++ p ++ e
  | .regexp => do
    let x ← (m "expr").text
    let p ← (m "pattern").text
    return x ++ on "negated" " NOT REGEXP " " REGEXP " ++ p
  | .between => do
    let x ← (m "expr").text
    let l ← (m "left").text
    let h ← (m "right").text
    return x ++ on "negated" " NOT BETWEEN " " BETWEEN " ++ l ++ " AND " ++ h
  | .row => do
    let list ← (m "values").separated
    return "(" ++ list ++ ")"
  | .caseOf => do
    let v ← (m "value").after " "
    let ws ← (m "when_clauses").spaced
    let e ← (m "else_clause").after " ELSE "
    return "CASE" ++ v ++ ws ++ e ++ " END"
  | .funcCall => do
    let n ← (m "name").word
    let list ← (m "args").separated
    return n ++ "(" ++ list ++ ")"
  | .aggregate => do
    let n ← (m "name").word
    let list ← if (m "star").isTrue then .ok "*" else (m "args").separated
    return n ++ "(" ++ on "distinct" "DISTINCT " "" ++ list ++ ")"
  | .wildcard => do
    let s ← (m "schema").qualifier
    let t ← (m "table").qualifier
    return s ++ t ++ "*"
  | .selectField =>
    if (m "wildcard").value.isEmpty then do
      let x ← (m "expr").text
      let a ← (m "as_name").asName
      return x ++ a
    else (m "wildcard").text
  | .fieldList => (m "fields").separated
  | .indexHint => do
    let verb ← (m "hint_type").completed " INDEX"
    let scope ← (m "scope").guarded ((m "scope").behind " FOR ")
    let names ← (m "index_names").names
    return verb ++ scope ++ " (" ++ names ++ ")"
  | .tableName => do
    let s ← (m "schema").qualifier
    let n ← (m "name").name
    let hs ← (m "index_hints").spaced
    return s ++ n ++ hs
  | .tableSource => do
    let s ← (m "source").text
    let a ← (m "as_name").asName
    return s ++ a
  | .join => do
    let l ← (m "left").text
    if (m "right").value.isEmpty then return l
    let side ← (m "tp").guarded ((m "tp").completed " ")
    let r ← (m "right").text
    let o ← (m "on").after " ON "
    let u ← (m "using").guarded ((m "using").separated.map fun u => " USING (" ++ u ++ ")")
    return l ++ " " ++ side ++ "JOIN " ++
      (if (m "right").value.isProperJoin then "(" ++ r ++ ")" else r) ++ o ++ u
  | .byItem => do
    let x ← (m "expr").text
    return x ++ on "desc" " DESC" ""
  | .groupBy => (m "items").separated.map ("GROUP BY " ++ ·)
  | .orderBy => (m "items").separated.map ("ORDER BY " ++ ·)
  | .select => do
    let fs ← (m "fields").text
    let s ← (m "from_clause").after " FROM "
    let w ← (m "where").after " WHERE "
    let g ← (m "group_by").after " "
    let h ← (m "having").after " "
    let o ← (m "order_by").after " "
    let b ← (m "limit").after " "
    let lock ← (m "lock").guarded ((m "lock").word.map (" " ++ ·))
    return "SELECT " ++ on "distinct" "DISTINCT " "" ++ fs ++ s ++ w ++ g ++ h ++ o ++ b ++ lock
  | .setOperation => do
    let selects ← (m "selects").row
    (m "operators").combined 0 selects
  | .insert => do
    let t ← (m "table").text
    let cs ← (m "columns").guarded ((m "columns").separated.map fun cs => " (" ++ cs ++ ")")
    let source ←
      if (m "setlist").isTrue then (m "setlist").separated.map (" SET " ++ ·)
      else if !(m "select").value.isEmpty then (m "select").after " "
      else (m "lists").separated.map (" VALUES " ++ ·)
    let ds ← (m "on_duplicate").guarded
      ((m "on_duplicate").separated.map (" ON DUPLICATE KEY UPDATE " ++ ·))
    return on "is_replace" "REPLACE " "INSERT " ++ on "ignore" "IGNORE " "" ++ "INTO " ++ t ++
      cs ++ source ++ ds
  | .update => do
    let r ← (m "table_refs").text
    let as ← (m "assignments").separated
    let w ← (m "where").after " WHERE "
    let o ← (m "order_by").after " "
    let b ← (m "limit").after " "
    return "UPDATE " ++ on "ignore" "IGNORE " "" ++ r ++ " SET " ++ as ++ w ++ o ++ b
  | .delete => do
    let r ← (m "table_refs").text
    let w ← (m "where").after " WHERE "
    let o ← (m "order_by").after " "
    let b ← (m "limit").after " "
    return "DELETE " ++ on "ignore" "IGNORE " "" ++ "FROM " ++ r ++ w ++ o ++ b
  | .columnOption => do
    let option ← (m "tp").word
    let x ←
      if !(m "expr").value.isEmpty then (m "expr").after " "
      else (m "str_value").guarded (((m "str_value").plain 2).map (" " ++ ·))
    return option ++ x
  | .columnDef => do
    let n ← (m "name").text
    let os ← (m "options").spaced
    let type ← (m "type_name").plain 2
    return n ++ " " ++ type ++ os
  | .indexPart => do
    let c ← (m "column").text
    let length := (m "length").value
    return c ++ (if length.isTrue then "(" ++ length.plainText ++ ")" else "") ++
      on "desc" " DESC" ""
  | .reference => do
    let t ← (m "table").text
    let ks ← (m "keys").separated
    let d ← (m "on_delete").guarded ((m "on_delete").behind " ON DELETE ")
    let u ← (m "on_update").guarded ((m "on_update").behind " ON UPDATE ")
    return "REFERENCES " ++ t ++ "(" ++ ks ++ ")" ++ d ++ u
  | .constraint => do
    let s ← (m "symbol").guarded ((m "symbol").name.map fun s => "CONSTRAINT " ++ s ++ " ")
    let type ← (m "tp").word
    let n ← (m "name").guarded ((m "name").name.map (" " ++ ·))
    let ks ← (m "keys").separated
    let r ← (m "refer").after " "
    return s ++ type ++ n ++ "(" ++ ks ++ ")" ++ r
  | .tableOption => do
    let option ← (m "tp").word
    let setting ←
      match (m "tp").value with
      | .text "COMMENT" => (m "value").string
      | _ => (m "value").plain 2
    return option ++ " = " ++ setting
  | .createTable => do
    let t ← (m "table").text
    let cols ← (m "cols").separated
    let cons ← (m "constraints").separated
    let os ← (m "options").spaced
    return on "temporary" "CREATE TEMPORARY TABLE " "CREATE TABLE " ++
      on "if_not_exists" "IF NOT EXISTS " "" ++ t ++ " (" ++ cols ++
      (if (m "cols").isTrue && (m "constraints").isTrue then ", " else "") ++ cons ++ ")" ++ os
  | .dropTable => do
    let ts ← (m "tables").separated
    return on "temporary" "DROP TEMPORARY TABLE " "DROP TABLE " ++
      on "if_exists" "IF EXISTS " "" ++ ts
  | .createIndex => do
    let n ← (m "index_name").name
    let t ← (m "table").text
    let ps ← (m "parts").separated
    return on "unique" "CREATE UNIQUE INDEX " "CREATE INDEX " ++ n ++ " ON " ++ t ++
      " (" ++ ps ++ ")"
  | .dropIndex => do
    let n ← (m "index_name").name
    let t ← (m "table").text
    return "DROP INDEX " ++ n ++ " ON " ++ t
  | .createDatabase => do
    let n ← (m "name").name
    return "CREATE DATABASE " ++ on "if_not_exists" "IF NOT EXISTS " "" ++ n
  | .dropDatabase => do
    let n ← (m "name").name
    return "DROP DATABASE " ++ on "if_exists" "IF EXISTS " "" ++ n
  | .useDatabase => do
    let n ← (m "db_name").name
    return "USE " ++ n
  | kind => .error (.unwritable kind.name)

end Loose

end SqlSyntax
