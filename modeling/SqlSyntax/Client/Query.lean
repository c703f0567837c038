import SqlSyntax.Client.Literals
import SqlSyntax.Client.Names
import SqlSyntax.Service.Bridge
import SqlSyntax.View.Measure
import SqlSyntax.Wire.JsonReader

/-! Parsed queries on the side of a client: the decoded trees, and what can be asked of them. -/

namespace SqlSyntax

namespace View

/-- `part` stands somewhere in the text. -/
def holds (part : List Char) : List Char → Bool
  | [] => part.isEmpty
  | c :: rest => part.isPrefixOf (c :: rest) || holds part rest

/-- The tag behind its last dot. -/
def shortType (v : View) : String :=
  String.ofList (v.type.toList.reverse.takeWhile (· != '.')).reverse

def typeHolds (v : View) (part : String) : Bool :=
  holds part.toList v.type.toList

def shortTypeHolds (v : View) (part : String) : Bool :=
  holds part.toList v.shortType.toList

def dataIs (v : View) (key word : String) : Bool :=
  match v.data.get? key with
  | some (.text s) => s == word
  | _ => false

def isTableReference (v : View) : Bool :=
  ["TableName", "From", "Join", "Table"].any v.shortTypeHolds

/-- A filtering condition: by its kind, or by the member that holds it. -/
def isFilter (v : View) : Bool :=
  v.dataIs fieldKey "where" || v.shortTypeHolds "Where" || v.shortTypeHolds "Condition"

/-- What clients ask about the kind of a node, by the name of the question. -/
def questions : List (String × (View → Bool)) := [
  ("is_statement", (·.dataIs "statement_type" "statement")),
  ("is_expression", (·.dataIs "expression_type" "expression")),
  ("is_ddl", (·.dataIs "ddl_type" "ddl")),
  ("is_dml", (·.dataIs "dml_type" "dml")),
  ("is_select_statement", (·.typeHolds "SelectStmt")),
  ("is_insert_statement", (·.typeHolds "InsertStmt")),
  ("is_update_statement", (·.typeHolds "UpdateStmt")),
  ("is_delete_statement", (·.typeHolds "DeleteStmt")),
  ("is_create_table_statement", (·.typeHolds "CreateTableStmt")),
  ("is_table_reference", isTableReference),
  ("is_where_clause", isFilter)]

/-- The form in which messages show a node. -/
def shown (v : View) : String :=
  "<ASTNode type=" ++ Text.shown v.type ++ " text=" ++ Text.shown v.text ++ " children=" ++
    toString v.children.length ++ ">"

theorem sizes_append (vs ws : List View) : sizes (vs ++ ws) = sizes vs + sizes ws := by
  induction vs with
  | nil => simp [sizes]
  | cons v vs ih => simp [sizes, ih, Nat.add_assoc]

/-- All nodes below those on the stack, parents first: the topmost is taken, and its children go on
top of the rest. -/
def walk : List View → List View
  | [] => []
  | v :: rest => v :: walk (v.children ++ rest)
termination_by stack => sizes stack
decreasing_by
  cases v
  simp [sizes, size, sizes_append]

/-- The table that a node names. -/
def table? (v : View) : Option String :=
  if v.shortType = "TableName" ∧ !v.text.isEmpty then Names.tableOf? v.text else none

end View

structure Query where
  trees : List View
  text : String
  warnings : List String

namespace Query

/-- Why a text gives no query. -/
inductive Failure where
  | rejected (reason : String)
  | crashed (fault : Fault)
  | misused (m : Bridge.Misuse)
  | undecodable (e : View.DecodeError)
  | unreadable

def decodeTrees : List Value → Except View.DecodeError (List View)
  | [] => .ok []
  | v :: rest =>
    match View.ofWire v with
    | .error e => .error e
    | .ok view =>
      match decodeTrees rest with
      | .error e => .error e
      | .ok views => .ok (view.toList ++ views)

/-- The query that an encoded envelope gives. -/
def ofJson (text json : String) : Except Failure Query :=
  match Json.read? json with
  | none => .error .unreadable
  | some v =>
    match v.get? "success", v.get? "error", v.get? "ast" with
    | some (.boolean true), _, some (.list trees) =>
      match decodeTrees trees with
      | .ok trees => .ok ⟨trees, text, []⟩
      | .error e => .error (.undecodable e)
    | some (.boolean false), some (.text reason), _ => .error (.rejected reason)
    | _, _, _ => .error .unreadable

/-- Parses through a bridge, which has no more buffers afterwards than before. -/
def parse (b : Bridge) (timing : Timing) (sql : String) : Bridge × Except Failure Query :=
  match b.parse timing (.text sql) with
  | .error fault => (b, .error (.crashed fault))
  | .ok (b, a) =>
    let json := b.read a
    match b.release a, json with
    | .ok b, .ok json => (b, ofJson sql json)
    | .ok b, .error m => (b, .error (.misused m))
    | .error m, _ => (b, .error (.misused m))

/-- All nodes of all statements, in source order. -/
def nodes (q : Query) : List View :=
  q.trees.flatMap fun v => View.walk [v]

/-- Without repetition, in the order of first appearance. -/
def distinct {α : Type} [DecidableEq α] (items : List α) : List α :=
  items.foldl (fun seen a => if a ∈ seen then seen else seen ++ [a]) []

def tables (q : Query) : List String :=
  distinct (q.nodes.filterMap fun v => if v.isTableReference then v.table? else none)

/-- Table and name of the columns that filtering conditions use. -/
def filterColumns (q : Query) : List Names.Column :=
  distinct ((q.nodes.filter View.isFilter).flatMap fun v =>
    (View.walk [v]).filterMap fun w =>
      if w.shortType = "ColumnName" then Names.columnOf? w.text else none)

def normalized (q : Query) : String :=
  Literals.replaced q.text

def fingerprint (q : Query) : String :=
  Literals.fingerprint q.text

end Query

end SqlSyntax
