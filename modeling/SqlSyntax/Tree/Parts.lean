import SqlSyntax.Tree.Node

/-! Nodes made of named parts. A part that is not given has the default of its member. Where a part
is not of the type of its member, the node is a loose one. -/

namespace SqlSyntax

/-- The parts of a node by the wire names of its members. -/
structure Parts where
  slot : String → Slot
  slots : String → List Slot
  text : String → Option String
  texts : String → List String
  flag : String → Option Bool
  number : String → Int

namespace Parts

def textOf : Slot → Option String
  | .text s => some s
  | _ => none

/-- The parts that are of the types of their members. -/
def ofSlots (given : List (String × Slot)) : Parts where
  slot key := (given.lookup key).getD Slot.empty
  slots key :=
    match given.lookup key with
    | some (.list items) => items
    | _ => []
  text key := (given.lookup key).bind textOf
  texts key :=
    match given.lookup key with
    | some (.list items) => items.filterMap textOf
    | _ => []
  flag key :=
    match given.lookup key with
    | some (.plain (.boolean b)) => some b
    | _ => none
  number key :=
    match given.lookup key with
    | some (.plain (.integer n)) => n
    | _ => 0

end Parts

/-- The node of the kind of that name; a name that is no kind's gives a bare node. -/
def Node.ofParts (kind : String) (p : Parts) : Node :=
  let s := p.slot
  let l := p.slots
  let ts := p.texts
  let i := p.number
  let t (key : String) : String := (p.text key).getD ""
  let b (key : String) : Bool := (p.flag key).getD false
  match kind with
  | "StmtNode" => .bare .statement
  | "ExprNode" => .bare .expression
  | "DDLNode" => .bare .definition
  | "DMLNode" => .bare .manipulation
  | "ValueExpr" => .value (s "value")
  | "ParamMarkerExpr" => .paramMarker (i "order")
  | "VariableExpr" => .variableRef (t "name") (b "is_system")
  | "ColumnName" => .columnName (t "schema") (t "table") (t "name")
  | "ColumnNameExpr" => .columnRef (s "name")
  | "BinaryOperationExpr" => .binaryOp (t "op") (s "left") (s "right")
  | "UnaryOperationExpr" => .unaryOp (t "op") (s "operand")
  | "IsNullExpr" => .isNull (s "expr") (b "negated")
  | "IsTruthExpr" =>
    .isTruth (s "expr") (b "negated") ((p.flag "truth").getD true)
  | "PatternInExpr" => .inSet (s "expr") (l "items") (b "negated") (s "subquery")
  | "PatternLikeExpr" =>
    .like (s "expr") (s "pattern") (b "negated") (p.text "escape")
  | "PatternRegexpExpr" => .regexp (s "expr") (s "pattern") (b "negated")
  | "BetweenExpr" => .between (s "expr") (s "left") (s "right") (b "negated")
  | "ParenthesesExpr" => .paren (s "expr")
  | "RowExpr" => .row (l "values")
  | "DefaultExpr" => .defaultValue
  | "SubqueryExpr" => .subquery (s "query")
  | "ExistsSubqueryExpr" => .existsQuery (s "subquery")
  | "WhenClause" => .whenClause (s "expr") (s "result")
  | "CaseExpr" => .caseOf (s "value") (l "when_clauses") (s "else_clause")
  | "FuncCallExpr" => .funcCall (t "name") (l "args")
  | "AggregateFuncExpr" => .aggregate (t "name") (l "args") (b "distinct") (b "star")
  | "WildCardField" => .wildcard (t "schema") (t "table")
  | "SelectField" => .selectField (s "wildcard") (s "expr") (t "as_name")
  | "FieldList" => .fieldList (l "fields")
  | "IndexHint" => .indexHint ((p.text "hint_type").getD "USE") (t "scope") (ts "index_names")
  | "TableName" => .tableName (t "schema") (t "name") (l "index_hints")
  | "TableSource" => .tableSource (s "source") (t "as_name")
  | "OnCondition" => .onCondition (s "expr")
  | "Join" => .join (s "left") (s "right") (t "tp") (s "on") (l "using")
  | "TableRefsClause" => .tableRefs (s "table_refs")
  | "ByItem" => .byItem (s "expr") (b "desc")
  | "GroupByClause" => .groupBy (l "items")
  | "HavingClause" => .having (s "expr")
  | "OrderByClause" => .orderBy (l "items")
  | "Limit" => .limit (s "count") (s "offset")
  | "SelectStmt" =>
    .select (b "distinct") (s "fields") (s "from_clause") (s "where") (s "group_by") (s "having")
      (s "order_by") (s "limit") (t "lock")
  | "SetOprStmt" => .setOperation (l "selects") (ts "operators")
  | "Assignment" => .assignment (s "column") (s "expr")
  | "InsertStmt" =>
    .insert (b "is_replace") (b "ignore") (s "table") (l "columns") (l "lists") (l "setlist")
      (s "select") (l "on_duplicate")
  | "UpdateStmt" =>
    .update (b "ignore") (s "table_refs") (l "assignments") (s "where") (s "order_by") (s "limit")
  | "DeleteStmt" => .delete (b "ignore") (s "table_refs") (s "where") (s "order_by") (s "limit")
  | "ColumnOption" => .columnOption (t "tp") (s "expr") (t "str_value")
  | "ColumnDef" => .columnDef (s "name") (t "type_name") (l "options")
  | "IndexPartSpecification" => .indexPart (s "column") (i "length") (b "desc")
  | "ReferenceDef" => .reference (s "table") (l "keys") (t "on_delete") (t "on_update")
  | "Constraint" => .constraint (t "tp") (t "name") (l "keys") (s "refer") (t "symbol")
  | "TableOption" => .tableOption (t "tp") (t "value")
  | "CreateTableStmt" =>
    .createTable (b "if_not_exists") (b "temporary") (s "table") (l "cols") (l "constraints")
      (l "options")
  | "DropTableStmt" => .dropTable (b "if_exists") (b "temporary") (l "tables")
  | "TruncateTableStmt" => .truncateTable (s "table")
  | "CreateIndexStmt" => .createIndex (b "unique") (t "index_name") (s "table") (l "parts")
  | "DropIndexStmt" => .dropIndex (t "index_name") (s "table")
  | "CreateDatabaseStmt" => .createDatabase (b "if_not_exists") (t "name")
  | "DropDatabaseStmt" => .dropDatabase (b "if_exists") (t "name")
  | "UseStmt" => .useDatabase (t "db_name")
  | "BeginStmt" => .startTransaction
  | "CommitStmt" => .commit
  | "RollbackStmt" => .rollback
  | "ExplainStmt" => .explain (s "stmt")
  | _ => .bare .node

namespace Member

/-- Whether what is given for the member is of its type. -/
def admits : Member → Slot → Bool
  | .slot _, _ => true
  | .slots _, .list _ => true
  | .text _, .plain (.text _) => true
  | .optionalText _, .plain .null => true
  | .optionalText _, .plain (.text _) => true
  | .texts _, .list items => items.all fun s => (Parts.textOf s).isSome
  | .flag _, .plain (.boolean _) => true
  | .number _, .plain (.integer _) => true
  | _, _ => false

def toSlot : Member → Slot
  | .slot s => s
  | .slots items => .list items
  | .text s => .text s
  | .optionalText (some s) => .text s
  | .optionalText none => Slot.empty
  | .texts items => .list (items.map .text)
  | .flag b => .plain (.boolean b)
  | .number n => .plain (.integer n)

end Member

/-- The node of the kind of that name with the given members. -/
def Node.ofSlots (kind : String) (given : List (String × Slot)) : Node :=
  let proper := Node.ofParts kind (.ofSlots given)
  let members := proper.members
  if given.all fun (name, s) => (members.lookup name).all (·.admits s) then proper
  else .loose proper.kind (members.map fun (name, m) => (name, (given.lookup name).getD m.toSlot))

end SqlSyntax
