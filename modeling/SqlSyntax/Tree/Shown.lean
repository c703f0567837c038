import SqlSyntax.Tree.Node

/-! The form in which messages show what a slot holds: a node by its kind and all its members. -/

namespace SqlSyntax

def shownFlag (b : Bool) : String :=
  (Literal.boolean b).shown

def shownOption (s : Option String) : String :=
  (s.map Text.shown).getD Literal.null.shown

def shownTexts (items : List String) : String :=
  "[" ++ ", ".intercalate (items.map Text.shown) ++ "]"

/-- A kind with its members in parentheses. -/
def shownAs (k : Kind) (members : List (String × String)) : String :=
  k.name ++ "(" ++ ", ".intercalate (members.map fun (name, v) => name ++ "=" ++ v) ++ ")"

mutual

def Node.shown : Node → String
  | .bare family => family.name ++ "()"
  | .value v =>
    shownAs .value [
      ("value", v.shown)]
  | .paramMarker order =>
    shownAs .paramMarker [
      ("order", toString order)]
  | .variableRef name isSystem =>
    shownAs .variableRef [
      ("name", Text.shown name), ("is_system", shownFlag isSystem)]
  | .columnName schema table name =>
    shownAs .columnName [
      ("schema", Text.shown schema), ("table", Text.shown table), ("name", Text.shown name)]
  | .columnRef name =>
    shownAs .columnRef [
      ("name", name.shown)]
  | .binaryOp op left right =>
    shownAs .binaryOp [
      ("op", Text.shown op), ("left", left.shown), ("right", right.shown)]
  | .unaryOp op operand =>
    shownAs .unaryOp [
      ("op", Text.shown op), ("operand", operand.shown)]
  | .isNull expr negated =>
    shownAs .isNull [
      ("expr", expr.shown), ("negated", shownFlag negated)]
  | .isTruth expr negated truth =>
    shownAs .isTruth [
      ("expr", expr.shown), ("negated", shownFlag negated), ("truth", shownFlag truth)]
  | .inSet expr items negated query =>
    shownAs .inSet [
      ("expr", expr.shown), ("items", "[" ++ Slot.shownItems items ++ "]"),
      ("negated", shownFlag negated),
      ("subquery", query.shown)]
  | .like expr pattern negated escape =>
    shownAs .like [
      ("expr", expr.shown), ("pattern", pattern.shown), ("negated", shownFlag negated),
      ("escape", shownOption escape)]
  | .regexp expr pattern negated =>
    shownAs .regexp [
      ("expr", expr.shown), ("pattern", pattern.shown), ("negated", shownFlag negated)]
  | .between expr low high negated =>
    shownAs .between [
      ("expr", expr.shown), ("left", low.shown), ("right", high.shown),
      ("negated", shownFlag negated)]
  | .paren expr =>
    shownAs .paren [
      ("expr", expr.shown)]
  | .row values =>
    shownAs .row [
      ("values", "[" ++ Slot.shownItems values ++ "]")]
  | .defaultValue => Kind.name .defaultValue ++ "()"
  | .subquery query =>
    shownAs .subquery [
      ("query", query.shown)]
  | .existsQuery query =>
    shownAs .existsQuery [
      ("subquery", query.shown)]
  | .whenClause expr result =>
    shownAs .whenClause [
      ("expr", expr.shown), ("result", result.shown)]
  | .caseOf operand whens otherwise =>
    shownAs .caseOf [
      ("value", operand.shown), ("when_clauses", "[" ++ Slot.shownItems whens ++ "]"),
      ("else_clause", otherwise.shown)]
  | .funcCall name args =>
    shownAs .funcCall [
      ("name", Text.shown name), ("args", "[" ++ Slot.shownItems args ++ "]")]
  | .aggregate name args distinct star =>
    shownAs .aggregate [
      ("name", Text.shown name), ("args", "[" ++ Slot.shownItems args ++ "]"),
      ("distinct", shownFlag distinct),
      ("star", shownFlag star)]
  | .wildcard schema table =>
    shownAs .wildcard [
      ("schema", Text.shown schema), ("table", Text.shown table)]
  | .selectField star expr asName =>
    shownAs .selectField [
      ("wildcard", star.shown), ("expr", expr.shown), ("as_name", Text.shown asName)]
  | .fieldList fields =>
    shownAs .fieldList [
      ("fields", "[" ++ Slot.shownItems fields ++ "]")]
  | .indexHint verb scope names =>
    shownAs .indexHint [
      ("hint_type", Text.shown verb), ("scope", Text.shown scope),
      ("index_names", shownTexts names)]
  | .tableName schema name hints =>
    shownAs .tableName [
      ("schema", Text.shown schema), ("name", Text.shown name),
      ("index_hints", "[" ++ Slot.shownItems hints ++ "]")]
  | .tableSource source asName =>
    shownAs .tableSource [
      ("source", source.shown), ("as_name", Text.shown asName)]
  | .onCondition expr =>
    shownAs .onCondition [
      ("expr", expr.shown)]
  | .join left right side on using_ =>
    shownAs .join [
      ("left", left.shown), ("right", right.shown), ("tp", Text.shown side), ("on", on.shown),
      ("using", "[" ++ Slot.shownItems using_ ++ "]")]
  | .tableRefs refs =>
    shownAs .tableRefs [
      ("table_refs", refs.shown)]
  | .byItem expr desc =>
    shownAs .byItem [
      ("expr", expr.shown), ("desc", shownFlag desc)]
  | .groupBy items =>
    shownAs .groupBy [
      ("items", "[" ++ Slot.shownItems items ++ "]")]
  | .having expr =>
    shownAs .having [
      ("expr", expr.shown)]
  | .orderBy items =>
    shownAs .orderBy [
      ("items", "[" ++ Slot.shownItems items ++ "]")]
  | .limit count offset =>
    shownAs .limit [
      ("count", count.shown), ("offset", offset.shown)]
  | .select distinct fields source condition groups filter order bound lock =>
    shownAs .select [
      ("distinct", shownFlag distinct), ("fields", fields.shown), ("from_clause", source.shown),
      ("where", condition.shown), ("group_by", groups.shown), ("having", filter.shown),
      ("order_by", order.shown), ("limit", bound.shown), ("lock", Text.shown lock)]
  | .setOperation selects operators =>
    shownAs .setOperation [
      ("selects", "[" ++ Slot.shownItems selects ++ "]"), ("operators", shownTexts operators)]
  | .assignment column expr =>
    shownAs .assignment [
      ("column", column.shown), ("expr", expr.shown)]
  | .insert replace ignore table columns rows assignments query onDuplicate =>
    shownAs .insert [
      ("is_replace", shownFlag replace), ("ignore", shownFlag ignore), ("table", table.shown),
      ("columns", "[" ++ Slot.shownItems columns ++ "]"),
      ("lists", "[" ++ Slot.shownItems rows ++ "]"),
      ("setlist", "[" ++ Slot.shownItems assignments ++ "]"), ("select", query.shown),
      ("on_duplicate", "[" ++ Slot.shownItems onDuplicate ++ "]")]
  | .update ignore refs assignments condition order bound =>
    shownAs .update [
      ("ignore", shownFlag ignore), ("table_refs", refs.shown),
      ("assignments", "[" ++ Slot.shownItems assignments ++ "]"), ("where", condition.shown),
      ("order_by", order.shown), ("limit", bound.shown)]
  | .delete ignore refs condition order bound =>
    shownAs .delete [
      ("ignore", shownFlag ignore), ("table_refs", refs.shown), ("where", condition.shown),
      ("order_by", order.shown), ("limit", bound.shown)]
  | .columnOption option expr word =>
    shownAs .columnOption [
      ("tp", Text.shown option), ("expr", expr.shown), ("str_value", Text.shown word)]
  | .columnDef name typeName options =>
    shownAs .columnDef [
      ("name", name.shown), ("type_name", Text.shown typeName),
      ("options", "[" ++ Slot.shownItems options ++ "]")]
  | .indexPart column length desc =>
    shownAs .indexPart [
      ("column", column.shown), ("length", toString length), ("desc", shownFlag desc)]
  | .reference table keys onDelete onUpdate =>
    shownAs .reference [
      ("table", table.shown), ("keys", "[" ++ Slot.shownItems keys ++ "]"),
      ("on_delete", Text.shown onDelete),
      ("on_update", Text.shown onUpdate)]
  | .constraint type name keys refer symbol =>
    shownAs .constraint [
      ("tp", Text.shown type), ("name", Text.shown name),
      ("keys", "[" ++ Slot.shownItems keys ++ "]"),
      ("refer", refer.shown), ("symbol", Text.shown symbol)]
  | .tableOption option setting =>
    shownAs .tableOption [
      ("tp", Text.shown option), ("value", Text.shown setting)]
  | .createTable ifNotExists temporary table columns constraints options =>
    shownAs .createTable [
      ("if_not_exists", shownFlag ifNotExists), ("temporary", shownFlag temporary),
      ("table", table.shown), ("cols", "[" ++ Slot.shownItems columns ++ "]"),
      ("constraints", "[" ++ Slot.shownItems constraints ++ "]"),
      ("options", "[" ++ Slot.shownItems options ++ "]")]
  | .dropTable ifExists temporary tables =>
    shownAs .dropTable [
      ("if_exists", shownFlag ifExists), ("temporary", shownFlag temporary),
      ("tables", "[" ++ Slot.shownItems tables ++ "]")]
  | .truncateTable table =>
    shownAs .truncateTable [
      ("table", table.shown)]
  | .createIndex unique name table parts =>
    shownAs .createIndex [
      ("unique", shownFlag unique), ("index_name", Text.shown name), ("table", table.shown),
      ("parts", "[" ++ Slot.shownItems parts ++ "]")]
  | .dropIndex name table =>
    shownAs .dropIndex [
      ("index_name", Text.shown name), ("table", table.shown)]
  | .createDatabase ifNotExists name =>
    shownAs .createDatabase [
      ("if_not_exists", shownFlag ifNotExists), ("name", Text.shown name)]
  | .dropDatabase ifExists name =>
    shownAs .dropDatabase [
      ("if_exists", shownFlag ifExists), ("name", Text.shown name)]
  | .useDatabase name =>
    shownAs .useDatabase [
      ("db_name", Text.shown name)]
  | .startTransaction => Kind.name .startTransaction ++ "()"
  | .commit => Kind.name .commit ++ "()"
  | .rollback => Kind.name .rollback ++ "()"
  | .explain statement =>
    shownAs .explain [
      ("stmt", statement.shown)]
  | .loose kind members => kind.name ++ "(" ++ Slot.shownMembers members ++ ")"

def Slot.shown : Slot → String
  | .node n => n.shown
  | .list items => "[" ++ Slot.shownItems items ++ "]"
  | .tuple [item] => "(" ++ item.shown ++ ",)"
  | .tuple items => "(" ++ Slot.shownItems items ++ ")"
  | .mapping entries => "\x7b" ++ Slot.shownEntries entries ++ "\x7d"
  | .plain v => v.shown

def Slot.shownItems : List Slot → String
  | [] => ""
  | [s] => s.shown
  | s :: rest => s.shown ++ ", " ++ Slot.shownItems rest

def Slot.shownEntries : List (String × Slot) → String
  | [] => ""
  | [(k, s)] => Text.shown k ++ ": " ++ s.shown
  | (k, s) :: rest => Text.shown k ++ ": " ++ s.shown ++ ", " ++ Slot.shownEntries rest

def Slot.shownMembers : List (String × Slot) → String
  | [] => ""
  | [(name, s)] => name ++ "=" ++ s.shown
  | (name, s) :: rest => name ++ "=" ++ s.shown ++ ", " ++ Slot.shownMembers rest

end

/-- A text as it is, a decimal by its digits, anything else as messages show it. -/
def Slot.plainText : Slot → String
  | .text s => s
  | .plain (.decimal d) => d.text
  | s => s.shown

end SqlSyntax
