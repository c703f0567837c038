import SqlSyntax.Tree.Loose

/-! Canonical text of syntax trees: keywords in upper case, names between back quotes, strings
between single quotes. Rendering fails where a required child is missing, a literal has no
written form, a set operation lacks an operator, or a node is of no particular kind. -/

namespace SqlSyntax

mutual

def Node.render : Node → Except RenderError String
  | .bare family => .error (.unwritable family.name)
  | .value (.plain v) => .ok v.render
  | .value s => .error (.badLiteral s.shown)
  | .paramMarker _ => .ok "?"
  | .variableRef name isSystem => .ok ((if isSystem then "@@" else "@") ++ name)
  | .columnName schema table name =>
    .ok (qualifier schema ++ qualifier table ++ Text.quoteName name)
  | .columnRef name => name.render
  | .binaryOp op left right => do
    let l ← left.render
    let r ← right.render
    return l ++ " " ++ Text.toUpper op ++ " " ++ r
  | .unaryOp op operand => do
    let x ← operand.render
    return unaryText op ++ x
  | .isNull expr negated => do
    let x ← expr.render
    return x ++ (if negated then " IS NOT NULL" else " IS NULL")
  | .isTruth expr negated truth => do
    let x ← expr.render
    return x ++ (if negated then " IS NOT" else " IS") ++ (if truth then " TRUE" else " FALSE")
  | .inSet expr items negated query => do
    let x ← expr.render
    let word := if negated then " NOT IN " else " IN "
    if query.isEmpty then
      let list ← Slot.renderSeparated items
      return x ++ word ++ "(" ++ list ++ ")"
    else
      let q ← query.render
      return x ++ word ++ q
  | .like expr pattern negated escape => do
    let x ← expr.render
    let p ← pattern.render
    return x ++ (if negated then " NOT LIKE " else " LIKE ") ++ p ++
      (match escape with
        | some e => " ESCAPE " ++ Text.quoteString e
        | none => "")
  | .regexp expr pattern negated => do
    let x ← expr.render
    let p ← pattern.render
    return x ++ (if negated then " NOT REGEXP " else " REGEXP ") ++ p
  | .between expr low high negated => do
    let x ← expr.render
    let l ← low.render
    let h ← high.render
    return x ++ (if negated then " NOT BETWEEN " else " BETWEEN ") ++ l ++ " AND " ++ h
  | .paren expr => do
    let x ← expr.render
    return "(" ++ x ++ ")"
  | .row values => do
    let list ← Slot.renderSeparated values
    return "(" ++ list ++ ")"
  | .defaultValue => .ok "DEFAULT"
  | .subquery query => do
    let q ← query.render
    return "(" ++ q ++ ")"
  | .existsQuery query => do
    let q ← query.render
    return "EXISTS " ++ q
  | .whenClause expr result => do
    let x ← expr.render
    let r ← result.render
    return "WHEN " ++ x ++ " THEN " ++ r
  | .caseOf operand whens otherwise => do
    let v ← operand.renderAfter " "
    let ws ← Slot.renderSpaced whens
    let e ← otherwise.renderAfter " ELSE "
    return "CASE" ++ v ++ ws ++ e ++ " END"
  | .funcCall name args => do
    let list ← Slot.renderSeparated args
    return Text.toUpper name ++ "(" ++ list ++ ")"
  | .aggregate name args distinct star => do
    let list ← if star then pure "*" else Slot.renderSeparated args
    return Text.toUpper name ++ "(" ++ (if distinct then "DISTINCT " else "") ++ list ++ ")"
  | .wildcard schema table => .ok (qualifier schema ++ qualifier table ++ "*")
  | .selectField star expr asName => do
    if star.isEmpty then
      let x ← expr.render
      return x ++ aliasText asName
    else star.render
  | .fieldList fields => Slot.renderSeparated fields
  | .indexHint verb scope names =>
    .ok (Text.toUpper (verb ++ " INDEX") ++
      (if scope.isEmpty then "" else Text.toUpper (" FOR " ++ scope)) ++
      " (" ++ nameList names ++ ")")
  | .tableName schema name hints => do
    let hs ← Slot.renderSpaced hints
    return qualifier schema ++ Text.quoteName name ++ hs
  | .tableSource source asName => do
    let s ← source.render
    return s ++ aliasText asName
  | .onCondition expr => expr.render
  | .join left right side on columns => do
    let l ← left.render
    if right.isEmpty then return l
    let r ← right.render
    let o ← on.renderAfter " ON "
    let u ← Slot.renderSeparated columns
    return l ++ " " ++ (if side.isEmpty then "" else Text.toUpper side ++ " ") ++ "JOIN " ++
      (if right.isProperJoin then "(" ++ r ++ ")" else r) ++ o ++
      (if columns.isEmpty then "" else " USING (" ++ u ++ ")")
  | .tableRefs refs => refs.render
  | .byItem expr desc => do
    let x ← expr.render
    return x ++ (if desc then " DESC" else "")
  | .groupBy items => do
    let list ← Slot.renderSeparated items
    return "GROUP BY " ++ list
  | .having expr => do
    let x ← expr.render
    return "HAVING " ++ x
  | .orderBy items => do
    let list ← Slot.renderSeparated items
    return "ORDER BY " ++ list
  | .limit count offset => do
    let o ← offset.renderBefore ","
    let c ← count.render
    return "LIMIT " ++ o ++ c
  | .select distinct fields source condition groups filter order bound lock => do
    let fs ← fields.render
    let s ← source.renderAfter " FROM "
    let w ← condition.renderAfter " WHERE "
    let g ← groups.renderAfter " "
    let h ← filter.renderAfter " "
    let o ← order.renderAfter " "
    let b ← bound.renderAfter " "
    return "SELECT " ++ (if distinct then "DISTINCT " else "") ++ fs ++ s ++ w ++ g ++ h ++ o ++
      b ++ (if lock.isEmpty then "" else " " ++ Text.toUpper lock)
  | .setOperation [] _ => .ok ""
  | .setOperation (first :: rest) operators => do
    let f ← first.render
    let r ← Slot.renderCombined rest operators
    return f ++ r
  | .assignment column expr => do
    let c ← column.render
    let x ← expr.render
    return c ++ "=" ++ x
  | .insert replace ignore table columns rows assignments query onDuplicate => do
    let t ← table.render
    let cs ← Slot.renderSeparated columns
    let source ←
      if !assignments.isEmpty then
        let list ← Slot.renderSeparated assignments
        pure (" SET " ++ list)
      else if !query.isEmpty then query.renderAfter " "
      else
        let list ← Slot.renderSeparated rows
        pure (" VALUES " ++ list)
    let ds ← Slot.renderSeparated onDuplicate
    return (if replace then "REPLACE " else "INSERT ") ++ (if ignore then "IGNORE " else "") ++
      "INTO " ++ t ++ (if columns.isEmpty then "" else " (" ++ cs ++ ")") ++ source ++
      (if onDuplicate.isEmpty then "" else " ON DUPLICATE KEY UPDATE " ++ ds)
  | .update ignore refs assignments condition order bound => do
    let r ← refs.render
    let as ← Slot.renderSeparated assignments
    let w ← condition.renderAfter " WHERE "
    let o ← order.renderAfter " "
    let b ← bound.renderAfter " "
    return "UPDATE " ++ (if ignore then "IGNORE " else "") ++ r ++ " SET " ++ as ++ w ++ o ++ b
  | .delete ignore refs condition order bound => do
    let r ← refs.render
    let w ← condition.renderAfter " WHERE "
    let o ← order.renderAfter " "
    let b ← bound.renderAfter " "
    return "DELETE " ++ (if ignore then "IGNORE " else "") ++ "FROM " ++ r ++ w ++ o ++ b
  | .columnOption option expr word => do
    let x ← expr.renderAfter " "
    return Text.toUpper option ++
      (if expr.isEmpty then (if word.isEmpty then "" else " " ++ word) else x)
  | .columnDef name typeName options => do
    let n ← name.render
    let os ← Slot.renderSpaced options
    return n ++ " " ++ typeName ++ os
  | .indexPart column length desc => do
    let c ← column.render
    return c ++ (if length = 0 then "" else "(" ++ toString length ++ ")") ++
      (if desc then " DESC" else "")
  | .reference table keys onDelete onUpdate => do
    let t ← table.render
    let ks ← Slot.renderSeparated keys
    return "REFERENCES " ++ t ++ "(" ++ ks ++ ")" ++
      (if onDelete.isEmpty then "" else Text.toUpper (" ON DELETE " ++ onDelete)) ++
      (if onUpdate.isEmpty then "" else Text.toUpper (" ON UPDATE " ++ onUpdate))
  | .constraint type name keys refer symbol => do
    let ks ← Slot.renderSeparated keys
    let r ← refer.renderAfter " "
    return (if symbol.isEmpty then "" else "CONSTRAINT " ++ Text.quoteName symbol ++ " ") ++
      Text.toUpper type ++ (if name.isEmpty then "" else " " ++ Text.quoteName name) ++
      "(" ++ ks ++ ")" ++ r
  | .tableOption option setting =>
    .ok (Text.toUpper option ++ " = " ++
      (if option = "COMMENT" then Text.quoteString setting else setting))
  | .createTable ifNotExists temporary table columns constraints options => do
    let t ← table.render
    let cols ← Slot.renderSeparated columns
    let cons ← Slot.renderSeparated constraints
    let os ← Slot.renderSpaced options
    return (if temporary then "CREATE TEMPORARY TABLE " else "CREATE TABLE ") ++
      (if ifNotExists then "IF NOT EXISTS " else "") ++ t ++ " (" ++ cols ++
      (if !columns.isEmpty && !constraints.isEmpty then ", " else "") ++ cons ++ ")" ++ os
  | .dropTable ifExists temporary tables => do
    let ts ← Slot.renderSeparated tables
    return (if temporary then "DROP TEMPORARY TABLE " else "DROP TABLE ") ++
      (if ifExists then "IF EXISTS " else "") ++ ts
  | .truncateTable table => do
    let t ← table.render
    return "TRUNCATE TABLE " ++ t
  | .createIndex unique name table parts => do
    let t ← table.render
    let ps ← Slot.renderSeparated parts
    return (if unique then "CREATE UNIQUE INDEX " else "CREATE INDEX ") ++ Text.quoteName name ++
      " ON " ++ t ++ " (" ++ ps ++ ")"
  | .dropIndex name table => do
    let t ← table.render
    return "DROP INDEX " ++ Text.quoteName name ++ " ON " ++ t
  | .createDatabase ifNotExists name =>
    .ok ("CREATE DATABASE " ++ (if ifNotExists then "IF NOT EXISTS " else "") ++
      Text.quoteName name)
  | .dropDatabase ifExists name =>
    .ok ("DROP DATABASE " ++ (if ifExists then "IF EXISTS " else "") ++ Text.quoteName name)
  | .useDatabase name => .ok ("USE " ++ Text.quoteName name)
  | .startTransaction => .ok "START TRANSACTION"
  | .commit => .ok "COMMIT"
  | .rollback => .ok "ROLLBACK"
  | .explain statement => do
    let s ← statement.render
    return "EXPLAIN " ++ s
  | .loose kind members => Loose.render kind (Slot.renderedMembers members)

/-- The text of the node a slot holds. -/
def Slot.render : Slot → Except RenderError String
  | .node n => n.render
  | .list _ => .error (.notANode "list")
  | .tuple _ => .error (.notANode "tuple")
  | .mapping _ => .error (.notANode "dict")
  | .plain v => .error (.notANode v.typeName)

/-- The text of an optional child after `lead`; nothing for an empty slot. -/
def Slot.renderAfter (lead : String) : Slot → Except RenderError String
  | .node n => do
    let t ← n.render
    return lead ++ t
  | .list _ => .error (.notANode "list")
  | .tuple _ => .error (.notANode "tuple")
  | .mapping _ => .error (.notANode "dict")
  | .plain .null => .ok ""
  | .plain v => .error (.notANode v.typeName)

/-- The text of an optional child before `trail`; nothing for an empty slot. -/
def Slot.renderBefore (trail : String) : Slot → Except RenderError String
  | .node n => do
    let t ← n.render
    return t ++ trail
  | .list _ => .error (.notANode "list")
  | .tuple _ => .error (.notANode "tuple")
  | .mapping _ => .error (.notANode "dict")
  | .plain .null => .ok ""
  | .plain v => .error (.notANode v.typeName)

/-- The texts of all items with a comma and a space between them. -/
def Slot.renderSeparated : List Slot → Except RenderError String
  | [] => .ok ""
  | [s] => s.render
  | s :: rest => do
    let t ← s.render
    let ts ← Slot.renderSeparated rest
    return t ++ ", " ++ ts

/-- The texts of all items, each after a space. -/
def Slot.renderSpaced : List Slot → Except RenderError String
  | [] => .ok ""
  | s :: rest => do
    let t ← s.render
    let ts ← Slot.renderSpaced rest
    return " " ++ t ++ ts

/-- The texts of all items, each after its operator. -/
def Slot.renderCombined : List Slot → List String → Except RenderError String
  | [], _ => .ok ""
  | _ :: _, [] => .error (.missingOperator "list")
  | s :: rest, op :: ops => do
    let t ← s.render
    let ts ← Slot.renderCombined rest ops
    return " " ++ Text.toUpper op ++ " " ++ t ++ ts

def Slot.renderedMembers : List (String × Slot) → List (String × Rendered)
  | [] => []
  | (name, s) :: rest => (name, ⟨s, s.render, s.renderedItems⟩) :: Slot.renderedMembers rest

/-- The texts of the items in a list or tuple, each as a child. -/
def Slot.renderedItems : Slot → List (Except RenderError String)
  | .list items => Slot.renderEach items
  | .tuple items => Slot.renderEach items
  | _ => []

def Slot.renderEach : List Slot → List (Except RenderError String)
  | [] => []
  | s :: rest => s.render :: Slot.renderEach rest

end

def Slot.rendered (s : Slot) : Rendered :=
  ⟨s, s.render, s.renderedItems⟩

end SqlSyntax
