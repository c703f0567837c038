import SqlSyntax.Tree.Kind
import SqlSyntax.Tree.Literal

/-! Syntax trees of statements. A slot is where a child may stand: it holds a node, or whatever else
a builder of trees put there. Parsed trees hold nodes where a child is required and nothing
(`Slot.empty`) where one is left out, and they have no loose nodes. -/

namespace SqlSyntax

mutual

inductive Node where
  | bare (family : Family)
  | value (value : Slot)
  | paramMarker (order : Int)
  | variableRef (name : String) (isSystem : Bool)
  | columnName (schema table name : String)
  | columnRef (name : Slot)
  | binaryOp (op : String) (left right : Slot)
  | unaryOp (op : String) (operand : Slot)
  | isNull (expr : Slot) (negated : Bool)
  | isTruth (expr : Slot) (negated truth : Bool)
  | inSet (expr : Slot) (items : List Slot) (negated : Bool) (subquery : Slot)
  | like (expr pattern : Slot) (negated : Bool) (escape : Option String)
  | regexp (expr pattern : Slot) (negated : Bool)
  | between (expr low high : Slot) (negated : Bool)
  | paren (expr : Slot)
  | row (values : List Slot)
  | defaultValue
  | subquery (query : Slot)
  | existsQuery (subquery : Slot)
  | whenClause (expr result : Slot)
  | caseOf (value : Slot) (whens : List Slot) (otherwise : Slot)
  | funcCall (name : String) (args : List Slot)
  | aggregate (name : String) (args : List Slot) (distinct star : Bool)
  | wildcard (schema table : String)
  | selectField (wildcard expr : Slot) (asName : String)
  | fieldList (fields : List Slot)
  | indexHint (verb scope : String) (names : List String)
  | tableName (schema name : String) (hints : List Slot)
  | tableSource (source : Slot) (asName : String)
  | onCondition (expr : Slot)
  | join (left right : Slot) (side : String) (on : Slot) (using_ : List Slot)
  | tableRefs (refs : Slot)
  | byItem (expr : Slot) (desc : Bool)
  | groupBy (items : List Slot)
  | having (expr : Slot)
  | orderBy (items : List Slot)
  | limit (count offset : Slot)
  | select (distinct : Bool) (fields source condition groupBy having orderBy limit : Slot)
      (lock : String)
  | setOperation (selects : List Slot) (operators : List String)
  | assignment (column expr : Slot)
  | insert (replace ignore : Bool) (table : Slot) (columns rows assignments : List Slot)
      (query : Slot) (onDuplicate : List Slot)
  | update (ignore : Bool) (refs : Slot) (assignments : List Slot)
      (condition orderBy limit : Slot)
  | delete (ignore : Bool) (refs condition orderBy limit : Slot)
  | columnOption (option : String) (expr : Slot) (word : String)
  | columnDef (name : Slot) (typeName : String) (options : List Slot)
  | indexPart (column : Slot) (length : Int) (desc : Bool)
  | reference (table : Slot) (keys : List Slot) (onDelete onUpdate : String)
  | constraint (type name : String) (keys : List Slot) (refer : Slot) (symbol : String)
  | tableOption (option value : String)
  | createTable (ifNotExists temporary : Bool) (table : Slot)
      (columns constraints options : List Slot)
  | dropTable (ifExists temporary : Bool) (tables : List Slot)
  | truncateTable (table : Slot)
  | createIndex (unique : Bool) (name : String) (table : Slot) (parts : List Slot)
  | dropIndex (name : String) (table : Slot)
  | createDatabase (ifNotExists : Bool) (name : String)
  | dropDatabase (ifExists : Bool) (name : String)
  | useDatabase (name : String)
  | startTransaction
  | commit
  | rollback
  | explain (statement : Slot)
  /-- A node of which some member holds what its kind does not foresee; all its members. -/
  | loose (kind : Kind) (members : List (String × Slot))

inductive Slot where
  | node (n : Node)
  | list (items : List Slot)
  | tuple (items : List Slot)
  | mapping (entries : List (String × Slot))
  | plain (value : Literal)

end

namespace Slot

def empty : Slot := .plain .null

instance : Inhabited Slot := ⟨empty⟩

def isEmpty : Slot → Bool
  | .plain .null => true
  | _ => false

def ofOption : Option Node → Slot
  | some n => .node n
  | none => empty

@[match_pattern]
abbrev text (s : String) : Slot := .plain (.text s)

def node? : Slot → Option Node
  | .node n => some n
  | _ => none

/-- What a list or tuple holds; anything else has no items. -/
def items : Slot → List Slot
  | .list items => items
  | .tuple items => items
  | _ => []

/-- Whether a condition on what the slot holds is met: nothing, zero and whatever is empty do not
meet it. -/
def isTrue : Slot → Bool
  | .node _ => true
  | .list items => !items.isEmpty
  | .tuple items => !items.isEmpty
  | .mapping entries => !entries.isEmpty
  | .plain v => v.isTrue

end Slot

namespace Node

instance : Inhabited Node := ⟨.bare .node⟩

def kind : Node → Kind
  | .bare family => .bare family
  | .value .. => .value
  | .paramMarker .. => .paramMarker
  | .variableRef .. => .variableRef
  | .columnName .. => .columnName
  | .columnRef .. => .columnRef
  | .binaryOp .. => .binaryOp
  | .unaryOp .. => .unaryOp
  | .isNull .. => .isNull
  | .isTruth .. => .isTruth
  | .inSet .. => .inSet
  | .like .. => .like
  | .regexp .. => .regexp
  | .between .. => .between
  | .paren .. => .paren
  | .row .. => .row
  | .defaultValue => .defaultValue
  | .subquery .. => .subquery
  | .existsQuery .. => .existsQuery
  | .whenClause .. => .whenClause
  | .caseOf .. => .caseOf
  | .funcCall .. => .funcCall
  | .aggregate .. => .aggregate
  | .wildcard .. => .wildcard
  | .selectField .. => .selectField
  | .fieldList .. => .fieldList
  | .indexHint .. => .indexHint
  | .tableName .. => .tableName
  | .tableSource .. => .tableSource
  | .onCondition .. => .onCondition
  | .join .. => .join
  | .tableRefs .. => .tableRefs
  | .byItem .. => .byItem
  | .groupBy .. => .groupBy
  | .having .. => .having
  | .orderBy .. => .orderBy
  | .limit .. => .limit
  | .select .. => .select
  | .setOperation .. => .setOperation
  | .assignment .. => .assignment
  | .insert .. => .insert
  | .update .. => .update
  | .delete .. => .delete
  | .columnOption .. => .columnOption
  | .columnDef .. => .columnDef
  | .indexPart .. => .indexPart
  | .reference .. => .reference
  | .constraint .. => .constraint
  | .tableOption .. => .tableOption
  | .createTable .. => .createTable
  | .dropTable .. => .dropTable
  | .truncateTable .. => .truncateTable
  | .createIndex .. => .createIndex
  | .dropIndex .. => .dropIndex
  | .createDatabase .. => .createDatabase
  | .dropDatabase .. => .dropDatabase
  | .useDatabase .. => .useDatabase
  | .startTransaction => .startTransaction
  | .commit => .commit
  | .rollback => .rollback
  | .explain .. => .explain
  | .loose kind _ => kind

end Node

/-- What a member of a node holds. -/
inductive Member where
  | slot (s : Slot)
  | slots (items : List Slot)
  | text (s : String)
  | optionalText (s : Option String)
  | texts (items : List String)
  | flag (b : Bool)
  | number (n : Int)

/-- The members of a node in their declared order, each with its wire name. -/
def Node.members : Node → List (String × Member)
  | .bare _ => []
  | .value v => [("value", .slot v)]
  | .paramMarker order => [("order", .number order)]
  | .variableRef name isSystem => [("name", .text name), ("is_system", .flag isSystem)]
  | .columnName schema table name =>
    [("schema", .text schema), ("table", .text table), ("name", .text name)]
  | .columnRef name => [("name", .slot name)]
  | .binaryOp op left right => [("op", .text op), ("left", .slot left), ("right", .slot right)]
  | .unaryOp op operand => [("op", .text op), ("operand", .slot operand)]
  | .isNull expr negated => [("expr", .slot expr), ("negated", .flag negated)]
  | .isTruth expr negated truth =>
    [("expr", .slot expr), ("negated", .flag negated), ("truth", .flag truth)]
  | .inSet expr items negated query =>
    [("expr", .slot expr), ("items", .slots items), ("negated", .flag negated),
      ("subquery", .slot query)]
  | .like expr pattern negated escape =>
    [("expr", .slot expr), ("pattern", .slot pattern), ("negated", .flag negated),
      ("escape", .optionalText escape)]
  | .regexp expr pattern negated =>
    [("expr", .slot expr), ("pattern", .slot pattern), ("negated", .flag negated)]
  | .between expr low high negated =>
    [("expr", .slot expr), ("left", .slot low), ("right", .slot high), ("negated", .flag negated)]
  | .paren expr => [("expr", .slot expr)]
  | .row values => [("values", .slots values)]
  | .defaultValue => []
  | .subquery query => [("query", .slot query)]
  | .existsQuery query => [("subquery", .slot query)]
  | .whenClause expr result => [("expr", .slot expr), ("result", .slot result)]
  | .caseOf operand whens otherwise =>
    [("value", .slot operand), ("when_clauses", .slots whens), ("else_clause", .slot otherwise)]
  | .funcCall name args => [("name", .text name), ("args", .slots args)]
  | .aggregate name args distinct star =>
    [("name", .text name), ("args", .slots args), ("distinct", .flag distinct),
      ("star", .flag star)]
  | .wildcard schema table => [("schema", .text schema), ("table", .text table)]
  | .selectField star expr asName =>
    [("wildcard", .slot star), ("expr", .slot expr), ("as_name", .text asName)]
  | .fieldList fields => [("fields", .slots fields)]
  | .indexHint verb scope names =>
    [("hint_type", .text verb), ("scope", .text scope), ("index_names", .texts names)]
  | .tableName schema name hints =>
    [("schema", .text schema), ("name", .text name), ("index_hints", .slots hints)]
  | .tableSource source asName => [("source", .slot source), ("as_name", .text asName)]
  | .onCondition expr => [("expr", .slot expr)]
  | .join left right side on using_ =>
    [("left", .slot left), ("right", .slot right), ("tp", .text side), ("on", .slot on),
      ("using", .slots using_)]
  | .tableRefs refs => [("table_refs", .slot refs)]
  | .byItem expr desc => [("expr", .slot expr), ("desc", .flag desc)]
  | .groupBy items => [("items", .slots items)]
  | .having expr => [("expr", .slot expr)]
  | .orderBy items => [("items", .slots items)]
  | .limit count offset => [("count", .slot count), ("offset", .slot offset)]
  | .select distinct fields source condition groups filter order bound lock =>
    [("distinct", .flag distinct), ("fields", .slot fields), ("from_clause", .slot source),
      ("where", .slot condition), ("group_by", .slot groups), ("having", .slot filter),
      ("order_by", .slot order), ("limit", .slot bound), ("lock", .text lock)]
  | .setOperation selects operators =>
    [("selects", .slots selects), ("operators", .texts operators)]
  | .assignment column expr => [("column", .slot column), ("expr", .slot expr)]
  | .insert replace ignore table columns rows assignments query onDuplicate =>
    [("is_replace", .flag replace), ("ignore", .flag ignore), ("table", .slot table),
      ("columns", .slots columns), ("lists", .slots rows), ("setlist", .slots assignments),
      ("select", .slot query), ("on_duplicate", .slots onDuplicate)]
  | .update ignore refs assignments condition order bound =>
    [("ignore", .flag ignore), ("table_refs", .slot refs), ("assignments", .slots assignments),
      ("where", .slot condition), ("order_by", .slot order), ("limit", .slot bound)]
  | .delete ignore refs condition order bound =>
    [("ignore", .flag ignore), ("table_refs", .slot refs), ("where", .slot condition),
      ("order_by", .slot order), ("limit", .slot bound)]
  | .columnOption option expr word =>
    [("tp", .text option), ("expr", .slot expr), ("str_value", .text word)]
  | .columnDef name typeName options =>
    [("name", .slot name), ("type_name", .text typeName), ("options", .slots options)]
  | .indexPart column length desc =>
    [("column", .slot column), ("length", .number length), ("desc", .flag desc)]
  | .reference table keys onDelete onUpdate =>
    [("table", .slot table), ("keys", .slots keys), ("on_delete", .text onDelete),
      ("on_update", .text onUpdate)]
  | .constraint type name keys refer symbol =>
    [("tp", .text type), ("name", .text name), ("keys", .slots keys), ("refer", .slot refer),
      ("symbol", .text symbol)]
  | .tableOption option setting => [("tp", .text option), ("value", .text setting)]
  | .createTable ifNotExists temporary table columns constraints options =>
    [("if_not_exists", .flag ifNotExists), ("temporary", .flag temporary), ("table", .slot table),
      ("cols", .slots columns), ("constraints", .slots constraints), ("options", .slots options)]
  | .dropTable ifExists temporary tables =>
    [("if_exists", .flag ifExists), ("temporary", .flag temporary), ("tables", .slots tables)]
  | .truncateTable table => [("table", .slot table)]
  | .createIndex unique name table parts =>
    [("unique", .flag unique), ("index_name", .text name), ("table", .slot table),
      ("parts", .slots parts)]
  | .dropIndex name table => [("index_name", .text name), ("table", .slot table)]
  | .createDatabase ifNotExists name =>
    [("if_not_exists", .flag ifNotExists), ("name", .text name)]
  | .dropDatabase ifExists name => [("if_exists", .flag ifExists), ("name", .text name)]
  | .useDatabase name => [("db_name", .text name)]
  | .startTransaction => []
  | .commit => []
  | .rollback => []
  | .explain statement => [("stmt", .slot statement)]
  | .loose _ members => members.map fun (name, s) => (name, .slot s)

end SqlSyntax
