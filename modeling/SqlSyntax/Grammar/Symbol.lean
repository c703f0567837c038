import SqlSyntax.Lexical.Token
import SqlSyntax.Tree.Node

/-! Symbols of the statement grammar and the type of the values they carry: a terminal carries its
token, a nonterminal what its productions build. -/

namespace SqlSyntax.Grammar

inductive Nonterminal where
  -- scripts
  | script | scriptItems | statement | useStatement | beginStatement | commitStatement
  | rollbackStatement | explainStatement | explainable
  -- queries
  | query | queryTail | setOperator | selectCore | optFrom | optWhere | optGroupBy | optHaving
  | optOrderBy | optLimit | optLock | selectFields | selectFieldTail | selectField | fieldAlias
  | tableRefs | tableRefTail | tableRef | joinTable | joinOperator | joinCondition | tableFactor
  | tableAlias | tableName | indexHints | indexHintRun | indexHint | hintScope | groupBy
  | byItemTail | having | orderBy | byItem | limit | limitValue | lock | subquery
  -- expressions
  | expr | xorExpr | andExpr | notExpr | boolPrimary | comparator | predicate | bitOrExpr
  | bitAndExpr | shiftExpr | sumExpr | productExpr | bitXorExpr | unaryExpr | simpleExpr | literal
  | columnRef | funcCall | funcKeyword | funcArgs | caseExpr | whenRun | whenClause | exprList
  | exprTail | identList | identTail | ident | identOrString
  -- data manipulation
  | insertStatement | columnList | insertSource | valueRowTail | valueRow | valueTail
  | valueOrDefault | onDuplicate | assignment | assignmentTail | updateStatement | deleteStatement
  -- data definition
  | createTable | tableElementTail | tableOptionRun | ifNotExists | ifExists | tableElement
  | columnDef | columnOptionRun | dataType | typeAttributeRun | typeArgs | typeArgTail | typeArg
  | typeAttribute | columnOption | defaultValue | constraint | constraintBody | keyParts
  | keyPartTail | keyPart | referenceDef | referenceActionRun | referenceAction | referenceOption
  | tableOption | dropTable | tableNameTail | truncateTable | createIndex | dropIndex
  | createDatabase | dropDatabase
deriving DecidableEq, Repr

inductive Symbol where
  | terminal (t : Terminal)
  | nonterminal (n : Nonterminal)
deriving DecidableEq, Repr

/-! ### Values that are no nodes yet -/

/-- A table name, which may be qualified by its schema. -/
structure TablePath where
  schema : String
  name : String

def TablePath.toNode (p : TablePath) (hints : List Slot) : Node :=
  .tableName p.schema p.name hints

/-- A column name, which may be qualified by its table and schema. -/
structure ColumnPath where
  schema : String
  table : String
  name : String

def ColumnPath.toNode (p : ColumnPath) : Node :=
  .columnName p.schema p.table p.name

inductive JoinCondition where
  | on (condition : Node)
  | columns (names : List Node)

inductive CallArguments where
  | star
  | list (args : List Node)

inductive InsertSource where
  | rows (rows : List Node)
  | query (query : Node)
  | assignments (assignments : List Node)

inductive TableElement where
  | column (definition : Node)
  | constraint (definition : Node)

/-- A table constraint before it is named. -/
structure KeyConstraint where
  type : String
  name : String
  keys : List Node
  refer : Option Node

def KeyConstraint.toNode (c : KeyConstraint) (symbol : String) : Node :=
  .constraint c.type c.name (c.keys.map Slot.node) (Slot.ofOption c.refer) symbol

/-- What a foreign key does when the row it refers to is deleted or updated. -/
inductive ReferenceAction where
  | onDelete (option : String)
  | onUpdate (option : String)

/-- The kinds of values that nonterminals carry. -/
inductive ValueKind where
  | node | nodes | optionalNode | operations | text | texts | token | nothing
  | tablePath | columnPath | joinCondition | callArguments | insertSource
  | tableElement | tableElements | keyConstraint | referenceAction | referenceActions

def ValueKind.Value : ValueKind → Type
  | .node => Node
  | .nodes => List Node
  | .optionalNode => Option Node
  | .operations => List (String × Node)
  | .text => String
  | .texts => List String
  | .token => Token
  | .nothing => Unit
  | .tablePath => TablePath
  | .columnPath => ColumnPath
  | .joinCondition => JoinCondition
  | .callArguments => CallArguments
  | .insertSource => InsertSource
  | .tableElement => TableElement
  | .tableElements => List TableElement
  | .keyConstraint => KeyConstraint
  | .referenceAction => ReferenceAction
  | .referenceActions => List ReferenceAction

def Nonterminal.kind : Nonterminal → ValueKind
  | .script | .scriptItems | .selectFieldTail | .tableRefTail | .indexHints | .indexHintRun
  | .byItemTail | .whenRun | .exprList | .exprTail | .columnList | .valueRowTail | .valueTail
  | .onDuplicate | .assignmentTail | .tableOptionRun | .columnOptionRun | .keyParts | .keyPartTail
  | .tableNameTail => .nodes
  | .optFrom | .optWhere | .optGroupBy | .optHaving | .optOrderBy | .optLimit => .optionalNode
  | .queryTail => .operations
  | .setOperator | .optLock | .lock | .joinOperator | .hintScope | .dataType | .typeArg
  | .typeAttribute | .referenceOption => .text
  | .identList | .identTail | .typeAttributeRun | .typeArgs | .typeArgTail => .texts
  | .fieldAlias | .tableAlias | .comparator | .funcKeyword | .ident | .identOrString => .token
  | .ifNotExists | .ifExists => .nothing
  | .tableName => .tablePath
  | .columnRef => .columnPath
  | .joinCondition => .joinCondition
  | .funcArgs => .callArguments
  | .insertSource => .insertSource
  | .tableElement => .tableElement
  | .tableElementTail => .tableElements
  | .constraintBody => .keyConstraint
  | .referenceAction => .referenceAction
  | .referenceActionRun => .referenceActions
  | _ => .node

/-- The type of the value that a nonterminal carries. -/
def Nonterminal.Value (n : Nonterminal) : Type :=
  n.kind.Value

def Symbol.Value : Symbol → Type
  | .terminal _ => Token
  | .nonterminal n => n.Value

/-- The values of a row of symbols, in order. -/
def Values : List Symbol → Type
  | [] => Unit
  | s :: rest => s.Value × Values rest

/-- `s` before `rest` if it is there. -/
def optional (present : Bool) (s : Symbol) (rest : List Symbol) : List Symbol :=
  match present with
  | true => s :: rest
  | false => rest

/-- The value of an optional symbol and those of the rest. -/
def Values.split {s : Symbol} {rest : List Symbol} (present : Bool)
    (vs : Values (optional present s rest)) : Option s.Value × Values rest :=
  match present, vs with
  | true, (v, vs) => (some v, vs)
  | false, vs => (none, vs)

/-- The chosen terminal, if any, before `rest`. -/
def choice (t : Option Terminal) (rest : List Symbol) : List Symbol :=
  match t with
  | some t => .terminal t :: rest
  | none => rest

/-- The token of the chosen terminal and the values of the rest. -/
def Values.choose {rest : List Symbol} (t : Option Terminal) (vs : Values (choice t rest)) :
    Option Token × Values rest :=
  match t, vs with
  | some _, (v, vs) => (some v, vs)
  | none, vs => (none, vs)

/-- A list that grew by one at its end. -/
def grown {α : Type} (earlier : Option (List α)) (last : α) : List α :=
  earlier.getD [] ++ [last]

/-- A failure to build a tree from an accepted text. -/
inductive BuildError where
  /-- A number whose exponent is too large. -/
  | numberOutOfRange (token : Token)
  /-- A star or `DISTINCT` in the call of a function that is no aggregate. -/
  | notAggregate (name : Token)
  /-- An index part of `column` whose prefix length is no integer. -/
  | badLength (column length : Token)
deriving DecidableEq, Repr

end SqlSyntax.Grammar
