/-! Kinds of syntax tree nodes. Every kind belongs to a family; data definition and data
manipulation statements are statements too. The tag of a kind is the name it has on the wire. -/

namespace SqlSyntax

inductive Family where
  | node
  | statement
  | expression
  | definition
  | manipulation
deriving DecidableEq, Repr

namespace Family

def name : Family → String
  | .node => "Node"
  | .statement => "StmtNode"
  | .expression => "ExprNode"
  | .definition => "DDLNode"
  | .manipulation => "DMLNode"

/-- Everything of the first family is of the second too. -/
def within : Family → Family → Bool
  | _, .node => true
  | .definition, .statement => true
  | .manipulation, .statement => true
  | a, b => a == b

end Family

inductive Kind where
  | bare (family : Family)
  | value
  | paramMarker
  | variableRef
  | columnName
  | columnRef
  | binaryOp
  | unaryOp
  | isNull
  | isTruth
  | inSet
  | like
  | regexp
  | between
  | paren
  | row
  | defaultValue
  | subquery
  | existsQuery
  | whenClause
  | caseOf
  | funcCall
  | aggregate
  | wildcard
  | selectField
  | fieldList
  | indexHint
  | tableName
  | tableSource
  | onCondition
  | join
  | tableRefs
  | byItem
  | groupBy
  | having
  | orderBy
  | limit
  | select
  | setOperation
  | assignment
  | insert
  | update
  | delete
  | columnOption
  | columnDef
  | indexPart
  | reference
  | constraint
  | tableOption
  | createTable
  | dropTable
  | truncateTable
  | createIndex
  | dropIndex
  | createDatabase
  | dropDatabase
  | useDatabase
  | startTransaction
  | commit
  | rollback
  | explain
deriving DecidableEq, Repr

namespace Kind

def name : Kind → String
  | .bare family => family.name
  | .value => "ValueExpr"
  | .paramMarker => "ParamMarkerExpr"
  | .variableRef => "VariableExpr"
  | .columnName => "ColumnName"
  | .columnRef => "ColumnNameExpr"
  | .binaryOp => "BinaryOperationExpr"
  | .unaryOp => "UnaryOperationExpr"
  | .isNull => "IsNullExpr"
  | .isTruth => "IsTruthExpr"
  | .inSet => "PatternInExpr"
  | .like => "PatternLikeExpr"
  | .regexp => "PatternRegexpExpr"
  | .between => "BetweenExpr"
  | .paren => "ParenthesesExpr"
  | .row => "RowExpr"
  | .defaultValue => "DefaultExpr"
  | .subquery => "SubqueryExpr"
  | .existsQuery => "ExistsSubqueryExpr"
  | .whenClause => "WhenClause"
  | .caseOf => "CaseExpr"
  | .funcCall => "FuncCallExpr"
  | .aggregate => "AggregateFuncExpr"
  | .wildcard => "WildCardField"
  | .selectField => "SelectField"
  | .fieldList => "FieldList"
  | .indexHint => "IndexHint"
  | .tableName => "TableName"
  | .tableSource => "TableSource"
  | .onCondition => "OnCondition"
  | .join => "Join"
  | .tableRefs => "TableRefsClause"
  | .byItem => "ByItem"
  | .groupBy => "GroupByClause"
  | .having => "HavingClause"
  | .orderBy => "OrderByClause"
  | .limit => "Limit"
  | .select => "SelectStmt"
  | .setOperation => "SetOprStmt"
  | .assignment => "Assignment"
  | .insert => "InsertStmt"
  | .update => "UpdateStmt"
  | .delete => "DeleteStmt"
  | .columnOption => "ColumnOption"
  | .columnDef => "ColumnDef"
  | .indexPart => "IndexPartSpecification"
  | .reference => "ReferenceDef"
  | .constraint => "Constraint"
  | .tableOption => "TableOption"
  | .createTable => "CreateTableStmt"
  | .dropTable => "DropTableStmt"
  | .truncateTable => "TruncateTableStmt"
  | .createIndex => "CreateIndexStmt"
  | .dropIndex => "DropIndexStmt"
  | .createDatabase => "CreateDatabaseStmt"
  | .dropDatabase => "DropDatabaseStmt"
  | .useDatabase => "UseStmt"
  | .startTransaction => "BeginStmt"
  | .commit => "CommitStmt"
  | .rollback => "RollbackStmt"
  | .explain => "ExplainStmt"

def family : Kind → Family
  | .bare family => family
  | .value | .paramMarker | .variableRef | .columnRef | .binaryOp | .unaryOp | .isNull | .isTruth
  | .inSet | .like | .regexp | .between | .paren | .row | .defaultValue | .subquery | .existsQuery
  | .caseOf | .funcCall | .aggregate => .expression
  | .select | .setOperation | .insert | .update | .delete => .manipulation
  | .createTable | .dropTable | .truncateTable | .createIndex | .dropIndex | .createDatabase
  | .dropDatabase => .definition
  | .useDatabase | .startTransaction | .commit | .rollback | .explain => .statement
  | _ => .node

/-- The wire name of a kind, under the namespace that clients of the wire format know. -/
def tag (k : Kind) : String :=
  "mysql_parser.plugins.mysql.ast." ++ k.name

/-- A class of nodes is a family or a single kind, given by its name. -/
def isOf (k : Kind) (className : String) : Bool :=
  k.name == className ||
    [Family.node, .statement, .expression, .definition, .manipulation].any
      fun f => f.name == className && k.family.within f

end Kind

end SqlSyntax
