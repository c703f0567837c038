import SqlSyntax.Grammar.Expression

/-! Productions for queries, their clauses and the tables they read. -/

namespace SqlSyntax.Grammar

inductive SetKind where
  | union | except | intersect
deriving DecidableEq, Repr

def SetKind.terminal : SetKind → Terminal
  | .union => .kwUnion
  | .except => .kwExcept
  | .intersect => .kwIntersect

inductive Quantifier where
  | distinct | all
deriving DecidableEq, Repr

def Quantifier.terminal : Quantifier → Terminal
  | .distinct => .kwDistinct
  | .all => .kwAll

inductive Direction where
  | asc | desc
deriving DecidableEq, Repr

def Direction.terminal : Direction → Terminal
  | .asc => .kwAsc
  | .desc => .kwDesc

inductive HintVerb where
  | use | force | ignore
deriving DecidableEq, Repr

def HintVerb.terminal : HintVerb → Terminal
  | .use => .kwUse
  | .force => .kwForce
  | .ignore => .kwIgnore

inductive AliasSpelling where
  | plain | quoted | string
deriving DecidableEq, Repr

def AliasSpelling.terminal : AliasSpelling → Terminal
  | .plain => .name
  | .quoted => .quotedName
  | .string => .string

inductive QueryRule where
  | query (more : Bool) | queryTail (more : Bool)
  | setOperator (kind : SetKind) (quantifier : Option Quantifier)
  | selectCore (quantifier : Option Quantifier)
  | fromClause | noFrom | whereClause | noWhere | groupClause | noGroup | havingClause | noHaving
  | orderClause | noOrder | limitClause | noLimit | lockClause | noLock
  | selectFields (more : Bool) | selectFieldTail (more : Bool)
  | fieldStar | fieldTableStar | fieldSchemaTableStar | fieldExpr (named : Bool)
  | fieldAlias (marked : Bool) (spelling : AliasSpelling)
  | tableRefs (more : Bool) | tableRefTail (more : Bool) | singleTable | joinedTable
  | joinTable (conditioned : Bool)
  | joinInner (marked : Bool) | joinCross | joinLeft (outer : Bool) | joinRight (outer : Bool)
  | onCondition | usingColumns
  | tableSource (named hinted : Bool) | derivedTable
  | tableAlias (marked quoted : Bool) | tableName (qualified : Bool)
  | indexHints | indexHintRun (more : Bool)
  | indexHint (verb : HintVerb) (byKey limited named : Bool)
  | scopeJoin | scopeOrderBy | scopeGroupBy
  | groupBy (more : Bool) | byItemTail (more : Bool) | having | orderBy (more : Bool)
  | byItem (direction : Option Direction)
  | limitCount | limitOffsetCount | limitCountOffset | limitNumber | limitMarker
  | lockForUpdate | lockInShareMode
  | subquery
deriving DecidableEq, Repr

namespace QueryRule

open SqlSyntax.Grammar.Symbol (terminal nonterminal)

def lhs : QueryRule → Nonterminal
  | query _ => .query
  | queryTail _ => .queryTail
  | setOperator _ _ => .setOperator
  | selectCore _ => .selectCore
  | fromClause | noFrom => .optFrom
  | whereClause | noWhere => .optWhere
  | groupClause | noGroup => .optGroupBy
  | havingClause | noHaving => .optHaving
  | orderClause | noOrder => .optOrderBy
  | limitClause | noLimit => .optLimit
  | lockClause | noLock => .optLock
  | selectFields _ => .selectFields
  | selectFieldTail _ => .selectFieldTail
  | fieldStar | fieldTableStar | fieldSchemaTableStar | fieldExpr _ => .selectField
  | fieldAlias _ _ => .fieldAlias
  | tableRefs _ => .tableRefs
  | tableRefTail _ => .tableRefTail
  | singleTable | joinedTable => .tableRef
  | joinTable _ => .joinTable
  | joinInner _ | joinCross | joinLeft _ | joinRight _ => .joinOperator
  | onCondition | usingColumns => .joinCondition
  | tableSource _ _ | derivedTable => .tableFactor
  | tableAlias _ _ => .tableAlias
  | tableName _ => .tableName
  | indexHints => .indexHints
  | indexHintRun _ => .indexHintRun
  | indexHint _ _ _ _ => .indexHint
  | scopeJoin | scopeOrderBy | scopeGroupBy => .hintScope
  | groupBy _ => .groupBy
  | byItemTail _ => .byItemTail
  | having => .having
  | orderBy _ => .orderBy
  | byItem _ => .byItem
  | limitCount | limitOffsetCount | limitCountOffset => .limit
  | limitNumber | limitMarker => .limitValue
  | lockForUpdate | lockInShareMode => .lock
  | subquery => .subquery

def rhs : QueryRule → List Symbol
  | query more => nonterminal .selectCore :: optional more (nonterminal .queryTail) []
  | queryTail more =>
    optional more (nonterminal .queryTail) [nonterminal .setOperator, nonterminal .selectCore]
  | setOperator kind quantifier =>
    terminal kind.terminal :: choice (quantifier.map Quantifier.terminal) []
  | selectCore quantifier =>
    terminal .kwSelect :: choice (quantifier.map Quantifier.terminal)
      [nonterminal .selectFields, nonterminal .optFrom, nonterminal .optWhere,
        nonterminal .optGroupBy, nonterminal .optHaving, nonterminal .optOrderBy,
        nonterminal .optLimit, nonterminal .optLock]
  | fromClause => [terminal .kwFrom, nonterminal .tableRefs]
  | whereClause => [terminal .kwWhere, nonterminal .expr]
  | groupClause => [nonterminal .groupBy]
  | havingClause => [nonterminal .having]
  | orderClause => [nonterminal .orderBy]
  | limitClause => [nonterminal .limit]
  | lockClause => [nonterminal .lock]
  | noFrom | noWhere | noGroup | noHaving | noOrder | noLimit | noLock => []
  | selectFields more =>
    nonterminal .selectField :: optional more (nonterminal .selectFieldTail) []
  | selectFieldTail more =>
    optional more (nonterminal .selectFieldTail) [terminal .comma, nonterminal .selectField]
  | fieldStar => [terminal .star]
  | fieldTableStar => [nonterminal .ident, terminal .dot, terminal .star]
  | fieldSchemaTableStar =>
    [nonterminal .ident, terminal .dot, nonterminal .ident, terminal .dot, terminal .star]
  | fieldExpr named => nonterminal .expr :: optional named (nonterminal .fieldAlias) []
  | fieldAlias marked spelling =>
    optional marked (terminal .kwAs) [terminal spelling.terminal]
  | tableRefs more => nonterminal .tableRef :: optional more (nonterminal .tableRefTail) []
  | tableRefTail more =>
    optional more (nonterminal .tableRefTail) [terminal .comma, nonterminal .tableRef]
  | singleTable => [nonterminal .tableFactor]
  | joinedTable => [nonterminal .joinTable]
  | joinTable conditioned =>
    nonterminal .tableRef :: nonterminal .joinOperator :: nonterminal .tableFactor ::
      optional conditioned (nonterminal .joinCondition) []
  | joinInner marked => optional marked (terminal .kwInner) [terminal .kwJoin]
  | joinCross => [terminal .kwCross, terminal .kwJoin]
  | joinLeft outer =>
    terminal .kwLeft :: optional outer (terminal .kwOuter) [terminal .kwJoin]
  | joinRight outer =>
    terminal .kwRight :: optional outer (terminal .kwOuter) [terminal .kwJoin]
  | onCondition => [terminal .kwOn, nonterminal .expr]
  | usingColumns =>
    [terminal .kwUsing, terminal .leftParen, nonterminal .identList, terminal .rightParen]
  | tableSource named hinted =>
    nonterminal .tableName :: optional named (nonterminal .tableAlias)
      (optional hinted (nonterminal .indexHints) [])
  | derivedTable => [nonterminal .subquery, nonterminal .tableAlias]
  | tableAlias marked quoted =>
    optional marked (terminal .kwAs) [terminal (if quoted then .quotedName else .name)]
  | tableName qualified =>
    nonterminal .ident :: optional qualified (terminal .dot)
      (optional qualified (nonterminal .ident) [])
  | indexHints => [nonterminal .indexHintRun]
  | indexHintRun more => optional more (nonterminal .indexHintRun) [nonterminal .indexHint]
  | indexHint verb byKey limited named =>
    terminal verb.terminal :: terminal (if byKey then .kwKey else .kwIndex) ::
      optional limited (terminal .kwFor) (optional limited (nonterminal .hintScope)
        (terminal .leftParen :: optional named (nonterminal .identList) [terminal .rightParen]))
  | scopeJoin => [terminal .kwJoin]
  | scopeOrderBy => [terminal .kwOrder, terminal .kwBy]
  | scopeGroupBy => [terminal .kwGroup, terminal .kwBy]
  | groupBy more =>
    terminal .kwGroup :: terminal .kwBy :: nonterminal .byItem ::
      optional more (nonterminal .byItemTail) []
  | byItemTail more =>
    optional more (nonterminal .byItemTail) [terminal .comma, nonterminal .byItem]
  | having => [terminal .kwHaving, nonterminal .expr]
  | orderBy more =>
    terminal .kwOrder :: terminal .kwBy :: nonterminal .byItem ::
      optional more (nonterminal .byItemTail) []
  | byItem direction => nonterminal .expr :: choice (direction.map Direction.terminal) []
  | limitCount => [terminal .kwLimit, nonterminal .limitValue]
  | limitOffsetCount =>
    [terminal .kwLimit, nonterminal .limitValue, terminal .comma, nonterminal .limitValue]
  | limitCountOffset =>
    [terminal .kwLimit, nonterminal .limitValue, terminal .kwOffset, nonterminal .limitValue]
  | limitNumber => [terminal .number]
  | limitMarker => [terminal .question]
  | lockForUpdate => [terminal .kwFor, terminal .kwUpdate]
  | lockInShareMode => [terminal .kwLock, terminal .kwIn, terminal .kwShare, terminal .kwMode]
  | subquery => [terminal .leftParen, nonterminal .query, terminal .rightParen]

end QueryRule

/-! ### Trees -/

/-- A lone select stands for itself. -/
def combine (first : Node) (rest : List (String × Node)) : Node :=
  match rest with
  | [] => first
  | _ :: _ =>
    .setOperation (.node first :: rest.map fun p => Slot.node p.2) (rest.map Prod.fst)

def joinNode (left right : Node) (side : String) (condition : Option JoinCondition) : Node :=
  match condition with
  | some (.on c) => .join (.node left) (.node right) side (.node c) []
  | some (.columns names) => .join (.node left) (.node right) side .empty (names.map Slot.node)
  | none => .join (.node left) (.node right) side .empty []

/-- Tables separated by commas are cross joined from the left; a single table is wrapped in a join
without a right side. -/
def tableRefsNode (first : Node) (rest : List Node) : Node :=
  let joined := rest.foldl (fun left right => joinNode left right "CROSS" none) first
  .tableRefs <| .node <|
    match joined with
    | .join .. => joined
    | single => .join (.node single) .empty "" .empty []

def aliasOf (t : Option Token) : String :=
  (t.map Token.name).getD ""

namespace QueryRule

def build (markers : Nat) : (r : QueryRule) → Values r.rhs → Except BuildError r.lhs.Value
  | query more, (first, vs) =>
    let (rest, _) := Values.split more vs
    .ok (combine first (Option.getD rest []))
  | queryTail more, vs =>
    let (earlier, op, select, _) := Values.split more vs
    .ok (grown earlier (op, select))
  | setOperator _ quantifier, (kind, _) =>
    .ok (Text.toUpper (Token.text kind) ++ (if quantifier = some .all then " ALL" else ""))
  | selectCore quantifier, (_, vs) =>
    let (_, fields, source, condition, groups, filter, order, bound, lock, _) := Values.choose _ vs
    .ok (.select (quantifier = some .distinct) (.node fields) (Slot.ofOption source)
      (Slot.ofOption condition) (Slot.ofOption groups) (Slot.ofOption filter)
      (Slot.ofOption order) (Slot.ofOption bound) lock)
  | fromClause, (_, x, _) => .ok (some x)
  | whereClause, (_, x, _) => .ok (some x)
  | groupClause, (x, _) => .ok (some x)
  | havingClause, (x, _) => .ok (some x)
  | orderClause, (x, _) => .ok (some x)
  | limitClause, (x, _) => .ok (some x)
  | lockClause, (x, _) => .ok x
  | noFrom, _ => .ok none
  | noWhere, _ => .ok none
  | noGroup, _ => .ok none
  | noHaving, _ => .ok none
  | noOrder, _ => .ok none
  | noLimit, _ => .ok none
  | noLock, _ => .ok ""
  | selectFields more, (x, vs) =>
    let (rest, _) := Values.split more vs
    .ok (.fieldList (List.map Slot.node (x :: Option.getD rest [])))
  | selectFieldTail more, vs =>
    let (earlier, _, x, _) := Values.split more vs
    .ok (grown earlier x)
  | fieldStar, _ => .ok (.selectField (.node (.wildcard "" "")) .empty "")
  | fieldTableStar, (t, _) =>
    .ok (.selectField (.node (.wildcard "" (Token.name t))) .empty "")
  | fieldSchemaTableStar, (s, _, t, _) =>
    .ok (.selectField (.node (.wildcard (Token.name s) (Token.name t))) .empty "")
  | fieldExpr named, (x, vs) =>
    let (asName, _) := Values.split named vs
    .ok (.selectField .empty (.node x) (aliasOf asName))
  | fieldAlias marked _, vs =>
    let (_, t, _) := Values.split marked vs
    .ok t
  | tableRefs more, (x, vs) =>
    let (rest, _) := Values.split more vs
    .ok (tableRefsNode x (Option.getD rest []))
  | tableRefTail more, vs =>
    let (earlier, _, x, _) := Values.split more vs
    .ok (grown earlier x)
  | singleTable, (x, _) => .ok x
  | joinedTable, (x, _) => .ok x
  | joinTable conditioned, (left, side, right, vs) =>
    let (condition, _) := Values.split conditioned vs
    .ok (joinNode left right side condition)
  | joinInner _, _ => .ok ""
  | joinCross, _ => .ok "CROSS"
  | joinLeft _, _ => .ok "LEFT"
  | joinRight _, _ => .ok "RIGHT"
  | onCondition, (_, x, _) => .ok (.on (.onCondition (.node x)))
  | usingColumns, (_, _, names, _) => .ok (.columns (List.map (Node.columnName "" "") names))
  | tableSource named hinted, (table, vs) =>
    let (asName, vs) := Values.split named vs
    let (hints, _) := Values.split hinted vs
    .ok (.tableSource (.node (TablePath.toNode table (List.map Slot.node (Option.getD hints []))))
      (aliasOf asName))
  | derivedTable, (q, asName, _) => .ok (.tableSource (.node q) (Token.name asName))
  | tableAlias marked _, vs =>
    let (_, t, _) := Values.split marked vs
    .ok t
  | tableName qualified, (first, vs) =>
    let (_, vs) := Values.split qualified vs
    let (second, _) := Values.split qualified vs
    match second with
    | some t => .ok ⟨Token.name first, Token.name t⟩
    | none => .ok ⟨"", Token.name first⟩
  | indexHints, (hints, _) => .ok hints
  | indexHintRun more, vs =>
    let (earlier, hint, _) := Values.split more vs
    .ok (grown earlier hint)
  | indexHint _ _ limited named, (verb, _, vs) =>
    let (_, vs) := Values.split limited vs
    let (scope, _, vs) := Values.split limited vs
    let (names, _) := Values.split named vs
    .ok (.indexHint (Text.toUpper (Token.text verb)) (Option.getD scope "")
      (Option.getD names []))
  | scopeJoin, _ => .ok "JOIN"
  | scopeOrderBy, _ => .ok "ORDER BY"
  | scopeGroupBy, _ => .ok "GROUP BY"
  | groupBy more, (_, _, x, vs) =>
    let (rest, _) := Values.split more vs
    .ok (.groupBy (List.map Slot.node (x :: Option.getD rest [])))
  | byItemTail more, vs =>
    let (earlier, _, x, _) := Values.split more vs
    .ok (grown earlier x)
  | having, (_, x, _) => .ok (.having (.node x))
  | orderBy more, (_, _, x, vs) =>
    let (rest, _) := Values.split more vs
    .ok (.orderBy (List.map Slot.node (x :: Option.getD rest [])))
  | byItem direction, (x, _) => .ok (.byItem (.node x) (direction = some .desc))
  | limitCount, (_, count, _) => .ok (.limit (.node count) .empty)
  | limitOffsetCount, (_, offset, _, count, _) => .ok (.limit (.node count) (.node offset))
  | limitCountOffset, (_, count, _, offset, _) => .ok (.limit (.node count) (.node offset))
  | limitNumber, (t, _) => numberNode t
  | limitMarker, _ => .ok (.paramMarker markers)
  | lockForUpdate, _ => .ok "FOR UPDATE"
  | lockInShareMode, _ => .ok "LOCK IN SHARE MODE"
  | subquery, (_, q, _) => .ok (.subquery (.node q))

end QueryRule

end SqlSyntax.Grammar
