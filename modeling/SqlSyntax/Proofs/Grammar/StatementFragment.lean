import SqlSyntax.Grammar.StatementAutomaton
import SqlSyntax.Proofs.Expression.Level
import SqlSyntax.Proofs.Grammar.FragmentCheck

/-!
# The canonical fragment of the statement grammar

The productions that canonical text is derived by, and what the statement automaton does with them.
-/

namespace SqlSyntax

namespace TerminalSet

/-- All terminals but one. -/
def except (t : Terminal) : TerminalSet :=
  ⟨full.bits ^^^ 1 <<< t.ctorIdx⟩

theorem contains_except {t u : Terminal} (differs : u ≠ t) : (except t).contains u = true := by
  have other : t.ctorIdx ≠ u.ctorIdx := fun same => differs (ctorIdx_inj same).symm
  have all := contains_full u
  unfold contains except at *
  rw [Nat.testBit_xor, all, Nat.one_shiftLeft, Nat.testBit_two_pow_of_ne other]
  rfl

end TerminalSet

namespace Place

/-- Marks, literals and names that are looked for. -/
def marks : List Terminal := [
  .minus, .plus, .bang, .tilde, .star, .leftParen, .rightParen, .question, .number, .hexNumber,
  .bitNumber, .string, .name, .quotedName, .variableName]

def scope (place : Place) : TerminalSet :=
  .ofList (marks ++ place.words)

end Place

namespace Grammar

namespace StatementFragment

/-! ### What is looked for -/

/-- What can follow a name. -/
def behindName : List Terminal := [
  .ampersand, .caret, .comma, .comparison, .dot, .endOfInput, .equals, .kwAnd, .kwAs, .kwAsc,
  .kwAutoIncrement, .kwBetween, .kwCharacter, .kwCharset, .kwCollate, .kwComment, .kwCross,
  .kwDefault, .kwDesc, .kwDiv, .kwElse, .kwEnd, .kwEngine, .kwEscape, .kwExcept, .kwFor, .kwForce,
  .kwForeign, .kwFrom, .kwGroup, .kwHaving, .kwIgnore, .kwIn, .kwIndex, .kwInner, .kwIntersect,
  .kwIs, .kwJoin, .kwKey, .kwLeft, .kwLike, .kwLimit, .kwLock, .kwMod, .kwNot, .kwNull, .kwOn,
  .kwOr, .kwOrder, .kwPrimary, .kwRegexp, .kwRight, .kwSelect, .kwSet, .kwThen, .kwUnion,
  .kwUnique, .kwUse, .kwUsing, .kwValue, .kwValues, .kwWhen, .kwWhere, .kwXor, .leftParen, .minus,
  .name, .percent, .pipe, .plus, .quotedName, .rightParen, .semicolon, .shift, .slash, .star,
  .string]

/-- What is looked for where a word or a string is set. -/
def settings : List Terminal :=
  [.name, .quotedName, .string]

/-- What is looked for behind a symbol: the start of an operand, if one comes next, or a word. -/
def scope : Symbol → Option Symbol → TerminalSet
  | .terminal .kwCase, some (.nonterminal .expr) => Place.branch.scope
  | .terminal .leftParen, some (.nonterminal .funcArgs) => Place.call.scope
  | .terminal .leftParen, some (.nonterminal .expr)
  | .terminal .leftParen, some (.nonterminal .exprList) => Place.group.scope
  | .terminal .kwSelect, some (.nonterminal .selectFields) => Place.field.scope
  | .terminal _, some (.nonterminal n) =>
    match n with
    | .expr | .xorExpr | .andExpr | .notExpr | .exprList | .funcArgs | .selectFields | .selectField
    | .byItem => Place.condition.scope
    | .predicate | .bitOrExpr | .bitAndExpr | .shiftExpr | .sumExpr | .productExpr | .bitXorExpr
    | .unaryExpr => Place.operand.scope
    | .valueOrDefault => Place.value.scope
    | .defaultValue => Place.setting.scope
    | .identOrString => .ofList settings
    | _ => .full
  | .nonterminal .comparator, some _ | .terminal .equals, none | .terminal .comparison, none =>
    Place.operand.scope
  | .nonterminal .ident, some (.nonterminal .dataType) | .terminal .quotedName, none =>
    .ofList behindName
  | _, _ => .full

def closing : Production → TerminalSet
  | .expr .equals | .expr .comparison => Place.operand.scope
  | .expr .quotedIdent => .ofList behindName
  | _ => .full

/-- A condition belongs to the nearest join, and no type comes behind a name that is not quoted. -/
def ends : Production → TerminalSet
  | .query (.joinTable false) => .except .kwOn
  | .expr .plainIdent => .except .name
  | _ => .full

/-! ### What a nonterminal starts with -/

def literals : List Terminal :=
  [.number, .hexNumber, .bitNumber, .string, .kwNull, .kwTrue, .kwFalse]

def functionWords : List Terminal := [
  .kwLeft, .kwRight, .kwIf, .kwInsert, .kwReplace, .kwMod, .kwDatabase, .kwSchema, .kwValues]

def names : List Terminal :=
  [.name, .quotedName]

def simple : List Terminal :=
  literals ++ functionWords ++ names ++ [.leftParen, .kwExists, .kwCase, .question, .variableName]

def signed : List Terminal :=
  [.minus, .plus, .bang, .tilde] ++ simple

def manipulations : List Terminal :=
  [.kwSelect, .kwInsert, .kwReplace, .kwUpdate, .kwDelete]

def statements : List Terminal :=
  manipulations ++ [.kwCreate, .kwDrop, .kwTruncate, .kwUse, .kwStart, .kwCommit, .kwRollback,
    .kwExplain]

def constraints : List Terminal :=
  [.kwPrimary, .kwUnique, .kwIndex, .kwForeign]

def first : Nonterminal → TerminalSet
  | .expr | .xorExpr | .andExpr | .notExpr | .exprList | .byItem => .ofList (.kwNot :: signed)
  | .boolPrimary | .predicate | .bitOrExpr | .bitAndExpr | .shiftExpr | .sumExpr | .productExpr
  | .bitXorExpr | .unaryExpr => .ofList signed
  | .comparator => .ofList [.equals, .comparison]
  | .simpleExpr => .ofList simple
  | .literal => .ofList literals
  | .columnRef | .ident | .identList | .identOrString | .tableName | .assignment | .columnDef
  | .keyPart => .ofList names
  | .funcCall => .ofList (names ++ functionWords)
  | .funcKeyword => .ofList functionWords
  | .funcArgs | .selectFields | .selectField => .ofList (.star :: .kwNot :: signed)
  | .caseExpr => .ofList [.kwCase]
  | .whenRun | .whenClause => .ofList [.kwWhen]
  | .exprTail | .identTail | .selectFieldTail | .byItemTail | .valueRowTail | .valueTail
  | .assignmentTail | .tableElementTail | .typeArgTail | .keyPartTail | .tableNameTail =>
    .ofList [.comma]
  | .statement | .scriptItems => .ofList statements
  | .explainable => .ofList manipulations
  | .query | .selectCore => .ofList [.kwSelect]
  | .queryTail | .setOperator => .ofList [.kwUnion, .kwExcept, .kwIntersect]
  | .optFrom => .ofList [.kwFrom]
  | .optWhere => .ofList [.kwWhere]
  | .optGroupBy | .groupBy => .ofList [.kwGroup]
  | .optHaving | .having => .ofList [.kwHaving]
  | .optOrderBy | .orderBy => .ofList [.kwOrder]
  | .optLimit | .limit => .ofList [.kwLimit]
  | .optLock | .lock => .ofList [.kwFor, .kwLock]
  | .fieldAlias | .tableAlias => .ofList [.kwAs]
  | .tableRefs | .tableRef | .joinTable | .tableFactor => .ofList (.leftParen :: names)
  | .joinOperator => .ofList [.kwJoin, .kwCross, .kwLeft, .kwRight]
  | .joinCondition => .ofList [.kwOn, .kwUsing]
  | .indexHints | .indexHintRun | .indexHint => .ofList [.kwUse, .kwForce, .kwIgnore]
  | .hintScope => .ofList [.kwJoin, .kwOrder, .kwGroup]
  | .limitValue => .ofList [.number, .question]
  | .subquery | .columnList | .valueRow | .typeArgs | .keyParts => .ofList [.leftParen]
  | .insertStatement => .ofList [.kwInsert, .kwReplace]
  | .insertSource => .ofList [.kwSelect, .kwSet, .kwValues]
  | .valueOrDefault => .ofList (.kwDefault :: .kwNot :: signed)
  | .onDuplicate | .referenceActionRun | .referenceAction => .ofList [.kwOn]
  | .updateStatement => .ofList [.kwUpdate]
  | .deleteStatement => .ofList [.kwDelete]
  | .createTable | .createIndex | .createDatabase => .ofList [.kwCreate]
  | .dropTable | .dropIndex | .dropDatabase => .ofList [.kwDrop]
  | .truncateTable => .ofList [.kwTruncate]
  | .useStatement => .ofList [.kwUse]
  | .beginStatement => .ofList [.kwStart]
  | .commitStatement => .ofList [.kwCommit]
  | .rollbackStatement => .ofList [.kwRollback]
  | .explainStatement => .ofList [.kwExplain]
  | .ifExists | .ifNotExists => .ofList [.kwIf]
  | .tableElement => .ofList (.kwConstraint :: constraints ++ names)
  | .constraint => .ofList (.kwConstraint :: constraints)
  | .constraintBody => .ofList constraints
  | .dataType => .ofList [.name]
  | .typeArg => .ofList [.number, .string]
  | .typeAttributeRun | .typeAttribute => .ofList [.kwSigned, .kwUnsigned, .kwZerofill]
  | .columnOptionRun | .columnOption => .ofList [
    .kwAutoIncrement, .kwCharacter, .kwCollate, .kwComment, .kwDefault, .kwNot, .kwNull, .kwOn,
    .kwPrimary, .kwUnique]
  | .defaultValue => .ofList (.minus :: .leftParen :: literals ++ names ++ functionWords)
  | .referenceDef => .ofList [.kwReferences]
  | .referenceOption => .ofList [.kwCascade, .kwRestrict, .kwNo, .kwSet]
  | .tableOptionRun | .tableOption => .ofList [
    .kwAutoIncrement, .kwCollate, .kwComment, .kwDefault, .kwEngine]
  | _ => .empty

def nullable : Nonterminal → Bool
  | .optFrom | .optWhere | .optGroupBy | .optHaving | .optOrderBy | .optLimit | .optLock => true
  | _ => false

/-! ### What a nonterminal is followed by -/

/-- The operators that take an expression of the level as their left operand, the loosest first. -/
def operators : Nonterminal → List Terminal
  | .expr => [.kwOr]
  | .xorExpr => [.kwXor, .kwOr]
  | .andExpr | .notExpr => [.kwAnd, .kwXor, .kwOr]
  | .boolPrimary | .predicate => [.equals, .comparison, .kwIs, .kwAnd, .kwXor, .kwOr]
  | .bitOrExpr => predicates
  | .bitAndExpr => .ampersand :: predicates
  | .shiftExpr => .shift :: .ampersand :: predicates
  | .sumExpr => sums
  | .productExpr => products ++ sums
  | _ => .caret :: products ++ sums
where
  predicates : List Terminal := [
    .pipe, .kwBetween, .kwIn, .kwLike, .kwNot, .kwRegexp, .equals, .comparison, .kwIs, .kwAnd,
    .kwXor, .kwOr]
  sums : List Terminal := .minus :: .plus :: .shift :: .ampersand :: predicates
  products : List Terminal := [.star, .slash, .percent, .kwDiv, .kwMod]

/-- What can follow an expression in any statement but no operand of a field. -/
def behindClause : List Terminal := [
  .kwAsc, .kwCross, .kwDesc, .kwElse, .kwEnd, .kwInner, .kwJoin, .kwLeft, .kwRight, .kwSet, .kwThen,
  .kwWhen]

def behindField : List Terminal := [
  .comma, .endOfInput, .kwAs, .kwExcept, .kwFor, .kwFrom, .kwGroup, .kwHaving, .kwIntersect,
  .kwLimit, .kwLock, .kwOn, .kwOrder, .kwUnion, .kwWhere, .name, .quotedName, .rightParen,
  .semicolon, .string]

/-- The pattern of a `LIKE` is followed by its escape. -/
def escapes : Nonterminal → List Terminal
  | .expr | .xorExpr | .andExpr | .notExpr | .boolPrimary | .predicate => []
  | _ => [.kwEscape]

/-- The options of a column, and what ends them. -/
def behindOption : List Terminal := [
  .comma, .rightParen, .kwAutoIncrement, .kwCharacter, .kwCollate, .kwComment, .kwDefault, .kwNot,
  .kwNull, .kwOn, .kwPrimary, .kwUnique]

/-- The options of a table, and what ends them. -/
def behindTableOption : List Terminal := [
  .endOfInput, .semicolon, .kwAutoIncrement, .kwCollate, .kwComment, .kwDefault, .kwEngine]

def statementEnd : List Terminal :=
  [.semicolon, .endOfInput]

/-- What follows the clauses of a query, the last of them first. -/
def behindCore : List Terminal :=
  [.kwUnion, .kwExcept, .kwIntersect, .rightParen, .kwOn] ++ statementEnd

def behindLimit : List Terminal :=
  .kwFor :: .kwLock :: behindCore

def behindOrder : List Terminal :=
  .kwLimit :: behindLimit

def behindHaving : List Terminal :=
  .kwOrder :: behindOrder

def behindGroup : List Terminal :=
  .kwHaving :: behindHaving

def behindWhere : List Terminal :=
  .kwGroup :: behindGroup

def behindFrom : List Terminal :=
  .kwWhere :: behindWhere

def behindFields : List Terminal :=
  .kwFrom :: behindFrom

/-- What follows a table, a joined one included. -/
def behindTable : List Terminal :=
  [.kwJoin, .kwCross, .kwLeft, .kwRight, .kwSet] ++ behindFrom

def behindFactor : List Terminal :=
  .kwUsing :: behindTable

def behindHint : List Terminal :=
  [.kwUse, .kwForce, .kwIgnore] ++ behindFactor

/-- What follows an assigned value. -/
def behindAssignment : List Terminal :=
  [.comma, .kwOn, .kwWhere, .kwOrder, .kwLimit] ++ statementEnd

/-- What can follow a nonterminal in a field. -/
def behind : Nonterminal → List Terminal
  | .comparator => signed
  | .funcKeyword | .hintScope => [.leftParen]
  | .funcArgs | .exprList | .identList => [.rightParen]
  | .exprTail | .identTail | .valueTail | .tableElement | .tableElementTail | .columnDef
  | .constraint | .constraintBody | .typeArg | .typeArgTail | .keyPart | .keyPartTail
  | .referenceDef => [.rightParen, .comma]
  | .whenRun | .whenClause => [.kwWhen, .kwElse, .kwEnd]
  | .ident => behindName
  | .scriptItems => statements
  | .statement | .explainable | .explainStatement | .useStatement | .beginStatement
  | .commitStatement | .rollbackStatement | .insertStatement | .updateStatement | .deleteStatement
  | .createTable | .dropTable | .truncateTable | .createIndex | .dropIndex | .createDatabase
  | .dropDatabase | .onDuplicate => statementEnd
  | .query => .rightParen :: .kwOn :: statementEnd
  | .selectCore | .queryTail | .optLock | .lock => behindCore
  | .setOperator => [.kwSelect]
  | .selectFields => behindFields
  | .selectField | .selectFieldTail | .fieldAlias => .comma :: behindFields
  | .optFrom => behindFrom
  | .optWhere => behindWhere
  | .optGroupBy | .groupBy => behindGroup
  | .optHaving | .having => behindHaving
  | .optOrderBy | .orderBy => behindOrder
  | .optLimit | .limit => behindLimit
  | .limitValue => .comma :: behindLimit
  | .byItem | .byItemTail => .comma :: behindGroup
  | .tableRefs => .kwSet :: behindFrom
  | .tableRef | .joinTable | .joinCondition => behindTable
  | .joinOperator => .leftParen :: names
  | .tableFactor | .tableAlias | .indexHints => behindFactor
  | .indexHint | .indexHintRun => behindHint
  | .tableName => [.comma, .kwAs, .leftParen, .kwSelect, .kwValues] ++ behindHint
  | .columnList => [.kwSelect, .kwSet, .kwValues]
  | .insertSource => .kwOn :: statementEnd
  | .valueRow | .valueRowTail => .comma :: .kwOn :: statementEnd
  | .valueOrDefault => .rightParen :: behindAssignment
  | .assignment | .assignmentTail => behindAssignment
  | .tableNameTail => .comma :: statementEnd
  | .ifExists | .ifNotExists => names
  | .dataType | .columnOption | .columnOptionRun | .defaultValue => behindOption
  | .typeArgs | .typeAttribute | .typeAttributeRun =>
    [.kwSigned, .kwUnsigned, .kwZerofill] ++ behindOption
  | .identOrString => behindOption ++ behindTableOption
  | .keyParts => [.rightParen, .comma, .kwOn, .kwReferences] ++ statementEnd
  | .referenceAction | .referenceActionRun | .referenceOption => [.rightParen, .comma, .kwOn]
  | .tableOption | .tableOptionRun => behindTableOption
  | n => operators n ++ behindField

/-- Elsewhere the words of other clauses can follow an operand too. -/
def more : Nonterminal → List Terminal
  | .expr | .xorExpr | .andExpr | .notExpr | .boolPrimary | .predicate | .bitOrExpr | .bitAndExpr
  | .shiftExpr | .sumExpr | .productExpr | .bitXorExpr | .unaryExpr | .simpleExpr | .columnRef =>
    behindClause
  | .literal | .funcCall => behindClause ++ behindOption
  | .caseExpr | .subquery => behindClause
  | _ => []

/-- The states behind `SELECT` or a comma of its fields. -/
def fieldStates : List Nat :=
  [35, 86, 87, 212, 329]

/-- The states in which a column is assigned to. -/
def columnStates : List Nat :=
  [156, 164, 282, 400, 502, 590]

/-- The states behind `DEFAULT`, where a name is that of a function. -/
def callStates : List Nat :=
  [644, 747]

/-- The states in which a condition, an order and a bound may follow what is updated or deleted. -/
def changeStates : List Nat :=
  [186, 283, 304, 409, 410, 509, 305, 411, 430, 510, 511, 598, 431, 512, 536, 599, 600, 687]

def inField (n : Nonterminal) : TerminalSet :=
  .ofList (behind n)

def inClause (n : Nonterminal) : TerminalSet :=
  .ofList (behind n ++ escapes n ++ more n)

/-- What follows a clause of an update or a deletion. -/
def inChange : Nonterminal → TerminalSet
  | .optWhere => .ofList (.kwOrder :: .kwLimit :: statementEnd)
  | .optOrderBy => .ofList (.kwLimit :: statementEnd)
  | .optLimit => .ofList statementEnd
  | n => inField n

def follow (q : Nat) (n : Nonterminal) : TerminalSet :=
  match n with
  | .expr | .xorExpr | .andExpr | .notExpr | .boolPrimary | .predicate | .bitOrExpr | .bitAndExpr
  | .shiftExpr | .sumExpr | .productExpr | .bitXorExpr | .unaryExpr | .simpleExpr =>
    if q ∈ fieldStates then inField n else inClause n
  | .columnRef =>
    if q ∈ fieldStates then inField n
    else if q ∈ columnStates then .ofList [.equals]
    else inClause n
  | .literal | .funcCall | .caseExpr | .subquery => inClause n
  | .ident => if q ∈ callStates then .ofList [.leftParen] else inField n
  | .optWhere | .optOrderBy | .optLimit => if q ∈ changeStates then inChange n else inField n
  | n => inField n

/-! ### Weights -/

/-- Reductions lead to looser levels. -/
def weight : Symbol → Nat
  | .terminal _ => 40
  | .nonterminal n =>
    match n with
    | .optFrom | .optWhere | .optGroupBy | .optHaving | .optOrderBy | .optLimit | .optLock => 0
    | .statement | .explainable | .selectFields | .tableRefs => 0
    | .exprList | .whenClause | .query | .columnDef | .constraint | .columnOption | .typeAttribute
    | .referenceAction | .tableOption => 2
    | .selectCore | .indexHintRun | .constraintBody => 3
    | .indexHint | .tableRef => 4
    | .joinTable | .tableFactor => 5
    | .tableName => 6
    | .selectField => 10
    | .expr => 11
    | .xorExpr => 12
    | .andExpr => 13
    | .notExpr => 14
    | .boolPrimary => 15
    | .predicate => 16
    | .bitOrExpr => 17
    | .bitAndExpr => 18
    | .shiftExpr => 19
    | .sumExpr => 20
    | .productExpr => 21
    | .bitXorExpr => 22
    | .unaryExpr => 23
    | .simpleExpr => 24
    | .literal | .columnRef | .funcCall | .caseExpr | .subquery => 25
    | .ident => 26
    | .groupBy | .having | .orderBy | .limit | .lock => 20
    | _ => 1

/-- A state in which a clause may be absent, and how many may be from there on. -/
def credit (q : Nat) : Nat :=
  if q ∈ [88, 207, 208] then 7
  else if q ∈ [209, 325, 326] then 6
  else if q ∈ [327, 458, 459] then 5
  else if q ∈ [460, 566, 567] then 4
  else if q ∈ [186, 283, 304, 409, 410, 509, 568, 675, 676] then 3
  else if q ∈ [305, 411, 430, 510, 511, 598, 677, 767, 768] then 2
  else if q ∈ [431, 512, 536, 599, 600, 687, 769, 813, 814] then 1
  else 0

/-! ### Productions -/

/-- The list for either value. -/
def either {α : Type} (f : Bool → List α) : List α :=
  f false ++ f true

def both {α : Type} (f : Bool → α) : List α :=
  [f false, f true]

def expressions : Nonterminal → List ExprRule
  | .expr => [.logicOr, .orOperand]
  | .xorExpr => [.logicXor, .xorOperand]
  | .andExpr => [.logicAnd, .andOperand]
  | .notExpr => [.logicNot, .notOperand]
  | .boolPrimary => both .isNull ++ either (fun n => both (.isTruth n)) ++ [.compare, .boolOperand]
  | .comparator => [.equals, .comparison]
  | .predicate =>
    both .inList ++ both .inSubquery ++ both .between ++ either (fun n => both (.like n)) ++
      both .regexp ++ [.predicateOperand]
  | .bitOrExpr => [.bitOr, .bitOrOperand]
  | .bitAndExpr => [.bitAnd, .bitAndOperand]
  | .shiftExpr => [.shift, .shiftOperand]
  | .sumExpr => [.sum false, .sum true, .sumOperand]
  | .productExpr =>
    [.product .star, .product .slash, .product .percent, .product .div, .product .mod,
      .productOperand]
  | .bitXorExpr => [.bitXor, .bitXorOperand]
  | .unaryExpr => [.sign .minus, .sign .plus, .sign .bang, .sign .tilde, .unaryOperand]
  | .simpleExpr =>
    [.simpleLiteral, .simpleColumn, .simpleCall, .paren, .row, .simpleSubquery, .existsQuery,
      .simpleCase, .marker, .variableRef]
  | .literal =>
    [.number, .hexNumber, .bitNumber, .string, .null, .boolean false, .boolean true]
  | .columnRef => [.column, .tableColumn, .schemaColumn]
  | .funcCall => either (fun d => both (.call d)) ++ either (fun d => both (.keywordCall d))
  | .funcKeyword =>
    [.functionWord .left, .functionWord .right, .functionWord .if_, .functionWord .insert,
      .functionWord .replace, .functionWord .mod, .functionWord .database, .functionWord .schema,
      .functionWord .values]
  | .funcArgs => [.starArgument, .arguments]
  | .caseExpr => either fun o => both (.caseOf o)
  | .whenRun => both .whenRun
  | .whenClause => [.whenClause]
  | .exprList => both .exprList
  | .exprTail => both .exprTail
  | .identList => both .identList
  | .identTail => both .identTail
  | .ident => [.plainIdent, .quotedIdent]
  | .identOrString => [.identAlone]
  | _ => []

def queries : Nonterminal → List QueryRule
  | .query => both .query
  | .queryTail => both .queryTail
  | .setOperator =>
    [SetKind.union, .except, .intersect].flatMap fun kind =>
      [.setOperator kind none, .setOperator kind (some .all)]
  | .selectCore => [.selectCore none, .selectCore (some .distinct)]
  | .optFrom => [.fromClause, .noFrom]
  | .optWhere => [.whereClause, .noWhere]
  | .optGroupBy => [.groupClause, .noGroup]
  | .optHaving => [.havingClause, .noHaving]
  | .optOrderBy => [.orderClause, .noOrder]
  | .optLimit => [.limitClause, .noLimit]
  | .optLock => [.lockClause, .noLock]
  | .selectFields => both .selectFields
  | .selectFieldTail => both .selectFieldTail
  | .selectField => [.fieldStar, .fieldTableStar, .fieldSchemaTableStar] ++ both .fieldExpr
  | .fieldAlias => [.fieldAlias true .quoted]
  | .tableRefs => [.tableRefs false]
  | .tableRef => [.singleTable, .joinedTable]
  | .joinTable => both .joinTable
  | .joinOperator => [.joinInner false, .joinCross, .joinLeft false, .joinRight false]
  | .joinCondition => [.onCondition, .usingColumns]
  | .tableFactor =>
    [.tableSource false false, .tableSource false true, .tableSource true false, .derivedTable]
  | .tableAlias => [.tableAlias true true]
  | .tableName => both .tableName
  | .indexHints => [.indexHints]
  | .indexHintRun => both .indexHintRun
  | .indexHint =>
    [HintVerb.use, .force, .ignore].flatMap fun verb =>
      either fun limited => both (.indexHint verb false limited)
  | .hintScope => [.scopeJoin, .scopeOrderBy, .scopeGroupBy]
  | .groupBy => both .groupBy
  | .byItemTail => both .byItemTail
  | .having => [.having]
  | .orderBy => both .orderBy
  | .byItem => [.byItem none, .byItem (some .desc)]
  | .limit => [.limitCount, .limitOffsetCount]
  | .limitValue => [.limitNumber, .limitMarker]
  | .lock => [.lockForUpdate, .lockInShareMode]
  | .subquery => [.subquery]
  | _ => []

def changes : Nonterminal → List ManipulationRule
  | .insertStatement =>
    either fun replace => either fun ignore => either fun columns =>
      both (.insertStatement replace ignore true columns)
  | .columnList => [.columnList]
  | .insertSource => both (.insertValues true) ++ [.insertQuery] ++ both .insertAssignments
  | .valueRowTail => both .valueRowTail
  | .valueRow => .emptyRow :: both .valueRow
  | .valueTail => both .valueTail
  | .valueOrDefault => [.valueExpr, .valueDefault]
  | .onDuplicate => both .onDuplicate
  | .assignment => [.assignment]
  | .assignmentTail => both .assignmentTail
  | .updateStatement => either fun ignore => both (.updateStatement ignore)
  | .deleteStatement => both .deleteStatement
  | _ => []

def definitions : Nonterminal → List DefinitionRule
  | .createTable =>
    either fun temporary => either fun guarded => either fun more =>
      both (.createTable temporary guarded more)
  | .tableElementTail => both .tableElementTail
  | .tableOptionRun => both .tableOptionRun
  | .ifNotExists => [.ifNotExists]
  | .ifExists => [.ifExists]
  | .tableElement => [.columnElement, .constraintElement]
  | .columnDef => both .columnDef
  | .columnOptionRun => both .columnOptionRun
  | .dataType => either fun args => both (.dataType args)
  | .typeAttributeRun => both .typeAttributeRun
  | .typeArgs => both .typeArgs
  | .typeArgTail => both .typeArgTail
  | .typeArg => [.numberArg, .stringArg]
  | .typeAttribute => [.typeAttribute .unsigned, .typeAttribute .signed, .typeAttribute .zerofill]
  | .columnOption =>
    [.notNull, .nullable, .defaultOption, .autoIncrement, .primaryKey true, .uniqueKey true,
      .comment, .onUpdate, .collate, .characterSet]
  | .defaultValue => [.defaultLiteral, .defaultSigned true, .defaultCall, .defaultParen]
  | .constraint => .bareConstraint :: both .namedConstraint
  | .constraintBody =>
    .primaryConstraint :: both (.uniqueConstraint (some .key)) ++ both (.indexConstraint .index) ++
      both .foreignConstraint
  | .keyParts => both .keyParts
  | .keyPartTail => both .keyPartTail
  | .keyPart =>
    [none, some .desc].flatMap fun direction => [.keyPart direction, .measuredPart direction]
  | .referenceDef => both .referenceDef
  | .referenceActionRun => both .referenceActionRun
  | .referenceAction => [.deleteAction, .updateAction]
  | .referenceOption => [.cascade, .restrict, .setNull, .noAction, .setDefault]
  | .tableOption =>
    [.engineOption true, .charsetOption true true, .collateOption false true, .commentOption true,
      .autoIncrementOption true]
  | .dropTable => either fun temporary => either fun guarded => both (.dropTable temporary guarded)
  | .tableNameTail => both .tableNameTail
  | .truncateTable => [.truncateTable true]
  | .createIndex => both .createIndex
  | .dropIndex => [.dropIndex]
  | .createDatabase => both (.createDatabase false)
  | .dropDatabase => both (.dropDatabase false)
  | _ => []

def scripts : Nonterminal → List ScriptRule
  | .scriptItems => [.scriptItems false true, .scriptItems true true]
  | .statement =>
    [StatementForm.query, .insert, .update, .delete, .createTable, .dropTable, .truncateTable,
      .createIndex, .dropIndex, .createDatabase, .dropDatabase, .useDatabase, .begin, .commit,
      .rollback, .explain].map .statement
  | .useStatement => [.useDatabase]
  | .beginStatement => [.startTransaction]
  | .commitStatement => [.commit false]
  | .rollbackStatement => [.rollback false]
  | .explainStatement => [.explain]
  | .explainable => [.explainQuery, .explainInsert, .explainUpdate, .explainDelete]
  | _ => []

def alternatives (n : Nonterminal) : List Production :=
  (expressions n).map .expr ++ (queries n).map .query ++ (changes n).map .manipulation ++
    (definitions n).map .definition ++ (scripts n).map .script

def covers (p : Production) : Bool :=
  match p with
  | .expr r => (expressions r.lhs).contains r
  | .query r => (queries r.lhs).contains r
  | .manipulation r => (changes r.lhs).contains r
  | .definition r => (definitions r.lhs).contains r
  | .script r => (scripts r.lhs).contains r

end StatementFragment

def statementFragment : Fragment where
  covers := StatementFragment.covers
  scope := StatementFragment.scope
  closing := StatementFragment.closing
  first := StatementFragment.first
  nullable := StatementFragment.nullable
  follow := StatementFragment.follow
  ends := StatementFragment.ends
  weight := StatementFragment.weight
  credit := StatementFragment.credit

namespace StatementFragment

theorem mem_alternatives {p : Production} (covered : covers p = true) : p ∈ alternatives p.lhs := by
  simp only [alternatives, List.mem_append]
  cases p with
  | expr r =>
    exact .inl (.inl (.inl (.inl (List.mem_map_of_mem (List.contains_iff_mem.mp covered)))))
  | query r =>
    exact .inl (.inl (.inl (.inr (List.mem_map_of_mem (List.contains_iff_mem.mp covered)))))
  | manipulation r =>
    exact .inl (.inl (.inr (List.mem_map_of_mem (List.contains_iff_mem.mp covered))))
  | definition r => exact .inl (.inr (List.mem_map_of_mem (List.contains_iff_mem.mp covered)))
  | script r => exact .inr (List.mem_map_of_mem (List.contains_iff_mem.mp covered))

theorem weight_lt (s : Symbol) : weight s < 48 := by
  cases s with
  | terminal t => exact (by decide : 40 < 48)
  | nonterminal n => cases n <;> decide

theorem credit_lt (q : Nat) : credit q < 16 := by
  unfold credit
  repeat' split
  all_goals decide

theorem sound_alternatives (n : Nonterminal) :
    (alternatives n).all statementFragment.sound = true := by
  cases n <;> decide +kernel

end StatementFragment

/-- The production is in the fragment, and anything may come behind it. -/
def StatementFragment.free (p : Production) : Bool :=
  statementFragment.covers p && statementFragment.ends p == .full

theorem statementFragment_fits : statementFragment.Fits statementAutomaton := by
  have rows : statementAutomaton.all
      (statementFragment.readFrom statementAutomaton StatementFragment.alternatives) = true := by
    decide +kernel
  exact Fragment.fits_of_check (fun _ covered => StatementFragment.mem_alternatives covered)
    StatementFragment.weight_lt StatementFragment.credit_lt rfl
      StatementFragment.sound_alternatives rows

end Grammar

end SqlSyntax
