import SqlSyntax.Grammar.Symbol
import SqlSyntax.Number.Numeral

/-! Productions for expressions, one level of precedence to a nonterminal, and the trees they
build. -/

namespace SqlSyntax.Grammar

inductive ProductOperator where
  | star | slash | percent | div | mod
deriving DecidableEq, Repr

def ProductOperator.terminal : ProductOperator → Terminal
  | .star => .star
  | .slash => .slash
  | .percent => .percent
  | .div => .kwDiv
  | .mod => .kwMod

inductive SignOperator where
  | minus | plus | bang | tilde
deriving DecidableEq, Repr

def SignOperator.terminal : SignOperator → Terminal
  | .minus => .minus
  | .plus => .plus
  | .bang => .bang
  | .tilde => .tilde

/-- Keywords that also name functions. -/
inductive FunctionWord where
  | left | right | if_ | insert | replace | mod | database | schema | values
deriving DecidableEq, Repr

def FunctionWord.terminal : FunctionWord → Terminal
  | .left => .kwLeft
  | .right => .kwRight
  | .if_ => .kwIf
  | .insert => .kwInsert
  | .replace => .kwReplace
  | .mod => .kwMod
  | .database => .kwDatabase
  | .schema => .kwSchema
  | .values => .kwValues

inductive ExprRule where
  | logicOr | orOperand | logicXor | xorOperand | logicAnd | andOperand | logicNot | notOperand
  | isNull (negated : Bool) | isTruth (negated truth : Bool) | compare | boolOperand
  | equals | comparison
  | inList (negated : Bool) | inSubquery (negated : Bool) | between (negated : Bool)
  | like (negated escaped : Bool) | regexp (negated : Bool) | predicateOperand
  | bitOr | bitOrOperand | bitAnd | bitAndOperand | shift | shiftOperand
  | sum (minus : Bool) | sumOperand | product (op : ProductOperator) | productOperand
  | bitXor | bitXorOperand | sign (op : SignOperator) | unaryOperand
  | simpleLiteral | simpleColumn | simpleCall | paren | row | simpleSubquery | existsQuery
  | simpleCase | marker | variableRef
  | number | hexNumber | bitNumber | string | null | boolean (truth : Bool)
  | column | tableColumn | schemaColumn
  | call (distinct args : Bool) | keywordCall (distinct args : Bool)
  | functionWord (word : FunctionWord) | starArgument | arguments
  | caseOf (operand otherwise : Bool) | whenRun (more : Bool) | whenClause
  | exprList (more : Bool) | exprTail (more : Bool)
  | identList (more : Bool) | identTail (more : Bool) | plainIdent | quotedIdent
  | identAlone | stringIdent
deriving DecidableEq, Repr

namespace ExprRule

open SqlSyntax.Grammar.Symbol (terminal nonterminal)

def lhs : ExprRule → Nonterminal
  | logicOr | orOperand => .expr
  | logicXor | xorOperand => .xorExpr
  | logicAnd | andOperand => .andExpr
  | logicNot | notOperand => .notExpr
  | isNull _ | isTruth _ _ | compare | boolOperand => .boolPrimary
  | equals | comparison => .comparator
  | inList _ | inSubquery _ | between _ | like _ _ | regexp _ | predicateOperand => .predicate
  | bitOr | bitOrOperand => .bitOrExpr
  | bitAnd | bitAndOperand => .bitAndExpr
  | shift | shiftOperand => .shiftExpr
  | sum _ | sumOperand => .sumExpr
  | product _ | productOperand => .productExpr
  | bitXor | bitXorOperand => .bitXorExpr
  | sign _ | unaryOperand => .unaryExpr
  | simpleLiteral | simpleColumn | simpleCall | paren | row | simpleSubquery | existsQuery
  | simpleCase | marker | variableRef => .simpleExpr
  | number | hexNumber | bitNumber | string | null | boolean _ => .literal
  | column | tableColumn | schemaColumn => .columnRef
  | call _ _ | keywordCall _ _ => .funcCall
  | functionWord _ => .funcKeyword
  | starArgument | arguments => .funcArgs
  | caseOf _ _ => .caseExpr
  | whenRun _ => .whenRun
  | whenClause => .whenClause
  | exprList _ => .exprList
  | exprTail _ => .exprTail
  | identList _ => .identList
  | identTail _ => .identTail
  | plainIdent | quotedIdent => .ident
  | identAlone | stringIdent => .identOrString

def rhs : ExprRule → List Symbol
  | logicOr => [nonterminal .expr, terminal .kwOr, nonterminal .xorExpr]
  | orOperand => [nonterminal .xorExpr]
  | logicXor => [nonterminal .xorExpr, terminal .kwXor, nonterminal .andExpr]
  | xorOperand => [nonterminal .andExpr]
  | logicAnd => [nonterminal .andExpr, terminal .kwAnd, nonterminal .notExpr]
  | andOperand => [nonterminal .notExpr]
  | logicNot => [terminal .kwNot, nonterminal .notExpr]
  | notOperand => [nonterminal .boolPrimary]
  | isNull negated =>
    nonterminal .boolPrimary :: terminal .kwIs ::
      optional negated (terminal .kwNot) [terminal .kwNull]
  | isTruth negated truth =>
    nonterminal .boolPrimary :: terminal .kwIs ::
      optional negated (terminal .kwNot) [terminal (if truth then .kwTrue else .kwFalse)]
  | compare => [nonterminal .boolPrimary, nonterminal .comparator, nonterminal .predicate]
  | boolOperand => [nonterminal .predicate]
  | equals => [terminal .equals]
  | comparison => [terminal .comparison]
  | inList negated =>
    nonterminal .bitOrExpr :: optional negated (terminal .kwNot)
      [terminal .kwIn, terminal .leftParen, nonterminal .exprList, terminal .rightParen]
  | inSubquery negated =>
    nonterminal .bitOrExpr :: optional negated (terminal .kwNot)
      [terminal .kwIn, nonterminal .subquery]
  | between negated =>
    nonterminal .bitOrExpr :: optional negated (terminal .kwNot)
      [terminal .kwBetween, nonterminal .bitOrExpr, terminal .kwAnd, nonterminal .predicate]
  | like negated escaped =>
    nonterminal .bitOrExpr :: optional negated (terminal .kwNot)
      (terminal .kwLike :: nonterminal .bitOrExpr ::
        optional escaped (terminal .kwEscape) (optional escaped (terminal .string) []))
  | regexp negated =>
    nonterminal .bitOrExpr :: optional negated (terminal .kwNot)
      [terminal .kwRegexp, nonterminal .bitOrExpr]
  | predicateOperand => [nonterminal .bitOrExpr]
  | bitOr => [nonterminal .bitOrExpr, terminal .pipe, nonterminal .bitAndExpr]
  | bitOrOperand => [nonterminal .bitAndExpr]
  | bitAnd => [nonterminal .bitAndExpr, terminal .ampersand, nonterminal .shiftExpr]
  | bitAndOperand => [nonterminal .shiftExpr]
  | shift => [nonterminal .shiftExpr, terminal .shift, nonterminal .sumExpr]
  | shiftOperand => [nonterminal .sumExpr]
  | sum minus =>
    [nonterminal .sumExpr, terminal (if minus then .minus else .plus), nonterminal .productExpr]
  | sumOperand => [nonterminal .productExpr]
  | product op => [nonterminal .productExpr, terminal op.terminal, nonterminal .bitXorExpr]
  | productOperand => [nonterminal .bitXorExpr]
  | bitXor => [nonterminal .bitXorExpr, terminal .caret, nonterminal .unaryExpr]
  | bitXorOperand => [nonterminal .unaryExpr]
  | sign op => [terminal op.terminal, nonterminal .unaryExpr]
  | unaryOperand => [nonterminal .simpleExpr]
  | simpleLiteral => [nonterminal .literal]
  | simpleColumn => [nonterminal .columnRef]
  | simpleCall => [nonterminal .funcCall]
  | paren => [terminal .leftParen, nonterminal .expr, terminal .rightParen]
  | row =>
    [terminal .leftParen, nonterminal .expr, terminal .comma, nonterminal .exprList,
      terminal .rightParen]
  | simpleSubquery => [nonterminal .subquery]
  | existsQuery => [terminal .kwExists, nonterminal .subquery]
  | simpleCase => [nonterminal .caseExpr]
  | marker => [terminal .question]
  | variableRef => [terminal .variableName]
  | number => [terminal .number]
  | hexNumber => [terminal .hexNumber]
  | bitNumber => [terminal .bitNumber]
  | string => [terminal .string]
  | null => [terminal .kwNull]
  | boolean truth => [terminal (if truth then .kwTrue else .kwFalse)]
  | column => [nonterminal .ident]
  | tableColumn => [nonterminal .ident, terminal .dot, nonterminal .ident]
  | schemaColumn =>
    [nonterminal .ident, terminal .dot, nonterminal .ident, terminal .dot, nonterminal .ident]
  | call distinct args =>
    nonterminal .ident :: terminal .leftParen :: optional distinct (terminal .kwDistinct)
      (optional args (nonterminal .funcArgs) [terminal .rightParen])
  | keywordCall distinct args =>
    nonterminal .funcKeyword :: terminal .leftParen :: optional distinct (terminal .kwDistinct)
      (optional args (nonterminal .funcArgs) [terminal .rightParen])
  | functionWord word => [terminal word.terminal]
  | starArgument => [terminal .star]
  | arguments => [nonterminal .exprList]
  | caseOf operand otherwise =>
    terminal .kwCase :: optional operand (nonterminal .expr) (nonterminal .whenRun ::
      optional otherwise (terminal .kwElse) (optional otherwise (nonterminal .expr)
        [terminal .kwEnd]))
  | whenRun more => optional more (nonterminal .whenRun) [nonterminal .whenClause]
  | whenClause =>
    [terminal .kwWhen, nonterminal .expr, terminal .kwThen, nonterminal .expr]
  | exprList more => nonterminal .expr :: optional more (nonterminal .exprTail) []
  | exprTail more =>
    optional more (nonterminal .exprTail) [terminal .comma, nonterminal .expr]
  | identList more => nonterminal .ident :: optional more (nonterminal .identTail) []
  | identTail more =>
    optional more (nonterminal .identTail) [terminal .comma, nonterminal .ident]
  | plainIdent => [terminal .name]
  | quotedIdent => [terminal .quotedName]
  | identAlone => [nonterminal .ident]
  | stringIdent => [terminal .string]

end ExprRule

/-! ### Trees -/

def binaryNode (op : String) (left right : Node) : Node :=
  .binaryOp op (.node left) (.node right)

def literalNode (v : Literal) : Node :=
  .value (.plain v)

def columnNode (p : ColumnPath) : Node :=
  .columnRef (.node p.toNode)

/-- With an exponent a numeral is a double, which must be finite; with a point only, a decimal;
without either an integer, or a decimal when it is too long for one. -/
def numberNode (t : Token) : Except BuildError Node :=
  let cs := t.text.toList
  if cs.any Numeral.isExponentMark then
    let x := Numeral.toBinary64 cs
    if x.isInfinite then .error (.numberOutOfRange t) else .ok (literalNode (.float x))
  else if cs.contains '.' ∨ Numeral.digitLimit < cs.length then
    .ok (literalNode (.decimal (Numeral.toDecimal cs)))
  else .ok (literalNode (.integer (Numeral.value cs)))

/-- The digits of a hexadecimal or bit literal in either spelling. -/
def basedDigits (t : Token) : String :=
  match t.text.toList with
  | '0' :: _ :: digits => String.ofList digits
  | cs => String.ofList (Text.inner (cs.drop 1))

def variableNode (t : Token) : Node :=
  match t.text.toList with
  | '@' :: '@' :: name => .variableRef (String.ofList name) true
  | cs => .variableRef (String.ofList (cs.drop 1)) false

def aggregateFunctions : List String := [
  "AVG", "BIT_AND", "BIT_OR", "BIT_XOR", "COUNT", "GROUP_CONCAT", "JSON_ARRAYAGG",
  "JSON_OBJECTAGG", "MAX", "MIN", "STD", "STDDEV", "STDDEV_POP", "STDDEV_SAMP", "SUM", "VAR_POP",
  "VAR_SAMP", "VARIANCE"]

/-- Only aggregates take a star or `DISTINCT`. -/
def callNode (name : Token) (distinct : Bool) (args : Option CallArguments) :
    Except BuildError Node :=
  let function := Text.toUpper name.name
  let star := match args with
    | some .star => true
    | _ => false
  let list := match args with
    | some (.list xs) => xs.map Slot.node
    | _ => []
  if aggregateFunctions.contains function then .ok (.aggregate function list distinct star)
  else if distinct || star then .error (.notAggregate name)
  else .ok (.funcCall function list)

namespace ExprRule

/-- The value of a production from the values of its symbols; `markers` parameter markers stand
before it in the text. -/
def build (markers : Nat) : (r : ExprRule) → Values r.rhs → Except BuildError r.lhs.Value
  | logicOr, (l, _, r, _) => .ok (binaryNode "OR" l r)
  | orOperand, (x, _) => .ok x
  | logicXor, (l, _, r, _) => .ok (binaryNode "XOR" l r)
  | xorOperand, (x, _) => .ok x
  | logicAnd, (l, _, r, _) => .ok (binaryNode "AND" l r)
  | andOperand, (x, _) => .ok x
  | logicNot, (_, x, _) => .ok (.unaryOp "NOT" (.node x))
  | notOperand, (x, _) => .ok x
  | isNull negated, (x, _, _) => .ok (.isNull (.node x) negated)
  | isTruth negated truth, (x, _, _) => .ok (.isTruth (.node x) negated truth)
  | compare, (l, op, r, _) => .ok (binaryNode (Token.text op) l r)
  | boolOperand, (x, _) => .ok x
  | equals, (t, _) => .ok t
  | comparison, (t, _) => .ok t
  | inList negated, (x, vs) =>
    let (_, _, _, items, _) := Values.split negated vs
    .ok (.inSet (.node x) (List.map Slot.node items) negated .empty)
  | inSubquery negated, (x, vs) =>
    let (_, _, query, _) := Values.split negated vs
    .ok (.inSet (.node x) [] negated (.node query))
  | between negated, (x, vs) =>
    let (_, _, low, _, high, _) := Values.split negated vs
    .ok (.between (.node x) (.node low) (.node high) negated)
  | like negated escaped, (x, vs) =>
    let (_, _, pattern, vs) := Values.split negated vs
    let (_, vs) := Values.split escaped vs
    let (escape, _) := Values.split escaped vs
    .ok (.like (.node x) (.node pattern) negated
      (Option.map (fun t => Text.unquoteString (Token.text t)) escape))
  | regexp negated, (x, vs) =>
    let (_, _, pattern, _) := Values.split negated vs
    .ok (.regexp (.node x) (.node pattern) negated)
  | predicateOperand, (x, _) => .ok x
  | bitOr, (l, op, r, _) => .ok (binaryNode (Text.toUpper (Token.text op)) l r)
  | bitOrOperand, (x, _) => .ok x
  | bitAnd, (l, op, r, _) => .ok (binaryNode (Text.toUpper (Token.text op)) l r)
  | bitAndOperand, (x, _) => .ok x
  | shift, (l, op, r, _) => .ok (binaryNode (Text.toUpper (Token.text op)) l r)
  | shiftOperand, (x, _) => .ok x
  | sum _, (l, op, r, _) => .ok (binaryNode (Text.toUpper (Token.text op)) l r)
  | sumOperand, (x, _) => .ok x
  | product _, (l, op, r, _) => .ok (binaryNode (Text.toUpper (Token.text op)) l r)
  | productOperand, (x, _) => .ok x
  | bitXor, (l, op, r, _) => .ok (binaryNode (Text.toUpper (Token.text op)) l r)
  | bitXorOperand, (x, _) => .ok x
  | sign _, (op, x, _) => .ok (.unaryOp (Token.text op) (.node x))
  | unaryOperand, (x, _) => .ok x
  | simpleLiteral, (x, _) => .ok x
  | simpleColumn, (c, _) => .ok (columnNode c)
  | simpleCall, (x, _) => .ok x
  | paren, (_, x, _) => .ok (.paren (.node x))
  | row, (_, x, _, xs, _) => .ok (.row (.node x :: List.map Slot.node xs))
  | simpleSubquery, (x, _) => .ok x
  | existsQuery, (_, q, _) => .ok (.existsQuery (.node q))
  | simpleCase, (x, _) => .ok x
  | marker, _ => .ok (.paramMarker markers)
  | variableRef, (t, _) => .ok (variableNode t)
  | number, (t, _) => numberNode t
  | hexNumber, (t, _) =>
    .ok (literalNode (.binary (Text.toUpper (basedDigits t)) .hexadecimal))
  | bitNumber, (t, _) => .ok (literalNode (.binary (basedDigits t) .bit))
  | string, (t, _) => .ok (literalNode (.text (Text.unquoteString (Token.text t))))
  | null, _ => .ok (literalNode .null)
  | boolean truth, _ => .ok (literalNode (.boolean truth))
  | column, (c, _) => .ok ⟨"", "", Token.name c⟩
  | tableColumn, (t, _, c, _) => .ok ⟨"", Token.name t, Token.name c⟩
  | schemaColumn, (s, _, t, _, c, _) => .ok ⟨Token.name s, Token.name t, Token.name c⟩
  | call distinct args, (name, _, vs) =>
    let (_, vs) := Values.split distinct vs
    let (list, _) := Values.split args vs
    callNode name distinct list
  | keywordCall distinct args, (name, _, vs) =>
    let (_, vs) := Values.split distinct vs
    let (list, _) := Values.split args vs
    callNode name distinct list
  | functionWord _, (t, _) => .ok t
  | starArgument, _ => .ok .star
  | arguments, (xs, _) => .ok (.list xs)
  | caseOf operand otherwise, (_, vs) =>
    let (x, whens, vs) := Values.split operand vs
    let (_, vs) := Values.split otherwise vs
    let (e, _) := Values.split otherwise vs
    .ok (.caseOf (Slot.ofOption x) (List.map Slot.node whens) (Slot.ofOption e))
  | whenRun more, vs =>
    let (earlier, clause, _) := Values.split more vs
    .ok (grown earlier clause)
  | whenClause, (_, x, _, r, _) => .ok (.whenClause (.node x) (.node r))
  | exprList more, (x, vs) =>
    let (rest, _) := Values.split more vs
    .ok (x :: Option.getD rest [])
  | exprTail more, vs =>
    let (earlier, _, x, _) := Values.split more vs
    .ok (grown earlier x)
  | identList more, (t, vs) =>
    let (rest, _) := Values.split more vs
    .ok (Token.name t :: Option.getD rest [])
  | identTail more, vs =>
    let (earlier, _, t, _) := Values.split more vs
    .ok (grown earlier (Token.name t))
  | plainIdent, (t, _) => .ok t
  | quotedIdent, (t, _) => .ok t
  | identAlone, (t, _) => .ok t
  | stringIdent, (t, _) => .ok t

end ExprRule

end SqlSyntax.Grammar
