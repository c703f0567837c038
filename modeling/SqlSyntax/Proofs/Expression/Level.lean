import SqlSyntax.Grammar.Expression

/-!
# Expressions by level of precedence

Which trees are expressions of a level: each operand is of the level that its operator asks for, no
query occurs, and literals, columns, variables and function names can be written down.

A function name is written bare, and before it is read as a name, keywords are looked for. A keyword
ends before a dollar sign, though a name goes on with it, so a name such as `NOT$X` is hidden by its
first part wherever `NOT` is looked for. Which keywords are looked for depends on the place.
-/

namespace SqlSyntax

/-! ### Levels -/

/-- The levels of precedence, the loosest first. -/
inductive Level where
  | disjunction | exclusive | conjunction | negation | comparison | predicate | bitOr | bitAnd
  | shift | sum | product | bitXor | unary | simple
deriving DecidableEq, Repr

namespace Level

/-- The next tighter level, from which an operator takes its right operand. -/
def tighter? : Level → Option Level
  | disjunction => some exclusive
  | exclusive => some conjunction
  | conjunction => some negation
  | negation => some comparison
  | comparison => some predicate
  | predicate => some bitOr
  | bitOr => some bitAnd
  | bitAnd => some shift
  | shift => some sum
  | sum => some product
  | product => some bitXor
  | bitXor => some unary
  | unary => some simple
  | simple => none

/-- The operators that stand between two operands. -/
def operators : Level → List String
  | disjunction => ["OR"]
  | exclusive => ["XOR"]
  | conjunction => ["AND"]
  | comparison => ["=", "<=>", "<>", "!=", "<=", ">=", "<", ">"]
  | bitOr => ["|"]
  | bitAnd => ["&"]
  | shift => ["<<", ">>"]
  | sum => ["+", "-"]
  | product => ["*", "/", "%", "DIV", "MOD"]
  | bitXor => ["^"]
  | _ => []

/-- The operators that stand before their operand. -/
def signs : Level → List String
  | negation => ["NOT"]
  | unary => ["-", "+", "!", "~"]
  | _ => []

end Level

/-! ### Leaves -/

/-- Literals with a canonical spelling of their own kind. -/
def Literal.IsWritten : Literal → Prop
  | .null | .boolean _ | .text _ => True
  | .integer n => 0 ≤ n ∧ (toString n).length ≤ Numeral.digitLimit
  | .binary digits .hexadecimal =>
    ∀ c ∈ digits.toList, Lexeme.isHexDigit c = true ∧ c.isLower = false
  | .binary digits .bit => ∀ c ∈ digits.toList, Lexeme.isBitDigit c = true
  | .decimal _ | .float _ => False

/-- What a variable is called behind its at signs. -/
def IsVariableName (name : String) : Prop :=
  ∃ c rest, name.toList = c :: rest ∧ Lexeme.isNameStart c = true ∧
    ∀ d ∈ rest, Lexeme.isNameChar d = true ∨ d = '.'

/-- The keywords that also name functions. -/
def functionWords : List String :=
  ["LEFT", "RIGHT", "IF", "INSERT", "REPLACE", "MOD", "DATABASE", "SCHEMA", "VALUES"]

/-- An upper-case name, or a keyword that names a function. -/
def IsFunctionName (name : String) : Prop :=
  Text.toUpper name = name ∧
    (Lexeme.nameLength? name.toList = some name.toList.length ∨ name ∈ functionWords)

/-! ### Trees -/

open Grammar (binaryNode literalNode)

/-- The branch of a case distinction. -/
def branchNode (b : Node × Node) : Node :=
  .whenClause (.node b.1) (.node b.2)

inductive Expression : Level → Node → Prop
  | operand {level next : Level} {x : Node} (below : level.tighter? = some next)
      (operand : Expression next x) : Expression level x
  | infixed {level next : Level} {op : String} {x y : Node} (listed : op ∈ level.operators)
      (below : level.tighter? = some next) (left : Expression level x) (right : Expression next y) :
      Expression level (binaryNode op x y)
  | signed {level : Level} {op : String} {x : Node} (listed : op ∈ level.signs)
      (operand : Expression level x) : Expression level (.unaryOp op (.node x))
  | isNull {x : Node} (operand : Expression .comparison x) (negated : Bool) :
      Expression .comparison (.isNull (.node x) negated)
  | isTruth {x : Node} (operand : Expression .comparison x) (negated truth : Bool) :
      Expression .comparison (.isTruth (.node x) negated truth)
  | inList {x : Node} {items : List Node} (operand : Expression .bitOr x) (occupied : items ≠ [])
      (each : ∀ y ∈ items, Expression .disjunction y) (negated : Bool) :
      Expression .predicate (.inSet (.node x) (items.map .node) negated .empty)
  | between {x low high : Node} (operand : Expression .bitOr x) (lower : Expression .bitOr low)
      (upper : Expression .predicate high) (negated : Bool) :
      Expression .predicate (.between (.node x) (.node low) (.node high) negated)
  | like {x pattern : Node} (operand : Expression .bitOr x) (like : Expression .bitOr pattern)
      (negated : Bool) (escape : Option String) :
      Expression .predicate (.like (.node x) (.node pattern) negated escape)
  | regexp {x pattern : Node} (operand : Expression .bitOr x) (like : Expression .bitOr pattern)
      (negated : Bool) : Expression .predicate (.regexp (.node x) (.node pattern) negated)
  | literal {v : Literal} (written : v.IsWritten) : Expression .simple (literalNode v)
  | marker (order : Int) : Expression .simple (.paramMarker order)
  | variableRef {name : String} (named : IsVariableName name) (isSystem : Bool) :
      Expression .simple (.variableRef name isSystem)
  | column {schema table name : String} (named : name ≠ "") (qualified : schema ≠ "" → table ≠ "") :
      Expression .simple (.columnRef (.node (.columnName schema table name)))
  | paren {x : Node} (operand : Expression .disjunction x) : Expression .simple (.paren (.node x))
  | row {items : List Node} (several : 2 ≤ items.length)
      (each : ∀ y ∈ items, Expression .disjunction y) : Expression .simple (.row (items.map .node))
  | caseOf {value : Option Node} {branches : List (Node × Node)} {otherwise : Option Node}
      (occupied : branches ≠ []) (compared : ∀ x ∈ value, Expression .disjunction x)
      (conditions : ∀ b ∈ branches, Expression .disjunction b.1)
      (results : ∀ b ∈ branches, Expression .disjunction b.2)
      (last : ∀ x ∈ otherwise, Expression .disjunction x) :
      Expression .simple (.caseOf (.ofOption value) (branches.map fun b => .node (branchNode b))
        (.ofOption otherwise))
  | call {name : String} {args : List Node} (named : IsFunctionName name)
      (plain : name ∉ Grammar.aggregateFunctions) (each : ∀ y ∈ args, Expression .disjunction y) :
      Expression .simple (.funcCall name (args.map .node))
  | aggregate {name : String} {args : List Node} {star : Bool}
      (listed : name ∈ Grammar.aggregateFunctions) (each : ∀ y ∈ args, Expression .disjunction y)
      (alone : star = true → args = []) (distinct : Bool) :
      Expression .simple (.aggregate name (args.map .node) distinct star)

theorem Expression.bitOr_of_simple {x : Node} (simple : Expression .simple x) :
    Expression .bitOr x :=
  .operand rfl (.operand rfl (.operand rfl (.operand rfl (.operand rfl (.operand rfl
    (.operand rfl simple))))))

theorem Expression.negation_of_predicate {x : Node} (predicate : Expression .predicate x) :
    Expression .negation x :=
  .operand rfl (.operand rfl predicate)

theorem Expression.disjunction_of_simple {x : Node} (simple : Expression .simple x) :
    Expression .disjunction x :=
  .operand rfl (.operand rfl (.operand rfl
    (.negation_of_predicate (.operand rfl simple.bitOr_of_simple))))

/-! ### Places -/

/-- Where an operand stands. Which keywords are looked for there depends on what comes before it. -/
inductive Place where
  /-- Behind an operator that binds tighter than `NOT`. -/
  | operand
  /-- Where a condition may stand. -/
  | condition
  /-- Behind a parenthesis, where a query could start. -/
  | group
  /-- Behind the parenthesis of a call. -/
  | call
  /-- Behind `CASE`, where the first branch could start. -/
  | branch
  /-- Behind `SELECT`. -/
  | field
  /-- Where a value is stored, which can be the default. -/
  | value
  /-- Behind `DEFAULT` in the definition of a column. -/
  | setting
deriving DecidableEq, Repr

namespace Place

/-- The keywords that start a literal or a call. -/
def settingWords : List Terminal := [
  .kwNull, .kwTrue, .kwFalse, .kwLeft, .kwRight, .kwIf, .kwInsert, .kwReplace, .kwMod, .kwDatabase,
  .kwSchema, .kwValues]

/-- The keywords that start an operand. -/
def operandWords : List Terminal :=
  .kwExists :: .kwCase :: settingWords

/-- The keywords that are looked for. -/
def words : Place → List Terminal
  | operand => operandWords
  | condition => .kwNot :: operandWords
  | group => .kwSelect :: .kwNot :: operandWords
  | call => .kwDistinct :: .kwNot :: operandWords
  | branch => .kwWhen :: .kwNot :: operandWords
  | field => .kwAll :: .kwDistinct :: .kwNot :: operandWords
  | value => .kwDefault :: .kwNot :: operandWords
  | setting => settingWords

/-- A keyword that is looked for is found in front of the rest of the name. -/
def hides (place : Place) (name : String) : Bool :=
  place.words.any fun t => (t.lexemeLength? name.toList).any (· < name.toList.length)

/-- The place behind an operator. -/
def behind (op : String) : Place :=
  if op = "OR" ∨ op = "XOR" ∨ op = "AND" ∨ op = "NOT" then .condition else .operand

end Place

mutual

/-- No keyword hides a function name of the tree, which stands at the place. -/
def Node.unhidden (place : Place) : Node → Bool
  | .binaryOp op left right => left.unhidden place && right.unhidden (.behind op)
  | .unaryOp op operand => operand.unhidden (.behind op)
  | .isNull expr _ => expr.unhidden place
  | .isTruth expr _ _ => expr.unhidden place
  | .inSet expr items _ _ => expr.unhidden place && Slot.unhiddenEach .group items
  | .like expr pattern _ _ => expr.unhidden place && pattern.unhidden .operand
  | .regexp expr pattern _ => expr.unhidden place && pattern.unhidden .operand
  | .between expr low high _ =>
    expr.unhidden place && low.unhidden .operand && high.unhidden .operand
  | .paren expr => expr.unhidden .group
  | .row values => Slot.unhiddenEach .group values
  | .whenClause expr result => expr.unhidden .condition && result.unhidden .condition
  | .caseOf value whens otherwise =>
    value.unhidden .branch && Slot.unhiddenEach .condition whens && otherwise.unhidden .condition
  | .funcCall name args => !place.hides name && Slot.unhiddenEach .call args
  | .aggregate name args distinct _ =>
    !place.hides name && Slot.unhiddenEach (if distinct then .condition else .call) args
  | _ => true

def Slot.unhidden (place : Place) : Slot → Bool
  | .node n => n.unhidden place
  | _ => true

/-- The first item stands at the place, the others behind commas. -/
def Slot.unhiddenEach (place : Place) : List Slot → Bool
  | [] => true
  | s :: rest => s.unhidden place && Slot.unhiddenEach .condition rest

end

end SqlSyntax
