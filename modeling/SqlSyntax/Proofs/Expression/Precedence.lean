import SqlSyntax.Proofs.Expression.Level
import SqlSyntax.Proofs.Lexical.Recased

/-!
# Levels of nodes

Every node that is an expression has a level: that of its operator, or the tightest for what is
closed in itself. An operator respects the levels if its operands do not bind looser than it asks
for, and the right one of two binds tighter. Levels are read off the node as it stands in the tree.
A keyword among the operators counts as the letters it is taken for, since a dotted capital is kept
as it was written.
-/

namespace SqlSyntax

namespace Level

/-- The place in the order, the loosest first. -/
def rank (level : Level) : Nat := level.ctorIdx

instance : LE Level := ⟨fun a b => a.rank ≤ b.rank⟩

instance : LT Level := ⟨fun a b => a.rank < b.rank⟩

instance (a b : Level) : Decidable (a ≤ b) := inferInstanceAs (Decidable (a.rank ≤ b.rank))

instance (a b : Level) : Decidable (a < b) := inferInstanceAs (Decidable (a.rank < b.rank))

theorem le_refl (a : Level) : a ≤ a := Nat.le_refl a.rank

theorem le_trans {a b c : Level} (first : a ≤ b) (second : b ≤ c) : a ≤ c :=
  Nat.le_trans first second

theorem lt_of_lt_of_le {a b c : Level} (first : a < b) (second : b ≤ c) : a < c :=
  Nat.lt_of_lt_of_le first second

def all : List Level :=
  [disjunction, exclusive, conjunction, negation, comparison, predicate, bitOr, bitAnd, shift, sum,
    product, bitXor, unary, simple]

/-- An operator in the letters that it is taken for, in upper case. -/
def canonical (op : String) : String :=
  String.ofList (op.toList.map fun c => (Lexeme.foldLetter c).toUpper)

/-- The level of an operator between two operands. -/
def ofOperator? (op : String) : Option Level :=
  all.find? fun level => level.operators.contains (canonical op)

/-- The level of an operator before its operand. -/
def ofSign? (op : String) : Option Level :=
  all.find? fun level => level.signs.contains (canonical op)

end Level

/-! ### Nodes -/

/-- The level of a node that is an expression. -/
def Node.level? : Node → Option Level
  | .binaryOp op _ _ => Level.ofOperator? op
  | .unaryOp op _ => Level.ofSign? op
  | .isNull _ _ | .isTruth _ _ _ => some .comparison
  | .inSet _ _ _ _ | .between _ _ _ _ | .like _ _ _ _ | .regexp _ _ _ => some .predicate
  | .value _ | .columnRef _ | .funcCall _ _ | .aggregate _ _ _ _ | .paren _ | .row _ | .subquery _
  | .existsQuery _ | .caseOf _ _ _ | .paramMarker _ | .variableRef _ _ => some .simple
  | _ => none

/-- The node is an expression of the level or of a tighter one. -/
def Node.AtLeast (level : Level) (n : Node) : Prop :=
  ∃ own, n.level? = some own ∧ level ≤ own

namespace Slot

/-- The operand binds at least as tight as the level. -/
def AtLeast (level : Level) : Slot → Prop
  | .node n => n.AtLeast level
  | _ => False

/-- The operand binds tighter than the level. -/
def Above (level : Level) : Slot → Prop
  | .node n => ∃ own, n.level? = some own ∧ level < own
  | _ => False

end Slot

/-- The operands of the node bind as tight as its operator asks for. -/
def Node.RespectsLevels : Node → Prop
  | .binaryOp op left right =>
    ∃ level, Level.ofOperator? op = some level ∧ left.AtLeast level ∧ right.Above level
  | .unaryOp op operand => ∃ level, Level.ofSign? op = some level ∧ operand.AtLeast level
  | .isNull x _ => x.AtLeast .comparison
  | .isTruth x _ _ => x.AtLeast .comparison
  | .inSet x _ _ _ => x.AtLeast .bitOr
  | .like x pattern _ _ => x.AtLeast .bitOr ∧ pattern.AtLeast .bitOr
  | .regexp x pattern _ => x.AtLeast .bitOr ∧ pattern.AtLeast .bitOr
  | .between x low high _ => x.AtLeast .bitOr ∧ low.AtLeast .bitOr ∧ high.AtLeast .predicate
  | _ => True

theorem Node.AtLeast.mono {level looser : Level} {n : Node} (bound : n.AtLeast level)
    (le : looser ≤ level) : n.AtLeast looser := by
  obtain ⟨own, found, above⟩ := bound
  exact ⟨own, found, Level.le_trans le above⟩

theorem Node.AtLeast.above {level looser : Level} {n : Node} (bound : n.AtLeast level)
    (lt : looser < level) : (Slot.node n).Above looser := by
  obtain ⟨own, found, above⟩ := bound
  exact ⟨own, found, Level.lt_of_lt_of_le lt above⟩

/-! ### Tokens of operators -/

/-- The spellings of a terminal that is a mark. -/
def Terminal.marks : Terminal → List String
  | .comparison => Lexeme.comparisons
  | .shift => Lexeme.shifts
  | t => if t.words = [] then t.symbol?.toList else []

namespace Token

variable {t : Terminal} {token : Token}

theorem text_eq_of_symbolLength? {symbol : String} {cs : List Char} {n : Nat}
    (found : Lexeme.symbolLength? symbol cs = some n) (same : token.text.toList = cs.take n) :
    token.text = symbol := by
  obtain ⟨size, rest, rfl⟩ := Lexeme.exists_of_symbolLength? found
  rw [← size, ← String.length_toList, List.take_left] at same
  exact String.toList_inj.mp same

theorem text_mem_of_findSome? {symbols : List String} {cs : List Char} {n : Nat}
    (found : symbols.findSome? (Lexeme.symbolLength? · cs) = some n)
    (same : token.text.toList = cs.take n) : token.text ∈ symbols := by
  obtain ⟨symbol, listed, found⟩ := List.exists_of_findSome?_eq_some found
  rw [text_eq_of_symbolLength? found same]
  exact listed

theorem Cut.text_mem_marks (cut : token.Cut t) (marked : t.marks ≠ []) : token.text ∈ t.marks := by
  obtain ⟨-, cs, n, found, same⟩ := cut
  by_cases comparison : t = .comparison
  · subst comparison
    have found : Lexeme.comparisonLength? cs = some n := found
    rw [Lexeme.comparisonLength?_eq] at found
    exact text_mem_of_findSome? found same
  by_cases shift : t = .shift
  · subst shift
    have found : Lexeme.shiftLength? cs = some n := found
    rw [Lexeme.shiftLength?_eq] at found
    exact text_mem_of_findSome? found same
  have plain : t.marks = if t.words = [] then t.symbol?.toList else [] := by
    unfold Terminal.marks
    split
    · exact absurd rfl comparison
    · exact absurd rfl shift
    · rfl
  rw [plain] at marked ⊢
  split_ifs at marked ⊢ with wordless
  · have spelled : t.symbol? ≠ none := by
      intro none
      rw [none] at marked
      exact marked rfl
    obtain ⟨word, listed, -⟩ | ⟨symbol, spells, found⟩ :=
      Terminal.spelling_cases (.inr spelled) found
    · rw [wordless] at listed
      cases listed
    · rw [spells, text_eq_of_symbolLength? found same]
      exact List.mem_singleton_self symbol
  · exact absurd rfl marked

/-- A mark between two operands has its level, in upper case as well. -/
theorem Cut.ofOperator?_of_mark {level : Level} (cut : token.Cut t) (marked : t.marks ≠ [])
    (table : t.marks.all (fun mark => Level.ofOperator? mark == some level &&
      Level.ofOperator? (Text.toUpper mark) == some level) = true) :
    Level.ofOperator? token.text = some level ∧
      Level.ofOperator? (Text.toUpper token.text) = some level := by
  have listed := List.all_eq_true.mp table _ (cut.text_mem_marks marked)
  simpa using listed

theorem Cut.ofSign?_of_mark {level : Level} (cut : token.Cut t) (marked : t.marks ≠ [])
    (table : t.marks.all (fun mark => Level.ofSign? mark == some level) = true) :
    Level.ofSign? token.text = some level := by
  have listed := List.all_eq_true.mp table _ (cut.text_mem_marks marked)
  simpa using listed

/-- A keyword between two operands has its level in upper case. -/
theorem Cut.ofOperator?_of_word {level : Level} {word : String} (cut : token.Cut t)
    (single : t.words = [word]) (unmarked : t.symbol? = none)
    (small : word.toList.all (·.toNat < 128) = true)
    (table : (Text.upperForms word.toList).all (fun form =>
      Level.ofOperator? (String.ofList form) == some level) = true) :
    Level.ofOperator? (Text.toUpper token.text) = some level := by
  have form := cut.toUpper_mem_upperForms single unmarked small
  simpa using List.all_eq_true.mp table _ form

end Token

end SqlSyntax
