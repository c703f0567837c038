import SqlSyntax.Proofs.Script.Completeness

/-!
# Parsed expressions are grouped by precedence

In the trees of an accepted text no operand binds looser than its operator asks for, and operators
of one level are grouped from the left. Only parentheses, which are nodes of their own, keep
together what binds looser. That the grouping is the only one with this property is not asserted
here.
-/

namespace SqlSyntax.Script

/-- All nodes in reach of a statement of an accepted text respect the levels of precedence. -/
theorem parse_groups_by_level {sql : String} {statements : List Node}
    (parsed : parse sql = .ok statements) :
    ∀ s ∈ statements, ∀ trail n, Dialect.mysql.Leads s trail n → n.RespectsLevels := by
  intro s member trail n leads
  obtain ⟨proper, -⟩ := leads.sound (sound_of_parse parsed s member)
  exact proper.levels

/-- The expression of a range: a difference of three, the last of them a quotient, between two
bounds. -/
def rangedDifference : Node :=
  let number (n : Int) : Node := .value (.plain (.integer n))
  let difference := Grammar.binaryNode "-" (Grammar.binaryNode "-" (number 1) (number 2))
    (Grammar.binaryNode "DİV" (number 3) (number 4))
  .between (.node difference) (.node (number 5)) (.node (number 6)) false

/-- The tree of a select of one expression: outside a range, or a number. -/
def rangeSelect : Node :=
  let outside := Grammar.binaryNode "OR" (.unaryOp "NOT" (.node rangedDifference))
    (.value (.plain (.integer 7)))
  .select false (.node (.fieldList [.node (.selectField .empty (.node outside) "")]))
    .empty .empty .empty .empty .empty .empty ""

theorem parse_groups_by_level_rangeSelect :
    parse "SELECT NOT 1 - 2 - 3 dİv 4 BETWEEN 5 AND 6 OR 7" = .ok [rangeSelect] ∧
      ∀ trail n, Dialect.mysql.Leads rangeSelect trail n → n.RespectsLevels := by
  have parsed : parse "SELECT NOT 1 - 2 - 3 dİv 4 BETWEEN 5 AND 6 OR 7" =
      .ok [rangeSelect] := by rfl
  exact ⟨parsed, parse_groups_by_level parsed rangeSelect List.mem_cons_self⟩

end SqlSyntax.Script
