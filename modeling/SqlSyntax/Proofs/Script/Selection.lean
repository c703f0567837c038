import SqlSyntax.Proofs.Expression.Induction
import SqlSyntax.Proofs.Script.Concatenation

/-!
# Expressions are read back

The text of an expression, behind `SELECT`, is read as that expression again. At the end of the text
what is left to do does not depend on the expression: the other clauses are absent, and the
statement is the only one.
-/

namespace SqlSyntax

open Grammar

/-- The statement that selects one expression, with no other clause. -/
def selectOf (y : Node) : Node :=
  .select false (.node (.fieldList [.node (.selectField .empty (.node y) "")])) .empty .empty .empty
    .empty .empty .empty ""

/-- The state to which the symbols lead from the start. -/
def stateBehind (symbols : List Symbol) : Nat :=
  symbols.foldl (fun q s => (statementAutomaton.next? q s).getD q) (Stack.state [])

/-! ### The end of the text -/

section

variable {fuel m : Nat} {stack : Stack}

/-- Behind the symbols `before`, a production puts its nonterminal in the place of its right
side. -/
theorem reduce_behind {p : Production} (before : List Symbol) {vs : Values p.rhs} {v : p.lhs.Value}
    (base : Stack.state (stack.drop p.rhs.length) = stateBehind before)
    (moves : statementAutomaton.next? (stateBehind before) (.nonterminal p.lhs) =
      some (stateBehind (before ++ [.nonterminal p.lhs])))
    (values : valuesOf p.rhs (stack.take p.rhs.length).reverse = some (.ok vs))
    (builds : p.build m vs = .ok v) :
    reduce statementAutomaton p m stack =
      some (⟨stateBehind (before ++ [.nonterminal p.lhs]), .nonterminal p.lhs, .ok v⟩ ::
        stack.drop p.rhs.length) := by
  have built : built p m (.ok vs) = .ok v := builds
  rw [reduce_eq_some_iff, base]
  refine ⟨.ok vs, _, values, moves, ?_⟩
  rw [built]
  rfl

/-- One reduction at the end of the text. -/
theorem settle_end (p : Production) (before : List Symbol) {vs : Values p.rhs} {v : p.lhs.Value}
    (top : Stack.state stack = stateBehind (before ++ p.rhs))
    (act : statementAutomaton.action? (stateBehind (before ++ p.rhs)) .endOfInput =
      some (.reduce p))
    (base : Stack.state (stack.drop p.rhs.length) = stateBehind before)
    (moves : statementAutomaton.next? (stateBehind before) (.nonterminal p.lhs) =
      some (stateBehind (before ++ [.nonterminal p.lhs])))
    (values : valuesOf p.rhs (stack.take p.rhs.length).reverse = some (.ok vs))
    (builds : p.build m vs = .ok v) (unmarked : p.isMarker = false)
    (goes : stateBehind (before ++ [.nonterminal p.lhs]) ≠ statementAutomaton.final) :
    settle statementAutomaton .endOfInput (fuel + 1) m stack =
      settle statementAutomaton .endOfInput fuel m
        (⟨stateBehind (before ++ [.nonterminal p.lhs]), .nonterminal p.lhs, .ok v⟩ ::
          stack.drop p.rhs.length) := by
  have same : counted p m = m := by rw [counted, unmarked, if_neg (by decide)]
  rw [← top] at act
  rw [settle_reduce act (reduce_behind before base moves values builds)
    fun ends => goes ends.2, same]

end

/-- What stands on the stack behind the word `SELECT` at the start of a text. -/
def selectEntry : Entry :=
  ⟨stateBehind [.terminal .kwSelect], .terminal .kwSelect, .ok ⟨.kwSelect, "SELECT", .start⟩⟩

/-- What stands there behind an expression. -/
def fieldEntry (y : Node) : Entry :=
  ⟨stateBehind [.terminal .kwSelect, .nonterminal .expr], .nonterminal .expr, .ok y⟩

/-- The first parts of a `SELECT` in their order. -/
def selectParts (count : Nat) : List Symbol :=
  (Production.query (.selectCore none)).rhs.take count

/-- The productions of the absent clauses and of the script are reduced one by one. -/
theorem settle_select {fuel m : Nat} (y : Node) :
    settle statementAutomaton .endOfInput (fuel + 13) m [fieldEntry y, selectEntry] =
      .complete [⟨statementAutomaton.final, .nonterminal .script, .ok [selectOf y]⟩] := by
  refine (settle_end (.query (.fieldExpr false)) (selectParts 1)
    rfl rfl rfl rfl rfl rfl rfl (by decide)).trans ?_
  refine (settle_end (.query (.selectFields false)) (selectParts 1)
    rfl rfl rfl rfl rfl rfl rfl (by decide)).trans ?_
  refine (settle_end (.query .noFrom) (selectParts 2)
    rfl rfl rfl rfl rfl rfl rfl (by decide)).trans ?_
  refine (settle_end (.query .noWhere) (selectParts 3)
    rfl rfl rfl rfl rfl rfl rfl (by decide)).trans ?_
  refine (settle_end (.query .noGroup) (selectParts 4)
    rfl rfl rfl rfl rfl rfl rfl (by decide)).trans ?_
  refine (settle_end (.query .noHaving) (selectParts 5)
    rfl rfl rfl rfl rfl rfl rfl (by decide)).trans ?_
  refine (settle_end (.query .noOrder) (selectParts 6)
    rfl rfl rfl rfl rfl rfl rfl (by decide)).trans ?_
  refine (settle_end (.query .noLimit) (selectParts 7)
    rfl rfl rfl rfl rfl rfl rfl (by decide)).trans ?_
  refine (settle_end (.query .noLock) (selectParts 8)
    rfl rfl rfl rfl rfl rfl rfl (by decide)).trans ?_
  refine (settle_end (.query (.selectCore none)) []
    rfl rfl rfl rfl rfl rfl rfl (by decide)).trans ?_
  refine (settle_end (.query (.query false)) [] rfl rfl rfl rfl rfl rfl rfl (by decide)).trans ?_
  refine (settle_end (.script (.statement .query)) []
    rfl rfl rfl rfl rfl rfl rfl (by decide)).trans ?_
  have act : statementAutomaton.action? (stateBehind [.nonterminal .statement]) .endOfInput =
      some (.reduce (.script (.script false true))) := rfl
  have reduced : reduce statementAutomaton (.script (.script false true)) m
      [⟨stateBehind [.nonterminal .statement], .nonterminal .statement, .ok (selectOf y)⟩] =
        some [⟨statementAutomaton.final, .nonterminal .script, .ok [selectOf y]⟩] :=
    reduce_behind [] rfl rfl rfl rfl
  exact settle_complete act reduced rfl

/-! ### The run -/

theorem step_select (text : String) :
    Grammar.Step statementAutomaton (.initial ("SELECT" ++ (" " ++ text)))
      ⟨Position.start.after "SELECT".toList, (" " ++ text).toList, 0, [selectEntry]⟩ := by
  have spelled : Piece.spells .kwSelect "SELECT".toList = true :=
    Terminal.spells_of_mem (by decide)
  have stops : Stops ((" " ++ text).toList ++ []) := Fragment.stops_append (by decide) text []
  rw [List.append_nil] at stops
  have found : Piece.Found .full .kwSelect "SELECT".toList (" " ++ text).toList :=
    Piece.found_of_spells spelled stops
  have shift : statementAutomaton.action? (Stack.state []) .kwSelect =
      some (.shift (stateBehind [.terminal .kwSelect])) := rfl
  have ahead := found (statementAutomaton.expected []) (fun u _ => TerminalSet.contains_full u)
    ((statementAutomaton.contains_expected_iff [] .kwSelect).mpr rfl)
  have step : Grammar.Step statementAutomaton
      ⟨.start, "SELECT".toList ++ (" " ++ text).toList, 0, []⟩ _ :=
        .token ahead (settle_shift shift)
  rw [List.take_left, List.drop_left, String.ofList_toList] at step
  rw [Configuration.initial, String.toList_append]
  exact step

/-- All that is looked for behind `SELECT` is looked for at its place. -/
theorem expected_select {u : Terminal}
    (expected : (statementAutomaton.expected [selectEntry]).contains u = true) :
    Place.field.scope.contains u = true :=
  TerminalSet.contains_of_within (by decide) expected

theorem guides_select :
    statementFragment.Guides statementAutomaton .endOfInput (stateBehind [.terminal .kwSelect])
      [.nonterminal .expr] (stateBehind [.terminal .kwSelect, .nonterminal .expr]) := by
  refine ⟨_, rfl, ?_, fun _ _ _ _ _ _ _ _ => TerminalSet.contains_full _, rfl⟩
  rintro u rfl
  decide

/-- A single entry carries the value of a single symbol. -/
theorem eq_singleton_of_valuesOf {s : Symbol} {v : s.Value} {entries : List Entry}
    (carried : valuesOf [s] entries = some (.ok (v, ()))) : ∃ q, entries = [⟨q, s, .ok v⟩] := by
  obtain ⟨⟨q, s', value⟩, rfl, rfl⟩ := List.map_eq_singleton_iff.mp (symbols_of_valuesOf carried)
  rw [valuesOf_cons] at carried
  cases value with
  | error e => cases carried
  | ok w =>
    cases carried
    exact ⟨q, rfl⟩

/-- An expression that is written behind `SELECT` is read back. -/
theorem Written.accepts {x : Node} {text : String} (written : Written .field .disjunction x text) :
    ∃ y : Node, y.unnumbered = x.unnumbered ∧
      Accepts statementAutomaton (.initial ("SELECT" ++ (" " ++ text))) (.ok [selectOf y]) := by
  obtain ⟨pieces, spelled, reads⟩ := written.row.reads.space written.row.solid
  obtain ⟨derives, legible⟩ := reads [] .endOfInput ⟨stops_nil, nofun⟩
  have arrives : statementFragment.Arrives statementAutomaton
      ⟨Position.start.after "SELECT".toList, Piece.textOf pieces ++ [], 0, [selectEntry]⟩ []
      .endOfInput [selectEntry] [.nonterminal .expr] (x.unnumbered, ())
      (stateBehind [.terminal .kwSelect, .nonterminal .expr]) _ :=
    derives.arrives statementFragment_fits (.refl 0 [selectEntry]) (fun _ => expected_select)
      guides_select legible
  rw [List.append_nil, spelled] at arrives
  obtain ⟨_, _, _, m, entries, ⟨y, ⟨⟩⟩, reads, reduces, carried, plain, reaches, -⟩ := arrives
  obtain ⟨q, rfl⟩ := eq_singleton_of_valuesOf carried
  obtain rfl : q = stateBehind [.terminal .kwSelect, .nonterminal .expr] := reaches
  obtain ⟨fuel, settles⟩ := reduces.settle_eq statementFragment_fits
  refine ⟨y, congrArg Prod.fst plain, .of_reads (.head (step_select text) reads) ⟨_, .refl, rfl, _,
    settles.trans (settle_select y), rfl⟩⟩

namespace Script

/-- The text of an expression is read back, but for the numbers of its markers, if no keyword hides
a function name of it. -/
theorem parse_select_render {x : Node} (expression : Expression .disjunction x)
    (visible : x.unhidden .field = true) :
    ∃ text y, x.render = .ok text ∧ parse ("SELECT " ++ text) = .ok [selectOf y] ∧
      y.unnumbered = x.unnumbered := by
  obtain ⟨text, written⟩ := expression.writes .field visible
  obtain ⟨y, same, accepts⟩ := written.accepts
  refine ⟨text, y, written.rendered, ?_, same⟩
  rw [parse_eq_ok_iff, show "SELECT " = "SELECT" ++ " " from rfl, String.append_assoc]
  exact accepts

/-- `NOT LEFT(?, 1) LIKE X'0F' OR COUNT(DISTINCT t.a) IN (?, 'it\'s')`, with markers that are not
numbered in order. -/
def sampleCondition : Node :=
  binaryNode "OR"
    (.unaryOp "NOT" (.node (.like
      (.node (.funcCall "LEFT" ([.paramMarker 7, literalNode (.integer 1)].map .node)))
      (.node (literalNode (.binary "0F" .hexadecimal))) false none)))
    (.inSet
      (.node (.aggregate "COUNT" ([.columnRef (.node (.columnName "" "t" "a"))].map .node)
        true false))
      ([.paramMarker 7, literalNode (.text "it's")].map .node) false .empty)

theorem sampleCondition_expression : Expression .disjunction sampleCondition := by
  have call : Expression .simple
      (.funcCall "LEFT" ([.paramMarker 7, literalNode (.integer 1)].map .node)) := by
    refine .call ⟨by decide, .inr (by decide)⟩ (by decide) ?_
    rintro y (_ | ⟨_, _ | ⟨_, ⟨⟩⟩⟩)
    · exact .disjunction_of_simple (.marker 7)
    · exact .disjunction_of_simple (.literal ⟨by decide, by decide⟩)
  have pattern : Expression .simple (literalNode (.binary "0F" .hexadecimal)) := by
    refine .literal ?_
    rintro c (_ | ⟨_, _ | ⟨_, ⟨⟩⟩⟩)
    · decide
    · decide
  have count : Expression .simple (.aggregate "COUNT"
      ([.columnRef (.node (.columnName "" "t" "a"))].map .node) true false) := by
    refine .aggregate (by decide) ?_ (by decide) true
    rintro y (_ | ⟨_, ⟨⟩⟩)
    exact .disjunction_of_simple (.column (by decide) (by decide))
  have listed : Expression .predicate (.inSet
      (.node (.aggregate "COUNT" ([.columnRef (.node (.columnName "" "t" "a"))].map .node)
        true false))
      ([.paramMarker 7, literalNode (.text "it's")].map .node) false .empty) := by
    refine .inList count.bitOr_of_simple (by decide) ?_ false
    rintro y (_ | ⟨_, _ | ⟨_, ⟨⟩⟩⟩)
    · exact .disjunction_of_simple (.marker 7)
    · exact .disjunction_of_simple (.literal trivial)
  exact .infixed (by decide) rfl
    (.operand rfl (.operand rfl (.operand rfl (.signed (by decide)
      (.negation_of_predicate (.like call.bitOr_of_simple pattern.bitOr_of_simple false none))))))
    (.operand rfl (.operand rfl (.negation_of_predicate listed)))

theorem parse_select_render_sample :
    Expression .disjunction sampleCondition ∧ sampleCondition.unhidden .field = true ∧
      ∃ y, parse ("SELECT " ++
          "NOT LEFT(?, 1) LIKE X'0F' OR COUNT(DISTINCT `t`.`a`) IN (?, 'it\\'s')") =
        .ok [selectOf y] ∧ y.unnumbered = sampleCondition.unnumbered := by
  have visible : sampleCondition.unhidden .field = true := by decide +kernel
  obtain ⟨text, y, rendered, parsed, same⟩ := parse_select_render sampleCondition_expression visible
  obtain rfl : "NOT LEFT(?, 1) LIKE X'0F' OR COUNT(DISTINCT `t`.`a`) IN (?, 'it\\'s')" = text :=
    Except.ok.inj rendered
  exact ⟨sampleCondition_expression, visible, y, parsed, same⟩

/-- A keyword ends before a dollar sign, and so hides names that go on with one. -/
theorem parse_select_hidden :
    Expression .disjunction (.funcCall "NOT$X" []) ∧
      (Node.funcCall "NOT$X" []).render = .ok "NOT$X()" ∧
      parse ("SELECT " ++ "NOT$X()") =
        .ok [selectOf (.unaryOp "NOT" (.node (.funcCall "$X" [])))] := by
  have call : Expression .simple (.funcCall "NOT$X" ([].map .node)) :=
    .call ⟨by decide +kernel, .inl (by decide +kernel)⟩ (by decide) nofun
  exact ⟨.disjunction_of_simple call, rfl, rfl⟩

end Script

end SqlSyntax
