import SqlSyntax.Proofs.Grammar.StatementFragment
import SqlSyntax.Proofs.Grammar.Reads
import SqlSyntax.Proofs.Tree.Markers
import SqlSyntax.Tree.Render

/-!
# Written expressions

An expression is written at a place if it renders to a text that reads as an expression of its level
there, with the expression as its value up to the orders of markers. The lemmas here say that each
form of expression is written when its operands are.
-/

namespace SqlSyntax

open Grammar (Symbol Nonterminal Values Production binaryNode statementFragment
  statementFragment_fits)
open Grammar.Fragment (stops_append solid_of_spells)
open Grammar.StatementFragment (free)

/-! ### Words -/

/-- How keywords, operators and marks are written in expressions. -/
def Terminal.writtenWords : List (Terminal × String) := [
  (.kwSelect, "SELECT"), (.kwOr, "OR"), (.kwXor, "XOR"), (.kwAnd, "AND"), (.kwNot, "NOT"),
  (.kwIs, "IS"), (.kwNull, "NULL"), (.kwTrue, "TRUE"), (.kwFalse, "FALSE"), (.kwIn, "IN"),
  (.kwBetween, "BETWEEN"), (.kwLike, "LIKE"), (.kwEscape, "ESCAPE"), (.kwRegexp, "REGEXP"),
  (.kwCase, "CASE"), (.kwWhen, "WHEN"), (.kwThen, "THEN"), (.kwElse, "ELSE"), (.kwEnd, "END"),
  (.kwDiv, "DIV"), (.kwMod, "MOD"), (.kwDistinct, "DISTINCT"), (.kwLeft, "LEFT"),
  (.kwRight, "RIGHT"), (.kwIf, "IF"), (.kwInsert, "INSERT"), (.kwReplace, "REPLACE"),
  (.kwDatabase, "DATABASE"), (.kwSchema, "SCHEMA"), (.kwValues, "VALUES"), (.equals, "="),
  (.comparison, "<=>"), (.comparison, "<>"), (.comparison, "!="), (.comparison, "<="),
  (.comparison, ">="), (.comparison, "<"), (.comparison, ">"), (.pipe, "|"), (.ampersand, "&"),
  (.shift, "<<"), (.shift, ">>"), (.plus, "+"), (.minus, "-"), (.star, "*"), (.slash, "/"),
  (.percent, "%"), (.caret, "^"), (.comma, ","), (.rightParen, ")"), (.question, "?")]

theorem Terminal.spells_writtenWords :
    (writtenWords.all fun w => Piece.spells w.1 w.2.toList) = true := by
  decide +kernel

theorem Terminal.spells_of_mem {t : Terminal} {word : String} (listed : (t, word) ∈ writtenWords) :
    Piece.spells t word.toList = true :=
  List.all_eq_true.mp spells_writtenWords (t, word) listed

/-! ### Rows of symbols -/

/-- The text behind ends a lexeme, and the terminal that comes first in it is not the one to
avoid. -/
def StoppedBut (avoided : Option Terminal) (rest : List Char) (behind : Terminal) : Prop :=
  Stops rest ∧ avoided ≠ some behind

/-- The text behind ends a lexeme. -/
abbrev Stopped : List Char → Terminal → Prop :=
  StoppedBut none

/-- A production that anything may come behind. -/
theorem reads_production {Ends : List Char → Terminal → Prop} {scope : TerminalSet} {text : String}
    (p : Production) (covered : free p = true) {values : Values p.rhs} {v : p.lhs.Value}
    (row : statementFragment.Reads Ends scope p.rhs text values)
    (builds : p.build 0 values = .ok v) :
    statementFragment.Reads Ends scope [.nonterminal p.lhs] text (v, ()) := by
  rw [free, Bool.and_eq_true, beq_iff_eq] at covered
  refine .production p covered.1 (fun _ behind _ => ?_) row builds
  rw [covered.2]
  exact TerminalSet.contains_full behind

/-- The text reads as the row of symbols, in front of all but the terminal to avoid, and can stand
behind a single space. -/
structure RowBut (avoided : Option Terminal) (scope : TerminalSet) (symbols : List Symbol)
    (text : String) (vs : Values symbols) : Prop where
  reads : statementFragment.Reads (StoppedBut avoided) scope symbols text vs
  solid : ∃ c tail, text.toList = c :: tail ∧ Text.isLayout c = false

/-- The text reads as the row of symbols and can stand behind a single space. -/
abbrev Row (scope : TerminalSet) (symbols : List Symbol) (text : String) (vs : Values symbols) :
    Prop :=
  RowBut none scope symbols text vs

namespace RowBut

variable {avoided : Option Terminal} {scope : TerminalSet} {text later : String}
  {symbols : List Symbol} {vs : Values symbols}

theorem solid_append (row : RowBut avoided scope symbols text vs) (later : String) :
    ∃ c tail, (text ++ later).toList = c :: tail ∧ Text.isLayout c = false := by
  obtain ⟨c, tail, begins, visible⟩ := row.solid
  exact ⟨c, tail ++ later.toList, by rw [String.toList_append, begins]; rfl, visible⟩

/-- A row in front of anything can stand in front of all but some terminal. -/
theorem but (row : Row scope symbols text vs) : RowBut avoided scope symbols text vs :=
  ⟨row.reads.before fun _ _ ends => ⟨ends.1, nofun⟩, row.solid⟩

/-- A word at the end. -/
theorem last (t : Terminal) (word : String) (listed : (t, word) ∈ Terminal.writtenWords) :
    RowBut avoided scope [.terminal t] word ((⟨t, word, .start⟩ : Token), ()) := by
  have spelled := Terminal.spells_of_mem listed
  have alone : statementFragment.Reads (StoppedBut avoided) scope [.terminal t] (word ++ "")
      ((⟨t, word, .start⟩ : Token), ()) :=
    .word spelled .nil fun _ _ ends => ends.1
  have solid := solid_of_spells spelled ""
  rw [String.append_empty] at alone solid
  exact ⟨alone, solid⟩

/-- A word in front of a space. -/
theorem word (t : Terminal) (word : String) (listed : (t, word) ∈ Terminal.writtenWords)
    (tail : RowBut avoided (statementFragment.scope (.terminal t) symbols.head?) symbols text vs) :
    RowBut avoided scope (.terminal t :: symbols) (word ++ (" " ++ text))
      ((⟨t, word, .start⟩ : Token), vs) := by
  have spelled := Terminal.spells_of_mem listed
  refine ⟨.word spelled (tail.reads.space tail.solid) fun rest _ _ => ?_,
    solid_of_spells spelled _⟩
  exact stops_append (by decide) text rest

/-- A symbol in front of a space. -/
theorem before {s : Symbol} {v : s.Value} (head : Row scope [s] text (v, ()))
    (tail : RowBut avoided (statementFragment.scope s symbols.head?) symbols later vs) :
    RowBut avoided scope (s :: symbols) (text ++ (" " ++ later)) (v, vs) := by
  refine ⟨head.reads.cons statementFragment_fits (tail.reads.space tail.solid) ?_,
    head.solid_append _⟩
  intro rest _ _ _ _
  exact ⟨stops_append (by decide) later rest, nofun⟩

theorem production (p : Production) (covered : free p = true)
    {values : Values p.rhs} {v : p.lhs.Value} (row : RowBut avoided scope p.rhs text values)
    (builds : p.build 0 values = .ok v) : RowBut avoided scope [.nonterminal p.lhs] text (v, ()) :=
  ⟨reads_production p covered row.reads builds, row.solid⟩

end RowBut

/-! ### Levels in the grammar -/

namespace Level

def nonterminal : Level → Nonterminal
  | disjunction => .expr
  | exclusive => .xorExpr
  | conjunction => .andExpr
  | negation => .notExpr
  | comparison => .boolPrimary
  | predicate => .predicate
  | bitOr => .bitOrExpr
  | bitAnd => .bitAndExpr
  | shift => .shiftExpr
  | sum => .sumExpr
  | product => .productExpr
  | bitXor => .bitXorExpr
  | unary => .unaryExpr
  | simple => .simpleExpr

/-- Expressions of every level have nodes as values. -/
def value : (level : Level) → Node → level.nonterminal.Value
  | disjunction, x | exclusive, x | conjunction, x | negation, x | comparison, x | predicate, x
  | bitOr, x | bitAnd, x | shift, x | sum, x | product, x | bitXor, x | unary, x | simple, x => x

end Level

/-- The tree with all its markers numbered zero. -/
def Node.unnumbered (x : Node) : Node :=
  x.mapMarkers fun _ => 0

/-- The expression has the text, which stands at the place and reads as an expression of the
level. -/
structure Written (place : Place) (level : Level) (x : Node) (text : String) : Prop where
  rendered : x.render = .ok text
  opens : Opens text.toList
  row : Row place.scope [.nonterminal level.nonterminal] text (level.value x.unnumbered, ())

variable {place : Place} {level next : Level} {x y : Node} {text later : String}

/-- An expression of a level is one of the looser level too. -/
theorem Written.operand (below : level.tighter? = some next) (written : Written place next x text) :
    Written place level x text := by
  refine ⟨written.rendered, written.opens, ?_⟩
  have row := written.row
  cases level <;> cases below
  case disjunction => exact .production (.expr .orOperand) rfl row rfl
  case exclusive => exact .production (.expr .xorOperand) rfl row rfl
  case conjunction => exact .production (.expr .andOperand) rfl row rfl
  case negation => exact .production (.expr .notOperand) rfl row rfl
  case comparison => exact .production (.expr .boolOperand) rfl row rfl
  case predicate => exact .production (.expr .predicateOperand) rfl row rfl
  case bitOr => exact .production (.expr .bitOrOperand) rfl row rfl
  case bitAnd => exact .production (.expr .bitAndOperand) rfl row rfl
  case shift => exact .production (.expr .shiftOperand) rfl row rfl
  case sum => exact .production (.expr .sumOperand) rfl row rfl
  case product => exact .production (.expr .productOperand) rfl row rfl
  case bitXor => exact .production (.expr .bitXorOperand) rfl row rfl
  case unary => exact .production (.expr .unaryOperand) rfl row rfl

-- The equations of rendering are generated here, once, before the proofs that rewrite with them.
attribute [local simp] Node.render Slot.render

/-! ### Operators -/

section Operators

variable {scope : TerminalSet} {op : String}

theorem RowBut.operated {A B : Nonterminal} {t : Terminal} {l : A.Value} {r : B.Value}
    (listed : (t, op) ∈ Terminal.writtenWords) (left : Row scope [.nonterminal A] text (l, ()))
    (right : Row (statementFragment.scope (.terminal t) (some (.nonterminal B))) [.nonterminal B]
      later (r, ())) :
    Row scope [.nonterminal A, .terminal t, .nonterminal B] (text ++ " " ++ op ++ " " ++ later)
      (l, (⟨t, op, .start⟩ : Token), r, ()) := by
  simp only [String.append_assoc]
  exact left.before (.word t op listed right)

/-- A comparison has its operator from a symbol of its own. -/
theorem RowBut.comparator (listed : op ∈ Level.comparison.operators) :
    ∃ t, ∀ scope, Row scope [.nonterminal .comparator] op ((⟨t, op, .start⟩ : Token), ()) := by
  by_cases equal : op = "="
  · have written : (Terminal.equals, op) ∈ Terminal.writtenWords := by
      subst equal
      decide
    exact ⟨.equals, fun scope => .production (.expr .equals) rfl (.last _ op written) rfl⟩
  · have written : (Terminal.comparison, op) ∈ Terminal.writtenWords := by
      simp only [Level.operators, List.mem_cons, equal, List.not_mem_nil, or_false,
        false_or] at listed
      obtain rfl | rfl | rfl | rfl | rfl | rfl | rfl := listed <;> decide
    exact ⟨.comparison, fun scope => .production (.expr .comparison) rfl (.last _ op written) rfl⟩

theorem RowBut.compared (listed : op ∈ Level.comparison.operators)
    (left : Row scope [.nonterminal .boolPrimary] text (x, ()))
    (right : Row Place.operand.scope [.nonterminal .predicate] later (y, ())) :
    Row scope [.nonterminal .boolPrimary] (text ++ " " ++ op ++ " " ++ later)
      (binaryNode op x y, ()) := by
  obtain ⟨t, comparator⟩ := RowBut.comparator listed
  have row : Row scope [.nonterminal .boolPrimary, .nonterminal .comparator,
      .nonterminal .predicate]
      (text ++ (" " ++ (op ++ (" " ++ later)))) (x, (⟨t, op, .start⟩ : Token), y, ()) :=
    left.before ((comparator _).before right)
  simp only [String.append_assoc]
  exact .production (.expr .compare) rfl row rfl

/-- One production for each operator between operands. -/
theorem RowBut.infixed (listed : op ∈ level.operators) (below : level.tighter? = some next)
    (left : Row scope [.nonterminal level.nonterminal] text (level.value x, ()))
    (right : Row (Place.behind op).scope [.nonterminal next.nonterminal] later (next.value y, ())) :
    Row scope [.nonterminal level.nonterminal] (text ++ " " ++ op ++ " " ++ later)
      (level.value (binaryNode op x y), ()) := by
  cases level <;> cases below <;>
    simp only [Level.operators, List.mem_cons, List.not_mem_nil, or_false] at listed
  case disjunction =>
    subst listed
    exact .production (.expr .logicOr) rfl (.operated (by decide) left right) rfl
  case exclusive =>
    subst listed
    exact .production (.expr .logicXor) rfl (.operated (by decide) left right) rfl
  case conjunction =>
    subst listed
    exact .production (.expr .logicAnd) rfl (.operated (by decide) left right) rfl
  case comparison =>
    have place : Place.behind op = .operand := by
      obtain rfl | rfl | rfl | rfl | rfl | rfl | rfl | rfl := listed <;> rfl
    rw [place] at right
    exact .compared (by simpa [Level.operators] using listed) left right
  case bitOr =>
    subst listed
    exact .production (.expr .bitOr) rfl (.operated (by decide) left right) rfl
  case bitAnd =>
    subst listed
    exact .production (.expr .bitAnd) rfl (.operated (by decide) left right) rfl
  case shift =>
    obtain rfl | rfl := listed
    · exact .production (.expr .shift) rfl (.operated (by decide) left right) rfl
    · exact .production (.expr .shift) rfl (.operated (by decide) left right) rfl
  case sum =>
    obtain rfl | rfl := listed
    · exact .production (.expr (.sum false)) rfl (.operated (by decide) left right) rfl
    · exact .production (.expr (.sum true)) rfl (.operated (by decide) left right) rfl
  case product =>
    obtain rfl | rfl | rfl | rfl | rfl := listed
    · exact .production (.expr (.product .star)) rfl (.operated (by decide) left right) rfl
    · exact .production (.expr (.product .slash)) rfl (.operated (by decide) left right) rfl
    · exact .production (.expr (.product .percent)) rfl (.operated (by decide) left right) rfl
    · exact .production (.expr (.product .div)) rfl (.operated (by decide) left right) rfl
    · exact .production (.expr (.product .mod)) rfl (.operated (by decide) left right) rfl
  case bitXor =>
    subst listed
    exact .production (.expr .bitXor) rfl (.operated (by decide) left right) rfl

theorem Written.infixed (listed : op ∈ level.operators) (below : level.tighter? = some next)
    (left : Written place level x text) (right : Written (.behind op) next y later) :
    Written place level (binaryNode op x y) (text ++ " " ++ op ++ " " ++ later) := by
  have upper : Text.toUpper op = op := by
    have all : (level.operators.all fun op => Text.toUpper op == op) = true := by
      cases level <;> decide
    simpa using List.all_eq_true.mp all op listed
  refine ⟨?_, ?_, .infixed listed below left.row right.row⟩
  · simp only [binaryNode, Node.render, Slot.render, left.rendered, right.rendered, upper]
    rfl
  · simpa only [String.toList_append, List.append_assoc] using left.opens.append _

/-- The signs in front of an operand. -/
def signMarks : List (Terminal × Char) :=
  [(.minus, '-'), (.plus, '+'), (.bang, '!'), (.tilde, '~')]

theorem signMarks_apart :
    (signMarks.all fun sign => sign.1.preferred.all fun u =>
      u == .comparison || !u.starts sign.2) = true :=
  Terminal.all_preferred_of_marks (fun u starts => u == .comparison || !starts) (by decide)
    (by decide +kernel)

/-- A sign is told by its character, since no comparison is looked for where an operand stands. -/
theorem found_sign {t : Terminal} {c : Char} (listed : (t, c) ∈ signMarks) (place : Place)
    {cs : List Char} (opens : Opens cs) : Piece.Found place.scope t [c] cs := by
  have blank : Lexeme.blankLength? (c :: cs) = none := by
    by_cases minus : c = '-'
    · subst minus
      exact blankLength?_minus opens
    · refine Lexeme.blankLength?_eq_none ?_ cs
      have all : (signMarks.all fun sign => sign.2 == '-' || !Lexeme.startsBlank sign.2) =
          true := by
        decide
      simpa [minus] using List.all_eq_true.mp all (t, c) listed
  have own : t.lexemeLength? (c :: cs) = some 1 := by
    simp only [signMarks, List.mem_cons, List.not_mem_nil, or_false, Prod.mk.injEq] at listed
    obtain ⟨rfl, rfl⟩ | ⟨rfl, rfl⟩ | ⟨rfl, rfl⟩ | ⟨rfl, rfl⟩ := listed <;> rfl
  refine Piece.found_of_first blank own fun u before looked => ?_
  have apart := List.all_eq_true.mp signMarks_apart (t, c) listed
  have other := List.all_eq_true.mp apart u before
  rw [Bool.or_eq_true, beq_iff_eq] at other
  obtain rfl | other := other
  · have absent : place.scope.contains .comparison = false := by cases place <;> rfl
    rw [absent] at looked
    cases looked
  · exact Terminal.lexemeLength?_eq_none (by simpa using other) _

theorem RowBut.sign {t : Terminal} {c : Char} (listed : (t, c) ∈ signMarks) {n : Nonterminal}
    {v : n.Value} (operand : Row (statementFragment.scope (.terminal t) (some (.nonterminal n)))
      [.nonterminal n] text (v, ())) (opens : Opens text.toList) :
    Row place.scope [.terminal t, .nonterminal n] (String.singleton c ++ text)
      ((⟨t, String.singleton c, .start⟩ : Token), v, ()) := by
  refine ⟨.token (fun rest _ _ => ?_) operand.reads, c, text.toList, ?_, ?_⟩
  · rw [String.toList_singleton]
    exact found_sign listed place (opens.append rest)
  · simp
  · have all : (signMarks.all fun sign => !Text.isLayout sign.2) = true := by decide
    simpa using List.all_eq_true.mp all (t, c) listed

/-- The texts of all signs, and one production for each. -/
theorem RowBut.signed {x : Node} (listed : op ∈ Level.unary.signs)
    (operand : Row Place.operand.scope [.nonterminal .unaryExpr] text (x, ()))
    (opens : Opens text.toList) :
    ∃ c, unaryText op = String.singleton c ∧ Text.isBlank c = false ∧
      Row place.scope [.nonterminal .unaryExpr] (String.singleton c ++ text)
        (.unaryOp op (.node x), ()) := by
  simp only [Level.signs, List.mem_cons, List.not_mem_nil, or_false] at listed
  obtain rfl | rfl | rfl | rfl := listed
  · exact ⟨'-', by decide, by decide,
      .production (.expr (.sign .minus)) rfl (.sign (by decide) operand opens) rfl⟩
  · exact ⟨'+', by decide, by decide,
      .production (.expr (.sign .plus)) rfl (.sign (by decide) operand opens) rfl⟩
  · exact ⟨'!', by decide, by decide,
      .production (.expr (.sign .bang)) rfl (.sign (by decide) operand opens) rfl⟩
  · exact ⟨'~', by decide, by decide,
      .production (.expr (.sign .tilde)) rfl (.sign (by decide) operand opens) rfl⟩

theorem Written.signed (listed : op ∈ level.signs) (written : Written (.behind op) level x text) :
    Written place level (.unaryOp op (.node x)) (unaryText op ++ text) := by
  have rendered : (Node.unaryOp op (.node x)).render = .ok (unaryText op ++ text) := by
    simp only [Node.render, Slot.render, written.rendered]
    rfl
  have row := written.row
  cases level
  case negation =>
    obtain rfl : op = "NOT" := by simpa [Level.signs] using listed
    refine ⟨rendered, ?_, ?_⟩
    · rw [String.toList_append]
      exact opens_cons (by decide) (by decide) _
    · exact .production (.expr .logicNot) rfl (.word .kwNot "NOT" (by decide) row) rfl
  case unary =>
    have place : Place.behind op = .operand := by
      simp only [Level.signs, List.mem_cons, List.not_mem_nil, or_false] at listed
      obtain rfl | rfl | rfl | rfl := listed <;> rfl
    rw [place] at row
    obtain ⟨c, same, visible, signed⟩ := RowBut.signed listed row written.opens
    rw [same] at rendered ⊢
    refine ⟨rendered, ?_, signed⟩
    rw [String.toList_append, String.toList_singleton]
    exact written.opens.signed visible
  all_goals cases listed

/-! ### Tests and predicates -/

theorem Written.isNull (written : Written place .comparison x text) (negated : Bool) :
    Written place .comparison (.isNull (.node x) negated)
      (text ++ (if negated then " IS NOT NULL" else " IS NULL")) := by
  refine ⟨?_, ?_, ?_⟩
  · simp only [Node.render, Slot.render, written.rendered]
    rfl
  · simpa only [String.toList_append] using written.opens.append _
  · cases negated
    · exact .production (.expr (.isNull false)) rfl (written.row.before
        (.word .kwIs "IS" (by decide) (.last .kwNull "NULL" (by decide)))) rfl
    · exact .production (.expr (.isNull true)) rfl (written.row.before
        (.word .kwIs "IS" (by decide) (.word .kwNot "NOT" (by decide)
          (.last .kwNull "NULL" (by decide))))) rfl

theorem Written.isTruth (written : Written place .comparison x text) (negated truth : Bool) :
    Written place .comparison (.isTruth (.node x) negated truth)
      (text ++ (if negated then " IS NOT" else " IS") ++
        (if truth then " TRUE" else " FALSE")) := by
  refine ⟨?_, ?_, ?_⟩
  · simp only [Node.render, Slot.render, written.rendered]
    rfl
  · simpa only [String.toList_append, List.append_assoc] using written.opens.append _
  · rw [String.append_assoc]
    cases negated <;> cases truth
    · exact .production (.expr (.isTruth false false)) rfl (written.row.before
        (.word .kwIs "IS" (by decide) (.last .kwFalse "FALSE" (by decide)))) rfl
    · exact .production (.expr (.isTruth false true)) rfl (written.row.before
        (.word .kwIs "IS" (by decide) (.last .kwTrue "TRUE" (by decide)))) rfl
    · exact .production (.expr (.isTruth true false)) rfl (written.row.before
        (.word .kwIs "IS" (by decide) (.word .kwNot "NOT" (by decide)
          (.last .kwFalse "FALSE" (by decide))))) rfl
    · exact .production (.expr (.isTruth true true)) rfl (written.row.before
        (.word .kwIs "IS" (by decide) (.word .kwNot "NOT" (by decide)
          (.last .kwTrue "TRUE" (by decide))))) rfl

/-- The values of a row with an optional symbol in front. -/
def Grammar.Values.optionally {s : Symbol} {rest : List Symbol} (present : Bool) (v : s.Value)
    (vs : Values rest) : Values (Grammar.optional present s rest) :=
  match present with
  | true => (v, vs)
  | false => vs

/-- A row of keywords with or without `NOT` in front. -/
theorem RowBut.negatable (negated : Bool) {symbols : List Symbol} {vs : Values symbols}
    (row : ∀ scope, Row scope symbols text vs) (scope : TerminalSet) :
    Row scope (Grammar.optional negated (.terminal .kwNot) symbols)
      ((if negated then "NOT " else "") ++ text)
      (.optionally negated (⟨.kwNot, "NOT", .start⟩ : Token) vs) := by
  cases negated
  · have plain := row scope
    rwa [← @String.empty_append text] at plain
  · have word : Row scope (.terminal .kwNot :: symbols) ("NOT" ++ (" " ++ text))
        ((⟨.kwNot, "NOT", .start⟩ : Token), vs) :=
      .word .kwNot "NOT" (by decide) (row _)
    rwa [← String.append_assoc] at word

theorem Written.between {z : Node} {last : String} (written : Written place .bitOr x text)
    (low : Written .operand .bitOr y later) (high : Written .operand .predicate z last)
    (negated : Bool) :
    Written place .predicate (.between (.node x) (.node y) (.node z) negated)
      (text ++ (if negated then " NOT BETWEEN " else " BETWEEN ") ++ later ++ " AND " ++ last) := by
  refine ⟨?_, ?_, ?_⟩
  · simp only [Node.render, Slot.render, written.rendered, low.rendered, high.rendered]
    rfl
  · simpa only [String.toList_append, List.append_assoc] using written.opens.append _
  · have bounds (scope : TerminalSet) : Row scope
        [.terminal .kwBetween, .nonterminal .bitOrExpr, .terminal .kwAnd, .nonterminal .predicate]
        ("BETWEEN" ++ (" " ++ (later ++ (" " ++ ("AND" ++ (" " ++ last))))))
        ((⟨.kwBetween, "BETWEEN", .start⟩ : Token), y.unnumbered, (⟨.kwAnd, "AND", .start⟩ : Token),
          z.unnumbered, ()) :=
      .word .kwBetween "BETWEEN" (by decide)
        (low.row.before (.word .kwAnd "AND" (by decide) high.row))
    have row := written.row.before (.negatable negated bounds _)
    have words : (if negated then " NOT BETWEEN " else " BETWEEN ") =
        " " ++ ((if negated then "NOT " else "") ++ ("BETWEEN" ++ " ")) := by
      cases negated <;> rfl
    rw [words, show " AND " = " " ++ ("AND" ++ " ") from rfl]
    simp only [String.append_assoc]
    exact .production (.expr (.between negated)) (by cases negated <;> rfl) row
        (by cases negated <;> rfl)

theorem RowBut.string (scope : TerminalSet) (s : String) :
    Row scope [.terminal .string] (Text.quoteString s)
      ((⟨.string, Text.quoteString s, .start⟩ : Token), ()) := by
  have alone : statementFragment.Reads Stopped scope [.terminal .string] (Text.quoteString s ++ "")
      ((⟨.string, Text.quoteString s, .start⟩ : Token), ()) :=
    .token (fun rest _ ends => Piece.found_quoteString s (ends.1.avoids (by decide))) .nil
  rw [String.append_empty] at alone
  exact ⟨alone, _, _, Text.toList_quoteString s, by decide⟩

theorem Written.like (written : Written place .bitOr x text)
    (pattern : Written .operand .bitOr y later) (negated : Bool) (escape : Option String) :
    Written place .predicate (.like (.node x) (.node y) negated escape)
      (text ++ (if negated then " NOT LIKE " else " LIKE ") ++ later ++
        (match escape with
          | some e => " ESCAPE " ++ Text.quoteString e
          | none => "")) := by
  refine ⟨?_, ?_, ?_⟩
  · simp only [Node.render, Slot.render, written.rendered, pattern.rendered]
    rfl
  · simpa only [String.toList_append, List.append_assoc] using written.opens.append _
  · have words : (if negated then " NOT LIKE " else " LIKE ") =
        " " ++ ((if negated then "NOT " else "") ++ ("LIKE" ++ " ")) := by
      cases negated <;> rfl
    cases escape with
    | none =>
      have like (scope : TerminalSet) : Row scope [.terminal .kwLike, .nonterminal .bitOrExpr]
          ("LIKE" ++ (" " ++ later)) ((⟨.kwLike, "LIKE", .start⟩ : Token), y.unnumbered, ()) :=
        .word .kwLike "LIKE" (by decide) pattern.row
      have row := written.row.before (.negatable negated like _)
      rw [words]
      simp only [String.append_assoc, String.append_empty]
      exact .production (.expr (.like negated false)) (by cases negated <;> rfl) row
        (by cases negated <;> rfl)
    | some e =>
      have like (scope : TerminalSet) : Row scope
          [.terminal .kwLike, .nonterminal .bitOrExpr, .terminal .kwEscape, .terminal .string]
          ("LIKE" ++ (" " ++ (later ++ (" " ++ ("ESCAPE" ++ (" " ++ Text.quoteString e))))))
          ((⟨.kwLike, "LIKE", .start⟩ : Token), y.unnumbered,
            (⟨.kwEscape, "ESCAPE", .start⟩ : Token),
            (⟨.string, Text.quoteString e, .start⟩ : Token), ()) :=
        .word .kwLike "LIKE" (by decide)
          (pattern.row.before (.word .kwEscape "ESCAPE" (by decide) (.string _ e)))
      have row := written.row.before (.negatable negated like _)
      rw [words, show " ESCAPE " = " " ++ ("ESCAPE" ++ " ") from rfl]
      simp only [String.append_assoc]
      refine .production (.expr (.like negated true)) (by cases negated <;> rfl) row ?_
      have unquoted := Text.unquoteString_quoteString e
      have built : Production.build 0 (.expr (.like negated true))
          (x.unnumbered, .optionally negated (⟨.kwNot, "NOT", .start⟩ : Token)
            ((⟨.kwLike, "LIKE", .start⟩ : Token), y.unnumbered,
            (⟨.kwEscape, "ESCAPE", .start⟩ : Token),
            (⟨.string, Text.quoteString e, .start⟩ : Token), ())) =
          .ok (.like (.node x.unnumbered) (.node y.unnumbered) negated
            (some (Text.unquoteString (Text.quoteString e)))) := by
        cases negated <;> rfl
      rw [unquoted] at built
      exact built

theorem Written.regexp (written : Written place .bitOr x text)
    (pattern : Written .operand .bitOr y later) (negated : Bool) :
    Written place .predicate (.regexp (.node x) (.node y) negated)
      (text ++ (if negated then " NOT REGEXP " else " REGEXP ") ++ later) := by
  refine ⟨?_, ?_, ?_⟩
  · simp only [Node.render, Slot.render, written.rendered, pattern.rendered]
    rfl
  · simpa only [String.toList_append, List.append_assoc] using written.opens.append _
  · have words : (if negated then " NOT REGEXP " else " REGEXP ") =
        " " ++ ((if negated then "NOT " else "") ++ ("REGEXP" ++ " ")) := by
      cases negated <;> rfl
    have regexp (scope : TerminalSet) : Row scope [.terminal .kwRegexp, .nonterminal .bitOrExpr]
        ("REGEXP" ++ (" " ++ later)) ((⟨.kwRegexp, "REGEXP", .start⟩ : Token), y.unnumbered, ()) :=
      .word .kwRegexp "REGEXP" (by decide) pattern.row
    have row := written.row.before (.negatable negated regexp _)
    rw [words]
    simp only [String.append_assoc]
    exact .production (.expr (.regexp negated)) (by cases negated <;> rfl) row
        (by cases negated <;> rfl)

end Operators

end SqlSyntax
