import SqlSyntax.Proofs.Expression.Written

/-!
# Written lists and case distinctions

Lists of expressions and runs of branches are read from the left, the last item joining all that
came before it, so what is shown of them is what happens behind an earlier part of any length.
-/

namespace SqlSyntax

open Grammar (Symbol Nonterminal Values Production statementFragment statementFragment_fits)
open Grammar.Fragment (stops_append)

variable {place : Place} {x y : Node} {text later : String}

/-! ### Parentheses -/

namespace RowBut

variable {avoided : Option Terminal} {scope : TerminalSet} {symbols : List Symbol}
  {vs : Values symbols}

/-- An opening parenthesis directly in front of the row. -/
theorem opening (tail : statementFragment.Reads (StoppedBut avoided)
      (statementFragment.scope (.terminal .leftParen) symbols.head?) symbols text vs) :
    RowBut avoided scope (.terminal .leftParen :: symbols) ("(" ++ text)
      ((⟨.leftParen, "(", .start⟩ : Token), vs) := by
  refine ⟨.token (fun rest _ _ => ?_) tail, '(', text.toList, ?_, by decide⟩
  · exact Piece.found_leftParen _
  · rw [String.toList_append]
    rfl

/-- A row behind a symbol without a space between them. -/
theorem joined {s : Symbol} {v : s.Value} {mark : String} (head : Row scope [s] text (v, ()))
    (tail : RowBut avoided (statementFragment.scope s symbols.head?) symbols (mark ++ later) vs)
    (stop : mark.toList.head?.any Lexeme.stops.contains = true) :
    RowBut avoided scope (s :: symbols) (text ++ (mark ++ later)) (v, vs) :=
  ⟨head.reads.cons statementFragment_fits tail.reads fun rest _ _ _ _ =>
    ⟨stops_append stop later rest, nofun⟩, head.solid_append _⟩

/-- A symbol and the closing parenthesis. -/
theorem closed {s : Symbol} {v : s.Value} (head : Row scope [s] text (v, ())) :
    Row scope [s, .terminal .rightParen] (text ++ ")")
      (v, (⟨.rightParen, ")", .start⟩ : Token), ()) := by
  have last (scope : TerminalSet) : Row scope [.terminal .rightParen] (")" ++ "")
      ((⟨.rightParen, ")", .start⟩ : Token), ()) := .last .rightParen ")" (by decide)
  exact head.joined (last _) (by decide)

end RowBut

theorem opens_paren (text : String) : Opens ("(" ++ text).toList := by
  rw [String.toList_append]
  exact opens_cons (by decide) (by decide) _

theorem Written.paren (written : Written .group .disjunction x text) :
    Written place .simple (.paren (.node x)) ("(" ++ text ++ ")") := by
  refine ⟨?_, ?_, ?_⟩
  · simp only [Node.render, Slot.render, written.rendered]
    rfl
  · rw [String.append_assoc]
    exact opens_paren _
  · rw [String.append_assoc]
    exact .production (.expr .paren) rfl (.opening written.row.closed.reads) rfl

/-! ### Lists -/

/-- Expressions, each behind a comma. -/
inductive WrittenTail : List Node → String → Prop
  | nil : WrittenTail [] ""
  | cons {y : Node} {ys : List Node} {text later : String}
      (head : Written .condition .disjunction y text) (tail : WrittenTail ys later) :
      WrittenTail (y :: ys) (", " ++ text ++ later)

/-- Expressions with commas between them, the first at the place. -/
inductive WrittenList (place : Place) : List Node → String → Prop
  | cons {x : Node} {xs : List Node} {text later : String}
      (head : Written place .disjunction x text)
      (tail : WrittenTail xs later) : WrittenList place (x :: xs) (text ++ later)

theorem WrittenTail.rendered {x : Node} (first : x.render = .ok text) {ys : List Node}
    (tail : WrittenTail ys later) :
    Slot.renderSeparated ((x :: ys).map .node) = .ok (text ++ later) := by
  induction tail generalizing x text with
  | nil =>
    rw [String.append_empty]
    exact first
  | @cons y ys t ts head tail ih =>
    have rest := ih head.rendered
    simp only [List.map_cons] at rest ⊢
    simp only [Slot.renderSeparated, Slot.render, first, rest]
    show Except.ok (text ++ ", " ++ (t ++ ts)) = _
    simp only [String.append_assoc]

theorem WrittenList.rendered {items : List Node} (list : WrittenList place items text) :
    Slot.renderSeparated (items.map .node) = .ok text := by
  cases list with
  | cons head tail => exact tail.rendered head.rendered

/-- An item behind its comma. -/
theorem Written.item (written : Written .condition .disjunction y text) (scope : TerminalSet) :
    Row scope [.terminal .comma, .nonterminal .expr] ("," ++ (" " ++ text))
      ((⟨.comma, ",", .start⟩ : Token), y.unnumbered, ()) :=
  .word .comma "," (by decide) written.row

/-- A list grows to the right: behind what was read the remaining items are read one by one. -/
theorem WrittenTail.row {scope : TerminalSet} {earlier ys all : List Node}
    (before : Row scope [.nonterminal .exprTail] text (earlier, ())) (tail : WrittenTail ys later)
    (whole : earlier ++ ys.map Node.unnumbered = all) :
    Row scope [.nonterminal .exprTail] (text ++ later) (all, ()) := by
  induction tail generalizing earlier text with
  | nil =>
    subst whole
    rw [String.append_empty, List.map_nil, List.append_nil]
    exact before
  | @cons y ys t ts head tail ih =>
    have longer := before.joined (head.item _) (by decide)
    have grown : Row scope [.nonterminal .exprTail] (text ++ ("," ++ (" " ++ t)))
        (earlier ++ [y.unnumbered], ()) :=
      .production (.expr (.exprTail true)) rfl longer rfl
    have rest := ih grown (by simpa using whole)
    have comma : ", " = "," ++ " " := rfl
    rw [comma]
    simpa only [String.append_assoc] using rest

theorem WrittenList.row {items all : List Node} (list : WrittenList place items text)
    (whole : items.map Node.unnumbered = all) :
    Row place.scope [.nonterminal .exprList] text (all, ()) := by
  subst whole
  cases list with
  | @cons x xs text later head tail =>
    cases tail with
    | nil =>
      rw [String.append_empty]
      exact .production (.expr (.exprList false)) rfl head.row rfl
    | @cons y ys t ts first rest =>
      have tail : Row (statementFragment.scope (.nonterminal .expr) (some (.nonterminal .exprTail)))
          [.nonterminal .exprTail] ("," ++ (" " ++ t) ++ ts) ((y :: ys).map Node.unnumbered, ()) :=
        rest.row (.production (.expr (.exprTail false)) rfl (first.item _) rfl) rfl
      rw [String.append_assoc] at tail
      have row := head.row.joined tail (by decide)
      have comma : ", " ++ t ++ ts = "," ++ (" " ++ t ++ ts) := by
        rw [show ", " = "," ++ " " from rfl]
        simp only [String.append_assoc]
      rw [comma]
      exact .production (.expr (.exprList true)) rfl row rfl

theorem Node.unnumbered_items (items : List Node) :
    Slot.mapMarkersEach (fun _ => 0) (items.map .node) = (items.map Node.unnumbered).map .node :=
  Slot.mapMarkersEach_nodes _ items

theorem Written.rowOf {xs : List Node} (first : Written .group .disjunction x text)
    (others : WrittenList .condition xs later) :
    Written place .simple (.row ((x :: xs).map .node)) ("(" ++ (text ++ ", " ++ later) ++ ")") := by
  refine ⟨?_, ?_, ?_⟩
  · cases others with
    | @cons y ys t ts head tail =>
      have list := (WrittenTail.cons head tail).rendered first.rendered
      simp only [Node.render, list]
      show Except.ok ("(" ++ (text ++ (", " ++ t ++ ts)) ++ ")") = _
      simp only [String.append_assoc]
  · rw [String.append_assoc]
    exact opens_paren _
  · have rest : Row (statementFragment.scope (.nonterminal .expr) (some (.terminal .comma)))
        [.terminal .comma, .nonterminal .exprList, .terminal .rightParen]
        ("," ++ (" " ++ (later ++ ")")))
        ((⟨.comma, ",", .start⟩ : Token), xs.map Node.unnumbered,
          (⟨.rightParen, ")", .start⟩ : Token), ()) :=
      .word .comma "," (by decide) (others.row rfl).closed
    have row := first.row.joined rest (by decide)
    have whole : (Node.row ((x :: xs).map .node)).unnumbered =
        .row (.node x.unnumbered :: (xs.map Node.unnumbered).map .node) := by
      rw [Node.unnumbered, Node.mapMarkers, Node.unnumbered_items]
      rfl
    rw [whole, show ", " = "," ++ " " from rfl]
    simp only [String.append_assoc]
    exact .production (.expr .row) rfl (.opening row.reads) rfl

theorem Written.inList {items : List Node} (written : Written place .bitOr x text)
    (list : WrittenList .group items later) (negated : Bool) :
    Written place .predicate (.inSet (.node x) (items.map .node) negated .empty)
      (text ++ (if negated then " NOT IN " else " IN ") ++ "(" ++ later ++ ")") := by
  refine ⟨?_, ?_, ?_⟩
  · simp only [Node.render, Slot.render, written.rendered, list.rendered]
    rfl
  · simpa only [String.toList_append, List.append_assoc] using written.opens.append _
  · have among (scope : TerminalSet) : Row scope
        [.terminal .kwIn, .terminal .leftParen, .nonterminal .exprList, .terminal .rightParen]
        ("IN" ++ (" " ++ ("(" ++ (later ++ ")"))))
        ((⟨.kwIn, "IN", .start⟩ : Token), (⟨.leftParen, "(", .start⟩ : Token),
          items.map Node.unnumbered, (⟨.rightParen, ")", .start⟩ : Token), ()) :=
      .word .kwIn "IN" (by decide) (.opening (list.row rfl).closed.reads)
    have row := written.row.before (.negatable negated among _)
    have words : (if negated then " NOT IN " else " IN ") =
        " " ++ ((if negated then "NOT " else "") ++ ("IN" ++ " ")) := by
      cases negated <;> rfl
    have whole : (Node.inSet (.node x) (items.map .node) negated .empty).unnumbered =
        .inSet (.node x.unnumbered) ((items.map Node.unnumbered).map .node) negated .empty := by
      rw [Node.unnumbered, Node.mapMarkers, Node.unnumbered_items]
      rfl
    rw [whole, words]
    simp only [String.append_assoc]
    exact .production (.expr (.inList negated)) (by cases negated <;> rfl) row
        (by cases negated <;> rfl)

/-! ### Case distinctions -/

/-- The text of one branch. -/
def branchText (condition result : String) : String :=
  "WHEN " ++ condition ++ " THEN " ++ result

/-- Branches, each behind a space. -/
inductive WrittenBranches : List (Node × Node) → String → Prop
  | nil : WrittenBranches [] ""
  | cons {b : Node × Node} {bs : List (Node × Node)} {condition result later : String}
      (first : Written .condition .disjunction b.1 condition)
      (second : Written .condition .disjunction b.2 result) (tail : WrittenBranches bs later) :
      WrittenBranches (b :: bs) (" " ++ branchText condition result ++ later)

theorem WrittenBranches.rendered {bs : List (Node × Node)} (branches : WrittenBranches bs text) :
    Slot.renderSpaced (bs.map fun b => .node (branchNode b)) = .ok text := by
  induction branches with
  | nil => rfl
  | @cons b bs condition result later first second tail ih =>
    have branch : (branchNode b).render = .ok (branchText condition result) := by
      simp only [branchNode, Node.render, Slot.render, first.rendered, second.rendered]
      rfl
    simp only [List.map_cons, Slot.renderSpaced, Slot.render, branch, ih]
    rfl

theorem RowBut.branch {b : Node × Node} {condition result : String}
    (first : Written .condition .disjunction b.1 condition)
    (second : Written .condition .disjunction b.2 result) (scope : TerminalSet) :
    Row scope [.nonterminal .whenClause] (branchText condition result)
      ((branchNode b).unnumbered, ()) := by
  have row : Row scope
      [.terminal .kwWhen, .nonterminal .expr, .terminal .kwThen, .nonterminal .expr]
      ("WHEN" ++ (" " ++ (condition ++ (" " ++ ("THEN" ++ (" " ++ result))))))
      ((⟨.kwWhen, "WHEN", .start⟩ : Token), b.1.unnumbered, (⟨.kwThen, "THEN", .start⟩ : Token),
        b.2.unnumbered, ()) :=
    .word .kwWhen "WHEN" (by decide) (first.row.before
      (.word .kwThen "THEN" (by decide) second.row))
  have words : branchText condition result =
      "WHEN" ++ (" " ++ (condition ++ (" " ++ ("THEN" ++ (" " ++ result))))) := by
    rw [branchText, show "WHEN " = "WHEN" ++ " " from rfl,
      show " THEN " = " " ++ ("THEN" ++ " ") from rfl]
    simp only [String.append_assoc]
  rw [words]
  exact .production (.expr .whenClause) rfl row rfl

/-- A run of branches grows to the right. -/
theorem WrittenBranches.row {scope : TerminalSet} {earlier all : List Node}
    {bs : List (Node × Node)} (before : Row scope [.nonterminal .whenRun] text (earlier, ()))
    (branches : WrittenBranches bs later)
    (whole : earlier ++ bs.map (fun b => (branchNode b).unnumbered) = all) :
    Row scope [.nonterminal .whenRun] (text ++ later) (all, ()) := by
  induction branches generalizing earlier text with
  | nil =>
    subst whole
    rw [String.append_empty, List.map_nil, List.append_nil]
    exact before
  | @cons b bs condition result later first second tail ih =>
    have longer := before.before (.branch first second _)
    have grown : Row scope [.nonterminal .whenRun] (text ++ (" " ++ branchText condition result))
        (earlier ++ [(branchNode b).unnumbered], ()) :=
      .production (.expr (.whenRun true)) rfl longer rfl
    have rest := ih grown (by simpa using whole)
    simpa only [String.append_assoc] using rest

/-- An optional expression, written behind some words if it is there. -/
inductive WrittenOption (place : Place) (lead : String) : Option Node → String → Prop
  | none : WrittenOption place lead none ""
  | some {x : Node} {text : String} (written : Written place .disjunction x text) :
      WrittenOption place lead (some x) (lead ++ text)

theorem WrittenOption.rendered {lead : String} {value : Option Node}
    (option : WrittenOption place lead value text) :
    (Slot.ofOption value).renderAfter lead = .ok text := by
  cases option with
  | none => rfl
  | some written =>
    simp only [Slot.ofOption, Slot.renderAfter, written.rendered]
    rfl

/-- The end of a case distinction, with or without a last result. -/
theorem WrittenOption.closing {otherwise : Option Node}
    (option : WrittenOption .condition " ELSE " otherwise text) :
    ∃ (later : String) (vs : Values (Grammar.optional otherwise.isSome (.terminal .kwElse)
        (Grammar.optional otherwise.isSome (.nonterminal .expr) [.terminal .kwEnd]))),
      text ++ " END" = " " ++ later ∧ (∀ scope, Row scope _ later vs) ∧
        (Values.split otherwise.isSome (Values.split otherwise.isSome vs).2).1 =
          otherwise.map Node.unnumbered := by
  have last (scope : TerminalSet) : Row scope [.terminal .kwEnd] "END"
      ((⟨.kwEnd, "END", .start⟩ : Token), ()) := .last .kwEnd "END" (by decide)
  cases option with
  | none => exact ⟨"END", _, rfl, last, rfl⟩
  | @some x text written =>
    have row (scope : TerminalSet) :
        Row scope [.terminal .kwElse, .nonterminal .expr, .terminal .kwEnd]
          ("ELSE" ++ (" " ++ (text ++ (" " ++ "END"))))
          ((⟨.kwElse, "ELSE", .start⟩ : Token), x.unnumbered,
            (⟨.kwEnd, "END", .start⟩ : Token), ()) :=
      .word .kwElse "ELSE" (by decide) (written.row.before (last _))
    refine ⟨_, _, ?_, row, rfl⟩
    rw [show " ELSE " = " " ++ ("ELSE" ++ " ") from rfl, show " END" = " " ++ "END" from rfl]
    simp only [String.append_assoc]

/-- All branches, without the space in front of them. -/
theorem WrittenBranches.run {b : Node × Node} {bs : List (Node × Node)}
    (branches : WrittenBranches (b :: bs) text) :
    ∃ later, text = " " ++ later ∧ ∀ scope, Row scope [.nonterminal .whenRun] later
      ((b :: bs).map fun b => (branchNode b).unnumbered, ()) := by
  cases branches with
  | @cons _ _ condition result later first second tail =>
    have begun (scope : TerminalSet) : Row scope [.nonterminal .whenRun]
        (branchText condition result)
        ([(branchNode b).unnumbered], ()) :=
      .production (.expr (.whenRun false)) rfl (.branch first second scope) rfl
    exact ⟨branchText condition result ++ later, String.append_assoc,
      fun scope => tail.row (begun scope) rfl⟩

theorem Node.unnumbered_caseOf (value : Option Node) (branches : List (Node × Node))
    (otherwise : Option Node) :
    (Node.caseOf (.ofOption value) (branches.map fun b => .node (branchNode b))
        (.ofOption otherwise)).unnumbered =
      .caseOf (.ofOption (value.map Node.unnumbered))
        ((branches.map fun b => (branchNode b).unnumbered).map .node)
        (.ofOption (otherwise.map Node.unnumbered)) := by
  have whens := Node.unnumbered_items (branches.map branchNode)
  simp only [List.map_map, Function.comp_def] at whens
  rw [Node.unnumbered, Node.mapMarkers, whens, Slot.mapMarkers_ofOption, Slot.mapMarkers_ofOption,
    List.map_map]
  rfl

theorem Written.caseOf {value otherwise : Option Node} {branches : List (Node × Node)}
    {compared last : String} (occupied : branches ≠ [])
    (operand : WrittenOption .branch " " value compared) (whens : WrittenBranches branches text)
    (option : WrittenOption .condition " ELSE " otherwise last) :
    Written place .simple (.caseOf (.ofOption value) (branches.map fun b => .node (branchNode b))
      (.ofOption otherwise)) ("CASE" ++ compared ++ text ++ last ++ " END") := by
  refine ⟨?_, ?_, ?_⟩
  · simp only [Node.render, operand.rendered, whens.rendered, option.rendered]
    rfl
  · simp only [String.append_assoc, String.toList_append]
    exact opens_cons (by decide) (by decide) _
  · cases branches with
    | nil => exact absurd rfl occupied
    | cons b bs =>
      obtain ⟨run, begins, branches⟩ := whens.run
      obtain ⟨closing, vs, ends, behind, split⟩ := option.closing
      rw [Node.unnumbered_caseOf, ← split]
      simp only [String.append_assoc]
      rw [ends, begins]
      cases operand with
      | none =>
        rw [String.empty_append]
        exact .production (.expr .simpleCase) rfl
          (.production (.expr (.caseOf false otherwise.isSome)) (by cases otherwise <;> rfl)
            (.word .kwCase "CASE" (by decide) ((branches _).before (behind _))) rfl) rfl
      | some written =>
        simp only [String.append_assoc]
        exact .production (.expr .simpleCase) rfl
          (.production (.expr (.caseOf true otherwise.isSome)) (by cases otherwise <;> rfl)
            (.word .kwCase "CASE" (by decide)
              (written.row.before ((branches _).before (behind _)))) rfl) rfl

end SqlSyntax
