import Mathlib.Data.List.Find
import SqlSyntax.Proofs.Grammar.BehindItems
import SqlSyntax.Proofs.Grammar.Continued
import SqlSyntax.Proofs.Grammar.MarkerRun
import SqlSyntax.Proofs.Grammar.MovedRun
import SqlSyntax.Script

/-!
# Scripts one behind the other

Two scripts with a semicolon on a line of its own between them are read as one: first the statements
of the one, then those of the other, whose markers go on counting where the first script stopped.

A semicolon brings about the same reductions as the end of the text, up to the point where the
script would be complete. The statements so far then become items, and the second script is read
behind them.
-/

namespace SqlSyntax.Grammar

/-! ### A semicolon in place of the end -/

theorem Row.action?_semicolon {r : Row} (inner : r.isInner = true) :
    r.action? .semicolon = r.action? .endOfInput := by
  simp only [isInner, Bool.and_eq_true, List.all_eq_true, bne_iff_ne, beq_iff_eq] at inner
  obtain ⟨⟨shifts, reductions⟩, -⟩ := inner
  have semicolon : r.shifts.lookup .semicolon = none := by
    rw [List.lookup_eq_none_iff]
    intro s member
    simpa using Ne.symm (shifts s member).1.2
  have ending : r.shifts.lookup .endOfInput = none := by
    rw [List.lookup_eq_none_iff]
    intro s member
    simpa using Ne.symm (shifts s member).2
  have same : (r.reductions.find? fun e => e.2.contains .semicolon) =
      r.reductions.find? fun e => e.2.contains .endOfInput :=
    List.find?_congr fun e member => (reductions e member).2
  rw [action?, action?, semicolon, ending, same]

variable {stack settled final : Stack} {m m' fuel : Nat}

/-- Values with the token of a terminal behind them. -/
def Values.snoc {t : Terminal} (token : Token) :
    (symbols : List Symbol) → Values symbols → Values (symbols ++ [.terminal t])
  | [], _ => (token, ())
  | _ :: rest, (v, vs) => (v, Values.snoc token rest vs)

theorem valuesOf_snoc {t : Terminal} (token : Token) (state : Nat) {symbols : List Symbol}
    {entries : List Entry} {values : Except BuildError (Values symbols)}
    (found : valuesOf symbols entries = some values) :
    valuesOf (symbols ++ [.terminal t]) (entries ++ [⟨state, .terminal t, .ok token⟩]) =
      some (values.map (Values.snoc token symbols)) := by
  induction symbols generalizing entries with
  | nil =>
    cases entries with
    | nil =>
      cases found
      exact valuesOf_cons (s := .terminal t) state (.ok token) []
    | cons e entries => simp [valuesOf] at found
  | cons s rest ih =>
    cases entries with
    | nil => simp [valuesOf] at found
    | cons e entries =>
      obtain ⟨below, symbol, v⟩ := e
      obtain rfl : symbol = s := (List.cons.inj (symbols_of_valuesOf found)).1
      rw [valuesOf_cons] at found
      obtain ⟨vs, later, rfl⟩ := Option.map_eq_some_iff.mp found
      refine ((valuesOf_cons below v _).trans (congrArg _ (ih later))).trans ?_
      cases v <;> cases vs <;> rfl

/-- The semicolon behind a script closes an item with the statements of the script. -/
theorem reduce_closed_item {more last : Bool} (path : Stack.IsPath statementAutomaton settled)
    (reduced : reduce statementAutomaton (.script (.script more last)) m settled = some final)
    (target : Nat) (token : Token) (m' : Nat) :
    reduce statementAutomaton (.script (.scriptItems more last)) m'
        (⟨target, .terminal .semicolon, .ok token⟩ :: settled) =
      some [⟨2, .nonterminal .scriptItems, scriptOf final⟩] := by
  obtain ⟨values, one, found, moved, rfl⟩ := whole_of_reduce path rfl reduced
  have closed := valuesOf_snoc (t := .semicolon) token target found
  rw [← List.reverse_cons] at closed
  have start : statementAutomaton.next? 0 (.nonterminal .scriptItems) = some 2 := rfl
  cases more <;> cases last
  · refine (reduce_whole (p := .script (.scriptItems false false)) closed start).trans ?_
    cases values <;> rfl
  · refine (reduce_whole (p := .script (.scriptItems false true)) closed start).trans ?_
    cases values <;> rfl
  · refine (reduce_whole (p := .script (.scriptItems true false)) closed start).trans ?_
    cases values <;> rfl
  · refine (reduce_whole (p := .script (.scriptItems true true)) closed start).trans ?_
    cases values <;> rfl

/-- The states in which the text may end. -/
def endStates : List Nat :=
  [0, 2, 3, 36]

theorem actions_of_endState {state : Nat} (ends : state ∈ endStates) :
    ∃ more last target,
      statementAutomaton.action? state .endOfInput = some (.reduce (.script (.script more last))) ∧
      statementAutomaton.action? state .semicolon = some (.shift target) ∧
      statementAutomaton.row? target =
        some ⟨[], [(.script (.scriptItems more last), Table.lookahead1)], []⟩ := by
  simp only [endStates, List.mem_cons, List.not_mem_nil, or_false] at ends
  obtain rfl | rfl | rfl | rfl := ends
  · exact ⟨false, false, 4, rfl, rfl, rfl⟩
  · exact ⟨true, false, 37, rfl, rfl, rfl⟩
  · exact ⟨false, true, 38, rfl, rfl, rfl⟩
  · exact ⟨true, true, 138, rfl, rfl, rfl⟩

/-- The other outer states close an item or are at the end. -/
theorem row?_of_outer {state : Nat} (outer : state ∈ outerStates) (goes : state ∉ endStates) :
    ∃ reductions, statementAutomaton.row? state = some ⟨[], reductions, []⟩ ∧
      ∀ e ∈ reductions, e.1.lhs = .scriptItems ∧ e.2 = Table.lookahead1 := by
  obtain rfl | rfl | rfl | rfl | rfl :
      state = 1 ∨ state = 4 ∨ state = 37 ∨ state = 38 ∨ state = 138 := by
    revert state
    decide
  · exact ⟨[], rfl, fun e member => (List.not_mem_nil member).elim⟩
  all_goals exact ⟨_, rfl, List.forall_mem_singleton.mpr ⟨rfl, rfl⟩⟩

theorem action?_semicolon {state : Nat} (goes : state ∉ endStates) :
    statementAutomaton.action? state .semicolon =
      statementAutomaton.action? state .endOfInput := by
  unfold Automaton.action?
  by_cases outer : state ∈ outerStates
  · obtain ⟨reductions, found, closes⟩ := row?_of_outer outer goes
    have same : (reductions.find? fun e => e.2.contains .semicolon) =
        reductions.find? fun e => e.2.contains .endOfInput := by
      apply List.find?_congr
      intro e member
      rw [(closes e member).2]
      decide
    simp only [found, Option.bind_some, Row.action?, List.lookup_nil, same]
  · cases found : statementAutomaton.row? state with
    | none => rw [Option.bind_none, Option.bind_none]
    | some r => exact Row.action?_semicolon (isInner_of_row? found outer)

theorem lhs_ne_script {state : Nat} {t : Terminal} {p : Production} (goes : state ∉ endStates)
    (act : statementAutomaton.action? state t = some (.reduce p)) : p.lhs ≠ .script := by
  obtain ⟨r, found, act⟩ := Option.bind_eq_some_iff.mp act
  obtain ⟨set, member, _⟩ := Row.mem_reductions_of_action? act
  by_cases outer : state ∈ outerStates
  · obtain ⟨reductions, found', closes⟩ := row?_of_outer outer goes
    cases found.symm.trans found'
    rw [(closes _ member).1]
    exact nofun
  · have inner := isInner_of_row? found outer
    simp only [Row.isInner, Bool.and_eq_true, List.all_eq_true] at inner
    have := (inner.1.2 _ member).1
    intro same
    simp [Production.isInner, same, Nonterminal.isOuter] at this

/-- Before a semicolon the stack is reduced as at the end of the text, but for the last
reduction. -/
theorem settle_semicolon (path : Stack.IsPath statementAutomaton stack)
    (complete : settle statementAutomaton .endOfInput fuel m stack = .complete final) :
    ∃ settled m' target more last,
      settle statementAutomaton .semicolon fuel m stack = .ready settled m' target ∧
      Stack.IsPath statementAutomaton settled ∧
      reduce statementAutomaton (.script (.script more last)) m' settled = some final ∧
      statementAutomaton.row? target =
        some ⟨[], [(.script (.scriptItems more last), Table.lookahead1)], []⟩ := by
  induction fuel generalizing m stack with
  | zero => cases complete
  | succ fuel ih =>
    by_cases ends : Stack.state stack ∈ endStates
    · obtain ⟨more, last, target, ending, shift, row⟩ := actions_of_endState ends
      refine ⟨stack, m, target, more, last, settle_shift shift, path, ?_, row⟩
      obtain refused | ⟨_, act, _⟩ | ⟨p, stack', act, reduced, whole | ⟨goes, next⟩⟩ :=
        settle_cases statementAutomaton .endOfInput fuel m stack
      · rw [refused] at complete
        cases complete
      · rw [ending] at act
        cases act
      · rw [ending] at act
        cases act
        rw [whole.2.2] at complete
        cases complete
        exact reduced
      · rw [ending] at act
        cases act
        obtain ⟨values, one, _, moved, rfl⟩ := whole_of_reduce path rfl reduced
        obtain ⟨-, rfl⟩ := next?_script moved
        exact absurd ⟨rfl, rfl⟩ goes
    · have same := action?_semicolon ends
      obtain refused | ⟨_, act, done⟩ | ⟨p, stack', act, reduced, whole | ⟨goes, next⟩⟩ :=
        settle_cases statementAutomaton .endOfInput fuel m stack
      · rw [refused] at complete
        cases complete
      · rw [done] at complete
        cases complete
      · obtain ⟨values, target, _, moved, rfl⟩ := reduce_eq_some_iff.mp reduced
        rw [show target = 1 from whole.2.1] at moved
        have := eq_script_of_next? moved
        exact absurd (Symbol.nonterminal.inj this) (lhs_ne_script ends act)
      · rw [next] at complete
        obtain ⟨settled, m', target, more, last, ready, rest⟩ := ih (path.reduce reduced) complete
        refine ⟨settled, m', target, more, last, ?_, rest⟩
        rw [← same] at act
        rw [settle_reduce act reduced nofun, ready]

/-! ### Behind the semicolon -/

/-- The stack when items with the given statements have been read. -/
def itemStack (items : List Node) : Stack :=
  [⟨2, .nonterminal .scriptItems, .ok items⟩]

variable {items : List Node} {t : Terminal}

theorem action?_itemStack {p : Production}
    (act : statementAutomaton.action? 2 t = some (.reduce p)) :
    p = .script (.script true false) ∧ t = .endOfInput := by
  obtain ⟨r, found, act⟩ := Option.bind_eq_some_iff.mp act
  obtain ⟨set, member, holds⟩ := Row.mem_reductions_of_action? act
  have row : statementAutomaton.row? 2 =
      some ⟨_, [(.script (.script true false), Table.lookahead0)], _⟩ := rfl
  cases found.symm.trans row
  cases List.mem_singleton.mp member
  exact ⟨rfl, List.mem_singleton.mp ((TerminalSet.contains_ofList_iff _ _).mp holds)⟩

/-- Behind items the next terminal is shifted at once, or the script is complete. -/
theorem settle_itemStack (t : Terminal) (fuel m : Nat)
    (reached : settle statementAutomaton t (fuel + 1) m (itemStack items) ≠ .refused) :
    settle statementAutomaton t (fuel + 1) m (itemStack items) =
      settle statementAutomaton t 1 m (itemStack items) := by
  obtain refused | ⟨target, act, ready⟩ | ⟨p, stack', act, reduced, whole | ⟨goes, next⟩⟩ :=
    settle_cases statementAutomaton t fuel m (itemStack items)
  · exact absurd refused reached
  · rw [ready, settle_shift act]
  · obtain ⟨rfl, whole, complete⟩ := whole
    rw [complete, settle_complete act reduced whole]
  · obtain ⟨rfl, rfl⟩ := action?_itemStack act
    obtain ⟨values, target, _, moved, rfl⟩ := reduce_eq_some_iff.mp reduced
    obtain ⟨-, rfl⟩ := next?_script moved
    exact absurd ⟨rfl, rfl⟩ goes

/-- A closed item stands for the items with its statements. -/
structure ClosesItem (p : Production) (items : List Node) (stack : Stack) : Prop where
  row : statementAutomaton.row? (Stack.state stack) = some ⟨[], [(p, Table.lookahead1)], []⟩
  reduced : ∀ m, reduce statementAutomaton p m stack = some (itemStack items)
  unmarked : p.isMarker = false

variable {p : Production}

theorem ClosesItem.expected (closes : ClosesItem p items stack) :
    statementAutomaton.expected stack = statementAutomaton.expected (itemStack items) := by
  have same : TerminalSet.union (.ofList []) Table.lookahead1 =
      ((statementAutomaton.row? 2).map Row.expected).getD .empty := by
    decide
  unfold Automaton.expected
  rw [closes.row]
  exact same

theorem ClosesItem.settle (closes : ClosesItem p items stack) (m : Nat)
    (reached : Grammar.settle statementAutomaton t (reductionBound (itemStack items)) m
      (itemStack items) ≠ .refused) :
    Grammar.settle statementAutomaton t (reductionBound stack) m stack =
      Grammar.settle statementAutomaton t (reductionBound (itemStack items)) m
        (itemStack items) := by
  obtain ⟨bound, items_bound⟩ : ∃ k, reductionBound (itemStack items) = k + 1 := ⟨127, rfl⟩
  obtain ⟨fuel, stack_bound⟩ : ∃ k, reductionBound stack = k + 2 :=
    ⟨64 * (stack.length + 1) - 2, by unfold reductionBound; omega⟩
  rw [items_bound] at reached ⊢
  have expected : (statementAutomaton.expected stack).contains t = true := by
    rw [closes.expected, Automaton.contains_expected_iff]
    obtain refused | ⟨target, act, _⟩ | ⟨p, stack', act, _⟩ :=
      settle_cases statementAutomaton t bound m (itemStack items)
    · exact absurd refused reached
    · rw [act, Option.isSome_some]
    · rw [act, Option.isSome_some]
  have act : statementAutomaton.action? (Stack.state stack) t = some (.reduce p) := by
    rw [Automaton.contains_expected_iff] at expected
    unfold Automaton.action? at expected ⊢
    rw [closes.row] at expected ⊢
    simp only [Option.bind_some, Row.action?, List.lookup_nil, Option.isSome_map,
      List.find?_singleton] at expected ⊢
    split at expected
    · rename_i holds
      rw [if_pos holds]
      rfl
    · cases expected
  have once := settle_itemStack t bound m reached
  have goes : ¬(t = .endOfInput ∧ Stack.state (itemStack items) = statementAutomaton.final) := by
    rintro ⟨-, whole⟩
    cases whole
  rw [stack_bound, settle_reduce act (closes.reduced m) goes, counted, closes.unmarked,
    if_neg Bool.false_ne_true, once]
  exact settle_mono (by omega) (by rwa [← once])

theorem ClosesItem.accepts (closes : ClosesItem p items stack) {position : Position}
    {rest : List Char} {outcome : Except BuildError (List Node)}
    (accepts : Accepts statementAutomaton ⟨position, rest, m, itemStack items⟩ outcome) :
    Accepts statementAutomaton ⟨position, rest, m, stack⟩ outcome := by
  obtain ⟨last, reads, ends⟩ := accepts
  generalize start : (⟨position, rest, m, itemStack items⟩ : Configuration) = c at reads
  induction reads using Relation.ReflTransGen.head_induction_on generalizing position rest m with
  | refl =>
    subst start
    obtain ⟨empty, final, complete, rfl⟩ := ends
    refine ⟨_, .refl, empty, final, ?_, rfl⟩
    exact (closes.settle m (by rw [complete]; exact nofun)).trans complete
  | head step reads ih =>
    subst start
    cases step with
    | blank ahead => exact .head (.blank (by rwa [closes.expected])) (ih rfl)
    | token ahead ready =>
      refine .head (.token (by rwa [closes.expected]) ?_) ⟨last, reads, ends⟩
      rw [closes.settle m (by rw [ready]; exact nofun), ready]

/-! ### The whole text -/

/-- What holds of every stack of a run that started with none. -/
theorem reads_isPath {a : Automaton} {c last : Configuration}
    (reads : Relation.ReflTransGen (Step a) c last) (path : Stack.IsPath a c.stack) :
    Stack.IsPath a last.stack := by
  induction reads with
  | refl => exact path
  | tail _ step ih => exact step.isPath ih

theorem reads_counts {a : Automaton} {c last : Configuration}
    (reads : Relation.ReflTransGen (Step a) c last) (counts : Stack.Counts c.markers c.stack) :
    Stack.Counts last.markers last.stack := by
  induction reads with
  | refl => exact counts
  | tail _ step ih => exact step.counts ih

theorem scan_semicolon {expected : TerminalSet} (member : expected.contains .semicolon = true)
    (rest : List Char) : Ahead.scan expected (';' :: rest) = .lexeme .semicolon 1 := by
  apply Ahead.scan_eq_lexeme _ _ member
  · have spelled (cs : List Char) :
        Terminal.semicolon.lexemeLength? cs = Lexeme.symbolLength? ";" cs := rfl
    rw [spelled]
    simp [Lexeme.symbolLength?]
    rfl
  · intro s n _ found
    have only : ∀ s : Terminal, s.startsUnspelled ';' = true → s = .semicolon := by decide +kernel
    apply only s
    rw [← Terminal.starts_of_isMark (by decide)]
    exact Terminal.starts_of_lexemeLength? found
  · simp [Lexeme.blankLength?, Text.isLayout]
  · decide

/-- Behind a script that is complete, a semicolon on the next line leads on to the rest. -/
theorem accepts_semicolon {c : Configuration} {rest : List Char}
    {outcome : Except BuildError (List Node)}
    (path : Stack.IsPath statementAutomaton c.stack) (counts : Stack.Counts c.markers c.stack)
    (ends : Ends statementAutomaton c (.ok items))
    (accepts : Accepts statementAutomaton
      ⟨((c.position.next '\n').next ';').next '\n', rest, (markersOf items).length,
        itemStack items⟩ outcome) :
    Accepts statementAutomaton (c.followed (';' :: '\n' :: rest)) outcome := by
  obtain ⟨empty, final, complete, read⟩ := ends
  obtain ⟨settled, m', target, more, last, ready, path', reduced, row⟩ :=
    settle_semicolon path complete
  obtain ⟨value, rfl⟩ := eq_script_of_complete path complete
  obtain rfl : value = .ok items := read
  -- The statements of the script hold as many markers as have been numbered.
  have numbered : (markersOf items).length = m' := by
    have counted := (counts.settle ready).reduce reduced
    have sound : ∀ e ∈ ([⟨1, .nonterminal .script, .ok items⟩] : Stack), e.IsSound :=
      List.forall_mem_singleton.mpr ⟨items, rfl⟩
    have := counted sound
    rwa [List.flatMap_singleton] at this
  have expected : (statementAutomaton.expected c.stack).contains .semicolon = true := by
    rw [Automaton.contains_expected_iff]
    obtain refused | ⟨_, act, _⟩ | ⟨_, _, act, _⟩ :=
      settle_cases statementAutomaton .semicolon (64 * (c.stack.length + 1) - 1) c.markers c.stack
    · cases refused.symm.trans ready
    · rw [act, Option.isSome_some]
    · rw [act, Option.isSome_some]
  have closes (token : Token) : ClosesItem (.script (.scriptItems more last)) items
      (⟨target, .terminal .semicolon, .ok token⟩ :: settled) :=
    ⟨row, reduce_closed_item path' reduced target token, rfl⟩
  rw [numbered] at accepts
  unfold Configuration.followed
  rw [empty, List.nil_append]
  apply accepts_of_lineFeed
  rw [accepts_iff_of_lexeme (scan_semicolon expected _)]
  exact ⟨settled, m', target, ready, accepts_of_lineFeed ((closes _).accepts accepts)⟩

end SqlSyntax.Grammar

namespace SqlSyntax.Script

open SqlSyntax.Grammar

theorem parse_eq_ok_iff (sql : String) (statements : List Node) :
    parse sql = .ok statements ↔
      Accepts statementAutomaton (.initial sql) (.ok statements) := by
  rw [← readScript_eq_ok_iff]
  unfold parse
  cases readScript statementAutomaton sql with
  | error e => simp
  | ok outcome => cases outcome <;> simp

/-- Reading distributes over scripts with a semicolon between them. -/
theorem parse_joined {first second : String} {earlier later : List Node}
    (reads_first : parse first = .ok earlier) (reads_second : parse second = .ok later) :
    parse (first ++ "\n;\n" ++ second) =
      .ok (earlier ++ later.map (Node.mapMarkers (· + (earlier.flatMap Node.markers).length))) := by
  rw [parse_eq_ok_iff] at *
  obtain ⟨last, reads, ends⟩ := reads_first
  have path := reads_isPath reads trivial
  have counts := reads_counts reads fun _ => rfl
  -- The place behind the semicolon and its line feed is the start of a line.
  let l : Later := ⟨last.position.offset + 3, last.position.line + 1, (markersOf earlier).length⟩
  have start : ((last.position.next '\n').next ';').next '\n' = l.position .start := by
    have semicolon : (';' : Char) ≠ '\n' := by decide
    simp only [Position.next, if_true, if_neg semicolon, Later.position, Position.start, l,
      Position.mk.injEq, and_true]
    omega
  have behind : Accepts statementAutomaton
      ⟨((last.position.next '\n').next ';').next '\n', second.toList, (markersOf earlier).length,
        itemStack earlier⟩
      (.ok (earlier ++ later.map (Node.mapMarkers l.order))) := by
    have path : Stack.IsPath statementAutomaton
        (l.configuration (Configuration.initial second)).stack := trivial
    have accepts := (l.accepts reads_second).behind earlier path
    simp only [Later.configuration, Configuration.behind, Configuration.initial, Nat.zero_add]
      at accepts
    rw [start]
    exact accepts
  have whole := accepts_followed (c := .initial first) trivial reads ends
    (accepts_semicolon path counts ends behind)
  have text : (Configuration.initial first).followed (';' :: '\n' :: second.toList) =
      .initial (first ++ "\n;\n" ++ second) := by
    simp [Configuration.followed, Configuration.initial]
  have order : l.order = (· + ((earlier.flatMap Node.markers).length : Int)) := by
    funext i
    simp [Later.order, l, markersOf]
  rwa [text, order] at whole

/-- The statement `SELECT ?` with a marker of the given order. -/
def markedSelect (order : Int) : Node :=
  .select false (.node (.fieldList [.node (.selectField .empty (.node (.paramMarker order)) "")]))
    .empty .empty .empty .empty .empty .empty ""

theorem parse_joined_selects :
    parse "SELECT ?--" = .ok [markedSelect 0] ∧ parse ";SELECT ?" = .ok [markedSelect 0] ∧
      parse ("SELECT ?--" ++ "\n;\n" ++ ";SELECT ?") = .ok [markedSelect 0, markedSelect 1] := by
  have first : parse "SELECT ?--" = .ok [markedSelect 0] := by rfl
  have second : parse ";SELECT ?" = .ok [markedSelect 0] := by rfl
  exact ⟨first, second, parse_joined first second⟩

end SqlSyntax.Script
