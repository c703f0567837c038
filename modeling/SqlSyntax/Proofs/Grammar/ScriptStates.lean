import SqlSyntax.Grammar.StatementAutomaton
import SqlSyntax.Proofs.Grammar.Rows
import SqlSyntax.Proofs.Grammar.Run

/-!
# The states between statements

Nine states of the statement automaton belong to the script itself: nothing has been read (0), the
script is complete (1), items have been read (2), a statement is the first (3) or follows items
(36), and a semicolon closes an item, alone (4, 37) or behind a statement (38, 138). All other
states are inside a statement. They never look at what stands before it, and they treat a semicolon
like the end of the text.
-/

namespace SqlSyntax.Grammar

def Nonterminal.isOuter : Nonterminal → Bool
  | .script | .scriptItems => true
  | _ => false

def Symbol.isOuter : Symbol → Bool
  | .nonterminal n => n.isOuter
  | .terminal _ => false

/-- A production that takes no part in putting statements together. -/
def Production.isInner (p : Production) : Bool :=
  !p.lhs.isOuter && p.rhs.all fun s => !s.isOuter

def outerStates : List Nat :=
  [0, 1, 2, 3, 4, 36, 37, 38, 138]

/-- The row of a state inside a statement. -/
def Row.isInner (r : Row) : Bool :=
  r.shifts.all (fun s => !outerStates.contains s.2 && s.1 != .semicolon && s.1 != .endOfInput) &&
  r.reductions.all (fun e =>
    e.1.isInner && e.2.contains .semicolon == e.2.contains .endOfInput) &&
  r.gotos.all fun g => !outerStates.contains g.2 && !g.1.isOuter

theorem all_isInner :
    statementAutomaton.all (fun state r => outerStates.contains state || r.isInner) = true := by
  decide +kernel

theorem isInner_of_row? {state : Nat} {r : Row} (found : statementAutomaton.row? state = some r)
    (inner : state ∉ outerStates) : r.isInner = true := by
  have passes := Automaton.check_of_all all_isInner found
  simpa [inner] using passes

/-- A production that puts statements together. -/
def Production.isJoining : Production → Bool
  | .script (.script _ _) | .script (.scriptItems _ _) => true
  | _ => false

theorem all_isJoining : (outerStates.all fun state =>
    (statementAutomaton.row? state).all fun r => r.reductions.all fun e => e.1.isJoining) =
      true := by
  decide +kernel

theorem isInner_or_isJoining {state : Nat} {t : Terminal} {p : Production}
    (act : statementAutomaton.action? state t = some (.reduce p)) :
    p.isInner = true ∨ p.isJoining = true := by
  obtain ⟨r, found, act⟩ := Option.bind_eq_some_iff.mp act
  obtain ⟨set, member, _⟩ := Row.mem_reductions_of_action? act
  by_cases outer : state ∈ outerStates
  · have passes := List.all_eq_true.mp all_isJoining state outer
    rw [found] at passes
    exact .inr (List.all_eq_true.mp passes _ member)
  · have inner := isInner_of_row? found outer
    simp only [Row.isInner, Bool.and_eq_true, List.all_eq_true] at inner
    exact .inl (inner.1.2 _ member).1

/-! ### Where the outer states are entered -/

/-- Nothing leads back to the start, and only there a script or its items begin. -/
def Row.entersWell (state : Nat) (r : Row) : Bool :=
  r.shifts.all (fun s => s.2 != 0 && s.2 != 1) &&
  r.gotos.all fun g => g.2 != 0 &&
    match g.1 with
    | .script => state == 0 && g.2 == 1
    | .scriptItems => state == 0 && g.2 == 2
    | _ => g.2 != 1

theorem all_entersWell : statementAutomaton.all Row.entersWell = true := by
  decide +kernel

theorem next?_ne_zero {state : Nat} {s : Symbol}
    (moved : statementAutomaton.next? state s = some 0) : False := by
  obtain ⟨r, found, moved⟩ := Option.bind_eq_some_iff.mp moved
  have passes := Automaton.check_of_all all_entersWell found
  simp only [Row.entersWell, Bool.and_eq_true, List.all_eq_true] at passes
  cases s with
  | terminal t => simpa using passes.1 _ (mem_of_lookup moved)
  | nonterminal n => simpa using passes.2 _ (mem_of_lookup moved)

theorem next?_scriptItems {state target : Nat}
    (moved : statementAutomaton.next? state (.nonterminal .scriptItems) = some target) :
    state = 0 ∧ target = 2 := by
  obtain ⟨r, found, moved⟩ := Option.bind_eq_some_iff.mp moved
  have passes := Automaton.check_of_all all_entersWell found
  simp only [Row.entersWell, Bool.and_eq_true, List.all_eq_true] at passes
  simpa using (passes.2 _ (mem_of_lookup moved)).2

theorem next?_script {state target : Nat}
    (moved : statementAutomaton.next? state (.nonterminal .script) = some target) :
    state = 0 ∧ target = 1 := by
  obtain ⟨r, found, moved⟩ := Option.bind_eq_some_iff.mp moved
  have passes := Automaton.check_of_all all_entersWell found
  simp only [Row.entersWell, Bool.and_eq_true, List.all_eq_true] at passes
  simpa using (passes.2 _ (mem_of_lookup moved)).2

theorem eq_script_of_next? {state : Nat} {s : Symbol}
    (moved : statementAutomaton.next? state s = some 1) : s = .nonterminal .script := by
  obtain ⟨r, found, moved⟩ := Option.bind_eq_some_iff.mp moved
  have passes := Automaton.check_of_all all_entersWell found
  simp only [Row.entersWell, Bool.and_eq_true, List.all_eq_true] at passes
  cases s with
  | terminal t => simpa using passes.1 _ (mem_of_lookup moved)
  | nonterminal n =>
    have entry := (passes.2 _ (mem_of_lookup moved)).2
    split at entry
    · exact congrArg Symbol.nonterminal ‹_›
    · simp at entry
    · simp at entry

/-- Only the empty stack is at the start. -/
theorem eq_nil_of_state_zero {stack : Stack} (path : Stack.IsPath statementAutomaton stack)
    (start : Stack.state stack = 0) : stack = [] := by
  cases stack with
  | nil => rfl
  | cons e below =>
    have moved := path.1
    rw [show e.state = 0 from start] at moved
    exact (next?_ne_zero moved).elim

end SqlSyntax.Grammar
