import Mathlib.Logic.Relation
import SqlSyntax.Grammar.Parse
import SqlSyntax.Proofs.Grammar.Rows
import SqlSyntax.Proofs.Lexical.Extent

/-!
# Runs of an automaton

Reading a text is a sequence of steps, each of which takes a blank or a token. The steps are given
without fuel here; `run` with enough fuel accepts exactly what the steps lead to. On every stack
that a run meets, each entry is where the automaton goes from the entry below it.
-/

namespace SqlSyntax.Grammar

namespace Automaton

/-- The terminals that are looked for on a stack. -/
def expected (a : Automaton) (stack : Stack) : TerminalSet :=
  ((a.row? (Stack.state stack)).map Row.expected).getD .empty

def action? (a : Automaton) (state : Nat) (t : Terminal) : Option Action :=
  (a.row? state).bind (Row.action? · t)

theorem contains_expected_iff (a : Automaton) (stack : Stack) (t : Terminal) :
    (a.expected stack).contains t = true ↔
      (a.action? (Stack.state stack) t).isSome = true := by
  unfold expected action?
  cases a.row? (Stack.state stack) with
  | none => simp [TerminalSet.contains_empty]
  | some row => exact row.contains_expected_iff t

/-- Where a symbol leads from a state. -/
def next? (a : Automaton) (state : Nat) (symbol : Symbol) : Option Nat :=
  (a.row? state).bind fun row =>
    match symbol with
    | .terminal t => row.shifts.lookup t
    | .nonterminal n => row.gotos.lookup n

/-- A shift in a table of actions is a move on the terminal. -/
theorem next?_of_shift {a : Automaton} {state target : Nat} {t : Terminal}
    (shift : a.action? state t = some (.shift target)) :
    a.next? state (.terminal t) = some target := by
  obtain ⟨row, found, act⟩ := Option.bind_eq_some_iff.mp shift
  unfold Row.action? at act
  split at act
  · rename_i moved
    cases act
    simp [next?, found, moved]
  · simp at act

theorem action?_of_next? {a : Automaton} {state target : Nat} {t : Terminal}
    (moves : a.next? state (.terminal t) = some target) :
    a.action? state t = some (.shift target) := by
  obtain ⟨row, found, moved⟩ := Option.bind_eq_some_iff.mp moves
  dsimp only at moved
  simp [action?, found, Row.action?, moved]

end Automaton

/-! ### Reductions -/

/-- The value of a reduction. -/
def built (p : Production) (markers : Nat) (values : Except BuildError (Values p.rhs)) :
    Except BuildError p.lhs.Value :=
  match values with
  | .ok vs => p.build markers vs
  | .error err => .error err

variable {a : Automaton} {t : Terminal} {p : Production} {markers markers' fuel state : Nat}
  {stack stack' : Stack}

/-- A value before others; the first failure stands for all. -/
def consValue {s : Symbol} {rest : List Symbol} (v : Except BuildError s.Value)
    (vs : Except BuildError (Values rest)) : Except BuildError (Values (s :: rest)) :=
  match v, vs with
  | .error err, _ => .error err
  | .ok _, .error err => .error err
  | .ok v, .ok vs => .ok (v, vs)

theorem valuesOf_cons {s : Symbol} {rest : List Symbol} (state : Nat)
    (v : Except BuildError s.Value)
    (entries : List Entry) :
    valuesOf (s :: rest) (⟨state, s, v⟩ :: entries) =
      (valuesOf rest entries).map (consValue v) := by
  rw [valuesOf, dif_pos rfl]
  cases valuesOf rest entries with
  | none => rfl
  | some vs => cases v <;> cases vs <;> rfl

theorem valuesOf_cons_of_ne {s symbol : Symbol} {rest : List Symbol} (differs : symbol ≠ s)
    (state : Nat) (v : Except BuildError symbol.Value) (entries : List Entry) :
    valuesOf (s :: rest) (⟨state, symbol, v⟩ :: entries) = none := by
  rw [valuesOf, dif_neg differs]

/-- Entries with values carry the symbols. -/
theorem symbols_of_valuesOf {symbols : List Symbol} {entries : List Entry}
    {values : Except BuildError (Values symbols)} (found : valuesOf symbols entries = some values) :
    entries.map Entry.symbol = symbols := by
  induction symbols generalizing entries with
  | nil =>
    cases entries with
    | nil => rfl
    | cons e entries => simp [valuesOf] at found
  | cons s rest ih =>
    cases entries with
    | nil => simp [valuesOf] at found
    | cons e entries =>
      rw [valuesOf] at found
      split at found
      · rename_i same
        cases later : valuesOf rest entries with
        | none => simp [later] at found
        | some vs => rw [List.map_cons, same, ih later]
      · cases found

theorem reduce_eq_some_iff :
    reduce a p markers stack = some stack' ↔
      ∃ values target, valuesOf p.rhs (stack.take p.rhs.length).reverse = some values ∧
        a.next? (Stack.state (stack.drop p.rhs.length)) (.nonterminal p.lhs) = some target ∧
        stack' = ⟨target, .nonterminal p.lhs, built p markers values⟩ ::
          stack.drop p.rhs.length := by
  unfold reduce Automaton.next?
  dsimp only
  constructor
  · intro reduced
    split at reduced
    · rename_i values row found below
      split at reduced
      · rename_i target moved
        cases reduced
        refine ⟨values, target, found, ?_, rfl⟩
        rw [below]
        exact moved
      · cases reduced
    · cases reduced
  · rintro ⟨values, target, found, moved, rfl⟩
    obtain ⟨row, below, moved⟩ := Option.bind_eq_some_iff.mp moved
    simp only [found, below, moved]
    rfl

/-- How many parameter markers have been numbered after a reduction. -/
def counted (p : Production) (markers : Nat) : Nat :=
  if p.isMarker then markers + 1 else markers

theorem settle_shift {target : Nat}
    (shift : a.action? (Stack.state stack) t = some (.shift target)) :
    settle a t (fuel + 1) markers stack = .ready stack markers target := by
  unfold Automaton.action? at shift
  simp only [settle, shift]

theorem settle_reduce (act : a.action? (Stack.state stack) t = some (.reduce p))
    (reduced : reduce a p markers stack = some stack')
    (goes : ¬(t = .endOfInput ∧ Stack.state stack' = a.final)) :
    settle a t (fuel + 1) markers stack = settle a t fuel (counted p markers) stack' := by
  unfold Automaton.action? at act
  simp only [settle, act, reduced, if_neg goes]
  rfl

theorem settle_complete (act : a.action? (Stack.state stack) .endOfInput = some (.reduce p))
    (reduced : reduce a p markers stack = some stack') (whole : Stack.state stack' = a.final) :
    settle a .endOfInput (fuel + 1) markers stack = .complete stack' := by
  unfold Automaton.action? at act
  simp only [settle, act, reduced, whole, and_self, if_true]

/-- What one round of `settle` can do. -/
theorem settle_cases (a : Automaton) (t : Terminal) (fuel markers : Nat) (stack : Stack) :
    settle a t (fuel + 1) markers stack = .refused ∨
      (∃ target, a.action? (Stack.state stack) t = some (.shift target) ∧
        settle a t (fuel + 1) markers stack = .ready stack markers target) ∨
      ∃ p stack', a.action? (Stack.state stack) t = some (.reduce p) ∧
        reduce a p markers stack = some stack' ∧
        ((t = .endOfInput ∧ Stack.state stack' = a.final ∧
            settle a t (fuel + 1) markers stack = .complete stack') ∨
          ¬(t = .endOfInput ∧ Stack.state stack' = a.final) ∧
            settle a t (fuel + 1) markers stack = settle a t fuel (counted p markers) stack') := by
  cases act : a.action? (Stack.state stack) t with
  | none =>
    left
    unfold Automaton.action? at act
    simp only [settle, act]
  | some action =>
    cases action with
    | shift target => exact .inr (.inl ⟨target, rfl, settle_shift act⟩)
    | reduce p =>
      cases reduced : reduce a p markers stack with
      | none =>
        left
        unfold Automaton.action? at act
        simp only [settle, act, reduced]
      | some stack' =>
        refine .inr (.inr ⟨p, stack', rfl, reduced, ?_⟩)
        by_cases whole : t = .endOfInput ∧ Stack.state stack' = a.final
        · obtain ⟨rfl, whole⟩ := whole
          exact .inl ⟨rfl, whole, settle_complete act reduced whole⟩
        · exact .inr ⟨whole, settle_reduce act reduced whole⟩

/-- A terminal that leads on is looked for. -/
theorem contains_expected_of_ready {settled : Stack} {target : Nat}
    (ready : settle a t fuel markers stack = .ready settled markers' target) :
    (a.expected stack).contains t = true := by
  rw [a.contains_expected_iff]
  cases fuel with
  | zero => cases ready
  | succ fuel =>
    obtain refused | ⟨target, act, _⟩ | ⟨p, stack', act, _⟩ := settle_cases a t fuel markers stack
    · rw [refused] at ready
      cases ready
    · rw [act, Option.isSome_some]
    · rw [act, Option.isSome_some]

/-- More fuel does not change what was reached. -/
theorem settle_mono {more : Nat} (enough : fuel ≤ more)
    (reached : settle a t fuel markers stack ≠ .refused) :
    settle a t more markers stack = settle a t fuel markers stack := by
  induction fuel generalizing more markers stack with
  | zero => exact absurd rfl reached
  | succ fuel ih =>
    obtain ⟨more, rfl⟩ : ∃ k, more = k + 1 := ⟨more - 1, by omega⟩
    obtain refused | ⟨target, act, ready⟩ | ⟨p, stack', act, reduced, last | ⟨goes, next⟩⟩ :=
      settle_cases a t fuel markers stack
    · exact absurd refused reached
    · rw [ready, settle_shift act]
    · obtain ⟨rfl, whole, complete⟩ := last
      rw [complete, settle_complete act reduced whole]
    · rw [next] at reached ⊢
      rw [settle_reduce act reduced goes]
      exact ih (by omega) reached

/-- What every reduction keeps, settling keeps. -/
theorem settle_keeps {I : Stack → Prop}
    (keeps : ∀ p m stack stack', I stack → reduce a p m stack = some stack' → I stack')
    (holds : I stack) :
    (∀ settled markers' target,
        settle a t fuel markers stack = .ready settled markers' target → I settled) ∧
      ∀ final, settle a t fuel markers stack = .complete final → I final := by
  induction fuel generalizing markers stack with
  | zero => exact ⟨nofun, nofun⟩
  | succ fuel ih =>
    obtain refused | ⟨target, act, done⟩ | ⟨p, stack', act, reduced, last | ⟨goes, next⟩⟩ :=
      settle_cases a t fuel markers stack
    · rw [refused]
      exact ⟨nofun, nofun⟩
    · rw [done]
      refine ⟨?_, nofun⟩
      rintro settled markers' target' ⟨⟩
      exact holds
    · rw [last.2.2]
      refine ⟨nofun, ?_⟩
      rintro final ⟨⟩
      exact keeps _ _ _ _ holds reduced
    · rw [next]
      exact ih (keeps _ _ _ _ holds reduced)

/-! ### Stacks as paths -/

/-- Each entry is where its symbol leads from the entry below it. -/
def Stack.IsPath (a : Automaton) : Stack → Prop
  | [] => True
  | e :: below => a.next? (Stack.state below) e.symbol = some e.state ∧ Stack.IsPath a below

theorem Stack.IsPath.drop (path : Stack.IsPath a stack) (n : Nat) :
    Stack.IsPath a (stack.drop n) := by
  induction n generalizing stack with
  | zero => exact path
  | succ n ih =>
    cases stack with
    | nil => trivial
    | cons e below => exact ih path.2

theorem Stack.IsPath.reduce (path : Stack.IsPath a stack)
    (reduced : Grammar.reduce a p markers stack = some stack') : Stack.IsPath a stack' := by
  obtain ⟨values, target, _, moved, rfl⟩ := reduce_eq_some_iff.mp reduced
  exact ⟨moved, path.drop _⟩

theorem Stack.IsPath.settle {settled : Stack} {target : Nat} (path : Stack.IsPath a stack)
    (ready : Grammar.settle a t fuel markers stack = .ready settled markers' target) :
    Stack.IsPath a settled ∧ a.next? (Stack.state settled) (.terminal t) = some target := by
  induction fuel generalizing markers stack with
  | zero => cases ready
  | succ fuel ih =>
    obtain refused | ⟨target', act, done⟩ | ⟨p, stack', act, reduced, last | ⟨goes, next⟩⟩ :=
      settle_cases a t fuel markers stack
    · rw [refused] at ready
      cases ready
    · rw [done] at ready
      cases ready
      exact ⟨path, Automaton.next?_of_shift act⟩
    · rw [last.2.2] at ready
      cases ready
    · rw [next] at ready
      exact ih (path.reduce reduced) ready

theorem Stack.IsPath.settle_complete {final : Stack} (path : Stack.IsPath a stack)
    (complete : Grammar.settle a t fuel markers stack = .complete final) :
    Stack.IsPath a final ∧ Stack.state final = a.final := by
  induction fuel generalizing markers stack with
  | zero => cases complete
  | succ fuel ih =>
    obtain refused | ⟨target, act, done⟩ | ⟨p, stack', act, reduced, last | ⟨goes, next⟩⟩ :=
      settle_cases a t fuel markers stack
    · rw [refused] at complete
      cases complete
    · rw [done] at complete
      cases complete
    · rw [last.2.2] at complete
      cases complete
      exact ⟨path.reduce reduced, last.2.1⟩
    · rw [next] at complete
      exact ih (path.reduce reduced) complete

/-! ### Steps -/

/-- What is left to read, where it starts, and what has been made of the text before it. -/
structure Configuration where
  position : Position
  rest : List Char
  markers : Nat
  stack : Stack

/-- A blank is skipped, or a token is pushed after the reductions that it asks for. -/
inductive Step (a : Automaton) : Configuration → Configuration → Prop where
  | blank {position rest markers stack n}
      (ahead : Ahead.scan (a.expected stack) rest = .blank n) :
      Step a ⟨position, rest, markers, stack⟩
        ⟨position.after (rest.take n), rest.drop n, markers, stack⟩
  | token {position rest markers stack t n settled markers' target}
      (ahead : Ahead.scan (a.expected stack) rest = .lexeme t n)
      (ready : settle a t (reductionBound stack) markers stack = .ready settled markers' target) :
      Step a ⟨position, rest, markers, stack⟩
        ⟨position.after (rest.take n), rest.drop n, markers',
          ⟨target, .terminal t, .ok ⟨t, String.ofList (rest.take n), position⟩⟩ :: settled⟩

/-- The text has been read, and the script is complete with the given outcome. -/
def Ends (a : Automaton) (c : Configuration) (outcome : Except BuildError (List Node)) : Prop :=
  c.rest = [] ∧ ∃ final,
    settle a .endOfInput (reductionBound c.stack) c.markers c.stack = .complete final ∧
      scriptOf final = outcome

def Accepts (a : Automaton) (c : Configuration) (outcome : Except BuildError (List Node)) : Prop :=
  ∃ last, Relation.ReflTransGen (Step a) c last ∧ Ends a last outcome

variable {c d : Configuration} {outcome : Except BuildError (List Node)}

theorem Step.length_lt (step : Step a c d) : d.rest.length < c.rest.length := by
  cases step with
  | blank ahead =>
    have within := Lexeme.blankLength?_within (Ahead.scan_blank ahead)
    simp only [List.length_drop]
    have := within.1
    have := within.2
    omega
  | token ahead ready =>
    have within := Terminal.lexemeLength?_within (Ahead.scan_lexeme ahead).2
    simp only [List.length_drop]
    have := within.1
    have := within.2
    omega

theorem Step.isPath (step : Step a c d) (path : Stack.IsPath a c.stack) :
    Stack.IsPath a d.stack := by
  cases step with
  | blank ahead => exact path
  | token ahead ready =>
    obtain ⟨path, moved⟩ := path.settle ready
    exact ⟨moved, path⟩

theorem Accepts.cases (accepts : Accepts a c outcome) :
    Ends a c outcome ∨ ∃ d, Step a c d ∧ Accepts a d outcome := by
  obtain ⟨last, reads, ends⟩ := accepts
  obtain rfl | ⟨d, step, reads⟩ := reads.cases_head
  · exact .inl ends
  · exact .inr ⟨d, step, last, reads, ends⟩

theorem Accepts.head (step : Step a c d) (accepts : Accepts a d outcome) : Accepts a c outcome := by
  obtain ⟨last, reads, ends⟩ := accepts
  exact ⟨last, .head step reads, ends⟩

theorem Accepts.of_reads (reads : Relation.ReflTransGen (Step a) c d)
    (accepts : Accepts a d outcome) : Accepts a c outcome := by
  obtain ⟨last, later, ends⟩ := accepts
  exact ⟨last, reads.trans later, ends⟩

theorem accepts_iff_of_blank {position : Position} {rest : List Char} {n : Nat}
    (ahead : Ahead.scan (a.expected stack) rest = .blank n) :
    Accepts a ⟨position.after (rest.take n), rest.drop n, markers, stack⟩ outcome ↔
      Accepts a ⟨position, rest, markers, stack⟩ outcome := by
  constructor
  · exact .head (.blank ahead)
  · intro accepts
    obtain ⟨empty, _⟩ | ⟨d, step, accepts⟩ := accepts.cases
    · dsimp only at empty
      rw [empty] at ahead
      cases ahead
    · cases step with
      | blank ahead' =>
        rw [ahead] at ahead'
        cases ahead'
        exact accepts
      | token ahead' =>
        rw [ahead] at ahead'
        cases ahead'

theorem accepts_iff_of_lexeme {position : Position} {rest : List Char} {n : Nat}
    (ahead : Ahead.scan (a.expected stack) rest = .lexeme t n) :
    Accepts a ⟨position, rest, markers, stack⟩ outcome ↔
      ∃ settled markers' target,
        settle a t (reductionBound stack) markers stack = .ready settled markers' target ∧
          Accepts a ⟨position.after (rest.take n), rest.drop n, markers',
            ⟨target, .terminal t, .ok ⟨t, String.ofList (rest.take n), position⟩⟩ :: settled⟩
            outcome := by
  constructor
  · intro accepts
    obtain ⟨empty, _⟩ | ⟨d, step, accepts⟩ := accepts.cases
    · dsimp only at empty
      rw [empty] at ahead
      cases ahead
    · cases step with
      | blank ahead' =>
        rw [ahead] at ahead'
        cases ahead'
      | token ahead' ready =>
        rw [ahead] at ahead'
        cases ahead'
        exact ⟨_, _, _, ready, accepts⟩
  · rintro ⟨settled, markers', target, ready, accepts⟩
    exact .head (.token ahead ready) accepts

theorem not_accepts_of_unknown {position : Position} {rest : List Char}
    (ahead : Ahead.scan (a.expected stack) rest = .unknown) :
    ¬Accepts a ⟨position, rest, markers, stack⟩ outcome := by
  intro accepts
  obtain ⟨empty, _⟩ | ⟨d, step, accepts⟩ := accepts.cases
  · dsimp only at empty
    rw [empty] at ahead
    cases ahead
  · cases step with
    | blank ahead' =>
      rw [ahead] at ahead'
      cases ahead'
    | token ahead' =>
      rw [ahead] at ahead'
      cases ahead'

/-- With fuel for every character left, a run accepts exactly what the steps accept. -/
theorem run_eq_ok_iff {fuel : Nat} (c : Configuration) (enough : c.rest.length < fuel) :
    run a fuel c.position c.rest c.markers c.stack = .ok outcome ↔ Accepts a c outcome := by
  induction fuel generalizing c with
  | zero => omega
  | succ fuel ih =>
    obtain ⟨position, rest, markers, stack⟩ := c
    cases ahead : Ahead.scan (a.expected stack) rest with
    | nothing =>
      have empty := Ahead.scan_eq_nothing ahead
      unfold Automaton.expected at ahead
      simp only [run, ahead]
      constructor
      · intro ended
        split at ended
        · rename_i final complete
          cases ended
          exact ⟨_, .refl, empty, final, complete, rfl⟩
        · cases ended
      · intro accepts
        obtain ⟨_, final, complete, rfl⟩ | ⟨d, step, _⟩ := accepts.cases
        · simp only [complete]
        · have := step.length_lt
          simp [empty] at this
    | blank n =>
      have step : Step a ⟨position, rest, markers, stack⟩ _ := .blank ahead
      have shorter := step.length_lt
      rw [← accepts_iff_of_blank ahead, ← ih _ (by omega)]
      unfold Automaton.expected at ahead
      simp only [run, ahead]
    | lexeme t n =>
      have within := Terminal.lexemeLength?_within (Ahead.scan_lexeme ahead).2
      rw [accepts_iff_of_lexeme ahead]
      unfold Automaton.expected at ahead
      simp only [run, ahead]
      constructor
      · intro goes
        split at goes
        · rename_i settled markers' target ready
          refine ⟨settled, markers', target, ready, (ih _ ?_).mp goes⟩
          have := within.1
          have := within.2
          simp only [List.length_drop] at enough ⊢
          omega
        · cases goes
      · rintro ⟨settled, markers', target, ready, accepts⟩
        simp only [ready]
        refine (ih _ ?_).mpr accepts
        have := within.1
        have := within.2
        simp only [List.length_drop] at enough ⊢
        omega
    | unknown =>
      refine iff_of_false ?_ (not_accepts_of_unknown ahead)
      unfold Automaton.expected at ahead
      simp only [run, ahead]
      exact nofun

/-- The configuration before a text. -/
def Configuration.initial (text : String) : Configuration :=
  ⟨.start, text.toList, 0, []⟩

theorem readScript_eq_ok_iff (text : String) :
    readScript a text = .ok outcome ↔ Accepts a (.initial text) outcome :=
  run_eq_ok_iff (.initial text) (Nat.lt_succ_self _)

end SqlSyntax.Grammar
