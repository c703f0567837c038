import SqlSyntax.Proofs.Grammar.Moved
import SqlSyntax.Proofs.Grammar.Run

/-!
# Runs that start at another place

A text read from another place on, with some markers numbered before it, is read in the same steps.
Its values differ in the places of their tokens and in the orders of their markers only.
-/

namespace SqlSyntax.Grammar

variable (move : Position → Position) (f : Int → Int)

def Entry.moved (e : Entry) : Entry :=
  ⟨e.state, e.symbol, carried move (e.symbol.moved move f) e.value⟩

def Stack.moved (stack : Stack) : Stack :=
  stack.map (Entry.moved move f)

@[simp]
theorem Stack.state_moved (stack : Stack) :
    Stack.state (Stack.moved move f stack) = Stack.state stack := by
  cases stack <;> rfl

theorem valuesOf_moved (symbols : List Symbol) (entries : List Entry) :
    valuesOf symbols (entries.map (Entry.moved move f)) =
      (valuesOf symbols entries).map (carried move (Values.moved move f symbols)) := by
  induction symbols generalizing entries with
  | nil =>
    cases entries with
    | nil => rfl
    | cons e entries => rfl
  | cons s rest ih =>
    cases entries with
    | nil => rfl
    | cons e entries =>
      obtain ⟨state, symbol, value⟩ := e
      by_cases same : symbol = s
      · subst same
        simp only [List.map_cons, valuesOf, Entry.moved, ih, dif_pos]
        cases valuesOf rest entries with
        | none => rfl
        | some vs => cases value <;> cases vs <;> rfl
      · simp [valuesOf, Entry.moved, same]

variable {move f} {m m' : Nat}

theorem built_moved (counted : (m' : Int) = f m) (p : Production)
    (values : Except BuildError (Values p.rhs)) :
    built p m' (carried move (Values.moved move f p.rhs) values) =
      carried move (p.lhs.moved move f) (built p m values) := by
  cases values with
  | ok vs => exact Production.build_moved counted p vs
  | error err => rfl

theorem reduce_moved (counted : (m' : Int) = f m) (a : Automaton) (p : Production) (stack : Stack) :
    reduce a p m' (Stack.moved move f stack) =
      (reduce a p m stack).map (Stack.moved move f) := by
  have below : (Stack.moved move f stack).drop p.rhs.length =
      Stack.moved move f (stack.drop p.rhs.length) := (List.map_drop ..).symm
  have top : ((Stack.moved move f stack).take p.rhs.length).reverse =
      (stack.take p.rhs.length).reverse.map (Entry.moved move f) := by
    rw [Stack.moved, ← List.map_take, List.map_reverse]
  unfold reduce
  dsimp only
  rw [below, top, valuesOf_moved, Stack.state_moved]
  cases valuesOf p.rhs (stack.take p.rhs.length).reverse with
  | none => rfl
  | some values =>
    cases a.row? (Stack.state (stack.drop p.rhs.length)) with
    | none => rfl
    | some row =>
      dsimp only [Option.map]
      cases row.gotos.lookup p.lhs with
      | none => rfl
      | some target =>
        exact congrArg (fun v => some ((⟨target, .nonterminal p.lhs, v⟩ : Entry) ::
          Stack.moved move f (stack.drop p.rhs.length))) (built_moved counted p values)

/-! ### Settling -/

/-- The place and the marker orders of a text that starts `lines` lines and `chars` characters
later, behind `k` markers. -/
structure Later where
  chars : Nat
  lines : Nat
  markers : Nat

namespace Later

def position (l : Later) (p : Position) : Position :=
  ⟨p.offset + l.chars, p.line + l.lines, p.column⟩

def order (l : Later) (i : Int) : Int :=
  i + l.markers

def stack (l : Later) : Stack → Stack :=
  Stack.moved l.position l.order

def settled (l : Later) : Settled → Settled
  | .ready s m target => .ready (l.stack s) (m + l.markers) target
  | .complete s => .complete (l.stack s)
  | .refused => .refused

def configuration (l : Later) (c : Configuration) : Configuration :=
  ⟨l.position c.position, c.rest, c.markers + l.markers, l.stack c.stack⟩

/-- The outcome of a script that starts later. -/
def outcome (l : Later) : Except BuildError (List Node) → Except BuildError (List Node) :=
  carried l.position (List.map (Node.mapMarkers l.order))

theorem position_next (l : Later) (p : Position) (c : Char) :
    l.position (p.next c) = (l.position p).next c := by
  unfold Position.next
  split
  · simp only [position, Position.mk.injEq, and_true]
    omega
  · simp only [position, Position.mk.injEq, and_true]
    omega

theorem position_after (l : Later) (p : Position) (cs : List Char) :
    l.position (p.after cs) = (l.position p).after cs := by
  induction cs generalizing p with
  | nil => rfl
  | cons c cs ih =>
    change l.position ((p.next c).after cs) = ((l.position p).next c).after cs
    rw [ih, position_next]

theorem reduce (l : Later) (a : Automaton) (p : Production) (m : Nat) (s : Stack) :
    Grammar.reduce a p (m + l.markers) (l.stack s) = (Grammar.reduce a p m s).map l.stack :=
  reduce_moved (by simp [order]) a p s

theorem counted (l : Later) (p : Production) (m : Nat) :
    Grammar.counted p (m + l.markers) = Grammar.counted p m + l.markers := by
  unfold Grammar.counted
  split <;> omega

theorem settle (l : Later) (a : Automaton) (t : Terminal) (fuel m : Nat) (s : Stack) :
    Grammar.settle a t fuel (m + l.markers) (l.stack s) =
      l.settled (Grammar.settle a t fuel m s) := by
  induction fuel generalizing m s with
  | zero => rfl
  | succ fuel ih =>
    have same (s : Stack) : Stack.state (l.stack s) = Stack.state s := Stack.state_moved ..
    cases act : a.action? (Stack.state s) t with
    | none =>
      unfold Automaton.action? at act
      simp [Grammar.settle, same, act, settled]
    | some action =>
      have act' := act
      rw [← same s] at act'
      cases action with
      | shift target => rw [settle_shift act, settle_shift act', settled]
      | reduce p =>
        have moved := l.reduce a p m s
        cases reduced : Grammar.reduce a p m s with
        | none =>
          rw [reduced] at moved
          unfold Automaton.action? at act
          simp [Grammar.settle, same, act, reduced, moved, settled]
        | some s' =>
          rw [reduced] at moved
          by_cases whole : t = .endOfInput ∧ Stack.state s' = a.final
          · obtain ⟨rfl, whole⟩ := whole
            rw [settle_complete act reduced whole,
              settle_complete act' moved ((same s').trans whole), settled]
          · rw [settle_reduce act reduced whole, settle_reduce act' moved (by rwa [same s']),
              l.counted, ih]

/-! ### Steps -/

@[simp]
theorem expected_stack (l : Later) (a : Automaton) (s : Stack) :
    a.expected (l.stack s) = a.expected s := by
  unfold Automaton.expected
  rw [stack, Stack.state_moved]

@[simp]
theorem reductionBound_stack (l : Later) (s : Stack) :
    reductionBound (l.stack s) = reductionBound s := by
  simp [reductionBound, stack, Stack.moved]

theorem step (l : Later) {a : Automaton} {c d : Configuration} (step : Step a c d) :
    Step a (l.configuration c) (l.configuration d) := by
  cases step with
  | blank ahead =>
    unfold configuration
    rw [position_after]
    exact .blank (by rwa [expected_stack])
  | @token position rest m s t n s' m' target ahead ready =>
    unfold configuration
    rw [position_after]
    refine .token (by rwa [expected_stack]) ?_
    rw [reductionBound_stack, l.settle, ready]
    rfl

theorem scriptOf_stack (l : Later) (s : Stack) : scriptOf (l.stack s) = l.outcome (scriptOf s) := by
  match s with
  | [] => rfl
  | ⟨_, .terminal _, _⟩ :: _ => rfl
  | ⟨_, .nonterminal n, _⟩ :: _ => cases n <;> rfl

theorem accepts (l : Later) {a : Automaton} {c : Configuration}
    {outcome : Except BuildError (List Node)} (accepts : Accepts a c outcome) :
    Accepts a (l.configuration c) (l.outcome outcome) := by
  obtain ⟨last, reads, empty, final, complete, rfl⟩ := accepts
  refine ⟨l.configuration last, reads.lift l.configuration fun _ _ => l.step, empty, l.stack final,
    ?_, l.scriptOf_stack final⟩
  change Grammar.settle a .endOfInput (reductionBound (l.stack last.stack))
    (last.markers + l.markers) (l.stack last.stack) = _
  rw [reductionBound_stack, l.settle, complete]
  rfl

end Later

end SqlSyntax.Grammar
