import Mathlib.Data.List.Induction
import SqlSyntax.Proofs.Grammar.Continued
import SqlSyntax.Proofs.Grammar.ReadValues
import SqlSyntax.Script

/-!
# Places in a text

A run counts lines and columns as it goes, token by token. At every point its count is what the text
before that point gives, however the tokens, blanks and comments there are cut. Each token on the
stack stands in the text where it says, and so does the token that a failure to build blames.
Nothing is said about which failure comes first.
-/

namespace SqlSyntax

/-! ### Lines and columns -/

/-- The place behind so many characters, counted anew: a line more for each line feed before it, a
column more for each character since the last one. -/
def placeIn (cs : List Char) (offset : Nat) : Position :=
  let before := cs.take offset
  ⟨offset, 1 + before.count '\n', 1 + (before.reverse.takeWhile (· != '\n')).length⟩

namespace Position

theorem after_concat (p : Position) (cs : List Char) (c : Char) :
    p.after (cs ++ [c]) = (p.after cs).next c := by
  simp [after]

/-- By induction on the characters from the end: the last one starts a line or adds a column. -/
theorem start_after (cs : List Char) :
    start.after cs =
      ⟨cs.length, 1 + cs.count '\n', 1 + (cs.reverse.takeWhile (· != '\n')).length⟩ := by
  induction cs using List.reverseRecOn with
  | nil => rfl
  | append_singleton cs c ih =>
    rw [after_concat, ih, next]
    split
    · rename_i feed
      subst feed
      simp [Nat.add_assoc]
    · rename_i other
      simp [other, Nat.add_comm]

theorem start_after_of_append {cs before rest : List Char} (whole : before ++ rest = cs) :
    start.after before = placeIn cs before.length := by
  subst whole
  rw [start_after, placeIn, List.take_left]

end Position

/-- The token stands in the text at the place that it gives. -/
def Token.Located (cs : List Char) (t : Token) : Prop :=
  ∃ before rest, before ++ (t.text.toList ++ rest) = cs ∧ t.position = Position.start.after before

namespace Grammar

/-! ### Values that are tokens -/

/-- What is asked of tokens holds of a value that is one. -/
def ValueKind.OfToken (T : Token → Prop) : (k : ValueKind) → k.Value → Prop
  | .token, t => T t
  | _, _ => True

def Nonterminal.OfToken (T : Token → Prop) (n : Nonterminal) : n.Value → Prop :=
  n.kind.OfToken T

def Symbol.OfToken (T : Token → Prop) : (s : Symbol) → s.Value → Prop
  | .terminal _, t => T t
  | .nonterminal n, v => n.OfToken T v

/-- The tokens that a failure names. -/
def BuildError.Blames (T : Token → Prop) : BuildError → Prop
  | .numberOutOfRange token => T token
  | .notAggregate name => T name
  | .badLength column length => T column ∧ T length

/-- A value, or a failure, of tokens as asked. -/
def Drawn (T : Token → Prop) (s : Symbol) : Except BuildError s.Value → Prop
  | .ok v => s.OfToken T v
  | .error e => e.Blames T

variable {T : Token → Prop}

theorem numberNode_cases (t : Token) :
    (∃ x, numberNode t = .ok x) ∨ numberNode t = .error (.numberOutOfRange t) := by
  unfold numberNode
  dsimp only
  split_ifs <;> simp

theorem callNode_cases (name : Token) (distinct : Bool) (args : Option CallArguments) :
    (∃ x, callNode name distinct args = .ok x) ∨
      callNode name distinct args = .error (.notAggregate name) := by
  unfold callNode
  dsimp only
  split_ifs <;> simp

theorem lengthOf_cases (column length : Token) :
    (∃ n, lengthOf column length = .ok n) ∨
      lengthOf column length = .error (.badLength column length) := by
  unfold lengthOf
  dsimp only
  split_ifs <;> simp

theorem drawn_of_cases {s : Symbol} {e : BuildError} {outcome : Except BuildError s.Value}
    (decided : (∃ v, outcome = .ok v) ∨ outcome = .error e) (plain : ∀ v, s.OfToken T v)
    (blames : e.Blames T) : Drawn T s outcome := by
  obtain ⟨v, rfl⟩ | rfl := decided
  · exact plain v
  · exact blames

theorem signed_drawn (minus : Bool) {t : Token} (drawn : T t) :
    Drawn T (.nonterminal .defaultValue) (match numberNode t with
      | .ok x => .ok (if minus then .unaryOp "-" (.node x) else x)
      | .error e => .error e) := by
  obtain ⟨x, built⟩ | failed := numberNode_cases t
  · rw [built]
    exact trivial
  · rw [failed]
    exact drawn

theorem measured_drawn {column length : Token} (direction : Option Direction) (drawn : T column)
    (drawn' : T length) :
    Drawn T (.nonterminal .keyPart) (match lengthOf column length with
      | .ok n => .ok (indexPartNode column n direction)
      | .error e => .error e) := by
  obtain ⟨n, built⟩ | failed := lengthOf_cases column length
  · rw [built]
    exact trivial
  · rw [failed]
    exact ⟨drawn, drawn'⟩

/-! ### Productions -/

-- A production whose value is no token and that never fails says nothing about tokens.

theorem ExprRule.build_drawn (markers : Nat) (r : ExprRule) (vs : Values r.rhs)
    (all : Values.All (Symbol.OfToken T) r.rhs vs) :
    Drawn T (.nonterminal r.lhs) (r.build markers vs) := by
  cases r
  case number => exact drawn_of_cases (numberNode_cases vs.1) (fun _ => trivial) all.1
  case call => exact drawn_of_cases (callNode_cases vs.1 _ _) (fun _ => trivial) all.1
  case keywordCall => exact drawn_of_cases (callNode_cases vs.1 _ _) (fun _ => trivial) all.1
  case equals | comparison | functionWord | plainIdent | quotedIdent | identAlone | stringIdent =>
    exact all.1
  all_goals exact trivial

theorem QueryRule.build_drawn (markers : Nat) (r : QueryRule) (vs : Values r.rhs)
    (all : Values.All (Symbol.OfToken T) r.rhs vs) :
    Drawn T (.nonterminal r.lhs) (r.build markers vs) := by
  cases r
  case limitNumber => exact drawn_of_cases (numberNode_cases vs.1) (fun _ => trivial) all.1
  case fieldAlias marked spelling => exact (Values.All.split marked all).2.1
  case tableAlias marked quoted => exact (Values.All.split marked all).2.1
  case tableName qualified => cases qualified <;> exact trivial
  all_goals exact trivial

theorem ManipulationRule.build_drawn (r : ManipulationRule) (vs : Values r.rhs) :
    Drawn T (.nonterminal r.lhs) (r.build vs) := by
  cases r <;> exact trivial

theorem DefinitionRule.build_drawn (r : DefinitionRule) (vs : Values r.rhs)
    (all : Values.All (Symbol.OfToken T) r.rhs vs) :
    Drawn T (.nonterminal r.lhs) (r.build vs) := by
  cases r
  case defaultSigned minus => exact signed_drawn minus all.2.1
  case measuredPart direction => exact measured_drawn direction all.1 all.2.2.1
  all_goals exact trivial

theorem ScriptRule.build_drawn (r : ScriptRule) (vs : Values r.rhs) :
    Drawn T (.nonterminal r.lhs) (r.build vs) := by
  cases r <;> exact trivial

theorem Production.build_drawn (markers : Nat) (p : Production) (vs : Values p.rhs)
    (all : Values.All (Symbol.OfToken T) p.rhs vs) :
    Drawn T (.nonterminal p.lhs) (p.build markers vs) := by
  cases p with
  | script r => exact r.build_drawn vs
  | query r => exact r.build_drawn markers vs all
  | expr r => exact r.build_drawn markers vs all
  | manipulation r => exact r.build_drawn vs
  | definition r => exact r.build_drawn vs all

/-! ### Stacks -/

/-- Every value and every failure on the stack is of tokens as asked. -/
def Stack.Drawn (T : Token → Prop) (stack : Stack) : Prop :=
  ∀ e ∈ stack, Grammar.Drawn T e.symbol e.value

variable {a : Automaton} {t : Terminal} {p : Production} {m m' fuel : Nat} {stack stack' : Stack}

/-- The values of a row of symbols, or the failure in their place. -/
def Values.Drawn (T : Token → Prop) (symbols : List Symbol) :
    Except BuildError (Values symbols) → Prop
  | .ok vs => Values.All (Symbol.OfToken T) symbols vs
  | .error e => e.Blames T

theorem Stack.Drawn.values {symbols : List Symbol} {entries : List Entry}
    {values : Except BuildError (Values symbols)} (drawn : Stack.Drawn T entries)
    (found : valuesOf symbols entries = some values) : Values.Drawn T symbols values := by
  induction symbols generalizing entries with
  | nil =>
    cases entries with
    | nil =>
      obtain rfl : Except.ok () = values := Option.some.inj found
      exact trivial
    | cons e entries => simp [valuesOf] at found
  | cons s rest ih =>
    cases entries with
    | nil => simp [valuesOf] at found
    | cons e entries =>
      obtain ⟨state, symbol, value⟩ := e
      obtain rfl : symbol = s := (List.cons.inj (symbols_of_valuesOf found)).1
      rw [valuesOf_cons] at found
      obtain ⟨later, others, rfl⟩ := Option.map_eq_some_iff.mp found
      have first : Grammar.Drawn T symbol value := drawn _ List.mem_cons_self
      have behind := ih (fun e member => drawn e (List.mem_cons_of_mem _ member)) others
      cases value with
      | error err => exact first
      | ok v =>
        cases later with
        | error err => exact behind
        | ok ws => exact ⟨first, behind⟩

theorem Stack.Drawn.reduce (drawn : Stack.Drawn T stack)
    (reduced : Grammar.reduce a p m stack = some stack') : Stack.Drawn T stack' := by
  obtain ⟨values, target, found, -, rfl⟩ := reduce_eq_some_iff.mp reduced
  have taken : Stack.Drawn T (stack.take p.rhs.length).reverse :=
    fun e member => drawn e (List.mem_of_mem_take (List.mem_reverse.mp member))
  have row := taken.values found
  rintro e (_ | ⟨_, below⟩)
  · cases values with
    | error err => exact row
    | ok vs => exact p.build_drawn m vs row
  · exact drawn e (List.mem_of_mem_drop below)

theorem Stack.Drawn.settle {target : Nat} {settled : Stack} (drawn : Stack.Drawn T stack)
    (ready : Grammar.settle a t fuel m stack = .ready settled m' target) : Stack.Drawn T settled :=
  (settle_keeps (fun _ _ _ _ => Stack.Drawn.reduce) drawn).1 _ _ _ ready

theorem Stack.Drawn.complete {final : Stack} (drawn : Stack.Drawn T stack)
    (complete : Grammar.settle a t fuel m stack = .complete final) : Stack.Drawn T final :=
  (settle_keeps (fun _ _ _ _ => Stack.Drawn.reduce) drawn).2 _ complete

/-- The outcome of a script blames a token as asked. -/
theorem Stack.Drawn.blames {e : BuildError} (drawn : Stack.Drawn T stack)
    (script : scriptOf stack = .error e) : e.Blames T := by
  obtain ⟨state, value, tail, rfl⟩ | none := scriptOf_cases stack
  · have first : Grammar.Drawn T (.nonterminal .script) value := drawn _ List.mem_cons_self
    have failed : value = .error e := script
    rw [failed] at first
    exact first
  · rw [none] at script
    cases script

/-! ### Runs -/

/-- A run has come to a place in the text: its count is right there, and so are the places of all
tokens that it has taken. -/
structure Configuration.Within (cs : List Char) (c : Configuration) : Prop where
  reached : ∃ before, before ++ c.rest = cs ∧ c.position = Position.start.after before
  drawn : Stack.Drawn (Token.Located cs) c.stack

variable {cs : List Char} {c d : Configuration}

theorem Configuration.within_initial (text : String) :
    (Configuration.initial text).Within text.toList :=
  ⟨⟨[], rfl, rfl⟩, fun _ member => nomatch member⟩

/-- What a step takes counts in the same way as if the text were counted anew. -/
theorem Configuration.reached_after {before rest : List Char} {position : Position} (n : Nat)
    (whole : before ++ rest = cs) (place : position = Position.start.after before) :
    ∃ later, later ++ rest.drop n = cs ∧
      position.after (rest.take n) = Position.start.after later := by
  refine ⟨before ++ rest.take n, ?_, ?_⟩
  · rw [List.append_assoc, List.take_append_drop, whole]
  · rw [place, Position.after_append]

theorem Step.within (step : Step a c d) (within : c.Within cs) : d.Within cs := by
  obtain ⟨⟨before, whole, place⟩, drawn⟩ := within
  cases step with
  | @blank position rest m stack n ahead =>
    exact ⟨Configuration.reached_after n whole place, drawn⟩
  | @token position rest m stack t n settled m' target ahead ready =>
    refine ⟨Configuration.reached_after n whole place, ?_⟩
    rintro e (_ | ⟨_, below⟩)
    · refine ⟨before, rest.drop n, ?_, place⟩
      rw [String.toList_ofList, List.take_append_drop]
      exact whole
    · exact drawn.settle ready e below

/-- What a run comes to: a place where the text is refused, or a tree that can not be built because
of a token of the text. -/
def OutcomeWithin (cs : List Char) : Except SyntaxError (Except BuildError (List Node)) → Prop
  | .error (.unexpectedEnd p) => p = Position.start.after cs
  | .error (.unexpected p rest) => ∃ before, before ++ rest = cs ∧ p = Position.start.after before
  | .ok (.error e) => e.Blames (Token.Located cs)
  | .ok (.ok _) => True

theorem run_within (fuel : Nat) (c : Configuration) (within : c.Within cs) :
    OutcomeWithin cs (run a fuel c.position c.rest c.markers c.stack) := by
  induction fuel generalizing c with
  | zero => exact within.reached
  | succ fuel ih =>
    obtain ⟨position, rest, markers, stack⟩ := c
    rw [run]
    cases ahead : Ahead.scan (a.expected stack) rest with
    | nothing =>
      have empty := Ahead.scan_eq_nothing ahead
      rw [Automaton.expected] at ahead
      simp only [ahead]
      cases ended : Grammar.settle a .endOfInput (reductionBound stack) markers stack with
      | complete final =>
        dsimp only
        cases script : scriptOf final with
        | ok statements => exact trivial
        | error e => exact (within.drawn.complete ended).blames script
      | ready | refused =>
        obtain ⟨before, whole, place⟩ := within.reached
        rw [empty, List.append_nil] at whole
        exact whole ▸ place
    | blank n =>
      have onward := ih _ ((Step.blank ahead).within within)
      rw [Automaton.expected] at ahead
      simp only [ahead]
      exact onward
    | lexeme t n =>
      cases ready : Grammar.settle a t (reductionBound stack) markers stack with
      | ready settled markers' target =>
        have onward := ih _ ((Step.token ahead ready).within within)
        rw [Automaton.expected] at ahead
        simp only [ahead, ready]
        exact onward
      | complete | refused =>
        rw [Automaton.expected] at ahead
        simp only [ahead, ready]
        exact within.reached
    | unknown =>
      rw [Automaton.expected] at ahead
      simp only [ahead]
      exact within.reached

end Grammar

end SqlSyntax
