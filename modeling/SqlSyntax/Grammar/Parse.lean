import SqlSyntax.Grammar.Automaton

/-! Reading a script. The parser keeps a stack of states with the values read so far. In each state
only the terminals that the state has a use for are looked for in the text. -/

namespace SqlSyntax.Grammar

/-- A state together with the symbol that led to it and the value of that symbol. -/
structure Entry where
  state : Nat
  symbol : Symbol
  value : Except BuildError symbol.Value

abbrev Stack := List Entry

/-- The state on top; the empty stack is in state 0. -/
def Stack.state (s : Stack) : Nat :=
  match s with
  | [] => 0
  | e :: _ => e.state

/-- The values of entries, left to right, that carry the given symbols. The first failure from the
left stands for all. -/
def valuesOf : (symbols : List Symbol) → List Entry → Option (Except BuildError (Values symbols))
  | [], [] => some (.ok ())
  | s :: rest, e :: entries =>
    if h : e.symbol = s then
      match valuesOf rest entries with
      | some vs => some <|
        match e.value, vs with
        | .error err, _ => .error err
        | .ok _, .error err => .error err
        | .ok v, .ok vs => .ok (h ▸ v, vs)
      | none => none
    else none
  | _, _ => none

/-- Replaces the symbols of a right-hand side on top of the stack by the left-hand side. -/
def reduce (a : Automaton) (p : Production) (markers : Nat) (stack : Stack) : Option Stack :=
  let size := p.rhs.length
  let below : Stack := stack.drop size
  match valuesOf p.rhs (stack.take size).reverse, a.row? below.state with
  | some values, some row =>
    match row.gotos.lookup p.lhs with
    | some state =>
      let value : Except BuildError p.lhs.Value :=
        match values with
        | .ok vs => p.build markers vs
        | .error err => .error err
      some (⟨state, .nonterminal p.lhs, value⟩ :: below)
    | none => none
  | _, _ => none

/-- The stack before a terminal, all reductions done. -/
inductive Settled where
  /-- The terminal leads on to a state. -/
  | ready (stack : Stack) (markers : Nat) (state : Nat)
  /-- The script is complete. -/
  | complete (stack : Stack)
  /-- The terminal cannot follow. -/
  | refused

/-- Reduces until the terminal can be shifted or the script is complete. -/
def settle (a : Automaton) (t : Terminal) : Nat → Nat → Stack → Settled
  | 0, _, _ => .refused
  | fuel + 1, markers, stack =>
    match (a.row? (Stack.state stack)).bind (Row.action? · t) with
    | none => .refused
    | some (.shift state) => .ready stack markers state
    | some (.reduce p) =>
      match reduce a p markers stack with
      | none => .refused
      | some reduced =>
        if t = .endOfInput ∧ Stack.state reduced = a.final then .complete reduced
        else settle a t fuel (if p.isMarker then markers + 1 else markers) reduced

/-- Fuel for the reductions on a stack, with room for many at each of its levels. -/
def reductionBound (stack : Stack) : Nat :=
  64 * (stack.length + 1)

inductive SyntaxError where
  /-- The text ends too early. -/
  | unexpectedEnd (position : Position)
  /-- The text goes on in a way that is not possible there. -/
  | unexpected (position : Position) (rest : List Char)
deriving DecidableEq, Repr

/-- The list of statements of a complete script. -/
def scriptOf (stack : Stack) : Except BuildError (List Node) :=
  match stack with
  | ⟨_, .nonterminal .script, value⟩ :: _ => value
  | _ => .ok []

/-- Reads `rest`, which starts at `position`. Every step takes at least one character, so fuel for
one step more than there are characters is enough. -/
def run (a : Automaton) : Nat → Position → List Char → Nat → Stack →
    Except SyntaxError (Except BuildError (List Node))
  | 0, position, rest, _, _ => .error (.unexpected position rest)
  | fuel + 1, position, rest, markers, stack =>
    match Ahead.scan (((a.row? (Stack.state stack)).map Row.expected).getD .empty) rest with
    | .nothing =>
      match settle a .endOfInput (reductionBound stack) markers stack with
      | .complete final => .ok (scriptOf final)
      | _ => .error (.unexpectedEnd position)
    | .blank n => run a fuel (position.after (rest.take n)) (rest.drop n) markers stack
    | .lexeme t n =>
      match settle a t (reductionBound stack) markers stack with
      | .ready settled markers state =>
        let token : Token := ⟨t, String.ofList (rest.take n), position⟩
        run a fuel (position.after (rest.take n)) (rest.drop n) markers
          (⟨state, .terminal t, .ok token⟩ :: settled)
      | _ => .error (.unexpected position rest)
    | .unknown => .error (.unexpected position rest)

/-- The statements of a text. -/
def readScript (a : Automaton) (text : String) :
    Except SyntaxError (Except BuildError (List Node)) :=
  let cs := text.toList
  run a (cs.length + 1) .start cs 0 []

end SqlSyntax.Grammar
