import SqlSyntax.Proofs.Grammar.Run

/-!
# What holds of all values

A property that all tokens have and that every production passes on from the values of its symbols
to the value it builds holds of all values that a run puts on its stack, and so of the script.
-/

namespace SqlSyntax.Grammar

/-- The property holds of each value of a row of symbols. -/
def Values.All (P : (s : Symbol) → s.Value → Prop) : (symbols : List Symbol) → Values symbols → Prop
  | [], _ => True
  | s :: rest, vs => P s vs.1 ∧ Values.All P rest vs.2

/-- An optional symbol has the property if it is there, and the others have it. -/
theorem Values.All.split {P : (s : Symbol) → s.Value → Prop} {s : Symbol} {rest : List Symbol}
    (present : Bool) {vs : Values (optional present s rest)}
    (all : Values.All P (optional present s rest) vs) :
    (∀ v, (Values.split present vs).1 = some v → P s v) ∧
      Values.All P rest (Values.split present vs).2 := by
  cases present with
  | false => exact ⟨nofun, all⟩
  | true =>
    refine ⟨?_, all.2⟩
    rintro v ⟨⟩
    exact all.1

theorem Values.All.choose {P : (s : Symbol) → s.Value → Prop} {rest : List Symbol}
    (t : Option Terminal) {vs : Values (choice t rest)} (all : Values.All P (choice t rest) vs) :
    Values.All P rest (Values.choose t vs).2 := by
  cases t with
  | none => exact all
  | some t => exact all.2

/-- The property holds of the values of tokens and is passed on by productions. -/
structure Inherited (P : (s : Symbol) → s.Value → Prop) : Prop where
  token : ∀ (t : Terminal) (cs : List Char) (n : Nat) (position : Position),
    t.lexemeLength? cs = some n → P (.terminal t) ⟨t, String.ofList (cs.take n), position⟩
  production : ∀ (p : Production) (markers : Nat) (vs : Values p.rhs) (v : p.lhs.Value),
    Values.All P p.rhs vs → p.build markers vs = .ok v → P (.nonterminal p.lhs) v

/-- The property holds of every value on the stack. -/
def Stack.Holds (P : (s : Symbol) → s.Value → Prop) (stack : Stack) : Prop :=
  ∀ e ∈ stack, ∀ v, e.value = .ok v → P e.symbol v

variable {P : (s : Symbol) → s.Value → Prop} {a : Automaton} {t : Terminal} {p : Production}
  {m m' fuel : Nat} {stack stack' : Stack}

theorem Stack.Holds.values {symbols : List Symbol} {entries : List Entry} {vs : Values symbols}
    (holds : Stack.Holds P entries) (found : valuesOf symbols entries = some (.ok vs)) :
    Values.All P symbols vs := by
  induction symbols generalizing entries with
  | nil => trivial
  | cons s rest ih =>
    cases entries with
    | nil => simp [valuesOf] at found
    | cons e entries =>
      obtain ⟨state, symbol, value⟩ := e
      obtain rfl : symbol = s := (List.cons.inj (symbols_of_valuesOf found)).1
      rw [valuesOf_cons] at found
      obtain ⟨later, others, joined⟩ := Option.map_eq_some_iff.mp found
      cases value with
      | error err => cases joined
      | ok v =>
        cases later with
        | error err => cases joined
        | ok ws =>
          cases joined
          exact ⟨holds _ List.mem_cons_self v rfl,
            ih (fun e member => holds e (List.mem_cons_of_mem _ member)) others⟩

theorem Stack.Holds.reduce (inherited : Inherited P) (holds : Stack.Holds P stack)
    (reduced : Grammar.reduce a p m stack = some stack') : Stack.Holds P stack' := by
  obtain ⟨values, target, found, _, rfl⟩ := reduce_eq_some_iff.mp reduced
  rintro e (_ | ⟨_, below⟩) v carried
  · cases values with
    | error err => cases carried
    | ok vs =>
      refine inherited.production p m vs v (Stack.Holds.values (fun e member => ?_) found) carried
      exact holds e (List.mem_of_mem_take (List.mem_reverse.mp member))
  · exact holds e (List.mem_of_mem_drop below) v carried

theorem Stack.Holds.settle {target : Nat} {settled : Stack} (inherited : Inherited P)
    (holds : Stack.Holds P stack)
    (ready : Grammar.settle a t fuel m stack = .ready settled m' target) :
    Stack.Holds P settled :=
  (settle_keeps (fun _ _ _ _ holds => Stack.Holds.reduce inherited holds) holds).1 _ _ _ ready

theorem Stack.Holds.complete {final : Stack} (inherited : Inherited P) (holds : Stack.Holds P stack)
    (complete : Grammar.settle a t fuel m stack = .complete final) : Stack.Holds P final :=
  (settle_keeps (fun _ _ _ _ holds => Stack.Holds.reduce inherited holds) holds).2 _ complete

theorem Step.holds {c d : Configuration} (inherited : Inherited P) (step : Step a c d)
    (holds : Stack.Holds P c.stack) : Stack.Holds P d.stack := by
  cases step with
  | blank ahead => exact holds
  | token ahead ready =>
    rintro e (_ | ⟨_, below⟩) v carried
    · cases carried
      exact inherited.token _ _ _ _ (Ahead.scan_lexeme ahead).2
    · exact holds.settle inherited ready e below v carried

theorem Stack.Holds.reads {c d : Configuration} (inherited : Inherited P)
    (reads : Relation.ReflTransGen (Step a) c d) (holds : Stack.Holds P c.stack) :
    Stack.Holds P d.stack := by
  induction reads with
  | refl => exact holds
  | tail _ step ih => exact step.holds inherited ih

theorem scriptOf_cases (stack : Stack) :
    (∃ state value tail, stack = ⟨state, .nonterminal .script, value⟩ :: tail) ∨
      scriptOf stack = .ok [] := by
  rcases stack with _ | ⟨⟨state, t | n, value⟩, tail⟩
  · exact .inr rfl
  · exact .inr rfl
  · cases n
    case script => exact .inl ⟨state, value, tail, rfl⟩
    all_goals exact .inr rfl

/-- Every script that is read has the property, if the empty script has it. -/
theorem Accepts.holds {c : Configuration} {statements : List Node} (inherited : Inherited P)
    (empty : P (.nonterminal .script) ([] : List Node)) (holds : Stack.Holds P c.stack)
    (accepts : Accepts a c (.ok statements)) : P (.nonterminal .script) statements := by
  obtain ⟨last, reads, _, final, complete, script⟩ := accepts
  have whole := (holds.reads inherited reads).complete inherited complete
  obtain ⟨state, value, tail, rfl⟩ | none := scriptOf_cases final
  · exact whole _ List.mem_cons_self statements script
  · rw [none] at script
    cases script
    exact empty

end SqlSyntax.Grammar
