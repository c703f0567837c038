import Mathlib.Data.List.Forall2
import SqlSyntax.Proofs.Grammar.StrippedValues

/-!
# Alike stacks

Two stacks are alike if they hold the same states and symbols, and values that differ in the places
of their tokens and in the letter case of their keywords only. Failures count as alike whatever
their reason. Alike stacks look for the same terminals, stay alike under reductions, and end in the
same statements.
-/

namespace SqlSyntax.Grammar

/-- What is left of a value without places and the letter case of keywords. -/
def Symbol.outline (s : Symbol) (v : Except BuildError s.Value) : Option s.Value :=
  v.toOption.map s.stripped

def Values.outline (symbols : List Symbol) (vs : Except BuildError (Values symbols)) :
    Option (Values symbols) :=
  vs.toOption.map (Values.stripped symbols)

inductive Entry.Alike : Entry → Entry → Prop where
  | intro (state : Nat) (symbol : Symbol) {v w : Except BuildError symbol.Value}
      (same : symbol.outline v = symbol.outline w) :
      Entry.Alike ⟨state, symbol, v⟩ ⟨state, symbol, w⟩

abbrev Stack.Alike : Stack → Stack → Prop :=
  List.Forall₂ Entry.Alike

theorem Entry.Alike.refl (e : Entry) : e.Alike e :=
  .intro e.state e.symbol rfl

/-- Tokens at different places are alike. -/
theorem Entry.Alike.of_place (state : Nat) (t : Terminal) (text : String) (p q : Position) :
    Entry.Alike ⟨state, .terminal t, .ok ⟨t, text, p⟩⟩ ⟨state, .terminal t, .ok ⟨t, text, q⟩⟩ := by
  refine .intro state (.terminal t) (congrArg some ?_)
  cases t <;> rfl

theorem Stack.Alike.refl (stack : Stack) : Stack.Alike stack stack :=
  List.forall₂_same.mpr fun e _ => .refl e

variable {a : Automaton} {t : Terminal} {p : Production} {m m' fuel target : Nat}
  {s s' r : Stack}

/-! ### Reductions -/

theorem Values.outline_consValue {symbol : Symbol} {rest : List Symbol}
    (v : Except BuildError symbol.Value) (vs : Except BuildError (Values rest)) :
    Values.outline (symbol :: rest) (consValue v vs) =
      Option.map₂ Prod.mk (symbol.outline v) (Values.outline rest vs) := by
  cases v <;> cases vs <;> rfl

theorem valuesOf_alike {entries entries' : List Entry} (alike : Stack.Alike entries entries')
    (symbols : List Symbol) :
    (valuesOf symbols entries).map (Values.outline symbols) =
      (valuesOf symbols entries').map (Values.outline symbols) := by
  induction symbols generalizing entries entries' with
  | nil => cases alike <;> rfl
  | cons s rest ih =>
    cases alike with
    | nil => rfl
    | cons first later =>
      obtain ⟨state, symbol, same⟩ := first
      by_cases carried : symbol = s
      · subst carried
        rename_i v w
        have later := congrArg (Option.map (Option.map₂ Prod.mk (symbol.outline w))) (ih later)
        rw [Option.map_map, Option.map_map] at later
        rw [valuesOf_cons, valuesOf_cons, Option.map_map, Option.map_map]
        simp only [Function.comp_def, Values.outline_consValue, same] at later ⊢
        exact later
      · rw [valuesOf_cons_of_ne carried, valuesOf_cons_of_ne carried]

/-- What a reduction makes depends on the outlines of the values. -/
theorem outline_built (p : Production) (m : Nat) (values : Except BuildError (Values p.rhs)) :
    (Symbol.nonterminal p.lhs).outline (built p m values) =
      (Values.outline p.rhs values).bind fun vs => (p.build m vs).toOption := by
  cases values with
  | error err => rfl
  | ok vs => exact (Production.build_stripped m p vs).symm

theorem Stack.Alike.state (alike : Stack.Alike s r) : Stack.state s = Stack.state r := by
  cases alike with
  | nil => rfl
  | cons first _ =>
    cases first
    rfl

theorem Stack.Alike.reduce (alike : Stack.Alike s r)
    (reduced : Grammar.reduce a p m s = some s') :
    ∃ r', Grammar.reduce a p m r = some r' ∧ Stack.Alike s' r' := by
  obtain ⟨values, target, found, moved, rfl⟩ := reduce_eq_some_iff.mp reduced
  have below := List.forall₂_drop p.rhs.length alike
  have top := List.rel_reverse (List.forall₂_take p.rhs.length alike)
  have outlines := valuesOf_alike top p.rhs
  rw [found, Option.map_some, eq_comm, Option.map_eq_some_iff] at outlines
  obtain ⟨values', found', same⟩ := outlines
  rw [Stack.Alike.state below] at moved
  refine ⟨_, reduce_eq_some_iff.mpr ⟨values', target, found', moved, rfl⟩,
    .cons (.intro _ _ ?_) below⟩
  rw [outline_built, outline_built, same]

/-! ### Settling -/

theorem Stack.Alike.ready (alike : Stack.Alike s r)
    (ready : settle a t fuel m s = .ready s' m' target) :
    ∃ r', settle a t fuel m r = .ready r' m' target ∧ Stack.Alike s' r' := by
  induction fuel generalizing m s r with
  | zero => cases ready
  | succ fuel ih =>
    obtain refused | ⟨target', act, done⟩ | ⟨p, s₁, act, reduced, last | ⟨goes, next⟩⟩ :=
      settle_cases a t fuel m s
    · rw [refused] at ready
      cases ready
    · rw [done] at ready
      cases ready
      rw [alike.state] at act
      exact ⟨r, settle_shift act, alike⟩
    · rw [last.2.2] at ready
      cases ready
    · obtain ⟨r₁, reduced', alike₁⟩ := alike.reduce reduced
      rw [next] at ready
      obtain ⟨r', ready', alike'⟩ := ih alike₁ ready
      rw [alike.state] at act
      rw [alike₁.state] at goes
      exact ⟨r', by rw [settle_reduce act reduced' goes, ready'], alike'⟩

theorem Stack.Alike.complete (alike : Stack.Alike s r)
    (complete : settle a t fuel m s = .complete s') :
    ∃ r', settle a t fuel m r = .complete r' ∧ Stack.Alike s' r' := by
  induction fuel generalizing m s r with
  | zero => cases complete
  | succ fuel ih =>
    obtain refused | ⟨target', act, done⟩ | ⟨p, s₁, act, reduced, last | ⟨goes, next⟩⟩ :=
      settle_cases a t fuel m s
    · rw [refused] at complete
      cases complete
    · rw [done] at complete
      cases complete
    · obtain ⟨rfl, whole, done⟩ := last
      obtain ⟨r₁, reduced', alike₁⟩ := alike.reduce reduced
      rw [done] at complete
      cases complete
      rw [alike.state] at act
      rw [alike₁.state] at whole
      exact ⟨r₁, settle_complete act reduced' whole, alike₁⟩
    · obtain ⟨r₁, reduced', alike₁⟩ := alike.reduce reduced
      rw [next] at complete
      obtain ⟨r', complete', alike'⟩ := ih alike₁ complete
      rw [alike.state] at act
      rw [alike₁.state] at goes
      exact ⟨r', by rw [settle_reduce act reduced' goes, complete'], alike'⟩

/-! ### Runs -/

theorem Stack.Alike.expected (alike : Stack.Alike s r) : a.expected s = a.expected r := by
  unfold Automaton.expected
  rw [alike.state]

theorem Stack.Alike.reductionBound (alike : Stack.Alike s r) :
    Grammar.reductionBound s = Grammar.reductionBound r := by
  unfold Grammar.reductionBound
  rw [alike.length_eq]

theorem Stack.Alike.scriptOf {statements : List Node} (alike : Stack.Alike s r)
    (script : Grammar.scriptOf s = .ok statements) : Grammar.scriptOf r = .ok statements := by
  cases alike with
  | nil => exact script
  | cons first _ =>
    obtain ⟨state, symbol, same⟩ := first
    rename_i v w
    cases symbol with
    | terminal t => exact script
    | nonterminal n =>
      cases n
      case script =>
        change v = .ok statements at script
        subst script
        cases w with
        | error err => cases same
        | ok statements' => exact congrArg Except.ok (Option.some.inj same).symm
      all_goals exact script

theorem Stack.Alike.ends {position position' : Position} {statements : List Node}
    (alike : Stack.Alike s r) {rest : List Char}
    (ends : Ends a ⟨position, rest, m, s⟩ (.ok statements)) :
    Ends a ⟨position', rest, m, r⟩ (.ok statements) := by
  obtain ⟨empty, final, complete, script⟩ := ends
  obtain ⟨final', complete', alike'⟩ := alike.complete complete
  rw [alike.reductionBound] at complete'
  exact ⟨empty, final', complete', alike'.scriptOf script⟩

end SqlSyntax.Grammar
