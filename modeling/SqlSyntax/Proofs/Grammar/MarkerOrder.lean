import SqlSyntax.Proofs.Grammar.MarkerRun
import SqlSyntax.Proofs.Grammar.Portions
import SqlSyntax.Proofs.Grammar.ScriptStates

/-!
# The order of markers

A marker takes its number from a counter at the moment when its question mark is reduced, and values
are put together in other orders than they were read in. `Numbered` says without a counter what the
numbers are: a question mark becomes the marker whose order is the number of question marks before
it in the text. Every value that a run puts on its stack is numbered so. The reason is in the table:
behind a question mark nothing can be read before it has been reduced.
-/

namespace SqlSyntax.Grammar

/-- How many of the tokens are question marks. -/
def questions (tokens : List Token) : Nat :=
  tokens.countP (·.terminal = .question)

theorem questions_append (first later : List Token) :
    questions (first ++ later) = questions first + questions later :=
  List.countP_append

theorem questions_cons {t : Token} (question : t.terminal = .question) (later : List Token) :
    questions (t :: later) = 1 + questions later := by
  rw [← List.singleton_append, questions_append]
  simp [questions, question]

/-- The `n` orders from `k` on. -/
def orders (k n : Nat) : List Int :=
  (List.range' k n).map Int.ofNat

theorem orders_add (k m n : Nat) : orders k (m + n) = orders k m ++ orders (k + m) n := by
  rw [orders, ← List.range'_append_1, List.map_append]
  rfl

theorem markersAfter_perm {n : Nonterminal} {v : n.Value} {symbols : List Symbol}
    {vs : Values symbols} {own later : List Int} (first : (n.markers v).Perm own)
    (rest : ∀ earlier, (Values.markersAfter earlier symbols vs).Perm (earlier.getD [] ++ later))
    {earlier : Option (List Int)} :
    (Values.markersAfter earlier (.nonterminal n :: symbols) (v, vs)).Perm
      (earlier.getD [] ++ (own ++ later)) := by
  have joined : Values.markersAfter earlier (.nonterminal n :: symbols) (v, vs) =
      Values.markersAfter (some (earlier.getD [] ++ n.markers v)) symbols vs := by
    cases earlier <;> rfl
  rw [joined, ← List.append_assoc]
  exact (rest _).trans ((first.append_left _).append_right _)

theorem Production.isMarker_iff (p : Production) :
    p.isMarker = true ↔ p = .query .limitMarker ∨ p = .expr .marker := by
  constructor
  · intro marks
    unfold isMarker at marks
    split at marks
    · exact .inl rfl
    · exact .inr rfl
    · cases marks
  · rintro (rfl | rfl) <;> rfl

/-- A production that numbers a marker reads a question mark and no more. -/
theorem Production.rhs_of_isMarker {p : Production} (marks : p.isMarker = true) :
    p.rhs = [.terminal .question] := by
  rcases p.isMarker_iff.mp marks with rfl | rfl <;> rfl

/-- The tokens, with `k` question marks before them, are read as the row of symbols and give it the
values. Each question mark becomes the marker that has the number of those before it. -/
inductive Numbered : Nat → List Token → (symbols : List Symbol) → Values symbols → Prop
  | nil {k} : Numbered k [] [] ()
  | terminal {k u tokens symbols vs} (t : Token) (spells : t.terminal = u)
      (rest : Numbered (k + questions [t]) tokens symbols vs) :
      Numbered k (t :: tokens) (.terminal u :: symbols) (t, vs)
  | operand {k tokens symbols vs} (t : Token) (question : t.terminal = .question)
      (rest : Numbered (k + 1) tokens symbols vs) :
      Numbered k (t :: tokens) (.nonterminal .simpleExpr :: symbols) (Node.paramMarker k, vs)
  | bound {k tokens symbols vs} (t : Token) (question : t.terminal = .question)
      (rest : Numbered (k + 1) tokens symbols vs) :
      Numbered k (t :: tokens) (.nonterminal .limitValue :: symbols) (Node.paramMarker k, vs)
  | production {k own tokens symbols vs} (p : Production) {values : Values p.rhs}
      {v : p.lhs.Value} (unmarked : .terminal .question ∉ p.rhs)
      (inner : Numbered k own p.rhs values)
      (builds : p.build 0 values = .ok v) (rest : Numbered (k + questions own) tokens symbols vs) :
      Numbered k (own ++ tokens) (.nonterminal p.lhs :: symbols) (v, vs)

namespace Numbered

theorem cons {k : Nat} {own tokens : List Token} {s : Symbol} {symbols : List Symbol} {v : s.Value}
    {vs : Values symbols} (first : Numbered k own [s] (v, ()))
    (rest : Numbered (k + questions own) tokens symbols vs) :
    Numbered k (own ++ tokens) (s :: symbols) (v, vs) := by
  cases first with
  | terminal t spells none =>
    cases none
    exact .terminal t spells rest
  | operand t question none =>
    cases none
    have one : questions [t] = 1 := by simp [questions, question]
    rw [one] at rest
    exact .operand t question rest
  | bound t question none =>
    cases none
    have one : questions [t] = 1 := by simp [questions, question]
    rw [one] at rest
    exact .bound t question rest
  | production p unmarked inner builds none =>
    cases none
    rw [List.append_nil] at rest ⊢
    exact .production p unmarked inner builds rest

/-- The markers in the values have the orders from `k` on, each once. -/
theorem markers {k : Nat} {tokens : List Token} {symbols : List Symbol} {vs : Values symbols}
    (numbered : Numbered k tokens symbols vs) (unmarked : .terminal .question ∉ symbols)
    (earlier : Option (List Int)) :
    (Values.markersAfter earlier symbols vs).Perm
      (earlier.getD [] ++ orders k (questions tokens)) := by
  induction numbered generalizing earlier with
  | nil => exact .of_eq (List.append_nil _).symm
  | @terminal k u tokens symbols vs t spells rest ih =>
    have none : questions [t] = 0 := by
      have differs : t.terminal ≠ .question := fun same =>
        List.ne_of_not_mem_cons unmarked (by rw [← spells, same])
      simp [questions, differs]
    have all : questions (t :: tokens) = questions tokens := by
      rw [← List.singleton_append, questions_append, none, Nat.zero_add]
    rw [none, Nat.add_zero] at ih
    rw [all]
    exact ih (List.not_mem_of_not_mem_cons unmarked) earlier
  | operand t question rest ih =>
    rw [questions_cons question, orders_add]
    exact markersAfter_perm (.refl _) (ih (List.not_mem_of_not_mem_cons unmarked))
  | bound t question rest ih =>
    rw [questions_cons question, orders_add]
    exact markersAfter_perm (.refl _) (ih (List.not_mem_of_not_mem_cons unmarked))
  | @production k own tokens symbols vs p values v plain inner builds rest innerIh ih =>
    rw [questions_append, orders_add]
    refine markersAfter_perm ?_ (ih (List.not_mem_of_not_mem_cons unmarked))
    have built := p.build_markers 0 values
    have unnumbered : ¬p.isMarker = true := fun marks =>
      plain (by rw [p.rhs_of_isMarker marks]; exact List.mem_cons_self)
    rw [builds, Production.markers, if_neg unnumbered] at built
    exact built.trans (innerIh plain none)

/-- A question mark becomes a marker with the number of those before it. -/
theorem mark {k : Nat} {own : List Token} {p : Production} {vs : Values p.rhs}
    (numbered : Numbered k own p.rhs vs) (marks : p.isMarker = true) :
    questions own = 1 ∧
      ∀ v, p.build k vs = .ok v → Numbered k own [.nonterminal p.lhs] (v, ()) := by
  rcases p.isMarker_iff.mp marks with rfl | rfl
  · obtain _ | ⟨t, question, ⟨⟩⟩ := numbered
    refine ⟨questions_cons question [], ?_⟩
    rintro v ⟨⟩
    exact .bound t question .nil
  · obtain _ | ⟨t, question, ⟨⟩⟩ := numbered
    refine ⟨questions_cons question [], ?_⟩
    rintro v ⟨⟩
    exact .operand t question .nil

end Numbered

/-- Only the productions of markers look at the counter. -/
theorem Production.build_eq_of_plain {p : Production} (plain : ¬p.isMarker = true) (m n : Nat)
    (vs : Values p.rhs) : p.build m vs = p.build n vs := by
  cases p with
  | script r => rfl
  | manipulation r => rfl
  | definition r => rfl
  | query r =>
    cases r
    case limitMarker => exact absurd rfl plain
    all_goals rfl
  | expr r =>
    cases r
    case marker => exact absurd rfl plain
    all_goals rfl

/-! ### Question marks in the table -/

/-- Nothing can be put on the state, and it only numbers markers. -/
def Row.onlyMarks (r : Row) : Bool :=
  r.shifts.isEmpty && r.gotos.isEmpty && r.reductions.all fun e => e.1.isMarker

/-- A question mark leads to a state that only numbers markers. -/
def Row.closesQuestion (r : Row) : Bool :=
  r.shifts.all fun s => s.1 != .question || (statementAutomaton.row? s.2).all Row.onlyMarks

theorem all_closesQuestion :
    statementAutomaton.all (fun _ r => r.closesQuestion) = true := by
  decide +kernel

theorem onlyMarks_of_question {state target : Nat} {r : Row}
    (moved : statementAutomaton.next? state (.terminal .question) = some target)
    (found : statementAutomaton.row? target = some r) : r.onlyMarks = true := by
  obtain ⟨row, source, moved⟩ := Option.bind_eq_some_iff.mp moved
  have passes := Automaton.check_of_all all_closesQuestion source
  have marks := List.all_eq_true.mp passes _ (mem_of_lookup moved)
  simpa [found] using marks

/-- Behind a question mark nothing is read. -/
theorem next?_of_question {state target : Nat} (s : Symbol)
    (moved : statementAutomaton.next? state (.terminal .question) = some target) :
    statementAutomaton.next? target s = none := by
  cases found : statementAutomaton.row? target with
  | none => simp [Automaton.next?, found]
  | some r =>
    have marks := onlyMarks_of_question moved found
    simp only [Row.onlyMarks, Bool.and_eq_true, List.isEmpty_iff] at marks
    cases s <;> simp [Automaton.next?, found, marks.1]

/-- What reduces a question mark is a marker. -/
theorem isMarker_of_question {state target : Nat} {t : Terminal} {p : Production}
    (moved : statementAutomaton.next? state (.terminal .question) = some target)
    (act : statementAutomaton.action? target t = some (.reduce p)) : p.isMarker = true := by
  obtain ⟨r, found, act⟩ := Option.bind_eq_some_iff.mp act
  obtain ⟨set, member, _⟩ := Row.mem_reductions_of_action? act
  have marks := onlyMarks_of_question moved found
  rw [Row.onlyMarks, Bool.and_eq_true, List.all_eq_true] at marks
  exact marks.2 _ member

/-- On a path only the top can be a question mark. -/
theorem Stack.IsPath.no_question_below {e : Entry} {below : Stack}
    (path : Stack.IsPath statementAutomaton (e :: below)) {other : Entry} (member : other ∈ below) :
    other.symbol ≠ .terminal .question := by
  induction below generalizing e with
  | nil => cases member
  | cons next below ih =>
    rcases List.mem_cons.mp member with rfl | member
    · intro same
      have moved := path.2.1
      rw [same] at moved
      have leads := path.1
      rw [show Stack.state (other :: below) = other.state from rfl, next?_of_question _ moved]
        at leads
      cases leads
    · exact ih path.2 member

/-! ### Entries that stand for tokens -/

/-- The tokens, with `k` question marks before them, stand behind the entries, the lowest first, and
the values that are there are numbered. -/
inductive Stands : Nat → List Token → List Entry → Prop
  | nil {k} : Stands k [] []
  | cons {k own tokens e entries}
      (numbered : ∀ v, e.value = .ok v → Numbered k own [e.symbol] (v, ()))
      (rest : Stands (k + questions own) tokens entries) : Stands k (own ++ tokens) (e :: entries)

namespace Stands

theorem split {k : Nat} {tokens : List Token} {first later : List Entry}
    (stands : Stands k tokens (first ++ later)) :
    ∃ own rest, tokens = own ++ rest ∧ Stands k own first ∧
      Stands (k + questions own) rest later := by
  induction first generalizing k tokens with
  | nil => exact ⟨[], tokens, rfl, .nil, stands⟩
  | cons e first ih =>
    obtain _ | ⟨numbered, rest⟩ := stands
    obtain ⟨own, others, rfl, inner, behind⟩ := ih rest
    refine ⟨_, others, (List.append_assoc _ _ _).symm, .cons numbered inner, ?_⟩
    rwa [questions_append, ← Nat.add_assoc]

theorem snoc {k : Nat} {tokens own : List Token} {entries : List Entry} {e : Entry}
    (stands : Stands k tokens entries)
    (numbered : ∀ v, e.value = .ok v → Numbered (k + questions tokens) own [e.symbol] (v, ())) :
    Stands k (tokens ++ own) (entries ++ [e]) := by
  induction stands with
  | nil =>
    have last : Stands _ (own ++ []) [e] := .cons numbered .nil
    rwa [List.append_nil] at last
  | cons first rest ih =>
    rw [List.append_assoc]
    refine .cons first (ih ?_)
    rwa [questions_append, ← Nat.add_assoc] at numbered

/-- The values of entries are numbered as a row. -/
theorem values {k : Nat} {tokens : List Token} {entries : List Entry} {symbols : List Symbol}
    {vs : Values symbols} (stands : Stands k tokens entries)
    (found : valuesOf symbols entries = some (.ok vs)) : Numbered k tokens symbols vs := by
  induction stands generalizing symbols with
  | nil =>
    obtain rfl : [] = symbols := symbols_of_valuesOf found
    exact .nil
  | @cons k own tokens e entries numbered rest ih =>
    obtain ⟨state, s, value⟩ := e
    obtain rfl : s :: entries.map Entry.symbol = symbols := symbols_of_valuesOf found
    rw [valuesOf_cons] at found
    obtain ⟨later, others, joined⟩ := Option.map_eq_some_iff.mp found
    cases value with
    | error err => cases joined
    | ok v =>
      cases later with
      | error err => cases joined
      | ok ws =>
        cases joined
        exact (numbered v rfl).cons (ih others)

end Stands

/-! ### Runs -/

/-- The tokens among the portions that start at a place. -/
def Portion.tokens : Position → List Portion → List Token
  | _, [] => []
  | position, .blank w :: ps => tokens (position.after w) ps
  | position, .token t w :: ps => ⟨t, String.ofList w, position⟩ :: tokens (position.after w) ps

/-- How many question marks have been read but not yet numbered. -/
def Stack.pending : Stack → Nat
  | ⟨_, .terminal .question, _⟩ :: _ => 1
  | _ => 0

/-- The stack stands for the tokens read so far, and the counter is at the next order. -/
structure Stack.Follows (tokens : List Token) (m : Nat) (stack : Stack) : Prop where
  path : Stack.IsPath statementAutomaton stack
  stands : Stands 0 tokens stack.reverse
  order : m + Stack.pending stack = questions tokens

variable {t : Terminal} {p : Production} {tokens : List Token} {m m' fuel : Nat}
  {stack stack' : Stack}

theorem Stack.pending_eq_zero {e : Entry} {below : Stack} (other : e.symbol ≠ .terminal .question) :
    Stack.pending (e :: below) = 0 := by
  unfold Stack.pending
  split
  · rename_i same
    cases same
    exact absurd rfl other
  · rfl

/-- Where something can be put on a stack, its top is no question mark. -/
theorem Stack.IsPath.pending_of_next? (path : Stack.IsPath statementAutomaton stack) {s : Symbol}
    {target : Nat} (moved : statementAutomaton.next? (Stack.state stack) s = some target) :
    Stack.pending stack = 0 := by
  cases stack with
  | nil => rfl
  | cons e below =>
    refine Stack.pending_eq_zero fun same => ?_
    have arrives := path.1
    rw [same] at arrives
    rw [show Stack.state (e :: below) = e.state from rfl, next?_of_question s arrives] at moved
    cases moved

/-- The question mark on top gets the next order. -/
theorem Stack.Follows.mark (follows : Stack.Follows tokens m stack) (marks : p.isMarker = true)
    (reduced : reduce statementAutomaton p m stack = some stack') :
    Stack.Follows tokens (m + 1) stack' := by
  have path := follows.path.reduce reduced
  obtain ⟨values, target, found, moved, rfl⟩ := reduce_eq_some_iff.mp reduced
  have single := Production.rhs_of_isMarker marks
  cases stack with
  | nil =>
    have symbols := symbols_of_valuesOf found
    rw [single] at symbols
    cases symbols
  | cons e below =>
    have symbols := symbols_of_valuesOf found
    rw [single] at symbols
    have pending : Stack.pending (e :: below) = 1 := by
      obtain ⟨state, s, value⟩ := e
      obtain rfl : s = .terminal .question := (List.cons.inj symbols).1
      rfl
    have order := follows.order
    obtain ⟨earlier, own, rfl, lower, top⟩ := (List.reverse_cons ▸ follows.stands).split
    rw [pending, questions_append] at order
    have rest : (e :: below).drop p.rhs.length = below := by rw [single]; rfl
    have taken : ((e :: below).take p.rhs.length).reverse = [e] := by rw [single]; rfl
    rw [rest] at path ⊢
    refine ⟨path, ?_, ?_⟩
    · rw [List.reverse_cons]
      refine lower.snoc ?_
      intro v made
      cases values with
      | error err => cases made
      | ok vs =>
        obtain ⟨one, numbered⟩ := (top.values (taken ▸ found)).mark marks
        have next : m = 0 + questions earlier := by omega
        exact numbered v (next ▸ made)
    · rw [questions_append, Stack.pending_eq_zero (by nofun)]
      omega

theorem Stack.IsPath.no_question (path : Stack.IsPath statementAutomaton stack)
    (act : statementAutomaton.action? (Stack.state stack) t = some (.reduce p))
    (plain : ¬p.isMarker = true) {e : Entry} (member : e ∈ stack) :
    e.symbol ≠ .terminal .question := by
  cases stack with
  | nil => cases member
  | cons top below =>
    rcases List.mem_cons.mp member with rfl | member
    · intro same
      have arrives := path.1
      rw [same] at arrives
      exact plain (isMarker_of_question arrives act)
    · exact path.no_question_below member

/-- Other productions put numbered values together. -/
theorem Stack.Follows.join (follows : Stack.Follows tokens m stack)
    (act : statementAutomaton.action? (Stack.state stack) t = some (.reduce p))
    (plain : ¬p.isMarker = true) (reduced : reduce statementAutomaton p m stack = some stack') :
    Stack.Follows tokens m stack' := by
  have path := follows.path.reduce reduced
  have free {e : Entry} (member : e ∈ stack) := follows.path.no_question act plain member
  obtain ⟨values, target, found, moved, rfl⟩ := reduce_eq_some_iff.mp reduced
  have order : m + 0 = questions tokens := by
    rw [← follows.order]
    cases stack with
    | nil => rfl
    | cons e below => rw [Stack.pending_eq_zero (free List.mem_cons_self)]
  have stands := follows.stands
  rw [← List.take_append_drop p.rhs.length stack, List.reverse_append] at stands
  obtain ⟨earlier, own, rfl, lower, top⟩ := stands.split
  refine ⟨path, ?_, order⟩
  rw [List.reverse_cons]
  refine lower.snoc ?_
  intro v made
  cases values with
  | error err => cases made
  | ok vs =>
    have unmarked : .terminal .question ∉ p.rhs := by
      rw [← symbols_of_valuesOf found]
      intro member
      obtain ⟨e, taken, same⟩ := List.mem_map.mp member
      exact free (List.mem_of_mem_take (List.mem_reverse.mp taken)) same
    have built : p.build 0 vs = .ok v := (Production.build_eq_of_plain plain 0 m vs).trans made
    have whole := Numbered.production p unmarked (top.values found) built .nil
    rwa [List.append_nil] at whole

theorem Stack.Follows.reduce (follows : Stack.Follows tokens m stack)
    (act : statementAutomaton.action? (Stack.state stack) t = some (.reduce p))
    (reduced : Grammar.reduce statementAutomaton p m stack = some stack') :
    Stack.Follows tokens (counted p m) stack' := by
  unfold counted
  split
  · rename_i marks
    exact follows.mark marks reduced
  · rename_i plain
    exact follows.join act plain reduced

theorem Stack.Follows.settle {target : Nat} {settled : Stack}
    (follows : Stack.Follows tokens m stack)
    (ready : Grammar.settle statementAutomaton t fuel m stack = .ready settled m' target) :
    Stack.Follows tokens m' settled := by
  induction fuel generalizing m stack with
  | zero => cases ready
  | succ fuel ih =>
    obtain refused | ⟨target', act, done⟩ | ⟨p, stack', act, reduced, last | ⟨goes, next⟩⟩ :=
      settle_cases statementAutomaton t fuel m stack
    · rw [refused] at ready
      cases ready
    · rw [done] at ready
      cases ready
      exact follows
    · rw [last.2.2] at ready
      cases ready
    · rw [next] at ready
      exact ih (follows.reduce act reduced) ready

theorem Stack.Follows.complete {final : Stack} (follows : Stack.Follows tokens m stack)
    (complete : Grammar.settle statementAutomaton t fuel m stack = .complete final) :
    ∃ m, Stack.Follows tokens m final := by
  induction fuel generalizing m stack with
  | zero => cases complete
  | succ fuel ih =>
    obtain refused | ⟨target, act, done⟩ | ⟨p, stack', act, reduced, last | ⟨goes, next⟩⟩ :=
      settle_cases statementAutomaton t fuel m stack
    · rw [refused] at complete
      cases complete
    · rw [done] at complete
      cases complete
    · rw [last.2.2] at complete
      cases complete
      exact ⟨_, follows.reduce act reduced⟩
    · rw [next] at complete
      exact ih (follows.reduce act reduced) complete

/-- A token that has been made room for is put on the stack. -/
theorem Stack.Follows.shift {target : Nat} (follows : Stack.Follows tokens m stack) (token : Token)
    (moved : statementAutomaton.next? (Stack.state stack) (.terminal token.terminal) =
      some target) :
    Stack.Follows (tokens ++ [token]) m
      (⟨target, .terminal token.terminal, .ok token⟩ :: stack) where
  path := ⟨moved, follows.path⟩
  stands := by
    rw [List.reverse_cons]
    refine follows.stands.snoc ?_
    rintro v ⟨⟩
    exact .terminal token rfl .nil
  order := by
    have order := follows.order
    rw [follows.path.pending_of_next? moved] at order
    rw [questions_append, ← order]
    by_cases question : token.terminal = .question
    · obtain ⟨u, text, position⟩ := token
      obtain rfl : u = .question := question
      rfl
    · rw [Stack.pending_eq_zero (by simpa using question)]
      simp [questions, question]

/-- A whole script is on the stack by itself. -/
theorem Stack.IsPath.eq_singleton (path : Stack.IsPath statementAutomaton stack)
    (whole : Stack.state stack = statementAutomaton.final) :
    ∃ state value, stack = [⟨state, .nonterminal .script, value⟩] := by
  cases stack with
  | nil => cases whole
  | cons e below =>
    obtain ⟨state, s, value⟩ := e
    obtain rfl : state = 1 := whole
    obtain rfl := eq_script_of_next? path.1
    obtain rfl := eq_nil_of_state_zero path.2 (next?_script path.1).1
    exact ⟨1, value, rfl⟩

theorem Reads.numbered {c : Configuration} {ps : List Portion} {statements : List Node}
    (reads : Reads statementAutomaton (.ok statements) c ps)
    (follows : Stack.Follows tokens c.markers c.stack) :
    Numbered 0 (tokens ++ Portion.tokens c.position ps) [.nonterminal .script]
      (statements, ()) := by
  induction reads generalizing tokens with
  | ends ends =>
    obtain ⟨_, final, complete, script⟩ := ends
    obtain ⟨m, last⟩ := follows.complete complete
    obtain ⟨state, value, rfl⟩ := last.path.eq_singleton (follows.path.settle_complete complete).2
    obtain _ | ⟨numbered, ⟨⟩⟩ := last.stands
    rw [Portion.tokens, List.append_nil, List.append_nil]
    exact numbered statements script
  | blank _ _ ih => exact ih follows
  | @token position t w rest markers stack settled markers' target ps ahead ready later ih =>
    have moved := (follows.path.settle ready).2
    have pushed := (follows.settle ready).shift ⟨t, String.ofList w, position⟩ moved
    have whole := ih pushed
    rwa [List.append_assoc] at whole

end SqlSyntax.Grammar
