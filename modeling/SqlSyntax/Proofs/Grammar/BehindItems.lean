import SqlSyntax.Proofs.Grammar.ScriptStates

/-!
# Reading behind earlier statements

A script can be read behind items that are already on the stack as well as from the start. The
states, rows and productions correspond, and the items come before what is read.
-/

namespace SqlSyntax.Grammar

/-- The state that takes the place of a given one when items stand before it. -/
def behindItems (state : Nat) : Nat :=
  match state with
  | 0 => 2
  | 3 => 36
  | 4 => 37
  | 38 => 138
  | state => state

def Production.behindItems : Production → Production
  | .script (.script _ last) => .script (.script true last)
  | .script (.scriptItems _ filled) => .script (.scriptItems true filled)
  | p => p

def Action.behindItems : Action → Action
  | .shift target => .shift (Grammar.behindItems target)
  | .reduce p => .reduce p.behindItems

def Row.behindItems (r : Row) : Row where
  shifts := r.shifts.map fun s => (s.1, Grammar.behindItems s.2)
  reductions := r.reductions.map fun e => (e.1.behindItems, e.2)
  gotos := (r.gotos.filter fun g => !g.1.isOuter).map fun g => (g.1, Grammar.behindItems g.2)

theorem behindItems_of_inner {state : Nat} (inner : state ∉ outerStates) :
    behindItems state = state := by
  unfold behindItems
  split
  all_goals first | rfl | exact absurd inner (by decide)

theorem Production.behindItems_of_inner {p : Production} (inner : p.isInner = true) :
    p.behindItems = p := by
  unfold Production.behindItems
  split
  · simp [isInner, lhs, ScriptRule.lhs, Nonterminal.isOuter] at inner
  · simp [isInner, lhs, ScriptRule.lhs, Nonterminal.isOuter] at inner
  · rfl

theorem lookup_map_snd {α β γ : Type} [BEq α] (f : β → γ) (l : List (α × β)) (k : α) :
    (l.map fun e => (e.1, f e.2)).lookup k = (l.lookup k).map f := by
  induction l with
  | nil => rfl
  | cons e l ih =>
    rw [List.map_cons, List.lookup_cons, List.lookup_cons, ih]
    split <;> rfl

theorem lookup_filter {α β : Type} [BEq α] [LawfulBEq α] (keep : α → Bool) {k : α}
    (kept : keep k = true) (l : List (α × β)) :
    (l.filter fun e => keep e.1).lookup k = l.lookup k := by
  induction l with
  | nil => rfl
  | cons e l ih =>
    obtain ⟨key, value⟩ := e
    by_cases same : k = key
    · subst same
      simp [kept]
    · have differs : (k == key) = false := beq_eq_false_iff_ne.mpr same
      by_cases stays : keep key = true
      · simp [List.lookup_cons, stays, ih]
      · simp [List.lookup_cons, stays, differs, ih]

theorem map_eq_self {α : Type} {f : α → α} {l : List α} (fixes : ∀ a ∈ l, f a = a) : l.map f = l :=
  (List.map_congr_left fixes).trans (List.map_id l)

namespace Row

theorem behindItems_expected (r : Row) : r.behindItems.expected = r.expected := by
  simp [expected, behindItems, List.map_map, Function.comp_def]

theorem behindItems_action? (r : Row) (t : Terminal) :
    r.behindItems.action? t = (r.action? t).map Action.behindItems := by
  unfold action? behindItems
  dsimp only
  rw [lookup_map_snd]
  cases r.shifts.lookup t with
  | some target => rfl
  | none =>
    simp only [Option.map_none, List.find?_map, Function.comp_def, Option.map_map]
    rfl

theorem behindItems_gotos {n : Nonterminal} (inner : n.isOuter = false) (r : Row) :
    r.behindItems.gotos.lookup n = (r.gotos.lookup n).map Grammar.behindItems := by
  have kept := lookup_filter (fun n : Nonterminal => !n.isOuter) (k := n) (by simp [inner]) r.gotos
  unfold behindItems
  dsimp only
  rw [lookup_map_snd, kept]

/-- A row inside a statement is the same behind items. -/
theorem behindItems_of_inner {r : Row} (inner : r.isInner = true) : r.behindItems = r := by
  simp only [isInner, Bool.and_eq_true, List.all_eq_true] at inner
  obtain ⟨⟨shifts, reductions⟩, gotos⟩ := inner
  have stays : (r.gotos.filter fun g => !g.1.isOuter) = r.gotos :=
    List.filter_eq_self.mpr fun g member => (gotos g member).2
  unfold behindItems
  rw [stays, map_eq_self, map_eq_self, map_eq_self]
  · intro g member
    have := (gotos g member).1
    rw [Grammar.behindItems_of_inner (by simpa using this)]
  · intro e member
    rw [Production.behindItems_of_inner (reductions e member).1]
  · intro s member
    have := (shifts s member).1.1
    rw [Grammar.behindItems_of_inner (by simpa using this)]

end Row

/-- Each row has its counterpart behind items. -/
theorem row?_behindItems (state : Nat) :
    statementAutomaton.row? (behindItems state) =
      (statementAutomaton.row? state).map Row.behindItems := by
  by_cases outer : state ∈ outerStates
  · simp only [outerStates, List.mem_cons, List.not_mem_nil, or_false] at outer
    obtain rfl | rfl | rfl | rfl | rfl | rfl | rfl | rfl | rfl := outer <;> rfl
  · rw [behindItems_of_inner outer]
    cases found : statementAutomaton.row? state with
    | none => rfl
    | some r => rw [Option.map_some, Row.behindItems_of_inner (isInner_of_row? found outer)]

theorem action?_behindItems (state : Nat) (t : Terminal) :
    statementAutomaton.action? (behindItems state) t =
      (statementAutomaton.action? state t).map Action.behindItems := by
  unfold Automaton.action?
  rw [row?_behindItems]
  cases statementAutomaton.row? state with
  | none => rfl
  | some r => exact r.behindItems_action? t

theorem next?_behindItems {n : Nonterminal} (inner : n.isOuter = false) (state : Nat) :
    statementAutomaton.next? (behindItems state) (.nonterminal n) =
      (statementAutomaton.next? state (.nonterminal n)).map behindItems := by
  unfold Automaton.next?
  rw [row?_behindItems]
  cases statementAutomaton.row? state with
  | none => rfl
  | some r => exact r.behindItems_gotos inner

/-! ### Stacks -/

/-- A value with the statements of the items before it. -/
def prepend (items : List Node) (value : Except BuildError (List Node)) :
    Except BuildError (List Node) :=
  value.map (items ++ ·)

/-- The stack on which the same has been read behind items. -/
def Stack.behind (items : List Node) : Stack → Stack
  | [] => [⟨2, .nonterminal .scriptItems, .ok items⟩]
  | ⟨state, .nonterminal .scriptItems, value⟩ :: _ =>
    [⟨state, .nonterminal .scriptItems, prepend items value⟩]
  | ⟨state, .nonterminal .script, value⟩ :: _ =>
    [⟨state, .nonterminal .script, prepend items value⟩]
  | e :: below => ⟨behindItems e.state, e.symbol, e.value⟩ :: Stack.behind items below

variable {items : List Node} {stack stack' : Stack}

theorem Stack.behind_cons {e : Entry} (inner : e.symbol.isOuter = false) (below : Stack) :
    Stack.behind items (e :: below) =
      ⟨behindItems e.state, e.symbol, e.value⟩ :: Stack.behind items below := by
  rw [Stack.behind]
  · rintro state value rfl
    cases inner
  · rintro state value rfl
    cases inner

theorem Symbol.eq_of_isOuter {s : Symbol} (outer : s.isOuter = true) :
    s = .nonterminal .script ∨ s = .nonterminal .scriptItems := by
  cases s with
  | terminal t => cases outer
  | nonterminal n =>
    simp only [Symbol.isOuter, Nonterminal.isOuter] at outer
    split at outer
    · exact .inl rfl
    · exact .inr rfl
    · cases outer

/-- On a path, a script or its items are the only entry. -/
theorem Stack.outer_cases (path : Stack.IsPath statementAutomaton stack) :
    stack = [] ∨ (∃ value, stack = [⟨2, .nonterminal .scriptItems, value⟩]) ∨
      (∃ value, stack = [⟨1, .nonterminal .script, value⟩]) ∨
      ∃ e below, stack = e :: below ∧ e.symbol.isOuter = false := by
  cases stack with
  | nil => exact .inl rfl
  | cons e below =>
    obtain ⟨state, symbol, value⟩ := e
    cases outer : symbol.isOuter with
    | false => exact .inr (.inr (.inr ⟨_, below, rfl, outer⟩))
    | true =>
      obtain rfl | rfl := Symbol.eq_of_isOuter outer
      · obtain ⟨start, rfl⟩ := next?_script path.1
        obtain rfl := eq_nil_of_state_zero path.2 start
        exact .inr (.inr (.inl ⟨value, rfl⟩))
      · obtain ⟨start, rfl⟩ := next?_scriptItems path.1
        obtain rfl := eq_nil_of_state_zero path.2 start
        exact .inr (.inl ⟨value, rfl⟩)

theorem Stack.state_behind (path : Stack.IsPath statementAutomaton stack) :
    Stack.state (Stack.behind items stack) = behindItems (Stack.state stack) := by
  obtain rfl | ⟨value, rfl⟩ | ⟨value, rfl⟩ | ⟨e, below, rfl, inner⟩ := Stack.outer_cases path
  · rfl
  · rfl
  · rfl
  · rw [Stack.behind_cons inner]
    rfl

theorem Stack.length_behind (path : Stack.IsPath statementAutomaton stack) :
    stack.length ≤ (Stack.behind items stack).length := by
  induction stack with
  | nil => exact Nat.zero_le _
  | cons e below ih =>
    obtain empty | ⟨value, same⟩ | ⟨value, same⟩ | ⟨e', below', same, inner⟩ :=
      Stack.outer_cases path
    · cases empty
    · cases same
      exact Nat.le_refl 1
    · cases same
      exact Nat.le_refl 1
    · cases same
      rw [Stack.behind_cons inner]
      exact Nat.succ_le_succ (ih path.2)

/-! ### Reductions -/

/-- An entry as it stands behind items. -/
def Entry.behind (e : Entry) : Entry :=
  ⟨behindItems e.state, e.symbol, e.value⟩

theorem valuesOf_behind (symbols : List Symbol) (entries : List Entry) :
    valuesOf symbols (entries.map Entry.behind) = valuesOf symbols entries := by
  induction symbols generalizing entries with
  | nil => cases entries <;> rfl
  | cons s rest ih =>
    cases entries with
    | nil => rfl
    | cons e entries =>
      obtain ⟨state, symbol, value⟩ := e
      by_cases same : symbol = s
      · subst same
        rw [List.map_cons, Entry.behind, valuesOf_cons, valuesOf_cons, ih]
      · rw [List.map_cons, Entry.behind, valuesOf_cons_of_ne same, valuesOf_cons_of_ne same]

theorem Stack.behind_append {top : List Entry} (inner : ∀ e ∈ top, e.symbol.isOuter = false)
    (below : Stack) :
    Stack.behind items (top ++ below) = top.map Entry.behind ++ Stack.behind items below := by
  induction top with
  | nil => rfl
  | cons e top ih =>
    rw [List.cons_append, Stack.behind_cons (inner e List.mem_cons_self),
      ih fun e later => inner e (List.mem_cons_of_mem _ later)]
    rfl

variable {p : Production} {m : Nat}

/-- Inside a statement the same reductions are made behind items. -/
theorem reduce_behind_inner (path : Stack.IsPath statementAutomaton stack)
    (inner : p.isInner = true) (reduced : reduce statementAutomaton p m stack = some stack') :
    reduce statementAutomaton p m (Stack.behind items stack) =
      some (Stack.behind items stack') := by
  obtain ⟨values, target, found, moved, rfl⟩ := reduce_eq_some_iff.mp reduced
  simp only [Production.isInner, Bool.and_eq_true, Bool.not_eq_true', List.all_eq_true] at inner
  obtain ⟨left, right⟩ := inner
  have symbols := symbols_of_valuesOf found
  have size : (stack.take p.rhs.length).length = p.rhs.length := by
    rw [← List.length_reverse, ← List.length_map Entry.symbol, symbols]
  have split : Stack.behind items stack =
      (stack.take p.rhs.length).map Entry.behind ++
        Stack.behind items (stack.drop p.rhs.length) := by
    rw [← Stack.behind_append, List.take_append_drop]
    intro e member
    apply right
    rw [← symbols]
    exact List.mem_map_of_mem (List.mem_reverse.mpr member)
  rw [reduce_eq_some_iff]
  refine ⟨values, behindItems target, ?_, ?_, ?_⟩
  · rw [split, List.take_left' (by rw [List.length_map, size]), ← List.map_reverse, valuesOf_behind]
    exact found
  · rw [split, List.drop_left' (by rw [List.length_map, size]), Stack.state_behind (path.drop _),
      next?_behindItems left, moved]
    rfl
  · rw [split, List.drop_left' (by rw [List.length_map, size])]
    exact Stack.behind_cons (e := ⟨target, .nonterminal p.lhs, built p m values⟩) left _

/-- A reduction that puts statements together takes the whole stack. -/
theorem whole_of_reduce (path : Stack.IsPath statementAutomaton stack)
    (outer : p.lhs.isOuter = true) (reduced : reduce statementAutomaton p m stack = some stack') :
    ∃ values target, valuesOf p.rhs stack.reverse = some values ∧
      statementAutomaton.next? 0 (.nonterminal p.lhs) = some target ∧
      stack' = [⟨target, .nonterminal p.lhs, built p m values⟩] := by
  obtain ⟨values, target, found, moved, rfl⟩ := reduce_eq_some_iff.mp reduced
  have start : Stack.state (stack.drop p.rhs.length) = 0 := by
    obtain same | same := Symbol.eq_of_isOuter (s := .nonterminal p.lhs) outer
    · rw [same] at moved
      exact (next?_script moved).1
    · rw [same] at moved
      exact (next?_scriptItems moved).1
  have below := eq_nil_of_state_zero (path.drop _) start
  have whole : stack.take p.rhs.length = stack :=
    List.take_of_length_le (List.drop_eq_nil_iff.mp below)
  rw [whole] at found
  rw [start] at moved
  rw [below]
  exact ⟨values, target, found, moved, rfl⟩

theorem reduce_whole {values : Except BuildError (Values p.rhs)} {target : Nat}
    (found : valuesOf p.rhs stack.reverse = some values)
    (moved : statementAutomaton.next? 0 (.nonterminal p.lhs) = some target) :
    reduce statementAutomaton p m stack =
      some [⟨target, .nonterminal p.lhs, built p m values⟩] := by
  have size : stack.length = p.rhs.length := by
    rw [← symbols_of_valuesOf found, List.length_map, List.length_reverse]
  refine reduce_eq_some_iff.mpr ⟨values, target, ?_, ?_, ?_⟩
  · rwa [← size, List.take_length]
  · rwa [← size, List.drop_length]
  · rw [← size, List.drop_length]

theorem Stack.reverse_behind {symbols : List Symbol}
    (inner : ∀ s ∈ symbols, s.isOuter = false)
    (carries : stack.reverse.map Entry.symbol = symbols) :
    (Stack.behind items stack).reverse =
      ⟨2, .nonterminal .scriptItems, .ok items⟩ :: stack.reverse.map Entry.behind := by
  have whole : Stack.behind items (stack ++ []) = _ := Stack.behind_append (by
    intro e member
    apply inner
    rw [← carries]
    exact List.mem_map_of_mem (List.mem_reverse.mpr member)) []
  rw [List.append_nil] at whole
  rw [whole, List.reverse_append, List.map_reverse]
  rfl

theorem valuesOf_behind_first {symbols : List Symbol}
    (inner : ∀ s ∈ symbols, s.isOuter = false) {values : Except BuildError (Values symbols)}
    (found : valuesOf symbols stack.reverse = some values) :
    valuesOf (.nonterminal .scriptItems :: symbols) (Stack.behind items stack).reverse =
      some (consValue (s := .nonterminal .scriptItems) (.ok items) values) := by
  rw [Stack.reverse_behind inner (symbols_of_valuesOf found), valuesOf_cons, valuesOf_behind, found]
  rfl

theorem valuesOf_behind_more (items : List Node) {symbols : List Symbol}
    (inner : ∀ s ∈ symbols, s.isOuter = false)
    {values : Except BuildError (Values (.nonterminal .scriptItems :: symbols))}
    (found : valuesOf (.nonterminal .scriptItems :: symbols) stack.reverse = some values) :
    ∃ (v : Except BuildError (List Node)) (vs : Except BuildError (Values symbols)),
      values = consValue (s := .nonterminal .scriptItems) v vs ∧
        valuesOf (.nonterminal .scriptItems :: symbols) (Stack.behind items stack).reverse =
          some (consValue (s := .nonterminal .scriptItems) (prepend items v) vs) := by
  have carries := symbols_of_valuesOf found
  cases shape : stack.reverse with
  | nil =>
    rw [shape] at carries
    cases carries
  | cons e entries =>
    obtain ⟨state, symbol, v⟩ := e
    rw [shape, List.map_cons] at carries
    obtain ⟨rfl, others⟩ := List.cons.inj carries
    rw [shape, valuesOf_cons] at found
    obtain ⟨vs, later, rfl⟩ := Option.map_eq_some_iff.mp found
    refine ⟨v, vs, rfl, ?_⟩
    -- The items are the bottom of the stack; everything above is inside a statement.
    have bottom : stack = entries.reverse ++ [⟨state, .nonterminal .scriptItems, v⟩] := by
      rw [← List.reverse_reverse stack, shape, List.reverse_cons]
    have above : ∀ e ∈ entries.reverse, e.symbol.isOuter = false := by
      intro e member
      apply inner
      rw [← others]
      exact List.mem_map_of_mem (List.mem_reverse.mp member)
    rw [bottom, Stack.behind_append above, List.reverse_append, ← List.map_reverse,
      List.reverse_reverse]
    refine (valuesOf_cons (s := .nonterminal .scriptItems) state (prepend items v) _).trans ?_
    exact congrArg _ ((valuesOf_behind symbols entries).trans later)

/-- Items are joined to what stands before them. -/
theorem built_script (last : Bool) (v : Except BuildError (List Node))
    (vs : Except BuildError (Values (Production.script (.script false last)).rhs)) :
    built (.script (.script true last)) m (consValue (s := .nonterminal .scriptItems) v vs) =
      v.bind fun x => prepend x (built (.script (.script false last)) m vs) := by
  cases last <;> cases v <;> cases vs <;> rfl

theorem built_scriptItems (filled : Bool) (v : Except BuildError (List Node))
    (vs : Except BuildError (Values (Production.script (.scriptItems false filled)).rhs)) :
    built (.script (.scriptItems true filled)) m (consValue (s := .nonterminal .scriptItems) v vs) =
      v.bind fun x => prepend x (built (.script (.scriptItems false filled)) m vs) := by
  cases filled <;> cases v <;> cases vs <;> rfl

theorem prepend_bind (v w : Except BuildError (List Node)) :
    (prepend items v).bind (fun x => prepend x w) =
      prepend items (v.bind fun x => prepend x w) := by
  cases v with
  | error err => rfl
  | ok x =>
    cases w with
    | error err => rfl
    | ok y => exact congrArg Except.ok (List.append_assoc items x y)

theorem reduce_behind_script {more last : Bool} (path : Stack.IsPath statementAutomaton stack)
    (reduced : reduce statementAutomaton (.script (.script more last)) m stack = some stack') :
    reduce statementAutomaton (.script (.script true last)) m (Stack.behind items stack) =
      some (Stack.behind items stack') := by
  have inner : ∀ s ∈ (Production.script (.script false last)).rhs, s.isOuter = false := by
    cases last <;> decide
  obtain ⟨values, target, found, moved, rfl⟩ := whole_of_reduce path rfl reduced
  cases more with
  | false =>
    refine (reduce_whole (p := .script (.script true last)) (valuesOf_behind_first inner found)
      moved).trans ?_
    exact congrArg (fun v => some [(⟨target, .nonterminal .script, v⟩ : Entry)])
      (built_script last (.ok items) values)
  | true =>
    obtain ⟨v, vs, rfl, found'⟩ := valuesOf_behind_more items inner found
    refine (reduce_whole (p := .script (.script true last)) found' moved).trans ?_
    exact congrArg (fun v => some [(⟨target, .nonterminal .script, v⟩ : Entry)])
      ((built_script last (prepend items v) vs).trans ((prepend_bind v _).trans
        (congrArg (prepend items) (built_script last v vs).symm)))

theorem reduce_behind_scriptItems {more filled : Bool}
    (path : Stack.IsPath statementAutomaton stack)
    (reduced : reduce statementAutomaton (.script (.scriptItems more filled)) m stack =
      some stack') :
    reduce statementAutomaton (.script (.scriptItems true filled)) m (Stack.behind items stack) =
      some (Stack.behind items stack') := by
  have inner : ∀ s ∈ (Production.script (.scriptItems false filled)).rhs, s.isOuter = false := by
    cases filled <;> decide
  obtain ⟨values, target, found, moved, rfl⟩ := whole_of_reduce path rfl reduced
  cases more with
  | false =>
    refine (reduce_whole (p := .script (.scriptItems true filled))
      (valuesOf_behind_first inner found)
      moved).trans ?_
    exact congrArg (fun v => some [(⟨target, .nonterminal .scriptItems, v⟩ : Entry)])
      (built_scriptItems filled (.ok items) values)
  | true =>
    obtain ⟨v, vs, rfl, found'⟩ := valuesOf_behind_more items inner found
    refine (reduce_whole (p := .script (.scriptItems true filled)) found' moved).trans ?_
    exact congrArg (fun v => some [(⟨target, .nonterminal .scriptItems, v⟩ : Entry)])
      ((built_scriptItems filled (prepend items v) vs).trans ((prepend_bind v _).trans
        (congrArg (prepend items) (built_scriptItems filled v vs).symm)))

theorem reduce_behind {t : Terminal} (path : Stack.IsPath statementAutomaton stack)
    (act : statementAutomaton.action? (Stack.state stack) t = some (.reduce p))
    (reduced : reduce statementAutomaton p m stack = some stack') :
    reduce statementAutomaton p.behindItems m (Stack.behind items stack) =
      some (Stack.behind items stack') := by
  obtain inner | joins := isInner_or_isJoining act
  · rw [Production.behindItems_of_inner inner]
    exact reduce_behind_inner path inner reduced
  · unfold Production.isJoining at joins
    split at joins
    · exact reduce_behind_script path reduced
    · exact reduce_behind_scriptItems path reduced
    · cases joins

/-! ### Settling and steps -/

def Settled.behind (items : List Node) : Settled → Settled
  | .ready stack markers target => .ready (Stack.behind items stack) markers (behindItems target)
  | .complete stack => .complete (Stack.behind items stack)
  | .refused => .refused

theorem behindItems_eq_final (state : Nat) :
    behindItems state = statementAutomaton.final ↔ state = statementAutomaton.final := by
  unfold behindItems
  split <;> simp [statementAutomaton]

theorem counted_behindItems (p : Production) (m : Nat) : counted p.behindItems m = counted p m := by
  unfold Production.behindItems
  split <;> rfl

theorem settle_behind (items : List Node) {t : Terminal} {fuel : Nat}
    (path : Stack.IsPath statementAutomaton stack)
    (reached : settle statementAutomaton t fuel m stack ≠ .refused) :
    settle statementAutomaton t fuel m (Stack.behind items stack) =
      (settle statementAutomaton t fuel m stack).behind items := by
  induction fuel generalizing m stack with
  | zero => exact absurd rfl reached
  | succ fuel ih =>
    have acts (action : Action)
        (act : statementAutomaton.action? (Stack.state stack) t = some action) :
        statementAutomaton.action? (Stack.state (Stack.behind items stack)) t =
          some action.behindItems := by
      rw [Stack.state_behind path, action?_behindItems, act]
      rfl
    obtain refused | ⟨target, act, ready⟩ | ⟨p, stack', act, reduced, last | ⟨goes, next⟩⟩ :=
      settle_cases statementAutomaton t fuel m stack
    · exact absurd refused reached
    · rw [ready, settle_shift (acts _ act), Settled.behind]
    · obtain ⟨rfl, whole, complete⟩ := last
      have path' := path.reduce reduced
      rw [complete, settle_complete (acts _ act) (reduce_behind path act reduced), Settled.behind]
      rw [Stack.state_behind path', behindItems_eq_final]
      exact whole
    · have path' := path.reduce reduced
      rw [next] at reached ⊢
      rw [settle_reduce (acts _ act) (reduce_behind path act reduced), counted_behindItems,
        ih path' reached]
      rwa [Stack.state_behind path', behindItems_eq_final]

theorem settle_behind_bound {t : Terminal} (path : Stack.IsPath statementAutomaton stack)
    (reached : settle statementAutomaton t (reductionBound stack) m stack ≠ .refused) :
    settle statementAutomaton t (reductionBound (Stack.behind items stack)) m
        (Stack.behind items stack) =
      (settle statementAutomaton t (reductionBound stack) m stack).behind items := by
  have higher : reductionBound stack ≤ reductionBound (Stack.behind items stack) := by
    have : stack.length ≤ (Stack.behind items stack).length := Stack.length_behind path
    unfold reductionBound
    omega
  have same := settle_behind items path reached
  rw [settle_mono higher, same]
  rw [same]
  revert reached
  cases settle statementAutomaton t (reductionBound stack) m stack <;> simp [Settled.behind]

theorem expected_behind (path : Stack.IsPath statementAutomaton stack) :
    statementAutomaton.expected (Stack.behind items stack) = statementAutomaton.expected stack := by
  unfold Automaton.expected
  rw [Stack.state_behind path, row?_behindItems]
  cases statementAutomaton.row? (Stack.state stack) with
  | none => rfl
  | some r => exact r.behindItems_expected

/-- A complete script stands alone on the stack. -/
theorem eq_script_of_complete {t : Terminal} {fuel : Nat} {final : Stack}
    (path : Stack.IsPath statementAutomaton stack)
    (complete : settle statementAutomaton t fuel m stack = .complete final) :
    ∃ value, final = [⟨1, .nonterminal .script, value⟩] := by
  obtain ⟨path', whole⟩ := path.settle_complete complete
  obtain rfl | ⟨value, rfl⟩ | ⟨value, rfl⟩ | ⟨e, below, rfl, inner⟩ := Stack.outer_cases path'
  · cases whole
  · cases whole
  · exact ⟨value, rfl⟩
  · have moved := path'.1
    rw [show e.state = 1 from whole] at moved
    rw [eq_script_of_next? moved] at inner
    cases inner

def Configuration.behind (items : List Node) (c : Configuration) : Configuration :=
  { c with stack := Stack.behind items c.stack }

theorem Step.behind {c d : Configuration} (path : Stack.IsPath statementAutomaton c.stack)
    (step : Step statementAutomaton c d) :
    Step statementAutomaton (c.behind items) (d.behind items) := by
  cases step with
  | blank ahead => exact .blank (by rwa [expected_behind path])
  | token ahead ready =>
    unfold Configuration.behind
    rw [Stack.behind_cons rfl]
    refine .token (by rwa [expected_behind path]) ?_
    rw [settle_behind_bound path (by rw [ready]; exact nofun), ready]
    rfl

/-- A script that is accepted is accepted behind items, which come before it. -/
theorem Accepts.behind {c : Configuration} {outcome : Except BuildError (List Node)}
    (accepts : Accepts statementAutomaton c outcome) (items : List Node)
    (path : Stack.IsPath statementAutomaton c.stack) :
    Accepts statementAutomaton (c.behind items) (prepend items outcome) := by
  obtain ⟨last, reads, ends⟩ := accepts
  induction reads using Relation.ReflTransGen.head_induction_on with
  | refl =>
    obtain ⟨empty, final, complete, rfl⟩ := ends
    obtain ⟨value, rfl⟩ := eq_script_of_complete path complete
    refine ⟨last.behind items, .refl, empty, Stack.behind items [⟨1, .nonterminal .script, value⟩],
      ?_, rfl⟩
    have reached : settle statementAutomaton .endOfInput (reductionBound last.stack) last.markers
        last.stack ≠ .refused := by
      rw [complete]
      exact nofun
    exact (settle_behind_bound path reached).trans (congrArg (Settled.behind items) complete)
  | head step _ ih => exact .head (step.behind path) (ih (step.isPath path))

end SqlSyntax.Grammar
