import Mathlib.Algebra.GroupWithZero.Nat
import SqlSyntax.Proofs.Grammar.Moved
import SqlSyntax.Proofs.Grammar.Run
import SqlSyntax.Proofs.Lexical.Pieces

/-!
# Derivations and the runs they direct

A derivation spells out a row of symbols in pieces and gives the values that belong to them. Under
conditions that a table can be checked for, an automaton reads the text of a derivation and ends
with its symbols and values on the stack, up to places and marker orders. Reductions are left
pending until the next terminal is seen, so everything here is said before a terminal that follows.
-/

namespace SqlSyntax.Grammar

/-- Some of the productions of a grammar, and what an automaton is to do with them. -/
structure Fragment where
  /-- The productions that take part. -/
  covers : Production → Bool
  /-- What may be looked for behind a symbol, given the symbol that comes next in its row. -/
  scope : Symbol → Option Symbol → TerminalSet
  /-- What may be looked for behind a production. -/
  closing : Production → TerminalSet
  /-- The terminals with which a nonterminal starts. -/
  first : Nonterminal → TerminalSet
  /-- Whether a nonterminal may stand for nothing. -/
  nullable : Nonterminal → Bool
  /-- The terminals before which a nonterminal that was started in a state is recognised. -/
  follow : Nat → Nonterminal → TerminalSet
  /-- The terminals that may come behind a production. -/
  ends : Production → TerminalSet
  /-- Reductions make a stack lighter. -/
  weight : Symbol → Nat
  /-- What the empty productions cost that a state may yet be led through. -/
  credit : Nat → Nat

/-- A value without its places and marker orders. -/
def Values.plain {symbols : List Symbol} (vs : Values symbols) : Values symbols :=
  Values.moved (fun _ => .start) (fun _ => 0) symbols vs

namespace Fragment

/-- The row of symbols is spelled out by the pieces and has the values. `behind` comes next, and at
the first piece `scope` may be looked for. -/
inductive Derives (f : Fragment) :
    Terminal → TerminalSet → (symbols : List Symbol) → List Piece → Values symbols → Prop
  | nil {behind scope} : Derives f behind scope [] [] ()
  | blank {behind scope symbols pieces vs} (rest : Derives f behind scope symbols pieces vs) :
      Derives f behind scope symbols (.blank :: pieces) vs
  | terminal {behind scope symbols pieces vs} (t : Terminal) (spelling : List Char)
      (rest : Derives f behind (f.scope (.terminal t) symbols.head?) symbols pieces vs) :
      Derives f behind scope (.terminal t :: symbols) (.token scope t spelling :: pieces)
        ((⟨t, String.ofList spelling, .start⟩ : Token), vs)
  | nonterminal {behind scope symbols pieces later vs} (p : Production) {values : Values p.rhs}
      {v : p.lhs.Value} (covered : f.covers p = true)
      (inner : Derives f (Piece.ahead later behind) scope p.rhs pieces values)
      (builds : p.build 0 values = .ok v)
      (ends : (f.ends p).contains (Piece.ahead later behind) = true)
      (rest : Derives f behind (f.scope (.nonterminal p.lhs) symbols.head?) symbols later vs) :
      Derives f behind scope (.nonterminal p.lhs :: symbols) (pieces ++ later) (v, vs)

/-- What may be looked for behind a row of symbols. -/
def lastScope (f : Fragment) : TerminalSet → List Symbol → TerminalSet
  | scope, [] => scope
  | _, s :: rest => lastScope f (f.scope s rest.head?) rest

/-- `t` can be the first terminal of the row of symbols and `behind`. -/
def Starts (f : Fragment) (behind : Terminal) : List Symbol → Terminal → Prop
  | [], t => t = behind
  | .terminal s :: _, t => t = s
  | .nonterminal n :: rest, t =>
    (f.first n).contains t = true ∨ f.nullable n = true ∧ Starts f behind rest t

/-- How much less a stack weighs at least when a production is reduced in a state, before what it
gives is put there. -/
def spares (f : Fragment) (q : Nat) (p : Production) : Nat :=
  if p.rhs.isEmpty then f.credit q else (p.rhs.map f.weight).sum

/-- The symbols lead from one state to another, and on the way each nonterminal is recognised before
all that can come next when `behind` follows the row. -/
def Guides (f : Fragment) (a : Automaton) (behind : Terminal) : Nat → List Symbol → Nat → Prop
  | q, [], last => q = last
  | q, .terminal t :: rest, last =>
    ∃ next, a.next? q (.terminal t) = some next ∧
      (∀ u, (a.action? next u).isSome = true →
        (f.scope (.terminal t) rest.head?).contains u = true) ∧
      Guides f a behind next rest last
  | q, .nonterminal n :: rest, last =>
    ∃ next, a.next? q (.nonterminal n) = some next ∧
      (∀ u, f.Starts behind rest u → (f.follow q n).contains u = true) ∧
      (∀ p t, f.covers p = true → p.lhs = n → f.Starts behind rest t →
        (f.ends p).contains t = true →
        ∀ u, (f.closing p).contains u = true →
          (f.scope (.nonterminal n) rest.head?).contains u = true) ∧
      Guides f a behind next rest last

/-- What a table has to satisfy for the automaton to read the fragment. -/
structure Fits (f : Fragment) (a : Automaton) : Prop where
  first : ∀ p, f.covers p = true → ∀ behind t, f.Starts behind p.rhs t →
    (f.first p.lhs).contains t = true ∨ f.nullable p.lhs = true ∧ t = behind
  closing : ∀ p, f.covers p = true → ∀ scope u, (f.lastScope scope p.rhs).contains u = true →
    (f.closing p).contains u = true
  weight_lt : ∀ s, f.weight s < 48
  credit_lt : ∀ q, f.credit q < 16
  credit_zero : f.credit 0 = 0
  leads : ∀ p, f.covers p = true → ∀ q target behind,
    a.next? q (.nonterminal p.lhs) = some target → (f.follow q p.lhs).contains behind = true →
      (f.ends p).contains behind = true →
        target ≠ a.final ∧ f.weight (.nonterminal p.lhs) + f.credit target < f.spares q p ∧
          ∃ last, f.Guides a behind q p.rhs last ∧ a.action? last behind = some (.reduce p)

variable {f : Fragment} {a : Automaton} {t behind : Terminal} {scope : TerminalSet}
  {symbols : List Symbol} {pieces later : List Piece} {markers markers' markers'' : Nat}
  {stack stack' stack'' below : Stack}

/-- Only blanks spell out nothing. -/
theorem Derives.blanks {other : TerminalSet} {next : Terminal} {vs : Values symbols} :
    {pieces : List Piece} → {none : Values []} → (nothing : Derives f next other [] pieces none) →
    (rest : Derives f behind scope symbols later vs) →
    Derives f behind scope symbols (pieces ++ later) vs
  | _, _, .nil, rest => rest
  | _, _, .blank nothing, rest => .blank (nothing.blanks rest)

/-- A derivation of one symbol before one of others. -/
theorem Derives.cons {s : Symbol} {v : s.Value} {vs : Values symbols} :
    {pieces : List Piece} →
    (head : Derives f (Piece.ahead later behind) scope [s] pieces (v, ())) →
    (tail : Derives f behind (f.scope s symbols.head?) symbols later vs) →
    Derives f behind scope (s :: symbols) (pieces ++ later) (v, vs)
  | _, .blank head, tail => .blank (head.cons tail)
  | _, .terminal t spelling rest, tail => .terminal t spelling (rest.blanks tail)
  | _, .nonterminal p covered inner builds ends rest, tail => by
    rw [← Piece.ahead_append] at inner ends
    rw [List.append_assoc]
    exact .nonterminal p covered inner builds ends (rest.blanks tail)

/-- A derivation starts with a terminal that its symbols can start with, whatever comes behind. -/
theorem Derives.starts (fits : f.Fits a) {vs : Values symbols}
    (derives : Derives f behind scope symbols pieces vs) (other : Terminal) :
    f.Starts other symbols (Piece.ahead pieces other) := by
  induction derives generalizing other with
  | nil => rfl
  | blank rest ih => exact ih other
  | terminal t spelling rest ih => rfl
  | nonterminal p covered inner builds ends rest inner_ih ih =>
    rw [Piece.ahead_append]
    obtain first | ⟨nullable, same⟩ := fits.first p covered _ _ (inner_ih _)
    · exact .inl first
    · rw [same]
      exact .inr ⟨nullable, ih other⟩

/-! ### Pending reductions -/

/-- How much a stack weighs. -/
def load (f : Fragment) (stack : Stack) : Nat :=
  (stack.map fun e => f.weight e.symbol).sum + f.credit stack.state

theorem load_le (fits : f.Fits a) (stack : Stack) : f.load stack ≤ 63 * stack.length := by
  have weights : (stack.map fun e => f.weight e.symbol).sum ≤ 47 * stack.length := by
    induction stack with
    | nil => exact Nat.le_refl 0
    | cons e stack ih =>
      have := fits.weight_lt e.symbol
      simp only [List.map_cons, List.sum_cons, List.length_cons] at ih ⊢
      omega
  cases stack with
  | nil => exact Nat.le_of_eq ((Nat.zero_add _).trans fits.credit_zero)
  | cons e stack =>
    have := fits.credit_lt (Stack.state (e :: stack))
    simp only [load, List.length_cons] at weights ⊢
    omega

/-- Before `t` the one stack is reduced to the other, which is lighter by as much as there are
reductions. -/
def Reduces (f : Fragment) (a : Automaton) (t : Terminal) (markers : Nat) (stack : Stack)
    (markers' : Nat) (stack' : Stack) : Prop :=
  ∃ n, n + f.load stack' ≤ f.load stack ∧
    ∀ fuel, settle a t (n + fuel) markers stack = settle a t fuel markers' stack'

theorem Reduces.refl (markers : Nat) (stack : Stack) : f.Reduces a t markers stack markers stack :=
  ⟨0, by omega, fun fuel => by rw [Nat.zero_add]⟩

theorem Reduces.trans (first : f.Reduces a t markers stack markers' stack')
    (second : f.Reduces a t markers' stack' markers'' stack'') :
    f.Reduces a t markers stack markers'' stack'' := by
  obtain ⟨n, light, settles⟩ := first
  obtain ⟨m, lighter, settles'⟩ := second
  refine ⟨n + m, by omega, fun fuel => ?_⟩
  rw [Nat.add_assoc, settles, settles']

/-- A production whose symbols stand on the stack is reduced. -/
theorem Reduces.production {p : Production} {entries : List Entry}
    {values : Except BuildError (Values p.rhs)} {target : Nat}
    (found : valuesOf p.rhs entries = some values)
    (act : a.action? (Stack.state (entries.reverse ++ below)) t = some (.reduce p))
    (moves : a.next? (Stack.state below) (.nonterminal p.lhs) = some target)
    (lighter : f.weight (.nonterminal p.lhs) + f.credit target < f.spares (Stack.state below) p)
    (goes : target ≠ a.final) :
    f.Reduces a t markers (entries.reverse ++ below) (counted p markers)
      (⟨target, .nonterminal p.lhs, built p markers values⟩ :: below) := by
  have carried := symbols_of_valuesOf found
  have size : entries.reverse.length = p.rhs.length := by
    rw [← carried, List.length_reverse, List.length_map]
  have reduced : reduce a p markers (entries.reverse ++ below) =
      some (⟨target, .nonterminal p.lhs, built p markers values⟩ :: below) := by
    apply reduce_eq_some_iff.mpr
    rw [← size, List.take_left, List.drop_left, List.reverse_reverse]
    exact ⟨values, target, found, moves, rfl⟩
  refine ⟨1, ?_, fun fuel => ?_⟩
  · have weights : (p.rhs.map f.weight).sum =
        (entries.reverse.map fun e => f.weight e.symbol).sum := by
      rw [← carried, List.map_map, List.map_reverse, List.sum_reverse]
      rfl
    have top : Stack.state (⟨target, .nonterminal p.lhs, built p markers values⟩ :: below) =
        target :=
      rfl
    simp only [load, List.map_append, List.sum_append, List.map_cons, List.sum_cons, top]
    unfold spares at lighter
    split at lighter
    · -- Without symbols of its own a production leaves the state in which it started.
      have none : entries = [] := by
        rw [← List.length_eq_zero_iff, ← List.length_reverse, size, List.length_eq_zero_iff]
        exact List.isEmpty_iff.mp ‹_›
      subst none
      simp only [List.reverse_nil, List.map_nil, List.sum_nil, List.nil_append]
      omega
    · omega
  · rw [Nat.add_comm]
    exact settle_reduce act reduced fun ends => goes ends.2

/-- Fewer reductions are pending than `settle` allows for. -/
theorem Reduces.settle_eq (fits : f.Fits a)
    (reduces : f.Reduces a t markers stack markers' stack') :
    ∃ fuel, settle a t (reductionBound stack) markers stack =
      settle a t (fuel + 64) markers' stack' := by
  obtain ⟨n, light, settles⟩ := reduces
  have bounded := load_le fits stack
  have enough : n + 64 ≤ reductionBound stack := by
    unfold reductionBound
    omega
  obtain ⟨fuel, bound⟩ := Nat.exists_eq_add_of_le enough
  exact ⟨fuel, by rw [bound, ← settles, show n + 64 + fuel = n + (fuel + 64) by omega]⟩

theorem Reduces.ready (fits : f.Fits a) (reduces : f.Reduces a t markers stack markers' stack')
    {target : Nat} (shift : a.action? (Stack.state stack') t = some (.shift target)) :
    settle a t (reductionBound stack) markers stack = .ready stack' markers' target := by
  obtain ⟨fuel, same⟩ := reduces.settle_eq fits
  rw [same]
  exact settle_shift shift

/-! ### Runs -/

/-- From the configuration the automaton comes to the text `rest`; there, before `behind`, the stack
reduces to entries for the symbols, with their values, on top of `below`. -/
def Arrives (f : Fragment) (a : Automaton) (c : Configuration) (rest : List Char)
    (behind : Terminal)
    (below : Stack) (symbols : List Symbol) (vs : Values symbols) (last : Nat)
    (scope : TerminalSet) : Prop :=
  ∃ position markers stack markers' entries values,
    Relation.ReflTransGen (Step a) c ⟨position, rest, markers, stack⟩ ∧
    f.Reduces a behind markers stack markers' (entries.reverse ++ below) ∧
    valuesOf symbols entries = some (.ok values) ∧ values.plain = vs ∧
    Stack.state (entries.reverse ++ below) = last ∧
    ∀ u, (a.expected stack).contains u = true → scope.contains u = true

/-- Production values that are built without places and marker orders are built with them too. -/
theorem build_of_plain {p : Production} {values : Values p.rhs} {v : p.lhs.Value}
    (markers : Nat) (builds : p.build 0 values.plain = .ok v) :
    ∃ v', p.build markers values = .ok v' ∧
      p.lhs.moved (fun _ => .start) (fun _ => 0) v' = v := by
  have moved : p.build 0 values.plain =
      carried (fun _ => .start) (p.lhs.moved (fun _ => .start) fun _ => 0)
        (p.build markers values) :=
    Production.build_moved rfl p values
  rw [builds] at moved
  cases outcome : p.build markers values with
  | ok v' =>
    rw [outcome] at moved
    cases moved
    exact ⟨v', rfl, rfl⟩
  | error e =>
    rw [outcome] at moved
    cases moved

theorem reverse_append_cons (entries : List Entry) (e : Entry) (below : Stack) :
    entries.reverse ++ e :: below = (e :: entries).reverse ++ below := by
  simp

/-- The text of a derivation is read. By induction on the derivation: a terminal is shifted after
the reductions that are pending before it, a nonterminal is read by its production, which is then
reduced before whatever comes next. -/
theorem Derives.arrives (fits : f.Fits a) {vs : Values symbols}
    (derives : Derives f behind scope symbols pieces vs) {position : Position} {rest : List Char}
    {last : Nat}
    (pending : f.Reduces a (Piece.ahead pieces behind) markers stack markers' below)
    (sought : ∀ u, (a.expected stack).contains u = true → scope.contains u = true)
    (guides : f.Guides a behind (Stack.state below) symbols last)
    (legible : Piece.Legible rest pieces) :
    f.Arrives a ⟨position, Piece.textOf pieces ++ rest, markers, stack⟩ rest behind below symbols vs
      last (f.lastScope scope symbols) := by
  induction derives generalizing position rest markers markers' stack below last with
  | nil =>
    exact ⟨position, markers, stack, markers', [], (), .refl, pending, rfl, rfl, guides, sought⟩
  | @blank behind scope symbols pieces vs derives ih =>
    obtain ⟨apart, legible⟩ := legible
    have step : Step a ⟨position, ' ' :: (Piece.textOf pieces ++ rest), markers, stack⟩
        ⟨position.after [' '], Piece.textOf pieces ++ rest, markers, stack⟩ :=
      .blank (Ahead.scan_space apart _)
    obtain ⟨_, _, _, _, entries, values, reads, after⟩ := ih pending sought guides legible
    exact ⟨_, _, _, _, entries, values, .head step reads, after⟩
  | @terminal behind scope symbols pieces vs t spelling derives ih =>
    obtain ⟨found, legible⟩ := legible
    obtain ⟨next, moves, sought', guides⟩ := guides
    have ready := pending.ready fits (Automaton.action?_of_next? moves)
    have ahead := found (a.expected stack) sought (contains_expected_of_ready ready)
    let token : Token := ⟨t, String.ofList spelling, position⟩
    have step : Step a ⟨position, spelling ++ (Piece.textOf pieces ++ rest), markers, stack⟩ _ :=
      .token ahead ready
    rw [List.take_left, List.drop_left] at step
    obtain ⟨place, _, _, _, entries, values, reads, reduces, carried, plain, reaches, sought⟩ :=
      ih (.refl markers' _)
        (fun u expected =>
          sought' u ((a.contains_expected_iff (⟨next, .terminal t, .ok token⟩ :: below) u).mp
            expected))
        guides legible
    rw [reverse_append_cons] at reduces reaches
    refine ⟨place, _, _, _, _, ((token, values) : Values (.terminal t :: symbols)), ?_,
      reduces, ?_, ?_, reaches, sought⟩
    · rw [Piece.textOf_cons, List.append_assoc]
      exact .head step reads
    · rw [valuesOf_cons, carried]
      rfl
    · rw [← plain]
      rfl
  | @nonterminal behind scope symbols pieces later vs p values v covered inner builds ends derives
      inner_ih ih =>
    obtain ⟨next, moves, follows, closes, guides⟩ := guides
    rw [Piece.legible_append] at legible
    rw [Piece.ahead_append] at pending
    -- What comes behind the production is the first terminal of the rest.
    have follow := follows _ (derives.starts fits _)
    obtain ⟨goes, lighter, state, inside, act⟩ := fits.leads p covered _ _ _ moves follow ends
    obtain ⟨between, _, _, count, entries, values', reads, reduces, carried, plain, reaches,
      sought⟩ :=
      inner_ih pending sought inside legible.1
    have reduces := reduces.trans (.production carried (reaches ▸ act) moves lighter goes)
    obtain ⟨v', result, plain'⟩ := build_of_plain count (plain ▸ builds)
    rw [show built p count (.ok values') = .ok v' from result] at reduces
    obtain ⟨place, _, _, _, entries', values'', reads', reduces', carried', plain'', reaches',
      sought'⟩ :=
      ih reduces
        (fun u expected => closes p _ covered rfl (derives.starts fits _) ends u
          (fits.closing p covered scope u (sought u expected)))
        guides legible.2
    rw [reverse_append_cons] at reduces' reaches'
    refine ⟨place, _, _, _, _, ((v', values'') : Values (.nonterminal p.lhs :: symbols)), ?_,
      reduces', ?_, ?_, reaches', sought'⟩
    · rw [Piece.textOf_append, List.append_assoc]
      exact reads.trans reads'
    · refine (valuesOf_cons next _ entries').trans ?_
      rw [carried']
      rfl
    · rw [← plain'', ← plain']
      rfl

end Fragment

end SqlSyntax.Grammar
