import Mathlib.Data.List.Basic
import SqlSyntax.Log.Context
import SqlSyntax.Proofs.View.Data

/-!
# The context of log records

The context of a logger is one changing value, which blocks save and put back. A program opens
blocks around log calls and leaves them normally or because something failed; it may also make
further loggers from those it has. Every record then has the values that its place in the program
tells: what is given with the call, what the innermost block around it on the same logger sets, or
what the logger has of its own. A logger made in a block has taken the values of the block over, and
keeps them.

A program with loops and branches performs some row of actions, so rows of actions are considered.
Each block is opened for itself: what happens when one is opened again before it is left is not said
here.
-/

namespace SqlSyntax

theorem Entries.get?_merge {α : Type} {later : Entries α} (distinct : later.keys.Nodup)
    (es : Entries α) (key : String) :
    (es.merge later).get? key = (later.get? key).or (es.get? key) := by
  induction later generalizing es with
  | nil => rfl
  | cons e later ih =>
    obtain ⟨k, a⟩ := e
    obtain ⟨fresh, distinct⟩ := List.nodup_cons.mp distinct
    have step : es.merge ((k, a) :: later) = (es.put k a).merge later := rfl
    rw [step, ih distinct, Entries.get?_put]
    by_cases same : key = k
    · subst same
      rw [Entries.get?_eq_none_iff.mpr fresh, if_pos rfl]
      simp [Entries.get?]
    · simp [same, Entries.get?, List.lookup_cons, beq_eq_false_iff_ne.mpr same]

namespace Log

/-! ### Programs -/

/-- Values that a caller gives, each under a name of its own. -/
abbrev Given := { es : Entries Value // es.keys.Nodup }

/-- What a program does with its loggers, which are numbered in the order in which they are made. -/
inductive Action where
  | call (on : Nat) (level : Level) (message : String) (extra : Given) (fault : Option Fault)
  /-- Makes another logger, which has more context. -/
  | derive (on : Nat) (more : Given)
  /-- Something fails that has nothing to do with logs. -/
  | fail (fault : Fault)
  /-- A block with actions inside. -/
  | block (on : Nat) (more : Given) (body : List Action)
  /-- Actions whose failure is caught. -/
  | guarded (body : List Action)

structure OpenBlock where
  on : Nat
  more : Given

inductive Item where
  | record (r : Record)
  | logger (number : Nat)

/-- Something that a program makes, with its place in the program: the logger it comes from, the
blocks around it from the innermost on, and what is given for it. -/
structure Product where
  on : Nat
  opened : List OpenBlock
  given : Given
  item : Item

structure Outcome where
  scopes : Scopes
  products : List Product
  fault : Option Fault

namespace Scopes

/-- The same with another logger in use. -/
def select (s : Scopes) (on : Nat) : Scopes :=
  { s with current := on }

mutual

/-- Nothing happens on a logger that does not exist. The blocks around the action are only told to
its products, and leaving a block does not depend on how its body ended. -/
def perform (opened : List OpenBlock) (s : Scopes) : Action → Outcome
  | .call on level message extra fault =>
    if on < s.loggers.length then
      match (s.select on).logger.record level message extra fault with
      | .ok r => ⟨s, [⟨on, opened, extra, .record r⟩], none⟩
      | .error fault => ⟨s, [], some fault⟩
    else ⟨s, [], none⟩
  | .derive on more =>
    if on < s.loggers.length then
      match Logger.named ["self"] more with
      | .ok _ => ⟨(s.select on).derive more, [⟨on, opened, more, .logger s.loggers.length⟩], none⟩
      | .error fault => ⟨s, [], some fault⟩
    else ⟨s, [], none⟩
  | .fail fault => ⟨s, [], some fault⟩
  | .block on more body =>
    if on < s.loggers.length then
      match Logger.named ["self", "logger"] more with
      | .ok _ =>
        let inside := performAll (⟨on, more⟩ :: opened) ((s.select on).enter more) body
        { inside with scopes := inside.scopes.exit?.getD inside.scopes }
      | .error fault => ⟨s, [], some fault⟩
    else ⟨s, [], none⟩
  | .guarded body => { performAll opened s body with fault := none }

/-- One action after the other, up to the first that fails. -/
def performAll (opened : List OpenBlock) (s : Scopes) : List Action → Outcome
  | [] => ⟨s, [], none⟩
  | a :: rest =>
    let first := perform opened s a
    match first.fault with
    | some _ => first
    | none =>
      let later := performAll opened first.scopes rest
      { later with products := first.products ++ later.products }

end

end Scopes

/-! ### Values by place -/

/-- The value that the innermost block on a logger gives for a key, if one sets it. -/
def innermost? (on : Nat) (opened : List OpenBlock) (key : String) : Option Value :=
  opened.findSome? fun b => if b.on = on then b.more.1.get? key else none

/-- The values of an item, those of a logger being its context. -/
def Item.values? (loggers : List Logger) : Item → Option (Entries Value)
  | .record r => some r.extra
  | .logger number => loggers[number]?.map Logger.context

/-- The values of a product are those that its place tells. -/
def Product.Carries (loggers : List Logger) (p : Product) : Prop :=
  ∃ own values, loggers[p.on]? = some own ∧ p.item.values? loggers = some values ∧
    ∀ key, values.get? key =
      (p.given.1.get? key).or ((innermost? p.on p.opened key).or (own.context.get? key))

/-- The context that a logger has within some blocks. -/
def within (opened : List OpenBlock) (on : Nat) (own : Entries Value) : Entries Value :=
  opened.foldr (fun b inner => if b.on = on then inner.merge b.more.1 else inner) own

theorem get?_within (opened : List OpenBlock) (on : Nat) (own : Entries Value) (key : String) :
    (within opened on own).get? key = (innermost? on opened key).or (own.get? key) := by
  induction opened with
  | nil => rfl
  | cons b opened ih =>
    rw [within, List.foldr_cons, ← within, innermost?, List.findSome?_cons, ← innermost?]
    by_cases here : b.on = on
    · rw [if_pos here, if_pos here, Entries.get?_merge b.more.2, ih]
      cases b.more.1.get? key <;> rfl
    · rw [if_neg here, if_neg here, ih]

/-! ### What an action keeps -/

/-- The loggers have what they have of their own, and what the open blocks add to it. -/
structure Nested (own : List Logger) (opened : List OpenBlock) (s : Scopes) : Prop where
  loggers : ∀ i : Nat, s.loggers[i]? = own[i]?.map fun l => ⟨l.name, within opened i l.context⟩
  bound : ∀ b ∈ opened, b.on < own.length

/-- The action has left the blocks as they were before, perhaps made more loggers, and its products
carry what they should. -/
structure Keeps (own : List Logger) (opened : List OpenBlock) (s : Scopes) (out : Outcome) :
    Prop where
  blocks : out.scopes.blocks = s.blocks
  nested : ∃ new, Nested (own ++ new) opened out.scopes ∧ ∀ p ∈ out.products, p.Carries (own ++ new)

variable {own : List Logger} {opened : List OpenBlock} {s : Scopes} {on : Nat} {more : Given}

theorem nested_nil : Nested own [] s ↔ s.loggers = own := by
  have alone : ∀ i : Nat, (fun l : Logger => (⟨l.name, within [] i l.context⟩ : Logger)) = id :=
    fun _ => rfl
  constructor
  · intro nested
    refine List.ext_getElem? fun i => ?_
    rw [nested.loggers i, alone, Option.map_id, id]
  · rintro rfl
    refine ⟨fun i => ?_, fun _ member => absurd member List.not_mem_nil⟩
    rw [alone, Option.map_id, id]

theorem Nested.length_eq (nested : Nested own opened s) : s.loggers.length = own.length := by
  apply Nat.le_antisymm
  · have missing := nested.loggers own.length
    rw [List.getElem?_eq_none (Nat.le_refl _)] at missing
    exact List.getElem?_eq_none_iff.mp missing
  · have missing := nested.loggers s.loggers.length
    rw [List.getElem?_eq_none (Nat.le_refl _), eq_comm, Option.map_eq_none_iff] at missing
    exact List.getElem?_eq_none_iff.mp missing

/-- The logger in use, and what it has of its own. -/
theorem Nested.exists_own (nested : Nested own opened s) (known : on < s.loggers.length) :
    ∃ l, own[on]? = some l ∧ (s.select on).logger = ⟨l.name, within opened on l.context⟩ := by
  obtain ⟨l, found⟩ : ∃ l, own[on]? = some l :=
    ⟨_, List.getElem?_eq_getElem (nested.length_eq ▸ known)⟩
  refine ⟨l, found, ?_⟩
  have there := nested.loggers on
  rw [found, Option.map_some] at there
  rw [Scopes.logger, Scopes.select, List.getD_eq_getElem?_getD, there, Option.getD_some]

theorem within_cons_self (more : Given) (context : Entries Value) :
    within (⟨on, more⟩ :: opened) on context = (within opened on context).merge more.1 := by
  rw [within, List.foldr_cons, if_pos rfl, ← within]

theorem within_cons_of_ne {i : Nat} (other : on ≠ i) (more : Given) (context : Entries Value) :
    within (⟨on, more⟩ :: opened) i context = within opened i context := by
  rw [within, List.foldr_cons, if_neg other, ← within]

theorem within_of_bound {size : Nat} (bound : ∀ b ∈ opened, b.on < size) (context : Entries Value) :
    within opened size context = context := by
  induction opened with
  | nil => rfl
  | cons b opened ih =>
    have other : b.on ≠ size := Nat.ne_of_lt (bound b List.mem_cons_self)
    rw [within_cons_of_ne other]
    exact ih fun b' member => bound b' (List.mem_cons_of_mem b member)

theorem Nested.enter (nested : Nested own opened s) (known : on < s.loggers.length) (more : Given) :
    Nested own (⟨on, more⟩ :: opened) ((s.select on).enter more.1) := by
  obtain ⟨l, found, inUse⟩ := nested.exists_own known
  refine ⟨fun i => ?_, List.forall_mem_cons.mpr ⟨nested.length_eq ▸ known, nested.bound⟩⟩
  have changed : ((s.select on).enter more.1).loggers =
      s.loggers.modify on fun l' =>
        { l' with context := (within opened on l.context).merge more.1 } := by
    rw [Scopes.enter, inUse]
    rfl
  rw [changed, List.getElem?_modify, nested.loggers i]
  by_cases same : on = i
  · subst same
    rw [found]
    simp [within_cons_self]
  · simp [within_cons_of_ne same, same]

/-- Leaving a block that was opened on what the loggers had then. -/
theorem Nested.leave {before : Entries Value} {rest : List (Nat × Entries Value)}
    (nested : Nested own (⟨on, more⟩ :: opened) s) (saved : s.blocks = (on, before) :: rest)
    (same : ∀ l, own[on]? = some l → before = within opened on l.context) :
    (s.exit?.getD s).blocks = rest ∧ Nested own opened (s.exit?.getD s) := by
  have left : s.exit?.getD s = { s.setContext on before with blocks := rest } := by
    rw [Scopes.exit?, saved, Option.getD_some]
  rw [left]
  refine ⟨rfl, fun i => ?_, fun b member => nested.bound b (List.mem_cons_of_mem _ member)⟩
  have changed : (s.setContext on before).loggers = s.loggers.modify on fun l =>
      { l with context := before } := rfl
  rw [changed, List.getElem?_modify, nested.loggers i]
  by_cases here : on = i
  · subst here
    cases found : own[on]? with
    | none => rfl
    | some l => simp [same l found]
  · simp [within_cons_of_ne here, here]

theorem Item.values?_append {item : Item} {values : Entries Value} (new : List Logger)
    (found : item.values? own = some values) : item.values? (own ++ new) = some values := by
  cases item with
  | record r => exact found
  | logger number =>
    obtain ⟨l, there, rfl⟩ := Option.map_eq_some_iff.mp found
    rw [Item.values?, List.getElem?_append_left (List.getElem?_eq_some_iff.mp there).1, there]
    rfl

/-- What a product carries does not change when more loggers are made. -/
theorem Product.Carries.append {p : Product} (carries : p.Carries own) (new : List Logger) :
    p.Carries (own ++ new) := by
  obtain ⟨l, values, found, held, told⟩ := carries
  refine ⟨l, values, ?_, Item.values?_append new held, told⟩
  rw [List.getElem?_append_left (List.getElem?_eq_some_iff.mp found).1, found]

/-- The values of a record or a logger that is made from the logger in use. -/
theorem carries_of_merge {item : Item} {l : Logger} (found : own[on]? = some l)
    (held : item.values? own = some ((within opened on l.context).merge more.1)) :
    Product.Carries own ⟨on, opened, more, item⟩ := by
  refine ⟨l, _, found, held, fun key => ?_⟩
  rw [Entries.get?_merge more.2, get?_within]

theorem Logger.extra_of_record {l : Logger} {level : Level} {message : String}
    {extra : Entries Value}
    {fault : Option Fault} {r : Record} (made : l.record level message extra fault = .ok r) :
    r.extra = l.context.merge extra := by
  unfold Logger.record at made
  dsimp only at made
  split at made
  · cases made
  · cases made
    rfl

theorem Keeps.unchanged (nested : Nested own opened s) (fault : Option Fault) :
    Keeps own opened s ⟨s, [], fault⟩ :=
  ⟨rfl, [], by rwa [List.append_nil], fun _ member => absurd member List.not_mem_nil⟩

theorem Nested.call (nested : Nested own opened s) (known : on < s.loggers.length) {level : Level}
    {message : String} {extra : Given} {fault : Option Fault} {r : Record}
    (made : (s.select on).logger.record level message extra.1 fault = .ok r) :
    Keeps own opened s ⟨s, [⟨on, opened, extra, .record r⟩], none⟩ := by
  obtain ⟨l, found, inUse⟩ := nested.exists_own known
  refine ⟨rfl, [], ?_, ?_⟩
  · rwa [List.append_nil]
  · rw [List.append_nil, List.forall_mem_singleton]
    refine carries_of_merge found ?_
    rw [Item.values?, Logger.extra_of_record made, inUse]

/-- The new logger is on none of the open blocks, so that its context is all its own. -/
theorem Nested.derive (nested : Nested own opened s) (known : on < s.loggers.length)
    (more : Given) :
    Keeps own opened s
      ⟨(s.select on).derive more.1, [⟨on, opened, more, .logger s.loggers.length⟩], none⟩ := by
  obtain ⟨l, found, inUse⟩ := nested.exists_own known
  have made : ((s.select on).derive more.1).loggers =
      s.loggers ++ [⟨l.name, (within opened on l.context).merge more.1⟩] := by
    rw [Scopes.derive, inUse]
    rfl
  refine ⟨rfl, [⟨l.name, (within opened on l.context).merge more.1⟩], ⟨fun i => ?_, ?_⟩, ?_⟩
  · rw [made]
    have size := nested.length_eq
    rcases Nat.lt_or_ge i own.length with inside | beyond
    · rw [List.getElem?_append_left (size ▸ inside), List.getElem?_append_left inside,
        nested.loggers i]
    · rw [List.getElem?_append_right (size ▸ beyond), List.getElem?_append_right beyond, size]
      cases offset : i - own.length with
      | zero =>
        have last : i = own.length := by omega
        subst last
        simp [within_of_bound nested.bound]
      | succ _ => rfl
  · intro b member
    rw [List.length_append]
    exact Nat.lt_add_right _ (nested.bound b member)
  · rw [List.forall_mem_singleton]
    refine carries_of_merge (l := l) ?_ ?_
    · rw [List.getElem?_append_left (List.getElem?_eq_some_iff.mp found).1, found]
    · rw [Item.values?, nested.length_eq]
      simp

theorem Keeps.andThen {first later : Outcome} (keeps : Keeps own opened s first)
    (goesOn : ∀ new, Nested (own ++ new) opened first.scopes →
      Keeps (own ++ new) opened first.scopes later) :
    Keeps own opened s { later with products := first.products ++ later.products } := by
  obtain ⟨new, nested, carries⟩ := keeps.nested
  obtain ⟨newer, nested', carries'⟩ := (goesOn new nested).nested
  refine ⟨(goesOn new nested).blocks.trans keeps.blocks, new ++ newer, ?_, ?_⟩
  · rwa [← List.append_assoc]
  · intro p member
    rw [← List.append_assoc]
    rcases List.mem_append.mp member with made | made
    · exact (carries p made).append newer
    · exact carries' p made

theorem Keeps.leave {inside : Outcome} (nested : Nested own opened s)
    (known : on < s.loggers.length)
    (keeps : Keeps own (⟨on, more⟩ :: opened) ((s.select on).enter more.1) inside) :
    Keeps own opened s { inside with scopes := inside.scopes.exit?.getD inside.scopes } := by
  obtain ⟨l, found, inUse⟩ := nested.exists_own known
  obtain ⟨new, nested', carries⟩ := keeps.nested
  have saved : inside.scopes.blocks = (on, within opened on l.context) :: s.blocks := by
    rw [keeps.blocks, Scopes.enter, inUse]
    rfl
  have same : ∀ l', (own ++ new)[on]? = some l' →
      within opened on l.context = within opened on l'.context := by
    intro l' there
    rw [List.getElem?_append_left (List.getElem?_eq_some_iff.mp found).1, found] at there
    rw [Option.some.inj there]
  obtain ⟨blocks, left⟩ := nested'.leave saved same
  exact ⟨blocks, new, left, carries⟩

mutual

theorem Nested.perform : ∀ (a : Action) {own : List Logger} {opened : List OpenBlock} {s : Scopes},
    Nested own opened s → Keeps own opened s (s.perform opened a)
  | .call on level message extra fault, own, opened, s, nested => by
    rw [Scopes.perform]
    split
    · rename_i known
      split
      · exact nested.call known ‹_›
      · exact .unchanged nested _
    · exact .unchanged nested _
  | .derive on more, own, opened, s, nested => by
    rw [Scopes.perform]
    split
    · rename_i known
      split
      · exact nested.derive known more
      · exact .unchanged nested _
    · exact .unchanged nested _
  | .fail fault, own, opened, s, nested => by
    rw [Scopes.perform]
    exact .unchanged nested _
  | .block on more body, own, opened, s, nested => by
    rw [Scopes.perform]
    split
    · rename_i known
      split
      · exact Keeps.leave nested known (Nested.performAll body (nested.enter known more))
      · exact .unchanged nested _
    · exact .unchanged nested _
  | .guarded body, own, opened, s, nested => by
    rw [Scopes.perform]
    have keeps := Nested.performAll body nested
    exact ⟨keeps.blocks, keeps.nested⟩

theorem Nested.performAll : ∀ (body : List Action) {own : List Logger} {opened : List OpenBlock}
    {s : Scopes}, Nested own opened s → Keeps own opened s (s.performAll opened body)
  | [], own, opened, s, nested => by
    rw [Scopes.performAll]
    exact .unchanged nested _
  | a :: rest, own, opened, s, nested => by
    have first := Nested.perform a nested
    rw [Scopes.performAll]
    dsimp only
    split
    · exact first
    · exact first.andThen fun new nested' => Nested.performAll rest nested'

end

/-! ### Programs -/

namespace Scopes

mutual

/-- The blocks that products are told of have no effect. -/
theorem perform_unaware (opened others : List OpenBlock) : ∀ (a : Action) (s : Scopes),
    (s.perform opened a).scopes = (s.perform others a).scopes ∧
      (s.perform opened a).fault = (s.perform others a).fault
  | .call on level message extra fault, s => by
    simp only [perform]
    split
    · cases (s.select on).logger.record level message extra.1 fault <;> exact ⟨rfl, rfl⟩
    · exact ⟨rfl, rfl⟩
  | .derive on more, s => by
    simp only [perform]
    split
    · cases Logger.named ["self"] more.1 <;> exact ⟨rfl, rfl⟩
    · exact ⟨rfl, rfl⟩
  | .fail fault, s => ⟨rfl, rfl⟩
  | .block on more body, s => by
    obtain ⟨scopes, fault⟩ :=
      performAll_unaware (⟨on, more⟩ :: opened) (⟨on, more⟩ :: others) body
        ((s.select on).enter more.1)
    simp only [perform]
    split
    · cases Logger.named ["self", "logger"] more.1 with
      | ok _ => exact ⟨by rw [scopes], fault⟩
      | error _ => exact ⟨rfl, rfl⟩
    · exact ⟨rfl, rfl⟩
  | .guarded body, s => by
    simp only [perform]
    exact ⟨(performAll_unaware opened others body s).1, trivial⟩

theorem performAll_unaware (opened others : List OpenBlock) : ∀ (body : List Action) (s : Scopes),
    (s.performAll opened body).scopes = (s.performAll others body).scopes ∧
      (s.performAll opened body).fault = (s.performAll others body).fault
  | [], s => ⟨rfl, rfl⟩
  | a :: rest, s => by
    obtain ⟨scopes, fault⟩ := perform_unaware opened others a s
    simp only [performAll]
    rw [fault]
    cases (s.perform others a).fault with
    | some _ => exact ⟨scopes, fault⟩
    | none =>
      rw [scopes]
      exact performAll_unaware opened others rest _

end

/-- All loggers that there were have the context that they had, and the same blocks are open. -/
def Restores (s : Scopes) (out : Outcome) : Prop :=
  out.scopes.blocks = s.blocks ∧ s.loggers <+: out.scopes.loggers

theorem perform_restores (s : Scopes) (opened : List OpenBlock) (a : Action) :
    s.Restores (s.perform opened a) := by
  have keeps := Nested.perform a (nested_nil (s := s).mpr rfl)
  obtain ⟨new, nested, -⟩ := keeps.nested
  rw [Restores, (perform_unaware opened [] a s).1, nested_nil.mp nested]
  exact ⟨keeps.blocks, List.prefix_append _ _⟩

theorem performAll_carries (s : Scopes) (program : List Action) :
    ∀ p ∈ (s.performAll [] program).products,
      p.Carries (s.performAll [] program).scopes.loggers := by
  obtain ⟨new, nested, carries⟩ := (Nested.performAll program (nested_nil (s := s).mpr rfl)).nested
  rwa [nested_nil.mp nested]

/-- Whatever the program and wherever it fails: at its end every record and every logger that it
made has the values that belong to its place, and each single action, blocks above all, has left the
loggers that were there before as they were. -/
theorem contexts_by_place (s : Scopes) :
    (∀ program, ∀ p ∈ (s.performAll [] program).products,
      p.Carries (s.performAll [] program).scopes.loggers) ∧
    ∀ opened a, s.Restores (s.perform opened a) :=
  ⟨s.performAll_carries, s.perform_restores⟩

/-- Two blocks that set the same key, with a logger made inside, and a failure that leaves both. -/
def brokenOff : List Action := [
  .guarded [
    .block 0 ⟨[("phase", .text "read"), ("line", .integer 1)], by decide⟩ [
      .block 0 ⟨[("phase", .text "check")], by decide⟩ [
        .derive 0 ⟨[], by decide⟩, .fail ⟨"ValueError", ""⟩]]],
  .call 1 .info "over" ⟨[("line", .integer 2)], by decide⟩ none]

/-- The first logger is as it was; the one from inside still has what was set there. -/
example :
    ((start ⟨"app", []⟩).performAll [] brokenOff).scopes.loggers =
      [⟨"app", []⟩, ⟨"app", [("phase", .text "check"), ("line", .integer 1)]⟩] := by
  rfl

end Scopes

end Log

end SqlSyntax
