import Mathlib.Data.List.Induction
import SqlSyntax.Dialect.Registry
import SqlSyntax.Proofs.View.Data

/-!
# Aliases over histories of a registry

An alias is backed if the dialect it leads to is registered and declares it, and stranded if it is
kept without being backed. Removing a dialect strands no alias. Registering one does so in a single
way: the new dialect takes a name to which an alias still leads and does not declare that alias.
From there the alias stays stranded until some dialect declares it, whatever else happens.
-/

namespace SqlSyntax

namespace Entries

variable {α : Type} {key other : String} {es : Entries α}

theorem get?_remove :
    (es.remove key).get? other = if other = key then none else es.get? other := by
  induction es with
  | nil => simp [remove, get?]
  | cons e rest ih =>
    obtain ⟨k, a⟩ := e
    simp only [get?, remove] at ih ⊢
    by_cases removed : k = key
    · subst removed
      by_cases same : other = k
      · simpa [same] using ih
      · simpa [same, List.lookup_cons, beq_eq_false_iff_ne.mpr same] using ih
    · by_cases same : other = k
      · subst same
        simp [removed]
      · simpa [removed, same, List.lookup_cons, beq_eq_false_iff_ne.mpr same] using ih

end Entries

namespace Registration

/-- The name under which a dialect is registered. -/
def key (r : Registration) : String :=
  Text.toLower r.dialect.name

/-- The aliases of a dialect as the registry knows them. -/
def declared (r : Registration) : List String :=
  r.dialect.aliases.map Text.toLower

end Registration

namespace Registry

/-! ### One change -/

/-- The dialect of that name is registered and declares the alias. -/
def Backed (r : Registry) (other name : String) : Prop :=
  ∃ found, r.dialects.get? name = some found ∧ other ∈ found.declared

/-- The alias leads to a name, and no dialect of that name declares it. -/
def Stranded (r : Registry) (other name : String) : Prop :=
  r.aliases.get? other = some name ∧ ¬ r.Backed other name

variable {r : Registry} {other name : String}

private theorem get?_foldl_put (others : List String) (key : String) (known : Entries String) :
    Entries.get? (others.foldl (fun known o => known.put (Text.toLower o) key) known) other =
      if other ∈ others.map Text.toLower then some key else known.get? other := by
  induction others generalizing known with
  | nil => simp
  | cons o others ih =>
    rw [List.foldl_cons, ih, Entries.get?_put]
    by_cases later : other ∈ others.map Text.toLower
    · rw [if_pos later, if_pos (by simpa using .inr (List.mem_map.mp later))]
    · by_cases same : other = Text.toLower o
      · simp [same]
      · rw [if_neg later, if_neg same, if_neg]
        simpa [same] using later

private theorem get?_foldl_drop (others : List String) (key : String) (known : Entries String) :
    Entries.get?
        (others.foldl
          (fun known o =>
            if known.get? (Text.toLower o) = some key then known.remove (Text.toLower o) else known)
          known)
        other =
      if other ∈ others.map Text.toLower ∧ known.get? other = some key then none
      else known.get? other := by
  induction others generalizing known with
  | nil => simp
  | cons o others ih =>
    rw [List.foldl_cons, ih]
    by_cases leads : known.get? (Text.toLower o) = some key
    · rw [if_pos leads, Entries.get?_remove]
      by_cases same : other = Text.toLower o
      · simp [same, leads]
      · simp [same]
    · rw [if_neg leads]
      by_cases same : other = Text.toLower o
      · simp [same, leads]
      · simp [same]

theorem aliases_register (added : Registration) :
    (r.register added).aliases.get? other =
      if other ∈ added.declared then some added.key else r.aliases.get? other :=
  get?_foldl_put added.dialect.aliases added.key r.aliases

theorem dialects_register (added : Registration) :
    (r.register added).dialects.get? name =
      if name = added.key then some added else r.dialects.get? name :=
  Entries.get?_put

theorem dialects_unregister (given : String) :
    (r.unregister given).1.dialects.get? name =
      if name = Text.toLower given then none else r.dialects.get? name := by
  unfold unregister
  dsimp only
  split
  · rename_i absent
    by_cases same : name = Text.toLower given
    · rw [if_pos same, same, absent]
    · rw [if_neg same]
  · exact Entries.get?_remove

theorem aliases_unregister (given : String) :
    (r.unregister given).1.aliases.get? other = some name ↔
      r.aliases.get? other = some name ∧ ¬ (name = Text.toLower given ∧ r.Backed other name) := by
  unfold unregister Backed
  dsimp only
  split
  · rename_i absent
    refine ⟨fun leads => ⟨leads, ?_⟩, And.left⟩
    rintro ⟨rfl, found, registered, -⟩
    rw [absent] at registered
    cases registered
  · rename_i found registered
    rw [get?_foldl_drop found.dialect.aliases (Text.toLower given) r.aliases]
    constructor
    · intro leads
      split at leads
      · cases leads
      · rename_i unmet
        refine ⟨leads, ?_⟩
        rintro ⟨rfl, found', registered', declares⟩
        rw [registered] at registered'
        cases registered'
        exact unmet ⟨declares, leads⟩
    · rintro ⟨leads, unmet⟩
      rw [if_neg, leads]
      rintro ⟨declares, leads'⟩
      have same : name = Text.toLower given := Option.some.inj (leads.symm.trans leads')
      exact unmet ⟨same, found, same ▸ registered, declares⟩

/-- A registration strands the aliases of its name that it does not declare, and rescues those that
it declares. -/
theorem stranded_register (added : Registration) :
    (r.register added).Stranded other name ↔
      other ∉ added.declared ∧ r.aliases.get? other = some name ∧
        (name = added.key ∨ r.Stranded other name) := by
  unfold Stranded Backed
  rw [aliases_register, dialects_register]
  by_cases declares : other ∈ added.declared
  · rw [if_pos declares]
    constructor
    · rintro ⟨leads, unbacked⟩
      cases leads
      exact absurd ⟨added, if_pos rfl, declares⟩ unbacked
    · exact fun ⟨undeclared, _⟩ => absurd declares undeclared
  · rw [if_neg declares]
    by_cases taken : name = added.key
    · subst taken
      simp [declares]
    · simp [declares, taken]

theorem stranded_unregister (given : String) :
    (r.unregister given).1.Stranded other name ↔ r.Stranded other name := by
  unfold Stranded
  rw [aliases_unregister]
  by_cases same : name = Text.toLower given
  · have gone : ¬ (r.unregister given).1.Backed other name := by
      rintro ⟨found, registered, -⟩
      rw [dialects_unregister, if_pos same] at registered
      cases registered
    subst same
    simp [gone]
  · have kept : (r.unregister given).1.Backed other name ↔ r.Backed other name := by
      unfold Backed
      rw [dialects_unregister, if_neg same]
    simp [same, kept]

/-! ### Histories -/

inductive Change where
  | register (added : Registration)
  | unregister (name : String)

/-- The aliases that a change declares. -/
def Change.declared : Change → List String
  | .register added => added.declared
  | .unregister _ => []

def apply (r : Registry) : Change → Registry
  | .register added => r.register added
  | .unregister name => (r.unregister name).1

/-- The registry after a row of changes to the empty one. -/
def after (changes : List Change) : Registry :=
  changes.foldl apply .empty

theorem after_append (changes : List Change) (last : Change) :
    after (changes ++ [last]) = (after changes).apply last := by
  simp [after]

theorem stranded_apply (change : Change) :
    (r.apply change).Stranded other name ↔
      other ∉ change.declared ∧ r.aliases.get? other = some name ∧
        ((∃ added, change = .register added ∧ name = added.key) ∨ r.Stranded other name) := by
  cases change with
  | register added =>
    simp only [apply, Change.declared, stranded_register, Change.register.injEq, exists_eq_left']
  | unregister given =>
    simp only [apply, Change.declared, stranded_unregister, List.not_mem_nil, not_false_eq_true,
      reduceCtorEq, false_and, exists_false, false_or, true_and]
    exact ⟨fun stranded => ⟨stranded.1, stranded⟩, And.right⟩

/-- After any history, the stranded aliases are those that a registration dropped when it took the
name they led to, and that nothing has declared since. -/
theorem stranded_iff_dropped (changes : List Change) (other name : String) :
    (after changes).Stranded other name ↔
      ∃ earlier added later, changes = earlier ++ .register added :: later ∧ added.key = name ∧
        (after earlier).aliases.get? other = some name ∧ other ∉ added.declared ∧
        ∀ change ∈ later, other ∉ change.declared := by
  -- Induction from the end: the last change either drops the alias itself or keeps what was there.
  induction changes using List.reverseRecOn with
  | nil =>
    constructor
    · rintro ⟨leads, -⟩
      cases leads
    · rintro ⟨earlier, added, later, split, -⟩
      simp at split
  | append_singleton changes last ih =>
    rw [after_append, stranded_apply, ih]
    constructor
    · rintro ⟨undeclared, leads, ⟨added, rfl, named⟩ | dropped⟩
      · exact ⟨changes, added, [], rfl, named.symm, leads, undeclared, by simp⟩
      · obtain ⟨earlier, added, later, rfl, named, led, drops, quiet⟩ := dropped
        refine ⟨earlier, added, later ++ [last], by simp, named, led, drops, ?_⟩
        simpa [or_imp, forall_and] using ⟨quiet, undeclared⟩
    · rintro ⟨earlier, added, later, split, named, led, drops, quiet⟩
      rcases List.eq_nil_or_concat later with rfl | ⟨later, last', rfl⟩
      · obtain ⟨rfl, same⟩ := List.append_inj' split rfl
        cases same
        exact ⟨drops, led, .inl ⟨added, rfl, named.symm⟩⟩
      · rw [List.concat_eq_append] at split quiet
        rw [← List.cons_append, ← List.append_assoc] at split
        obtain ⟨rfl, same⟩ := List.append_inj' split rfl
        cases same
        have before : ∀ change ∈ later, other ∉ change.declared :=
          fun change member => quiet change (List.mem_append_left _ member)
        have stranded := ih.mpr ⟨earlier, added, later, rfl, named, led, drops, before⟩
        exact ⟨quiet last (by simp), stranded.1,
          .inr ⟨earlier, added, later, rfl, named, led, drops, before⟩⟩

/-- A dialect that takes over a name without the alias of its predecessor leaves it stranded, and it
is still there when no dialect is left. -/
theorem stranded_after_takeover :
    let first : Registration := ⟨1, { Dialect.mysql with name := "a", aliases := ["x"] }⟩
    let second : Registration := ⟨2, { Dialect.mysql with name := "a", aliases := [] }⟩
    (after [.register first, .register second, .unregister "a"]).Stranded "x" "a" ∧
      (after [.register first, .register second, .unregister "a"]).dialects.keys = [] := by
  intro first second
  refine ⟨⟨by decide +kernel, ?_⟩, by decide +kernel⟩
  rintro ⟨found, registered, -⟩
  have none : (after [.register first, .register second, .unregister "a"]).dialects.get? "a" =
      none := by
    decide +kernel
  rw [none] at registered
  cases registered

end Registry

end SqlSyntax
