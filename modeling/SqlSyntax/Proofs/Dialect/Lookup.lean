import SqlSyntax.Proofs.Dialect.Aliases

/-!
# What a registry finds

A registration is current as long as nothing later in the history registers or removes a dialect of
its name. Only current registrations are found, whatever aliases the history has left behind, and a
name wins over an alias. A change touches what is found for the name that it is about and for the
aliases that lead there, and nothing else; where a stranded alias leads is told elsewhere.
-/

namespace SqlSyntax.Registry

/-! ### The last change to a name -/

/-- The change registers or removes a dialect of that name. -/
def Change.Concerns (name : String) : Change → Prop
  | .register added => added.key = name
  | .unregister given => Text.toLower given = name

/-- The dialect was registered, and its name is left alone since. -/
def Current (changes : List Change) (found : Registration) : Prop :=
  ∃ earlier later, changes = earlier ++ .register found :: later ∧
    ∀ change ∈ later, ¬ change.Concerns found.key

variable {r : Registry} {changes : List Change} {found : Registration} {name k : String}

theorem not_current_nil : ¬ Current [] found := by
  rintro ⟨earlier, later, split, -⟩
  simp at split

theorem current_append (last : Change) :
    Current (changes ++ [last]) found ↔
      last = .register found ∨ Current changes found ∧ ¬ last.Concerns found.key := by
  constructor
  · rintro ⟨earlier, later, split, quiet⟩
    rcases List.eq_nil_or_concat later with rfl | ⟨later, last', rfl⟩
    · obtain ⟨-, same⟩ := List.append_inj' split rfl
      exact .inl (List.head_eq_of_cons_eq same)
    · rw [List.concat_eq_append] at split quiet
      rw [← List.cons_append, ← List.append_assoc] at split
      obtain ⟨rfl, same⟩ := List.append_inj' split rfl
      obtain rfl := List.head_eq_of_cons_eq same
      have before : ∀ change ∈ later, ¬ change.Concerns found.key :=
        fun change member => quiet change (List.mem_append_left _ member)
      exact .inr ⟨⟨earlier, later, rfl, before⟩, quiet last (by simp)⟩
  · rintro (rfl | ⟨⟨earlier, later, rfl, quiet⟩, other⟩)
    · exact ⟨changes, [], rfl, by simp⟩
    · refine ⟨earlier, later ++ [last], by simp, ?_⟩
      simpa [or_imp, forall_and] using ⟨quiet, other⟩

theorem dialects_apply (change : Change) :
    (r.apply change).dialects.get? name = some found ↔
      change = .register found ∧ found.key = name ∨
        r.dialects.get? name = some found ∧ ¬ change.Concerns name := by
  cases change with
  | register added =>
    rw [apply, dialects_register]
    by_cases taken : name = added.key
    · subst taken
      simp only [if_true, Option.some.injEq, Change.register.injEq, Change.Concerns, not_true,
        and_false, or_false]
      exact ⟨fun same => ⟨same, same ▸ rfl⟩, And.left⟩
    · have other : ∀ same : added = found, found.key ≠ name := by
        rintro rfl named
        exact taken named.symm
      simp only [if_neg taken, Change.register.injEq, Change.Concerns, Ne.symm taken,
        not_false_eq_true, and_true]
      exact ⟨.inr, fun found => found.resolve_left fun taken => other taken.1 taken.2⟩
  | unregister given =>
    rw [apply, dialects_unregister]
    by_cases removed : name = Text.toLower given
    · simp [removed, Change.Concerns]
    · simp [removed, Change.Concerns, Ne.symm removed]

/-- After any history the dialects are the current ones under their names. -/
theorem dialects_after :
    (after changes).dialects.get? name = some found ↔ Current changes found ∧ found.key = name := by
  induction changes using List.reverseRecOn with
  | nil =>
    constructor
    · rintro ⟨⟩
    · rintro ⟨current, -⟩
      exact absurd current not_current_nil
  | append_singleton changes last ih =>
    rw [after_append, dialects_apply, current_append, ih]
    constructor
    · rintro (⟨rfl, named⟩ | ⟨⟨current, rfl⟩, other⟩)
      · exact ⟨.inl rfl, named⟩
      · exact ⟨.inr ⟨current, other⟩, rfl⟩
    · rintro ⟨rfl | ⟨current, other⟩, rfl⟩
      · exact .inl ⟨rfl, rfl⟩
      · exact .inr ⟨⟨current, rfl⟩, other⟩

/-! ### Names before aliases -/

theorem find?_eq_some_iff :
    r.find? k = some found ↔
      r.dialects.get? (Text.toLower k) = some found ∨
        r.dialects.get? (Text.toLower k) = none ∧
          ∃ name, r.aliases.get? (Text.toLower k) = some name ∧
            r.dialects.get? name = some found := by
  unfold find?
  dsimp only
  cases r.dialects.get? (Text.toLower k) with
  | none => simp only [Option.bind_eq_some_iff, reduceCtorEq, true_and, false_or]
  | some registered => simp

theorem mem_keys_iff : name ∈ r.dialects.keys ↔ ∃ found, r.dialects.get? name = some found := by
  rw [← not_iff_not, ← Entries.get?_eq_none_iff, Option.eq_none_iff_forall_ne_some, not_exists]

theorem find?_of_name (registered : r.dialects.get? (Text.toLower k) = some found) :
    r.find? k = some found :=
  find?_eq_some_iff.mpr (.inl registered)

/-- What is found is registered under its name. -/
theorem registered_of_find? (finds : (after changes).find? k = some found) :
    (after changes).dialects.get? found.key = some found := by
  rcases find?_eq_some_iff.mp finds with registered | ⟨-, name, -, registered⟩
  · rwa [(dialects_after.mp registered).2]
  · rwa [(dialects_after.mp registered).2]

theorem find?_register_of_name {added : Registration}
    (registered : r.dialects.get? (Text.toLower k) = some found)
    (other : Text.toLower k ≠ added.key) : (r.register added).find? k = some found := by
  refine find?_of_name ?_
  rw [dialects_register, if_neg other, registered]

theorem find?_unregister {given : String} (finds : (after changes).find? k = some found)
    (other : found.key ≠ Text.toLower given) :
    ((after changes).unregister given).1.find? k = some found := by
  refine find?_eq_some_iff.mpr ?_
  rw [dialects_unregister]
  rcases find?_eq_some_iff.mp finds with registered | ⟨unnamed, name, leads, registered⟩
  · have named : found.key = Text.toLower k := (dialects_after.mp registered).2
    left
    rw [if_neg (named ▸ other), registered]
  · have named : found.key = name := (dialects_after.mp registered).2
    subst named
    refine .inr ⟨by rw [unnamed, ite_self], found.key, ?_, ?_⟩
    · exact (aliases_unregister given).mpr ⟨leads, fun gone => other gone.1⟩
    · rw [dialects_unregister, if_neg other, registered]

/-- What the registry with that history finds, and what one more change leaves as it is. -/
structure FindsCurrent (changes : List Change) : Prop where
  registered : ∀ name, name ∈ (after changes).dialects.keys ↔
    ∃ found, Current changes found ∧ found.key = name
  current : ∀ k found, (after changes).find? k = some found →
    Current changes found ∧ found.key ∈ (after changes).dialects.keys
  named : ∀ k, Text.toLower k ∈ (after changes).dialects.keys →
    ∃ found, Current changes found ∧ found.key = Text.toLower k ∧
      (after changes).find? k = some found
  register : ∀ added k, Text.toLower k ∈ (after changes).dialects.keys →
    Text.toLower k ≠ added.key → ((after changes).register added).find? k = (after changes).find? k
  unregister : ∀ given k found, (after changes).find? k = some found →
    found.key ≠ Text.toLower given → ((after changes).unregister given).1.find? k = some found

/-- After any history, under any name and in any letter case. -/
theorem after_findsCurrent (changes : List Change) : FindsCurrent changes where
  registered name := by
    simp only [mem_keys_iff, dialects_after]
  current k found finds := by
    have registered := registered_of_find? finds
    exact ⟨(dialects_after.mp registered).1, mem_keys_iff.mpr ⟨found, registered⟩⟩
  named k name := by
    obtain ⟨found, registered⟩ := mem_keys_iff.mp name
    obtain ⟨current, key⟩ := dialects_after.mp registered
    exact ⟨found, current, key, find?_of_name registered⟩
  register added k name other := by
    obtain ⟨found, registered⟩ := mem_keys_iff.mp name
    rw [find?_register_of_name registered other, find?_of_name registered]
  unregister _ _ _ finds other := find?_unregister finds other

/-- A dialect with one alias. -/
def owner : Registration := ⟨1, { Dialect.mysql with name := "Own", aliases := ["x"] }⟩

/-- A dialect that claims the alias and the name of the first one. -/
def rival : Registration := ⟨2, { Dialect.mysql with name := "rival", aliases := ["X", "own"] }⟩

/-- The claim on the name comes to nothing, and the alias is lost. What is found for either stays
while the other dialect comes or goes. -/
theorem after_findsCurrent_contested :
    (after [.register owner]).find? "OWN" = some owner ∧
      ((after [.register owner]).register rival).find? "OWN" = some owner ∧
      (after [.register owner, .register rival]).find? "x" = some rival ∧
      ((after [.register owner, .register rival]).unregister "own").1.find? "x" = some rival := by
  have alone : (after [.register owner]).find? "OWN" = some owner := by rfl
  have lost : (after [.register owner, .register rival]).find? "x" = some rival := by rfl
  refine ⟨alone, ?_, lost, ?_⟩
  · rw [← alone]
    exact (after_findsCurrent [.register owner]).register rival "OWN" (by decide)
      (by decide)
  · exact (after_findsCurrent [.register owner, .register rival]).unregister "own" "x" rival lost
      (by decide)

end SqlSyntax.Registry
