import SqlSyntax.Dialect.Mysql
import SqlSyntax.Proofs.View.Reach
import SqlSyntax.Proofs.View.WireRoundTrip

/-!
# The data of a view

The data hold a marker for each category of the node, and for a child its origin. They are texts and
integers under distinct keys whatever the categories are. The origin can be told from the data if no
category uses its keys, and those of MySQL do not.
-/

namespace SqlSyntax

namespace Entries

variable {α : Type} {key other : String} {a : α} {es : Entries α}

theorem mem_keys_put : other ∈ (put key a es).keys ↔ other = key ∨ other ∈ es.keys := by
  induction es with
  | nil => simp [put, keys]
  | cons e rest ih =>
    unfold put
    split
    · rename_i same
      simp [keys, same]
    · simp only [keys, List.map_cons, List.mem_cons] at ih ⊢
      rw [ih]
      tauto

theorem nodup_keys_put (distinct : es.keys.Nodup) : (put key a es).keys.Nodup := by
  induction es with
  | nil => simp [put, keys]
  | cons e rest ih =>
    obtain ⟨fresh, distinct⟩ := List.nodup_cons.mp distinct
    unfold put
    split
    · rename_i same
      exact List.nodup_cons.mpr ⟨same ▸ fresh, distinct⟩
    · rename_i differs
      refine List.nodup_cons.mpr ⟨?_, ih distinct⟩
      intro member
      rcases mem_keys_put.mp member with same | member
      · exact differs same
      · exact fresh member

theorem mem_put {e : String × α} (member : e ∈ put key a es) : e = (key, a) ∨ e ∈ es := by
  induction es with
  | nil => simpa [put] using member
  | cons first rest ih =>
    unfold put at member
    split at member
    · rcases List.mem_cons.mp member with rfl | member
      · exact .inl rfl
      · exact .inr (List.mem_cons_of_mem _ member)
    · rcases List.mem_cons.mp member with rfl | member
      · exact .inr List.mem_cons_self
      · exact (ih member).imp_right (List.mem_cons_of_mem _)

theorem get?_put : (put key a es).get? other = if other = key then some a else es.get? other := by
  induction es with
  | nil =>
    simp only [put, get?, List.lookup_cons]
    by_cases same : other = key
    · simp [same]
    · simp [same, beq_eq_false_iff_ne.mpr same]
  | cons e rest ih =>
    obtain ⟨k, b⟩ := e
    simp only [get?] at ih ⊢
    unfold put
    by_cases replaced : k = key
    · subst replaced
      by_cases same : other = k
      · simp [same]
      · simp [same, beq_eq_false_iff_ne.mpr same, List.lookup_cons]
    · by_cases found : other = k
      · subst found
        simp [replaced]
      · simp [replaced, List.lookup_cons, beq_eq_false_iff_ne.mpr found, ih]

theorem get?_eq_none_iff : es.get? key = none ↔ key ∉ es.keys := by
  rw [get?, List.lookup_eq_none_iff, keys]
  simp only [List.mem_map, not_exists, not_and, bne_iff_ne, ne_eq]
  exact ⟨fun absent e member same => absent e member same.symm,
    fun absent e member same => absent e member same.symm⟩

end Entries

namespace Categories

theorem mem_of_mem_matching {cs : Categories} {s : Slot} {c : Category}
    (met : c ∈ (cs.matching s).2) : ∃ e ∈ cs, e.2 = c := by
  induction cs with
  | nil => cases met
  | cons e rest ih =>
    have onward : c ∈ (matching rest s).2 → ∃ f ∈ e :: rest, f.2 = c := by
      intro met
      obtain ⟨f, member, same⟩ := ih met
      exact ⟨f, List.mem_cons_of_mem _ member, same⟩
    simp only [matching, List.foldr_cons] at met
    split at met
    · rcases List.mem_cons.mp met with rfl | met
      · exact ⟨e, List.mem_cons_self, rfl⟩
      · exact onward met
    · exact onward met
    · exact onward met

theorem keys_foldl_put (met : List Category) (marks : Entries String)
    (distinct : marks.keys.Nodup) :
    (met.foldl (fun marks c => marks.put c.key c.marker) marks).keys.Nodup ∧
      ∀ key ∈ (met.foldl (fun marks c => marks.put c.key c.marker) marks).keys,
        key ∈ marks.keys ∨ ∃ c ∈ met, c.key = key := by
  induction met generalizing marks with
  | nil => exact ⟨distinct, fun key held => .inl held⟩
  | cons c met ih =>
    obtain ⟨kept, keys⟩ := ih (marks.put c.key c.marker) (Entries.nodup_keys_put distinct)
    refine ⟨kept, ?_⟩
    intro key held
    rcases keys key held with held | ⟨c', later, same⟩
    · rcases Entries.mem_keys_put.mp held with rfl | held
      · exact .inr ⟨c, List.mem_cons_self, rfl⟩
      · exact .inl held
    · exact .inr ⟨c', List.mem_cons_of_mem _ later, same⟩

/-- The keys of the markers are distinct, and each belongs to a category. -/
theorem keys_markers (cs : Categories) (s : Slot) :
    (cs.markers s).2.keys.Nodup ∧ ∀ key ∈ (cs.markers s).2.keys, ∃ e ∈ cs, e.2.key = key := by
  obtain ⟨distinct, keys⟩ := keys_foldl_put (cs.matching s).2 [] List.nodup_nil
  refine ⟨distinct, ?_⟩
  intro key held
  rcases keys key held with impossible | ⟨c, met, rfl⟩
  · cases impossible
  · obtain ⟨e, member, rfl⟩ := mem_of_mem_matching met
    exact ⟨e, member, rfl⟩

end Categories

namespace View

/-! ### Origins -/

/-- The origin that the data tell. -/
def origin? (v : View) : Option Origin :=
  match v.fieldName?, v.arrayIndex? with
  | some (.text field), none => some ⟨field, none⟩
  | some (.text field), some (.integer (.ofNat i)) => some ⟨field, some i⟩
  | _, _ => none

/-- The data tell nothing of an origin. -/
def Unplaced (v : View) : Prop :=
  v.fieldName? = none ∧ v.arrayIndex? = none

theorem origin?_tagged {v : View} (unplaced : v.Unplaced) (field : String) (index : Option Nat) :
    (v.tagged field index).origin? = some ⟨field, index⟩ := by
  have differ : fieldKey ≠ indexKey := by decide
  have absent : Entries.get? v.data indexKey = none := unplaced.2
  cases index with
  | none =>
    simp [origin?, tagged, withOrigin, fieldName?, arrayIndex?, Entries.get?_put,
      differ.symm, absent]
  | some i => simp [origin?, tagged, withOrigin, fieldName?, arrayIndex?, Entries.get?_put, differ]

variable {d : Dialect}

/-- The data of a node are markers, or nothing if the dialect fails there. -/
theorem data_describe (n : Node) :
    (describe d n).view.data = [] ∨ (describe d n).view.data =
      (d.categories.markers (.node n)).2.map fun e => (e.1, .text e.2) := by
  unfold describe
  cases d.tag n with
  | error fault => exact .inl rfl
  | ok tag =>
    cases d.marking n with
    | error fault => exact .inl rfl
    | ok _ => exact .inr rfl

theorem unplaced_describe (categories : d.categories = Dialect.Mysql.categories) (n : Node) :
    (describe d n).view.Unplaced := by
  have other : ∀ e ∈ Dialect.Mysql.categories, e.2.key ≠ fieldKey ∧ e.2.key ≠ indexKey := by decide
  have untold (key : String) (unused : ∀ e ∈ Dialect.Mysql.categories, e.2.key ≠ key) :
      (describe d n).view.data.get? key = none := by
    rcases data_describe (d := d) n with none | marks
    · rw [none]
      rfl
    · rw [marks, Entries.get?_eq_none_iff]
      intro member
      have marked : key ∈ (d.categories.markers (.node n)).2.keys := by
        simpa [Entries.keys] using member
      obtain ⟨e, held, same⟩ := (Categories.keys_markers _ _).2 key marked
      exact unused e (categories ▸ held) same
  exact ⟨untold _ fun e member => (other e member).1, untold _ fun e member => (other e member).2⟩

/-! ### Texts and integers -/

theorem simpleData_describe (n : Node) : (describe d n).view.SimpleData := by
  have distinct := (d.categories.keys_markers (.node n)).1
  unfold SimpleData
  rcases data_describe (d := d) n with none | marks
  · rw [none]
    exact ⟨List.nodup_nil, nofun⟩
  · rw [marks]
    refine ⟨by simpa [Entries.keys, Function.comp_def] using distinct, ?_⟩
    intro e member
    obtain ⟨mark, -, rfl⟩ := List.mem_map.mp member
    rfl

theorem SimpleData.tagged {v : View} (simple : v.SimpleData) (field : String) (index : Option Nat) :
    (v.tagged field index).SimpleData := by
  have named : Entries.keys (v.data.put fieldKey (.text field)) |>.Nodup :=
    Entries.nodup_keys_put simple.1
  have texts : ∀ e ∈ Entries.put fieldKey (Value.text field) v.data, e.2.isTextOrInteger =
      true := by
    intro e member
    rcases Entries.mem_put member with rfl | member
    · rfl
    · exact simple.2 e member
  cases index with
  | none => exact ⟨named, texts⟩
  | some i =>
    refine ⟨Entries.nodup_keys_put named, ?_⟩
    intro e member
    rcases Entries.mem_put member with rfl | member
    · rfl
    · exact texts e member

end View

end SqlSyntax
