import Mathlib.Data.List.Induction
import Mathlib.Data.List.Nodup
import SqlSyntax.Proofs.View.Data

/-!
# Categories and markers over histories of registrations

Names are unique and stand in the order in which they came: a name that is registered again keeps
its place, one that was removed comes back at the end. The markers of a node depend on the
categories that it meets and on nothing else, so that a category whose test is not met or fails
might as well not be there. What failing tests leave in the log is not told here, except that it is
nothing if there are none.
-/

namespace SqlSyntax

namespace Entries

variable {α : Type} {key : String} {a : α} {es : Entries α}

/-- A present key keeps its place, a new one goes to the end. -/
theorem keys_put : (put key a es).keys = if key ∈ es.keys then es.keys else es.keys ++ [key] := by
  induction es with
  | nil => simp [put, keys]
  | cons e rest ih =>
    simp only [keys] at ih ⊢
    by_cases same : e.1 = key
    · simp [put, same]
    · have other : key ≠ e.1 := Ne.symm same
      by_cases later : key ∈ rest.map Prod.fst
      · simp [put, same, later, ih]
      · simp [put, same, other, later, ih]

theorem keys_remove (distinct : es.keys.Nodup) (key : String) :
    (es.remove key).keys = es.keys.erase key := by
  rw [distinct.erase_eq_filter, remove, keys, keys, List.filter_map]
  rfl

end Entries

namespace Category

/-- The test is met; one that fails is not. -/
def accepts (c : Category) (s : Slot) : Bool :=
  match c.isMet s with
  | .ok met => met
  | .error _ => false

end Category

namespace Categories

/-! ### Histories -/

inductive Change where
  | register (name : String) (capability : Capability) (key marker : Option String)
  | unregister (name : String)

def apply (cs : Categories) : Change → Categories
  | .register name capability key marker => cs.register (.make name capability key marker)
  | .unregister name => (cs.unregister name).1

/-- The categories after a row of changes. -/
def after (start : Categories) (changes : List Change) : Categories :=
  changes.foldl apply start

/-- There are no categories yet, or those of the baseline and any others that came with them. -/
def Starts (cs : Categories) : Prop :=
  cs = [] ∨ ∃ capabilities, withBaseline capabilities = .ok cs

variable {cs : Categories}

theorem nodup_register (distinct : cs.keys.Nodup) (c : Category) : (cs.register c).keys.Nodup :=
  Entries.nodup_keys_put distinct

theorem nodup_apply (distinct : cs.keys.Nodup) (change : Change) :
    (cs.apply change).keys.Nodup := by
  cases change with
  | register name capability key marker => exact nodup_register distinct _
  | unregister name =>
    rw [apply, unregister, Entries.keys_remove distinct]
    exact distinct.erase name

theorem Starts.nodup (starts : Starts cs) : cs.keys.Nodup := by
  rcases starts with rfl | ⟨capabilities, built⟩
  · exact List.nodup_nil
  · simp only [withBaseline] at built
    split at built
    · cases built
      refine List.foldlRecOn (motive := fun cs : Categories => cs.keys.Nodup) _ _ List.nodup_nil ?_
      intro cs distinct name _
      split
      · exact nodup_register distinct _
      · exact distinct
    · cases built

theorem nodup_after (starts : Starts cs) (changes : List Change) :
    (cs.after changes).keys.Nodup :=
  List.foldlRecOn (motive := fun cs : Categories => cs.keys.Nodup) changes apply starts.nodup
    fun _ distinct change _ => nodup_apply distinct change

/-! ### Categories that are met -/

/-- The categories that are met, in the order of their registration. -/
def met (cs : Categories) (s : Slot) : List Category :=
  (cs.map Prod.snd).filter (·.accepts s)

/-- The categories without those that are not met, which are removed one by one. -/
def pruned (cs : Categories) (s : Slot) : Categories :=
  after cs ((cs.filter fun e => !e.2.accepts s).map fun e => .unregister e.1)

theorem matching_snd (cs : Categories) (s : Slot) : (cs.matching s).2 = cs.met s := by
  induction cs with
  | nil => rfl
  | cons e rest ih =>
    simp only [matching, List.foldr_cons, met, List.map_cons, List.filter_cons] at ih ⊢
    cases tested : e.2.isMet s with
    | error fault => simpa [Category.accepts, tested] using ih
    | ok met => cases met <;> simpa [Category.accepts, tested] using ih

theorem matching_fst_of_met {s : Slot} (all : ∀ e ∈ cs, e.2.accepts s = true) :
    (cs.matching s).1 = [] := by
  induction cs with
  | nil => rfl
  | cons e rest ih =>
    have first := all e List.mem_cons_self
    have onward := ih fun e member => all e (List.mem_cons_of_mem _ member)
    simp only [matching, List.foldr_cons] at onward ⊢
    cases tested : e.2.isMet s with
    | error fault => simp [Category.accepts, tested] at first
    | ok met => cases met <;> simpa [tested] using onward

theorem after_unregister (cs : Categories) (names : List String) :
    after cs (names.map .unregister) = cs.filter fun e => e.1 ∉ names := by
  induction names generalizing cs with
  | nil => simp [after]
  | cons name names ih =>
    simp only [after, List.map_cons, List.foldl_cons] at ih ⊢
    rw [ih, apply, unregister, Entries.remove, List.filter_filter]
    refine List.filter_congr fun e _ => ?_
    by_cases same : e.1 = name <;> simp [same]

/-- The names tell the categories apart, so only what is not met is removed. -/
theorem pruned_eq (distinct : cs.keys.Nodup) (s : Slot) :
    cs.pruned s = cs.filter fun e => e.2.accepts s := by
  have removed : cs.pruned s = cs.filter fun e =>
      e.1 ∉ (cs.filter fun e => !e.2.accepts s).map Prod.fst := by
    rw [← after_unregister, List.map_map]
    rfl
  rw [removed]
  refine List.filter_congr fun e member => ?_
  have same : ∀ f ∈ cs, f.1 = e.1 → f = e := fun f held =>
    List.inj_on_of_nodup_map distinct held member
  cases accepted : e.2.accepts s with
  | false =>
    have listed : e.1 ∈ (cs.filter fun e => !e.2.accepts s).map Prod.fst :=
      List.mem_map_of_mem (List.mem_filter.mpr ⟨member, by simp [accepted]⟩)
    simpa using listed
  | true =>
    simp only [List.mem_map, List.mem_filter, decide_eq_true_eq, not_exists, not_and]
    rintro f ⟨held, refused⟩ named
    rw [same f held named, accepted] at refused
    cases refused

theorem met_pruned (distinct : cs.keys.Nodup) (s : Slot) : (cs.pruned s).met s = cs.met s := by
  rw [pruned_eq distinct, met, met, List.filter_map, List.filter_map, List.filter_filter]
  simp [Function.comp_def]

/-! ### Markers -/

/-- The markers that categories leave one after the other. -/
def marksOf (met : List Category) : Entries String :=
  met.foldl (fun marks c => marks.put c.key c.marker) []

theorem marksOf_append (met : List Category) (c : Category) :
    marksOf (met ++ [c]) = (marksOf met).put c.key c.marker := by
  simp [marksOf]

theorem markers_snd (cs : Categories) (s : Slot) : (cs.markers s).2 = marksOf (cs.met s) := by
  rw [← matching_snd]
  rfl

/-- A key stands where it is first used. -/
theorem keys_marksOf (met : List Category) :
    (marksOf met).keys = (met.map Category.key).eraseDups := by
  induction met using List.reverseRecOn with
  | nil => rfl
  | append_singleton met c ih =>
    rw [marksOf_append, Entries.keys_put, ih, List.map_append, List.eraseDups_append,
      List.map_singleton]
    generalize met.map Category.key = keys
    by_cases used : c.key ∈ keys <;> simp [List.removeAll, List.eraseDups_cons, used]

/-- The last marker for a key counts. -/
theorem get?_marksOf (met : List Category) (key : String) :
    (marksOf met).get? key = ((met.filter (·.key == key)).getLast?).map Category.marker := by
  induction met using List.reverseRecOn with
  | nil => rfl
  | append_singleton met c ih =>
    rw [marksOf_append, Entries.get?_put, ih, List.filter_append]
    by_cases used : c.key = key
    · simp [used]
    · simp [used, Ne.symm used]

theorem markers_pruned (distinct : cs.keys.Nodup) (s : Slot) :
    (cs.pruned s).markers s = ([], (cs.markers s).2) := by
  have silent : ((cs.pruned s).matching s).1 = [] := by
    refine matching_fst_of_met fun e member => ?_
    rw [pruned_eq distinct] at member
    exact (List.mem_filter.mp member).2
  refine Prod.ext silent ?_
  rw [markers_snd, markers_snd, met_pruned distinct]

/-! ### What holds after any history -/

/-- Names are unique, and one that is registered stays where it is or comes to the end. -/
structure Ordered (cs : Categories) : Prop where
  distinct : cs.keys.Nodup
  present : ∀ name capability key marker, name ∈ cs.keys →
    (cs.apply (.register name capability key marker)).keys = cs.keys
  absent : ∀ name capability key marker, name ∉ cs.keys →
    (cs.apply (.register name capability key marker)).keys = cs.keys ++ [name]
  removed : ∀ name, (cs.apply (.unregister name)).keys = cs.keys.erase name

/-- The markers are those of the categories that are met: the keys in the order of their first use,
each with the last marker. -/
structure Marks (cs : Categories) (s : Slot) : Prop where
  pruned : (cs.pruned s).markers s = ([], (cs.markers s).2)
  keys : (cs.markers s).2.keys = ((cs.met s).map Category.key).eraseDups
  last : ∀ key, (cs.markers s).2.get? key =
    (((cs.met s).filter (·.key == key)).getLast?).map Category.marker

theorem ordered_of_nodup (distinct : cs.keys.Nodup) : cs.Ordered where
  distinct := distinct
  present name capability key marker held := by
    rw [apply, register, Entries.keys_put]
    exact if_pos held
  absent name capability key marker missing := by
    rw [apply, register, Entries.keys_put]
    exact if_neg missing
  removed name := Entries.keys_remove distinct name

/-- Whatever has been registered and removed. -/
theorem after_ordered {start : Categories} (starts : Starts start) (changes : List Change) :
    (after start changes).Ordered ∧ ∀ s, (after start changes).Marks s := by
  have distinct := nodup_after starts changes
  refine ⟨ordered_of_nodup distinct, fun s => ⟨markers_pruned distinct s, ?_, ?_⟩⟩
  · rw [markers_snd, keys_marksOf]
  · intro key
    rw [markers_snd, get?_marksOf]

/-- A baseline with a test that fails, and a category of its own in front. -/
def frailBaseline : Entries Capability :=
  [("any", .test fun _ => .ok true), ("statement", .classOf Family.statement.name),
    ("expression", .classOf Family.expression.name), ("ddl", .classOf Family.definition.name),
    ("dml", .test fun _ => .error ⟨"RuntimeError", "capability test failed"⟩)]

/-- One category comes back behind the others, and one gets the key of the first. -/
def rearranged : List Change :=
  [.unregister "expression", .register "any" (.test fun _ => .ok true) (some "statement_type") none,
    .register "expression" (.classOf Family.expression.name) (some "") none]

theorem after_ordered_rearranged :
    ∃ start, withBaseline frailBaseline = .ok start ∧
      (after start rearranged).keys = ["statement", "ddl", "dml", "any", "expression"] ∧
      ((after start rearranged).markers (.node .commit)).2 = [("statement_type", "any")] ∧
      (after start rearranged).Ordered ∧ ∀ s, (after start rearranged).Marks s := by
  have built : ∃ start, withBaseline frailBaseline = .ok start := ⟨_, rfl⟩
  obtain ⟨start, built⟩ := built
  obtain ⟨ordered, marks⟩ := after_ordered (.inr ⟨_, built⟩) rearranged
  refine ⟨start, built, ?_, ?_, ordered, marks⟩
  · cases built
    rfl
  · cases built
    rfl

end Categories

end SqlSyntax
