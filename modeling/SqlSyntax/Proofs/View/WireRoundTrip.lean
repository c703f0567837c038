import SqlSyntax.Envelope.Basic
import SqlSyntax.Proofs.Wire.Integers
import SqlSyntax.Proofs.Wire.JsonRoundTrip
import SqlSyntax.View.Measure

/-!
# Views survive the wire

Fields that hold their default are left out of the wire form, and reading fills them in again. The
JSON text of an answer therefore spells its views completely. A reader that bounds the digits of
integers reads an answer back if it allows those in the data, and finds nothing in it otherwise.
-/

namespace SqlSyntax

namespace Value

def isTextOrInteger : Value → Bool
  | .text _ => true
  | .integer _ => true
  | _ => false

theorem faithful_of_isTextOrInteger {v : Value} (simple : v.isTextOrInteger = true) :
    v.Faithful := by
  unfold isTextOrInteger at simple
  split at simple
  · trivial
  · trivial
  · exact absurd simple (by decide)

end Value

namespace View

/-- The fields of the wire form. -/
def wireFields (v : View) : Entries Value :=
  [("type", .text v.type)] ++
    (if v.text.isEmpty then [] else [("text", .text v.text)]) ++
    (if v.children.isEmpty then [] else [("children", .list (wires v.children))]) ++
    (if v.data.isEmpty then [] else [("data", .record v.data)]) ++
    (if v.degraded then [("partial", .boolean true)] else [])

theorem wire_eq_record (v : View) : wire v = .record v.wireFields := by
  cases v
  rfl

theorem lookup_type (v : View) : v.wireFields.lookup "type" = some (.text v.type) := by
  simp [wireFields]

theorem lookup_text (v : View) :
    v.wireFields.lookup "text" = if v.text.isEmpty then none else some (.text v.text) := by
  unfold wireFields
  split_ifs <;> simp_all [List.lookup_cons]

theorem lookup_data (v : View) :
    v.wireFields.lookup "data" = if v.data.isEmpty then none else some (.record v.data) := by
  unfold wireFields
  split_ifs <;> simp_all [List.lookup_cons]

theorem lookup_partial (v : View) :
    v.wireFields.lookup "partial" = if v.degraded then some (.boolean true) else none := by
  unfold wireFields
  split_ifs <;> simp_all [List.lookup_cons]

theorem childrenOf_wireFields (v : View) :
    childrenOf v.wireFields = childItems (wires v.children) := by
  unfold wireFields
  cases v.children with
  | nil => split_ifs <;> simp_all [childrenOf, wires, childItems]
  | cons child rest => split_ifs <;> simp_all [childrenOf, childList]

theorem present_some (views : List View) (index : Nat) :
    present index (views.map some) = .ok views := by
  induction views generalizing index with
  | nil => rfl
  | cons v rest ih => simp [present, ih]

theorem fieldOr_partial (v : View) :
    Value.fieldOr false v.wireFields "partial" Value.asBoolean = .ok v.degraded := by
  rw [Value.fieldOr, Entries.get?, lookup_partial]
  cases v.degraded <;> rfl

/-- A view is read back when its children are. -/
theorem ofWire_wire_of_children {v : View}
    (decoded : childItems (wires v.children) = .ok (v.children.map some)) :
    ofWire (wire v) = .ok (some v) := by
  rw [wire_eq_record, ofWire, lookup_type]
  simp only [childrenOf_wireFields, decoded, lookup_text, lookup_data, fieldOr_partial,
    present_some]
  obtain ⟨type, text, children, data, degraded⟩ := v
  by_cases blank : text = ""
  · subst blank
    cases data with
    | nil => rfl
    | cons e es => rfl
  · have kept : text.isEmpty = false := by simpa using blank
    cases data with
    | nil => simp [kept, Value.isNothing]; rfl
    | cons e es => simp [kept, Value.isNothing]; rfl

mutual

theorem ofWire_wire : ∀ v : View, ofWire (wire v) = .ok (some v)
  | ⟨_, _, children, _, _⟩ => ofWire_wire_of_children (childItems_wires children)

theorem childItems_wires : ∀ views : List View, childItems (wires views) = .ok (views.map some)
  | [] => rfl
  | v :: rest => by
    rw [wires, childItems, ofWire_wire v, childItems_wires rest]
    rfl

end

/-- The data are texts and integers under distinct keys. -/
def SimpleData (v : View) : Prop :=
  v.data.keys.Nodup ∧ ∀ e ∈ v.data, e.2.isTextOrInteger = true

instance (v : View) : Decidable v.SimpleData :=
  inferInstanceAs (Decidable (_ ∧ _))

theorem nodup_keys_wireFields (v : View) : v.wireFields.keys.Nodup := by
  unfold wireFields Entries.keys
  split_ifs <;> simp

theorem mem_wireFields {v : View} {e : String × Value} (member : e ∈ v.wireFields) :
    e = ("type", .text v.type) ∨ e = ("text", .text v.text) ∨
      e = ("children", .list (wires v.children)) ∨ e = ("data", .record v.data) ∨
      e = ("partial", .boolean true) := by
  unfold wireFields at member
  split_ifs at member <;> simp_all
  all_goals tauto

theorem faithful_record_data {v : View} (simple : v.SimpleData) :
    (Value.record v.data).Faithful := by
  refine ⟨simple.1, Value.faithfulFields_iff.mpr ?_⟩
  intro e member
  exact Value.faithful_of_isTextOrInteger (simple.2 e member)

theorem faithful_wire_of_children {v : View} (simple : v.SimpleData)
    (below : Value.FaithfulItems (wires v.children)) : (wire v).Faithful := by
  rw [wire_eq_record]
  refine ⟨nodup_keys_wireFields v, Value.faithfulFields_iff.mpr ?_⟩
  intro e member
  rcases mem_wireFields member with rfl | rfl | rfl | rfl | rfl
  · trivial
  · trivial
  · exact below
  · exact faithful_record_data simple
  · trivial

mutual

theorem faithful_wire : ∀ v : View, (∀ w ∈ preorder v, w.SimpleData) → (wire v).Faithful
  | ⟨_, _, children, _, _⟩, simple =>
    faithful_wire_of_children (simple _ List.mem_cons_self)
      (faithful_wires children fun w member => simple w (List.mem_cons_of_mem _ member))

theorem faithful_wires : ∀ views : List View, (∀ w ∈ preorders views, w.SimpleData) →
    Value.FaithfulItems (wires views)
  | [], _ => trivial
  | v :: rest, simple =>
    ⟨faithful_wire v fun w member => simple w (List.mem_append_left _ member),
      faithful_wires rest fun w member => simple w (List.mem_append_right _ member)⟩

end

/-! ### Integers on the wire -/

theorem mentions_wire_iff_fields {v : View} {n : Int} :
    (wire v).Mentions n ↔
      (Value.record v.data).Mentions n ∨ (Value.list (wires v.children)).Mentions n := by
  rw [wire_eq_record, Value.mentions_record]
  constructor
  · rintro ⟨e, member, inside⟩
    rcases mem_wireFields member with rfl | rfl | rfl | rfl | rfl
    · cases inside
    · cases inside
    · exact .inr inside
    · exact .inl inside
    · cases inside
  · rintro (inside | inside)
    · have some : v.data ≠ [] := by
        intro empty
        rw [empty, Value.mentions_record] at inside
        simp at inside
      exact ⟨("data", .record v.data), by simp [wireFields, some], inside⟩
    · have some : v.children ≠ [] := by
        intro empty
        rw [empty, wires, Value.mentions_list] at inside
        simp at inside
      exact ⟨("children", .list (wires v.children)), by simp [wireFields, some], inside⟩

mutual

/-- The integers on the wire are those in the data of the views. -/
theorem mentions_wire_iff {n : Int} :
    ∀ v : View, (wire v).Mentions n ↔ ∃ w ∈ preorder v, (Value.record w.data).Mentions n
  | ⟨type, text, children, data, degraded⟩ => by
    rw [mentions_wire_iff_fields, preorder, List.exists_mem_cons_iff, mentions_wires_iff children]

theorem mentions_wires_iff {n : Int} : ∀ views : List View,
    (Value.list (wires views)).Mentions n ↔
      ∃ w ∈ preorders views, (Value.record w.data).Mentions n
  | [] => by simp [wires, preorders, Value.mentions_list]
  | v :: rest => by
    have onward := mentions_wires_iff (n := n) rest
    rw [Value.mentions_list] at onward ⊢
    rw [wires, List.exists_mem_cons_iff, onward, mentions_wire_iff v, preorders]
    simp only [List.mem_append, or_and_right, exists_or]

end

theorem SimpleData.mentions_iff {v : View} (simple : v.SimpleData) {n : Int} :
    (Value.record v.data).Mentions n ↔ ∃ key, (key, Value.integer n) ∈ v.data := by
  rw [Value.mentions_record]
  constructor
  · rintro ⟨⟨key, value⟩, member, inside⟩
    have flat := simple.2 _ member
    cases inside with
    | here => exact ⟨key, member⟩
    | item => cases flat
    | field => cases flat
  · rintro ⟨key, member⟩
    exact ⟨(key, .integer n), member, .here⟩

/-- No integer in the data has more digits than that. -/
def DataWithin (most : Nat) (v : View) : Prop :=
  ∀ key n, (key, Value.integer n) ∈ v.data → (Nat.toDigits 10 n.natAbs).length ≤ most

end View

namespace Envelope

theorem faithful_wire {views : List View} (simple : ∀ v ∈ View.preorders views, v.SimpleData) :
    (Envelope.ok views).wire.Faithful :=
  ⟨by simp [Entries.keys], trivial, View.faithful_wires views simple, trivial⟩

theorem mentions_wire_iff {views : List View} {n : Int} :
    (Envelope.ok views).wire.Mentions n ↔
      ∃ v ∈ View.preorders views, (Value.record v.data).Mentions n := by
  rw [← View.mentions_wires_iff, wire, Value.mentions_record]
  constructor
  · rintro ⟨e, member, inside⟩
    simp only [List.mem_cons, List.not_mem_nil, or_false] at member
    rcases member with rfl | rfl
    · cases inside
    · exact inside
  · intro inside
    exact ⟨("ast", .list (View.wires views)), by simp, inside⟩

theorem isWithin_some_wire_iff {views : List View} {most : Nat}
    (simple : ∀ v ∈ View.preorders views, v.SimpleData) :
    (Envelope.ok views).wire.isWithin (some most) ↔
      ∀ v ∈ View.preorders views, v.DataWithin most := by
  simp only [Value.isWithin_iff, mentions_wire_iff, forall_exists_index, and_imp]
  constructor
  · intro all v member key n held
    have inside := (simple v member).mentions_iff.mpr ⟨key, held⟩
    simpa [Numeral.isWithin] using all n v member inside
  · intro all n v member inside
    obtain ⟨key, held⟩ := (simple v member).mentions_iff.mp inside
    simpa [Numeral.isWithin] using all v member key n held

end Envelope

end SqlSyntax
