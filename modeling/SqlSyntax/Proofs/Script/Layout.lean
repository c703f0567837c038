import SqlSyntax.Proofs.Script.Completeness

/-!
# Children in the text of their view

In the view of a statement of an accepted text, the text of every view holds the texts of its
children in their order and without overlap, a limit with an offset those of its two children the
other way round. What stands in the gaps is not told here.
-/

namespace SqlSyntax

/-! ### The texts of children -/

namespace Child

theorem map_node_items (field : String) (start : Nat) (items : List Slot) :
    ((items.zipIdx start).filterMap fun e => e.1.node?.map (Child.mk field (some e.2))).map node =
      items.filterMap Slot.node? := by
  induction items generalizing start with
  | nil => rfl
  | cons s rest ih =>
    rw [List.zipIdx_cons, List.filterMap_cons, List.filterMap_cons]
    cases s.node? with
    | none => exact ih (start + 1)
    | some n => exact congrArg (n :: ·) (ih (start + 1))

theorem map_node_ofMember (field : String) {m : Member}
    (plain : ∀ s ∈ m.held, (Member.slot s).items = []) :
    (ofMember field m).map node = m.held.filterMap Slot.node? := by
  cases m with
  | slot s =>
    have unlisted := plain s List.mem_cons_self
    rw [ofMember, unlisted]
    cases s <;> rfl
  | slots items => exact map_node_items field 0 items
  | texts items =>
    refine (map_node_items field 0 (items.map .text)).trans ?_
    simp [Member.held, Slot.node?]
  | optionalText s => cases s <;> rfl
  | _ => rfl

end Child

namespace Dialect

/-- The children of a whole node are the nodes in its slots. -/
theorem map_node_children {n : Node} (whole : n.isWhole = true) :
    (mysql.children n).map Child.node = n.slots.filterMap Slot.node? := by
  rw [usual_mysql.children_eq, mysql_members whole]
  have plain := Node.items_of_whole whole
  unfold Node.slots at plain ⊢
  simp only [List.map_flatMap, List.filterMap_flatMap]
  refine List.flatMap_congr ?_
  intro e member
  refine Child.map_node_ofMember e.1 ?_
  intro s held
  exact plain s (List.mem_flatMap.mpr ⟨e, member, held⟩)

end Dialect

theorem Slot.flatMap_texts (slots : List Slot) :
    slots.flatMap Slot.texts = (slots.filterMap Slot.node?).flatMap fun x =>
      (Slot.node x).texts := by
  induction slots with
  | nil => rfl
  | cons s rest ih =>
    cases s with
    | node n => exact congrArg ((Slot.node n).texts ++ ·) ih
    | _ => exact ih

namespace Node

theorem told_eq_slots {n : Node} (other : n.kind ≠ .limit) : n.told = n.slots := by
  cases n with
  | limit count offset => exact absurd rfl other
  | _ => rfl

theorem eq_limit_of_kind {n : Node} (whole : n.isWhole = true) (kind : n.kind = .limit) :
    ∃ count offset, n = .limit count offset := by
  cases n with
  | limit count offset => exact ⟨count, offset, rfl⟩
  | loose => cases whole
  | _ => cases kind

end Node

namespace Kind

theorem name_eq_of_tag {k l : Kind} (same : k.tag = l.tag) : k.name = l.name := by
  unfold tag at same
  -- the namespace is a long literal that must not be computed with
  generalize "mysql_parser.plugins.mysql.ast." = lead at same
  have letters := congrArg String.toList same
  rw [String.toList_append, String.toList_append] at letters
  exact String.toList_inj.mp (List.append_cancel_left letters)

/-- No other kind has the name of a limit. -/
theorem eq_limit_of_name {k : Kind} (named : k.name = Kind.limit.name) : k = .limit := by
  cases k with
  | limit => rfl
  | bare family => cases family <;> simp [name, Family.name] at named
  | _ => simp [name] at named

end Kind

namespace View

/-! ### Views -/

/-- The view is of a limit, and one of its children is an offset. -/
def HasOffset (v : View) : Prop :=
  v.type = Kind.limit.tag ∧ ∃ w ∈ v.children, w.fieldName? = some (.text "offset")

/-- The texts of the children stand in the text of the view, in their order unless it is a limit
with an offset. -/
structure LaidOut (v : View) : Prop where
  plain : ¬ v.HasOffset → Interleaves (v.children.map View.text) v.text
  exchanged : v.HasOffset → ∃ count offset, v.children = [count, offset] ∧
    Interleaves [offset.text, count.text] v.text

theorem fieldName?_tagged (v : View) (field : String) (index : Option Nat) :
    (v.tagged field index).fieldName? = some (.text field) := by
  have differ : fieldKey ≠ indexKey := by decide
  cases index <;> simp [tagged, withOrigin, fieldName?, Entries.get?_put, differ]

theorem LaidOut.tagged {v : View} (laid : v.LaidOut) (field : String) (index : Option Nat) :
    (v.tagged field index).LaidOut :=
  ⟨laid.plain, laid.exchanged⟩

variable {budget : Nat} {n : Node} {v : View}

theorem render_image (complete : n.Complete) (image : image .mysql budget n = some v) :
    n.render = .ok v.text := by
  cases budget with
  | zero => cases image
  | succ budget =>
    obtain ⟨-, views, -, rfl⟩ := exists_of_image image
    obtain ⟨text, rendered, -⟩ := complete.tells
    simp [describe, Dialect.usual_mysql.tag, Dialect.usual_mysql.marking,
      Dialect.mysql_render rendered, rendered]

/-- The view of a child, as it stands among those of its siblings. -/
def Stands (budget : Nat) (c : Child) (w : View) : Prop :=
  ∃ u, image .mysql budget c.node = some u ∧ u.tagged c.field c.index = w

theorem Stands.texts {c : Child} {w : View} (stands : Stands budget c w) (sound : c.node.Sound) :
    (Slot.node c.node).texts = [w.text] := by
  obtain ⟨u, image, rfl⟩ := stands
  rw [Slot.texts, render_image sound.complete image]
  rfl

theorem Stands.fieldName {c : Child} {w : View} (stands : Stands budget c w) :
    w.fieldName? = some (.text c.field) := by
  obtain ⟨u, -, rfl⟩ := stands
  exact fieldName?_tagged u c.field c.index

theorem map_text_of_stands {children : List Child} {views : List View}
    (sound : ∀ c ∈ children, c.node.Sound) (images : List.Forall₂ (Stands budget) children views) :
    views.map View.text = (children.map Child.node).flatMap fun x => (Slot.node x).texts := by
  induction images with
  | nil => rfl
  | cons first _ ih =>
    obtain ⟨here, others⟩ := List.forall_mem_cons.mp sound
    rw [List.map_cons, List.map_cons, List.flatMap_cons, first.texts here, ih others]
    rfl

/-- A limit tells its offset first, if it has one; the data of the children tell which of them it
is. -/
theorem laidOut_limit {count offset : Slot} {root : View} (named : root.type = Kind.limit.tag)
    (sound : (Node.limit count offset).Sound)
    (inside : Interleaves ((Node.limit count offset).told.flatMap Slot.texts) root.text)
    (images : List.Forall₂ (Stands budget) (Dialect.mysql.children (.limit count offset))
      root.children) : root.LaidOut := by
  have below := fun c child => Dialect.sound_child (c := c) sound child
  obtain ⟨⟨whole, -, -⟩, -⟩ := sound
  obtain ⟨required, permitted⟩ := Bool.and_eq_true_iff.mp whole
  rcases count with x | _ | _ | _ | _
  · obtain ⟨w, others, first, images, held⟩ := List.forall₂_cons_left_iff.mp images
    have counted := first.texts (below _ List.mem_cons_self)
    rcases offset with y | _ | _ | _ | v
    · obtain ⟨w', none, second, last, rfl⟩ := List.forall₂_cons_left_iff.mp images
      obtain rfl := List.forall₂_nil_left_iff.mp last
      have skipped := second.texts (below _ (List.mem_cons_of_mem _ List.mem_cons_self))
      have offset : root.HasOffset := by
        refine ⟨named, w', ?_, second.fieldName⟩
        rw [held]
        exact List.mem_cons_of_mem _ List.mem_cons_self
      refine ⟨fun absent => absurd offset absent, fun _ => ⟨w, w', held, ?_⟩⟩
      simpa [Node.told, counted, skipped] using inside
    · cases permitted
    · cases permitted
    · cases permitted
    · obtain rfl := List.forall₂_nil_left_iff.mp images
      have untold : (Slot.plain v).texts = [] := rfl
      refine ⟨fun _ => ?_, ?_⟩
      · simpa [Node.told, counted, held, untold] using inside
      · rintro ⟨-, u, member, told⟩
        rw [held] at member
        cases List.mem_singleton.mp member
        rw [first.fieldName] at told
        simp at told
  all_goals cases required

/-- The text of a view is laid out by the views of the children of its node. A limit is looked at by
itself: its offset is the only child that is told before an earlier one. -/
theorem laidOut_image (sound : n.Sound) (image : View.image .mysql budget n = some v) :
    v.LaidOut := by
  cases budget with
  | zero => cases image
  | succ budget =>
    have rendered := render_image sound.complete image
    obtain ⟨-, views, images, rfl⟩ := exists_of_image image
    have images : List.Forall₂ (Stands budget) (Dialect.mysql.children n) views := images
    obtain ⟨⟨whole, shown, -⟩, -⟩ := id sound
    have inside := Node.lays_render whole shown _ rendered
    by_cases kind : n.kind = .limit
    · obtain ⟨count, offset, rfl⟩ := Node.eq_limit_of_kind whole kind
      exact laidOut_limit rfl sound inside images
    · have texts := map_text_of_stands (fun c child => Dialect.sound_child sound child) images
      rw [Dialect.map_node_children whole, ← Slot.flatMap_texts] at texts
      rw [Node.told_eq_slots kind, ← texts] at inside
      refine ⟨fun _ => inside, ?_⟩
      rintro ⟨named, -⟩
      exact absurd (Kind.eq_limit_of_name (Kind.name_eq_of_tag named)) kind

/-- By induction on the levels: all views below are laid out as well. -/
theorem laidOut_preorder (sound : n.Sound) (image : View.image .mysql budget n = some v) :
    ∀ w ∈ v.preorder, w.LaidOut := by
  induction budget generalizing n v with
  | zero => cases image
  | succ budget ih =>
    have root := laidOut_image sound image
    obtain ⟨-, views, images, rfl⟩ := exists_of_image image
    intro w member
    rw [preorder_eq] at member
    rcases List.mem_cons.mp member with rfl | below
    · exact root
    · obtain ⟨_, view, member⟩ := mem_preorders.mp below
      obtain ⟨c, child, u, image, rfl⟩ := exists_left_of_forall₂ images view
      have inner := ih (Dialect.sound_child sound child) image
      rw [preorder_eq] at member inner
      rcases List.mem_cons.mp member with rfl | below
      · exact (inner u List.mem_cons_self).tagged c.field c.index
      · exact inner w (List.mem_cons_of_mem _ below)

end View

/-! ### Scripts -/

namespace Script

/-- Whatever the limit is and whatever was counted before: if a statement of an accepted text has a
view, all views in it are laid out. -/
theorem parse_laidOut {sql : String} {statements : List Node}
    (parsed : parse sql = .ok statements) :
    ∀ s ∈ statements, ∀ (limit : Int) (p : Progress) (v : View),
      (View.normalize .mysql limit s p).2 = .ok v → ∀ w ∈ v.preorder, w.LaidOut := by
  intro s member limit p v normalized
  have sound := sound_of_parse parsed s member
  exact View.laidOut_preorder sound (View.normalize_eq_ok_iff.mp normalized)

/-- The tree of a select of one number with a limit and an offset. -/
def pagedSelect : Node :=
  let number (n : Int) : Node := .value (.plain (.integer n))
  .select false (.node (.fieldList [.node (.selectField .empty (.node (number 1)) "")]))
    .empty .empty .empty .empty .empty (.node (.limit (.node (number 3)) (.node (number 2)))) ""

def numberView (text field : String) : View :=
  ⟨Kind.value.tag, text, [], [("expression_type", .text "expression"), ("field_name", .text field)],
    false⟩

def pageView : View :=
  ⟨Kind.limit.tag, "LIMIT 2,3", [numberView "3" "count", numberView "2" "offset"],
    [("field_name", .text "limit")], false⟩

def pagedView : View :=
  let field : View := ⟨Kind.selectField.tag, "1", [numberView "1" "expr"],
    [("field_name", .text "fields"), ("array_index", .integer 0)], false⟩
  let fields : View := ⟨Kind.fieldList.tag, "1", [field], [("field_name", .text "fields")], false⟩
  ⟨Kind.select.tag, "SELECT 1 LIMIT 2,3", [fields, pageView],
    [("statement_type", .text "statement"), ("dml_type", .text "dml")], false⟩

theorem parse_laidOut_pagedSelect :
    (parse "SELECT 1 LIMIT 3 OFFSET 2" = .ok [pagedSelect] ∧
        (View.normalize .mysql 4 pagedSelect ⟨.zero, []⟩).2 = .ok pagedView) ∧
      (pageView ∈ pagedView.preorder ∧ pageView.HasOffset) ∧
        ∀ w ∈ pagedView.preorder, w.LaidOut := by
  have parsed : parse "SELECT 1 LIMIT 3 OFFSET 2" = .ok [pagedSelect] := by rfl
  have normalized : (View.normalize .mysql 4 pagedSelect ⟨.zero, []⟩).2 = .ok pagedView := by rfl
  have listed : pageView ∈ pagedView.preorder := by
    simp [pagedView, View.preorder, View.preorders, pageView]
  have offset : pageView.HasOffset :=
    ⟨rfl, numberView "2" "offset", List.mem_cons_of_mem _ List.mem_cons_self, rfl⟩
  exact ⟨⟨parsed, normalized⟩, ⟨listed, offset⟩,
    parse_laidOut parsed pagedSelect List.mem_cons_self 4 ⟨.zero, []⟩ pagedView normalized⟩

end Script

end SqlSyntax
