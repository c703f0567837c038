import SqlSyntax.Proofs.Grammar.SoundValues
import SqlSyntax.Proofs.Script.Concatenation
import SqlSyntax.Proofs.Service.Delivery
import SqlSyntax.Proofs.View.Image

/-!
# Parsed trees are complete

Every statement of an accepted text is a complete tree, so all nodes in reach have a text. A walk
through such a tree counts no degraded view and makes none, and it ends well if its limit is not too
low.
-/

namespace SqlSyntax

/-! ### Nodes in reach of a complete tree -/

namespace Node

/-- The slots of a whole node hold nodes and plain values, no lists of their own. -/
theorem items_of_whole {n : Node} (whole : n.isWhole = true) :
    ∀ s ∈ n.slots, (Member.slot s).items = [] := by
  have required {s : Slot} (held : s.isNode = true) : (Member.slot s).items = [] := by
    cases s with
    | node n => rfl
    | _ => cases held
  have permitted {s : Slot} (held : s.isOptional = true) : (Member.slot s).items = [] := by
    cases s with
    | node n => rfl
    | plain v => rfl
    | _ => cases held
  have each {items : List Slot} (held : items.all Slot.isNode = true) :
      ∀ s ∈ items, (Member.slot s).items = [] :=
    fun s member => required (List.all_eq_true.mp held s member)
  cases n
  case bare family => cases whole
  case loose kind members => cases whole
  case value v =>
    cases v with
    | plain v =>
      intro s member
      obtain rfl := List.mem_singleton.mp member
      rfl
    | _ => cases whole
  all_goals
    simp only [isWhole, Bool.and_eq_true, Bool.not_eq_true', decide_eq_true_eq, List.all_cons,
      List.all_nil, List.all_append, and_true] at whole
    simp only [slots, members, Member.held, List.flatMap_cons, List.flatMap_nil, List.cons_append,
      List.nil_append, List.append_nil, List.mem_append, List.mem_cons, List.not_mem_nil, or_false,
      or_imp, forall_and, forall_eq]
  case selectField star expr asName =>
    have missing {s : Slot} (held : s.isEmpty = true) : (Member.slot s).items = [] :=
      permitted (by simp [Slot.isOptional, held])
    split at whole
    · rename_i empty
      exact ⟨missing empty, required whole⟩
    · obtain ⟨node, empty⟩ := Bool.and_eq_true_iff.mp whole
      exact ⟨required node, missing empty⟩
  case tableRefs refs =>
    cases refs with
    | node n => rfl
    | _ => cases whole
  all_goals grind

end Node

namespace Dialect

theorem mysql_render {n : Node} {text : String} (rendered : n.render = .ok text) :
    mysql.render n = .ok text := by
  simp [mysql, Node.rendered, rendered]

theorem mysql_members {n : Node} (whole : n.isWhole = true) : mysql.members n = .ok n.members := by
  cases n with
  | bare family => cases whole
  | _ => rfl

theorem mem_slots_of_child {n : Node} (whole : n.isWhole = true) {c : Child}
    (child : c ∈ mysql.children n) : Slot.node c.node ∈ n.slots := by
  obtain ⟨members, m, enumerated, member, held⟩ := usual_mysql.mem_children.mp child
  obtain rfl := mysql_declares n members enumerated
  have within : ∀ s ∈ m.held, s ∈ n.slots := fun s held => List.mem_flatMap.mpr ⟨_, member, held⟩
  cases m with
  | slot s =>
    have plain := Node.items_of_whole whole s (within s List.mem_cons_self)
    cases place : c.index with
    | none =>
      rw [place] at held
      cases s with
      | node x =>
        cases held
        exact within _ List.mem_cons_self
      | _ => cases held
    | some i =>
      rw [place, Member.node?, plain] at held
      cases held
  | slots items =>
    cases place : c.index with
    | none =>
      rw [place] at held
      cases held
    | some i =>
      rw [place] at held
      obtain ⟨s, there, holds⟩ := Option.bind_eq_some_iff.mp held
      cases s with
      | node x =>
        cases holds
        exact within _ (List.mem_of_getElem? there)
      | _ => cases holds
  | texts items =>
    cases place : c.index with
    | none =>
      rw [place] at held
      cases held
    | some i =>
      rw [place] at held
      obtain ⟨s, there, holds⟩ := Option.bind_eq_some_iff.mp held
      obtain ⟨t, -, rfl⟩ := List.mem_map.mp (List.mem_of_getElem? there)
      cases holds
  | optionalText s => cases place : c.index <;> rw [place] at held <;> cases s <;> cases held
  | _ => cases place : c.index <;> rw [place] at held <;> cases held

/-- What is passed on to children holds of all that a trail leads to. -/
theorem Leads.keeps {I : Node → Prop} {n last : Node} {trail : List Origin}
    (leads : mysql.Leads n trail last) (step : ∀ m, I m → ∀ c ∈ mysql.children m, I c.node)
    (start : I n) : I last := by
  induction trail generalizing n with
  | nil =>
    cases leads
    exact start
  | cons o trail ih =>
    obtain ⟨c, child, -, leads⟩ := leads_cons.mp leads
    exact ih leads (step n start c child)

theorem complete_child {n : Node} (complete : n.Complete) {c : Child}
    (child : c ∈ mysql.children n) : c.node.Complete := by
  obtain ⟨whole, parts⟩ := complete
  exact parts _ (mem_slots_of_child whole child)

theorem sound_child {n : Node} (sound : n.Sound) {c : Child} (child : c ∈ mysql.children n) :
    c.node.Sound := by
  obtain ⟨proper, parts⟩ := sound
  exact parts _ (mem_slots_of_child proper.whole child)

/-- What a trail leads to is complete as well. -/
theorem Leads.complete {n last : Node} {trail : List Origin} (leads : mysql.Leads n trail last)
    (complete : n.Complete) : last.Complete :=
  leads.keeps (fun _ complete _ child => complete_child complete child) complete

theorem Leads.sound {n last : Node} {trail : List Origin} (leads : mysql.Leads n trail last)
    (sound : n.Sound) : last.Sound :=
  leads.keeps (fun _ sound _ child => sound_child sound child) sound

theorem exists_bound {α : Type} {P : α → Nat → Prop} (as : List α)
    (higher : ∀ a d d', d ≤ d' → P a d → P a d') (each : ∀ a ∈ as, ∃ d, P a d) :
    ∃ d, ∀ a ∈ as, P a d := by
  induction as with
  | nil => exact ⟨0, nofun⟩
  | cons a as ih =>
    obtain ⟨d, first⟩ := each a List.mem_cons_self
    obtain ⟨d', others⟩ := ih fun b member => each b (List.mem_cons_of_mem _ member)
    refine ⟨max d d', List.forall_mem_cons.mpr ⟨higher a d _ (Nat.le_max_left _ _) first, ?_⟩⟩
    exact fun b member => higher b d' _ (Nat.le_max_right _ _) (others b member)

/-- By induction on the tree: the trails in it are bounded. -/
theorem exists_depth {n : Node} (complete : n.Complete) :
    ∃ depth, ∀ trail last, mysql.Leads n trail last → trail.length < depth := by
  induction complete with
  | @intro n whole parts ih =>
    have higher (c : Child) (d d' : Nat) (le : d ≤ d')
        (bound : ∀ trail last, mysql.Leads c.node trail last → trail.length < d) :
        ∀ trail last, mysql.Leads c.node trail last → trail.length < d' :=
      fun trail last leads => Nat.lt_of_lt_of_le (bound trail last leads) le
    obtain ⟨depth, bound⟩ := exists_bound (mysql.children n) higher
      fun c child => ih c.node (mem_slots_of_child whole child)
    refine ⟨depth + 1, ?_⟩
    intro trail last leads
    cases trail with
    | nil => exact Nat.succ_pos depth
    | cons o trail =>
      obtain ⟨c, child, -, leads⟩ := leads_cons.mp leads
      exact Nat.succ_lt_succ (bound c child trail last leads)

end Dialect

/-! ### Walks through a complete tree -/

namespace View

/-- Nothing of the tree could not be told. -/
def Undegraded (v : View) : Prop :=
  ∀ w ∈ v.preorder, w.degraded = false

theorem Undegraded.tagged {v : View} (undegraded : v.Undegraded) (field : String)
    (index : Option Nat) : (v.tagged field index).Undegraded := by
  intro w member
  rw [preorder_eq] at member
  rcases List.mem_cons.mp member with rfl | member
  · exact undegraded v (preorder_eq v ▸ List.mem_cons_self)
  · exact undegraded w (preorder_eq v ▸ List.mem_cons_of_mem _ member)

theorem describe_of_complete {n : Node} (complete : n.Complete) :
    (describe .mysql n).view.degraded = false := by
  obtain ⟨text, rendered, -⟩ := complete.tells
  obtain ⟨whole, -⟩ := complete
  simp [describe, Dialect.usual_mysql.tag, Dialect.usual_mysql.marking,
    Dialect.mysql_render rendered, Dialect.mysql_members whole]

/-- By induction on the levels that are left: no view is degraded and none is counted as such. -/
theorem ofNode_of_complete (limit : Int) (budget level : Nat) {n : Node} (complete : n.Complete)
    (p : Progress) :
    (ofNode .mysql limit budget level n p).1.tally.degraded = p.tally.degraded ∧
      ∀ v, (ofNode .mysql limit budget level n p).2 = .ok v → v.Undegraded := by
  induction budget generalizing level n p with
  | zero =>
    refine ⟨rfl, ?_⟩
    rintro v ⟨⟩
  | succ budget ih =>
    have described := describe_of_complete complete
    have children : ∀ c ∈ (describe .mysql n).children, c.node.Complete :=
      fun c child => Dialect.complete_child complete child
    rw [ofNode]
    generalize describe .mysql n = told at described children ⊢
    obtain ⟨view, offspring, defect, log⟩ := told
    have step : ∀ c ∈ offspring, ∀ q : Progress, q.tally.degraded = p.tally.degraded →
        (ofNode .mysql limit budget (level + 1) c.node q).1.tally.degraded = p.tally.degraded ∧
          ∀ v, (ofNode .mysql limit budget (level + 1) c.node q).2 = .ok v → v.Undegraded := by
      intro c child q same
      obtain ⟨kept, undegraded⟩ := ih (level + 1) (children c child) q
      exact ⟨kept.trans same, undegraded⟩
    have start : (Walk.say log (Walk.count (·.enter level) p)).tally.degraded = p.tally.degraded :=
      rfl
    have walked := Walk.each_keeps step start
    dsimp only at described ⊢
    rcases each : Walk.each (fun c : Child => ofNode .mysql limit budget (level + 1) c.node)
      offspring (Walk.say log (Walk.count (·.enter level) p)) with ⟨q, _ | views⟩
    · rw [each] at walked
      refine ⟨walked.1, ?_⟩
      rintro v ⟨⟩
    · rw [each] at walked
      simp only [described, Bool.false_eq_true, if_false]
      cases defect with
      | some fault =>
        refine ⟨walked.1, ?_⟩
        rintro v ⟨⟩
      | none =>
        refine ⟨walked.1, ?_⟩
        rintro v ⟨⟩
        intro w member
        rw [preorder_eq] at member
        rcases List.mem_cons.mp member with rfl | below
        · rfl
        · obtain ⟨u, view, inside⟩ := mem_preorders.mp below
          rw [← List.map_uncurry_zip_eq_zipWith] at view
          obtain ⟨⟨c, v⟩, paired, rfl⟩ := List.mem_map.mp view
          have shown := (List.of_mem_zip paired).2
          exact (walked.2 views rfl v shown).tagged c.field c.index w inside

end View

/-! ### Scripts -/

namespace Script

/-- The statements of an accepted text are sound trees. -/
theorem sound_of_parse {sql : String} {statements : List Node}
    (parsed : parse sql = .ok statements) : ∀ s ∈ statements, s.Sound := by
  have accepts := (parse_eq_ok_iff sql statements).mp parsed
  have empty : Grammar.Symbol.Sound (.nonterminal .script) ([] : List Node) := by
    intro x member
    cases member
  have start : Grammar.Stack.Holds Grammar.Symbol.Sound
      (Grammar.Configuration.initial sql).stack := by
    intro e member
    cases member
  have sound : Grammar.Symbol.Sound (.nonterminal .script) statements :=
    accepts.holds Grammar.sound_inherited empty start
  exact sound

theorem complete_of_parse {sql : String} {statements : List Node}
    (parsed : parse sql = .ok statements) : ∀ s ∈ statements, s.Complete :=
  fun s member => (sound_of_parse parsed s member).complete

/-- In every statement of an accepted text all nodes in reach are whole and have a text, and with a
limit that is not too low its view is complete: no part of it is degraded, and none is counted as
such. -/
theorem parse_complete {sql : String} {statements : List Node}
    (parsed : parse sql = .ok statements) : ∀ s ∈ statements,
      (∀ trail n, Dialect.mysql.Leads s trail n →
        n.isWhole = true ∧ ∃ text, n.render = .ok text ∧ text ≠ "") ∧
      ∃ depth : Nat, ∀ limit : Int, depth ≤ limit → ∀ p : Progress, ∃ q v,
        View.normalize .mysql limit s p = (q, .ok v) ∧ q.tally.degraded = p.tally.degraded ∧
          v.Undegraded := by
  intro s member
  have complete := complete_of_parse parsed s member
  constructor
  · intro trail n leads
    have below := leads.complete complete
    exact ⟨(Node.complete_iff.mp below).1, below.tells⟩
  · obtain ⟨depth, bound⟩ := Dialect.exists_depth complete
    refine ⟨depth, ?_⟩
    intro limit high p
    obtain ⟨kept, undegraded⟩ := View.ofNode_of_complete limit limit.toNat 1 complete p
    have deep : View.image .mysql limit.toNat s ≠ none := by
      intro missing
      obtain ⟨trail, last, leads, long⟩ := Dialect.usual_mysql.image_eq_none_iff.mp missing
      have short := bound trail last leads
      omega
    obtain ⟨v, image⟩ := Option.ne_none_iff_exists'.mp deep
    have outcome := View.normalize_eq_ok_iff (p := p) |>.mpr image
    exact ⟨_, v, Prod.ext rfl outcome, kept, undegraded v outcome⟩

/-- The tree of a select of one number. -/
def plainSelect (n : Int) : Node :=
  .select false
    (.node (.fieldList [.node (.selectField .empty (.node (.value (.plain (.integer n)))) "")]))
    .empty .empty .empty .empty .empty .empty ""

/-- The tree of an insertion of all that two selects give. -/
def unionInsertion : Node :=
  .insert false false
    (.node (.tableRefs (.node (.join (.node (.tableSource (.node (.tableName "" "t" [])) ""))
      .empty "" .empty []))))
    [] [] [] (.node (.setOperation [.node (plainSelect 1), .node (plainSelect 2)] ["UNION"])) []

theorem parse_complete_union :
    parse "INSERT t SELECT 1 UNION SELECT 2" = .ok [unionInsertion] ∧
      (∀ trail n, Dialect.mysql.Leads unionInsertion trail n →
        n.isWhole = true ∧ ∃ text, n.render = .ok text ∧ text ≠ "") ∧
      ∃ depth : Nat, ∀ limit : Int, depth ≤ limit → ∀ p : Progress, ∃ q v,
        View.normalize .mysql limit unionInsertion p = (q, .ok v) ∧
          q.tally.degraded = p.tally.degraded ∧ v.Undegraded := by
  have parsed : parse "INSERT t SELECT 1 UNION SELECT 2" = .ok [unionInsertion] := by rfl
  exact ⟨parsed, parse_complete parsed unionInsertion List.mem_cons_self⟩

end Script

end SqlSyntax
