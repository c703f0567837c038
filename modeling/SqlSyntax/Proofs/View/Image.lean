import Mathlib.Data.List.Nodup
import SqlSyntax.Proofs.View.Alarms
import SqlSyntax.Proofs.View.Data

/-!
# Views as an image of the syntax tree

Every view is reached by the origins that the data of the views on the way to it tell. Followed
through the members of the nodes, the same origins lead to the node that the view depicts, and every
node in reach is depicted once. A walk that gives up does so because of a node below its limit.
-/

namespace SqlSyntax

/-! ### Origins in a node -/

/-- The places at which a member holds nodes, in order. -/
def Member.places (m : Member) : List (Option Nat) :=
  (none :: (List.range m.items.length).map some).filter fun i => (m.node? i).isSome

theorem Member.nodup_places (m : Member) : m.places.Nodup := by
  refine List.Nodup.filter _ (List.nodup_cons.mpr ⟨by simp, ?_⟩)
  refine List.Nodup.map ?_ List.nodup_range
  rintro i j ⟨⟩
  rfl

namespace Child

theorem map_origin_items (field : String) (start : Nat) (items : List Slot) :
    ((items.zipIdx start).filterMap fun e => e.1.node?.map (Child.mk field (some e.2))).map origin =
      ((List.range' start items.length).filter fun i =>
        (items[i - start]?.bind Slot.node?).isSome).map fun i => ⟨field, some i⟩ := by
  induction items generalizing start with
  | nil => rfl
  | cons s rest ih =>
    have onward : ∀ i ∈ List.range' (start + 1) rest.length,
        ((s :: rest)[i - start]?.bind Slot.node?).isSome =
          (rest[i - (start + 1)]?.bind Slot.node?).isSome := by
      intro i within
      obtain ⟨later, -⟩ := List.mem_range'_1.mp within
      obtain ⟨k, rfl⟩ := Nat.exists_eq_add_of_le later
      have shifted : start + 1 + k - start = k + 1 := by omega
      have kept : start + 1 + k - (start + 1) = k := by omega
      rw [shifted, kept, List.getElem?_cons_succ]
    rw [List.length_cons, List.range'_succ, List.filter_cons, List.filter_congr onward]
    rw [List.zipIdx_cons, List.filterMap_cons, Nat.sub_self, List.getElem?_cons_zero,
      Option.bind_some]
    cases s.node? with
    | none => exact ih (start + 1)
    | some n => exact congrArg (⟨field, some start⟩ :: ·) (ih (start + 1))

theorem map_origin_ofMember (field : String) (m : Member) :
    (ofMember field m).map origin = m.places.map fun i => ⟨field, i⟩ := by
  rw [ofMember, List.map_append, map_origin_items, Member.places, List.filter_cons]
  have listed : (List.range' 0 m.items.length).filter (fun i =>
      (m.items[i - 0]?.bind Slot.node?).isSome) =
        (List.range m.items.length).filter fun i => (m.node? (some i)).isSome := by
    rw [List.range_eq_range']
    rfl
  rw [listed, List.filter_map]
  cases m.node? none <;> simp [origin, Function.comp_def]

end Child

namespace Dialect

variable (d : Dialect)

/-- What the dialect tells of the members of a node, if anything, is what the node declares. -/
def Declares : Prop :=
  ∀ n members, d.members n = .ok members → members = n.members

/-- No loose node in reach names a member twice; other nodes never do. -/
def NamesApart (n : Node) : Prop :=
  ∀ trail kind members, d.Leads n trail (.loose kind members) → (members.map Prod.fst).Nodup

/-- Where the children of a node stand, in the order of its members and of the places there. -/
def offspring (n : Node) : List Origin :=
  match d.members n with
  | .ok members => members.flatMap fun (field, m) => m.places.map fun i => ⟨field, i⟩
  | .error _ => []

/-- The node that stands at an origin. -/
def step (n : Node) (o : Origin) : Option Node :=
  match d.members n with
  | .ok members => (members.lookup o.field).bind (·.node? o.index)
  | .error _ => none

/-- The node to which the origins lead one after the other. -/
def follow (n : Node) (trail : List Origin) : Option Node :=
  trail.foldlM d.step n

end Dialect

theorem Node.nodup_members {n : Node}
    (loose : ∀ kind members, n = .loose kind members → (members.map Prod.fst).Nodup) :
    (n.members.map Prod.fst).Nodup := by
  cases n with
  | loose kind members =>
    have distinct := loose kind members rfl
    simpa [Node.members, Function.comp_def] using distinct
  | _ => simp [Node.members]

theorem lookup_eq_some_iff_mem {α : Type} {es : Entries α} {key : String} {a : α}
    (distinct : (es.map Prod.fst).Nodup) : es.lookup key = some a ↔ (key, a) ∈ es := by
  induction es with
  | nil => simp
  | cons e rest ih =>
    obtain ⟨k, b⟩ := e
    obtain ⟨fresh, distinct⟩ := List.nodup_cons.mp distinct
    by_cases same : key = k
    · subst same
      have absent : (key, a) ∉ rest := fun member => fresh (List.mem_map.mpr ⟨_, member, rfl⟩)
      simp [absent, eq_comm]
    · simp [List.lookup_cons, beq_eq_false_iff_ne.mpr same, ih distinct, same]

namespace Dialect

variable {d : Dialect} {n : Node}

theorem map_origin_children (usual : d.Usual) :
    (d.children n).map Child.origin = d.offspring n := by
  rw [usual.children_eq, offspring]
  cases d.members n with
  | error fault => rfl
  | ok members => simp only [List.map_flatMap, Child.map_origin_ofMember]

theorem usual_mysql : mysql.Usual :=
  ⟨fun _ => rfl, fun _ => rfl, fun _ => rfl⟩

theorem mysql_declares : mysql.Declares := by
  intro n members enumerated
  cases n <;> cases enumerated
  all_goals rfl

theorem NamesApart.child (apart : d.NamesApart n) {c : Child} (member : c ∈ d.children n) :
    d.NamesApart c.node := by
  intro trail kind members leads
  exact apart (c.origin :: trail) kind members (leads_cons.mpr ⟨c, member, rfl, leads⟩)

theorem NamesApart.nodup (apart : d.NamesApart n) (declares : d.Declares)
    {members : List (String × Member)} (enumerated : d.members n = .ok members) :
    (members.map Prod.fst).Nodup := by
  obtain rfl := declares n members enumerated
  refine Node.nodup_members ?_
  rintro kind members rfl
  exact apart [] kind members rfl

theorem nodup_offspring (declares : d.Declares) (apart : d.NamesApart n) :
    (d.offspring n).Nodup := by
  unfold offspring
  cases enumerated : d.members n with
  | error fault => exact List.nodup_nil
  | ok members =>
    refine List.nodup_flatMap.mpr ⟨?_, ?_⟩
    · rintro ⟨field, m⟩ -
      refine m.nodup_places.map ?_
      intro i j same
      exact congrArg Origin.index same
    · have names := List.pairwise_map.mp (apart.nodup declares enumerated)
      refine names.imp ?_
      intro e f differ o first second
      obtain ⟨i, -, rfl⟩ := List.mem_map.mp first
      obtain ⟨j, -, same⟩ := List.mem_map.mp second
      exact differ (congrArg Origin.field same).symm

theorem step_eq_some_iff (usual : d.Usual) (declares : d.Declares) (apart : d.NamesApart n)
    {o : Origin}
    {next : Node} : d.step n o = some next ↔ ∃ c ∈ d.children n, c.origin = o ∧ c.node = next := by
  unfold step
  simp only [usual.mem_children]
  cases enumerated : d.members n with
  | error fault => simp
  | ok members =>
    have names := apart.nodup declares enumerated
    simp only [Option.bind_eq_some_iff, lookup_eq_some_iff_mem names]
    constructor
    · rintro ⟨m, member, held⟩
      exact ⟨⟨o.field, o.index, next⟩, ⟨members, m, rfl, member, held⟩, rfl, rfl⟩
    · rintro ⟨c, ⟨members', m, same, member, held⟩, rfl, rfl⟩
      cases same
      exact ⟨m, member, held⟩

theorem follow_cons_eq_some_iff (usual : d.Usual) (declares : d.Declares)
    (apart : d.NamesApart n) {o : Origin} {trail : List Origin} {last : Node} :
    d.follow n (o :: trail) = some last ↔
      ∃ c ∈ d.children n, c.origin = o ∧ d.follow c.node trail = some last := by
  have unfolded : d.follow n (o :: trail) = (d.step n o).bind fun next => d.follow next trail := by
    simp [follow]
  rw [unfolded, Option.bind_eq_some_iff]
  constructor
  · rintro ⟨next, stepped, followed⟩
    obtain ⟨c, child, rfl, rfl⟩ := (step_eq_some_iff usual declares apart).mp stepped
    exact ⟨c, child, rfl, followed⟩
  · rintro ⟨c, child, rfl, followed⟩
    exact ⟨c.node, (step_eq_some_iff usual declares apart).mpr ⟨c, child, rfl, rfl⟩, followed⟩

/-- To follow a trail is to be led by it. -/
theorem follow_eq_some_iff (usual : d.Usual) (declares : d.Declares) (apart : d.NamesApart n)
    {trail : List Origin} {last : Node} :
    d.follow n trail = some last ↔ d.Leads n trail last := by
  induction trail generalizing n with
  | nil => exact ⟨fun same => (Option.some.inj same).symm, fun same => congrArg some same.symm⟩
  | cons o trail ih =>
    rw [follow_cons_eq_some_iff usual declares apart, leads_cons]
    constructor
    · rintro ⟨c, child, rfl, followed⟩
      exact ⟨c, child, rfl, (ih (apart.child child)).mp followed⟩
    · rintro ⟨c, child, rfl, leads⟩
      exact ⟨c, child, rfl, (ih (apart.child child)).mpr leads⟩

end Dialect

/-! ### Views and the origins on the way to them -/

namespace View

mutual

/-- A view and everything below it, parents first, each with the origins on the way to it. -/
def located : View → List (List Origin × View)
  | ⟨type, text, children, data, degraded⟩ =>
    ([], ⟨type, text, children, data, degraded⟩) :: locatedIn children

def locatedIn : List View → List (List Origin × View)
  | [] => []
  | v :: rest => (located v).map (fun e => (v.origin?.toList ++ e.1, e.2)) ++ locatedIn rest

end

theorem located_eq (v : View) : v.located = ([], v) :: locatedIn v.children := by
  cases v
  rw [located]

theorem locatedIn_eq (views : List View) :
    locatedIn views =
      views.flatMap fun v => v.located.map fun e => (v.origin?.toList ++ e.1, e.2) := by
  induction views with
  | nil => rfl
  | cons v rest ih => rw [locatedIn, ih, List.flatMap_cons]

mutual

theorem map_snd_located : ∀ v : View, v.located.map Prod.snd = v.preorder
  | ⟨_, _, children, _, _⟩ => by
    rw [located, preorder, List.map_cons, map_snd_locatedIn children]

theorem map_snd_locatedIn : ∀ views : List View, (locatedIn views).map Prod.snd = preorders views
  | [] => rfl
  | v :: rest => by
    rw [locatedIn, preorders, List.map_append, List.map_map, map_snd_locatedIn rest,
      ← map_snd_located v]
    rfl

end

/-- The view tells of the node what the dialect does, and its children tell where they stand. -/
structure Depicts (d : Dialect) (n : Node) (v : View) : Prop where
  type : v.type = n.kind.tag
  text : d.render n = .ok v.text ∨ v.text = "" ∧ ∃ fault, d.render n = .error fault
  degraded : v.degraded = true ↔
    (∃ fault, d.render n = .error fault) ∨ ∃ fault, d.members n = .error fault
  origins : v.children.map origin? = (d.offspring n).map some
  siblings : (v.children.map origin?).Nodup

/-- The views and the nodes in reach of the root correspond to one another. -/
structure Mirrors (d : Dialect) (n : Node) (v : View) : Prop where
  complete : v.located.map Prod.snd = v.preorder
  addresses : (v.located.map Prod.fst).Nodup
  reached : ∀ trail, trail ∈ v.located.map Prod.fst ↔ ∃ m, d.follow n trail = some m
  depicted : ∀ trail w, (trail, w) ∈ v.located → ∃ m, d.follow n trail = some m ∧ Depicts d m w

variable {d : Dialect} {n : Node}

theorem depicts_describe (usual : d.Usual) (declares : d.Declares) (apart : d.NamesApart n)
    {views : List View} (origins : views.map origin? = (d.offspring n).map some) :
    Depicts d n { (describe d n).view with children := views } where
  type := by simp only [describe, usual.tag, usual.marking]
  text := by
    cases rendered : d.render n with
    | ok text => simp [describe, usual.tag, usual.marking, rendered]
    | error fault => simp [describe, usual.tag, usual.marking, rendered]
  degraded := by
    cases rendered : d.render n <;> cases enumerated : d.members n <;>
      simp [describe, usual.tag, usual.marking, rendered, enumerated]
  origins := origins
  siblings := by
    rw [origins]
    refine (Dialect.nodup_offspring declares apart).map ?_
    rintro o p ⟨⟩
    rfl

/-- An origin changes nothing but the data of the root. -/
theorem Mirrors.tagged {v : View} (mirrors : Mirrors d n v) (field : String) (index : Option Nat) :
    Mirrors d n (v.tagged field index) := by
  have trails : (v.tagged field index).located.map Prod.fst = v.located.map Prod.fst := by
    rw [located_eq, located_eq v]
    rfl
  refine ⟨map_snd_located _, trails ▸ mirrors.addresses, trails ▸ mirrors.reached, ?_⟩
  intro trail w located
  rw [located_eq] at located
  rcases List.mem_cons.mp located with same | below
  · obtain ⟨rfl, rfl⟩ := Prod.mk.inj same
    obtain ⟨m, followed, depicts⟩ := mirrors.depicted [] v (located_eq v ▸ List.mem_cons_self)
    exact ⟨m, followed, depicts.type, depicts.text, depicts.degraded, depicts.origins,
      depicts.siblings⟩
  · exact mirrors.depicted trail w (located_eq v ▸ List.mem_cons_of_mem _ below)

/-- The view of a child, as it stands among those of its siblings. -/
def Placed (d : Dialect) (c : Child) (w : View) : Prop :=
  w.origin? = some c.origin ∧ Mirrors d c.node w

theorem map_origin?_of_placed {children : List Child} {views : List View}
    (placed : List.Forall₂ (Placed d) children views) :
    views.map origin? = (children.map Child.origin).map some := by
  induction placed with
  | nil => rfl
  | cons first _ ih => rw [List.map_cons, List.map_cons, List.map_cons, ih, first.1]

theorem mem_locatedIn {views : List View} {trail : List Origin} {w : View} :
    (trail, w) ∈ locatedIn views ↔
      ∃ v ∈ views, ∃ rest, (rest, w) ∈ v.located ∧ v.origin?.toList ++ rest = trail := by
  simp only [locatedIn_eq, List.mem_flatMap, List.mem_map, Prod.mk.injEq, Prod.exists]
  constructor
  · rintro ⟨v, member, rest, u, located, same, rfl⟩
    exact ⟨v, member, rest, located, same⟩
  · rintro ⟨v, member, rest, located, same⟩
    exact ⟨v, member, rest, w, located, same, rfl⟩

/-- What lies below is located in the view of a child, behind its origin. -/
theorem mem_locatedIn_of_placed {children : List Child} {views : List View}
    (placed : List.Forall₂ (Placed d) children views) {trail : List Origin} {w : View} :
    (trail, w) ∈ locatedIn views ↔
      ∃ c v rest, c ∈ children ∧ v ∈ views ∧ Placed d c v ∧ (rest, w) ∈ v.located ∧
        c.origin :: rest = trail := by
  rw [mem_locatedIn]
  constructor
  · rintro ⟨v, view, rest, located, rfl⟩
    obtain ⟨c, child, related⟩ := exists_left_of_forall₂ placed view
    refine ⟨c, v, rest, child, view, related, located, ?_⟩
    rw [related.1]
    rfl
  · rintro ⟨c, v, rest, child, view, related, located, rfl⟩
    refine ⟨v, view, rest, located, ?_⟩
    rw [related.1]
    rfl

theorem nodup_locatedIn {children : List Child} {views : List View}
    (placed : List.Forall₂ (Placed d) children views) (siblings : (views.map origin?).Nodup) :
    ((locatedIn views).map Prod.fst).Nodup := by
  have trails (v : View) : (v.located.map fun e => (v.origin?.toList ++ e.1, e.2)).map Prod.fst =
      (v.located.map Prod.fst).map (v.origin?.toList ++ ·) := by
    rw [List.map_map, List.map_map]
    rfl
  simp only [locatedIn_eq, List.map_flatMap, trails]
  refine List.nodup_flatMap.mpr ⟨?_, ?_⟩
  · intro v view
    obtain ⟨c, -, related⟩ := exists_left_of_forall₂ placed view
    exact related.2.addresses.map (List.append_right_injective _)
  · refine (List.pairwise_map.mp siblings).imp_of_mem ?_
    intro v w view view' differ trail first second
    obtain ⟨c, -, related⟩ := exists_left_of_forall₂ placed view
    obtain ⟨c', -, related'⟩ := exists_left_of_forall₂ placed view'
    rw [related.1, related'.1] at differ
    simp only [related.1, related'.1, Option.toList_some, List.mem_map] at first second
    obtain ⟨rest, -, rfl⟩ := first
    obtain ⟨rest', -, same⟩ := second
    exact differ (congrArg some (List.cons.inj same).1.symm)

/-- If the views of the children mirror them, the view of the node mirrors it. -/
theorem mirrors_of_placed (usual : d.Usual) (declares : d.Declares) (apart : d.NamesApart n)
    {views : List View} (placed : List.Forall₂ (Placed d) (d.children n) views) :
    Mirrors d n { (describe d n).view with children := views } := by
  have origins : views.map origin? = (d.offspring n).map some := by
    rw [map_origin?_of_placed placed, Dialect.map_origin_children usual]
  have depicts := depicts_describe usual declares apart origins
  refine ⟨map_snd_located _, ?_, ?_, ?_⟩
  · rw [located_eq, List.map_cons]
    refine List.nodup_cons.mpr ⟨?_, nodup_locatedIn placed depicts.siblings⟩
    intro root
    obtain ⟨⟨trail, w⟩, below, rfl⟩ := List.mem_map.mp root
    obtain ⟨c, v, rest, -, -, -, -, impossible⟩ := (mem_locatedIn_of_placed placed).mp below
    cases impossible
  · intro trail
    rw [located_eq, List.map_cons, List.mem_cons]
    cases trail with
    | nil => exact ⟨fun _ => ⟨n, rfl⟩, fun _ => .inl rfl⟩
    | cons o trail =>
      simp only [Dialect.follow_cons_eq_some_iff usual declares apart, reduceCtorEq, false_or]
      constructor
      · intro listed
        obtain ⟨⟨_, w⟩, below, rfl⟩ := List.mem_map.mp listed
        obtain ⟨c, v, rest, child, -, related, located, same⟩ :=
          (mem_locatedIn_of_placed placed).mp below
        obtain ⟨rfl, rfl⟩ := List.cons.inj same
        have reached := (related.2.reached rest).mp (List.mem_map_of_mem located)
        obtain ⟨m, followed⟩ := reached
        exact ⟨m, c, child, rfl, followed⟩
      · rintro ⟨m, c, child, rfl, followed⟩
        obtain ⟨v, view, related⟩ := exists_right_of_forall₂ placed child
        have listed := (related.2.reached trail).mpr ⟨m, followed⟩
        obtain ⟨⟨rest, w⟩, located, rfl⟩ := List.mem_map.mp listed
        have below := (mem_locatedIn_of_placed placed).mpr
          ⟨c, v, rest, child, view, related, located, rfl⟩
        exact List.mem_map_of_mem below
  · intro trail w located
    rw [located_eq] at located
    rcases List.mem_cons.mp located with same | below
    · obtain ⟨rfl, rfl⟩ := Prod.mk.inj same
      exact ⟨n, rfl, depicts⟩
    · obtain ⟨c, v, rest, child, -, related, within, rfl⟩ :=
        (mem_locatedIn_of_placed placed).mp below
      obtain ⟨m, followed, depicts⟩ := related.2.depicted rest w within
      exact ⟨m, (Dialect.follow_cons_eq_some_iff usual declares apart).mpr
        ⟨c, child, rfl, followed⟩, depicts⟩

/-- By induction on the levels: what holds of the views of the children holds of the view. -/
theorem mirrors_image (usual : d.Usual) (categories : d.categories = Dialect.Mysql.categories)
    (declares : d.Declares) {budget : Nat} {v : View} (apart : d.NamesApart n)
    (image : image d budget n = some v) : Mirrors d n v ∧ v.Unplaced := by
  induction budget generalizing n v with
  | zero => cases image
  | succ budget ih =>
    obtain ⟨-, views, images, rfl⟩ := exists_of_image image
    refine ⟨mirrors_of_placed usual declares apart ?_, unplaced_describe categories n⟩
    refine List.forall₂_iff_zip.mpr ⟨images.length_eq, ?_⟩
    intro c w paired
    obtain ⟨u, image, rfl⟩ := (List.forall₂_iff_zip.mp images).2 paired
    obtain ⟨mirrors, unplaced⟩ := ih (apart.child (List.of_mem_zip paired).1) image
    exact ⟨origin?_tagged unplaced c.field c.index, mirrors.tagged c.field c.index⟩

/-- A walk gives up exactly if a trail leads below the limit, and otherwise its view mirrors the
tree. -/
theorem normalize_mirrors (limit : Int) (p : Progress) (usual : d.Usual)
    (categories : d.categories = Dialect.Mysql.categories) (declares : d.Declares)
    (apart : d.NamesApart n) :
    ((∃ e, (normalize d limit n p).2 = .error e) ↔
        ∃ trail m, d.follow n trail = some m ∧ limit < trail.length + 1) ∧
      (∀ e, (normalize d limit n p).2 = .error e → e = .below limit) ∧
      ∀ v, (normalize d limit n p).2 = .ok v → Mirrors d n v ∧ v.Unplaced := by
  simp only [Dialect.follow_eq_some_iff usual declares apart, normalize_snd]
  refine ⟨?_, ?_, ?_⟩
  · have level (k : Nat) : limit < k + 1 ↔ limit.toNat ≤ k := by omega
    simp only [exists_outcome_eq_error_iff, usual.image_eq_none_iff, level]
  · intro e stops
    obtain ⟨q, meets⟩ := outcome_eq_error_iff.mp stops
    cases meets.rings with
    | below => rfl
    | defect reached fails =>
      rw [usual.steady.defect?] at fails
      cases fails
  · intro v ends
    exact mirrors_image usual categories declares apart (outcome_eq_ok_iff.mp ends)

/-- A list with a hole, a text and a list in it, and with a node that has no members to tell. -/
def holed : Node :=
  .loose .fieldList [("fields", .list [.empty, .node .commit, .text "x", .list [.node .rollback],
    .node (.bare .expression)])]

theorem namesApart_holed : Dialect.mysql.NamesApart holed := by
  intro trail kind members leads
  cases trail with
  | nil =>
    cases leads
    decide
  | cons o trail =>
    obtain ⟨c, child, -, leads⟩ := Dialect.leads_cons.mp leads
    have leaf : Dialect.mysql.children c.node = [] ∧ c.node ≠ .loose kind members := by
      rcases List.mem_cons.mp child with rfl | child
      · exact ⟨rfl, nofun⟩
      · cases List.mem_singleton.mp child
        exact ⟨rfl, nofun⟩
    cases trail with
    | nil => exact absurd leads.symm leaf.2
    | cons o trail =>
      obtain ⟨c', child', -⟩ := Dialect.leads_cons.mp leads
      rw [leaf.1] at child'
      cases child'

/-- With one level the walk gives up; with two it has a view, which mirrors the list. -/
theorem normalize_mirrors_holed :
    (Dialect.mysql.Usual ∧ Dialect.mysql.categories = Dialect.Mysql.categories ∧
        Dialect.mysql.Declares ∧ Dialect.mysql.NamesApart holed) ∧
      (normalize Dialect.mysql 1 holed ⟨.zero, []⟩).2 = .error (.tooDeep ⟨1⟩) ∧
      (∃ trail m, Dialect.mysql.follow holed trail = some m ∧ (1 : Int) < trail.length + 1) ∧
      ∃ v, (normalize Dialect.mysql 2 holed ⟨.zero, []⟩).2 = .ok v ∧
        Mirrors Dialect.mysql holed v ∧ v.Unplaced := by
  have stops : (normalize Dialect.mysql 1 holed ⟨.zero, []⟩).2 = .error (.tooDeep ⟨1⟩) := rfl
  obtain ⟨v, ends⟩ : ∃ v, (normalize Dialect.mysql 2 holed ⟨.zero, []⟩).2 = .ok v := ⟨_, rfl⟩
  have shallow := normalize_mirrors 1 ⟨.zero, []⟩ Dialect.usual_mysql rfl Dialect.mysql_declares
    namesApart_holed
  have deep := normalize_mirrors 2 ⟨.zero, []⟩ Dialect.usual_mysql rfl Dialect.mysql_declares
    namesApart_holed
  exact ⟨⟨Dialect.usual_mysql, rfl, Dialect.mysql_declares, namesApart_holed⟩, stops,
    shallow.1.mp ⟨_, stops⟩, v, ends, deep.2.2 v ends⟩

end View

end SqlSyntax
