import Mathlib.Data.List.Forall2
import SqlSyntax.View.Normalize

/-!
# Nodes in reach of a walk

A trail is a row of origins, each naming a member and, in a list, a place there. The nodes in reach
of a walk are those to which trails lead through the children that the walk finds. A walk has a view
to give exactly if none of them lies below its limit and the dialect fails at none of them. What a
walk counts and logs is left aside here: its outcome does not depend on it.
-/

namespace SqlSyntax

/-- Where a child stands in its parent. -/
structure Origin where
  field : String
  index : Option Nat
deriving DecidableEq, Repr

def Child.origin (c : Child) : Origin :=
  ⟨c.field, c.index⟩

namespace Dialect

/-- The children that a walk finds at a node. -/
def children (d : Dialect) (n : Node) : List Child :=
  (View.describe d n).children

/-- The failure that ends a walk behind the children of a node. -/
def defect? (d : Dialect) (n : Node) : Option Fault :=
  (View.describe d n).defect

/-- The trail leads from the one node to the other. -/
def Leads (d : Dialect) : Node → List Origin → Node → Prop
  | n, [], last => last = n
  | n, o :: trail, last => ∃ c ∈ d.children n, c.origin = o ∧ Leads d c.node trail last

variable {d : Dialect}

theorem leads_cons {n last : Node} {o : Origin} {trail : List Origin} :
    d.Leads n (o :: trail) last ↔ ∃ c ∈ d.children n, c.origin = o ∧ d.Leads c.node trail last :=
  Iff.rfl

/-- Some node in reach lies below the limit; the node itself is on the first level. -/
def Exceeds (d : Dialect) (limit : Int) (n : Node) : Prop :=
  ∃ trail last, d.Leads n trail last ∧ limit < trail.length + 1

end Dialect

/-! ### Dialects that never end a walk -/

/-- Every node can be tagged and marked, every value passes for a node or does not, and what is
absent never does. -/
structure Dialect.Steady (d : Dialect) : Prop where
  tag : ∀ n, ∃ tag, d.tag n = .ok tag
  marking : ∀ n, d.marking n = .ok ()
  node? : ∀ s, ∃ found, d.node? s = .ok found ∧ (s.isEmpty = true → found = none)

namespace Finding

variable {d : Dialect}

theorem upToFailure_snd_eq_none {findings : List Finding} (found : ∀ f ∈ findings, ∃ c, f = .ok c) :
    (upToFailure findings).2 = none := by
  induction findings with
  | nil => rfl
  | cons f rest ih =>
    obtain ⟨⟨c, rfl⟩, onward⟩ := List.forall_mem_cons.mp found
    exact ih onward

theorem exists_of_mem_ofMember (steady : d.Steady) {field : String} {s : Slot} {f : Finding}
    (member : f ∈ ofMember d field s) : ∃ c, f = .ok c := by
  obtain ⟨found, tells, absent⟩ := steady.node? s
  rw [ofMember, tells] at member
  cases found with
  | some n =>
    have there : s.isEmpty = false := by
      cases empty : s.isEmpty with
      | false => rfl
      | true => cases absent empty
    simp only [there, List.mem_singleton] at member
    exact ⟨_, member⟩
  | none =>
    obtain ⟨⟨item, i⟩, -, given⟩ := List.mem_filterMap.mp member
    obtain ⟨found, tells, -⟩ := steady.node? item
    simp only [ofItem?, tells] at given
    split at given
    · cases given
    · obtain ⟨n, -, rfl⟩ := Option.map_eq_some_iff.mp given
      exact ⟨_, rfl⟩

end Finding

theorem Dialect.Steady.defect? {d : Dialect} (steady : d.Steady) (n : Node) :
    d.defect? n = none := by
  obtain ⟨tag, tagged⟩ := steady.tag n
  unfold Dialect.defect? View.describe
  simp only [tagged, steady.marking]
  refine Finding.upToFailure_snd_eq_none ?_
  intro f member
  cases enumerated : d.members n with
  | error fault =>
    rw [enumerated] at member
    cases member
  | ok members =>
    rw [enumerated] at member
    obtain ⟨e, -, given⟩ := List.mem_flatMap.mp member
    exact Finding.exists_of_mem_ofMember steady given

/-! ### Dialects that tag nodes and tell them apart as MySQL does -/

namespace Member

/-- What a list or tuple holds; other members have no items. -/
def items (m : Member) : List Slot :=
  m.toSlot.items

/-- The node that a member holds, by itself or at a place of its list. -/
def node? (m : Member) : Option Nat → Option Node
  | none => m.toSlot.node?
  | some i => m.items[i]?.bind Slot.node?

end Member

namespace Child

/-- The child that a member holds by itself, or those among its items. -/
def ofMember (field : String) (m : Member) : List Child :=
  ((m.node? none).map (⟨field, none, ·⟩)).toList ++
    m.items.zipIdx.filterMap fun e => e.1.node?.map (⟨field, some e.2, ·⟩)

theorem mem_ofMember {field : String} {m : Member} {c : Child} :
    c ∈ ofMember field m ↔ c.field = field ∧ m.node? c.index = some c.node := by
  obtain ⟨f, index, n⟩ := c
  rw [ofMember, List.mem_append]
  cases index with
  | none =>
    simp only [Option.mem_toList, Option.map_eq_some_iff, List.mem_filterMap, mk.injEq]
    constructor
    · rintro (⟨m, held, rfl, -, rfl⟩ | ⟨e, -, m, -, -, impossible, -⟩)
      · exact ⟨rfl, held⟩
      · cases impossible
    · rintro ⟨rfl, held⟩
      exact .inl ⟨n, held, rfl, trivial, rfl⟩
  | some i =>
    simp only [Option.mem_toList, Option.map_eq_some_iff, List.mem_filterMap, mk.injEq,
      Member.node?, Option.bind_eq_some_iff]
    constructor
    · rintro (⟨m, -, -, impossible, -⟩ | ⟨⟨s, j⟩, member, m, held, rfl, same, rfl⟩)
      · cases impossible
      · cases same
        exact ⟨rfl, s, List.mem_zipIdx_iff_getElem?.mp member, held⟩
    · rintro ⟨rfl, s, there, held⟩
      exact .inr ⟨(s, i), List.mem_zipIdx_iff_getElem?.mpr there, n, held, rfl, rfl, rfl⟩

end Child

namespace Dialect

/-- A node is tagged by its kind and can always be marked, and what is a node passes for one. -/
structure Usual (d : Dialect) : Prop where
  tag : ∀ n, d.tag n = .ok n.kind.tag
  node? : ∀ s, d.node? s = .ok s.node?
  marking : ∀ n, d.marking n = .ok ()

theorem Usual.steady {d : Dialect} (usual : d.Usual) : d.Steady where
  tag n := ⟨_, usual.tag n⟩
  marking := usual.marking
  node? s := by
    refine ⟨_, usual.node? s, ?_⟩
    intro absent
    cases s with
    | plain l => rfl
    | _ => cases absent

end Dialect

namespace Finding

variable {d : Dialect}

theorem upToFailure_map_ok (children : List Child) :
    upToFailure (children.map .ok) = (children, none) := by
  induction children with
  | nil => rfl
  | cons c rest ih => rw [List.map_cons, upToFailure, ih]

theorem ofItem?_of_usual (usual : d.Usual) (field : String) (s : Slot) (i : Nat) :
    ofItem? d field s i = s.node?.map fun n => .ok ⟨field, some i, n⟩ := by
  rw [ofItem?, usual.node?]
  split
  · rename_i absent
    cases s with
    | plain l => rfl
    | _ => cases absent
  · rfl

theorem ofMember_of_usual (usual : d.Usual) (field : String) (m : Member) :
    ofMember d field m.toSlot = (Child.ofMember field m).map .ok := by
  simp only [ofMember, usual.node?, ofItem?_of_usual usual, Child.ofMember, Member.items,
    Member.node?, List.map_append, List.map_filterMap]
  cases m.toSlot with
  | node n => rfl
  | _ => simp [Slot.node?, Option.map_map, Function.comp_def]

theorem ofMembers_of_usual (usual : d.Usual) (members : List (String × Member)) :
    ofMembers d members = (members.flatMap fun e => Child.ofMember e.1 e.2).map .ok := by
  simp only [ofMembers, ofMember_of_usual usual, List.map_flatMap]

end Finding

namespace Dialect

variable {d : Dialect}

/-- The children of a node are those that its members hold. -/
theorem Usual.children_eq (usual : d.Usual) (n : Node) :
    d.children n = (match d.members n with
      | .ok members => members.flatMap fun e => Child.ofMember e.1 e.2
      | .error _ => []) := by
  unfold children View.describe
  simp only [usual.tag, usual.marking]
  cases d.members n with
  | error fault => rfl
  | ok members => simp only [Finding.ofMembers_of_usual usual, Finding.upToFailure_map_ok]

theorem Usual.mem_children (usual : d.Usual) {n : Node} {c : Child} :
    c ∈ d.children n ↔
      ∃ members m, d.members n = .ok members ∧ (c.field, m) ∈ members ∧
        m.node? c.index = some c.node := by
  rw [usual.children_eq]
  cases d.members n with
  | error fault => simp
  | ok members =>
    simp only [List.mem_flatMap, Except.ok.injEq]
    constructor
    · rintro ⟨⟨field, m⟩, member, held⟩
      obtain ⟨rfl, held⟩ := Child.mem_ofMember.mp held
      exact ⟨members, m, rfl, member, held⟩
    · rintro ⟨_, m, rfl, member, held⟩
      exact ⟨(c.field, m), member, Child.mem_ofMember.mpr ⟨rfl, held⟩⟩

end Dialect

/-! ### Rows of optional values -/

section mapM

variable {α β γ : Type} {f : α → Option β}

theorem mapM_eq_some_iff {as : List α} {bs : List β} :
    as.mapM f = some bs ↔ List.Forall₂ (fun a b => f a = some b) as bs := by
  induction as generalizing bs with
  | nil => simp [eq_comm]
  | cons a as ih =>
    rw [List.mapM_cons, List.forall₂_cons_left_iff]
    simp only [Option.bind_eq_bind, Option.bind_eq_some_iff, ih, Option.pure_def, Option.some.injEq]
    constructor
    · rintro ⟨b, first, bs, rest, rfl⟩
      exact ⟨b, bs, first, rest, rfl⟩
    · rintro ⟨b, bs, first, rest, rfl⟩
      exact ⟨b, first, bs, rest, rfl⟩

theorem mapM_eq_none_iff {as : List α} : as.mapM f = none ↔ ∃ a ∈ as, f a = none := by
  induction as with
  | nil => simp
  | cons a as ih =>
    rw [List.mapM_cons]
    cases first : f a with
    | none => simp [first]
    | some b => cases rest : as.mapM f <;> simp_all

theorem mapM_map (h : α → β → γ) (as : List α) :
    (as.mapM fun a => (f a).map (h a)) = (as.mapM f).map (List.zipWith h as) := by
  induction as with
  | nil => rfl
  | cons a as ih =>
    rw [List.mapM_cons, List.mapM_cons, ih]
    cases f a with
    | none => rfl
    | some b => cases as.mapM f <;> rfl

theorem toOption_mapM {ε : Type} {g : α → Except ε β} (as : List α) :
    (as.mapM g).toOption = as.mapM fun a => (g a).toOption := by
  induction as with
  | nil => rfl
  | cons a as ih =>
    rw [List.mapM_cons, List.mapM_cons, ← ih]
    cases g a with
    | error e => rfl
    | ok b => cases as.mapM g <;> rfl

/-- A row of walks whose outcomes are known beforehand. -/
theorem Walk.each_snd {g : α → Walk β} {h : α → Except Walk.Stop β} (as : List α)
    (known : ∀ a p, (g a p).2 = h a) (p : Progress) : (Walk.each g as p).2 = as.mapM h := by
  induction as generalizing p with
  | nil => rfl
  | cons a as ih =>
    have first := known a p
    rw [List.mapM_cons, Walk.each, ← first]
    rcases walked : g a p with ⟨q, _ | b⟩
    · rfl
    · have rest := ih q
      rw [← rest]
      rcases onward : Walk.each g as q with ⟨r, _ | bs⟩ <;> simp only [onward] <;> rfl

end mapM

/-- What each of a row of walks keeps, the row keeps, and what holds of their results, holds of
all. -/
theorem Walk.each_keeps {α β : Type} {f : α → Walk β} {I : Progress → Prop} {Q : β → Prop}
    {as : List α} (step : ∀ a ∈ as, ∀ p, I p → I (f a p).1 ∧ ∀ b, (f a p).2 = .ok b → Q b)
    {p : Progress} (start : I p) :
    I (Walk.each f as p).1 ∧ ∀ bs, (Walk.each f as p).2 = .ok bs → ∀ b ∈ bs, Q b := by
  induction as generalizing p with
  | nil =>
    refine ⟨start, ?_⟩
    rintro bs ⟨⟩ b member
    cases member
  | cons a as ih =>
    have first := step a List.mem_cons_self p start
    rw [Walk.each]
    rcases walked : f a p with ⟨q, _ | b⟩
    · rw [walked] at first
      refine ⟨first.1, ?_⟩
      rintro bs ⟨⟩
    · rw [walked] at first
      have rest := ih (fun a member => step a (List.mem_cons_of_mem _ member)) first.1
      dsimp only
      rcases onward : Walk.each f as q with ⟨r, _ | bs⟩
      · rw [onward] at rest
        refine ⟨rest.1, ?_⟩
        rintro bs ⟨⟩
      · rw [onward] at rest
        refine ⟨rest.1, ?_⟩
        rintro bs' ⟨⟩
        exact List.forall_mem_cons.mpr ⟨first.2 b rfl, rest.2 bs rfl⟩

section Forall₂

variable {α β : Type} {r : α → β → Prop} {as : List α} {bs : List β}

theorem exists_left_of_forall₂ (related : List.Forall₂ r as bs) {b : β} (member : b ∈ bs) :
    ∃ a ∈ as, r a b := by
  induction related with
  | nil => cases member
  | cons first _ ih =>
    rcases List.mem_cons.mp member with rfl | member
    · exact ⟨_, List.mem_cons_self, first⟩
    · obtain ⟨a, held, related⟩ := ih member
      exact ⟨a, List.mem_cons_of_mem _ held, related⟩

theorem exists_right_of_forall₂ (related : List.Forall₂ r as bs) {a : α} (member : a ∈ as) :
    ∃ b ∈ bs, r a b :=
  exists_left_of_forall₂ related.flip member

end Forall₂

/-! ### The outcome of a walk -/

namespace View

/-- How a walk with so many levels left ends. -/
def outcome (d : Dialect) (limit : Int) : Nat → Node → Except Walk.Stop View
  | 0, _ => .error (.below limit)
  | budget + 1, n =>
    match (d.children n).mapM fun c => outcome d limit budget c.node with
    | .error e => .error e
    | .ok views =>
      match d.defect? n with
      | some fault => .error (.crashed fault)
      | none =>
        .ok { (describe d n).view with
          children := List.zipWith (fun c v => v.tagged c.field c.index) (d.children n) views }

/-- The view of a node with so many levels, unless it has more or the dialect fails. -/
def image (d : Dialect) : Nat → Node → Option View
  | 0, _ => none
  | budget + 1, n =>
    match d.defect? n with
    | some _ => none
    | none =>
      ((d.children n).mapM fun c => (image d budget c.node).map (·.tagged c.field c.index)).map
        fun views => { (describe d n).view with children := views }

variable {d : Dialect}

/-- The outcome does not depend on where a walk starts and what it has counted before. -/
theorem ofNode_snd (limit : Int) (budget level : Nat) (n : Node) (p : Progress) :
    (ofNode d limit budget level n p).2 = outcome d limit budget n := by
  induction budget generalizing level n p with
  | zero => rfl
  | succ budget ih =>
    have walked := Walk.each_snd (d.children n) (fun (c : Child) r => ih (level + 1) c.node r)
      (Walk.say (describe d n).log (Walk.count (·.enter level) p))
    rw [ofNode, outcome, ← walked, Dialect.defect?, Dialect.children]
    dsimp only
    rcases Walk.each (fun c : Child => ofNode d limit budget (level + 1) c.node)
      (describe d n).children (Walk.say (describe d n).log (Walk.count (·.enter level) p)) with
      ⟨q, _ | views⟩
    · rfl
    · cases (describe d n).defect <;> rfl

theorem toOption_outcome (limit : Int) (budget : Nat) (n : Node) :
    (outcome d limit budget n).toOption = image d budget n := by
  induction budget generalizing n with
  | zero => rfl
  | succ budget ih =>
    have images := toOption_mapM (g := fun c : Child => outcome d limit budget c.node)
      (d.children n)
    simp only [ih] at images
    rw [outcome, image, mapM_map fun (c : Child) (v : View) => v.tagged c.field c.index, ← images]
    cases (d.children n).mapM fun c => outcome d limit budget c.node with
    | error e => cases d.defect? n <;> rfl
    | ok views => cases d.defect? n <;> rfl

theorem outcome_eq_ok_iff {limit : Int} {budget : Nat} {n : Node} {v : View} :
    outcome d limit budget n = .ok v ↔ image d budget n = some v := by
  rw [← toOption_outcome limit]
  cases outcome d limit budget n <;> simp [Except.toOption]

theorem exists_outcome_eq_error_iff {limit : Int} {budget : Nat} {n : Node} :
    (∃ e, outcome d limit budget n = .error e) ↔ image d budget n = none := by
  rw [← toOption_outcome limit]
  cases outcome d limit budget n <;> simp [Except.toOption]

theorem mapM_outcome_eq_ok_iff {limit : Int} {budget : Nat} {nodes : List Node}
    {views : List View} :
    nodes.mapM (outcome d limit budget) = .ok views ↔ nodes.mapM (image d budget) = some views := by
  have images := toOption_mapM (g := outcome d limit budget) nodes
  simp only [toOption_outcome] at images
  rw [← images]
  cases nodes.mapM (outcome d limit budget) <;> simp [Except.toOption]

theorem ofNode_eq_ok_iff {limit : Int} {budget level : Nat} {n : Node} {p : Progress} {v : View} :
    (ofNode d limit budget level n p).2 = .ok v ↔ image d budget n = some v := by
  rw [ofNode_snd, outcome_eq_ok_iff]

theorem normalize_snd (limit : Int) (n : Node) (p : Progress) :
    (normalize d limit n p).2 = outcome d limit limit.toNat n :=
  ofNode_snd limit limit.toNat 1 n p

theorem normalize_eq_ok_iff {limit : Int} {n : Node} {p : Progress} {v : View} :
    (normalize d limit n p).2 = .ok v ↔ image d limit.toNat n = some v :=
  ofNode_eq_ok_iff

/-- A view is that of its node, and its children are the images of its children. -/
theorem exists_of_image {budget : Nat} {n : Node} {v : View}
    (image : image d (budget + 1) n = some v) :
    d.defect? n = none ∧
      ∃ views, List.Forall₂ (fun c w => ∃ u, View.image d budget c.node = some u ∧
          u.tagged c.field c.index = w) (d.children n) views ∧
        { (describe d n).view with children := views } = v := by
  rw [View.image] at image
  split at image
  · cases image
  · rename_i sound
    simp only [Option.map_eq_some_iff, mapM_eq_some_iff] at image
    exact ⟨sound, image⟩

/-- There is no image exactly if some trail is too long for it, or the dialect fails at the end of
one that is not. -/
theorem image_eq_none_iff {budget : Nat} {n : Node} :
    image d budget n = none ↔ ∃ trail last, d.Leads n trail last ∧
      (budget ≤ trail.length ∨ trail.length < budget ∧ (d.defect? last).isSome) := by
  induction budget generalizing n with
  | zero => exact ⟨fun _ => ⟨[], n, rfl, .inl (Nat.zero_le _)⟩, fun _ => rfl⟩
  | succ budget ih =>
    rw [image]
    split
    · rename_i fault fails
      refine ⟨fun _ => ⟨[], n, rfl, .inr ⟨Nat.succ_pos _, by rw [fails]; rfl⟩⟩, fun _ => rfl⟩
    · rename_i sound
      simp only [Option.map_eq_none_iff, mapM_eq_none_iff, ih]
      constructor
      · rintro ⟨c, member, trail, last, leads, stops⟩
        refine ⟨c.origin :: trail, last, ⟨c, member, rfl, leads⟩, ?_⟩
        rw [List.length_cons]
        exact stops.imp Nat.succ_le_succ (.imp_left Nat.succ_lt_succ)
      · rintro ⟨trail, last, leads, stops⟩
        cases trail with
        | nil =>
          obtain rfl : last = n := leads
          rw [sound] at stops
          rcases stops with long | ⟨-, fails⟩
          · cases long
          · cases fails
        | cons o trail =>
          obtain ⟨c, member, -, leads⟩ := leads
          rw [List.length_cons] at stops
          exact ⟨c, member, trail, last, leads,
            stops.imp Nat.le_of_succ_le_succ (.imp_left Nat.lt_of_succ_lt_succ)⟩

/-- A tree that has a view has no node below the limit. -/
theorem not_exceeds_of_image {limit : Int} {n : Node} {v : View}
    (image : image d limit.toNat n = some v) : ¬ d.Exceeds limit n := by
  rintro ⟨trail, last, leads, long⟩
  have none : View.image d limit.toNat n = none :=
    image_eq_none_iff.mpr ⟨trail, last, leads, .inl (by omega)⟩
  rw [image] at none
  cases none

end View

namespace Dialect

/-- A walk with a usual dialect gives up exactly if a node in reach lies below the limit. -/
theorem Usual.image_eq_none_iff {d : Dialect} (usual : d.Usual) {budget : Nat} {n : Node} :
    View.image d budget n = none ↔ ∃ trail last, d.Leads n trail last ∧ budget ≤ trail.length := by
  simp [View.image_eq_none_iff, usual.steady.defect?]

end Dialect

end SqlSyntax
