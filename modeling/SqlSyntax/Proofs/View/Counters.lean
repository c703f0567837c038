import SqlSyntax.Dialect.Mysql
import SqlSyntax.Proofs.View.Paths
import SqlSyntax.View.Measure

/-!
# What a walk counts

A node and its level are counted when a walk meets the node, a degradation only when the walk has
been to everything below it. So a walk that comes to its end counts its views, and one that gives up
has counted every node it met, but of the degraded ones only those that are not above the node at
which it gave up. What it has logged is left aside.
-/

namespace SqlSyntax

namespace Dialect

/-- The dialect cannot render the node, or cannot enumerate its members. -/
def Falters (d : Dialect) (n : Node) : Prop :=
  (∃ fault, d.render n = .error fault) ∨ ∃ fault, d.members n = .error fault

instance (d : Dialect) (n : Node) : Decidable (d.Falters n) :=
  match rendered : d.render n, enumerated : d.members n with
  | .error fault, _ => isTrue (.inl ⟨fault, rendered⟩)
  | .ok _, .error fault => isTrue (.inr ⟨fault, enumerated⟩)
  | .ok _, .ok _ => isFalse (by simp [Falters, rendered, enumerated])

end Dialect

namespace Tally

/-- The counters after so many nodes on so many levels below level `above`. -/
def after (t : Tally) (above nodes levels degraded : Nat) : Tally :=
  ⟨t.nodes + nodes, max t.deepest (above + levels), t.degraded + degraded⟩

variable (t : Tally) (above nodes levels degraded : Nat)

theorem after_zero (entered : above ≤ t.deepest) : t.after above 0 0 0 = t := by
  rw [after, Nat.add_zero, Nat.add_zero, Nat.add_zero, Nat.max_eq_left entered]

theorem after_after (nodes' levels' degraded' : Nat) :
    (t.after above nodes levels degraded).after above nodes' levels' degraded' =
      t.after above (nodes + nodes') (max levels levels') (degraded + degraded') := by
  simp only [after, mk.injEq]
  omega

theorem enter_after :
    (t.enter (above + 1)).after (above + 1) nodes levels degraded =
      t.after above (nodes + 1) (levels + 1) degraded := by
  simp only [after, enter, mk.injEq]
  refine ⟨?_, ?_, trivial⟩ <;> omega

theorem degrade_after :
    (t.after above nodes levels degraded).degrade = t.after above nodes levels (degraded + 1) := rfl

theorem le_deepest_after : above ≤ (t.after above nodes levels degraded).deepest := by
  simp only [after]
  omega

end Tally

namespace View

variable {d : Dialect} {limit : Int} {budget above : Nat} {n : Node} {p : Progress}

/-! ### Measures of views -/

/-- An origin is told by the data alone, which nothing measures. -/
theorem measures_tagged (v : View) (field : String) (index : Option Nat) :
    (v.tagged field index).size = v.size ∧ (v.tagged field index).height = v.height ∧
      (v.tagged field index).degradations = v.degradations := by
  cases v
  simp only [tagged, withOrigin, size, height, degradations, and_self]

mutual

theorem length_preorder : ∀ v : View, v.preorder.length = v.size
  | ⟨_, _, children, _, _⟩ => by
    rw [preorder, size, List.length_cons, length_preorders children]

theorem length_preorders : ∀ views : List View, (preorders views).length = sizes views
  | [] => rfl
  | v :: rest => by
    rw [preorders, sizes, List.length_append, length_preorder v, length_preorders rest]

end

mutual

theorem countP_preorder : ∀ v : View, v.preorder.countP (·.degraded) = v.degradations
  | ⟨_, _, children, _, degraded⟩ => by
    rw [preorder, degradations, List.countP_cons, countP_preorders children]

theorem countP_preorders :
    ∀ views : List View, (preorders views).countP (·.degraded) = degradationsOf views
  | [] => rfl
  | v :: rest => by
    rw [preorders, degradationsOf, List.countP_append, countP_preorder v, countP_preorders rest]

end

theorem preorders_append (views others : List View) :
    preorders (views ++ others) = preorders views ++ preorders others := by
  induction views with
  | nil => rfl
  | cons v rest ih => rw [List.cons_append, preorders, preorders, ih, List.append_assoc]

theorem tallest_append (views others : List View) :
    tallest (views ++ others) = max (tallest views) (tallest others) := by
  induction views with
  | nil => exact (Nat.zero_max _).symm
  | cons v rest ih => rw [List.cons_append, tallest, tallest, ih, Nat.max_assoc]

/-! ### One step of a walk -/

theorem degraded_describe {n : Node} (sound : d.defect? n = none) :
    (describe d n).view.degraded = decide (d.Falters n) := by
  unfold Dialect.defect? at sound
  unfold describe at sound ⊢
  cases tagged : d.tag n with
  | error fault => simp [tagged] at sound
  | ok tag =>
    cases marked : d.marking n with
    | error fault => simp [tagged, marked] at sound
    | ok _ =>
      cases rendered : d.render n <;> cases enumerated : d.members n <;>
        simp [Dialect.Falters, rendered, enumerated]

/-- A walk that has met a node on that level. -/
def entered (d : Dialect) (level : Nat) (n : Node) (p : Progress) : Progress :=
  Walk.say (describe d n).log (Walk.count (·.enter level) p)

theorem tally_entered (level : Nat) : (entered d level n p).tally = p.tally.enter level := rfl

/-- The walk to the children of a node on that level. -/
def eachChild (d : Dialect) (limit : Int) (budget level : Nat) (n : Node) : Walk (List View) :=
  Walk.each (fun c => ofNode d limit budget (level + 1) c.node) (d.children n)

/-- What a walk does at a node: it enters the node, goes to the children in turn and, if nothing
stops it, leaves the node. -/
theorem ofNode_succ (level : Nat) :
    ofNode d limit (budget + 1) level n p =
      match eachChild d limit budget level n (entered d level n p) with
      | (q, .error e) => (q, .error e)
      | (q, .ok views) =>
        match d.defect? n with
        | some fault => (q, .error (.crashed fault))
        | none =>
          (if d.Falters n then Walk.count Tally.degrade q else q,
            .ok { (describe d n).view with
              children :=
                List.zipWith (fun c v => v.tagged c.field c.index) (d.children n) views }) := by
  have falters := degraded_describe (d := d) (n := n)
  rw [ofNode, eachChild, entered, Dialect.children]
  rcases Walk.each (fun c : Child => ofNode d limit budget (level + 1) c.node)
    (describe d n).children
    (Walk.say (describe d n).log (Walk.count (·.enter level) p)) with ⟨q, outcome⟩
  cases outcome with
  | error e => rfl
  | ok views =>
    unfold Dialect.defect? at falters ⊢
    cases defect : (describe d n).defect with
    | some fault => rfl
    | none => by_cases failing : d.Falters n <;> simp [falters defect, failing]

theorem tally_of_ok {level : Nat} {v : View}
    (ends : (ofNode d limit (budget + 1) level n p).2 = .ok v) :
    (ofNode d limit (budget + 1) level n p).1.tally =
      let left := (eachChild d limit budget level n (entered d level n p)).1.tally
      if d.Falters n then left.degrade else left := by
  rw [ofNode_succ] at ends ⊢
  rcases each : eachChild d limit budget level n (entered d level n p) with ⟨q, outcome⟩
  rw [each] at ends
  cases outcome with
  | error e => cases ends
  | ok views =>
    cases defect : d.defect? n with
    | some fault => simp [defect] at ends
    | none => by_cases failing : d.Falters n <;> simp [failing, Walk.count]

theorem tally_of_error {level : Nat} {e : Walk.Stop}
    (stops : (ofNode d limit (budget + 1) level n p).2 = .error e) :
    (ofNode d limit (budget + 1) level n p).1.tally =
      (eachChild d limit budget level n (entered d level n p)).1.tally := by
  rw [ofNode_succ] at stops ⊢
  rcases each : eachChild d limit budget level n (entered d level n p) with ⟨q, outcome⟩
  rw [each] at stops
  cases outcome with
  | error e => rfl
  | ok views =>
    cases defect : d.defect? n with
    | some fault => rfl
    | none => simp [defect] at stops

/-! ### A walk that comes to its end -/

/-- The views of the children, in the order in which a walk makes them. -/
def Images (d : Dialect) (budget : Nat) (children : List Child) (views : List View) : Prop :=
  List.Forall₂ (fun c w => ∃ u, image d budget c.node = some u ∧ u.tagged c.field c.index = w)
    children views

/-- One child after the other, if every single walk counts its view. -/
theorem each_after {level : Nat}
    (counts : ∀ {n v} (p : Progress), image d budget n = some v →
      (ofNode d limit budget level n p).1.tally =
        p.tally.after above v.size v.height v.degradations)
    {children : List Child} {views : List View} (images : Images d budget children views)
    (p : Progress) (entered : above ≤ p.tally.deepest) :
    (Walk.each (fun c => ofNode d limit budget level c.node) children p).1.tally =
      p.tally.after above (sizes views) (tallest views) (degradationsOf views) := by
  induction images generalizing p with
  | nil => exact (Tally.after_zero _ _ entered).symm
  | @cons c w children views first _ ih =>
    obtain ⟨u, image, rfl⟩ := first
    have counted := counts p image
    have outcome : (ofNode d limit budget level c.node p).2 = .ok u := ofNode_eq_ok_iff.mpr image
    rcases walked : ofNode d limit budget level c.node p with ⟨q, result⟩
    rw [walked] at counted outcome
    obtain rfl : result = .ok u := outcome
    dsimp only at counted
    have onward := ih q (counted ▸ Tally.le_deepest_after _ _ _ _ _)
    obtain ⟨size, height, degradations⟩ := measures_tagged u c.field c.index
    rw [Walk.each, walked]
    dsimp only
    rcases each : Walk.each (fun c : Child => ofNode d limit budget level c.node) children q with
      ⟨r, results⟩
    rw [each, counted, Tally.after_after] at onward
    rw [sizes, tallest, degradationsOf, size, height, degradations, ← onward]
    cases results <;> rfl

theorem ofNode_after {v : View} (image : image d budget n = some v) :
    (ofNode d limit budget (above + 1) n p).1.tally =
      p.tally.after above v.size v.height v.degradations := by
  induction budget generalizing above n v p with
  | zero => cases image
  | succ budget ih =>
    have ends : (ofNode d limit (budget + 1) (above + 1) n p).2 = .ok v :=
      ofNode_eq_ok_iff.mpr image
    obtain ⟨sound, views, images, rfl⟩ := exists_of_image image
    have met : above + 1 ≤ (entered d (above + 1) n p).tally.deepest := by
      simp only [tally_entered, Tally.enter]
      omega
    have counted : (eachChild d limit budget (above + 1) n (entered d (above + 1) n p)).1.tally =
        p.tally.after above (sizes views + 1) (tallest views + 1) (degradationsOf views) := by
      rw [eachChild, each_after (fun _ => ih) images _ met,
        tally_entered, Tally.enter_after]
    rw [tally_of_ok ends, counted, size, height, degradations, degraded_describe sound]
    by_cases failing : d.Falters n
    · simp [failing, Tally.degrade_after]
    · simp [failing]

end View

/-! ### A walk that gives up -/

namespace Dialect

/-- How many nodes of the row falter that are not above the end of the path. -/
def faltering (d : Dialect) (q : Path) (row : List (Path × Node)) : Nat :=
  row.countP fun e => d.Falters e.2 ∧ ¬ e.1 <+: q

variable {d : Dialect} {levels : Nat} {n : Node}

theorem faltering_append (q : Path) (first rest : List (Path × Node)) :
    d.faltering q (first ++ rest) = d.faltering q first + d.faltering q rest :=
  List.countP_append

theorem faltering_root (q : Path) (row : List (Path × Node)) :
    d.faltering q (([], n) :: row) = d.faltering q row := by
  simp [faltering]

/-- The path goes on below that child. -/
theorem faltering_within (i : Nat) (q : Path) (row : List (Path × Node)) :
    d.faltering (i :: q) (inChild i row) = d.faltering q row := by
  simp [faltering, inChild, List.countP_map, Function.comp_def, List.cons_prefix_cons]

/-- The path goes on below another child. -/
theorem faltering_beside {i k : Nat} (other : i ≠ k) (q : Path) (row : List (Path × Node)) :
    d.faltering (k :: q) (inChild i row) = row.countP fun e => d.Falters e.2 := by
  simp [faltering, inChild, List.countP_map, Function.comp_def, List.cons_prefix_cons, other]

end Dialect

namespace View

variable {d : Dialect} {limit : Int} {budget above : Nat} {n : Node}

/-- A tree that has a view has no nodes on the level below. -/
theorem shallow_row {v : View} (image : image d budget n = some v) :
    ∀ e ∈ d.row budget n, e.1.length < budget := by
  rintro ⟨q, m⟩ held
  obtain ⟨there, short⟩ := Dialect.mem_row.mp held
  by_cases deep : q.length = budget
  · obtain ⟨trail, leads, length⟩ := Dialect.exists_leads_of_nodeAt? there
    have none : View.image d budget n = none :=
      image_eq_none_iff.mpr ⟨trail, m, leads, .inl (by omega)⟩
    rw [image] at none
    cases none
  · exact Nat.lt_of_le_of_ne short deep

theorem height_le {v : View} (image : image d budget n = some v) : v.height ≤ budget := by
  induction budget generalizing n v with
  | zero => cases image
  | succ budget ih =>
    obtain ⟨-, views, images, rfl⟩ := exists_of_image image
    rw [height]
    refine Nat.succ_le_succ ?_
    clear image
    generalize d.children n = children at images
    induction images with
    | nil => exact Nat.zero_le _
    | cons first _ tall =>
      obtain ⟨u, image, rfl⟩ := first
      rw [tallest, (measures_tagged u _ _).2.1]
      exact Nat.max_le.mpr ⟨ih image, tall⟩

theorem measures_rowsBelow
    (measures : ∀ {n v}, image d budget n = some v → (d.row budget n).length = v.size ∧
      ((d.row budget n).countP fun e => d.Falters e.2) = v.degradations)
    {children : List Child} {views : List View} (images : Images d budget children views)
    (i : Nat) :
    (Dialect.rowsBelow (d.row budget) i children).length = sizes views ∧
      ((Dialect.rowsBelow (d.row budget) i children).countP fun e => d.Falters e.2) =
        degradationsOf views := by
  induction images generalizing i with
  | nil => exact ⟨rfl, rfl⟩
  | cons first _ ih =>
    obtain ⟨u, image, rfl⟩ := first
    obtain ⟨length, counted⟩ := measures image
    obtain ⟨lengths, counts⟩ := ih (i + 1)
    obtain ⟨size, -, degradations⟩ := measures_tagged u _ _
    rw [Dialect.rowsBelow, sizes, degradationsOf, size, degradations, ← length, ← counted,
      ← lengths, ← counts]
    simp [Dialect.inChild, List.countP_map, Function.comp_def]

/-- The views of a tree are as many as its nodes, and as many are degraded as falter. -/
theorem measures_row {v : View} (image : image d budget n = some v) :
    (d.row budget n).length = v.size ∧
      ((d.row budget n).countP fun e => d.Falters e.2) = v.degradations := by
  induction budget generalizing n v with
  | zero => cases image
  | succ budget ih =>
    obtain ⟨sound, views, images, rfl⟩ := exists_of_image image
    obtain ⟨length, counted⟩ := measures_rowsBelow ih images 0
    rw [Dialect.row, size, degradations, degraded_describe sound, List.length_cons,
      List.countP_cons, length, counted]
    exact ⟨rfl, rfl⟩

/-- A child that has a view stands before the cut as a whole, and no node of it is above the end of
the path. -/
theorem cut_beyond {u : View} (image : image d budget n = some u) {i : Nat} {rest : List Child}
    {q : Path} {met : List (Path × Node)}
    (cut : Dialect.Cut (budget + 1) (Dialect.rowsBelow (d.row budget) (i + 1) rest) q met) :
    ∃ first, Dialect.Cut (budget + 1)
        (Dialect.inChild i (d.row budget n) ++ Dialect.rowsBelow (d.row budget) (i + 1) rest) q
        (first ++ met) ∧
      first.length = u.size ∧ d.faltering q first = u.degradations := by
  obtain ⟨length, falters⟩ := measures_row image
  obtain ⟨m, later, split⟩ := cut.split
  obtain ⟨k, c, q, -, -, rfl⟩ := Dialect.mem_rowsBelow.mp
    (split ▸ List.mem_append_right met List.mem_cons_self)
  refine ⟨_, cut.beyond (Dialect.shallow_inChild (shallow_row image) i), ?_, ?_⟩
  · rw [Dialect.inChild, List.length_map, length]
  · rw [Dialect.faltering_beside (by omega), falters]

/-- One child after the other, up to the first that is too deep. -/
theorem each_stops {level : Nat} {e : TooDeep}
    (stops : ∀ {n} (p : Progress), above ≤ p.tally.deepest →
      outcome d limit budget n = .error (.tooDeep e) →
      ∃ q met, Dialect.Cut budget (d.row budget n) q met ∧
        (ofNode d limit budget level n p).1.tally =
          p.tally.after above met.length budget (d.faltering q met))
    (counts : ∀ {n v} (p : Progress), image d budget n = some v →
      (ofNode d limit budget level n p).1.tally =
        p.tally.after above v.size v.height v.degradations)
    {children : List Child}
    (deep : (children.mapM fun c => outcome d limit budget c.node) = .error (.tooDeep e)) (i : Nat)
    (p : Progress) (entered : above ≤ p.tally.deepest) :
    ∃ q met, Dialect.Cut (budget + 1) (Dialect.rowsBelow (d.row budget) i children) q met ∧
      (Walk.each (fun c => ofNode d limit budget level c.node) children p).1.tally =
        p.tally.after above met.length budget (d.faltering q met) := by
  induction children generalizing i p with
  | nil => cases deep
  | cons c rest ih =>
    have result := ofNode_snd (d := d) limit budget level c.node p
    rcases walked : ofNode d limit budget level c.node p with ⟨r, outcome⟩
    rw [walked] at result
    obtain rfl : outcome = View.outcome d limit budget c.node := result
    rw [Walk.each, walked]
    rw [List.mapM_cons] at deep
    -- A child without a view stops the walk; one with a view is counted whole and left behind.
    cases seen : View.outcome d limit budget c.node with
    | error stop =>
      rw [seen] at deep
      obtain rfl : stop = .tooDeep e := Except.error.inj deep
      obtain ⟨q, met, cut, counted⟩ := stops p entered seen
      rw [walked] at counted
      refine ⟨i :: q, _, cut.within i _, ?_⟩
      rw [Dialect.faltering_within, Dialect.inChild, List.length_map]
      exact counted
    | ok u =>
      have image : image d budget c.node = some u := outcome_eq_ok_iff.mp seen
      have deep : (rest.mapM fun c => View.outcome d limit budget c.node) =
          .error (.tooDeep e) := by
        rw [seen] at deep
        cases onward : rest.mapM fun c => View.outcome d limit budget c.node with
        | error stop =>
          rw [onward] at deep
          exact deep
        | ok views =>
          rw [onward] at deep
          cases deep
      have counted := counts p image
      rw [walked] at counted
      dsimp only at counted ⊢
      obtain ⟨q, met, cut, onward⟩ := ih deep (i + 1) r (counted ▸ Tally.le_deepest_after _ _ _ _ _)
      obtain ⟨first, cut, size, degradations⟩ := cut_beyond image cut
      refine ⟨q, first ++ met, cut, ?_⟩
      rw [counted, Tally.after_after, Nat.max_eq_right (height_le image)] at onward
      rw [List.length_append, Dialect.faltering_append, size, degradations, ← onward]
      rcases Walk.each (fun c : Child => ofNode d limit budget level c.node) rest r with
        ⟨r', _ | views⟩ <;> rfl

theorem ofNode_stops {e : TooDeep} (p : Progress) (met : above ≤ p.tally.deepest)
    (deep : outcome d limit budget n = .error (.tooDeep e)) :
    ∃ q met, Dialect.Cut budget (d.row budget n) q met ∧
      (ofNode d limit budget (above + 1) n p).1.tally =
        p.tally.after above met.length budget (d.faltering q met) := by
  induction budget generalizing above n p with
  | zero =>
    refine ⟨[], [], ⟨⟨n, [], rfl⟩, rfl, nofun⟩, ?_⟩
    exact (Tally.after_zero _ _ met).symm
  | succ budget ih =>
    have stops := ofNode_snd (d := d) limit (budget + 1) (above + 1) n p
    rw [deep] at stops
    have below : ((d.children n).mapM fun c => outcome d limit budget c.node) =
        .error (.tooDeep e) := by
      rw [outcome] at deep
      cases walked : (d.children n).mapM fun c => outcome d limit budget c.node with
      | error stop =>
        rw [walked] at deep
        cases Except.error.inj deep
        rfl
      | ok views => cases defect : d.defect? n <;> simp [walked, defect] at deep
    have entered : above + 1 ≤ (entered d (above + 1) n p).tally.deepest := by
      simp only [tally_entered, Tally.enter]
      omega
    obtain ⟨q, met, cut, counted⟩ :=
      each_stops (fun p => ih p) (fun p => ofNode_after) below 0 _ entered
    refine ⟨q, _, cut.cons (Nat.zero_lt_succ _), ?_⟩
    rw [tally_of_error stops, eachChild, counted, tally_entered, Tally.enter_after,
      Dialect.faltering_root]
    rfl

/-! ### The view at the end of a path -/

/-- The view at the end of a path. -/
def viewAt? : View → Path → Option View
  | v, [] => some v
  | v, i :: path => v.children[i]?.bind fun w => viewAt? w path

/-- The view is degraded exactly if the dialect fails at the node. -/
def TellsFault (d : Dialect) (m : Node) (w : View) : Prop :=
  w.degraded = true ↔ d.Falters m

theorem rel_tagged {v : View} {path : Path}
    (rel : Option.Rel (TellsFault d) (d.nodeAt? n path) (v.viewAt? path)) (field : String)
    (index : Option Nat) :
    Option.Rel (TellsFault d) (d.nodeAt? n path) ((v.tagged field index).viewAt? path) := by
  cases path with
  | nil =>
    cases rel with
    | some tells => exact .some tells
  | cons i path => exact rel

/-- Wherever a path leads there is a view of the node, and where there is a view there is a node. -/
theorem rel_viewAt? {v : View} (image : image d budget n = some v) (path : Path) :
    Option.Rel (TellsFault d) (d.nodeAt? n path) (v.viewAt? path) := by
  induction budget generalizing n v path with
  | zero => cases image
  | succ budget ih =>
    obtain ⟨sound, views, images, rfl⟩ := exists_of_image image
    cases path with
    | nil => exact .some (by rw [TellsFault, degraded_describe sound, decide_eq_true_iff])
    | cons i path =>
      rw [Dialect.nodeAt?, viewAt?]
      clear image
      generalize d.children n = children at images
      induction images generalizing i with
      | nil => exact .none
      | @cons c w children views first _ rest =>
        cases i with
        | zero =>
          obtain ⟨u, image, rfl⟩ := first
          exact rel_tagged (ih image path) c.field c.index
        | succ i => exact rest i

/-! ### Counters -/

/-- The counters are those of the view, and the view has one part for each node in reach. -/
structure Counted (d : Dialect) (n : Node) (v : View) (t : Tally) : Prop where
  nodes : t.nodes = v.preorder.length
  deepest : t.deepest = v.height
  degraded : t.degraded = v.preorder.countP (·.degraded)
  tells : ∀ path, Option.Rel (TellsFault d) (d.nodeAt? n path) (v.viewAt? path)

/-- The counters are those of the nodes before the first one below the limit. -/
def Stopped (d : Dialect) (limit : Int) (n : Node) (t : Tally) : Prop :=
  ∃ q met, d.FirstBelow limit n q ∧ d.ListsBefore n q met ∧ t.nodes = met.length ∧
    (t.deepest : Int) = limit ∧ t.degraded = met.countP fun e => d.Falters e.2 ∧ ¬ e.1 <+: q

theorem counted_of_image {v : View} {t : Tally} (image : image d budget n = some v)
    (after : t = Tally.zero.after 0 v.size v.height v.degradations) : Counted d n v t where
  nodes := by
    rw [after, length_preorder]
    exact Nat.zero_add _
  deepest := by
    rw [after]
    simp [Tally.after, Tally.zero]
  degraded := by
    rw [after, countP_preorder]
    exact Nat.zero_add _
  tells := rel_viewAt? image

theorem stopped_of_cut {t : Tally} (positive : 0 ≤ limit) {q : Path} {met : List (Path × Node)}
    (cut : Dialect.Cut limit.toNat (d.row limit.toNat n) q met)
    (after : t = Tally.zero.after 0 met.length limit.toNat (d.faltering q met)) :
    Stopped d limit n t := by
  refine ⟨q, met, cut.firstBelow positive, cut.listsBefore, ?_, ?_, ?_⟩
  · rw [after]
    exact Nat.zero_add _
  · rw [after]
    simp only [Tally.after, Tally.zero]
    omega
  · rw [after]
    exact Nat.zero_add _

/-- A walk that starts afresh counts exactly its views if it comes to its end. If it gives up
because the tree is too deep it has counted the nodes it met, and those of them that falter unless
they are above the one at which it gave up. -/
theorem normalize_counts (positive : 0 ≤ limit) (log : List Log.Record) :
    (∀ v, (normalize d limit n ⟨.zero, log⟩).2 = .ok v →
        Counted d n v (normalize d limit n ⟨.zero, log⟩).1.tally) ∧
      ∀ e, (normalize d limit n ⟨.zero, log⟩).2 = .error (.tooDeep e) →
        Stopped d limit n (normalize d limit n ⟨.zero, log⟩).1.tally := by
  constructor
  · intro v ends
    have image := normalize_eq_ok_iff.mp ends
    exact counted_of_image image (ofNode_after image)
  · intro e stops
    rw [normalize_snd] at stops
    obtain ⟨q, met, cut, after⟩ := ofNode_stops ⟨.zero, log⟩ (Nat.zero_le 0) stops
    exact stopped_of_cut positive cut after

/-- Two statements have no text. -/
def brittle : Dialect :=
  { Dialect.mysql with
    render := fun n =>
      match n with
      | .commit | .explain _ => .error ⟨"RuntimeError", "cannot render"⟩
      | n => n.rendered }

/-- The first statement of the list is a leaf and the second goes one level deeper. -/
def lopsided : Node :=
  .loose .fieldList [("fields", .list [.node .commit, .node (.explain (.node .rollback))])]

/-- On two levels the second statement is met but not left, so one degradation is counted; on three
levels both are. -/
theorem normalize_counts_lopsided :
    ((normalize brittle 2 lopsided ⟨.zero, []⟩).2 = .error (.tooDeep ⟨2⟩) ∧
        Stopped brittle 2 lopsided ⟨3, 2, 1⟩) ∧
      ∃ v, (normalize brittle 3 lopsided ⟨.zero, []⟩).2 = .ok v ∧
        Counted brittle lopsided v ⟨4, 3, 2⟩ := by
  have stops : (normalize brittle 2 lopsided ⟨.zero, []⟩).2 = .error (.tooDeep ⟨2⟩) := by rfl
  have ends : ∃ v, (normalize brittle 3 lopsided ⟨.zero, []⟩).2 = .ok v := ⟨_, rfl⟩
  obtain ⟨v, ends⟩ := ends
  exact ⟨⟨stops, (normalize_counts (by decide) []).2 _ stops⟩, v, ends,
    (normalize_counts (by decide) []).1 v ends⟩

end View

end SqlSyntax
