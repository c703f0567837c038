import SqlSyntax.Proofs.Script.Layout
import SqlSyntax.Proofs.View.Counters

/-!
# The nodes of a query

A client walks through the views of a query, tells kinds of nodes from their tags, and keeps what it
finds once each. Its walk meets the nodes of the statements in the order of their paths, and the
short type of a view is the name of the kind of its node.
-/

namespace SqlSyntax

/-! ### Walks -/

namespace View

/-- Taking the topmost view and putting its children on top of the rest is a walk in pre-order. -/
theorem walk_eq_preorders (stack : List View) : walk stack = preorders stack := by
  fun_induction walk stack with
  | case1 => rfl
  | case2 v rest ih =>
    rw [ih, preorders_append, preorders, preorder_eq, List.cons_append]

theorem walk_singleton (v : View) : walk [v] = v.preorder := by
  rw [walk_eq_preorders, preorders, preorders, List.append_nil]

theorem flatMap_preorder (views : List View) : views.flatMap preorder = preorders views := by
  induction views with
  | nil => rfl
  | cons v rest ih => rw [List.flatMap_cons, preorders, ih]

end View

theorem Query.nodes_eq_preorders (q : Query) : q.nodes = View.preorders q.trees := by
  simp only [Query.nodes, View.walk_singleton, View.flatMap_preorder]

/-! ### Kinds -/

namespace Kind

/-- The letters have no dot, and they speak of a condition only if the kind is that of join
conditions. -/
def isPlain (k : Kind) (letters : List Char) : Bool :=
  letters.all (· != '.') &&
    (View.holds ['W', 'h', 'e', 'r', 'e'] letters ||
        View.holds ['C', 'o', 'n', 'd', 'i', 't', 'i', 'o', 'n'] letters) ==
      decide (k = .onCondition)

/-- A literal that is given by its characters need not be decoded. -/
theorem isPlain_of_letters {k : Kind} {name : String} {letters : List Char}
    (spelled : name = String.ofList letters) (plain : k.isPlain letters = true) :
    k.isPlain name.toList = true := by
  rwa [spelled, String.toList_ofList]

theorem isPlain_name (k : Kind) : k.isPlain k.name.toList = true := by
  cases k with
  | bare family => cases family <;> exact isPlain_of_letters rfl (by decide)
  | _ => exact isPlain_of_letters rfl (by decide)

theorem dot_not_mem_name (k : Kind) : '.' ∉ k.name.toList := by
  have plain := k.isPlain_name
  rw [isPlain, Bool.and_eq_true, List.all_eq_true] at plain
  intro member
  simpa using plain.1 '.' member

/-- Only the name of join conditions speaks of a condition. -/
theorem holds_condition_iff (k : Kind) :
    (View.holds "Where".toList k.name.toList || View.holds "Condition".toList k.name.toList) =
      true ↔
      k = .onCondition := by
  have plain := k.isPlain_name
  rw [isPlain, Bool.and_eq_true, beq_iff_eq] at plain
  have filter : "Where".toList = ['W', 'h', 'e', 'r', 'e'] := String.toList_ofList
  have condition : "Condition".toList = ['C', 'o', 'n', 'd', 'i', 't', 'i', 'o', 'n'] :=
    String.toList_ofList
  rw [filter, condition, plain.2, decide_eq_true_iff]

theorem eq_columnName_of_name {k : Kind} (named : k.name = "ColumnName") : k = .columnName := by
  cases k with
  | columnName => rfl
  | bare family => cases family <;> simp [name, Family.name] at named
  | _ => simp [name] at named

theorem eq_tableName_of_name {k : Kind} (named : k.name = "TableName") : k = .tableName := by
  cases k with
  | tableName => rfl
  | bare family => cases family <;> simp [name, Family.name] at named
  | _ => simp [name] at named

/-- A tag ends in a dot and the name. -/
theorem exists_lead (k : Kind) : ∃ lead, k.tag.toList = lead ++ '.' :: k.name.toList := by
  have dotted : ∃ lead, "mysql_parser.plugins.mysql.ast.".toList = lead ++ ['.'] :=
    ⟨"mysql_parser.plugins.mysql.ast".toList, by decide⟩
  unfold tag
  -- the namespace is a long literal that must not be computed with
  generalize "mysql_parser.plugins.mysql.ast." = space at dotted ⊢
  obtain ⟨lead, dotted⟩ := dotted
  refine ⟨lead, ?_⟩
  rw [String.toList_append, dotted, List.append_assoc, List.singleton_append]

end Kind

namespace View

/-- The short type is the name of the kind. -/
theorem shortType_of_tag {v : View} {k : Kind} (tagged : v.type = k.tag) :
    v.shortType = k.name := by
  obtain ⟨lead, letters⟩ := k.exists_lead
  have dotless : ∀ c ∈ k.name.toList.reverse, (c != '.') = true := by
    intro c member
    rw [bne_iff_ne]
    rintro rfl
    exact k.dot_not_mem_name (List.mem_reverse.mp member)
  rw [shortType, tagged, letters, List.reverse_append, List.reverse_cons, List.append_assoc,
    List.takeWhile_append_of_pos dotless]
  simp

end View

/-! ### What is kept of a list -/

namespace Query

variable {α : Type} [DecidableEq α]

/-- What has been seen after one more item. -/
def keep (seen : List α) (a : α) : List α :=
  if a ∈ seen then seen else seen ++ [a]

theorem foldl_keep (seen items : List α) :
    items.foldl keep seen = seen ++ (items.filter (· ∉ seen)).eraseDups := by
  induction items generalizing seen with
  | nil => simp
  | cons a items ih =>
    rw [List.foldl_cons, ih, keep]
    by_cases met : a ∈ seen
    · simp [met]
    · simp [met, List.eraseDups_cons, List.filter_filter, Bool.beq_eq_decide_eq, Bool.and_comm]

theorem distinct_eq_eraseDups (items : List α) : distinct items = items.eraseDups := by
  change items.foldl keep [] = items.eraseDups
  rw [foldl_keep]
  simp

/-- The lists add the same to all that has been seen before. -/
def Alike (items others : List α) : Prop :=
  ∀ seen, items.foldl keep seen = others.foldl keep seen

theorem Alike.distinct {items others : List α} (alike : Alike items others) :
    distinct items = distinct others :=
  alike []

theorem Alike.append {items items' others others' : List α} (first : Alike items items')
    (second : Alike others others') : Alike (items ++ others) (items' ++ others') := by
  intro seen
  rw [List.foldl_append, List.foldl_append, first seen, second]

theorem mem_foldl_keep {seen items : List α} {a : α} (met : a ∈ seen ∨ a ∈ items) :
    a ∈ items.foldl keep seen := by
  rw [foldl_keep, List.mem_append, List.mem_eraseDups, List.mem_filter, decide_eq_true_iff]
  by_cases known : a ∈ seen
  · exact .inl known
  · exact .inr ⟨met.resolve_left known, known⟩

/-- What has been listed already adds nothing. -/
theorem alike_append {items others : List α} (listed : ∀ a ∈ others, a ∈ items) :
    Alike (items ++ others) items := by
  intro seen
  rw [List.foldl_append, foldl_keep (items.foldl keep seen)]
  have none : others.filter (· ∉ items.foldl keep seen) = [] := by
    rw [List.filter_eq_nil_iff]
    intro a member
    simpa using mem_foldl_keep (.inr (listed a member))
  rw [none, List.eraseDups_nil, List.append_nil]

end Query

/-! ### Rows of nodes and views -/

theorem filterMap_eq_of_forall₂ {α β γ : Type} {r : α → β → Prop} {f : α → Option γ}
    {g : β → Option γ} {as : List α} {bs : List β} (related : List.Forall₂ r as bs)
    (same : ∀ a b, r a b → f a = g b) : as.filterMap f = bs.filterMap g := by
  induction related with
  | nil => rfl
  | cons first _ ih => rw [List.filterMap_cons, List.filterMap_cons, same _ _ first, ih]

namespace View

variable {budget : Nat} {n : Node} {v : View}

/-- The view is that of the node, which is sound. -/
structure Shows (n : Node) (v : View) : Prop where
  sound : n.Sound
  type : v.type = n.kind.tag
  text : n.render = .ok v.text

theorem Shows.tagged (shows : Shows n v) (field : String) (index : Option Nat) :
    Shows n (v.tagged field index) :=
  ⟨shows.sound, shows.type, shows.text⟩

theorem Shows.shortType (shows : Shows n v) : v.shortType = n.kind.name :=
  shortType_of_tag shows.type

theorem shows_image (sound : n.Sound) (image : image .mysql budget n = some v) : Shows n v := by
  refine ⟨sound, ?_, render_image sound.complete image⟩
  cases budget with
  | zero => cases image
  | succ budget =>
    obtain ⟨-, views, -, rfl⟩ := exists_of_image image
    rfl

theorem dataIs_image (image : image .mysql budget n = some v) (word : String) :
    v.dataIs fieldKey word = false := by
  cases budget with
  | zero => cases image
  | succ budget =>
    obtain ⟨-, views, -, rfl⟩ := exists_of_image image
    have untold : (describe .mysql n).view.data.get? fieldKey = none := (unplaced_describe rfl n).1
    rw [dataIs, untold]

theorem dataIs_tagged (v : View) (field : String) (index : Option Nat) (word : String) :
    (v.tagged field index).dataIs fieldKey word = (field == word) := by
  have told : (v.tagged field index).data.get? fieldKey = some (.text field) :=
    fieldName?_tagged v field index
  rw [dataIs, told]

/-- What holds of the views of sound nodes holds of those that stand below a sound node. -/
theorem forall₂_children {views : List View} (sound : n.Sound)
    (images : List.Forall₂ (Stands budget) (Dialect.mysql.children n) views)
    {R : Child → View → Prop} (each : ∀ c u, c.node.Sound → image .mysql budget c.node = some u →
      R c (u.tagged c.field c.index)) :
    List.Forall₂ R (Dialect.mysql.children n) views := by
  have below := fun c child => Dialect.sound_child (c := c) sound child
  generalize Dialect.mysql.children n = children at images below ⊢
  induction images with
  | nil => exact .nil
  | cons first _ ih =>
    obtain ⟨u, image, rfl⟩ := first
    obtain ⟨here, others⟩ := List.forall_mem_cons.mp below
    exact .cons (each _ u here image) (ih others)

/-- The rows of nodes go with the walks through their views, one after the other. -/
theorem forall₂_rowsBelow {children : List Child} {views : List View}
    (each : List.Forall₂ (fun c w => List.Forall₂ (fun e u => Shows e.2 u)
      (Dialect.mysql.row budget c.node) w.preorder) children views) (i : Nat) :
    List.Forall₂ (fun e u => Shows e.2 u)
      (Dialect.rowsBelow (Dialect.mysql.row budget) i children) (preorders views) := by
  induction each generalizing i with
  | nil => exact .nil
  | cons first _ ih =>
    refine List.rel_append ?_ (ih (i + 1))
    exact List.forall₂_map_left_iff.mpr first

/-- By induction on the levels: a walk through a view meets the nodes of the tree in their order. -/
theorem forall₂_row (sound : n.Sound) (image : image .mysql budget n = some v) :
    List.Forall₂ (fun e u => Shows e.2 u) (Dialect.mysql.row budget n) v.preorder := by
  induction budget generalizing n v with
  | zero => cases image
  | succ budget ih =>
    have root := shows_image sound image
    obtain ⟨-, views, images, rfl⟩ := exists_of_image image
    rw [Dialect.row, preorder_eq]
    refine .cons root (forall₂_rowsBelow (forall₂_children sound images ?_) 0)
    intro c u here image
    have inner := ih here image
    rw [preorder_eq] at inner ⊢
    cases budget with
    | zero => cases image
    | succ budget =>
      obtain _ | ⟨shows, inner⟩ := inner
      exact .cons (shows.tagged _ _) inner

end View

namespace Script

variable {statements : List Node} {levels : Nat}

/-- The node at the end of a path whose first step takes a statement. -/
def nodeAt? (statements : List Node) : Path → Option Node
  | [] => none
  | i :: path => statements[i]?.bind fun n => Dialect.mysql.nodeAt? n path

/-- The row has the nodes of the statements for which the property holds at their place, each once
and in pre-order. -/
structure Lists (statements : List Node) (P : Path → Node → Prop) (row : List (Path × Node)) :
    Prop where
  ordered : (row.map Prod.fst).Pairwise (· < ·)
  mem_iff : ∀ p m, (p, m) ∈ row ↔ nodeAt? statements p = some m ∧ P p m

/-- The nodes of the statements down to some level. -/
def row (levels : Nat) (statements : List Node) : List (Path × Node) :=
  Dialect.rowsBelow (Dialect.mysql.row levels) 0 (statements.map (⟨"", none, ·⟩))

section

variable {trees : List View}
  (images : List.Forall₂ (fun n v => View.image .mysql levels n = some v) statements trees)

include images

theorem mem_row {p : Path} {m : Node} :
    (p, m) ∈ row levels statements ↔ nodeAt? statements p = some m := by
  rw [row, Dialect.mem_rowsBelow]
  constructor
  · rintro ⟨k, c, q, child, held, rfl⟩
    rw [List.getElem?_map] at child
    obtain ⟨n, there, rfl⟩ := Option.map_eq_some_iff.mp child
    rw [nodeAt?, Nat.zero_add, there]
    exact (Dialect.mem_row.mp held).1
  · intro there
    cases p with
    | nil => cases there
    | cons i q =>
      obtain ⟨n, statement, there⟩ := Option.bind_eq_some_iff.mp there
      obtain ⟨v, -, image⟩ := exists_right_of_forall₂ images (List.mem_of_getElem? statement)
      have short : q.length < levels := by
        obtain ⟨trail, leads, length⟩ := Dialect.exists_leads_of_nodeAt? there
        by_contra long
        have none : View.image .mysql levels n = none :=
          View.image_eq_none_iff.mpr ⟨trail, m, leads, .inl (by omega)⟩
        rw [image] at none
        cases none
      refine ⟨i, ⟨"", none, n⟩, q, ?_, Dialect.mem_row.mpr ⟨there, short.le⟩, by rw [Nat.zero_add]⟩
      rw [List.getElem?_map, statement]
      rfl

theorem lists_filter (P : Path → Node → Prop) [DecidablePred fun e : Path × Node => P e.1 e.2] :
    Lists statements P ((row levels statements).filter fun e => P e.1 e.2) where
  ordered := by
    have ordered := Dialect.ordered_rowsBelow (f := Dialect.mysql.row levels)
      (Dialect.ordered_row levels) 0 (statements.map (⟨"", none, ·⟩))
    exact ordered.sublist (List.Sublist.map Prod.fst List.filter_sublist)
  mem_iff p m := by
    rw [List.mem_filter, mem_row images, decide_eq_true_iff]

/-- A walk through the views of statements meets all their nodes in pre-order. -/
theorem forall₂_row (sound : ∀ n ∈ statements, n.Sound) :
    List.Forall₂ (fun e u => View.Shows e.2 u) (row levels statements) (View.preorders trees) := by
  refine View.forall₂_rowsBelow ?_ 0
  rw [List.forall₂_map_left_iff]
  induction images with
  | nil => exact .nil
  | cons first _ ih =>
    obtain ⟨here, others⟩ := List.forall_mem_cons.mp sound
    exact .cons (View.forall₂_row here first) (ih others)

end

end Script

/-! ### Accepted texts -/

theorem Dialect.mysql_parse (sql : String) :
    (Dialect.mysql.parse sql).2 = match Script.parse sql with
      | .ok statements => .ok (statements.map some)
      | .error e => .error (.rejected e.toParseError) := by
  dsimp only [mysql, Mysql.parse]
  cases Script.parse sql <;> rfl

namespace Builder

variable {b : Builder} {sql : String}

/-- A text gives trees if it is not too long, is accepted, and its statements are not too deep. -/
theorem succeeds_mysql_iff (mysql : b.dialect = .mysql) {trees : List View} :
    b.Succeeds sql trees ↔ (sql.length : Int) ≤ b.lengthLimit ∧
      ∃ statements, Script.parse sql = .ok statements ∧
        List.Forall₂ (fun n v => View.image .mysql b.depthLimit.toNat n = some v) statements
          trees := by
  have outcome := Dialect.mysql_parse sql
  rw [← mysql] at outcome
  rw [succeeds_iff, ← mysql]
  constructor
  · rintro ⟨read, ⟨short, parsed, reads, rfl⟩, images⟩
    rw [outcome] at reads
    split at reads
    · rename_i statements accepted
      cases reads
      refine ⟨short, statements, accepted, ?_⟩
      simpa [List.filterMap_map] using mapM_eq_some_iff.mp images
    · cases reads
  · rintro ⟨short, statements, accepted, images⟩
    rw [accepted] at outcome
    refine ⟨statements, ⟨short, _, outcome, ?_⟩, mapM_eq_some_iff.mpr images⟩
    simp [List.filterMap_map]

end Builder

/-- What a client gets of an accepted text: the views of its statements, if the places of the nodes
in their lists can be read. -/
theorem Query.parse_eq_ok_iff {b : Bridge} {timing : Timing} {sql : String} {q : Query} :
    (Query.parse b timing sql).2 = .ok q ↔
      ∃ trees, b.builder.Succeeds sql trees ∧ (Envelope.ok trees).wire.isTellable ∧
        q = ⟨trees, sql, []⟩ := by
  constructor
  · intro parsed
    rcases b.builder.build_cases timing sql with
      ⟨fault, -, built⟩ | ⟨reason, -, built⟩ | ⟨trees, succeeds, built⟩
    · simp [Query.parse, Bridge.parse, Bridge.envelope, built] at parsed
    · rw [Bridge.query_parse built (Envelope.faithful_failure reason), ofJson_failure] at parsed
      cases parsed
    · have faithful := Envelope.faithful_wire succeeds.simpleData
      rw [Bridge.query_parse built faithful, ofJson_ok sql faithful] at parsed
      split at parsed
      · rename_i tellable
        cases parsed
        exact ⟨trees, succeeds, tellable, rfl⟩
      · cases parsed
  · rintro ⟨trees, succeeds, tellable, rfl⟩
    have faithful := Envelope.faithful_wire succeeds.simpleData
    rw [Bridge.query_parse (succeeds.build timing) faithful, ofJson_ok sql faithful,
      if_pos tellable]

theorem Query.trees_of_parse {b : Bridge} {timing : Timing} {sql : String} {q : Query}
    (mysql : b.builder.dialect = .mysql) (parsed : (Query.parse b timing sql).2 = .ok q) :
    ∃ statements, Script.parse sql = .ok statements ∧
      List.Forall₂ (fun n v => View.image .mysql b.builder.depthLimit.toNat n = some v) statements
        q.trees := by
  obtain ⟨trees, succeeds, -, rfl⟩ := parse_eq_ok_iff.mp parsed
  exact ((Builder.succeeds_mysql_iff mysql).mp succeeds).2

/-- What is computed from the statements of an accepted text whose views can be told. -/
def Script.computed? {α : Type} (levels : Nat) (sql : String) (f : List Node → α) : Option α :=
  (Script.parse sql).toOption.bind fun statements =>
    (statements.mapM (View.image .mysql levels)).bind fun trees =>
      if (Envelope.ok trees).wire.isTellable then some (f statements) else none

theorem Query.exists_parse {b : Bridge} {sql : String} (mysql : b.builder.dialect = .mysql)
    (short : (sql.length : Int) ≤ b.builder.lengthLimit) {α : Type} {f : List Node → α} {a : α}
    (computed : Script.computed? b.builder.depthLimit.toNat sql f = some a) (timing : Timing) :
    ∃ q statements, (Query.parse b timing sql).2 = .ok q ∧ Script.parse sql = .ok statements ∧
      List.Forall₂ (fun n v => View.image .mysql b.builder.depthLimit.toNat n = some v) statements
        q.trees ∧ f statements = a := by
  unfold Script.computed? at computed
  cases accepted : Script.parse sql with
  | error e =>
    rw [accepted] at computed
    cases computed
  | ok statements =>
    rw [accepted, Except.toOption, Option.bind_some] at computed
    obtain ⟨trees, images, told⟩ := Option.bind_eq_some_iff.mp computed
    split at told
    · rename_i tellable
      have images := mapM_eq_some_iff.mp images
      have succeeds := (Builder.succeeds_mysql_iff mysql).mpr ⟨short, statements, accepted, images⟩
      exact ⟨_, statements, parse_eq_ok_iff.mpr ⟨trees, succeeds, tellable, rfl⟩, rfl, images,
        Option.some.inj told⟩
    · cases told

/-- A bridge before its first call. -/
def Bridge.fresh : Bridge :=
  .new ⟨.mysql, 60, 1000⟩

end SqlSyntax
