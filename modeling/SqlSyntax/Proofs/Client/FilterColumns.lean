import SqlSyntax.Proofs.Client.Nodes
import SqlSyntax.Proofs.Lexical.Spelling

/-!
# The columns that filters use

A client finds the columns of a filter in the views below it, and reads table and name off their
text. Quoting is undone whatever characters the names have. Filters inside of filters are walked
through again, but add nothing.
-/

namespace SqlSyntax

/-! ### Names read off a text -/

namespace Names

open Text (backQuote quoteName)

/-- A quoted name in front of anything but a quote is read back. -/
theorem quotedParts_quoteName (fuel : Nat) (name : String) {rest : List Char}
    (avoids : Avoids backQuote rest) :
    quotedParts (fuel + 1) ((quoteName name).toList ++ rest) =
      name.toList :: quotedParts fuel rest := by
  rw [Text.toList_quoteName, List.cons_append, List.append_assoc, List.singleton_append,
    quotedParts, if_pos rfl, Lexeme.closing_body (by decide)
      (Lexeme.body_doubleEach backQuote name.toList) avoids (by omega) none]
  dsimp only
  have unquoted := Text.collapsePairs_doubleEach backQuote name.toList
  generalize Text.doubleEach backQuote name.toList = body at unquoted ⊢
  have inside : 1 + body.length + 1 - 2 = body.length := by omega
  have behind : 1 + body.length + 1 - 1 = body.length + 1 := by omega
  rw [inside, List.take_left, unquoted, behind, List.drop_length_add_append, List.drop_succ_cons,
    List.drop_zero]

theorem length_quoteName_pos (name : String) : 0 < (quoteName name).toList.length := by
  rw [Text.toList_quoteName]
  exact Nat.succ_pos _

/-- Quoted names with dots between them. -/
def dotted : List String → List Char
  | [] => []
  | [name] => (quoteName name).toList
  | name :: rest => (quoteName name).toList ++ '.' :: dotted rest

/-- All the names are read back. -/
theorem quotedParts_dotted (names : List String) {fuel : Nat}
    (enough : (dotted names).length ≤ fuel) :
    quotedParts fuel (dotted names) = names.map String.toList := by
  induction names using dotted.induct generalizing fuel with
  | case1 => cases fuel <;> rfl
  | case2 name =>
    have occupied := length_quoteName_pos name
    obtain ⟨fuel, rfl⟩ : ∃ k, fuel = k + 1 := ⟨fuel - 1, by rw [dotted] at enough; omega⟩
    have parts := quotedParts_quoteName fuel name (show Avoids backQuote [] by nofun)
    rw [List.append_nil] at parts
    rw [dotted, parts]
    cases fuel <;> rfl
  | case3 name rest several ih =>
    have occupied := length_quoteName_pos name
    rw [dotted, List.length_append, List.length_cons] at enough
    · obtain ⟨fuel, rfl⟩ : ∃ k, fuel = k + 2 := ⟨fuel - 2, by omega⟩
      have dot : Avoids backQuote ('.' :: dotted rest) := by
        rintro ⟨⟩
      rw [dotted, quotedParts_quoteName _ _ dot, quotedParts, if_neg (by decide), ih (by omega)]
      · rfl
      · exact several
    · exact several

/-- The last two of the names are taken for column and table. -/
theorem columnOf?_of_dotted {text : String} (names : List String)
    (spelled : text.toList = dotted names) :
    columnOf? text = match names.reverse with
      | [] => none
      | [name] => some ⟨none, name⟩
      | name :: table :: _ => some ⟨some table, name⟩ := by
  have parts := quotedParts_dotted names (Nat.le_refl _)
  rw [columnOf?, spelled, parts, ← List.map_reverse]
  rcases names.reverse with _ | ⟨name, _ | ⟨table, rest⟩⟩ <;> simp

end Names

/-- Table and name of a column; without a table it is not qualified. -/
def Node.column? : Node → Option Names.Column
  | .columnName _ table name => some ⟨if table = "" then none else some table, name⟩
  | _ => none

theorem Node.column?_of_ne {n : Node} (other : n.kind ≠ .columnName) : n.column? = none := by
  cases n with
  | columnName => exact absurd rfl other
  | _ => rfl

theorem Node.eq_columnName_of_kind {n : Node} (sound : n.Sound) (column : n.kind = .columnName) :
    ∃ schema table name, n = .columnName schema table name := by
  obtain ⟨proper, -⟩ := sound
  cases n with
  | columnName schema table name => exact ⟨schema, table, name, rfl⟩
  | loose => cases proper.whole
  | _ => cases column

namespace Names

open Text (backQuote quoteName)

/-- Table and name of a column are read off its text, whatever characters they have. -/
theorem columnOf?_columnName {schema table : String} (known : table = "" → schema = "")
    (name : String) :
    columnOf? (qualifier schema ++ qualifier table ++ quoteName name) =
      some ⟨if table = "" then none else some table, name⟩ := by
  by_cases bare : table = ""
  · obtain rfl := known bare
    obtain rfl := bare
    exact columnOf?_of_dotted [name] (by simp [qualifier, dotted])
  · rw [if_neg bare]
    by_cases unqualified : schema = ""
    · obtain rfl := unqualified
      exact columnOf?_of_dotted [table, name] (by simp [qualifier, dotted, bare])
    · exact columnOf?_of_dotted [schema, table, name]
        (by simp [qualifier, dotted, bare, unqualified])

end Names

/-! ### Filters -/

/-- Among the nodes down to the end of the path there is a join condition or one that is held in a
member `where`; what holds the first node is not asked. -/
def Node.filteredAt : Node → Path → Bool
  | n, [] => n.kind == .onCondition
  | n, i :: path => n.kind == .onCondition ||
    (Dialect.mysql.children n)[i]?.any fun c => c.field == "where" || filteredAt c.node path

/-- The node at the end of the path is in a filter of its statement. -/
def Script.filteredAt (statements : List Node) : Path → Bool
  | [] => false
  | i :: path => statements[i]?.any (·.filteredAt path)

theorem Node.filteredAt_of_onCondition {n : Node} (condition : n.kind = .onCondition) (p : Path) :
    n.filteredAt p = true := by
  cases p <;> simp [filteredAt, condition]

namespace View

variable {budget : Nat} {n : Node} {v w : View}

/-- The column that a view tells, if it is that of a column. -/
def column? (v : View) : Option Names.Column :=
  if v.shortType = "ColumnName" then Names.columnOf? v.text else none

/-- Table and name are read off the text of a column. -/
theorem Shows.columnOf? {schema table name : String}
    (shows : Shows (.columnName schema table name) v) :
    Names.columnOf? v.text = some ⟨if table = "" then none else some table, name⟩ := by
  obtain ⟨proper, -⟩ := shows.sound
  have told := Except.ok.inj shows.text
  rw [← told]
  exact Names.columnOf?_columnName proper.names name

theorem Shows.column? (shows : Shows n v) : v.column? = n.column? := by
  rw [View.column?, shows.shortType]
  by_cases column : n.kind = .columnName
  · obtain ⟨schema, table, name, rfl⟩ := Node.eq_columnName_of_kind shows.sound column
    exact (if_pos rfl).trans shows.columnOf?
  · rw [if_neg (mt Kind.eq_columnName_of_name column), Node.column?_of_ne column]

theorem Shows.isFilter_iff (shows : Shows n v) :
    v.isFilter = true ↔ v.dataIs fieldKey "where" = true ∨ n.kind = .onCondition := by
  rw [isFilter, shortTypeHolds, shortTypeHolds, shows.shortType, Bool.or_assoc, Bool.or_eq_true,
    Kind.holds_condition_iff]

mutual

theorem preorder_subset : ∀ v : View, ∀ u ∈ v.preorder, u.preorder ⊆ v.preorder
  | ⟨type, text, children, data, degraded⟩, u, member => by
    rw [preorder] at member ⊢
    rcases List.mem_cons.mp member with rfl | below
    · rw [preorder]
      exact List.Subset.refl _
    · exact List.subset_cons_of_subset _ (preorders_subset children u below)

theorem preorders_subset : ∀ views : List View, ∀ u ∈ preorders views, u.preorder ⊆ preorders views
  | [], u, member => by cases member
  | v :: rest, u, member => by
    rw [preorders] at member ⊢
    rcases List.mem_append.mp member with first | later
    · exact List.subset_append_of_subset_left _ (preorder_subset v u first)
    · exact List.subset_append_of_subset_right _ (preorders_subset rest u later)

end

/-- The columns below each filter among the views. -/
def filtered (views : List View) : List Names.Column :=
  (views.filter isFilter).flatMap fun v => v.preorder.filterMap View.column?

theorem filtered_append (views others : List View) :
    filtered (views ++ others) = filtered views ++ filtered others := by
  simp [filtered]

theorem filtered_preorder (v : View) :
    filtered v.preorder =
      (if v.isFilter then v.preorder.filterMap View.column? else []) ++
        filtered (preorders v.children) := by
  rw [filtered, filtered]
  nth_rewrite 1 [preorder_eq]
  rw [List.filter_cons]
  split <;> simp

theorem mem_column_of_mem_filtered {views : List View} {c : Names.Column}
    (member : c ∈ filtered (preorders views)) : c ∈ (preorders views).filterMap View.column? := by
  obtain ⟨u, listed, member⟩ := List.mem_flatMap.mp member
  obtain ⟨w, below, told⟩ := List.mem_filterMap.mp member
  have within := preorders_subset views u (List.mem_of_mem_filter listed)
  exact List.mem_filterMap.mpr ⟨w, within below, told⟩

/-- What filters below a filter add is there already. -/
theorem alike_of_isFilter (filter : v.isFilter = true) :
    Query.Alike (filtered v.preorder) (v.preorder.filterMap View.column?) := by
  rw [filtered_preorder, if_pos filter]
  refine Query.alike_append ?_
  intro c member
  have below := mem_column_of_mem_filtered member
  rw [preorder_eq, List.filterMap_cons]
  split
  · exact below
  · exact List.mem_cons_of_mem _ below

/-! ### Filters of views and of nodes -/

/-- The columns of those nodes in a row whose place is kept. -/
def columnsAt (kept : Path → Bool) (row : List (Path × Node)) : List Names.Column :=
  row.filterMap fun e => if kept e.1 then e.2.column? else none

theorem columnsAt_append (kept : Path → Bool) (row others : List (Path × Node)) :
    columnsAt kept (row ++ others) = columnsAt kept row ++ columnsAt kept others :=
  List.filterMap_append

theorem columnsAt_inChild (kept : Path → Bool) (i : Nat) (row : List (Path × Node)) :
    columnsAt kept (Dialect.inChild i row) = columnsAt (fun p => kept (i :: p)) row := by
  rw [columnsAt, columnsAt, Dialect.inChild, List.filterMap_map]
  rfl

/-- Where all places are kept, the row tells what the views tell. -/
theorem columnsAt_eq_filterMap {kept : Path → Bool} {row : List (Path × Node)} {views : List View}
    (shown : List.Forall₂ (fun e u => Shows e.2 u) row views) (all : ∀ p, kept p = true) :
    columnsAt kept row = views.filterMap View.column? := by
  refine filterMap_eq_of_forall₂ shown ?_
  intro e v shows
  rw [if_pos (all _), shows.column?]

/-- What is kept of each child adds up to what is kept below their parent. -/
theorem alike_rowsBelow {children : List Child} {views : List View} {kept : Path → Bool}
    (within : Child → Path → Bool) (i : Nat)
    (tells : ∀ k c, children[k]? = some c → ∀ p, kept ((i + k) :: p) = within c p)
    (each : List.Forall₂ (fun c w => Query.Alike (filtered w.preorder)
      (columnsAt (within c) (Dialect.mysql.row budget c.node))) children views) :
    Query.Alike (filtered (preorders views))
      (columnsAt kept (Dialect.rowsBelow (Dialect.mysql.row budget) i children)) := by
  induction each generalizing i with
  | nil => exact fun _ => rfl
  | @cons c w rest others first _ ih =>
    have here : (fun p => kept (i :: p)) = within c := funext (tells 0 c rfl)
    have behind : ∀ k d, rest[k]? = some d → ∀ p, kept ((i + 1 + k) :: p) = within d p := by
      intro k d there
      rw [Nat.add_right_comm]
      exact tells (k + 1) d there
    rw [preorders, filtered_append, Dialect.rowsBelow, columnsAt_append, columnsAt_inChild, here]
    exact first.append (ih (i + 1) behind)

/-- By induction on the levels: the filters of a view use the columns of its node that are in a
filter, whatever its data say of the member that holds it. -/
theorem alike_filtered (sound : n.Sound) (image : image .mysql budget n = some v)
    (data : Entries Value) :
    Query.Alike (filtered (preorder { v with data := data }))
      (columnsAt (fun p => dataIs { v with data := data } fieldKey "where" || n.filteredAt p)
        (Dialect.mysql.row budget n)) := by
  induction budget generalizing n v data with
  | zero => cases image
  | succ budget ih =>
    have shown := forall₂_row sound image
    have root := shows_image sound image
    obtain ⟨-, views, images, rfl⟩ := exists_of_image image
    generalize entire :
      ({ (describe .mysql n).view with children := views, data := data } : View) = w
    have walk : w.preorder = w :: preorders views := by
      rw [← entire, preorder]
    have shows : Shows n w := by
      rw [← entire]
      exact ⟨root.sound, root.type, root.text⟩
    rw [preorder_eq] at shown
    obtain _ | ⟨-, below⟩ := shown
    by_cases filter : w.isFilter = true
    · -- all that is below a filter counts
      have all : ∀ p, (w.dataIs fieldKey "where" || n.filteredAt p) = true := by
        intro p
        rcases shows.isFilter_iff.mp filter with held | condition
        · rw [held, Bool.true_or]
        · rw [Node.filteredAt_of_onCondition condition, Bool.or_true]
      have columns := columnsAt_eq_filterMap (.cons (a := ([], n)) shows below) all
      rw [Dialect.row, columns, ← walk]
      exact alike_of_isFilter filter
    · have other := mt shows.isFilter_iff.mpr filter
      rw [not_or, Bool.not_eq_true] at other
      have outside : n.filteredAt [] = false := by
        simpa [Node.filteredAt] using other.2
      have children : w.children = views := by
        rw [← entire]
      rw [filtered_preorder, if_neg filter, List.nil_append, children, other.1, Dialect.row]
      simp only [Bool.false_or]
      rw [columnsAt, List.filterMap_cons, outside]
      refine alike_rowsBelow (fun c p => c.field == "where" || c.node.filteredAt p) 0 ?_ ?_
      · intro k c there p
        simp [Node.filteredAt, other.2, there]
      · refine forall₂_children sound images ?_
        intro c u here image
        have inner : Query.Alike (filtered (u.tagged c.field c.index).preorder) _ :=
          ih here image (u.tagged c.field c.index).data
        have held := dataIs_tagged u c.field c.index "where"
        rwa [← held]

end View

/-! ### Queries -/

/-- Only the nodes of columns matter. -/
theorem View.columnsAt_eq_filterMap_filter (kept : Path → Bool) (row : List (Path × Node)) :
    columnsAt kept row =
      (row.filter fun e => e.2.kind = .columnName ∧ kept e.1 = true).filterMap (·.2.column?) := by
  rw [columnsAt, List.filterMap_filter]
  refine List.filterMap_congr ?_
  intro e _
  by_cases column : e.2.kind = .columnName
  · simp [column]
  · simp [column, Node.column?_of_ne column]

namespace Query

variable {b : Bridge} {timing : Timing} {sql : String} {q : Query}

theorem filterColumns_eq_distinct (q : Query) :
    q.filterColumns = distinct (View.filtered (View.preorders q.trees)) := by
  rw [filterColumns, nodes_eq_preorders, View.filtered]
  simp only [View.walk_singleton]
  rfl

/-- The filters of a query use the columns of the statements that are in a filter. -/
theorem alike_filtered {levels : Nat} {statements : List Node} {trees : List View}
    (sound : ∀ n ∈ statements, n.Sound)
    (images : List.Forall₂ (fun n v => View.image .mysql levels n = some v) statements trees) :
    Alike (View.filtered (View.preorders trees))
      (View.columnsAt (Script.filteredAt statements) (Script.row levels statements)) := by
  refine View.alike_rowsBelow (fun c p => c.node.filteredAt p) 0 ?_ ?_
  · intro k c there p
    rw [List.getElem?_map] at there
    obtain ⟨n, statement, rfl⟩ := Option.map_eq_some_iff.mp there
    simp [Script.filteredAt, statement]
  · rw [List.forall₂_map_left_iff]
    induction images with
    | nil => exact .nil
    | @cons n v _ _ image _ ih =>
      obtain ⟨here, others⟩ := List.forall_mem_cons.mp sound
      refine .cons ?_ (ih others)
      have inner := View.alike_filtered here image v.data
      cases v
      simpa only [View.dataIs_image image, Bool.false_or] using inner

/-- The columns that filters use are those of the nodes in a filter, once each and in the order in
which they appear first; table and name are read off the text of such a node, whatever their
characters. -/
theorem filterColumns_eq_eraseDups (mysql : b.builder.dialect = .mysql)
    (parsed : (Query.parse b timing sql).2 = .ok q) :
    ∃ statements row, Script.parse sql = .ok statements ∧
      Script.Lists statements
        (fun p m => m.kind = .columnName ∧ Script.filteredAt statements p = true) row ∧
      q.filterColumns = (row.filterMap (·.2.column?)).eraseDups ∧
      ∀ e ∈ row, ∃ schema table name text, e.2 = .columnName schema table name ∧
        e.2.render = .ok text ∧
        Names.columnOf? text = some ⟨if table = "" then none else some table, name⟩ := by
  obtain ⟨statements, accepted, images⟩ := trees_of_parse mysql parsed
  have sound := Script.sound_of_parse accepted
  refine ⟨statements, _, accepted, Script.lists_filter images _, ?_, ?_⟩
  · rw [filterColumns_eq_distinct, (alike_filtered sound images).distinct, distinct_eq_eraseDups,
      View.columnsAt_eq_filterMap_filter]
  · intro e member
    obtain ⟨listed, kept⟩ := List.mem_filter.mp member
    obtain ⟨column, -⟩ := of_decide_eq_true kept
    obtain ⟨v, -, shows⟩ := exists_right_of_forall₂ (Script.forall₂_row images sound) listed
    obtain ⟨schema, table, name, spelled⟩ := Node.eq_columnName_of_kind shows.sound column
    rw [spelled] at shows ⊢
    exact ⟨schema, table, name, v.text, rfl, shows.text, shows.columnOf?⟩

/-- Two filters, one inside of the other, and a name with a dot and a back quote in it. -/
theorem filterColumns_eq_eraseDups_nested :
    ∃ q, (Query.parse .fresh ⟨0, .zero false, .zero false⟩
        "DELETE FROM t WHERE `a.``b`.c IN (SELECT d FROM u WHERE e)").2 = .ok q ∧
      ∃ statements row,
        Script.parse "DELETE FROM t WHERE `a.``b`.c IN (SELECT d FROM u WHERE e)" = .ok statements ∧
        Script.Lists statements
          (fun p m => m.kind = .columnName ∧ Script.filteredAt statements p = true) row ∧
        q.filterColumns = (row.filterMap (·.2.column?)).eraseDups ∧
        ∀ e ∈ row, ∃ schema table name text, e.2 = .columnName schema table name ∧
          e.2.render = .ok text ∧
          Names.columnOf? text = some ⟨if table = "" then none else some table, name⟩ :=
  have ⟨q, _, parsed, _⟩ := exists_parse (b := .fresh) (f := List.length) (a := 1) rfl
    (by decide +kernel) (by decide +kernel) _
  ⟨q, parsed, filterColumns_eq_eraseDups rfl parsed⟩

end Query

end SqlSyntax
