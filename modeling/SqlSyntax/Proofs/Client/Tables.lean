import SqlSyntax.Proofs.Client.IndexHints
import SqlSyntax.Proofs.Client.Nodes
import SqlSyntax.Proofs.Lexical.Spelling

/-!
# The tables of a query

A client reads the name of a table off the text of its node: it cuts the text at the first index
hint and drops the back quotes. That gives the name exactly if the name has no back quote, the first
index hint behind it names an index, and no hint begins inside of the quoted name.
-/

namespace SqlSyntax

/-- An index hint with an index in its list. -/
def Slot.listsIndexes : Slot → Bool
  | .node (.indexHint _ _ names) => !names.isEmpty
  | _ => false

namespace Names

open Text (backQuote quoteName)

/-! ### The cut -/

/-- The cut is made where the first hint begins, or nowhere. -/
theorem withoutHints_append (cs : List Char) :
    ∃ rest, withoutHints cs ++ rest = cs ∧ (rest = [] ∨ startsHint rest = true) := by
  induction cs with
  | nil => exact ⟨[], rfl, .inl rfl⟩
  | cons c cs ih =>
    rw [withoutHints]
    split
    · rename_i begins
      exact ⟨c :: cs, rfl, .inr begins⟩
    · obtain ⟨rest, whole, stop⟩ := ih
      exact ⟨rest, by rw [List.cons_append, whole], stop⟩

/-- The cut is made behind some text exactly if no hint begins in it and one begins behind it. -/
theorem withoutHints_eq_iff (front back : List Char) :
    withoutHints (front ++ back) = front ↔
      (∀ i < front.length, startsHint ((front ++ back).drop i) = false) ∧
        (back = [] ∨ startsHint back = true) := by
  induction front with
  | nil =>
    cases back with
    | nil => simp [withoutHints]
    | cons c cs => simp [withoutHints]
  | cons c front ih =>
    rw [List.length_cons, Nat.forall_lt_succ_left, List.cons_append, withoutHints]
    simp only [List.drop_zero, List.drop_succ_cons]
    by_cases begins : startsHint (c :: (front ++ back)) = true
    · simp [begins]
    · rw [if_neg begins, List.cons.injEq, and_assoc, ← ih]
      simp [begins]

theorem isBlank_of_startsHint {c : Char} {cs : List Char} (begins : startsHint (c :: cs) = true) :
    Text.isBlank c = true := by
  rw [startsHint_eq, afterIndex?, afterBlanks?] at begins
  by_contra solid
  rw [if_neg solid] at begins
  cases begins

/-! ### Quotes -/

/-- The text without its back quotes. -/
def unquoted (cs : List Char) : List Char :=
  cs.filter (· != backQuote)

theorem unquoted_eq_self_iff {cs : List Char} : unquoted cs = cs ↔ backQuote ∉ cs := by
  rw [unquoted, List.filter_eq_self]
  constructor
  · intro kept member
    simpa using kept backQuote member
  · intro absent c member
    rw [bne_iff_ne]
    rintro rfl
    exact absent member

theorem unquoted_append (cs others : List Char) :
    unquoted (cs ++ others) = unquoted cs ++ unquoted others :=
  List.filter_append ..

theorem unquoted_doubleEach (cs : List Char) :
    unquoted (Text.doubleEach backQuote cs) = unquoted cs := by
  induction cs with
  | nil => rfl
  | cons c cs ih =>
    simp only [unquoted] at ih ⊢
    rw [Text.doubleEach]
    split <;> simp_all

theorem unquoted_quoteName (name : String) :
    unquoted (quoteName name).toList = unquoted name.toList := by
  have mark : unquoted [backQuote] = [] := rfl
  rw [Text.toList_quoteName, ← List.singleton_append, unquoted_append, unquoted_append,
    unquoted_doubleEach, mark, List.nil_append, List.append_nil]

/-- Schema and name of a table as its text has them. -/
def quotedTable (schema name : String) : String :=
  qualifier schema ++ quoteName name

/-- Schema and name of a table with a dot between them. -/
def qualified (schema name : String) : String :=
  if schema = "" then name else schema ++ "." ++ name

theorem unquoted_quotedTable (schema name : String) :
    unquoted (quotedTable schema name).toList = unquoted (qualified schema name).toList := by
  rw [quotedTable, qualified, qualifier]
  by_cases bare : schema = ""
  · simp [bare, unquoted_quoteName]
  · rw [if_neg bare, if_neg (by simpa using bare)]
    simp only [String.toList_append, unquoted_append, unquoted_quoteName]

/-! ### Tables told from texts -/

theorem trimmed_of_solid {c d : Char} {cs ds : List Char} {text : String}
    (first : text.toList = c :: cs) (last : text.toList = ds ++ [d])
    (solid : Text.isBlank c = false)
    (closed : Text.isBlank d = false) : Text.trimmed text = text := by
  rw [Text.trimmed, first, List.dropWhile_cons_of_neg (by simp [solid]), ← first, last,
    List.reverse_append, List.reverse_singleton, List.singleton_append,
    List.dropWhile_cons_of_neg (by simp [closed]), List.reverse_cons, List.reverse_reverse, ← last,
    String.ofList_toList]

/-- The cut does its work exactly if it is made right behind the quoted name. -/
theorem unquoted_withoutHints_iff {front back : List Char} (spaced : ∀ c ∈ back.head?, c = ' ') :
    unquoted (withoutHints (front ++ back)) = unquoted front ↔
      withoutHints (front ++ back) = front := by
  refine ⟨fun same => ?_, fun same => by rw [same]⟩
  obtain ⟨rest, whole, stop⟩ := withoutHints_append (front ++ back)
  generalize withoutHints (front ++ back) = kept at same whole
  rcases List.append_eq_append_iff.mp whole with ⟨more, rfl, rfl⟩ | ⟨more, rfl, rfl⟩
  · cases more with
    | nil => rw [List.append_nil]
    | cons c more =>
      -- a blank of the name would be cut off
      have blank := isBlank_of_startsHint (stop.resolve_left (List.cons_ne_nil _ _))
      have other : c ≠ backQuote := by
        rintro rfl
        cases blank
      rw [unquoted_append, List.self_eq_append_right, unquoted, List.filter_cons_of_pos (by simpa)]
        at same
      cases same
  · cases more with
    | nil => rw [List.append_nil]
    | cons c more =>
      -- the space in front of a hint would be kept
      obtain rfl := spaced c rfl
      rw [unquoted_append, List.append_right_eq_self] at same
      cases same

/-! ### Texts of index hints -/

/-- The verb of a hint as its text has it. -/
def verbText (verb : String) : List Char :=
  (Text.toUpper (verb ++ " INDEX")).toList

/-- The scope of a hint as its text has it. -/
def scopeText (scope : String) : List Char :=
  (if scope.isEmpty then "" else Text.toUpper (" FOR " ++ scope)).toList

theorem afterIndex?_verbText {verb : String} (known : verb ∈ hintVerbs) (rest : List Char) :
    afterIndex? (' ' :: verbText verb ++ rest) = some rest := by
  have all : ∀ verb ∈ hintVerbs, afterIndex? (' ' :: verbText verb) = some [] := by decide +kernel
  exact Reads.append (fun _ => reads_index) (all verb known) rest

theorem list_scopeText {scope : String} (known : scope ∈ hintScopes) (tail : List Char) :
    ((afterScope? (scopeText scope ++ ' ' :: '(' :: tail)).any hasIndexList ||
      hasIndexList (scopeText scope ++ ' ' :: '(' :: tail)) =
        hasIndexList (' ' :: '(' :: tail) := by
  by_cases unlimited : scope = ""
  · subst unlimited
    rfl
  · have all : ∀ scope ∈ hintScopes, scope ≠ "" → afterScope? (scopeText scope) = some [] ∧
        (scopeText scope).take 2 = [' ', 'F'] := by decide +kernel
    obtain ⟨whole, first⟩ := all scope known unlimited
    have unlisted : hasIndexList (scopeText scope ++ ' ' :: '(' :: tail) = false := by
      rw [← List.take_append_drop 2 (scopeText scope), first]
      rfl
    rw [Reads.append (fun _ => reads_scope) whole, unlisted, Bool.or_false]
    rfl

theorem exists_nameList (name : String) (names : List String) :
    ∃ inner, (nameList (name :: names)).toList = backQuote :: inner := by
  rw [nameList, String.toList_intercalate, List.map_cons, List.map_cons, Text.toList_quoteName]
  cases names with
  | nil => exact ⟨_, List.intercalate_singleton⟩
  | cons other names => exact ⟨_, List.intercalate_cons_cons⟩

/-- A list that is closed somewhere is taken for one unless it is closed at once. -/
theorem hasIndexList_of_closed {list : List Char} (closed : ')' ∈ list) :
    hasIndexList (' ' :: '(' :: list) = (list.head? != some ')') := by
  have opened : hasIndexList (' ' :: '(' :: list) =
      (decide (0 < (list.takeWhile (· != ')')).length) &&
        decide ((list.takeWhile (· != ')')).length < list.length)) := rfl
  have shorter : (list.takeWhile (· != ')')).length < list.length := by
    by_contra long
    have whole := (List.takeWhile_prefix (· != ')')).eq_of_length_le (Nat.le_of_not_lt long)
    have other := List.takeWhile_eq_self_iff.mp whole ')' closed
    cases other
  rw [opened, decide_eq_true shorter, Bool.and_true]
  cases list with
  | nil => cases closed
  | cons c rest => by_cases last : c = ')' <;> simp [last]

/-- The list of a hint is taken for one if it names an index. -/
theorem hasIndexList_nameList (names : List String) (more : List Char) :
    hasIndexList (' ' :: '(' :: ((nameList names).toList ++ ')' :: more)) = !names.isEmpty := by
  rw [hasIndexList_of_closed (by simp)]
  cases names with
  | nil => rfl
  | cons name names =>
    obtain ⟨inner, spelled⟩ := exists_nameList name names
    rw [spelled]
    rfl

/-- A hint begins where the text of one stands, if it names an index. -/
theorem startsHint_render {verb scope : String} {names : List String} {text : String}
    (rendered : (Node.indexHint verb scope names).render = .ok text) (verbal : verb ∈ hintVerbs)
    (limited : scope ∈ hintScopes) (more : List Char) :
    startsHint (' ' :: text.toList ++ more) = !names.isEmpty := by
  have spelled : ' ' :: text.toList ++ more = ' ' :: verbText verb ++
      (scopeText scope ++ ' ' :: '(' :: ((nameList names).toList ++ ')' :: more)) := by
    rw [← Except.ok.inj rendered]
    simp [verbText, scopeText]
  rw [spelled, startsHint_eq, afterIndex?_verbText verbal, Option.any_some, list_scopeText limited,
    hasIndexList_nameList]

theorem exists_render_hint (verb scope : String) (names : List String) :
    ∃ text inner, (Node.indexHint verb scope names).render = .ok text ∧
      text.toList = inner ++ [')'] :=
  ⟨_, _, rfl, String.toList_append⟩

/-- The hints of a table stand behind its name, each after a space; the first of them is taken for
one if it names an index. -/
theorem renderSpaced_hints {hints : List Slot} (all : hints.all Slot.isHint = true)
    (sound : ∀ x, Slot.node x ∈ hints → x.Sound) {text : String}
    (rendered : Slot.renderSpaced hints = .ok text) :
    hints = [] ∧ text = "" ∨ ∃ inner, text.toList = ' ' :: inner ++ [')'] ∧
      startsHint text.toList = hints.head?.all Slot.listsIndexes := by
  induction hints generalizing text with
  | nil => exact .inl ⟨rfl, (Except.ok.inj rendered).symm⟩
  | cons first rest ih =>
    rw [List.all_cons, Bool.and_eq_true] at all
    rcases first with x | _ | _ | _ | _
    · cases x with
      | indexHint verb scope names =>
        obtain ⟨proper, -⟩ := sound _ List.mem_cons_self
        obtain ⟨own, inner, told, closed⟩ := exists_render_hint verb scope names
        have begins := startsHint_render told proper.names.1 proper.names.2
        cases behind : Slot.renderSpaced rest with
        | error e =>
          rw [Slot.renderSpaced, behind] at rendered
          cases rendered
        | ok others =>
          have whole : text.toList = ' ' :: own.toList ++ others.toList := by
            rw [Slot.renderSpaced, Slot.render, told, behind] at rendered
            rw [← Except.ok.inj rendered]
            simp
          rw [whole, begins]
          rcases ih all.2 (fun x held => sound x (List.mem_cons_of_mem _ held)) behind with
            ⟨-, rfl⟩ | ⟨last, ends, -⟩
          · exact .inr ⟨inner, by rw [closed]; simp, rfl⟩
          · exact .inr ⟨own.toList ++ ' ' :: last, by rw [ends]; simp, rfl⟩
      | _ => cases all.1
    all_goals cases all.1

theorem tableOf?_eq_some_iff {text table : String} (solid : Text.trimmed text = text)
    (named : table ≠ "") :
    tableOf? text = some table ↔ unquoted (withoutHints text.toList) = table.toList := by
  have code : tableOf? text = if (unquoted (withoutHints text.toList)).isEmpty then none
      else some (String.ofList (unquoted (withoutHints text.toList))) := by
    rw [tableOf?, solid]
    rfl
  rw [code]
  cases unquoted (withoutHints text.toList) with
  | nil =>
    refine ⟨nofun, fun same => absurd ?_ named⟩
    exact String.toList_inj.mp same.symm
  | cons c cs =>
    rw [List.isEmpty_cons, if_neg Bool.false_ne_true, Option.some.injEq, ← String.toList_inj,
      String.toList_ofList]

/-- A table is told from its text as it is exactly if all that is left is its quoted name, and there
is no other back quote in it. -/
theorem unquoted_withoutHints_eq_iff {schema name : String} {back : List Char}
    (spaced : ∀ c ∈ back.head?, c = ' ') :
    unquoted (withoutHints ((quotedTable schema name).toList ++ back)) =
        (qualified schema name).toList ↔
      backQuote ∉ (qualified schema name).toList ∧
        withoutHints ((quotedTable schema name).toList ++ back) =
          (quotedTable schema name).toList := by
  rw [← unquoted_withoutHints_iff spaced, unquoted_quotedTable]
  constructor
  · intro same
    have plain : backQuote ∉ (qualified schema name).toList := by
      rw [← same]
      intro member
      simpa using List.of_mem_filter member
    exact ⟨plain, by rw [same, unquoted_eq_self_iff.mpr plain]⟩
  · rintro ⟨plain, same⟩
    rw [same, unquoted_eq_self_iff.mpr plain]

/-- When a table is told from its text as it is. -/
structure Legible (schema name : String) (hints : List Slot) (text : String) : Prop where
  plain : backQuote ∉ (qualified schema name).toList
  listed : hints.head?.all Slot.listsIndexes = true
  clear : ∀ i < (quotedTable schema name).length, text.toList.drop i ∉ hint * ⊤

theorem exists_quotedTable (schema name : String) :
    ∃ inner, (quotedTable schema name).toList = backQuote :: inner ++ [backQuote] := by
  rw [quotedTable, qualifier, String.toList_append, Text.toList_quoteName]
  split
  · exact ⟨_, rfl⟩
  · refine ⟨Text.doubleEach backQuote schema.toList ++ backQuote :: '.' :: backQuote ::
      Text.doubleEach backQuote name.toList, ?_⟩
    simp [Text.toList_quoteName]

theorem qualified_ne_empty {name : String} (named : name ≠ "") (schema : String) :
    qualified schema name ≠ "" := by
  rw [qualified]
  split
  · exact named
  · intro empty
    have lost := congrArg String.length empty
    simp at lost

/-- A table is told from the text of its node as it is exactly if it is legible. -/
theorem tableOf?_iff_legible {schema name : String} {hints : List Slot} {text : String}
    (sound : (Node.tableName schema name hints).Sound)
    (rendered : (Node.tableName schema name hints).render = .ok text) :
    tableOf? text = some (qualified schema name) ↔ Legible schema name hints text := by
  obtain ⟨proper, parts⟩ := sound
  obtain ⟨named, all⟩ := proper.names
  obtain ⟨behind, told, whole⟩ : ∃ behind, Slot.renderSpaced hints = .ok behind ∧
      text.toList = (quotedTable schema name).toList ++ behind.toList := by
    cases told : Slot.renderSpaced hints with
    | error e =>
      rw [Node.render, told] at rendered
      cases rendered
    | ok behind =>
      rw [Node.render, told] at rendered
      refine ⟨behind, rfl, ?_⟩
      rw [← Except.ok.inj rendered, String.toList_append]
      rfl
  have hinted := renderSpaced_hints all (fun x held => parts x (List.mem_append_left [] held)) told
  have spaced : ∀ c ∈ behind.toList.head?, c = ' ' := by
    rcases hinted with ⟨-, rfl⟩ | ⟨inner, spelled, -⟩
    · nofun
    · rw [spelled]
      rintro c ⟨⟩
      rfl
  have stop : (behind.toList = [] ∨ startsHint behind.toList = true) ↔
      hints.head?.all Slot.listsIndexes = true := by
    rcases hinted with ⟨rfl, rfl⟩ | ⟨inner, spelled, begins⟩
    · simp
    · rw [← begins, spelled]
      simp
  have solid : Text.trimmed text = text := by
    obtain ⟨quoted, bounds⟩ := exists_quotedTable schema name
    rcases hinted with ⟨-, rfl⟩ | ⟨inner, spelled, -⟩
    · have ends : text.toList = (backQuote :: quoted) ++ [backQuote] := by
        rw [whole, bounds]
        simp
      exact trimmed_of_solid ends ends (by decide) (by decide)
    · have ends : text.toList = (backQuote :: quoted ++ backQuote :: ' ' :: inner) ++ [')'] := by
        rw [whole, bounds, spelled]
        simp
      exact trimmed_of_solid ends ends (by decide) (by decide)
  rw [tableOf?_eq_some_iff solid (qualified_ne_empty named schema), whole,
    unquoted_withoutHints_eq_iff spaced, withoutHints_eq_iff, stop, String.length_toList, ← whole]
  simp only [Bool.eq_false_iff, ne_eq, startsHint_iff]
  constructor
  · rintro ⟨plain, clear, listed⟩
    exact ⟨plain, listed, clear⟩
  · rintro ⟨plain, listed, clear⟩
    exact ⟨plain, clear, listed⟩

end Names

/-! ### Queries -/

namespace Node

/-- The table that a node is about. -/
def table? : Node → Option String
  | .tableName schema name _ => some (Names.qualified schema name)
  | _ => none

/-- The table that is told from the text of a node. -/
def reported? (n : Node) : Option String :=
  n.render.toOption.bind Names.tableOf?

/-- The node of a table that is told from its text as it is. -/
def Legible (n : Node) : Prop :=
  ∃ schema name hints text, n = .tableName schema name hints ∧ n.render = .ok text ∧
    Names.Legible schema name hints text

theorem eq_tableName_of_kind {n : Node} (sound : n.Sound) (table : n.kind = .tableName) :
    ∃ schema name hints, n = .tableName schema name hints := by
  obtain ⟨proper, -⟩ := sound
  cases n with
  | tableName schema name hints => exact ⟨schema, name, hints, rfl⟩
  | loose => cases proper.whole
  | _ => cases table

end Node

namespace View

variable {n : Node} {v : View}

theorem Shows.reported? (shows : Shows n v) : n.reported? = Names.tableOf? v.text := by
  rw [Node.reported?, shows.text, Except.toOption, Option.bind_some]

/-- Only the nodes of tables matter to a client, and it tells their tables from their texts. -/
theorem Shows.table? (shows : Shows n v) :
    (if v.isTableReference then v.table? else none) =
      if n.kind = .tableName then n.reported? else none := by
  have named : v.shortType = "TableName" ↔ n.kind = .tableName := by
    rw [shows.shortType]
    exact ⟨Kind.eq_tableName_of_name, fun kind => kind ▸ rfl⟩
  by_cases kind : n.kind = .tableName
  · have reference : v.isTableReference = true := by
      have holds : v.shortTypeHolds "TableName" = true := by
        rw [shortTypeHolds, named.mpr kind]
        decide +kernel
      rw [isTableReference, List.any_cons, holds, Bool.true_or]
    rw [if_pos reference, if_pos kind, View.table?, shows.reported?]
    by_cases empty : v.text = ""
    · rw [empty, if_neg (by simp)]
      rfl
    · rw [if_pos ⟨named.mpr kind, by simpa using empty⟩]
  · have untold : v.table? = none := if_neg fun both => kind (named.mp both.1)
    rw [untold, ite_self, if_neg kind]

/-- What is told of a node is its table exactly if it is legible. -/
theorem Shows.reported?_eq_iff (shows : Shows n v) (table : n.kind = .tableName) :
    n.reported? = n.table? ↔ n.Legible := by
  obtain ⟨schema, name, hints, rfl⟩ := Node.eq_tableName_of_kind shows.sound table
  have told := Names.tableOf?_iff_legible shows.sound shows.text
  rw [shows.reported?, Node.table?, told]
  constructor
  · intro legible
    exact ⟨schema, name, hints, v.text, rfl, shows.text, legible⟩
  · rintro ⟨_, _, _, text, same, rendered, legible⟩
    cases same
    rwa [← Except.ok.inj (shows.text.symm.trans rendered)] at legible

end View

namespace Query

variable {b : Bridge} {timing : Timing} {sql : String} {q : Query}

theorem tables_eq_distinct {levels : Nat} {statements : List Node}
    (sound : ∀ n ∈ statements, n.Sound)
    (images : List.Forall₂ (fun n v => View.image .mysql levels n = some v) statements q.trees) :
    q.tables = distinct (((Script.row levels statements).filter fun e =>
      e.2.kind = .tableName).filterMap (·.2.reported?)) := by
  rw [tables, nodes_eq_preorders, List.filterMap_filter]
  have same := filterMap_eq_of_forall₂ (f := fun e : Path × Node =>
    if e.2.kind = .tableName then e.2.reported? else none)
    (Script.forall₂_row images sound) fun e v shows => shows.table?.symm
  simp [← same]

/-- A client tells the tables of a query from the texts of their nodes, once each and in the order
in which they appear first. What it tells is right for those nodes that are legible, and for no
other; so it tells all tables of a query as they are if all are legible. -/
theorem tables_eq_eraseDups (mysql : b.builder.dialect = .mysql)
    (parsed : (Query.parse b timing sql).2 = .ok q) :
    ∃ statements row, Script.parse sql = .ok statements ∧
      Script.Lists statements (fun _ m => m.kind = .tableName) row ∧
      q.tables = (row.filterMap (·.2.reported?)).eraseDups ∧
      (∀ e ∈ row, e.2.reported? = e.2.table? ↔ e.2.Legible) ∧
      ((∀ e ∈ row, e.2.Legible) → q.tables = (row.filterMap (·.2.table?)).eraseDups) := by
  obtain ⟨statements, accepted, images⟩ := trees_of_parse mysql parsed
  have sound := Script.sound_of_parse accepted
  have told := (tables_eq_distinct sound images).trans (distinct_eq_eraseDups _)
  have each : ∀ e ∈ (Script.row b.builder.depthLimit.toNat statements).filter
      (·.2.kind = .tableName),
      e.2.reported? = e.2.table? ↔ e.2.Legible := by
    intro e member
    obtain ⟨listed, table⟩ := List.mem_filter.mp member
    obtain ⟨v, -, shows⟩ := exists_right_of_forall₂ (Script.forall₂_row images sound) listed
    exact shows.reported?_eq_iff (of_decide_eq_true table)
  refine ⟨statements, _, accepted, Script.lists_filter images _, told, each, ?_⟩
  intro legible
  rw [told]
  refine congrArg _ (List.filterMap_congr ?_)
  intro e member
  exact (each e member).mpr (legible e member)

/-- A table behind which the first hint names an index, and one without hints. -/
theorem tables_eq_eraseDups_hinted :
    ∃ q, (Query.parse .fresh ⟨0, .zero false, .zero false⟩
        "SELECT 1 FROM s.t USE INDEX FOR JOIN (i), u").2 = .ok q ∧
      ∃ statements row,
        Script.parse "SELECT 1 FROM s.t USE INDEX FOR JOIN (i), u" = .ok statements ∧
        Script.Lists statements (fun _ m => m.kind = .tableName) row ∧
        q.tables = (row.filterMap (·.2.reported?)).eraseDups ∧
        (∀ e ∈ row, e.2.reported? = e.2.table? ↔ e.2.Legible) ∧
        ((∀ e ∈ row, e.2.Legible) → q.tables = (row.filterMap (·.2.table?)).eraseDups) :=
  have ⟨q, _, parsed, _⟩ := exists_parse (b := .fresh) (f := List.length) (a := 1) rfl
    (by decide +kernel) (by decide +kernel) _
  ⟨q, parsed, tables_eq_eraseDups rfl parsed⟩

/-- The tables of an accepted text can be computed from its statements. -/
theorem exists_tables (mysql : b.builder.dialect = .mysql)
    (short : (sql.length : Int) ≤ b.builder.lengthLimit) {tables : List String}
    (computed : Script.computed? b.builder.depthLimit.toNat sql (fun statements =>
      distinct (((Script.row b.builder.depthLimit.toNat statements).filter
        (·.2.kind = .tableName)).filterMap (·.2.reported?))) = some tables) (timing : Timing) :
    ∃ q, (Query.parse b timing sql).2 = .ok q ∧ q.tables = tables := by
  obtain ⟨q, statements, parsed, accepted, images, told⟩ := exists_parse mysql short computed timing
  exact ⟨q, parsed, (tables_eq_distinct (Script.sound_of_parse accepted) images).trans told⟩

/-- Each condition is needed: an empty list of indexes, a back quote in a name, and a hint in
one. -/
theorem tables_illegible :
    (∃ q, (Query.parse .fresh ⟨0, .zero false, .zero false⟩ "SELECT * FROM t USE INDEX ()").2 =
        .ok q ∧ q.tables = ["t USE INDEX ()"]) ∧
      (∃ q, (Query.parse .fresh ⟨0, .zero false, .zero false⟩ "SELECT * FROM `a``b`").2 =
        .ok q ∧ q.tables = ["ab"]) ∧
      ∃ q, (Query.parse .fresh ⟨0, .zero false, .zero false⟩ "SELECT * FROM `a use index (b)`").2 =
        .ok q ∧ q.tables = ["a"] :=
  ⟨exists_tables rfl (by decide +kernel) (by decide +kernel) _,
    exists_tables rfl (by decide +kernel) (by decide +kernel) _,
    exists_tables rfl (by decide +kernel) (by decide +kernel) _⟩

end Query

end SqlSyntax
