import SqlSyntax.Proofs.Tree.Complete

/-!
# Children in the text of their parent

The text of a node holds the texts of its children one after another, without overlap. They stand in
the order of the members, except that a limit tells its offset before its count. Some nodes could
hold children that their text leaves out: a list beside a query in a set, arguments beside a star, a
condition on a join of one side. Nothing is asserted of these, and a parser does not build them.
-/

namespace SqlSyntax

/-! ### Pieces in a text -/

/-- The pieces stand in the text one after another, with a gap before each and after the last. -/
def Interleaves : List String → String → Prop
  | [], _ => True
  | piece :: pieces, text => ∃ gap rest, text = gap ++ piece ++ rest ∧ Interleaves pieces rest

namespace Interleaves

variable {pieces others : List String} {text other : String}

theorem piece (text : String) : Interleaves [text] text :=
  ⟨"", "", by simp, trivial⟩

theorem after (gap : String) (inside : Interleaves pieces text) :
    Interleaves pieces (gap ++ text) := by
  cases pieces with
  | nil => trivial
  | cons piece pieces =>
    obtain ⟨before, rest, rfl, inside⟩ := inside
    exact ⟨gap ++ before, rest, by simp only [String.append_assoc], inside⟩

/-- By induction on the first pieces: what follows the last of them goes on with the second text. -/
theorem append (first : Interleaves pieces text) (second : Interleaves others other) :
    Interleaves (pieces ++ others) (text ++ other) := by
  induction pieces generalizing text with
  | nil => exact second.after text
  | cons piece pieces ih =>
    obtain ⟨gap, rest, rfl, inside⟩ := first
    exact ⟨gap, rest ++ other, by simp only [String.append_assoc], ih inside⟩

theorem gap {last : String} (inside : Interleaves pieces text) :
    Interleaves pieces (text ++ last) := by
  have longer : Interleaves (pieces ++ []) (text ++ last) := inside.append trivial
  rwa [List.append_nil] at longer

end Interleaves

/-! ### Slots -/

/-- If there is a text, the pieces stand in it. -/
def Lays (pieces : List String) (rendered : Except RenderError String) : Prop :=
  ∀ text, rendered = .ok text → Interleaves pieces text

theorem lays_ok {pieces : List String} {text : String} (inside : Interleaves pieces text) :
    Lays pieces (.ok text) := by
  rintro _ ⟨⟩
  exact inside

theorem lays_error {pieces : List String} (e : RenderError) : Lays pieces (.error e) := by
  rintro _ ⟨⟩

theorem Lays.bind {pieces all : List String} {rendered : Except RenderError String}
    {next : String → Except RenderError String} (lays : Lays pieces rendered)
    (onward : ∀ text, Interleaves pieces text → Lays all (next text)) :
    Lays all (rendered >>= next) := by
  cases rendered with
  | error e => exact lays_error e
  | ok text => exact onward text (lays text rfl)

namespace Slot

/-- The text of the node that a slot holds, if it has one. -/
def texts : Slot → List String
  | .node n =>
    match n.render with
    | .ok t => [t]
    | .error _ => []
  | _ => []

theorem texts_of_isEmpty {s : Slot} (empty : s.isEmpty = true) : s.texts = [] := by
  cases s with
  | node n => cases empty
  | _ => rfl

theorem lays_render (s : Slot) : Lays s.texts s.render := by
  cases s with
  | node n =>
    intro text ok
    rw [Slot.render] at ok
    rw [texts, ok]
    exact Interleaves.piece text
  | _ => exact lays_error _

theorem lays_renderAfter (lead : String) (s : Slot) : Lays s.texts (s.renderAfter lead) := by
  cases s with
  | node n => exact (lays_render (.node n)).bind fun text inside => lays_ok (inside.after lead)
  | plain v => exact fun _ _ => trivial
  | _ => exact lays_error _

theorem lays_renderBefore (trail : String) (s : Slot) : Lays s.texts (s.renderBefore trail) := by
  cases s with
  | node n => exact (lays_render (.node n)).bind fun text inside => lays_ok inside.gap
  | plain v => exact fun _ _ => trivial
  | _ => exact lays_error _

theorem lays_renderSeparated (items : List Slot) :
    Lays (items.flatMap texts) (renderSeparated items) := by
  induction items with
  | nil => exact fun _ _ => trivial
  | cons s rest ih =>
    cases rest with
    | nil => simpa [renderSeparated] using s.lays_render
    | cons next rest =>
      rw [renderSeparated, List.flatMap_cons]
      · exact s.lays_render.bind fun text first => ih.bind fun texts others =>
          lays_ok (first.gap.append others)
      · simp

theorem lays_renderSpaced (items : List Slot) :
    Lays (items.flatMap texts) (renderSpaced items) := by
  induction items with
  | nil => exact fun _ _ => trivial
  | cons s rest ih =>
    rw [renderSpaced, List.flatMap_cons]
    exact s.lays_render.bind fun text first => ih.bind fun texts others =>
      lays_ok ((first.after " ").append others)

theorem lays_renderCombined (items : List Slot) (operators : List String) :
    Lays (items.flatMap texts) (renderCombined items operators) := by
  induction items generalizing operators with
  | nil => exact fun _ _ => trivial
  | cons s rest ih =>
    cases operators with
    | nil => exact lays_error _
    | cons op operators =>
      rw [renderCombined, List.flatMap_cons]
      exact s.lays_render.bind fun text first => (ih operators).bind fun texts others =>
        lays_ok ((first.after _).append others)

/-- A list that is left out with all that belongs to it, if it is empty. -/
theorem interleaves_unless_empty {items : List Slot} {text : String}
    (inside : Interleaves (items.flatMap texts) text) :
    Interleaves (items.flatMap texts) (if items.isEmpty then "" else text) := by
  cases items with
  | nil => trivial
  | cons s rest => exact inside

end Slot

/-! ### Nodes -/

namespace Node

/-- Whether the text of the node tells all its children. -/
def showsAll : Node → Bool
  | .inSet _ items _ query => items.isEmpty || query.isEmpty
  | .aggregate _ args _ star => !star || args.isEmpty
  | .join _ right _ on columns => !right.isEmpty || on.isEmpty && columns.isEmpty
  | _ => true

/-- The slots in the order in which the text tells them. -/
def told : Node → List Slot
  | .limit count offset => [offset, count]
  | n => n.slots

open Slot

/-- The rows of an insertion come from one source: a list, assignments or a query. -/
theorem single_source {rows assignments : List Slot} {query : Slot}
    (one : countTrue [!rows.isEmpty, !assignments.isEmpty, !query.isEmpty] = 1) :
    assignments = [] ∧ query.isEmpty = true ∨
      rows = [] ∧ assignments.isEmpty = false ∧ query.isEmpty = true ∨
      rows = [] ∧ assignments = [] ∧ query.isEmpty = false := by
  cases rows <;> cases assignments <;> cases missing : query.isEmpty <;>
    simp_all [countTrue]

theorem lays_render {n : Node} (whole : n.isWhole = true) (shown : n.showsAll = true) :
    Lays (n.told.flatMap Slot.texts) n.render := by
  cases n
  case bare family => cases whole
  case loose kind members => cases whole
  case value v =>
    cases v with
    | plain v => exact fun _ _ => trivial
    | _ => cases whole
  all_goals
    simp only [told, slots, members, Member.held, List.flatMap_cons, List.flatMap_nil,
      List.cons_append, List.nil_append, List.append_nil, List.flatMap_append, ← List.append_assoc]
  case setOperation selects operators =>
    cases selects with
    | nil => exact fun _ _ => trivial
    | cons first rest =>
      rw [Node.render, List.flatMap_cons]
      exact first.lays_render.bind fun f inside => (lays_renderCombined rest operators).bind
        fun r others => lays_ok (inside.append others)
  case like expr pattern negated escape =>
    cases escape
    all_goals
      rw [Node.render]
      exact expr.lays_render.bind fun x first => pattern.lays_render.bind fun p second =>
        lays_ok (first.gap.append second).gap
  all_goals rw [Node.render]
  case paramMarker order => exact fun _ _ => trivial
  case variableRef name isSystem => exact fun _ _ => trivial
  case columnName schema table name => exact fun _ _ => trivial
  case columnRef name => exact name.lays_render
  case binaryOp op left right =>
    exact left.lays_render.bind fun l first => right.lays_render.bind fun r second =>
      lays_ok (first.gap.gap.gap.append second)
  case unaryOp op operand => exact operand.lays_render.bind fun x inside => lays_ok (inside.after _)
  case isNull expr negated => exact expr.lays_render.bind fun x inside => lays_ok inside.gap
  case isTruth expr negated truth =>
    exact expr.lays_render.bind fun x inside => lays_ok inside.gap.gap
  case inSet expr items negated query =>
    refine expr.lays_render.bind fun x first => ?_
    dsimp only
    split
    · rename_i missing
      rw [texts_of_isEmpty missing, List.append_nil]
      exact (lays_renderSeparated items).bind fun list listed =>
        lays_ok (first.gap.gap.append listed).gap
    · rename_i present
      have none : items = [] := by simpa [showsAll, present] using shown
      rw [none, List.flatMap_nil, List.append_nil]
      exact query.lays_render.bind fun q second => lays_ok (first.gap.append second)
  case regexp expr pattern negated =>
    exact expr.lays_render.bind fun x first => pattern.lays_render.bind fun p second =>
      lays_ok (first.gap.append second)
  case between expr low high negated =>
    exact expr.lays_render.bind fun x first => low.lays_render.bind fun l second =>
      high.lays_render.bind fun h third => lays_ok ((first.gap.append second).gap.append third)
  case paren expr => exact expr.lays_render.bind fun x inside => lays_ok (inside.after _).gap
  case row values =>
    exact (lays_renderSeparated values).bind fun list inside => lays_ok (inside.after _).gap
  case defaultValue => exact fun _ _ => trivial
  case subquery query => exact query.lays_render.bind fun q inside => lays_ok (inside.after _).gap
  case existsQuery query => exact query.lays_render.bind fun q inside => lays_ok (inside.after _)
  case whenClause expr result =>
    exact expr.lays_render.bind fun x first => result.lays_render.bind fun r second =>
      lays_ok ((first.after _).gap.append second)
  case caseOf operand whens otherwise =>
    exact (operand.lays_renderAfter " ").bind fun v first => (lays_renderSpaced whens).bind
      fun ws second => (otherwise.lays_renderAfter " ELSE ").bind fun e third =>
        lays_ok (((first.after _).append second).append third).gap
  case funcCall name args =>
    exact (lays_renderSeparated args).bind fun list inside => lays_ok (inside.after _).gap
  case aggregate name args distinct star =>
    cases star with
    | true =>
      have none : args = [] := by simpa [showsAll] using shown
      rw [none]
      exact fun _ _ => trivial
    | false =>
      exact (lays_renderSeparated args).bind fun list inside => lays_ok (inside.after _).gap
  case wildcard schema table => exact fun _ _ => trivial
  case selectField star expr asName =>
    simp only [isWhole] at whole
    split at whole
    · rename_i missing
      rw [if_pos missing, texts_of_isEmpty missing, List.nil_append]
      exact expr.lays_render.bind fun x inside => lays_ok inside.gap
    · rename_i present
      obtain ⟨-, empty⟩ := Bool.and_eq_true_iff.mp whole
      rw [if_neg present, texts_of_isEmpty empty, List.append_nil]
      exact star.lays_render
  case fieldList fields => exact lays_renderSeparated fields
  case indexHint verb scope names => exact fun _ _ => trivial
  case tableName schema name hints =>
    exact (lays_renderSpaced hints).bind fun hs inside => lays_ok (inside.after _)
  case tableSource source asName => exact source.lays_render.bind fun s inside => lays_ok inside.gap
  case onCondition expr => exact expr.lays_render
  case join left right side on columns =>
    refine left.lays_render.bind fun l first => ?_
    split
    · rename_i missing
      obtain ⟨unbound, none⟩ : on.isEmpty = true ∧ columns = [] := by
        simpa [showsAll, missing] using shown
      rw [texts_of_isEmpty missing, texts_of_isEmpty unbound, none, List.flatMap_nil]
      simp only [List.append_nil]
      exact lays_ok first
    · refine right.lays_render.bind fun r second => ?_
      refine (on.lays_renderAfter " ON ").bind fun o third => ?_
      refine (lays_renderSeparated columns).bind fun u fourth => ?_
      have enclosed : Interleaves right.texts
          (if right.isProperJoin then "(" ++ r ++ ")" else r) := by
        split
        · exact (second.after _).gap
        · exact second
      have named : Interleaves (columns.flatMap texts)
          (if columns.isEmpty then "" else " USING (" ++ u ++ ")") :=
        interleaves_unless_empty (fourth.after " USING (").gap
      exact lays_ok (((first.gap.gap.gap.append enclosed).append third).append named)
  case tableRefs refs => exact refs.lays_render
  case byItem expr desc => exact expr.lays_render.bind fun x inside => lays_ok inside.gap
  case groupBy items =>
    exact (lays_renderSeparated items).bind fun list inside => lays_ok (inside.after _)
  case having expr => exact expr.lays_render.bind fun x inside => lays_ok (inside.after _)
  case orderBy items =>
    exact (lays_renderSeparated items).bind fun list inside => lays_ok (inside.after _)
  case limit count offset =>
    exact (offset.lays_renderBefore ",").bind fun o first => count.lays_render.bind fun c second =>
      lays_ok ((first.after _).append second)
  case select distinct fields source condition groups filter order bound lock =>
    refine fields.lays_render.bind fun fs inside => ?_
    refine (source.lays_renderAfter " FROM ").bind fun s from_ => ?_
    refine (condition.lays_renderAfter " WHERE ").bind fun w filtered => ?_
    refine (groups.lays_renderAfter " ").bind fun g grouped => ?_
    refine (filter.lays_renderAfter " ").bind fun h kept => ?_
    refine (order.lays_renderAfter " ").bind fun o ordered => ?_
    refine (bound.lays_renderAfter " ").bind fun b bounded => ?_
    exact lays_ok (((((((inside.after _).append from_).append filtered).append grouped).append
      kept).append ordered).append bounded).gap
  case assignment column expr =>
    exact column.lays_render.bind fun c first => expr.lays_render.bind fun x second =>
      lays_ok (first.gap.append second)
  case insert replace ignore table columns rows assignments query onDuplicate =>
    refine table.lays_render.bind fun t first => ?_
    refine (lays_renderSeparated columns).bind fun cs listed => ?_
    have named : Interleaves (columns.flatMap texts)
        (if columns.isEmpty then "" else " (" ++ cs ++ ")") :=
      interleaves_unless_empty (listed.after " (").gap
    have changes {ds : String} (changed : Interleaves (onDuplicate.flatMap texts) ds) :=
      interleaves_unless_empty (changed.after " ON DUPLICATE KEY UPDATE ")
    obtain ⟨-, one⟩ := Bool.and_eq_true_iff.mp whole
    obtain ⟨unset, missing⟩ | ⟨unlisted, given, missing⟩ | ⟨unlisted, unset, present⟩ :=
      single_source (of_decide_eq_true one)
    · simp only [unset, missing, texts_of_isEmpty missing, List.flatMap_nil, List.append_nil]
      exact (lays_renderSeparated rows).bind fun list source =>
        (lays_renderSeparated onDuplicate).bind fun ds changed =>
          lays_ok ((((first.after _).append named).append (source.after _)).append
            (changes changed))
    · simp only [unlisted, given, texts_of_isEmpty missing, List.flatMap_nil, List.append_nil]
      exact (lays_renderSeparated assignments).bind fun list source =>
        (lays_renderSeparated onDuplicate).bind fun ds changed =>
          lays_ok ((((first.after _).append named).append (source.after _)).append
            (changes changed))
    · simp only [unlisted, unset, present, List.flatMap_nil, List.append_nil]
      exact (query.lays_renderAfter " ").bind fun told source =>
        (lays_renderSeparated onDuplicate).bind fun ds changed =>
          lays_ok ((((first.after _).append named).append source).append (changes changed))
  case update ignore refs assignments condition order bound =>
    refine refs.lays_render.bind fun r inside => ?_
    refine (lays_renderSeparated assignments).bind fun as assigned => ?_
    refine (condition.lays_renderAfter " WHERE ").bind fun w filtered => ?_
    refine (order.lays_renderAfter " ").bind fun o ordered => ?_
    refine (bound.lays_renderAfter " ").bind fun b bounded => ?_
    exact lays_ok (((((inside.after _).gap.append assigned).append filtered).append ordered).append
      bounded)
  case delete ignore refs condition order bound =>
    refine refs.lays_render.bind fun r inside => ?_
    refine (condition.lays_renderAfter " WHERE ").bind fun w filtered => ?_
    refine (order.lays_renderAfter " ").bind fun o ordered => ?_
    refine (bound.lays_renderAfter " ").bind fun b bounded => ?_
    exact lays_ok ((((inside.after _).append filtered).append ordered).append bounded)
  case columnOption option expr word =>
    refine (expr.lays_renderAfter " ").bind fun x inside => lays_ok ?_
    split
    · rename_i missing
      rw [texts_of_isEmpty missing]
      trivial
    · exact inside.after _
  case columnDef name typeName options =>
    exact name.lays_render.bind fun n first => (lays_renderSpaced options).bind fun os others =>
      lays_ok (first.gap.gap.append others)
  case indexPart column length desc =>
    exact column.lays_render.bind fun c inside => lays_ok inside.gap.gap
  case reference table keys onDelete onUpdate =>
    exact table.lays_render.bind fun t first => (lays_renderSeparated keys).bind fun ks others =>
      lays_ok ((first.after _).gap.append others).gap.gap.gap
  case constraint type name keys refer symbol =>
    exact (lays_renderSeparated keys).bind fun ks first => (refer.lays_renderAfter " ").bind
      fun r second => lays_ok ((first.after _).gap.append second)
  case tableOption option setting => exact fun _ _ => trivial
  case createTable ifNotExists temporary table columns constraints options =>
    refine table.lays_render.bind fun t first => ?_
    refine (lays_renderSeparated columns).bind fun cols second => ?_
    refine (lays_renderSeparated constraints).bind fun cons third => ?_
    exact (lays_renderSpaced options).bind fun os fourth =>
      lays_ok ((((first.after _).gap.append second).gap.append third).gap.append fourth)
  case dropTable ifExists temporary tables =>
    exact (lays_renderSeparated tables).bind fun ts inside => lays_ok (inside.after _)
  case truncateTable table => exact table.lays_render.bind fun t inside => lays_ok (inside.after _)
  case createIndex unique name table parts =>
    exact table.lays_render.bind fun t first => (lays_renderSeparated parts).bind fun ps others =>
      lays_ok ((first.after _).gap.append others).gap
  case dropIndex name table => exact table.lays_render.bind fun t inside => lays_ok (inside.after _)
  case createDatabase ifNotExists name => exact fun _ _ => trivial
  case dropDatabase ifExists name => exact fun _ _ => trivial
  case useDatabase name => exact fun _ _ => trivial
  case startTransaction => exact fun _ _ => trivial
  case commit => exact fun _ _ => trivial
  case rollback => exact fun _ _ => trivial
  case explain statement =>
    exact statement.lays_render.bind fun s inside => lays_ok (inside.after _)

end Node

end SqlSyntax
