import SqlSyntax.Tree.Render

/-!
# Complete trees

A node is whole if its own slots hold what its kind requires: a child where one is needed, a child
or nothing where it may be left out, one operator between any two selects, one source of the rows of
an insertion. A tree is complete if all its nodes are whole. Complete trees have a canonical text,
and it is never empty.
-/

namespace SqlSyntax

/-! ### Whole nodes -/

namespace Slot

def isNode : Slot → Bool
  | .node _ => true
  | _ => false

/-- A child that may be left out. -/
def isOptional (s : Slot) : Bool :=
  s.isNode || s.isEmpty

def isJoin : Slot → Bool
  | .node (.join ..) => true
  | _ => false

end Slot

/-- How many of the conditions are met. -/
def countTrue (conditions : List Bool) : Nat :=
  conditions.countP id

namespace Node

/-- Whether the slots of the node itself hold what its kind requires. -/
def isWhole : Node → Bool
  | .bare _ | .loose _ _ => false
  | .value (.plain _) => true
  | .value _ => false
  | .paramMarker _ | .variableRef _ _ | .columnName _ _ _ | .defaultValue | .wildcard _ _
  | .indexHint _ _ _ | .tableOption _ _ | .createDatabase _ _ | .dropDatabase _ _ | .useDatabase _
  | .startTransaction | .commit | .rollback => true
  | .columnRef x | .unaryOp _ x | .isNull x _ | .isTruth x _ _ | .paren x | .subquery x
  | .existsQuery x | .tableSource x _ | .onCondition x | .byItem x _ | .having x | .indexPart x _ _
  | .truncateTable x | .dropIndex _ x | .explain x => x.isNode
  | .binaryOp _ x y | .like x y _ _ | .regexp x y _ | .whenClause x y | .assignment x y =>
    x.isNode && y.isNode
  | .between x low high _ => x.isNode && low.isNode && high.isNode
  | .inSet x items _ query => x.isNode && items.all Slot.isNode && query.isOptional
  | .row xs | .funcCall _ xs | .aggregate _ xs _ _ | .tableName _ _ xs | .groupBy xs | .orderBy xs
  | .dropTable _ _ xs => xs.all Slot.isNode
  | .fieldList fields => fields.all Slot.isNode && !fields.isEmpty
  | .caseOf operand whens otherwise =>
    operand.isOptional && whens.all Slot.isNode && otherwise.isOptional
  | .selectField star x _ => if star.isEmpty then x.isNode else star.isNode && x.isEmpty
  | .join left right _ on columns =>
    left.isNode && right.isOptional && on.isOptional && columns.all Slot.isNode
  | .tableRefs refs => refs.isJoin
  | .limit count offset => count.isNode && offset.isOptional
  | .select _ fields source condition groups filter order bound _ =>
    fields.isNode && [source, condition, groups, filter, order, bound].all Slot.isOptional
  | .setOperation selects operators =>
    selects.all Slot.isNode && 2 ≤ selects.length && operators.length + 1 = selects.length
  | .insert _ _ table columns rows assignments query onDuplicate =>
    table.isNode && query.isOptional &&
      (columns ++ rows ++ assignments ++ onDuplicate).all Slot.isNode &&
      countTrue [!rows.isEmpty, !assignments.isEmpty, !query.isEmpty] = 1
  | .update _ refs assignments condition order bound =>
    refs.isNode && assignments.all Slot.isNode && [condition, order, bound].all Slot.isOptional
  | .delete _ refs condition order bound =>
    refs.isNode && [condition, order, bound].all Slot.isOptional
  | .columnOption option x _ => !option.isEmpty && x.isOptional
  | .columnDef name _ options => name.isNode && options.all Slot.isNode
  | .reference table keys _ _ => table.isNode && keys.all Slot.isNode
  | .constraint _ _ keys refer _ => keys.all Slot.isNode && refer.isOptional
  | .createTable _ _ table columns constraints options =>
    table.isNode && (columns ++ constraints ++ options).all Slot.isNode
  | .createIndex _ _ table parts => table.isNode && parts.all Slot.isNode

end Node

/-- The slots of a member. -/
def Member.held : Member → List Slot
  | .slot s => [s]
  | .slots items => items
  | _ => []

namespace Node

def slots (n : Node) : List Slot :=
  n.members.flatMap fun e => e.2.held

/-- The node and everything below it is whole. -/
inductive Complete : Node → Prop where
  | intro {n : Node} (whole : n.isWhole = true) (parts : ∀ x, Slot.node x ∈ n.slots → Complete x) :
    Complete n

theorem complete_iff {n : Node} :
    n.Complete ↔ n.isWhole = true ∧ ∀ x, Slot.node x ∈ n.slots → x.Complete :=
  ⟨fun ⟨whole, parts⟩ => ⟨whole, parts⟩, fun ⟨whole, parts⟩ => ⟨whole, parts⟩⟩

end Node

/-! ### Texts that are not empty -/

theorem Text.toUpper_ne_empty {s : String} (given : s ≠ "") : Text.toUpper s ≠ "" := by
  have upper (c : Char) : Text.upperChar c ≠ [] := by
    unfold Text.upperChar Text.mapCase
    split
    · simp
    · split
      · rename_i codes found
        have expanded : ∀ e ∈ Text.upperExpansions, e.2 ≠ [] := by decide
        obtain ⟨before, after, listed, -⟩ := List.lookup_eq_some_iff.mp found
        have member : (c.toNat, codes) ∈ Text.upperExpansions := by simp [listed]
        simpa using expanded _ member
      · split <;> simp
  intro empty
  have none : s.toList.flatMap Text.upperChar = [] := by
    simpa [Text.toUpper] using congrArg String.toList empty
  cases letters : s.toList with
  | nil => exact given (String.toList_eq_nil_iff.mp letters)
  | cons c rest =>
    rw [letters, List.flatMap_cons, List.append_eq_nil_iff] at none
    exact upper c none.1

theorem Decimal.pointed_ne_empty (digits : String) (place : Int) : pointed digits place ≠ "" := by
  unfold pointed
  split
  · simp
  · rename_i positive
    split
    · rename_i short
      intro empty
      obtain ⟨rfl, zeros⟩ := String.append_eq_empty_iff.mp empty
      have none := congrArg String.length zeros
      simp at none
      omega
    · simp

theorem Decimal.text_ne_empty (d : Decimal) : d.text ≠ "" := by
  cases d with
  | finite negative coefficient exponent =>
    simp only [text]
    split <;> simp [pointed_ne_empty]
  | infinite negative => simp [text]
  | nan negative => simp [text]

theorem Binary64.text_ne_empty (x : Binary64) : x.text ≠ "" := by
  cases x with
  | finite negative mantissa exponent =>
    suffices plain.magnitude mantissa exponent ≠ "" by simp [text, this]
    unfold Layout.magnitude
    split
    · simp
    · dsimp only
      split
      · split <;> simp [Decimal.pointed_ne_empty]
      · simp
  | infinite negative => cases negative <;> simp [text]
  | nan => simp [text]

theorem Literal.render_ne_empty (v : Literal) : v.render ≠ "" := by
  cases v with
  | null => simp [render]
  | boolean b => cases b <;> simp [render]
  | integer n =>
    cases n with
    | ofNat m =>
      have written : render (.integer (.ofNat m)) = m.repr := rfl
      rw [written, Ne, ← String.toList_eq_nil_iff, Nat.toList_repr]
      exact Nat.toDigits_ne_nil
    | negSucc m =>
      have written : render (.integer (.negSucc m)) = "-" ++ (m + 1).repr := rfl
      simp [written]
  | decimal d => exact d.text_ne_empty
  | float x => exact x.text_ne_empty
  | text s => simp [render, Text.quoteString]
  | binary digits base => simp [render]

/-! ### Rendering succeeds -/

/-- There is a text. -/
def Yields (rendered : Except RenderError String) : Prop :=
  ∃ text, rendered = .ok text

/-- There is a text, and it is not empty. -/
def Tells (rendered : Except RenderError String) : Prop :=
  ∃ text, rendered = .ok text ∧ text ≠ ""

theorem Tells.yields {rendered : Except RenderError String} (tells : Tells rendered) :
    Yields rendered := by
  obtain ⟨text, ok, -⟩ := tells
  exact ⟨text, ok⟩

theorem tells_ok {text : String} (given : text ≠ "") : Tells (.ok text) :=
  ⟨text, rfl, given⟩

theorem Yields.bind {rendered : Except RenderError String}
    {next : String → Except RenderError String}
    (yields : Yields rendered) (onward : ∀ text, Tells (next text)) :
    Tells (rendered >>= next) := by
  obtain ⟨text, rfl⟩ := yields
  exact onward text

theorem Tells.bind {rendered : Except RenderError String}
    {next : String → Except RenderError String}
    (tells : Tells rendered) (onward : ∀ text, text ≠ "" → Tells (next text)) :
    Tells (rendered >>= next) := by
  obtain ⟨text, rfl, given⟩ := tells
  exact onward text given

namespace Slot

/-- If the slot holds a node, the node has a text. -/
def Writes (s : Slot) : Prop :=
  ∀ x, s = .node x → Tells x.render

variable {s : Slot} {items : List Slot}

theorem tells_render (required : s.isNode = true) (writes : s.Writes) : Tells s.render := by
  cases s with
  | node x => exact writes x rfl
  | _ => cases required

theorem yields_renderAfter (lead : String) (permitted : s.isOptional = true) (writes : s.Writes) :
    Yields (s.renderAfter lead) := by
  cases s with
  | node x =>
    obtain ⟨text, ok, -⟩ := writes x rfl
    exact ⟨lead ++ text, by rw [renderAfter, ok]; rfl⟩
  | plain v =>
    cases v with
    | null => exact ⟨"", rfl⟩
    | _ => cases permitted
  | _ => cases permitted

theorem yields_renderBefore (trail : String) (permitted : s.isOptional = true) (writes : s.Writes) :
    Yields (s.renderBefore trail) := by
  cases s with
  | node x =>
    obtain ⟨text, ok, -⟩ := writes x rfl
    exact ⟨text ++ trail, by rw [renderBefore, ok]; rfl⟩
  | plain v =>
    cases v with
    | null => exact ⟨"", rfl⟩
    | _ => cases permitted
  | _ => cases permitted

theorem tells_renderSeparated (some : items ≠ []) (required : items.all isNode = true)
    (writes : ∀ s ∈ items, s.Writes) : Tells (renderSeparated items) := by
  induction items with
  | nil => exact absurd rfl some
  | cons s rest ih =>
    obtain ⟨node, nodes⟩ := Bool.and_eq_true_iff.mp required
    have first := tells_render node (writes s List.mem_cons_self)
    cases rest with
    | nil => simpa [renderSeparated] using first
    | cons next rest =>
      have others := ih (by simp) nodes fun s member => writes s (List.mem_cons_of_mem _ member)
      rw [renderSeparated]
      · exact first.bind fun text given => others.bind fun texts _ =>
          tells_ok (by simp)
      · simp

theorem yields_renderSeparated (required : items.all isNode = true)
    (writes : ∀ s ∈ items, s.Writes) : Yields (renderSeparated items) := by
  cases items with
  | nil => exact ⟨"", rfl⟩
  | cons s rest => exact (tells_renderSeparated (by simp) required writes).yields

theorem yields_renderSpaced (required : items.all isNode = true) (writes : ∀ s ∈ items, s.Writes) :
    Yields (renderSpaced items) := by
  induction items with
  | nil => exact ⟨"", rfl⟩
  | cons s rest ih =>
    obtain ⟨node, nodes⟩ := Bool.and_eq_true_iff.mp required
    obtain ⟨text, ok, -⟩ := tells_render node (writes s List.mem_cons_self)
    obtain ⟨texts, oks⟩ := ih nodes fun s member => writes s (List.mem_cons_of_mem _ member)
    exact ⟨" " ++ text ++ texts, by rw [renderSpaced, ok, oks]; rfl⟩

theorem yields_renderCombined {operators : List String} (count : operators.length = items.length)
    (required : items.all isNode = true) (writes : ∀ s ∈ items, s.Writes) :
    Yields (renderCombined items operators) := by
  induction items generalizing operators with
  | nil => exact ⟨"", rfl⟩
  | cons s rest ih =>
    cases operators with
    | nil => cases count
    | cons op operators =>
      obtain ⟨node, nodes⟩ := Bool.and_eq_true_iff.mp required
      obtain ⟨text, ok, -⟩ := tells_render node (writes s List.mem_cons_self)
      obtain ⟨texts, oks⟩ := ih (Nat.succ.inj count) nodes
        fun s member => writes s (List.mem_cons_of_mem _ member)
      exact ⟨" " ++ Text.toUpper op ++ " " ++ text ++ texts, by rw [renderCombined, ok, oks]; rfl⟩

end Slot

namespace Node

open Slot

/-- A whole node has a text if those in its slots have one. -/
theorem tells_render {n : Node} (whole : n.isWhole = true) (writes : ∀ s ∈ n.slots, s.Writes) :
    Tells n.render := by
  cases n
  case bare family => cases whole
  case loose kind members => cases whole
  case value v =>
    cases v with
    | plain v => exact tells_ok v.render_ne_empty
    | _ => cases whole
  all_goals
    simp only [slots, members, Member.held, List.flatMap_cons, List.flatMap_nil, List.cons_append,
      List.nil_append, List.append_nil, List.mem_append, List.mem_cons, List.not_mem_nil, or_false,
      or_imp, forall_and, forall_eq] at writes
    simp only [isWhole, Bool.and_eq_true, Bool.not_eq_true', decide_eq_true_eq, List.all_cons,
      List.all_nil, List.all_append, and_true] at whole
  case setOperation selects operators =>
    cases selects with
    | nil => simp at whole
    | cons first rest =>
      obtain ⟨⟨required, -⟩, count⟩ := whole
      obtain ⟨node, nodes⟩ := Bool.and_eq_true_iff.mp required
      rw [Node.render]
      refine (first.tells_render node (writes first List.mem_cons_self)).bind fun f given => ?_
      have combined := yields_renderCombined (Nat.succ.inj count) nodes
        fun s member => writes s (List.mem_cons_of_mem _ member)
      exact combined.bind fun r => tells_ok (by simp [given])
  case like expr pattern negated escape =>
    cases escape
    all_goals
      rw [Node.render]
      refine (expr.tells_render whole.1 writes.1).bind fun x given => ?_
      exact (pattern.tells_render whole.2 writes.2).bind fun p _ => tells_ok (by simp [given])
  all_goals rw [Node.render]
  case paramMarker order => exact tells_ok (by simp)
  case variableRef name isSystem => exact tells_ok (by cases isSystem <;> simp)
  case columnName schema table name => exact tells_ok (by simp [Text.quoteName])
  case columnRef name => exact name.tells_render whole writes
  case binaryOp op left right =>
    refine (left.tells_render whole.1 writes.1).bind fun l _ => ?_
    exact (right.tells_render whole.2 writes.2).bind fun r _ => tells_ok (by simp)
  case unaryOp op operand =>
    exact (operand.tells_render whole writes).bind fun x given => tells_ok (by simp [given])
  case isNull expr negated =>
    exact (expr.tells_render whole writes).bind fun x given => tells_ok (by simp [given])
  case isTruth expr negated truth =>
    exact (expr.tells_render whole writes).bind fun x given => tells_ok (by simp [given])
  case inSet expr items negated query =>
    obtain ⟨⟨node, nodes⟩, permitted⟩ := whole
    refine (expr.tells_render node writes.1).bind fun x given => ?_
    dsimp only
    split
    · exact (yields_renderSeparated nodes writes.2.1).bind fun list => tells_ok (by simp)
    · rename_i present
      have node : query.isNode = true := by simpa [isOptional, present] using permitted
      exact (query.tells_render node writes.2.2).bind fun q _ => tells_ok (by simp [given])
  case regexp expr pattern negated =>
    refine (expr.tells_render whole.1 writes.1).bind fun x given => ?_
    exact (pattern.tells_render whole.2 writes.2).bind fun p _ => tells_ok (by simp [given])
  case between expr low high negated =>
    obtain ⟨⟨node, below⟩, above⟩ := whole
    refine (expr.tells_render node writes.1).bind fun x given => ?_
    refine (low.tells_render below writes.2.1).bind fun l _ => ?_
    exact (high.tells_render above writes.2.2).bind fun h _ => tells_ok (by simp)
  case paren expr => exact (expr.tells_render whole writes).bind fun x _ => tells_ok (by simp)
  case row values => exact (yields_renderSeparated whole writes).bind fun list => tells_ok (by simp)
  case defaultValue => exact tells_ok (by simp)
  case subquery query => exact (query.tells_render whole writes).bind fun q _ => tells_ok (by simp)
  case existsQuery query =>
    exact (query.tells_render whole writes).bind fun q _ => tells_ok (by simp)
  case whenClause expr result =>
    refine (expr.tells_render whole.1 writes.1).bind fun x _ => ?_
    exact (result.tells_render whole.2 writes.2).bind fun r _ => tells_ok (by simp)
  case caseOf operand whens otherwise =>
    obtain ⟨⟨compared, nodes⟩, closed⟩ := whole
    refine (operand.yields_renderAfter " " compared writes.1).bind fun v => ?_
    refine (yields_renderSpaced nodes writes.2.1).bind fun ws => ?_
    exact (otherwise.yields_renderAfter " ELSE " closed writes.2.2).bind fun e =>
      tells_ok (by simp)
  case funcCall name args =>
    exact (yields_renderSeparated whole writes).bind fun list => tells_ok (by simp)
  case aggregate name args distinct star =>
    split
    · exact tells_ok (by simp)
    · exact (yields_renderSeparated whole writes).bind fun list => tells_ok (by simp)
  case wildcard schema table => exact tells_ok (by simp)
  case selectField star expr asName =>
    by_cases missing : star.isEmpty = true
    · rw [if_pos missing] at whole ⊢
      exact (expr.tells_render whole writes.2).bind fun x given => tells_ok (by simp [given])
    · simp only [missing, if_false, Bool.false_eq_true, Bool.and_eq_true] at whole ⊢
      exact star.tells_render whole.1 writes.1
  case fieldList fields =>
    exact tells_renderSeparated (by simpa using whole.2) whole.1 writes
  case indexHint verb scope names => exact tells_ok (by simp)
  case tableName schema name hints =>
    exact (yields_renderSpaced whole writes).bind fun hs => tells_ok (by simp [Text.quoteName])
  case tableSource source asName =>
    exact (source.tells_render whole writes).bind fun s given => tells_ok (by simp [given])
  case onCondition expr => exact expr.tells_render whole writes
  case join left right side on columns =>
    obtain ⟨⟨⟨node, permitted⟩, bound⟩, nodes⟩ := whole
    refine (left.tells_render node writes.1).bind fun l given => ?_
    split
    · exact tells_ok given
    · rename_i present
      have node : right.isNode = true := by simpa [isOptional, present] using permitted
      refine (right.tells_render node writes.2.1).bind fun r _ => ?_
      refine (on.yields_renderAfter " ON " bound writes.2.2.1).bind fun o => ?_
      exact (yields_renderSeparated nodes writes.2.2.2).bind fun u => tells_ok (by simp)
  case tableRefs refs =>
    have node : refs.isNode = true := by
      cases refs with
      | node n => rfl
      | _ => cases whole
    exact refs.tells_render node writes
  case byItem expr desc =>
    exact (expr.tells_render whole writes).bind fun x given => tells_ok (by simp [given])
  case groupBy items =>
    exact (yields_renderSeparated whole writes).bind fun list => tells_ok (by simp)
  case having expr => exact (expr.tells_render whole writes).bind fun x _ => tells_ok (by simp)
  case orderBy items =>
    exact (yields_renderSeparated whole writes).bind fun list => tells_ok (by simp)
  case limit count offset =>
    refine (offset.yields_renderBefore "," whole.2 writes.2).bind fun o => ?_
    exact (count.tells_render whole.1 writes.1).bind fun c _ => tells_ok (by simp)
  case select distinct fields source condition groups filter order bound lock =>
    obtain ⟨node, source', condition', groups', filter', order', bound'⟩ := whole
    obtain ⟨fieldsWrite, sourceWrites, conditionWrites, groupsWrite, filterWrites, orderWrites,
      boundWrites⟩ := writes
    refine (fields.tells_render node fieldsWrite).bind fun fs _ => ?_
    refine (source.yields_renderAfter " FROM " source' sourceWrites).bind fun s => ?_
    refine (condition.yields_renderAfter " WHERE " condition' conditionWrites).bind fun w => ?_
    refine (groups.yields_renderAfter " " groups' groupsWrite).bind fun g => ?_
    refine (filter.yields_renderAfter " " filter' filterWrites).bind fun h => ?_
    refine (order.yields_renderAfter " " order' orderWrites).bind fun o => ?_
    exact (bound.yields_renderAfter " " bound' boundWrites).bind fun b => tells_ok (by simp)
  case assignment column expr =>
    refine (column.tells_render whole.1 writes.1).bind fun c _ => ?_
    exact (expr.tells_render whole.2 writes.2).bind fun x _ => tells_ok (by simp)
  case insert replace ignore table columns rows assignments query onDuplicate =>
    obtain ⟨⟨⟨node, permitted⟩, ⟨⟨columns', rows'⟩, assignments'⟩, onDuplicate'⟩, -⟩ := whole
    obtain ⟨tableWrites, columnsWrite, rowsWrite, assignmentsWrite, queryWrites, changesWrite⟩ :=
      writes
    refine (table.tells_render node tableWrites).bind fun t _ => ?_
    refine (yields_renderSeparated columns' columnsWrite).bind fun cs => ?_
    have changes := yields_renderSeparated onDuplicate' changesWrite
    dsimp only
    split
    · refine (yields_renderSeparated assignments' assignmentsWrite).bind fun list => ?_
      exact changes.bind fun ds => tells_ok (by simp)
    · split
      · refine (query.yields_renderAfter " " permitted queryWrites).bind fun source => ?_
        exact changes.bind fun ds => tells_ok (by simp)
      · refine (yields_renderSeparated rows' rowsWrite).bind fun list => ?_
        exact changes.bind fun ds => tells_ok (by simp)
  case update ignore refs assignments condition order bound =>
    obtain ⟨⟨node, nodes⟩, condition', order', bound'⟩ := whole
    obtain ⟨refsWrite, assignmentsWrite, conditionWrites, orderWrites, boundWrites⟩ := writes
    refine (refs.tells_render node refsWrite).bind fun r _ => ?_
    refine (yields_renderSeparated nodes assignmentsWrite).bind fun as => ?_
    refine (condition.yields_renderAfter " WHERE " condition' conditionWrites).bind fun w => ?_
    refine (order.yields_renderAfter " " order' orderWrites).bind fun o => ?_
    exact (bound.yields_renderAfter " " bound' boundWrites).bind fun b => tells_ok (by simp)
  case delete ignore refs condition order bound =>
    obtain ⟨node, condition', order', bound'⟩ := whole
    obtain ⟨refsWrite, conditionWrites, orderWrites, boundWrites⟩ := writes
    refine (refs.tells_render node refsWrite).bind fun r _ => ?_
    refine (condition.yields_renderAfter " WHERE " condition' conditionWrites).bind fun w => ?_
    refine (order.yields_renderAfter " " order' orderWrites).bind fun o => ?_
    exact (bound.yields_renderAfter " " bound' boundWrites).bind fun b => tells_ok (by simp)
  case columnOption option expr word =>
    have named := Text.toUpper_ne_empty (s := option) (by simpa using whole.1)
    exact (expr.yields_renderAfter " " whole.2 writes).bind fun x => tells_ok (by simp [named])
  case columnDef name typeName options =>
    refine (name.tells_render whole.1 writes.1).bind fun n _ => ?_
    exact (yields_renderSpaced whole.2 writes.2).bind fun os => tells_ok (by simp)
  case indexPart column length desc =>
    exact (column.tells_render whole writes).bind fun c given => tells_ok (by simp [given])
  case reference table keys onDelete onUpdate =>
    refine (table.tells_render whole.1 writes.1).bind fun t _ => ?_
    exact (yields_renderSeparated whole.2 writes.2).bind fun ks => tells_ok (by simp)
  case constraint type name keys refer symbol =>
    refine (yields_renderSeparated whole.1 writes.1).bind fun ks => ?_
    exact (refer.yields_renderAfter " " whole.2 writes.2).bind fun r => tells_ok (by simp)
  case tableOption option setting => exact tells_ok (by simp)
  case createTable ifNotExists temporary table columns constraints options =>
    obtain ⟨node, ⟨columns', constraints'⟩, options'⟩ := whole
    refine (table.tells_render node writes.1).bind fun t _ => ?_
    refine (yields_renderSeparated columns' writes.2.1).bind fun cols => ?_
    refine (yields_renderSeparated constraints' writes.2.2.1).bind fun cons => ?_
    exact (yields_renderSpaced options' writes.2.2.2).bind fun os => tells_ok (by simp)
  case dropTable ifExists temporary tables =>
    refine (yields_renderSeparated whole writes).bind fun ts => tells_ok ?_
    cases temporary <;> simp
  case truncateTable table =>
    exact (table.tells_render whole writes).bind fun t _ => tells_ok (by simp)
  case createIndex unique name table parts =>
    refine (table.tells_render whole.1 writes.1).bind fun t _ => ?_
    exact (yields_renderSeparated whole.2 writes.2).bind fun ps => tells_ok (by simp)
  case dropIndex name table =>
    exact (table.tells_render whole writes).bind fun t _ => tells_ok (by simp)
  case createDatabase ifNotExists name => exact tells_ok (by simp)
  case dropDatabase ifExists name => exact tells_ok (by simp)
  case useDatabase name => exact tells_ok (by simp)
  case startTransaction => exact tells_ok (by simp)
  case commit => exact tells_ok (by simp)
  case rollback => exact tells_ok (by simp)
  case explain statement =>
    exact (statement.tells_render whole writes).bind fun s _ => tells_ok (by simp)

theorem Complete.tells {n : Node} (complete : n.Complete) : Tells n.render := by
  induction complete with
  | intro whole parts ih =>
    refine tells_render whole ?_
    rintro s member x rfl
    exact ih x member

end Node

end SqlSyntax
