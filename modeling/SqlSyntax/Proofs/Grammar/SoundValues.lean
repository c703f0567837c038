import Mathlib.Tactic.SplitIfs
import SqlSyntax.Proofs.Expression.Precedence
import SqlSyntax.Proofs.Grammar.ReadValues
import SqlSyntax.Proofs.Tree.Layout

/-!
# Productions build sound trees

A node is proper if its slots hold what its kind requires, its text tells all its children, its
operands bind as tight as its operator asks for, and its names are such as can be read. A tree is
sound if all its nodes are proper. Whatever optional parts of a rule are present, the tree that its
production builds from sound trees is sound, and an expression of one level of precedence binds at
least as tight as that level. So all trees that a run puts on its stack are sound.
-/

namespace SqlSyntax

/-! ### Sound trees -/

/-- The verbs of index hints, as they are kept. -/
def hintVerbs : List String :=
  ["USE", "FORCE", "IGNORE", "İGNORE"]

/-- What an index hint can be restricted to; the empty text is no restriction. -/
def hintScopes : List String :=
  ["", "JOIN", "ORDER BY", "GROUP BY"]

def Slot.isHint : Slot → Bool
  | .node (.indexHint _ _ _) => true
  | _ => false

namespace Node

/-- What is known of the names in a node: a schema stands before a table only, and every table has a
name, behind which there are index hints. -/
def Names : Node → Prop
  | .columnName schema table _ => table = "" → schema = ""
  | .tableName _ name hints => name ≠ "" ∧ hints.all Slot.isHint = true
  | .indexHint verb scope _ => verb ∈ hintVerbs ∧ scope ∈ hintScopes
  | _ => True

/-- The property holds of the node and of all nodes below it. -/
inductive Everywhere (P : Node → Prop) : Node → Prop where
  | intro {n : Node} (here : P n) (parts : ∀ x, Slot.node x ∈ n.slots → Everywhere P x) :
    Everywhere P n

structure Proper (n : Node) : Prop where
  whole : n.isWhole = true
  shown : n.showsAll = true
  levels : n.RespectsLevels
  names : n.Names

/-- The node and everything below it is proper. -/
def Sound (n : Node) : Prop :=
  n.Everywhere Proper

theorem Sound.intro {n : Node} (proper : n.Proper) (parts : ∀ x, Slot.node x ∈ n.slots → x.Sound) :
    n.Sound :=
  Everywhere.intro proper parts

theorem Sound.complete {n : Node} (sound : n.Sound) : n.Complete := by
  induction sound with
  | intro proper _ ih => exact .intro proper.whole ih

/-- A sound expression that binds at least as tight as the level. -/
def Graded (level : Level) (n : Node) : Prop :=
  n.Sound ∧ n.AtLeast level

theorem Sound.graded {level : Level} {n : Node} (sound : n.Sound) (own : n.level? = some level) :
    n.Graded level :=
  ⟨sound, level, own, Level.le_refl level⟩

theorem Graded.intro {level : Level} {n : Node} (proper : n.Proper)
    (parts : ∀ x, Slot.node x ∈ n.slots → x.Sound) (own : n.level? = some level) : n.Graded level :=
  Sound.graded (.intro proper parts) own

theorem Graded.mono {level looser : Level} {n : Node} (graded : n.Graded level)
    (le : looser ≤ level) : n.Graded looser :=
  ⟨graded.1, graded.2.mono le⟩

end Node

/-- The nodes in the slots are sound. -/
def Fits (slots : List Slot) : Prop :=
  ∀ x, Slot.node x ∈ slots → x.Sound

variable {x : Node} {xs : List Node} {slots : List Slot}

theorem fits_nil : Fits [] := by
  intro x member
  cases member

theorem fits_node (sound : x.Sound) (fits : Fits slots) : Fits (.node x :: slots) := by
  intro y member
  rcases List.mem_cons.mp member with same | member
  · cases same
    exact sound
  · exact fits y member

theorem fits_empty (fits : Fits slots) : Fits (.empty :: slots) := by
  intro y member
  rcases List.mem_cons.mp member with same | member
  · cases same
  · exact fits y member

theorem fits_option {o : Option Node} (sound : ∀ x, o = some x → x.Sound) (fits : Fits slots) :
    Fits (.ofOption o :: slots) := by
  cases o with
  | none => exact fits_empty fits
  | some x => exact fits_node (sound x rfl) fits

theorem fits_nodes (sound : ∀ y ∈ xs, y.Sound) (fits : Fits slots) :
    Fits (xs.map Slot.node ++ slots) := by
  intro y member
  rcases List.mem_append.mp member with member | member
  · obtain ⟨x, held, same⟩ := List.mem_map.mp member
    cases same
    exact sound _ held
  · exact fits y member

theorem fits_append {others : List Slot} (first : Fits slots) (second : Fits others) :
    Fits (slots ++ others) := by
  intro y member
  exact (List.mem_append.mp member).elim (first y) (second y)

namespace Slot

theorem all_isNode (xs : List Node) : (xs.map Slot.node).all isNode = true := by
  simp [isNode]

theorem isOptional_ofOption (o : Option Node) : (ofOption o).isOptional = true := by
  cases o <;> rfl

end Slot

namespace Grammar

/-! ### Sound values -/

def JoinCondition.Sound : JoinCondition → Prop
  | .on condition => condition.Sound
  | .columns names => ∀ x ∈ names, x.Sound

def CallArguments.Sound : CallArguments → Prop
  | .star => True
  | .list args => ∀ x ∈ args, x.Sound

/-- There is something to insert, and it is sound. -/
def InsertSource.Sound : InsertSource → Prop
  | .rows list => list ≠ [] ∧ ∀ x ∈ list, x.Sound
  | .query q => q.Sound
  | .assignments list => list ≠ [] ∧ ∀ x ∈ list, x.Sound

def TableElement.Sound : TableElement → Prop
  | .column definition => definition.Sound
  | .constraint definition => definition.Sound

def KeyConstraint.Sound (c : KeyConstraint) : Prop :=
  (∀ x ∈ c.keys, x.Sound) ∧ ∀ x, c.refer = some x → x.Sound

/-- The trees in a value are sound, and names are such as can be read. -/
def ValueKind.Sound : (k : ValueKind) → k.Value → Prop
  | .node => Node.Sound
  | .nodes => fun (list : List Node) => ∀ x ∈ list, x.Sound
  | .optionalNode => fun (o : Option Node) => ∀ x, o = some x → x.Sound
  | .operations => fun (list : List (String × Node)) => ∀ e ∈ list, e.2.Sound
  | .tablePath => fun (p : TablePath) => p.name ≠ ""
  | .columnPath => fun (p : ColumnPath) => p.table = "" → p.schema = ""
  | .joinCondition => JoinCondition.Sound
  | .callArguments => CallArguments.Sound
  | .insertSource => InsertSource.Sound
  | .tableElement => TableElement.Sound
  | .tableElements => fun (list : List TableElement) => ∀ e ∈ list, e.Sound
  | .keyConstraint => KeyConstraint.Sound
  | .text | .texts | .token | .nothing | .referenceAction | .referenceActions => fun _ => True

/-- The trees in the value of a nonterminal are sound, and expressions have their level. -/
def Nonterminal.Sound : (n : Nonterminal) → n.Value → Prop
  | .expr => Node.Graded .disjunction
  | .xorExpr => Node.Graded .exclusive
  | .andExpr => Node.Graded .conjunction
  | .notExpr => Node.Graded .negation
  | .boolPrimary => Node.Graded .comparison
  | .predicate => Node.Graded .predicate
  | .bitOrExpr => Node.Graded .bitOr
  | .bitAndExpr => Node.Graded .bitAnd
  | .shiftExpr => Node.Graded .shift
  | .sumExpr => Node.Graded .sum
  | .productExpr => Node.Graded .product
  | .bitXorExpr => Node.Graded .bitXor
  | .unaryExpr => Node.Graded .unary
  | .simpleExpr | .literal | .funcCall | .caseExpr | .subquery => Node.Graded .simple
  | .comparator => fun (token : Token) => token.Cut .equals ∨ token.Cut .comparison
  | .ident => fun (token : Token) => token.name ≠ ""
  | .hintScope => fun (scope : String) => scope ∈ hintScopes
  | .indexHint => fun (x : Node) => x.Sound ∧ (Slot.node x).isHint = true
  | .indexHints | .indexHintRun =>
    fun (list : List Node) => ∀ x ∈ list, x.Sound ∧ (Slot.node x).isHint = true
  | n => n.kind.Sound

def Symbol.Sound : (s : Symbol) → s.Value → Prop
  | .terminal t, token => Token.Cut t token
  | .nonterminal n, v => n.Sound v

/-- What was built, if anything, has the property. -/
def Builds {α : Type} (P : α → Prop) (built : Except BuildError α) : Prop :=
  ∀ v, built = .ok v → P v

theorem builds_ok {α : Type} {P : α → Prop} {v : α} (holds : P v) : Builds P (.ok v) := by
  rintro w ⟨⟩
  exact holds

theorem Builds.imp {α : Type} {P Q : α → Prop} {built : Except BuildError α}
    (builds : Builds P built)
    (weaker : ∀ v, P v → Q v) : Builds Q built := by
  intro v ok
  exact weaker v (builds v ok)

theorem builds_error {α : Type} {P : α → Prop} (e : BuildError) : Builds P (.error e) := by
  rintro w ⟨⟩

/-- Most nodes are proper by themselves, and sound if their parts are. -/
theorem builds_node {n : Node} (parts : Fits n.slots)
    (proper : n.Proper := by exact ⟨rfl, rfl, trivial, trivial⟩) : Builds Node.Sound (.ok n) :=
  builds_ok (.intro proper parts)

/-! ### Helpers of the productions -/

section

variable {α : Type} {P : α → Prop}

theorem forall_mem_getD {o : Option (List α)} (each : ∀ as, o = some as → ∀ a ∈ as, P a) :
    ∀ a ∈ o.getD [], P a := by
  cases o with
  | none => exact nofun
  | some as => exact each as rfl

theorem forall_mem_grown {earlier : Option (List α)} {last : α}
    (before : ∀ as, earlier = some as → ∀ a ∈ as, P a) (holds : P last) :
    ∀ a ∈ grown earlier last, P a := by
  intro a member
  rcases List.mem_append.mp member with member | member
  · exact forall_mem_getD before a member
  · cases List.mem_singleton.mp member
    exact holds

end

/-! #### Expressions -/

variable {level tighter : Level} {left right operand : Node} {op : String}

theorem graded_binary (found : Level.ofOperator? op = some level) (first : left.Graded level)
    (second : right.Graded tighter) (lt : level < tighter) :
    (binaryNode op left right).Graded level := by
  have respects : (binaryNode op left right).RespectsLevels :=
    ⟨level, found, first.2, second.2.above lt⟩
  exact ⟨.intro ⟨rfl, rfl, respects, trivial⟩ (fits_node first.1 (fits_node second.1 fits_nil)),
    level, found, Level.le_refl level⟩

theorem graded_unary (found : Level.ofSign? op = some level) (inner : operand.Graded level) :
    (Node.unaryOp op (.node operand)).Graded level := by
  have respects : (Node.unaryOp op (.node operand)).RespectsLevels := ⟨level, found, inner.2⟩
  exact ⟨.intro ⟨rfl, rfl, respects, trivial⟩ (fits_node inner.1 fits_nil), level, found,
    Level.le_refl level⟩

theorem ofOperator?_comparator {token : Token} (cut : token.Cut .equals ∨ token.Cut .comparison) :
    Level.ofOperator? token.text = some .comparison := by
  rcases cut with cut | cut
  · exact (cut.ofOperator?_of_mark nofun (by rfl)).1
  · exact (cut.ofOperator?_of_mark nofun (by rfl)).1

theorem graded_marked {t : Terminal} {token : Token} (cut : token.Cut t) (marked : t.marks ≠ [])
    (table : t.marks.all (fun mark => Level.ofOperator? mark == some level &&
      Level.ofOperator? (Text.toUpper mark) == some level) = true)
    (first : left.Graded level) (second : right.Graded tighter) (lt : level < tighter) :
    (binaryNode (Text.toUpper token.text) left right).Graded level :=
  graded_binary (cut.ofOperator?_of_mark marked table).2 first second lt

theorem ofOperator?_sum {token : Token} (minus : Bool)
    (cut : token.Cut (if minus then .minus else .plus)) :
    Level.ofOperator? (Text.toUpper token.text) = some .sum := by
  cases minus
  · exact (Token.Cut.ofOperator?_of_mark (t := .plus) cut nofun (by rfl)).2
  · exact (Token.Cut.ofOperator?_of_mark (t := .minus) cut nofun (by rfl)).2

theorem ofOperator?_product {token : Token} (op : ProductOperator) (cut : token.Cut op.terminal) :
    Level.ofOperator? (Text.toUpper token.text) = some .product := by
  cases op with
  | star => exact (Token.Cut.ofOperator?_of_mark (t := .star) cut nofun (by rfl)).2
  | slash => exact (Token.Cut.ofOperator?_of_mark (t := .slash) cut nofun (by rfl)).2
  | percent => exact (Token.Cut.ofOperator?_of_mark (t := .percent) cut nofun (by rfl)).2
  | div => exact Token.Cut.ofOperator?_of_word (t := .kwDiv) cut rfl rfl rfl (by rfl)
  | mod => exact Token.Cut.ofOperator?_of_word (t := .kwMod) cut rfl rfl rfl (by rfl)

theorem ofSign?_sign {token : Token} (op : SignOperator) (cut : token.Cut op.terminal) :
    Level.ofSign? token.text = some .unary := by
  cases op with
  | minus => exact Token.Cut.ofSign?_of_mark (t := .minus) cut nofun (by rfl)
  | plus => exact Token.Cut.ofSign?_of_mark (t := .plus) cut nofun (by rfl)
  | bang => exact Token.Cut.ofSign?_of_mark (t := .bang) cut nofun (by rfl)
  | tilde => exact Token.Cut.ofSign?_of_mark (t := .tilde) cut nofun (by rfl)

theorem graded_literal (v : Literal) : (literalNode v).Graded .simple := by
  refine .intro ⟨rfl, rfl, trivial, trivial⟩ ?_ rfl
  intro x member
  simp [literalNode, Node.slots, Node.members, Member.held] at member

theorem graded_number (t : Token) : Builds (Node.Graded .simple) (numberNode t) := by
  unfold numberNode
  dsimp only
  split_ifs
  · exact builds_error _
  all_goals exact builds_ok (graded_literal _)

theorem graded_variable (t : Token) : (variableNode t).Graded .simple := by
  unfold variableNode
  split <;> exact .intro ⟨rfl, rfl, trivial, trivial⟩ fits_nil rfl

theorem sound_columnName {schema table : String} (known : table = "" → schema = "")
    (name : String) : (Node.columnName schema table name).Sound :=
  .intro ⟨rfl, rfl, trivial, known⟩ fits_nil

/-- A column that is not qualified. -/
theorem sound_bareColumn (name : String) : (Node.columnName "" "" name).Sound :=
  sound_columnName (fun _ => rfl) name

theorem graded_column {p : ColumnPath} (known : p.table = "" → p.schema = "") :
    (columnNode p).Graded .simple :=
  .intro ⟨rfl, rfl, trivial, trivial⟩ (fits_node (sound_columnName known _) fits_nil) rfl

theorem sound_hinted {p : TablePath} {hints : List Node} (named : p.name ≠ "")
    (sound : ∀ x ∈ hints, x.Sound ∧ (Slot.node x).isHint = true) :
    (p.toNode (hints.map Slot.node)).Sound := by
  have all : (hints.map Slot.node).all Slot.isHint = true := by
    rw [List.all_map, List.all_eq_true]
    exact fun x member => (sound x member).2
  exact .intro ⟨Slot.all_isNode hints, rfl, trivial, named, all⟩
    (fits_nodes (fun x member => (sound x member).1) fits_nil)

theorem sound_table {p : TablePath} (named : p.name ≠ "") : (p.toNode []).Sound :=
  sound_hinted named (List.forall_mem_nil _)

theorem sound_source {table : TablePath} (asName : String) {hints : List Node}
    (named : table.name ≠ "") (sound : ∀ x ∈ hints, x.Sound ∧ (Slot.node x).isHint = true) :
    (Node.tableSource (.node (table.toNode (hints.map Slot.node))) asName).Sound :=
  .intro ⟨rfl, rfl, trivial, trivial⟩ (fits_node (sound_hinted named sound) fits_nil)

theorem mem_hintVerbs {token : Token} {verb : HintVerb} (cut : token.Cut verb.terminal) :
    Text.toUpper token.text ∈ hintVerbs := by
  have known {word : String} {t : Terminal} (cut : token.Cut t) (single : t.words = [word])
      (unmarked : t.symbol? = none) (small : word.toList.all (·.toNat < 128) = true)
      (listed : (Text.upperForms word.toList).all
        (fun form => hintVerbs.contains (String.ofList form)) = true) :
      Text.toUpper token.text ∈ hintVerbs := by
    have form := cut.toUpper_mem_upperForms single unmarked small
    simpa using List.all_eq_true.mp listed _ form
  cases verb with
  | use => exact known cut rfl rfl rfl (by decide)
  | force => exact known cut rfl rfl rfl (by decide)
  | ignore => exact known cut rfl rfl rfl (by decide)

theorem mem_hintScopes {scope : Option String} (known : ∀ s, scope = some s → s ∈ hintScopes) :
    scope.getD "" ∈ hintScopes := by
  cases scope with
  | none => exact List.mem_cons_self
  | some s => exact known s rfl

theorem graded_call (name : Token) (distinct : Bool) (args : Option CallArguments)
    (sound : ∀ given, args = some given → given.Sound) :
    Builds (Node.Graded .simple) (callNode name distinct args) := by
  unfold callNode
  rcases args with _ | _ | list
  · dsimp only
    split_ifs
    · exact builds_ok (.intro ⟨rfl, rfl, trivial, trivial⟩ fits_nil rfl)
    · exact builds_error _
    · exact builds_ok (.intro ⟨rfl, rfl, trivial, trivial⟩ fits_nil rfl)
  · dsimp only
    split_ifs
    · exact builds_ok (.intro ⟨rfl, rfl, trivial, trivial⟩ fits_nil rfl)
    · exact builds_error _
    · exact builds_ok (.intro ⟨rfl, rfl, trivial, trivial⟩ fits_nil rfl)
  · have listed : ∀ x ∈ list, x.Sound := sound _ rfl
    dsimp only
    split_ifs
    · exact builds_ok (.intro ⟨Slot.all_isNode list, rfl, trivial, trivial⟩
        (fits_nodes listed fits_nil) rfl)
    · exact builds_error _
    · exact builds_ok (.intro ⟨Slot.all_isNode list, rfl, trivial, trivial⟩
        (fits_nodes listed fits_nil) rfl)

theorem sound_combine {first : Node} {rest : List (String × Node)} (select : first.Sound)
    (selects : ∀ e ∈ rest, e.2.Sound) : (combine first rest).Sound := by
  cases rest with
  | nil => exact select
  | cons next rest =>
    refine .intro ⟨?_, rfl, trivial, trivial⟩ ?_
    · simp [combine, Node.isWhole, Slot.isNode]
    · refine fits_node select ?_
      have fits : Fits (((next :: rest).map Prod.snd).map Slot.node ++ []) := by
        refine fits_nodes ?_ fits_nil
        intro x member
        obtain ⟨e, held, rfl⟩ := List.mem_map.mp member
        exact selects e held
      simpa [Function.comp_def, Member.held] using fits

theorem sound_join {left right : Node} (side : String) (condition : Option JoinCondition)
    (first : left.Sound) (second : right.Sound)
    (sound : ∀ given, condition = some given → given.Sound) :
    (joinNode left right side condition).Sound := by
  rcases condition with _ | condition | names
  · exact .intro ⟨rfl, rfl, trivial, trivial⟩
      (fits_node first (fits_node second (fits_empty fits_nil)))
  · have condition : condition.Sound := sound _ rfl
    exact .intro ⟨rfl, rfl, trivial, trivial⟩
      (fits_node first (fits_node second (fits_node condition fits_nil)))
  · have names : ∀ x ∈ names, x.Sound := sound _ rfl
    exact .intro ⟨Slot.all_isNode _, rfl, trivial, trivial⟩
      (fits_node first (fits_node second (fits_empty (fits_nodes names fits_nil))))

theorem sound_single {x : Node} (sound : x.Sound) :
    (Node.tableRefs (.node (.join (.node x) .empty "" .empty []))).Sound :=
  .intro ⟨rfl, rfl, trivial, trivial⟩ (fits_node
    (.intro ⟨rfl, rfl, trivial, trivial⟩ (fits_node sound (fits_empty (fits_empty fits_nil))))
      fits_nil)

/-- By induction on the tables: joins from the left are sound, and with more than one table the
result is a join already. -/
theorem sound_tableRefs {first : Node} {rest : List Node} (sound : first.Sound)
    (others : ∀ x ∈ rest, x.Sound) : (tableRefsNode first rest).Sound := by
  have joined : (rest.foldl (fun left right => joinNode left right "CROSS" none) first).Sound := by
    induction rest generalizing first with
    | nil => exact sound
    | cons next rest ih =>
      refine ih (sound_join "CROSS" none sound (others next List.mem_cons_self) nofun) ?_
      exact fun x member => others x (List.mem_cons_of_mem _ member)
  unfold tableRefsNode
  dsimp only
  generalize rest.foldl (fun left right => joinNode left right "CROSS" none) first = node at joined
  cases node with
  | join => exact .intro ⟨rfl, rfl, trivial, trivial⟩ (fits_node joined fits_nil)
  | _ => exact sound_single joined

theorem sound_columnNames (names : List String) :
    ∀ x ∈ names.map (Node.columnName "" ""), x.Sound := by
  intro x member
  obtain ⟨name, -, rfl⟩ := List.mem_map.mp member
  exact sound_bareColumn name

theorem sound_insert (replace ignore : Bool) {table : TablePath} {columns onDuplicate : List Node}
    {source : InsertSource} (target : table.name ≠ "") (named : ∀ x ∈ columns, x.Sound)
    (given : source.Sound) (changed : ∀ x ∈ onDuplicate, x.Sound) :
    (ManipulationRule.insertNode replace ignore table columns source onDuplicate).Sound := by
  have refs := sound_single (sound_source "" target (List.forall_mem_nil _))
  cases source with
  | rows list =>
    obtain ⟨some, sound⟩ := given
    refine .intro ⟨?_, rfl, trivial, trivial⟩
      (fits_node refs (fits_nodes named (fits_nodes sound (fits_empty ?_))))
    · simp [ManipulationRule.insertNode, Node.isWhole, Slot.isNode, Slot.isOptional,
        Slot.isEmpty, Slot.empty, countTrue, some]
    · exact fits_nodes changed fits_nil
  | query q =>
    refine .intro ⟨?_, rfl, trivial, trivial⟩
      (fits_node refs (fits_nodes named (fits_node given ?_)))
    · simp [ManipulationRule.insertNode, Node.isWhole, Slot.isNode, Slot.isOptional,
        Slot.isEmpty, countTrue]
    · exact fits_nodes changed fits_nil
  | assignments list =>
    obtain ⟨some, sound⟩ := given
    refine .intro ⟨?_, rfl, trivial, trivial⟩
      (fits_node refs (fits_nodes named (fits_nodes sound (fits_empty ?_))))
    · simp [ManipulationRule.insertNode, Node.isWhole, Slot.isNode, Slot.isOptional,
        Slot.isEmpty, Slot.empty, countTrue, some]
    · exact fits_nodes changed fits_nil

theorem sound_fieldList {x : Node} {xs : List Node} (first : x.Sound)
    (others : ∀ y ∈ xs, y.Sound) : (Node.fieldList ((x :: xs).map Slot.node)).Sound := by
  refine .intro ⟨?_, rfl, trivial, trivial⟩ (fits_node first (fits_nodes others fits_nil))
  simp [Node.isWhole, Slot.isNode]

theorem sound_wildcard (schema table : String) :
    (Node.selectField (.node (.wildcard schema table)) .empty "").Sound :=
  .intro ⟨rfl, rfl, trivial, trivial⟩
    (fits_node (.intro ⟨rfl, rfl, trivial, trivial⟩ fits_nil) (fits_empty fits_nil))

theorem sound_elements {elements : List TableElement} (sound : ∀ e ∈ elements, e.Sound) :
    Fits (elements.filterMap TableElement.column?) ∧
      Fits (elements.filterMap TableElement.constraint?) := by
  constructor
  · intro x member
    obtain ⟨e, held, found⟩ := List.mem_filterMap.mp member
    cases e with
    | column definition =>
      cases found
      exact sound _ held
    | constraint definition => cases found
  · intro x member
    obtain ⟨e, held, found⟩ := List.mem_filterMap.mp member
    cases e with
    | column definition => cases found
    | constraint definition =>
      cases found
      exact sound _ held

theorem all_isNode_elements (elements : List TableElement) :
    (elements.filterMap TableElement.column?).all Slot.isNode = true ∧
      (elements.filterMap TableElement.constraint?).all Slot.isNode = true := by
  induction elements with
  | nil => exact ⟨rfl, rfl⟩
  | cons e elements ih => cases e <;> exact ih

theorem sound_createTable (temporary guarded : Bool) {table : TablePath}
    {elements : List TableElement} {options : List Node} (named : table.name ≠ "")
    (sound : ∀ e ∈ elements, e.Sound) (settings : ∀ x ∈ options, x.Sound) :
    (createTableNode temporary guarded table elements options).Sound := by
  obtain ⟨columns, constraints⟩ := sound_elements sound
  obtain ⟨columnNodes, constraintNodes⟩ := all_isNode_elements elements
  refine .intro ⟨?_, rfl, trivial, trivial⟩ (fits_node (sound_table named) ?_)
  · simp [createTableNode, Node.isWhole, columnNodes, constraintNodes, Slot.isNode]
  · change Fits (_ ++ (_ ++ (_ ++ [])))
    exact fits_append columns (fits_append constraints (fits_nodes settings fits_nil))

theorem sound_indexPart (column : Token) (length : Int) (direction : Option Direction) :
    (indexPartNode column length direction).Sound :=
  .intro ⟨rfl, rfl, trivial, trivial⟩ (fits_node (sound_bareColumn _) fits_nil)

theorem sound_reference {table : TablePath} {keys : List Node} (actions : List ReferenceAction)
    (named : table.name ≠ "") (sound : ∀ x ∈ keys, x.Sound) :
    (referenceNode table keys actions).Sound :=
  .intro ⟨Slot.all_isNode keys, rfl, trivial, trivial⟩
    (fits_node (sound_table named) (fits_nodes sound fits_nil))

theorem sound_constraint {c : KeyConstraint} (sound : c.Sound) (symbol : String) :
    (c.toNode symbol).Sound := by
  refine .intro ⟨?_, rfl, trivial, trivial⟩ (fits_nodes sound.1 (fits_option sound.2 fits_nil))
  simp [KeyConstraint.toNode, Node.isWhole, Slot.isNode, Slot.isOptional_ofOption]

theorem graded_inList {x : Node} {items : List Node} (negated : Bool) (subject : x.Graded .bitOr)
    (listed : ∀ y ∈ items, y.Sound) :
    (Node.inSet (.node x) (items.map Slot.node) negated .empty).Graded .predicate := by
  refine .intro ⟨?_, ?_, subject.2, trivial⟩
    (fits_node subject.1 (fits_nodes listed (fits_empty fits_nil))) rfl
  · simp [Node.isWhole, Slot.isNode, Slot.isOptional, Slot.isEmpty, Slot.empty]
  · simp [Node.showsAll, Slot.isEmpty, Slot.empty]

theorem graded_inQuery {x query : Node} (negated : Bool) (subject : x.Graded .bitOr)
    (sound : query.Sound) : (Node.inSet (.node x) [] negated (.node query)).Graded .predicate :=
  .intro ⟨rfl, rfl, subject.2, trivial⟩ (fits_node subject.1 (fits_node sound fits_nil)) rfl

theorem graded_case {operand otherwise : Option Node} {whens : List Node}
    (compared : ∀ x, operand = some x → x.Graded .disjunction) (branches : ∀ x ∈ whens, x.Sound)
    (closed : ∀ x, otherwise = some x → x.Graded .disjunction) :
    (Node.caseOf (.ofOption operand) (whens.map Slot.node) (.ofOption otherwise)).Graded
      .simple := by
  refine .intro ⟨?_, rfl, trivial, trivial⟩ (fits_option (fun x given => (compared x given).1)
    (fits_nodes branches (fits_option (fun x given => (closed x given).1) fits_nil))) rfl
  simp [Node.isWhole, Slot.isNode, Slot.isOptional_ofOption]

theorem sound_row {xs : List Node} (sound : ∀ x ∈ xs, x.Sound) :
    (Node.row (xs.map Slot.node)).Sound :=
  .intro ⟨Slot.all_isNode xs, rfl, trivial, trivial⟩ (fits_nodes sound fits_nil)

/-- The clauses of a select in the order in which they are written. -/
theorem sound_select (distinct : Bool) (lock : String) {fields : Node}
    {source condition groups filter order bound : Option Node}
    (sound : Values.All Symbol.Sound
      [.nonterminal .selectFields, .nonterminal .optFrom, .nonterminal .optWhere,
        .nonterminal .optGroupBy, .nonterminal .optHaving, .nonterminal .optOrderBy,
        .nonterminal .optLimit, .nonterminal .optLock]
      (fields, source, condition, groups, filter, order, bound, lock, ())) :
    (Node.select distinct (.node fields) (.ofOption source) (.ofOption condition) (.ofOption groups)
      (.ofOption filter) (.ofOption order) (.ofOption bound) lock).Sound := by
  obtain ⟨fields, source, condition, groups, filter, order, bound, -⟩ := sound
  refine .intro ⟨?_, rfl, trivial, trivial⟩
    (fits_node fields (fits_option source (fits_option condition
    (fits_option groups (fits_option filter (fits_option order (fits_option bound fits_nil)))))))
  simp [Node.isWhole, Slot.isNode, Slot.isOptional_ofOption]

theorem sound_update (ignore : Bool) {refs : Node} {assignments : List Node}
    {condition order bound : Option Node} (read : refs.Sound)
    (changed : ∀ x ∈ assignments, x.Sound) (filtered : ∀ x, condition = some x → x.Sound)
    (ordered : ∀ x, order = some x → x.Sound) (bounded : ∀ x, bound = some x → x.Sound) :
    (Node.update ignore (.node refs) (assignments.map Slot.node) (.ofOption condition)
      (.ofOption order) (.ofOption bound)).Sound := by
  refine .intro ⟨?_, rfl, trivial, trivial⟩ (fits_node read (fits_nodes changed
    (fits_option filtered (fits_option ordered (fits_option bounded fits_nil)))))
  simp [Node.isWhole, Slot.isNode, Slot.isOptional_ofOption]

theorem sound_delete (ignore : Bool) {refs : Node} {condition order bound : Option Node}
    (read : refs.Sound) (filtered : ∀ x, condition = some x → x.Sound)
    (ordered : ∀ x, order = some x → x.Sound) (bounded : ∀ x, bound = some x → x.Sound) :
    (Node.delete ignore (.node refs) (.ofOption condition) (.ofOption order)
      (.ofOption bound)).Sound := by
  refine .intro ⟨?_, rfl, trivial, trivial⟩ (fits_node read
    (fits_option filtered (fits_option ordered (fits_option bounded fits_nil))))
  simp [Node.isWhole, Slot.isNode, Slot.isOptional_ofOption]

theorem sound_signed (minus : Bool) (t : Token) :
    Builds Node.Sound (match numberNode t with
      | .ok x => .ok (if minus then .unaryOp "-" (.node x) else x)
      | .error e => .error e) := by
  have number := graded_number t
  cases built : numberNode t with
  | error e => exact builds_error e
  | ok x =>
    cases minus
    · exact builds_ok (number x built).1
    · have signed : (Node.unaryOp "-" (.node x)).Graded .unary :=
        graded_unary (by rfl) ((number x built).mono (by decide))
      exact builds_ok signed.1

theorem sound_measured (column length : Token) (direction : Option Direction) :
    Builds Node.Sound (match lengthOf column length with
      | .ok n => .ok (indexPartNode column n direction)
      | .error e => .error e) := by
  cases lengthOf column length with
  | error e => exact builds_error e
  | ok n => exact builds_ok (sound_indexPart _ _ _)

/-- A script with one more statement, if it has one. -/
theorem sound_followed {earlier : Option (List Node)} {next : Option Node}
    (before : ∀ list, earlier = some list → ∀ x ∈ list, x.Sound)
    (sound : ∀ x, next = some x → x.Sound) :
    ∀ x ∈ earlier.getD [] ++ next.toList, x.Sound := by
  intro x member
  rcases List.mem_append.mp member with member | member
  · exact forall_mem_getD before x member
  · exact sound x (Option.mem_toList.mp member)

theorem of_some {x : Node} (sound : x.Sound) : ∀ y, some x = some y → y.Sound := by
  rintro y ⟨⟩
  exact sound

/-! ### Productions -/

theorem ExprRule.build_sound (m : Nat) (r : ExprRule) (vs : Values r.rhs)
    (sound : Values.All Symbol.Sound r.rhs vs) : Builds r.lhs.Sound (r.build m vs) := by
  cases r
  case logicOr =>
    exact builds_ok (graded_binary (by rfl) sound.1 sound.2.2.1 (by decide))
  case logicXor =>
    exact builds_ok (graded_binary (by rfl) sound.1 sound.2.2.1 (by decide))
  case logicAnd =>
    exact builds_ok (graded_binary (by rfl) sound.1 sound.2.2.1 (by decide))
  case compare =>
    obtain ⟨first, cut, second, -⟩ := sound
    exact builds_ok (graded_binary (ofOperator?_comparator cut) first second (by decide))
  case bitOr =>
    obtain ⟨first, cut, second, -⟩ := sound
    exact builds_ok (graded_marked (t := .pipe) cut nofun (by rfl) first second (by decide))
  case bitAnd =>
    obtain ⟨first, cut, second, -⟩ := sound
    exact builds_ok
      (graded_marked (t := .ampersand) cut nofun (by rfl) first second (by decide))
  case shift =>
    obtain ⟨first, cut, second, -⟩ := sound
    exact builds_ok (graded_marked (t := .shift) cut nofun (by rfl) first second (by decide))
  case sum minus =>
    obtain ⟨first, cut, second, -⟩ := sound
    exact builds_ok (graded_binary (ofOperator?_sum minus cut) first second (by decide))
  case product op =>
    obtain ⟨first, cut, second, -⟩ := sound
    exact builds_ok (graded_binary (ofOperator?_product op cut) first second (by decide))
  case bitXor =>
    obtain ⟨first, cut, second, -⟩ := sound
    exact builds_ok (graded_marked (t := .caret) cut nofun (by rfl) first second (by decide))
  case logicNot => exact builds_ok (graded_unary (by rfl) sound.2.1)
  case sign op => exact builds_ok (graded_unary (ofSign?_sign op sound.1) sound.2.1)
  case isNull negated =>
    exact builds_ok (.intro ⟨rfl, rfl, sound.1.2, trivial⟩ (fits_node sound.1.1 fits_nil) rfl)
  case isTruth negated truth =>
    exact builds_ok (.intro ⟨rfl, rfl, sound.1.2, trivial⟩ (fits_node sound.1.1 fits_nil) rfl)
  case equals => exact builds_ok (.inl sound.1)
  case comparison => exact builds_ok (.inr sound.1)
  case inList negated =>
    obtain ⟨-, -, -, items, -⟩ := Values.All.split negated sound.2
    exact builds_ok (graded_inList negated sound.1 items)
  case inSubquery negated =>
    obtain ⟨-, -, query, -⟩ := Values.All.split negated sound.2
    exact builds_ok (graded_inQuery negated sound.1 query.1)
  case between negated =>
    obtain ⟨-, -, low, -, high, -⟩ := Values.All.split negated sound.2
    exact builds_ok (.intro ⟨rfl, rfl, ⟨sound.1.2, low.2, high.2⟩, trivial⟩
      (fits_node sound.1.1 (fits_node low.1 (fits_node high.1 fits_nil))) rfl)
  case like negated escaped =>
    obtain ⟨-, -, pattern, -⟩ := Values.All.split negated sound.2
    exact builds_ok (.intro ⟨rfl, rfl, ⟨sound.1.2, pattern.2⟩, trivial⟩
      (fits_node sound.1.1 (fits_node pattern.1 fits_nil)) rfl)
  case regexp negated =>
    obtain ⟨-, -, pattern, -⟩ := Values.All.split negated sound.2
    exact builds_ok (.intro ⟨rfl, rfl, ⟨sound.1.2, pattern.2⟩, trivial⟩
      (fits_node sound.1.1 (fits_node pattern.1 fits_nil)) rfl)
  case simpleColumn => exact builds_ok (graded_column sound.1)
  case paren =>
    exact builds_ok (.intro ⟨rfl, rfl, trivial, trivial⟩ (fits_node sound.2.1.1 fits_nil) rfl)
  case row =>
    have values := List.forall_mem_cons.mpr ⟨sound.2.1.1, sound.2.2.2.1⟩
    exact builds_ok (Node.Sound.graded (sound_row values) rfl)
  case existsQuery =>
    exact builds_ok (.intro ⟨rfl, rfl, trivial, trivial⟩ (fits_node sound.2.1.1 fits_nil) rfl)
  case marker => exact builds_ok (.intro ⟨rfl, rfl, trivial, trivial⟩ fits_nil rfl)
  case variableRef => exact builds_ok (graded_variable _)
  case number => exact graded_number _
  case hexNumber => exact builds_ok (graded_literal _)
  case bitNumber => exact builds_ok (graded_literal _)
  case string => exact builds_ok (graded_literal _)
  case null => exact builds_ok (graded_literal _)
  case boolean truth => exact builds_ok (graded_literal _)
  case call distinct args =>
    obtain ⟨-, behind⟩ := Values.All.split distinct sound.2.2
    obtain ⟨given, -⟩ := Values.All.split args behind
    exact graded_call _ _ _ given
  case keywordCall distinct args =>
    obtain ⟨-, behind⟩ := Values.All.split distinct sound.2.2
    obtain ⟨given, -⟩ := Values.All.split args behind
    exact graded_call _ _ _ given
  case caseOf operand otherwise =>
    obtain ⟨compared, branches, behind⟩ := Values.All.split operand sound.2
    obtain ⟨-, behind⟩ := Values.All.split otherwise behind
    obtain ⟨closed, -⟩ := Values.All.split otherwise behind
    exact builds_ok (graded_case compared branches closed)
  -- an operand of a tighter level stands for one of this level
  case orOperand => exact builds_ok (sound.1.mono (by decide))
  case xorOperand => exact builds_ok (sound.1.mono (by decide))
  case andOperand => exact builds_ok (sound.1.mono (by decide))
  case notOperand => exact builds_ok (sound.1.mono (by decide))
  case boolOperand => exact builds_ok (sound.1.mono (by decide))
  case predicateOperand => exact builds_ok (sound.1.mono (by decide))
  case bitOrOperand => exact builds_ok (sound.1.mono (by decide))
  case bitAndOperand => exact builds_ok (sound.1.mono (by decide))
  case shiftOperand => exact builds_ok (sound.1.mono (by decide))
  case sumOperand => exact builds_ok (sound.1.mono (by decide))
  case productOperand => exact builds_ok (sound.1.mono (by decide))
  case bitXorOperand => exact builds_ok (sound.1.mono (by decide))
  case unaryOperand => exact builds_ok (sound.1.mono (by decide))
  case whenRun more =>
    obtain ⟨earlier, last, -⟩ := Values.All.split more sound
    exact builds_ok (forall_mem_grown earlier last)
  case whenClause => exact builds_node (fits_node sound.2.1.1 (fits_node sound.2.2.2.1.1 fits_nil))
  case exprList more =>
    obtain ⟨others, -⟩ := Values.All.split more sound.2
    exact builds_ok (List.forall_mem_cons.mpr ⟨sound.1.1, forall_mem_getD others⟩)
  case exprTail more =>
    obtain ⟨earlier, -, last, -⟩ := Values.All.split more sound
    exact builds_ok (forall_mem_grown earlier last.1)
  case functionWord word => exact builds_ok trivial
  case plainIdent => exact builds_ok (Token.Cut.name_ne (t := .name) sound.1 (.inl rfl))
  case quotedIdent => exact builds_ok (Token.Cut.name_ne (t := .quotedName) sound.1 (.inr rfl))
  case column => exact builds_ok fun _ => rfl
  case tableColumn => exact builds_ok fun none => absurd none sound.1
  case schemaColumn => exact builds_ok fun none => absurd none sound.2.2.1
  case identAlone => exact builds_ok trivial
  case identList more => exact builds_ok trivial
  case stringIdent => exact builds_ok trivial
  case starArgument => exact builds_ok trivial
  case identTail more => exact builds_ok trivial
  all_goals exact builds_ok sound.1

theorem QueryRule.build_sound (m : Nat) (r : QueryRule) (vs : Values r.rhs)
    (sound : Values.All Symbol.Sound r.rhs vs) : Builds r.lhs.Sound (r.build m vs) := by
  cases r
  case query more =>
    obtain ⟨others, -⟩ := Values.All.split more sound.2
    exact builds_ok (sound_combine sound.1 (forall_mem_getD others))
  case queryTail more =>
    obtain ⟨earlier, -, last, -⟩ := Values.All.split more sound
    exact builds_ok (forall_mem_grown earlier last)
  case selectCore quantifier =>
    exact builds_ok (sound_select _ _ (Values.All.choose _ sound.2))
  case fromClause => exact builds_ok (of_some sound.2.1)
  case whereClause => exact builds_ok (of_some sound.2.1.1)
  case groupClause => exact builds_ok (of_some sound.1)
  case havingClause => exact builds_ok (of_some sound.1)
  case orderClause => exact builds_ok (of_some sound.1)
  case limitClause => exact builds_ok (of_some sound.1)
  case noFrom => exact builds_ok nofun
  case noWhere => exact builds_ok nofun
  case noGroup => exact builds_ok nofun
  case noHaving => exact builds_ok nofun
  case noOrder => exact builds_ok nofun
  case noLimit => exact builds_ok nofun
  case selectFields more =>
    obtain ⟨others, -⟩ := Values.All.split more sound.2
    exact builds_ok (sound_fieldList sound.1 (forall_mem_getD others))
  case selectFieldTail more =>
    obtain ⟨earlier, -, last, -⟩ := Values.All.split more sound
    exact builds_ok (forall_mem_grown earlier last)
  case fieldStar => exact builds_ok (sound_wildcard _ _)
  case fieldTableStar => exact builds_ok (sound_wildcard _ _)
  case fieldSchemaTableStar => exact builds_ok (sound_wildcard _ _)
  case fieldExpr named => exact builds_node (fits_empty (fits_node sound.1.1 fits_nil))
  case tableRefs more =>
    obtain ⟨others, -⟩ := Values.All.split more sound.2
    exact builds_ok (sound_tableRefs sound.1 (forall_mem_getD others))
  case tableRefTail more =>
    obtain ⟨earlier, -, last, -⟩ := Values.All.split more sound
    exact builds_ok (forall_mem_grown earlier last)
  case joinTable conditioned =>
    obtain ⟨left, -, right, behind⟩ := sound
    obtain ⟨condition, -⟩ := Values.All.split conditioned behind
    exact builds_ok (sound_join _ _ left right condition)
  case onCondition =>
    exact builds_ok (.intro ⟨rfl, rfl, trivial, trivial⟩ (fits_node sound.2.1.1 fits_nil))
  case usingColumns => exact builds_ok (sound_columnNames _)
  case tableSource named hinted =>
    obtain ⟨-, behind⟩ := Values.All.split named sound.2
    obtain ⟨hints, -⟩ := Values.All.split hinted behind
    exact builds_ok (sound_source _ sound.1 (forall_mem_getD hints))
  case derivedTable => exact builds_node (fits_node sound.1.1 fits_nil)
  case tableName qualified =>
    cases qualified
    · exact builds_ok sound.1
    · exact builds_ok sound.2.2.1
  case indexHintRun more =>
    obtain ⟨earlier, last, -⟩ := Values.All.split more sound
    exact builds_ok (forall_mem_grown earlier last)
  case indexHint verb byKey limited named =>
    obtain ⟨-, behind⟩ := Values.All.split limited sound.2.2
    obtain ⟨scope, -⟩ := Values.All.split limited behind
    exact builds_ok ⟨.intro ⟨rfl, rfl, trivial, mem_hintVerbs sound.1, mem_hintScopes scope⟩
      fits_nil, rfl⟩
  case scopeJoin => exact builds_ok (show "JOIN" ∈ hintScopes by decide)
  case scopeOrderBy => exact builds_ok (show "ORDER BY" ∈ hintScopes by decide)
  case scopeGroupBy => exact builds_ok (show "GROUP BY" ∈ hintScopes by decide)
  case groupBy more =>
    obtain ⟨-, -, first, behind⟩ := sound
    obtain ⟨others, -⟩ := Values.All.split more behind
    exact builds_ok (.intro ⟨Slot.all_isNode (_ :: _), rfl, trivial, trivial⟩
      (fits_node first (fits_nodes (forall_mem_getD others) fits_nil)))
  case byItemTail more =>
    obtain ⟨earlier, -, last, -⟩ := Values.All.split more sound
    exact builds_ok (forall_mem_grown earlier last)
  case having => exact builds_node (fits_node sound.2.1.1 fits_nil)
  case orderBy more =>
    obtain ⟨-, -, first, behind⟩ := sound
    obtain ⟨others, -⟩ := Values.All.split more behind
    exact builds_ok (.intro ⟨Slot.all_isNode (_ :: _), rfl, trivial, trivial⟩
      (fits_node first (fits_nodes (forall_mem_getD others) fits_nil)))
  case byItem direction => exact builds_node (fits_node sound.1.1 fits_nil)
  case limitCount => exact builds_node (fits_node sound.2.1 (fits_empty fits_nil))
  case limitOffsetCount =>
    exact builds_node (fits_node sound.2.2.2.1 (fits_node sound.2.1 fits_nil))
  case limitCountOffset =>
    exact builds_node (fits_node sound.2.1 (fits_node sound.2.2.2.1 fits_nil))
  case limitNumber => exact (graded_number _).imp fun _ graded => graded.1
  case limitMarker => exact builds_node fits_nil
  case subquery =>
    exact builds_ok (.intro ⟨rfl, rfl, trivial, trivial⟩ (fits_node sound.2.1 fits_nil) rfl)
  case singleTable => exact builds_ok sound.1
  case joinedTable => exact builds_ok sound.1
  case indexHints => exact builds_ok sound.1
  all_goals exact builds_ok trivial

theorem ManipulationRule.build_sound (r : ManipulationRule) (vs : Values r.rhs)
    (sound : Values.All Symbol.Sound r.rhs vs) : Builds r.lhs.Sound (r.build vs) := by
  cases r
  case insertStatement replace ignore into columns updates =>
    obtain ⟨-, behind⟩ := Values.All.split ignore sound.2
    obtain ⟨-, target, behind⟩ := Values.All.split into behind
    obtain ⟨names, source, behind⟩ := Values.All.split columns behind
    obtain ⟨changes, -⟩ := Values.All.split updates behind
    exact builds_ok (sound_insert _ _ target (forall_mem_getD names) source
      (forall_mem_getD changes))
  case noColumns => exact builds_ok nofun
  case columnList => exact builds_ok (sound_columnNames _)
  case insertValues plural more =>
    obtain ⟨others, -⟩ := Values.All.split more sound.2.2
    exact builds_ok ⟨nofun, List.forall_mem_cons.mpr ⟨sound.2.1, forall_mem_getD others⟩⟩
  case insertAssignments more =>
    obtain ⟨others, -⟩ := Values.All.split more sound.2.2
    exact builds_ok ⟨nofun, List.forall_mem_cons.mpr ⟨sound.2.1, forall_mem_getD others⟩⟩
  case valueRowTail more =>
    obtain ⟨earlier, -, last, -⟩ := Values.All.split more sound
    exact builds_ok (forall_mem_grown earlier last)
  case emptyRow => exact builds_node fits_nil
  case valueRow more =>
    obtain ⟨others, -⟩ := Values.All.split more sound.2.2
    exact builds_ok (sound_row (List.forall_mem_cons.mpr ⟨sound.2.1, forall_mem_getD others⟩))
  case valueTail more =>
    obtain ⟨earlier, -, last, -⟩ := Values.All.split more sound
    exact builds_ok (forall_mem_grown earlier last)
  case valueDefault => exact builds_node fits_nil
  case onDuplicate more =>
    obtain ⟨-, -, -, -, first, behind⟩ := sound
    obtain ⟨others, -⟩ := Values.All.split more behind
    exact builds_ok (List.forall_mem_cons.mpr ⟨first, forall_mem_getD others⟩)
  case assignment =>
    exact builds_node (fits_node (sound_columnName sound.1 _) (fits_node sound.2.2.1 fits_nil))
  case assignmentTail more =>
    obtain ⟨earlier, -, last, -⟩ := Values.All.split more sound
    exact builds_ok (forall_mem_grown earlier last)
  case valueExpr => exact builds_ok sound.1.1
  case updateStatement ignore more =>
    obtain ⟨-, refs, -, first, behind⟩ := Values.All.split ignore sound.2
    obtain ⟨others, condition, order, bound, -⟩ := Values.All.split more behind
    have assignments := List.forall_mem_cons.mpr ⟨first, forall_mem_getD others⟩
    exact builds_ok (sound_update _ refs assignments condition order bound)
  case deleteStatement ignore =>
    obtain ⟨-, -, refs, condition, order, bound, -⟩ := Values.All.split ignore sound.2
    exact builds_ok (sound_delete _ refs condition order bound)
  all_goals exact builds_ok sound.1

theorem DefinitionRule.build_sound (r : DefinitionRule) (vs : Values r.rhs)
    (sound : Values.All Symbol.Sound r.rhs vs) : Builds r.lhs.Sound (r.build vs) := by
  cases r
  case createTable temporary guarded more options =>
    obtain ⟨-, -, behind⟩ := Values.All.split temporary sound.2
    obtain ⟨-, named, -, first, behind⟩ := Values.All.split guarded behind
    obtain ⟨others, -, behind⟩ := Values.All.split more behind
    obtain ⟨settings, -⟩ := Values.All.split options behind
    have elements := List.forall_mem_cons.mpr ⟨first, forall_mem_getD others⟩
    exact builds_ok (sound_createTable _ _ named elements (forall_mem_getD settings))
  case tableElementTail more =>
    obtain ⟨earlier, -, last, -⟩ := Values.All.split more sound
    exact builds_ok (forall_mem_grown earlier last)
  case tableOptionRun more =>
    obtain ⟨earlier, last, -⟩ := Values.All.split more sound
    exact builds_ok (forall_mem_grown earlier last)
  case columnElement => exact builds_ok sound.1
  case constraintElement => exact builds_ok sound.1
  case columnDef options =>
    obtain ⟨others, -⟩ := Values.All.split options sound.2.2
    exact builds_ok (.intro ⟨Slot.all_isNode _, rfl, trivial, trivial⟩
      (fits_node (sound_bareColumn _) (fits_nodes (forall_mem_getD others) fits_nil)))
  case columnOptionRun more =>
    obtain ⟨earlier, last, -⟩ := Values.All.split more sound
    exact builds_ok (forall_mem_grown earlier last)
  case notNull => exact builds_node (fits_empty fits_nil)
  case nullable => exact builds_node (fits_empty fits_nil)
  case defaultOption => exact builds_node (fits_node sound.2.1 fits_nil)
  case autoIncrement => exact builds_node (fits_empty fits_nil)
  case primaryKey marked => exact builds_node (fits_empty fits_nil)
  case uniqueKey marked => exact builds_node (fits_empty fits_nil)
  case comment => exact builds_node (fits_node (graded_literal _).1 fits_nil)
  case onUpdate => exact builds_node (fits_node sound.2.2.1 fits_nil)
  case collate => exact builds_node (fits_empty fits_nil)
  case charset => exact builds_node (fits_empty fits_nil)
  case characterSet => exact builds_node (fits_empty fits_nil)
  case defaultLiteral => exact builds_ok sound.1.1
  case defaultSigned minus => exact sound_signed _ _
  case defaultName => exact builds_node fits_nil
  case defaultCall => exact builds_ok sound.1.1
  case defaultParen => exact builds_node (fits_node sound.2.1.1 fits_nil)
  case namedConstraint named =>
    obtain ⟨-, body, -⟩ := Values.All.split named sound.2
    exact builds_ok (sound_constraint body _)
  case bareConstraint => exact builds_ok (sound_constraint sound.1 _)
  case primaryConstraint => exact builds_ok ⟨sound.2.2.1, nofun⟩
  case uniqueConstraint word named =>
    obtain ⟨-, keys, -⟩ := Values.All.split named (Values.All.choose _ sound.2)
    exact builds_ok ⟨keys, nofun⟩
  case indexConstraint word named =>
    obtain ⟨-, keys, -⟩ := Values.All.split named sound.2
    exact builds_ok ⟨keys, nofun⟩
  case foreignConstraint named =>
    obtain ⟨-, keys, refer, -⟩ := Values.All.split named sound.2.2
    exact builds_ok ⟨keys, of_some refer⟩
  case keyParts more =>
    obtain ⟨others, -⟩ := Values.All.split more sound.2.2
    exact builds_ok (List.forall_mem_cons.mpr ⟨sound.2.1, forall_mem_getD others⟩)
  case keyPartTail more =>
    obtain ⟨earlier, -, last, -⟩ := Values.All.split more sound
    exact builds_ok (forall_mem_grown earlier last)
  case keyPart direction => exact builds_ok (sound_indexPart _ _ _)
  case measuredPart direction => exact sound_measured _ _ _
  case referenceDef actions => exact builds_ok (sound_reference _ sound.2.1 sound.2.2.1)
  case engineOption equals => exact builds_node fits_nil
  case charsetOption default equals => exact builds_node fits_nil
  case characterSetOption default equals => exact builds_node fits_nil
  case collateOption default equals => exact builds_node fits_nil
  case commentOption equals => exact builds_node fits_nil
  case autoIncrementOption equals => exact builds_node fits_nil
  case dropTable temporary guarded more =>
    obtain ⟨-, -, behind⟩ := Values.All.split temporary sound.2
    obtain ⟨-, named, behind⟩ := Values.All.split guarded behind
    obtain ⟨others, -⟩ := Values.All.split more behind
    exact builds_ok (.intro ⟨Slot.all_isNode (_ :: _), rfl, trivial, trivial⟩
      (fits_node (sound_table named) (fits_nodes (forall_mem_getD others) fits_nil)))
  case tableNameTail more =>
    obtain ⟨earlier, -, named, -⟩ := Values.All.split more sound
    exact builds_ok (forall_mem_grown earlier (sound_table named))
  case truncateTable marked =>
    obtain ⟨-, named, -⟩ := Values.All.split marked sound.2
    exact builds_node (fits_node (sound_table named) fits_nil)
  case createIndex unique =>
    obtain ⟨-, -, -, -, named, parts, -⟩ := Values.All.split unique sound.2
    exact builds_ok (.intro ⟨Slot.all_isNode _, rfl, trivial, trivial⟩
      (fits_node (sound_table named) (fits_nodes parts fits_nil)))
  case dropIndex => exact builds_node (fits_node (sound_table sound.2.2.2.2.1) fits_nil)
  case createDatabase schema guarded => exact builds_node fits_nil
  case dropDatabase schema guarded => exact builds_node fits_nil
  all_goals exact builds_ok trivial

theorem ScriptRule.build_sound (r : ScriptRule) (vs : Values r.rhs)
    (sound : Values.All Symbol.Sound r.rhs vs) : Builds r.lhs.Sound (r.build vs) := by
  cases r
  case script items last =>
    obtain ⟨earlier, behind⟩ := Values.All.split items sound
    obtain ⟨final, -⟩ := Values.All.split last behind
    exact builds_ok (sound_followed earlier final)
  case scriptItems more filled =>
    obtain ⟨earlier, behind⟩ := Values.All.split more sound
    obtain ⟨next, -⟩ := Values.All.split filled behind
    exact builds_ok (sound_followed earlier next)
  case statement form => cases form <;> exact builds_ok sound.1
  case useDatabase => exact builds_node fits_nil
  case begin marked => exact builds_node fits_nil
  case startTransaction => exact builds_node fits_nil
  case commit marked => exact builds_node fits_nil
  case rollback marked => exact builds_node fits_nil
  case explain => exact builds_node (fits_node sound.2.1 fits_nil)
  all_goals exact builds_ok sound.1

/-- Tokens are cut from the text by their terminal, and productions build sound trees. -/
theorem sound_inherited : Inherited Symbol.Sound where
  token t cs n position found := ⟨rfl, cs, n, found, String.toList_ofList⟩
  production p m vs v sound built := by
    cases p with
    | script r => exact r.build_sound vs sound v built
    | query r => exact r.build_sound m vs sound v built
    | expr r => exact r.build_sound m vs sound v built
    | manipulation r => exact r.build_sound vs sound v built
    | definition r => exact r.build_sound vs sound v built

end Grammar

end SqlSyntax
