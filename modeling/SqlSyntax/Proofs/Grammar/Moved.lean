import Mathlib.Tactic.SplitIfs
import SqlSyntax.Grammar.Script
import SqlSyntax.Proofs.Tree.Markers

/-!
# Values under a change of places and marker orders

Moving every token to another place and numbering the markers anew commutes with building: nothing
but error reports looks at the place of a token, and only the two marker productions look at the
number of markers before them.
-/

namespace SqlSyntax

def Token.moved (move : Position → Position) (t : Token) : Token :=
  { t with position := move t.position }

@[simp]
theorem Token.moved_text (move : Position → Position) (t : Token) : (t.moved move).text = t.text :=
  rfl

@[simp]
theorem Token.moved_name (move : Position → Position) (t : Token) : (t.moved move).name = t.name :=
  rfl

namespace Grammar

def JoinCondition.mapMarkers (f : Int → Int) : JoinCondition → JoinCondition
  | .on condition => .on (condition.mapMarkers f)
  | .columns list => .columns (list.map (Node.mapMarkers f))

def CallArguments.mapMarkers (f : Int → Int) : CallArguments → CallArguments
  | .star => .star
  | .list args => .list (args.map (Node.mapMarkers f))

def InsertSource.mapMarkers (f : Int → Int) : InsertSource → InsertSource
  | .rows list => .rows (list.map (Node.mapMarkers f))
  | .query q => .query (q.mapMarkers f)
  | .assignments list => .assignments (list.map (Node.mapMarkers f))

def TableElement.mapMarkers (f : Int → Int) : TableElement → TableElement
  | .column definition => .column (definition.mapMarkers f)
  | .constraint definition => .constraint (definition.mapMarkers f)

def KeyConstraint.mapMarkers (f : Int → Int) (c : KeyConstraint) : KeyConstraint :=
  { c with
    keys := c.keys.map (Node.mapMarkers f)
    refer := c.refer.map (Node.mapMarkers f) }

/-- A value with its tokens moved and its markers numbered anew. -/
def ValueKind.moved (move : Position → Position) (f : Int → Int) :
    (k : ValueKind) → k.Value → k.Value
  | .node => Node.mapMarkers f
  | .nodes => List.map (Node.mapMarkers f)
  | .optionalNode => Option.map (Node.mapMarkers f)
  | .operations => List.map (Prod.map id (Node.mapMarkers f))
  | .token => Token.moved move
  | .joinCondition => JoinCondition.mapMarkers f
  | .callArguments => CallArguments.mapMarkers f
  | .insertSource => InsertSource.mapMarkers f
  | .tableElement => TableElement.mapMarkers f
  | .tableElements => List.map (TableElement.mapMarkers f)
  | .keyConstraint => KeyConstraint.mapMarkers f
  | .text | .texts | .nothing | .tablePath | .columnPath | .referenceAction | .referenceActions =>
    id

def Nonterminal.moved (move : Position → Position) (f : Int → Int) (n : Nonterminal) :
    n.Value → n.Value :=
  n.kind.moved move f

def Symbol.moved (move : Position → Position) (f : Int → Int) : (s : Symbol) → s.Value → s.Value
  | .terminal _ => Token.moved move
  | .nonterminal n => n.moved move f

def Values.moved (move : Position → Position) (f : Int → Int) :
    (symbols : List Symbol) → Values symbols → Values symbols
  | [], vs => vs
  | s :: rest, (v, vs) => (s.moved move f v, Values.moved move f rest vs)

def BuildError.moved (move : Position → Position) : BuildError → BuildError
  | .numberOutOfRange token => .numberOutOfRange (token.moved move)
  | .notAggregate name => .notAggregate (name.moved move)
  | .badLength column length => .badLength (column.moved move) (length.moved move)

/-- What became of a value, moved by `f` if there is one. -/
def carried {α : Type} (move : Position → Position) (f : α → α) :
    Except BuildError α → Except BuildError α
  | .ok v => .ok (f v)
  | .error e => .error (e.moved move)

variable (move : Position → Position) (f : Int → Int)

/-! ### Helpers of the productions -/

theorem numberNode_moved (t : Token) :
    numberNode (t.moved move) = carried move (Node.mapMarkers f) (numberNode t) := by
  have same : (t.moved move).text = t.text := rfl
  unfold numberNode
  rw [same]
  dsimp only
  split_ifs <;> rfl

theorem variableNode_moved (t : Token) :
    variableNode (t.moved move) = (variableNode t).mapMarkers f := by
  have same : (t.moved move).text = t.text := rfl
  unfold variableNode
  rw [same]
  split <;> rfl

theorem callNode_moved (name : Token) (distinct : Bool) (args : Option CallArguments) :
    callNode (name.moved move) distinct (args.map (CallArguments.mapMarkers f)) =
      carried move (Node.mapMarkers f) (callNode name distinct args) := by
  have same : (name.moved move).name = name.name := rfl
  unfold callNode
  rw [same]
  rcases args with _ | _ | args
  · dsimp only [Option.map]
    split_ifs <;> rfl
  · dsimp only [Option.map, CallArguments.mapMarkers]
    split_ifs <;> rfl
  · dsimp only [Option.map, CallArguments.mapMarkers]
    split_ifs <;> simp [carried, BuildError.moved]

theorem lengthOf_moved (column length : Token) :
    lengthOf (column.moved move) (length.moved move) =
      carried move id (lengthOf column length) := by
  have same : (length.moved move).text = length.text := rfl
  unfold lengthOf
  rw [same]
  dsimp only
  split_ifs <;> rfl

theorem signedNode_moved (minus : Bool) (t : Token) :
    (match numberNode (t.moved move) with
      | .ok x => .ok (if minus then .unaryOp "-" (.node x) else x)
      | .error e => .error e) =
      carried move (Node.mapMarkers f) (match numberNode t with
        | .ok x => .ok (if minus then .unaryOp "-" (.node x) else x)
        | .error e => .error e) := by
  rw [numberNode_moved move f]
  cases numberNode t with
  | error e => rfl
  | ok x => cases minus <;> rfl

theorem measuredNode_moved (column length : Token) (direction : Option Direction) :
    (match lengthOf (column.moved move) (length.moved move) with
      | .ok n => .ok (indexPartNode (column.moved move) n direction)
      | .error e => .error e) =
      carried move (Node.mapMarkers f) (match lengthOf column length with
        | .ok n => .ok (indexPartNode column n direction)
        | .error e => .error e) := by
  rw [lengthOf_moved move]
  cases lengthOf column length <;> rfl

theorem grown_map {α β : Type} (g : α → β) (earlier : Option (List α)) (last : α) :
    (grown earlier last).map g = grown (earlier.map (List.map g)) (g last) := by
  cases earlier <;> simp [grown]

theorem combine_mapMarkers (first : Node) (rest : List (String × Node)) :
    combine (first.mapMarkers f) (rest.map (Prod.map id (Node.mapMarkers f))) =
      (combine first rest).mapMarkers f := by
  cases rest with
  | nil => rfl
  | cons next rest =>
    have selects : ((next :: rest).map fun p => Slot.node p.2) =
        ((next :: rest).map Prod.snd).map Slot.node := by simp
    simp only [combine, Node.mapMarkers, Slot.mapMarkersEach, selects, Slot.mapMarkersEach_nodes]
    simp

theorem joinNode_mapMarkers (left right : Node) (side : String) (condition : Option JoinCondition) :
    joinNode (left.mapMarkers f) (right.mapMarkers f) side
        (condition.map (JoinCondition.mapMarkers f)) =
      (joinNode left right side condition).mapMarkers f := by
  rcases condition with _ | _ | names
  · rfl
  · rfl
  · simp [joinNode, JoinCondition.mapMarkers, Slot.empty]

theorem foldl_joinNode_mapMarkers (first : Node) (rest : List Node) :
    (rest.map (Node.mapMarkers f)).foldl (fun left right => joinNode left right "CROSS" none)
        (first.mapMarkers f) =
      (rest.foldl (fun left right => joinNode left right "CROSS" none) first).mapMarkers f := by
  induction rest generalizing first with
  | nil => rfl
  | cons next rest ih =>
    have joined := joinNode_mapMarkers f first next "CROSS" none
    simp only [Option.map_none] at joined
    rw [List.map_cons, List.foldl_cons, List.foldl_cons, joined, ih]

theorem tableRefsNode_mapMarkers (first : Node) (rest : List Node) :
    tableRefsNode (first.mapMarkers f) (rest.map (Node.mapMarkers f)) =
      (tableRefsNode first rest).mapMarkers f := by
  unfold tableRefsNode
  rw [foldl_joinNode_mapMarkers]
  cases rest.foldl (fun left right => joinNode left right "CROSS" none) first <;> rfl

theorem select_mapMarkers (distinct : Bool) (fields : Node)
    (source condition groups filter order bound : Option Node) (lock : String) :
    (Node.select distinct (.node fields) (.ofOption source) (.ofOption condition) (.ofOption groups)
        (.ofOption filter) (.ofOption order) (.ofOption bound) lock).mapMarkers f =
      .select distinct (.node (fields.mapMarkers f)) (.ofOption (source.map (Node.mapMarkers f)))
        (.ofOption (condition.map (Node.mapMarkers f))) (.ofOption (groups.map (Node.mapMarkers f)))
        (.ofOption (filter.map (Node.mapMarkers f))) (.ofOption (order.map (Node.mapMarkers f)))
        (.ofOption (bound.map (Node.mapMarkers f))) lock := by
  simp

theorem columnNames_mapMarkers (names : List String) :
    (names.map (Node.columnName "" "")).map (Node.mapMarkers f) =
      names.map (Node.columnName "" "") := by
  simp

theorem insertNode_mapMarkers (replace ignore : Bool) (table : TablePath) (columns : List Node)
    (source : InsertSource) (onDuplicate : List Node) :
    ManipulationRule.insertNode replace ignore table (columns.map (Node.mapMarkers f))
        (source.mapMarkers f) (onDuplicate.map (Node.mapMarkers f)) =
      Node.mapMarkers f
        (ManipulationRule.insertNode replace ignore table columns source onDuplicate) := by
  cases source <;>
    simp [ManipulationRule.insertNode, InsertSource.mapMarkers, TablePath.toNode, Slot.empty]

theorem filterMap_mapMarkers {pick : TableElement → Option Slot}
    (natural : ∀ e, pick (e.mapMarkers f) = (pick e).map (Slot.mapMarkers f))
    (elements : List TableElement) :
    (elements.map (TableElement.mapMarkers f)).filterMap pick =
      Slot.mapMarkersEach f (elements.filterMap pick) := by
  induction elements with
  | nil => rfl
  | cons e rest ih =>
    rw [List.map_cons]
    cases picked : pick e with
    | none =>
      rw [List.filterMap_cons_none (by rw [natural, picked]; rfl),
        List.filterMap_cons_none picked, ih]
    | some s =>
      rw [List.filterMap_cons_some (by rw [natural, picked]; rfl),
        List.filterMap_cons_some picked, ih]
      rfl

theorem update_mapMarkers (ignore : Bool) (refs first : Node) (rest : List Node)
    (condition order bound : Option Node) :
    (Node.update ignore (.node refs) ((first :: rest).map Slot.node) (.ofOption condition)
        (.ofOption order) (.ofOption bound)).mapMarkers f =
      .update ignore (.node (refs.mapMarkers f))
        ((first.mapMarkers f :: rest.map (Node.mapMarkers f)).map Slot.node)
        (.ofOption (condition.map (Node.mapMarkers f))) (.ofOption (order.map (Node.mapMarkers f)))
        (.ofOption (bound.map (Node.mapMarkers f))) := by
  simp

theorem delete_mapMarkers (ignore : Bool) (refs : Node) (condition order bound : Option Node) :
    (Node.delete ignore (.node refs) (.ofOption condition) (.ofOption order)
        (.ofOption bound)).mapMarkers f =
      .delete ignore (.node (refs.mapMarkers f)) (.ofOption (condition.map (Node.mapMarkers f)))
        (.ofOption (order.map (Node.mapMarkers f)))
          (.ofOption (bound.map (Node.mapMarkers f))) := by
  simp

theorem createTableNode_mapMarkers (temporary guarded : Bool) (table : TablePath)
    (elements : List TableElement) (options : List Node) :
    createTableNode temporary guarded table (elements.map (TableElement.mapMarkers f))
        (options.map (Node.mapMarkers f)) =
      (createTableNode temporary guarded table elements options).mapMarkers f := by
  unfold createTableNode
  rw [filterMap_mapMarkers f (fun e => by cases e <;> rfl),
    filterMap_mapMarkers f (fun e => by cases e <;> rfl)]
  simp [TablePath.toNode]

theorem toNode_mapMarkers (c : KeyConstraint) (symbol : String) :
    (c.mapMarkers f).toNode symbol = (c.toNode symbol).mapMarkers f := by
  simp [KeyConstraint.toNode, KeyConstraint.mapMarkers]

theorem referenceNode_mapMarkers (table : TablePath) (keys : List Node)
    (actions : List ReferenceAction) :
    referenceNode table (keys.map (Node.mapMarkers f)) actions =
      (referenceNode table keys actions).mapMarkers f := by
  simp [referenceNode, TablePath.toNode]

/-! ### Productions -/

variable {move f}

/-- Expressions built from moved values, with the markers before them numbered anew. -/
theorem ExprRule.build_moved {m m' : Nat} (counted : (m' : Int) = f m) (r : ExprRule)
    (vs : Values r.rhs) :
    r.build m' (Values.moved move f r.rhs vs) =
      carried move (r.lhs.moved move f) (r.build m vs) := by
  cases r
  case inList negated =>
    cases negated <;>
      exact congrArg (fun s => Except.ok (Node.inSet _ s _ _)) (Slot.mapMarkersEach_nodes f _).symm
  case row =>
    exact congrArg (fun s => Except.ok (Node.row (_ :: s))) (Slot.mapMarkersEach_nodes f _).symm
  case like negated escaped => cases negated <;> cases escaped <;> rfl
  case marker => exact congrArg (fun order => Except.ok (Node.paramMarker order)) counted
  case variableRef => exact congrArg Except.ok (variableNode_moved move f vs.1)
  case number => exact numberNode_moved move f vs.1
  case call distinct args =>
    cases distinct <;> cases args
    · exact callNode_moved move f vs.1 false none
    · exact callNode_moved move f vs.1 false (some vs.2.2.1)
    · exact callNode_moved move f vs.1 true none
    · exact callNode_moved move f vs.1 true (some vs.2.2.2.1)
  case keywordCall distinct args =>
    cases distinct <;> cases args
    · exact callNode_moved move f vs.1 false none
    · exact callNode_moved move f vs.1 false (some vs.2.2.1)
    · exact callNode_moved move f vs.1 true none
    · exact callNode_moved move f vs.1 true (some vs.2.2.2.1)
  case caseOf operand otherwise =>
    cases operand <;> cases otherwise <;>
      exact congrArg (fun s => Except.ok (Node.caseOf _ s _)) (Slot.mapMarkersEach_nodes f _).symm
  case whenRun more =>
    cases more
    · rfl
    · exact congrArg Except.ok (grown_map _ (some vs.1) vs.2.1).symm
  case exprList more => cases more <;> rfl
  case exprTail more =>
    cases more
    · rfl
    · exact congrArg Except.ok (grown_map _ (some vs.1) vs.2.2.1).symm
  case identList more => cases more <;> rfl
  case identTail more => cases more <;> rfl
  case isNull negated => cases negated <;> rfl
  case isTruth negated truth => cases negated <;> cases truth <;> rfl
  case inSubquery negated => cases negated <;> rfl
  case between negated => cases negated <;> rfl
  case regexp negated => cases negated <;> rfl
  case sum minus => cases minus <;> rfl
  case product op => cases op <;> rfl
  case sign op => cases op <;> rfl
  case boolean truth => cases truth <;> rfl
  case functionWord word => cases word <;> rfl
  all_goals rfl

theorem QueryRule.build_moved {m m' : Nat} (counted : (m' : Int) = f m) (r : QueryRule)
    (vs : Values r.rhs) :
    r.build m' (Values.moved move f r.rhs vs) =
      carried move (r.lhs.moved move f) (r.build m vs) := by
  cases r
  case query more =>
    cases more
    · rfl
    · exact congrArg Except.ok (combine_mapMarkers f vs.1 vs.2.1)
  case queryTail more =>
    cases more
    · rfl
    · exact congrArg Except.ok (grown_map _ (some vs.1) (vs.2.1, vs.2.2.1)).symm
  case selectCore quantifier =>
    rcases quantifier with _ | _ | _ <;>
      exact congrArg Except.ok (select_mapMarkers f _ _ _ _ _ _ _ _ _).symm
  case selectFields more =>
    cases more
    · rfl
    · exact congrArg (fun s => Except.ok (Node.fieldList (_ :: s)))
        (Slot.mapMarkersEach_nodes f _).symm
  case selectFieldTail more =>
    cases more
    · rfl
    · exact congrArg Except.ok (grown_map _ (some vs.1) vs.2.2.1).symm
  case fieldExpr named => cases named <;> rfl
  case fieldAlias marked spelling => cases marked <;> rfl
  case tableRefs more =>
    cases more
    · exact congrArg Except.ok (tableRefsNode_mapMarkers f vs.1 [])
    · exact congrArg Except.ok (tableRefsNode_mapMarkers f vs.1 vs.2.1)
  case tableRefTail more =>
    cases more
    · rfl
    · exact congrArg Except.ok (grown_map _ (some vs.1) vs.2.2.1).symm
  case joinTable conditioned =>
    cases conditioned
    · exact congrArg Except.ok (joinNode_mapMarkers f vs.1 vs.2.2.1 vs.2.1 none)
    · exact congrArg Except.ok (joinNode_mapMarkers f vs.1 vs.2.2.1 vs.2.1 (some vs.2.2.2.1))
  case usingColumns =>
    exact congrArg (fun names => Except.ok (JoinCondition.columns names))
      (columnNames_mapMarkers f vs.2.2.1).symm
  case tableSource named hinted =>
    cases named <;> cases hinted
    · rfl
    · exact congrArg (fun hints => Except.ok (Node.tableSource (.node (.tableName _ _ hints)) _))
        (Slot.mapMarkersEach_nodes f _).symm
    · rfl
    · exact congrArg (fun hints => Except.ok (Node.tableSource (.node (.tableName _ _ hints)) _))
        (Slot.mapMarkersEach_nodes f _).symm
  case tableAlias marked quoted => cases marked <;> rfl
  case tableName qualified => cases qualified <;> rfl
  case indexHintRun more =>
    cases more
    · rfl
    · exact congrArg Except.ok (grown_map _ (some vs.1) vs.2.1).symm
  case indexHint verb byKey limited named => cases limited <;> cases named <;> rfl
  case groupBy more =>
    cases more
    · rfl
    · exact congrArg (fun s => Except.ok (Node.groupBy (_ :: s)))
        (Slot.mapMarkersEach_nodes f _).symm
  case byItemTail more =>
    cases more
    · rfl
    · exact congrArg Except.ok (grown_map _ (some vs.1) vs.2.2.1).symm
  case orderBy more =>
    cases more
    · rfl
    · exact congrArg (fun s => Except.ok (Node.orderBy (_ :: s)))
        (Slot.mapMarkersEach_nodes f _).symm
  case limitNumber => exact numberNode_moved move f vs.1
  case limitMarker => exact congrArg (fun order => Except.ok (Node.paramMarker order)) counted
  all_goals rfl

theorem ManipulationRule.build_moved (r : ManipulationRule) (vs : Values r.rhs) :
    r.build (Values.moved move f r.rhs vs) = carried move (r.lhs.moved move f) (r.build vs) := by
  cases r
  case insertStatement replace ignore into columns updates =>
    cases ignore <;> cases into <;> cases columns <;> cases updates <;>
      first
      | exact congrArg Except.ok (insertNode_mapMarkers f replace _ _ [] _ [])
      | exact congrArg Except.ok (insertNode_mapMarkers f replace _ _ _ _ [])
      | exact congrArg Except.ok (insertNode_mapMarkers f replace _ _ [] _ _)
      | exact congrArg Except.ok (insertNode_mapMarkers f replace _ _ _ _ _)
  case columnList => exact congrArg Except.ok (columnNames_mapMarkers f vs.2.1).symm
  case insertValues plural more => cases more <;> rfl
  case insertAssignments more => cases more <;> rfl
  case valueRowTail more =>
    cases more
    · rfl
    · exact congrArg Except.ok (grown_map _ (some vs.1) vs.2.2.1).symm
  case valueRow more =>
    cases more
    · rfl
    · exact congrArg (fun s => Except.ok (Node.row (_ :: s))) (Slot.mapMarkersEach_nodes f _).symm
  case valueTail more =>
    cases more
    · rfl
    · exact congrArg Except.ok (grown_map _ (some vs.1) vs.2.2.1).symm
  case onDuplicate more => cases more <;> rfl
  case assignmentTail more =>
    cases more
    · rfl
    · exact congrArg Except.ok (grown_map _ (some vs.1) vs.2.2.1).symm
  case updateStatement ignore more =>
    cases ignore <;> cases more <;>
      first
      | exact congrArg Except.ok (update_mapMarkers f _ _ _ [] _ _ _).symm
      | exact congrArg Except.ok (update_mapMarkers f _ _ _ _ _ _ _).symm
  case deleteStatement ignore =>
    cases ignore <;> exact congrArg Except.ok (delete_mapMarkers f _ _ _ _ _).symm
  all_goals rfl

theorem DefinitionRule.build_moved (r : DefinitionRule) (vs : Values r.rhs) :
    r.build (Values.moved move f r.rhs vs) = carried move (r.lhs.moved move f) (r.build vs) := by
  cases r
  case createTable temporary guarded more options =>
    cases temporary <;> cases guarded <;> cases more <;> cases options <;>
      first
      | exact congrArg Except.ok (createTableNode_mapMarkers f _ _ _ [_] [])
      | exact congrArg Except.ok (createTableNode_mapMarkers f _ _ _ [_] _)
      | exact congrArg Except.ok (createTableNode_mapMarkers f _ _ _ (_ :: _) [])
      | exact congrArg Except.ok (createTableNode_mapMarkers f _ _ _ (_ :: _) _)
  case tableElementTail more =>
    cases more
    · rfl
    · exact congrArg Except.ok (grown_map _ (some vs.1) vs.2.2.1).symm
  case tableOptionRun more =>
    cases more
    · rfl
    · exact congrArg Except.ok (grown_map _ (some vs.1) vs.2.1).symm
  case columnDef options =>
    cases options
    · rfl
    · exact congrArg (fun s => Except.ok (Node.columnDef _ _ s))
        (Slot.mapMarkersEach_nodes f _).symm
  case columnOptionRun more =>
    cases more
    · rfl
    · exact congrArg Except.ok (grown_map _ (some vs.1) vs.2.1).symm
  case dataType args attributes => cases args <;> cases attributes <;> rfl
  case typeAttributeRun more => cases more <;> rfl
  case typeArgs more => cases more <;> rfl
  case typeArgTail more => cases more <;> rfl
  case primaryKey marked => cases marked <;> rfl
  case uniqueKey marked => cases marked <;> rfl
  case defaultSigned minus =>
    exact signedNode_moved move f minus vs.2.1
  case namedConstraint named =>
    cases named
    · exact congrArg Except.ok (toNode_mapMarkers f _ _)
    · exact congrArg Except.ok (toNode_mapMarkers f _ _)
  case bareConstraint => exact congrArg Except.ok (toNode_mapMarkers f _ _)
  case uniqueConstraint word named => rcases word with _ | _ | _ <;> cases named <;> rfl
  case indexConstraint word named => cases named <;> rfl
  case foreignConstraint named => cases named <;> rfl
  case keyParts more => cases more <;> rfl
  case keyPartTail more =>
    cases more
    · rfl
    · exact congrArg Except.ok (grown_map _ (some vs.1) vs.2.2.1).symm
  case measuredPart direction =>
    exact measuredNode_moved move f vs.1 vs.2.2.1 direction
  case referenceDef actions =>
    cases actions <;> exact congrArg Except.ok (referenceNode_mapMarkers f _ _ _)
  case referenceActionRun more => cases more <;> rfl
  case engineOption equals => cases equals <;> rfl
  case charsetOption default equals => cases default <;> cases equals <;> rfl
  case characterSetOption default equals => cases default <;> cases equals <;> rfl
  case collateOption default equals => cases default <;> cases equals <;> rfl
  case commentOption equals => cases equals <;> rfl
  case autoIncrementOption equals => cases equals <;> rfl
  case dropTable temporary guarded more =>
    cases temporary <;> cases guarded <;> cases more <;>
      first
      | rfl
      | exact congrArg (fun s => Except.ok (Node.dropTable _ _ (_ :: s)))
          (Slot.mapMarkersEach_nodes f _).symm
  case tableNameTail more =>
    cases more
    · rfl
    · exact congrArg Except.ok
        (grown_map (Node.mapMarkers f) (some vs.1) (TablePath.toNode vs.2.2.1 [])).symm
  case truncateTable marked => cases marked <;> rfl
  case createIndex unique =>
    cases unique <;>
      exact congrArg (fun s => Except.ok (Node.createIndex _ _ _ s))
        (Slot.mapMarkersEach_nodes f _).symm
  case createDatabase schema guarded => cases guarded <;> rfl
  case dropDatabase schema guarded => cases guarded <;> rfl
  all_goals rfl

theorem ScriptRule.build_moved (r : ScriptRule) (vs : Values r.rhs) :
    r.build (Values.moved move f r.rhs vs) = carried move (r.lhs.moved move f) (r.build vs) := by
  cases r
  case script items last =>
    cases items <;> cases last
    · rfl
    · rfl
    · exact congrArg Except.ok (@List.map_append _ _ _ vs.1 []).symm
    · exact congrArg Except.ok (@List.map_append _ _ _ vs.1 [vs.2.1]).symm
  case scriptItems more filled =>
    cases more <;> cases filled
    · rfl
    · rfl
    · exact congrArg Except.ok (@List.map_append _ _ _ vs.1 []).symm
    · exact congrArg Except.ok (@List.map_append _ _ _ vs.1 [vs.2.1]).symm
  case statement form => cases form <;> rfl
  case begin marked => cases marked <;> rfl
  case commit marked => cases marked <;> rfl
  case rollback marked => cases marked <;> rfl
  all_goals rfl

/-- Building commutes with moving. -/
theorem Production.build_moved {m m' : Nat} (counted : (m' : Int) = f m) (p : Production)
    (vs : Values p.rhs) :
    p.build m' (Values.moved move f p.rhs vs) =
      carried move (p.lhs.moved move f) (p.build m vs) := by
  cases p with
  | script r => exact r.build_moved vs
  | query r => exact r.build_moved counted vs
  | expr r => exact r.build_moved counted vs
  | manipulation r => exact r.build_moved vs
  | definition r => exact r.build_moved vs

end Grammar

end SqlSyntax
