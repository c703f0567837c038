import Mathlib.Tactic.SplitIfs
import SqlSyntax.Grammar.Script
import SqlSyntax.Proofs.Tree.Markers

/-!
# Markers are neither lost nor invented

What a production builds has the markers of its parts; a marker production has one of its own.
-/

namespace SqlSyntax.Grammar

def markersOf (nodes : List Node) : List Int :=
  Slot.markersEach (nodes.map Slot.node)

def JoinCondition.markers : JoinCondition → List Int
  | .on condition => condition.markers
  | .columns names => markersOf names

def CallArguments.markers : CallArguments → List Int
  | .star => []
  | .list args => markersOf args

def InsertSource.markers : InsertSource → List Int
  | .rows list => markersOf list
  | .query q => q.markers
  | .assignments list => markersOf list

def TableElement.node : TableElement → Node
  | .column definition => definition
  | .constraint definition => definition

def KeyConstraint.markers (c : KeyConstraint) : List Int :=
  markersOf c.keys ++ (Slot.ofOption c.refer).markers

/-- The orders of the markers in a value. -/
def ValueKind.markers : (k : ValueKind) → k.Value → List Int
  | .node => Node.markers
  | .nodes => markersOf
  | .optionalNode => fun n => (Slot.ofOption n).markers
  | .operations => fun list => markersOf (list.map Prod.snd)
  | .joinCondition => JoinCondition.markers
  | .callArguments => CallArguments.markers
  | .insertSource => InsertSource.markers
  | .tableElement => fun e => e.node.markers
  | .tableElements => fun list => markersOf (list.map TableElement.node)
  | .keyConstraint => KeyConstraint.markers
  | .text | .texts | .token | .nothing | .tablePath | .columnPath | .referenceAction
  | .referenceActions => fun _ => []

def Nonterminal.markers (n : Nonterminal) : n.Value → List Int :=
  n.kind.markers

/-- The markers of a row of values behind those of earlier ones, if there are such. -/
def Values.markersAfter : Option (List Int) → (symbols : List Symbol) → Values symbols → List Int
  | earlier, [], _ => earlier.getD []
  | earlier, .terminal _ :: rest, vs => Values.markersAfter earlier rest vs.2
  | none, .nonterminal n :: rest, vs => Values.markersAfter (some (n.markers vs.1)) rest vs.2
  | some earlier, .nonterminal n :: rest, vs =>
    Values.markersAfter (some (earlier ++ n.markers vs.1)) rest vs.2

/-- The markers that a production puts together. -/
def Production.markers (m : Nat) (p : Production) (vs : Values p.rhs) : List Int :=
  if p.isMarker then [(m : Int)] else Values.markersAfter none p.rhs vs

/-- What was built, if anything, has the given markers. -/
def HasMarkers {α : Type} (markers : α → List Int) (built : Except BuildError α)
    (given : List Int) : Prop :=
  match built with
  | .ok v => (markers v).Perm given
  | .error _ => True

/-! ### Helpers of the productions -/

theorem numberNode_markers (t : Token) : HasMarkers Node.markers (numberNode t) [] := by
  unfold numberNode
  dsimp only
  split_ifs
  · trivial
  all_goals exact .refl []

theorem variableNode_markers (t : Token) : (variableNode t).markers = [] := by
  unfold variableNode
  split <;> rfl

/-- The markers of the arguments of a call. -/
def argumentMarkers : Option CallArguments → List Int
  | some args => args.markers
  | none => []

theorem callNode_markers (name : Token) (distinct : Bool) (args : Option CallArguments) :
    HasMarkers Node.markers (callNode name distinct args) (argumentMarkers args) := by
  unfold callNode
  rcases args with _ | _ | args
  all_goals
    dsimp only
    split_ifs
    · exact .refl _
    · trivial
    · exact .refl _

theorem markersOf_append (xs ys : List Node) :
    markersOf (xs ++ ys) = markersOf xs ++ markersOf ys := by
  unfold markersOf
  rw [Slot.markersEach_nodes, Slot.markersEach_nodes, Slot.markersEach_nodes, List.flatMap_append]

theorem markersOf_snoc (xs : List Node) (x : Node) :
    markersOf (xs ++ [x]) = markersOf xs ++ x.markers := by
  rw [markersOf_append]
  exact congrArg (markersOf xs ++ ·) (List.append_nil _)

theorem combine_markers (first : Node) (rest : List (String × Node)) :
    (combine first rest).markers = first.markers ++ markersOf (rest.map Prod.snd) := by
  cases rest with
  | nil => exact (List.append_nil _).symm
  | cons next rest =>
    have selects : (rest.map fun p => Slot.node p.2) = (rest.map Prod.snd).map Slot.node := by simp
    simp [combine, selects, markersOf]

theorem joinNode_markers (left right : Node) (side : String) (condition : Option JoinCondition) :
    (joinNode left right side condition).markers =
      left.markers ++ right.markers ++ (condition.elim [] JoinCondition.markers) := by
  rcases condition with _ | _ | names <;>
    simp [joinNode, JoinCondition.markers, markersOf, Slot.empty]

theorem queryTail_markers (earlier : List (String × Node)) (op : String) (select : Node) :
    markersOf ((grown (some earlier) (op, select)).map Prod.snd) =
      markersOf (earlier.map Prod.snd) ++ [] ++ select.markers := by
  rw [List.append_nil, ← markersOf_snoc]
  simp [grown]

theorem foldl_joinNode_markers (first : Node) (rest : List Node) :
    (rest.foldl (fun left right => joinNode left right "CROSS" none) first).markers =
      first.markers ++ markersOf rest := by
  induction rest generalizing first with
  | nil => exact (List.append_nil _).symm
  | cons next rest ih =>
    rw [List.foldl_cons, ih, joinNode_markers]
    simp [markersOf]

theorem tableRefsNode_markers (first : Node) (rest : List Node) :
    (tableRefsNode first rest).markers = first.markers ++ markersOf rest := by
  rw [← foldl_joinNode_markers]
  unfold tableRefsNode
  cases rest.foldl (fun left right => joinNode left right "CROSS" none) first <;>
    simp [Slot.empty]

theorem columnNames_markers (names : List String) :
    markersOf (names.map (Node.columnName "" "")) = [] := by
  unfold markersOf
  rw [Slot.markersEach_nodes]
  simp

theorem insertNode_markers (replace ignore : Bool) (table : TablePath) (columns : List Node)
    (source : InsertSource) (onDuplicate : List Node) :
    (ManipulationRule.insertNode replace ignore table columns source onDuplicate).markers =
      markersOf columns ++ source.markers ++ markersOf onDuplicate := by
  cases source <;>
    simp [ManipulationRule.insertNode, InsertSource.markers, markersOf, TablePath.toNode,
      Slot.empty]

/-- Columns and constraints are sorted apart, so only the order of their markers may change. -/
theorem elements_markers (elements : List TableElement) :
    (Slot.markersEach (elements.filterMap TableElement.column?) ++
      Slot.markersEach (elements.filterMap TableElement.constraint?)).Perm
      (markersOf (elements.map TableElement.node)) := by
  induction elements with
  | nil => exact .refl _
  | cons e rest ih =>
    cases e with
    | column definition =>
      have step := ih.append_left definition.markers
      rw [← List.append_assoc] at step
      exact step
    | constraint definition =>
      have step := ih.append_left definition.markers
      refine List.Perm.trans ?_ step
      rw [← List.append_assoc]
      refine List.Perm.trans ?_ (List.perm_append_comm.append_right _)
      rw [List.append_assoc]
      exact .refl _

theorem createTableNode_markers (temporary guarded : Bool) (table : TablePath)
    (elements : List TableElement) (options : List Node) :
    (createTableNode temporary guarded table elements options).markers.Perm
      (markersOf (elements.map TableElement.node) ++ markersOf options) :=
  (elements_markers elements).append_right _

theorem elementTail_markers (earlier : List TableElement) (e : TableElement) :
    markersOf ((grown (some earlier) e).map TableElement.node) =
      markersOf (earlier.map TableElement.node) ++ e.node.markers := by
  rw [← markersOf_snoc]
  simp [grown]

theorem signedNode_markers (minus : Bool) (t : Token) :
    HasMarkers Node.markers (match numberNode t with
      | .ok x => .ok (if minus then .unaryOp "-" (.node x) else x)
      | .error e => .error e) [] := by
  have number := numberNode_markers t
  cases built : numberNode t with
  | error e => trivial
  | ok x =>
    rw [built] at number
    cases minus <;> exact number

theorem measuredNode_markers (column length : Token) (direction : Option Direction) :
    HasMarkers Node.markers (match lengthOf column length with
      | .ok n => .ok (indexPartNode column n direction)
      | .error e => .error e) [] := by
  cases lengthOf column length with
  | error e => trivial
  | ok n => exact .refl _

theorem referenceNode_markers (table : TablePath) (keys : List Node)
    (actions : List ReferenceAction) :
    (referenceNode table keys actions).markers = markersOf keys := by
  simp [referenceNode, TablePath.toNode, markersOf]

/-! ### Productions -/

theorem ExprRule.build_markers (m : Nat) (r : ExprRule) (vs : Values r.rhs) :
    HasMarkers r.lhs.markers (r.build m vs) ((Production.expr r).markers m vs) := by
  cases r
  case inList negated => cases negated <;> exact .of_eq (List.append_nil _)
  case row => exact .refl _
  case variableRef => exact .of_eq (variableNode_markers vs.1)
  case compare => exact .of_eq (congrArg (· ++ _) (List.append_nil _).symm)
  case number => exact numberNode_markers vs.1
  case call distinct args =>
    cases distinct <;> cases args
    · exact callNode_markers vs.1 false none
    · exact callNode_markers vs.1 false (some vs.2.2.1)
    · exact callNode_markers vs.1 true none
    · exact callNode_markers vs.1 true (some vs.2.2.2.1)
  case keywordCall distinct args =>
    cases distinct <;> cases args
    · exact callNode_markers vs.1 false none
    · exact callNode_markers vs.1 false (some vs.2.2.1)
    · exact callNode_markers vs.1 true none
    · exact callNode_markers vs.1 true (some vs.2.2.2.1)
  case caseOf operand otherwise =>
    cases operand <;> cases otherwise
    · exact .of_eq (List.append_nil _)
    · exact .refl _
    · exact .of_eq (List.append_nil _)
    · exact .refl _
  case whenRun more =>
    cases more
    · exact .of_eq (markersOf_snoc [] vs.1)
    · exact .of_eq (markersOf_snoc vs.1 vs.2.1)
  case exprList more =>
    cases more
    · exact .of_eq (List.append_nil _)
    · exact .refl _
  case exprTail more =>
    cases more
    · exact .of_eq (markersOf_snoc [] vs.2.1)
    · exact .of_eq (markersOf_snoc vs.1 vs.2.2.1)
  case identList more => cases more <;> exact .refl _
  case identTail more => cases more <;> exact .refl _
  case isNull negated => cases negated <;> exact .refl _
  case isTruth negated truth => cases negated <;> exact .refl _
  case inSubquery negated => cases negated <;> exact .of_eq (congrArg (· ++ _) (List.append_nil _))
  case between negated => cases negated <;> exact .refl _
  case like negated escaped => cases negated <;> cases escaped <;> exact .refl _
  case regexp negated => cases negated <;> exact .refl _
  all_goals exact .refl _

theorem QueryRule.build_markers (m : Nat) (r : QueryRule) (vs : Values r.rhs) :
    HasMarkers r.lhs.markers (r.build m vs) ((Production.query r).markers m vs) := by
  cases r
  case query more =>
    cases more
    · exact .of_eq ((combine_markers vs.1 []).trans (List.append_nil _))
    · exact .of_eq (combine_markers vs.1 vs.2.1)
  case queryTail more =>
    cases more
    · exact .of_eq (List.append_nil _)
    · obtain ⟨(earlier : List (String × Node)), _, (select : Node), _⟩ := vs
      exact .of_eq (queryTail_markers earlier _ select)
  case setOperator kind quantifier => rcases quantifier with _ | _ | _ <;> exact .refl _
  case selectCore quantifier =>
    rcases quantifier with _ | _ | _ <;> exact .of_eq (List.append_nil _).symm
  case selectFields more =>
    cases more
    · exact .of_eq (List.append_nil _)
    · exact .refl _
  case selectFieldTail more =>
    cases more
    · exact .of_eq (markersOf_snoc [] vs.2.1)
    · exact .of_eq (markersOf_snoc vs.1 vs.2.2.1)
  case fieldExpr named =>
    cases named
    · exact .refl _
    · exact .of_eq (List.append_nil _).symm
  case fieldAlias marked spelling => cases marked <;> exact .refl _
  case tableRefs more =>
    cases more
    · exact .of_eq ((tableRefsNode_markers vs.1 []).trans (List.append_nil _))
    · exact .of_eq (tableRefsNode_markers vs.1 vs.2.1)
  case tableRefTail more =>
    cases more
    · exact .of_eq (markersOf_snoc [] vs.2.1)
    · exact .of_eq (markersOf_snoc vs.1 vs.2.2.1)
  case joinInner marked => cases marked <;> exact .refl _
  case joinLeft outer => cases outer <;> exact .refl _
  case joinRight outer => cases outer <;> exact .refl _
  case joinTable conditioned =>
    cases conditioned
    · refine .of_eq ((joinNode_markers vs.1 vs.2.2.1 vs.2.1 none).trans ?_)
      exact (List.append_nil _).trans (congrArg (· ++ _) (List.append_nil _).symm)
    · refine .of_eq ((joinNode_markers vs.1 vs.2.2.1 vs.2.1 (some vs.2.2.2.1)).trans ?_)
      exact congrArg (· ++ _ ++ _) (List.append_nil _).symm
  case usingColumns => exact .of_eq (columnNames_markers _)
  case tableSource named hinted => cases named <;> cases hinted <;> exact .refl _
  case derivedTable => exact .of_eq (List.append_nil _).symm
  case tableAlias marked quoted => cases marked <;> exact .refl _
  case tableName qualified => cases qualified <;> exact .refl _
  case indexHintRun more =>
    cases more
    · exact .of_eq (markersOf_snoc [] vs.1)
    · exact .of_eq (markersOf_snoc vs.1 vs.2.1)
  case indexHint verb byKey limited named => cases limited <;> cases named <;> exact .refl _
  case groupBy more =>
    cases more
    · exact .of_eq (List.append_nil _)
    · exact .refl _
  case byItemTail more =>
    cases more
    · exact .of_eq (markersOf_snoc [] vs.2.1)
    · exact .of_eq (markersOf_snoc vs.1 vs.2.2.1)
  case orderBy more =>
    cases more
    · exact .of_eq (List.append_nil _)
    · exact .refl _
  case byItem direction => rcases direction with _ | _ | _ <;> exact .refl _
  case limitCount => exact .of_eq (List.append_nil _)
  case limitOffsetCount => exact List.perm_append_comm
  case limitNumber => exact numberNode_markers vs.1
  all_goals exact .refl _

theorem ManipulationRule.build_markers (m : Nat) (r : ManipulationRule) (vs : Values r.rhs) :
    HasMarkers r.lhs.markers (r.build vs) ((Production.manipulation r).markers m vs) := by
  cases r
  case insertStatement replace ignore into columns updates =>
    cases ignore <;> cases into <;> cases columns <;> cases updates <;>
      first
      | exact .of_eq ((insertNode_markers replace _ _ [] _ []).trans (List.append_nil _))
      | exact .of_eq ((insertNode_markers replace _ _ _ _ []).trans (List.append_nil _))
      | exact .of_eq (insertNode_markers replace _ _ [] _ _)
      | exact .of_eq (insertNode_markers replace _ _ _ _ _)
  case columnList => exact .of_eq (columnNames_markers _)
  case insertValues plural more =>
    cases more
    · exact .of_eq (List.append_nil _)
    · exact .refl _
  case insertAssignments more =>
    cases more
    · exact .of_eq (List.append_nil _)
    · exact .refl _
  case valueRowTail more =>
    cases more
    · exact .of_eq (markersOf_snoc [] vs.2.1)
    · exact .of_eq (markersOf_snoc vs.1 vs.2.2.1)
  case valueRow more =>
    cases more
    · exact .of_eq (List.append_nil _)
    · exact .refl _
  case valueTail more =>
    cases more
    · exact .of_eq (markersOf_snoc [] vs.2.1)
    · exact .of_eq (markersOf_snoc vs.1 vs.2.2.1)
  case onDuplicate more =>
    cases more
    · exact .of_eq (List.append_nil _)
    · exact .refl _
  case assignmentTail more =>
    cases more
    · exact .of_eq (markersOf_snoc [] vs.2.1)
    · exact .of_eq (markersOf_snoc vs.1 vs.2.2.1)
  case updateStatement ignore more =>
    cases ignore <;> cases more <;>
      first
      | exact .of_eq (congrArg (· ++ _ ++ _ ++ _) (congrArg (_ ++ ·) (List.append_nil _)))
      | exact .of_eq (congrArg (· ++ _ ++ _ ++ _) (List.append_assoc _ _ _).symm)
  case deleteStatement ignore => cases ignore <;> exact .refl _
  all_goals exact .refl _

theorem DefinitionRule.build_markers (m : Nat) (r : DefinitionRule) (vs : Values r.rhs) :
    HasMarkers r.lhs.markers (r.build vs) ((Production.definition r).markers m vs) := by
  cases r
  case createTable temporary guarded more options =>
    cases temporary <;> cases guarded <;> cases more <;> cases options
    all_goals
      change List.Perm _ _
      refine (createTableNode_markers false false _ _ _).trans ?_
      first
      | exact .refl _
      | exact .of_eq (List.append_nil _)
      | exact .of_eq ((List.append_nil _).trans (List.append_nil _))
      | exact .of_eq (congrArg (· ++ _) (List.append_nil _))
  case tableElementTail more =>
    cases more
    · exact .of_eq (List.append_nil _)
    · obtain ⟨(earlier : List TableElement), _, (e : TableElement), _⟩ := vs
      exact .of_eq (elementTail_markers earlier e)
  case tableOptionRun more =>
    cases more
    · exact .of_eq (markersOf_snoc [] vs.1)
    · exact .of_eq (markersOf_snoc vs.1 vs.2.1)
  case columnDef options => cases options <;> exact .refl _
  case columnOptionRun more =>
    cases more
    · exact .of_eq (markersOf_snoc [] vs.1)
    · exact .of_eq (markersOf_snoc vs.1 vs.2.1)
  case dataType args attributes => cases args <;> cases attributes <;> exact .refl _
  case typeAttributeRun more => cases more <;> exact .refl _
  case typeArgs more => cases more <;> exact .refl _
  case typeArgTail more => cases more <;> exact .refl _
  case primaryKey marked => cases marked <;> exact .refl _
  case uniqueKey marked => cases marked <;> exact .refl _
  case defaultSigned minus => exact signedNode_markers minus vs.2.1
  case namedConstraint named =>
    cases named
    · exact .refl _
    · exact .refl _
  case bareConstraint => exact .refl _
  case uniqueConstraint word named =>
    rcases word with _ | _ | _ <;> cases named <;> exact .of_eq (List.append_nil _)
  case primaryConstraint => exact .of_eq (List.append_nil _)
  case indexConstraint word named => cases named <;> exact .of_eq (List.append_nil _)
  case foreignConstraint named => cases named <;> exact .refl _
  case keyParts more =>
    cases more
    · exact .of_eq (List.append_nil _)
    · exact .refl _
  case keyPartTail more =>
    cases more
    · exact .of_eq (markersOf_snoc [] vs.2.1)
    · exact .of_eq (markersOf_snoc vs.1 vs.2.2.1)
  case keyPart direction => rcases direction with _ | _ | _ <;> exact .refl _
  case measuredPart direction =>
    rcases direction with _ | _ | _ <;> exact measuredNode_markers vs.1 vs.2.2.1 _
  case referenceDef actions =>
    cases actions
    · exact .of_eq (referenceNode_markers vs.2.1 vs.2.2.1 [])
    · exact .of_eq ((referenceNode_markers vs.2.1 vs.2.2.1 vs.2.2.2.1).trans
        (List.append_nil _).symm)
  case referenceActionRun more => cases more <;> exact .refl _
  case engineOption equals => cases equals <;> exact .refl _
  case charsetOption default equals => cases default <;> cases equals <;> exact .refl _
  case characterSetOption default equals => cases default <;> cases equals <;> exact .refl _
  case collateOption default equals => cases default <;> cases equals <;> exact .refl _
  case commentOption equals => cases equals <;> exact .refl _
  case autoIncrementOption equals => cases equals <;> exact .refl _
  case dropTable temporary guarded more =>
    cases temporary <;> cases guarded <;> cases more <;> exact .refl _
  case tableNameTail more =>
    cases more
    · exact .refl _
    · exact .of_eq (markersOf_snoc vs.1 _)
  case truncateTable marked => cases marked <;> exact .refl _
  case createIndex unique => cases unique <;> exact .refl _
  case createDatabase schema guarded => cases guarded <;> exact .refl _
  case dropDatabase schema guarded => cases guarded <;> exact .refl _
  all_goals exact .refl _

theorem ScriptRule.build_markers (m : Nat) (r : ScriptRule) (vs : Values r.rhs) :
    HasMarkers r.lhs.markers (r.build vs) ((Production.script r).markers m vs) := by
  cases r
  case script items last =>
    cases items <;> cases last
    · exact .refl _
    · exact .of_eq (List.append_nil _)
    · exact .of_eq (congrArg markersOf (List.append_nil _))
    · exact .of_eq (markersOf_snoc vs.1 vs.2.1)
  case scriptItems more filled =>
    cases more <;> cases filled
    · exact .refl _
    · exact .of_eq (List.append_nil _)
    · exact .of_eq (congrArg markersOf (List.append_nil _))
    · exact .of_eq (markersOf_snoc vs.1 vs.2.1)
  case statement form => cases form <;> exact .refl _
  case begin marked => cases marked <;> exact .refl _
  case commit marked => cases marked <;> exact .refl _
  case rollback marked => cases marked <;> exact .refl _
  all_goals exact .refl _

/-- The markers of what a production builds. -/
theorem Production.build_markers (m : Nat) (p : Production) (vs : Values p.rhs) :
    HasMarkers p.lhs.markers (p.build m vs) (p.markers m vs) := by
  cases p with
  | script r => exact r.build_markers m vs
  | query r => exact r.build_markers m vs
  | expr r => exact r.build_markers m vs
  | manipulation r => exact r.build_markers m vs
  | definition r => exact r.build_markers m vs

end SqlSyntax.Grammar
