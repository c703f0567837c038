import SqlSyntax.Tree.Node

/-!
# Parameter markers of a tree

The orders of all markers below a node, and the tree with its markers numbered anew. Two trees that
agree once all their markers are numbered alike differ in the orders of their markers at most.
-/

namespace SqlSyntax

mutual

/-- The tree with `f` applied to the order of every parameter marker. -/
def Node.mapMarkers (f : Int → Int) : Node → Node
  | .bare family => .bare family
  | .value value => .value (value.mapMarkers f)
  | .paramMarker order => .paramMarker (f order)
  | .variableRef name isSystem => .variableRef name isSystem
  | .columnName schema table name => .columnName schema table name
  | .columnRef name => .columnRef (name.mapMarkers f)
  | .binaryOp op left right => .binaryOp op (left.mapMarkers f) (right.mapMarkers f)
  | .unaryOp op operand => .unaryOp op (operand.mapMarkers f)
  | .isNull expr negated => .isNull (expr.mapMarkers f) negated
  | .isTruth expr negated truth => .isTruth (expr.mapMarkers f) negated truth
  | .inSet expr items negated subquery =>
    .inSet (expr.mapMarkers f) (Slot.mapMarkersEach f items) negated (subquery.mapMarkers f)
  | .like expr pattern negated escape =>
    .like (expr.mapMarkers f) (pattern.mapMarkers f) negated escape
  | .regexp expr pattern negated => .regexp (expr.mapMarkers f) (pattern.mapMarkers f) negated
  | .between expr low high negated =>
    .between (expr.mapMarkers f) (low.mapMarkers f) (high.mapMarkers f) negated
  | .paren expr => .paren (expr.mapMarkers f)
  | .row values => .row (Slot.mapMarkersEach f values)
  | .defaultValue => .defaultValue
  | .subquery query => .subquery (query.mapMarkers f)
  | .existsQuery subquery => .existsQuery (subquery.mapMarkers f)
  | .whenClause expr result => .whenClause (expr.mapMarkers f) (result.mapMarkers f)
  | .caseOf value whens otherwise =>
    .caseOf (value.mapMarkers f) (Slot.mapMarkersEach f whens) (otherwise.mapMarkers f)
  | .funcCall name args => .funcCall name (Slot.mapMarkersEach f args)
  | .aggregate name args distinct star => .aggregate name (Slot.mapMarkersEach f args) distinct star
  | .wildcard schema table => .wildcard schema table
  | .selectField wildcard expr asName =>
    .selectField (wildcard.mapMarkers f) (expr.mapMarkers f) asName
  | .fieldList fields => .fieldList (Slot.mapMarkersEach f fields)
  | .indexHint verb scope names => .indexHint verb scope names
  | .tableName schema name hints => .tableName schema name (Slot.mapMarkersEach f hints)
  | .tableSource source asName => .tableSource (source.mapMarkers f) asName
  | .onCondition expr => .onCondition (expr.mapMarkers f)
  | .join left right side on names =>
    .join (left.mapMarkers f) (right.mapMarkers f) side (on.mapMarkers f)
      (Slot.mapMarkersEach f names)
  | .tableRefs refs => .tableRefs (refs.mapMarkers f)
  | .byItem expr desc => .byItem (expr.mapMarkers f) desc
  | .groupBy items => .groupBy (Slot.mapMarkersEach f items)
  | .having expr => .having (expr.mapMarkers f)
  | .orderBy items => .orderBy (Slot.mapMarkersEach f items)
  | .limit count offset => .limit (count.mapMarkers f) (offset.mapMarkers f)
  | .select distinct fields source condition groupBy having orderBy limit lock =>
    .select distinct (fields.mapMarkers f) (source.mapMarkers f) (condition.mapMarkers f)
      (groupBy.mapMarkers f) (having.mapMarkers f) (orderBy.mapMarkers f) (limit.mapMarkers f) lock
  | .setOperation selects operators => .setOperation (Slot.mapMarkersEach f selects) operators
  | .assignment column expr => .assignment (column.mapMarkers f) (expr.mapMarkers f)
  | .insert replace ignore table columns rows assignments query onDuplicate =>
    .insert replace ignore (table.mapMarkers f) (Slot.mapMarkersEach f columns)
      (Slot.mapMarkersEach f rows) (Slot.mapMarkersEach f assignments) (query.mapMarkers f)
      (Slot.mapMarkersEach f onDuplicate)
  | .update ignore refs assignments condition orderBy limit =>
    .update ignore (refs.mapMarkers f) (Slot.mapMarkersEach f assignments) (condition.mapMarkers f)
      (orderBy.mapMarkers f) (limit.mapMarkers f)
  | .delete ignore refs condition orderBy limit =>
    .delete ignore (refs.mapMarkers f) (condition.mapMarkers f) (orderBy.mapMarkers f)
      (limit.mapMarkers f)
  | .columnOption option expr word => .columnOption option (expr.mapMarkers f) word
  | .columnDef name typeName options =>
    .columnDef (name.mapMarkers f) typeName (Slot.mapMarkersEach f options)
  | .indexPart column length desc => .indexPart (column.mapMarkers f) length desc
  | .reference table keys onDelete onUpdate =>
    .reference (table.mapMarkers f) (Slot.mapMarkersEach f keys) onDelete onUpdate
  | .constraint type name keys refer symbol =>
    .constraint type name (Slot.mapMarkersEach f keys) (refer.mapMarkers f) symbol
  | .tableOption option value => .tableOption option value
  | .createTable ifNotExists temporary table columns constraints options =>
    .createTable ifNotExists temporary (table.mapMarkers f) (Slot.mapMarkersEach f columns)
      (Slot.mapMarkersEach f constraints) (Slot.mapMarkersEach f options)
  | .dropTable ifExists temporary tables =>
    .dropTable ifExists temporary (Slot.mapMarkersEach f tables)
  | .truncateTable table => .truncateTable (table.mapMarkers f)
  | .createIndex unique name table parts =>
    .createIndex unique name (table.mapMarkers f) (Slot.mapMarkersEach f parts)
  | .dropIndex name table => .dropIndex name (table.mapMarkers f)
  | .createDatabase ifNotExists name => .createDatabase ifNotExists name
  | .dropDatabase ifExists name => .dropDatabase ifExists name
  | .useDatabase name => .useDatabase name
  | .startTransaction => .startTransaction
  | .commit => .commit
  | .rollback => .rollback
  | .explain statement => .explain (statement.mapMarkers f)
  | .loose kind members => .loose kind (Slot.mapMarkersEntries f members)

def Slot.mapMarkers (f : Int → Int) : Slot → Slot
  | .node n => .node (n.mapMarkers f)
  | .list items => .list (Slot.mapMarkersEach f items)
  | .tuple items => .tuple (Slot.mapMarkersEach f items)
  | .mapping entries => .mapping (Slot.mapMarkersEntries f entries)
  | .plain value => .plain value

def Slot.mapMarkersEach (f : Int → Int) : List Slot → List Slot
  | [] => []
  | s :: rest => s.mapMarkers f :: Slot.mapMarkersEach f rest

def Slot.mapMarkersEntries (f : Int → Int) : List (String × Slot) → List (String × Slot)
  | [] => []
  | (name, s) :: rest => (name, s.mapMarkers f) :: Slot.mapMarkersEntries f rest

end

mutual

/-- The orders of all parameter markers of a tree, member by member. -/
def Node.markers : Node → List Int
  | .bare _ => []
  | .value value => value.markers
  | .paramMarker order => [order]
  | .variableRef _ _ => []
  | .columnName _ _ _ => []
  | .columnRef name => name.markers
  | .binaryOp _ left right => left.markers ++ right.markers
  | .unaryOp _ operand => operand.markers
  | .isNull expr _ => expr.markers
  | .isTruth expr _ _ => expr.markers
  | .inSet expr items _ subquery => expr.markers ++ Slot.markersEach items ++ subquery.markers
  | .like expr pattern _ _ => expr.markers ++ pattern.markers
  | .regexp expr pattern _ => expr.markers ++ pattern.markers
  | .between expr low high _ => expr.markers ++ low.markers ++ high.markers
  | .paren expr => expr.markers
  | .row values => Slot.markersEach values
  | .defaultValue => []
  | .subquery query => query.markers
  | .existsQuery subquery => subquery.markers
  | .whenClause expr result => expr.markers ++ result.markers
  | .caseOf value whens otherwise => value.markers ++ Slot.markersEach whens ++ otherwise.markers
  | .funcCall _ args => Slot.markersEach args
  | .aggregate _ args _ _ => Slot.markersEach args
  | .wildcard _ _ => []
  | .selectField wildcard expr _ => wildcard.markers ++ expr.markers
  | .fieldList fields => Slot.markersEach fields
  | .indexHint _ _ _ => []
  | .tableName _ _ hints => Slot.markersEach hints
  | .tableSource source _ => source.markers
  | .onCondition expr => expr.markers
  | .join left right _ on names =>
    left.markers ++ right.markers ++ on.markers ++ Slot.markersEach names
  | .tableRefs refs => refs.markers
  | .byItem expr _ => expr.markers
  | .groupBy items => Slot.markersEach items
  | .having expr => expr.markers
  | .orderBy items => Slot.markersEach items
  | .limit count offset => count.markers ++ offset.markers
  | .select _ fields source condition groupBy having orderBy limit _ =>
    fields.markers ++ source.markers ++ condition.markers ++ groupBy.markers ++ having.markers ++
      orderBy.markers ++ limit.markers
  | .setOperation selects _ => Slot.markersEach selects
  | .assignment column expr => column.markers ++ expr.markers
  | .insert _ _ table columns rows assignments query onDuplicate =>
    table.markers ++ Slot.markersEach columns ++ Slot.markersEach rows ++ Slot.markersEach
      assignments ++ query.markers ++ Slot.markersEach onDuplicate
  | .update _ refs assignments condition orderBy limit =>
    refs.markers ++ Slot.markersEach assignments ++ condition.markers ++ orderBy.markers ++
      limit.markers
  | .delete _ refs condition orderBy limit =>
    refs.markers ++ condition.markers ++ orderBy.markers ++ limit.markers
  | .columnOption _ expr _ => expr.markers
  | .columnDef name _ options => name.markers ++ Slot.markersEach options
  | .indexPart column _ _ => column.markers
  | .reference table keys _ _ => table.markers ++ Slot.markersEach keys
  | .constraint _ _ keys refer _ => Slot.markersEach keys ++ refer.markers
  | .tableOption _ _ => []
  | .createTable _ _ table columns constraints options =>
    table.markers ++ Slot.markersEach columns ++ Slot.markersEach constraints ++ Slot.markersEach
      options
  | .dropTable _ _ tables => Slot.markersEach tables
  | .truncateTable table => table.markers
  | .createIndex _ _ table parts => table.markers ++ Slot.markersEach parts
  | .dropIndex _ table => table.markers
  | .createDatabase _ _ => []
  | .dropDatabase _ _ => []
  | .useDatabase _ => []
  | .startTransaction => []
  | .commit => []
  | .rollback => []
  | .explain statement => statement.markers
  | .loose _ members => Slot.markersEntries members

def Slot.markers : Slot → List Int
  | .node n => n.markers
  | .list items => Slot.markersEach items
  | .tuple items => Slot.markersEach items
  | .mapping entries => Slot.markersEntries entries
  | .plain _ => []

def Slot.markersEach : List Slot → List Int
  | [] => []
  | s :: rest => s.markers ++ Slot.markersEach rest

def Slot.markersEntries : List (String × Slot) → List Int
  | [] => []
  | (_, s) :: rest => s.markers ++ Slot.markersEntries rest

end

attribute [simp] Node.mapMarkers Slot.mapMarkers Slot.mapMarkersEach Node.markers Slot.markers
  Slot.markersEach

namespace Slot

@[simp]
theorem mapMarkersEach_nodes (f : Int → Int) (nodes : List Node) :
    mapMarkersEach f (nodes.map Slot.node) = (nodes.map (Node.mapMarkers f)).map Slot.node := by
  induction nodes with
  | nil => rfl
  | cons n rest ih => simp [mapMarkersEach, mapMarkers, ih]

@[simp]
theorem mapMarkers_ofOption (f : Int → Int) (n : Option Node) :
    (ofOption n).mapMarkers f = ofOption (n.map (Node.mapMarkers f)) := by
  cases n <;> rfl

@[simp]
theorem markersEach_nodes (nodes : List Node) :
    markersEach (nodes.map Slot.node) = nodes.flatMap Node.markers := by
  induction nodes with
  | nil => rfl
  | cons n rest ih => simp [markersEach, markers, ih]

end Slot

end SqlSyntax
