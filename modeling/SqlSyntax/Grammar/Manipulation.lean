import SqlSyntax.Grammar.Query

/-! Productions for statements that insert, update and delete rows. -/

namespace SqlSyntax.Grammar

inductive ManipulationRule where
  | insertStatement (replace ignore into columns updates : Bool)
  | noColumns | columnList
  | insertValues (plural more : Bool) | insertQuery | insertAssignments (more : Bool)
  | valueRowTail (more : Bool) | emptyRow | valueRow (more : Bool) | valueTail (more : Bool)
  | valueExpr | valueDefault
  | onDuplicate (more : Bool) | assignment | assignmentTail (more : Bool)
  | updateStatement (ignore more : Bool) | deleteStatement (ignore : Bool)
deriving DecidableEq, Repr

namespace ManipulationRule

open SqlSyntax.Grammar.Symbol (terminal nonterminal)

def lhs : ManipulationRule → Nonterminal
  | insertStatement _ _ _ _ _ => .insertStatement
  | noColumns | columnList => .columnList
  | insertValues _ _ | insertQuery | insertAssignments _ => .insertSource
  | valueRowTail _ => .valueRowTail
  | emptyRow | valueRow _ => .valueRow
  | valueTail _ => .valueTail
  | valueExpr | valueDefault => .valueOrDefault
  | onDuplicate _ => .onDuplicate
  | assignment => .assignment
  | assignmentTail _ => .assignmentTail
  | updateStatement _ _ => .updateStatement
  | deleteStatement _ => .deleteStatement

def rhs : ManipulationRule → List Symbol
  | insertStatement replace ignore into columns updates =>
    terminal (if replace then .kwReplace else .kwInsert) ::
      optional ignore (terminal .kwIgnore) (optional into (terminal .kwInto)
        (nonterminal .tableName :: optional columns (nonterminal .columnList)
          (nonterminal .insertSource :: optional updates (nonterminal .onDuplicate) [])))
  | noColumns => [terminal .leftParen, terminal .rightParen]
  | columnList => [terminal .leftParen, nonterminal .identList, terminal .rightParen]
  | insertValues plural more =>
    terminal (if plural then .kwValues else .kwValue) :: nonterminal .valueRow ::
      optional more (nonterminal .valueRowTail) []
  | insertQuery => [nonterminal .query]
  | insertAssignments more =>
    terminal .kwSet :: nonterminal .assignment ::
      optional more (nonterminal .assignmentTail) []
  | valueRowTail more =>
    optional more (nonterminal .valueRowTail) [terminal .comma, nonterminal .valueRow]
  | emptyRow => [terminal .leftParen, terminal .rightParen]
  | valueRow more =>
    terminal .leftParen :: nonterminal .valueOrDefault ::
      optional more (nonterminal .valueTail) [terminal .rightParen]
  | valueTail more =>
    optional more (nonterminal .valueTail) [terminal .comma, nonterminal .valueOrDefault]
  | valueExpr => [nonterminal .expr]
  | valueDefault => [terminal .kwDefault]
  | onDuplicate more =>
    terminal .kwOn :: terminal .kwDuplicate :: terminal .kwKey :: terminal .kwUpdate ::
      nonterminal .assignment :: optional more (nonterminal .assignmentTail) []
  | assignment => [nonterminal .columnRef, terminal .equals, nonterminal .valueOrDefault]
  | assignmentTail more =>
    optional more (nonterminal .assignmentTail) [terminal .comma, nonterminal .assignment]
  | updateStatement ignore more =>
    terminal .kwUpdate :: optional ignore (terminal .kwIgnore)
      (nonterminal .tableRefs :: terminal .kwSet :: nonterminal .assignment ::
        optional more (nonterminal .assignmentTail)
          [nonterminal .optWhere, nonterminal .optOrderBy, nonterminal .optLimit])
  | deleteStatement ignore =>
    terminal .kwDelete :: optional ignore (terminal .kwIgnore)
      [terminal .kwFrom, nonterminal .tableRefs, nonterminal .optWhere, nonterminal .optOrderBy,
        nonterminal .optLimit]

/-- The table of an insertion stands in a join of its own, as the tables of other statements do. -/
def insertNode (replace ignore : Bool) (table : TablePath) (columns : List Node)
    (source : InsertSource) (onDuplicate : List Node) : Node :=
  let refs : Node :=
    .tableRefs
      (.node (.join (.node (.tableSource (.node (table.toNode [])) "")) .empty "" .empty []))
  let columns := columns.map Slot.node
  let onDuplicate := onDuplicate.map Slot.node
  match source with
  | .rows rows =>
    .insert replace ignore (.node refs) columns (rows.map Slot.node) [] .empty onDuplicate
  | .query query => .insert replace ignore (.node refs) columns [] [] (.node query) onDuplicate
  | .assignments assignments =>
    .insert replace ignore (.node refs) columns [] (assignments.map Slot.node) .empty onDuplicate

def build : (r : ManipulationRule) → Values r.rhs → Except BuildError r.lhs.Value
  | insertStatement replace ignore into columns updates, (_, vs) =>
    let (_, vs) := Values.split ignore vs
    let (_, table, vs) := Values.split into vs
    let (names, source, vs) := Values.split columns vs
    let (changes, _) := Values.split updates vs
    .ok (insertNode replace ignore table (Option.getD names []) source (Option.getD changes []))
  | noColumns, _ => .ok []
  | columnList, (_, names, _) => .ok (List.map (Node.columnName "" "") names)
  | insertValues _ more, (_, row, vs) =>
    let (rest, _) := Values.split more vs
    .ok (.rows (row :: Option.getD rest []))
  | insertQuery, (q, _) => .ok (.query q)
  | insertAssignments more, (_, x, vs) =>
    let (rest, _) := Values.split more vs
    .ok (.assignments (x :: Option.getD rest []))
  | valueRowTail more, vs =>
    let (earlier, _, x, _) := Values.split more vs
    .ok (grown earlier x)
  | emptyRow, _ => .ok (.row [])
  | valueRow more, (_, x, vs) =>
    let (rest, _) := Values.split more vs
    .ok (.row (List.map Slot.node (x :: Option.getD rest [])))
  | valueTail more, vs =>
    let (earlier, _, x, _) := Values.split more vs
    .ok (grown earlier x)
  | valueExpr, (x, _) => .ok x
  | valueDefault, _ => .ok .defaultValue
  | onDuplicate more, (_, _, _, _, x, vs) =>
    let (rest, _) := Values.split more vs
    .ok (x :: Option.getD rest [])
  | assignment, (column, _, x, _) =>
    .ok (.assignment (.node (ColumnPath.toNode column)) (.node x))
  | assignmentTail more, vs =>
    let (earlier, _, x, _) := Values.split more vs
    .ok (grown earlier x)
  | updateStatement ignore more, (_, vs) =>
    let (_, refs, _, x, vs) := Values.split ignore vs
    let (rest, condition, order, bound, _) := Values.split more vs
    .ok (.update ignore (.node refs) (List.map Slot.node (x :: Option.getD rest []))
      (Slot.ofOption condition) (Slot.ofOption order) (Slot.ofOption bound))
  | deleteStatement ignore, (_, vs) =>
    let (_, _, refs, condition, order, bound, _) := Values.split ignore vs
    .ok (.delete ignore (.node refs) (Slot.ofOption condition) (Slot.ofOption order)
      (Slot.ofOption bound))

end ManipulationRule

end SqlSyntax.Grammar
