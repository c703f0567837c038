import SqlSyntax.Grammar.Query

/-! Productions for statements that define and drop tables, indexes and databases. -/

namespace SqlSyntax.Grammar

inductive TypeAttribute where
  | unsigned | signed | zerofill
deriving DecidableEq, Repr

def TypeAttribute.terminal : TypeAttribute → Terminal
  | .unsigned => .kwUnsigned
  | .signed => .kwSigned
  | .zerofill => .kwZerofill

inductive KeyWord where
  | key | index
deriving DecidableEq, Repr

def KeyWord.terminal : KeyWord → Terminal
  | .key => .kwKey
  | .index => .kwIndex

inductive DefinitionRule where
  | createTable (temporary guarded more options : Bool)
  | tableElementTail (more : Bool) | tableOptionRun (more : Bool) | ifNotExists | ifExists
  | columnElement | constraintElement
  | columnDef (options : Bool) | columnOptionRun (more : Bool)
  | dataType (args attributes : Bool) | typeAttributeRun (more : Bool)
  | typeArgs (more : Bool) | typeArgTail (more : Bool) | numberArg | stringArg
  | typeAttribute (word : TypeAttribute)
  | notNull | nullable | defaultOption | autoIncrement | primaryKey (marked : Bool)
  | uniqueKey (marked : Bool) | comment | onUpdate | collate | charset | characterSet
  | defaultLiteral | defaultSigned (minus : Bool) | defaultName | defaultCall | defaultParen
  | namedConstraint (named : Bool) | bareConstraint
  | primaryConstraint | uniqueConstraint (word : Option KeyWord) (named : Bool)
  | indexConstraint (word : KeyWord) (named : Bool) | foreignConstraint (named : Bool)
  | keyParts (more : Bool) | keyPartTail (more : Bool)
  | keyPart (direction : Option Direction) | measuredPart (direction : Option Direction)
  | referenceDef (actions : Bool) | referenceActionRun (more : Bool)
  | deleteAction | updateAction
  | cascade | restrict | setNull | noAction | setDefault
  | engineOption (equals : Bool) | charsetOption (default equals : Bool)
  | characterSetOption (default equals : Bool) | collateOption (default equals : Bool)
  | commentOption (equals : Bool) | autoIncrementOption (equals : Bool)
  | dropTable (temporary guarded more : Bool) | tableNameTail (more : Bool)
  | truncateTable (marked : Bool)
  | createIndex (unique : Bool) | dropIndex
  | createDatabase (schema guarded : Bool) | dropDatabase (schema guarded : Bool)
deriving DecidableEq, Repr

namespace DefinitionRule

open SqlSyntax.Grammar.Symbol (terminal nonterminal)

def lhs : DefinitionRule → Nonterminal
  | createTable _ _ _ _ => .createTable
  | tableElementTail _ => .tableElementTail
  | tableOptionRun _ => .tableOptionRun
  | ifNotExists => .ifNotExists
  | ifExists => .ifExists
  | columnElement | constraintElement => .tableElement
  | columnDef _ => .columnDef
  | columnOptionRun _ => .columnOptionRun
  | dataType _ _ => .dataType
  | typeAttributeRun _ => .typeAttributeRun
  | typeArgs _ => .typeArgs
  | typeArgTail _ => .typeArgTail
  | numberArg | stringArg => .typeArg
  | typeAttribute _ => .typeAttribute
  | notNull | nullable | defaultOption | autoIncrement | primaryKey _ | uniqueKey _ | comment
  | onUpdate | collate | charset | characterSet => .columnOption
  | defaultLiteral | defaultSigned _ | defaultName | defaultCall | defaultParen => .defaultValue
  | namedConstraint _ | bareConstraint => .constraint
  | primaryConstraint | uniqueConstraint _ _ | indexConstraint _ _ | foreignConstraint _ =>
    .constraintBody
  | keyParts _ => .keyParts
  | keyPartTail _ => .keyPartTail
  | keyPart _ | measuredPart _ => .keyPart
  | referenceDef _ => .referenceDef
  | referenceActionRun _ => .referenceActionRun
  | deleteAction | updateAction => .referenceAction
  | cascade | restrict | setNull | noAction | setDefault => .referenceOption
  | engineOption _ | charsetOption _ _ | characterSetOption _ _ | collateOption _ _
  | commentOption _ | autoIncrementOption _ => .tableOption
  | dropTable _ _ _ => .dropTable
  | tableNameTail _ => .tableNameTail
  | truncateTable _ => .truncateTable
  | createIndex _ => .createIndex
  | dropIndex => .dropIndex
  | createDatabase _ _ => .createDatabase
  | dropDatabase _ _ => .dropDatabase

def rhs : DefinitionRule → List Symbol
  | createTable temporary guarded more options =>
    terminal .kwCreate :: optional temporary (terminal .kwTemporary)
      (terminal .kwTable :: optional guarded (nonterminal .ifNotExists)
        (nonterminal .tableName :: terminal .leftParen :: nonterminal .tableElement ::
          optional more (nonterminal .tableElementTail)
            (terminal .rightParen :: optional options (nonterminal .tableOptionRun) [])))
  | tableElementTail more =>
    optional more (nonterminal .tableElementTail) [terminal .comma, nonterminal .tableElement]
  | tableOptionRun more => optional more (nonterminal .tableOptionRun) [nonterminal .tableOption]
  | ifNotExists => [terminal .kwIf, terminal .kwNot, terminal .kwExists]
  | ifExists => [terminal .kwIf, terminal .kwExists]
  | columnElement => [nonterminal .columnDef]
  | constraintElement => [nonterminal .constraint]
  | columnDef options =>
    nonterminal .ident :: nonterminal .dataType ::
      optional options (nonterminal .columnOptionRun) []
  | columnOptionRun more =>
    optional more (nonterminal .columnOptionRun) [nonterminal .columnOption]
  | dataType args attributes =>
    terminal .name :: optional args (nonterminal .typeArgs)
      (optional attributes (nonterminal .typeAttributeRun) [])
  | typeAttributeRun more =>
    optional more (nonterminal .typeAttributeRun) [nonterminal .typeAttribute]
  | typeArgs more =>
    terminal .leftParen :: nonterminal .typeArg ::
      optional more (nonterminal .typeArgTail) [terminal .rightParen]
  | typeArgTail more =>
    optional more (nonterminal .typeArgTail) [terminal .comma, nonterminal .typeArg]
  | numberArg => [terminal .number]
  | stringArg => [terminal .string]
  | typeAttribute word => [terminal word.terminal]
  | notNull => [terminal .kwNot, terminal .kwNull]
  | nullable => [terminal .kwNull]
  | defaultOption => [terminal .kwDefault, nonterminal .defaultValue]
  | autoIncrement => [terminal .kwAutoIncrement]
  | primaryKey marked => optional marked (terminal .kwPrimary) [terminal .kwKey]
  | uniqueKey marked => terminal .kwUnique :: optional marked (terminal .kwKey) []
  | comment => [terminal .kwComment, terminal .string]
  | onUpdate => [terminal .kwOn, terminal .kwUpdate, nonterminal .defaultValue]
  | collate => [terminal .kwCollate, nonterminal .identOrString]
  | charset => [terminal .kwCharset, nonterminal .identOrString]
  | characterSet => [terminal .kwCharacter, terminal .kwSet, nonterminal .identOrString]
  | defaultLiteral => [nonterminal .literal]
  | defaultSigned minus => [terminal (if minus then .minus else .plus), terminal .number]
  | defaultName => [terminal .name]
  | defaultCall => [nonterminal .funcCall]
  | defaultParen => [terminal .leftParen, nonterminal .expr, terminal .rightParen]
  | namedConstraint named =>
    terminal .kwConstraint :: optional named (nonterminal .ident) [nonterminal .constraintBody]
  | bareConstraint => [nonterminal .constraintBody]
  | primaryConstraint => [terminal .kwPrimary, terminal .kwKey, nonterminal .keyParts]
  | uniqueConstraint word named =>
    terminal .kwUnique :: choice (word.map KeyWord.terminal)
      (optional named (nonterminal .ident) [nonterminal .keyParts])
  | indexConstraint word named =>
    terminal word.terminal :: optional named (nonterminal .ident) [nonterminal .keyParts]
  | foreignConstraint named =>
    terminal .kwForeign :: terminal .kwKey :: optional named (nonterminal .ident)
      [nonterminal .keyParts, nonterminal .referenceDef]
  | keyParts more =>
    terminal .leftParen :: nonterminal .keyPart ::
      optional more (nonterminal .keyPartTail) [terminal .rightParen]
  | keyPartTail more =>
    optional more (nonterminal .keyPartTail) [terminal .comma, nonterminal .keyPart]
  | keyPart direction => nonterminal .ident :: choice (direction.map Direction.terminal) []
  | measuredPart direction =>
    nonterminal .ident :: terminal .leftParen :: terminal .number :: terminal .rightParen ::
      choice (direction.map Direction.terminal) []
  | referenceDef actions =>
    terminal .kwReferences :: nonterminal .tableName :: nonterminal .keyParts ::
      optional actions (nonterminal .referenceActionRun) []
  | referenceActionRun more =>
    optional more (nonterminal .referenceActionRun) [nonterminal .referenceAction]
  | deleteAction => [terminal .kwOn, terminal .kwDelete, nonterminal .referenceOption]
  | updateAction => [terminal .kwOn, terminal .kwUpdate, nonterminal .referenceOption]
  | cascade => [terminal .kwCascade]
  | restrict => [terminal .kwRestrict]
  | setNull => [terminal .kwSet, terminal .kwNull]
  | noAction => [terminal .kwNo, terminal .kwAction]
  | setDefault => [terminal .kwSet, terminal .kwDefault]
  | engineOption equals =>
    terminal .kwEngine :: optional equals (terminal .equals) [nonterminal .identOrString]
  | charsetOption default equals =>
    optional default (terminal .kwDefault) (terminal .kwCharset ::
      optional equals (terminal .equals) [nonterminal .identOrString])
  | characterSetOption default equals =>
    optional default (terminal .kwDefault) (terminal .kwCharacter :: terminal .kwSet ::
      optional equals (terminal .equals) [nonterminal .identOrString])
  | collateOption default equals =>
    optional default (terminal .kwDefault) (terminal .kwCollate ::
      optional equals (terminal .equals) [nonterminal .identOrString])
  | commentOption equals =>
    terminal .kwComment :: optional equals (terminal .equals) [terminal .string]
  | autoIncrementOption equals =>
    terminal .kwAutoIncrement :: optional equals (terminal .equals) [terminal .number]
  | dropTable temporary guarded more =>
    terminal .kwDrop :: optional temporary (terminal .kwTemporary)
      (terminal .kwTable :: optional guarded (nonterminal .ifExists)
        (nonterminal .tableName :: optional more (nonterminal .tableNameTail) []))
  | tableNameTail more =>
    optional more (nonterminal .tableNameTail) [terminal .comma, nonterminal .tableName]
  | truncateTable marked =>
    terminal .kwTruncate :: optional marked (terminal .kwTable) [nonterminal .tableName]
  | createIndex unique =>
    terminal .kwCreate :: optional unique (terminal .kwUnique)
      [terminal .kwIndex, nonterminal .ident, terminal .kwOn, nonterminal .tableName,
        nonterminal .keyParts]
  | dropIndex =>
    [terminal .kwDrop, terminal .kwIndex, nonterminal .ident, terminal .kwOn,
      nonterminal .tableName]
  | createDatabase schema guarded =>
    terminal .kwCreate :: terminal (if schema then .kwSchema else .kwDatabase) ::
      optional guarded (nonterminal .ifNotExists) [nonterminal .ident]
  | dropDatabase schema guarded =>
    terminal .kwDrop :: terminal (if schema then .kwSchema else .kwDatabase) ::
      optional guarded (nonterminal .ifExists) [nonterminal .ident]

end DefinitionRule

/-! ### Trees -/

/-- A column option that is its keyword alone. -/
def plainOption (option : String) : Node :=
  .columnOption option .empty ""

def valueOption (option : String) (value : Node) : Node :=
  .columnOption option (.node value) ""

def wordOption (option word : String) : Node :=
  .columnOption option .empty word

def TableElement.column? : TableElement → Option Slot
  | .column n => some (.node n)
  | .constraint _ => none

def TableElement.constraint? : TableElement → Option Slot
  | .column _ => none
  | .constraint n => some (.node n)

def createTableNode (temporary guarded : Bool) (table : TablePath) (elements : List TableElement)
    (options : List Node) : Node :=
  .createTable guarded temporary (.node (table.toNode []))
    (elements.filterMap TableElement.column?) (elements.filterMap TableElement.constraint?)
    (options.map Slot.node)

/-- The type name with its arguments and attributes. -/
def typeText (name : String) (args attributes : List String) : String :=
  Text.toUpper name ++ (if args.isEmpty then "" else "(" ++ ",".intercalate args ++ ")") ++
    String.join (attributes.map (" " ++ ·))

def indexPartNode (column : Token) (length : Int) (direction : Option Direction) : Node :=
  .indexPart (.node (.columnName "" "" column.name)) length (direction = some .desc)

/-- A prefix length is an integer that is not too long. -/
def lengthOf (column length : Token) : Except BuildError Int :=
  let cs := length.text.toList
  if cs.all Text.isDigit ∧ cs.length ≤ Numeral.digitLimit then .ok (Numeral.value cs)
  else .error (.badLength column length)

/-- The last action for each event counts. -/
def referenceNode (table : TablePath) (keys : List Node) (actions : List ReferenceAction) : Node :=
  let onDelete := actions.foldl
    (fun old a => match a with
      | .onDelete option => option
      | .onUpdate _ => old) ""
  let onUpdate := actions.foldl
    (fun old a => match a with
      | .onDelete _ => old
      | .onUpdate option => option) ""
  .reference (.node (table.toNode [])) (keys.map Slot.node) onDelete onUpdate

def optionWords (tokens : List Token) : String :=
  " ".intercalate (tokens.map fun t => Text.toUpper t.text)

namespace DefinitionRule

def build : (r : DefinitionRule) → Values r.rhs → Except BuildError r.lhs.Value
  | createTable temporary guarded more options, (_, vs) =>
    let (_, _, vs) := Values.split temporary vs
    let (_, table, _, element, vs) := Values.split guarded vs
    let (rest, _, vs) := Values.split more vs
    let (settings, _) := Values.split options vs
    .ok (createTableNode temporary guarded table (element :: Option.getD rest [])
      (Option.getD settings []))
  | tableElementTail more, vs =>
    let (earlier, _, x, _) := Values.split more vs
    .ok (grown earlier x)
  | tableOptionRun more, vs =>
    let (earlier, x, _) := Values.split more vs
    .ok (grown earlier x)
  | ifNotExists, _ => .ok ()
  | ifExists, _ => .ok ()
  | columnElement, (x, _) => .ok (.column x)
  | constraintElement, (x, _) => .ok (.constraint x)
  | columnDef options, (name, type, vs) =>
    let (list, _) := Values.split options vs
    .ok (.columnDef (.node (.columnName "" "" (Token.name name))) type
      (List.map Slot.node (Option.getD list [])))
  | columnOptionRun more, vs =>
    let (earlier, x, _) := Values.split more vs
    .ok (grown earlier x)
  | dataType args attributes, (name, vs) =>
    let (list, vs) := Values.split args vs
    let (words, _) := Values.split attributes vs
    .ok (typeText (Token.text name) (Option.getD list []) (Option.getD words []))
  | typeAttributeRun more, vs =>
    let (earlier, x, _) := Values.split more vs
    .ok (grown earlier x)
  | typeArgs more, (_, x, vs) =>
    let (rest, _) := Values.split more vs
    .ok (x :: Option.getD rest [])
  | typeArgTail more, vs =>
    let (earlier, _, x, _) := Values.split more vs
    .ok (grown earlier x)
  | numberArg, (t, _) => .ok (Token.text t)
  | stringArg, (t, _) => .ok (Text.quoteString (Text.unquoteString (Token.text t)))
  | typeAttribute _, (t, _) => .ok (Text.toUpper (Token.text t))
  | notNull, _ => .ok (plainOption "NOT NULL")
  | nullable, _ => .ok (plainOption "NULL")
  | defaultOption, (_, x, _) => .ok (valueOption "DEFAULT" x)
  | autoIncrement, _ => .ok (plainOption "AUTO_INCREMENT")
  | primaryKey _, _ => .ok (plainOption "PRIMARY KEY")
  | uniqueKey _, _ => .ok (plainOption "UNIQUE KEY")
  | comment, (_, t, _) =>
    .ok (valueOption "COMMENT" (literalNode (.text (Text.unquoteString (Token.text t)))))
  | onUpdate, (_, _, x, _) => .ok (valueOption "ON UPDATE" x)
  | collate, (_, t, _) => .ok (wordOption "COLLATE" (Token.name t))
  | charset, (_, t, _) => .ok (wordOption "CHARACTER SET" (Token.name t))
  | characterSet, (_, _, t, _) => .ok (wordOption "CHARACTER SET" (Token.name t))
  | defaultLiteral, (x, _) => .ok x
  | defaultSigned minus, (_, t, _) =>
    match numberNode t with
    | .ok x => .ok (if minus then .unaryOp "-" (.node x) else x)
    | .error e => .error e
  | defaultName, (t, _) => .ok (.funcCall (Text.toUpper (Token.text t)) [])
  | defaultCall, (x, _) => .ok x
  | defaultParen, (_, x, _) => .ok (.paren (.node x))
  | namedConstraint named, (_, vs) =>
    let (symbol, body, _) := Values.split named vs
    .ok (KeyConstraint.toNode body (aliasOf symbol))
  | bareConstraint, (body, _) => .ok (KeyConstraint.toNode body "")
  | primaryConstraint, (_, _, keys, _) => .ok ⟨"PRIMARY KEY", "", keys, none⟩
  | uniqueConstraint _ named, (_, vs) =>
    let (_, vs) := Values.choose _ vs
    let (name, keys, _) := Values.split named vs
    .ok ⟨"UNIQUE KEY", aliasOf name, keys, none⟩
  | indexConstraint _ named, (_, vs) =>
    let (name, keys, _) := Values.split named vs
    .ok ⟨"INDEX", aliasOf name, keys, none⟩
  | foreignConstraint named, (_, _, vs) =>
    let (name, keys, refer, _) := Values.split named vs
    .ok ⟨"FOREIGN KEY", aliasOf name, keys, some refer⟩
  | keyParts more, (_, x, vs) =>
    let (rest, _) := Values.split more vs
    .ok (x :: Option.getD rest [])
  | keyPartTail more, vs =>
    let (earlier, _, x, _) := Values.split more vs
    .ok (grown earlier x)
  | keyPart direction, (column, _) => .ok (indexPartNode column 0 direction)
  | measuredPart direction, (column, _, length, _) =>
    match lengthOf column length with
    | .ok n => .ok (indexPartNode column n direction)
    | .error e => .error e
  | referenceDef actions, (_, table, keys, vs) =>
    let (list, _) := Values.split actions vs
    .ok (referenceNode table keys (Option.getD list []))
  | referenceActionRun more, vs =>
    let (earlier, x, _) := Values.split more vs
    .ok (grown earlier x)
  | deleteAction, (_, _, option, _) => .ok (.onDelete option)
  | updateAction, (_, _, option, _) => .ok (.onUpdate option)
  | cascade, (t, _) => .ok (optionWords [t])
  | restrict, (t, _) => .ok (optionWords [t])
  | setNull, (s, t, _) => .ok (optionWords [s, t])
  | noAction, (s, t, _) => .ok (optionWords [s, t])
  | setDefault, (s, t, _) => .ok (optionWords [s, t])
  | engineOption equals, (_, vs) =>
    let (_, t, _) := Values.split equals vs
    .ok (.tableOption "ENGINE" (Token.name t))
  | charsetOption default equals, vs =>
    let (_, _, vs) := Values.split default vs
    let (_, t, _) := Values.split equals vs
    .ok (.tableOption "DEFAULT CHARSET" (Token.name t))
  | characterSetOption default equals, vs =>
    let (_, _, _, vs) := Values.split default vs
    let (_, t, _) := Values.split equals vs
    .ok (.tableOption "DEFAULT CHARSET" (Token.name t))
  | collateOption default equals, vs =>
    let (_, _, vs) := Values.split default vs
    let (_, t, _) := Values.split equals vs
    .ok (.tableOption "COLLATE" (Token.name t))
  | commentOption equals, (_, vs) =>
    let (_, t, _) := Values.split equals vs
    .ok (.tableOption "COMMENT" (Text.unquoteString (Token.text t)))
  | autoIncrementOption equals, (_, vs) =>
    let (_, t, _) := Values.split equals vs
    .ok (.tableOption "AUTO_INCREMENT" (Token.text t))
  | dropTable temporary guarded more, (_, vs) =>
    let (_, _, vs) := Values.split temporary vs
    let (_, table, vs) := Values.split guarded vs
    let (rest, _) := Values.split more vs
    .ok (.dropTable guarded temporary
      (List.map Slot.node (TablePath.toNode table [] :: Option.getD rest [])))
  | tableNameTail more, vs =>
    let (earlier, _, table, _) := Values.split more vs
    .ok (grown earlier (TablePath.toNode table []))
  | truncateTable marked, (_, vs) =>
    let (_, table, _) := Values.split marked vs
    .ok (.truncateTable (.node (TablePath.toNode table [])))
  | createIndex unique, (_, vs) =>
    let (_, _, name, _, table, parts, _) := Values.split unique vs
    .ok (.createIndex unique (Token.name name) (.node (TablePath.toNode table []))
      (List.map Slot.node parts))
  | dropIndex, (_, _, name, _, table, _) =>
    .ok (.dropIndex (Token.name name) (.node (TablePath.toNode table [])))
  | createDatabase _ guarded, (_, _, vs) =>
    let (_, name, _) := Values.split guarded vs
    .ok (.createDatabase guarded (Token.name name))
  | dropDatabase _ guarded, (_, _, vs) =>
    let (_, name, _) := Values.split guarded vs
    .ok (.dropDatabase guarded (Token.name name))

end DefinitionRule

end SqlSyntax.Grammar
