import SqlSyntax.Proofs.Grammar.Run
import SqlSyntax.Proofs.Lexical.Recased

/-!
# Values without places and letter case

Building from tokens without their places, and from keywords without the case of their letters,
gives the same trees: no production looks at a place but in an error, and those that keep a keyword
write it in upper case.
-/

namespace SqlSyntax

open Lexeme (lowered)

namespace Text

theorem upperChar_toLower (c : Char) : upperChar c.toLower = upperChar c :=
  toLower_blind upperChar (by decide) c

theorem toUpper_lowered (s : String) : toUpper (String.ofList (lowered s.toList)) = toUpper s := by
  unfold toUpper lowered
  rw [String.toList_ofList, List.flatMap_map]
  simp only [upperChar_toLower]

end Text

namespace Token

def unplaced (t : Token) : Token :=
  { t with position := .start }

/-- The token without its place and, if it is not quoted, without the case of its letters. -/
def stripped (t : Token) : Token :=
  match t.terminal with
  | .string | .quotedName => t.unplaced
  | _ => { t with text := String.ofList (lowered t.text.toList), position := .start }

theorem toUpper_text_stripped (t : Token) : Text.toUpper t.stripped.text = Text.toUpper t.text := by
  unfold stripped
  split
  · rfl
  · rfl
  · exact Text.toUpper_lowered t.text

theorem toUpper_name_stripped (t : Token) : Text.toUpper t.stripped.name = Text.toUpper t.name := by
  obtain ⟨terminal, text, position⟩ := t
  cases terminal
  case string => rfl
  case quotedName => rfl
  all_goals exact Text.toUpper_lowered text

end Token

namespace Grammar

/-- The value of a nonterminal with stripped tokens. The keywords that name functions are the only
ones that a nonterminal carries. -/
def Nonterminal.stripped : (n : Nonterminal) → n.Value → n.Value
  | .funcKeyword => Token.stripped
  | .fieldAlias | .tableAlias | .comparator | .ident | .identOrString => Token.unplaced
  | _ => id

def Symbol.stripped : (s : Symbol) → s.Value → s.Value
  | .terminal t =>
    match t.words with
    | [] => Token.unplaced
    | _ :: _ => Token.stripped
  | .nonterminal n => n.stripped

def Values.stripped : (symbols : List Symbol) → Values symbols → Values symbols
  | [], vs => vs
  | s :: rest, (v, vs) => (s.stripped v, Values.stripped rest vs)

/-! ### Helpers of the productions -/

theorem numberNode_stripped (t : Token) :
    (numberNode t.unplaced).toOption = (numberNode t).toOption.map id := by
  have same : t.unplaced.text = t.text := rfl
  unfold numberNode
  rw [same]
  dsimp only
  split_ifs <;> rfl

theorem signedNode_stripped (minus : Bool) (t : Token) :
    (match numberNode t.unplaced with
      | .ok x => .ok (if minus then .unaryOp "-" (.node x) else x)
      | .error e => .error e : Except BuildError Node).toOption =
      (match numberNode t with
        | .ok x => .ok (if minus then .unaryOp "-" (.node x) else x)
        | .error e => .error e : Except BuildError Node).toOption.map id := by
  have same := numberNode_stripped t
  rw [Option.map_id] at same ⊢
  cases stripped : numberNode t.unplaced <;> cases placed : numberNode t <;>
    simp_all [Except.toOption]

theorem callNode_congr {s t : Token} (same : Text.toUpper s.name = Text.toUpper t.name)
    (distinct : Bool) (args : Option CallArguments) :
    (callNode s distinct args).toOption = (callNode t distinct args).toOption.map id := by
  unfold callNode
  rw [same]
  dsimp only
  split_ifs <;> rfl

theorem callNode_unplaced (name : Token) (distinct : Bool) (args : Option CallArguments) :
    (callNode name.unplaced distinct args).toOption =
      (callNode name distinct args).toOption.map id :=
  callNode_congr (s := name.unplaced) (t := name) rfl distinct args

theorem callNode_stripped (name : Token) (distinct : Bool) (args : Option CallArguments) :
    (callNode name.stripped distinct args).toOption =
      (callNode name distinct args).toOption.map id :=
  callNode_congr name.toUpper_name_stripped distinct args

theorem measuredNode_stripped (column length : Token) (direction : Option Direction) :
    (match lengthOf column.unplaced length.unplaced with
      | .ok n => .ok (indexPartNode column.unplaced n direction)
      | .error e => .error e : Except BuildError Node).toOption =
      (match lengthOf column length with
        | .ok n => .ok (indexPartNode column n direction)
        | .error e => .error e : Except BuildError Node).toOption.map id := by
  have same : length.unplaced.text = length.text := rfl
  unfold lengthOf
  rw [same]
  dsimp only
  split_ifs <;> rfl

theorem optionWords_stripped (tokens : List Token) :
    optionWords (tokens.map Token.stripped) = optionWords tokens := by
  simp [optionWords, Function.comp_def, Token.toUpper_text_stripped]

/-! ### Productions -/

/-- Building from stripped values gives the stripped value. -/
theorem ExprRule.build_stripped (m : Nat) (r : ExprRule) (vs : Values r.rhs) :
    (r.build m (Values.stripped r.rhs vs)).toOption =
      (r.build m vs).toOption.map r.lhs.stripped := by
  cases r
  case isNull negated => cases negated <;> rfl
  case isTruth negated truth => cases negated <;> cases truth <;> rfl
  case inList negated => cases negated <;> rfl
  case inSubquery negated => cases negated <;> rfl
  case between negated => cases negated <;> rfl
  case like negated escaped => cases negated <;> cases escaped <;> rfl
  case regexp negated => cases negated <;> rfl
  case sum minus => cases minus <;> rfl
  case product op =>
    cases op
    case div =>
      exact congrArg (fun op => some (binaryNode op vs.1 vs.2.2.1)) vs.2.1.toUpper_text_stripped
    case mod =>
      exact congrArg (fun op => some (binaryNode op vs.1 vs.2.2.1)) vs.2.1.toUpper_text_stripped
    all_goals rfl
  case sign op => cases op <;> rfl
  case number => exact numberNode_stripped vs.1
  case boolean truth => cases truth <;> rfl
  case call distinct args =>
    cases distinct <;> cases args
    · exact callNode_unplaced vs.1 false none
    · exact callNode_unplaced vs.1 false (some vs.2.2.1)
    · exact callNode_unplaced vs.1 true none
    · exact callNode_unplaced vs.1 true (some vs.2.2.2.1)
  case keywordCall distinct args =>
    cases distinct <;> cases args
    · exact callNode_stripped vs.1 false none
    · exact callNode_stripped vs.1 false (some vs.2.2.1)
    · exact callNode_stripped vs.1 true none
    · exact callNode_stripped vs.1 true (some vs.2.2.2.1)
  case functionWord word => cases word <;> rfl
  case caseOf operand otherwise => cases operand <;> cases otherwise <;> rfl
  case whenRun more => cases more <;> rfl
  case exprList more => cases more <;> rfl
  case exprTail more => cases more <;> rfl
  case identList more => cases more <;> rfl
  case identTail more => cases more <;> rfl
  all_goals rfl

theorem QueryRule.build_stripped (m : Nat) (r : QueryRule) (vs : Values r.rhs) :
    (r.build m (Values.stripped r.rhs vs)).toOption =
      (r.build m vs).toOption.map r.lhs.stripped := by
  cases r
  case query more => cases more <;> rfl
  case queryTail more => cases more <;> rfl
  case setOperator kind quantifier =>
    have same := Token.toUpper_text_stripped vs.1
    cases kind <;> exact congrArg
      (fun word => some (word ++ if quantifier = some .all then " ALL" else "")) same
  case selectCore quantifier => rcases quantifier with _ | _ | _ <;> rfl
  case selectFields more => cases more <;> rfl
  case selectFieldTail more => cases more <;> rfl
  case fieldExpr named => cases named <;> rfl
  case fieldAlias marked spelling => cases marked <;> cases spelling <;> rfl
  case tableRefs more => cases more <;> rfl
  case tableRefTail more => cases more <;> rfl
  case joinTable conditioned => cases conditioned <;> rfl
  case tableSource named hinted => cases named <;> cases hinted <;> rfl
  case tableAlias marked quoted => cases marked <;> cases quoted <;> rfl
  case tableName qualified => cases qualified <;> rfl
  case indexHintRun more => cases more <;> rfl
  case indexHint verb byKey limited named =>
    have same := Token.toUpper_text_stripped vs.1
    cases limited <;> cases named
    · cases verb <;> exact congrArg (fun word => some (Node.indexHint word "" [])) same
    · cases verb <;> exact congrArg (fun word => some (Node.indexHint word "" vs.2.2.2.1)) same
    · cases verb <;> exact congrArg (fun word => some (Node.indexHint word vs.2.2.2.1 [])) same
    · cases verb <;>
        exact congrArg (fun word => some (Node.indexHint word vs.2.2.2.1 vs.2.2.2.2.2.1)) same
  case groupBy more => cases more <;> rfl
  case byItemTail more => cases more <;> rfl
  case orderBy more => cases more <;> rfl
  case limitNumber => exact numberNode_stripped vs.1
  all_goals rfl

theorem ManipulationRule.build_stripped (r : ManipulationRule) (vs : Values r.rhs) :
    (r.build (Values.stripped r.rhs vs)).toOption = (r.build vs).toOption.map r.lhs.stripped := by
  cases r
  case insertStatement replace ignore into columns updates =>
    cases ignore <;> cases into <;> cases columns <;> cases updates <;> rfl
  case insertValues plural more => cases more <;> rfl
  case insertAssignments more => cases more <;> rfl
  case valueRowTail more => cases more <;> rfl
  case valueRow more => cases more <;> rfl
  case valueTail more => cases more <;> rfl
  case onDuplicate more => cases more <;> rfl
  case assignmentTail more => cases more <;> rfl
  case updateStatement ignore more => cases ignore <;> cases more <;> rfl
  case deleteStatement ignore => cases ignore <;> rfl
  all_goals rfl

theorem DefinitionRule.build_stripped (r : DefinitionRule) (vs : Values r.rhs) :
    (r.build (Values.stripped r.rhs vs)).toOption = (r.build vs).toOption.map r.lhs.stripped := by
  cases r
  case createTable temporary guarded more options =>
    cases temporary <;> cases guarded <;> cases more <;> cases options <;> rfl
  case tableElementTail more => cases more <;> rfl
  case tableOptionRun more => cases more <;> rfl
  case columnDef options => cases options <;> rfl
  case columnOptionRun more => cases more <;> rfl
  case dataType args attributes => cases args <;> cases attributes <;> rfl
  case typeAttributeRun more => cases more <;> rfl
  case typeArgs more => cases more <;> rfl
  case typeArgTail more => cases more <;> rfl
  case typeAttribute word =>
    have same := Token.toUpper_text_stripped vs.1
    cases word <;> exact congrArg some same
  case primaryKey marked => cases marked <;> rfl
  case uniqueKey marked => cases marked <;> rfl
  case defaultSigned minus => exact signedNode_stripped minus vs.2.1
  case namedConstraint named => cases named <;> rfl
  case uniqueConstraint word named => rcases word with _ | _ | _ <;> cases named <;> rfl
  case indexConstraint word named => cases word <;> cases named <;> rfl
  case foreignConstraint named => cases named <;> rfl
  case keyParts more => cases more <;> rfl
  case keyPartTail more => cases more <;> rfl
  case measuredPart direction => exact measuredNode_stripped vs.1 vs.2.2.1 direction
  case referenceDef actions => cases actions <;> rfl
  case referenceActionRun more => cases more <;> rfl
  case cascade => exact congrArg some (optionWords_stripped [vs.1])
  case restrict => exact congrArg some (optionWords_stripped [vs.1])
  case setNull => exact congrArg some (optionWords_stripped [vs.1, vs.2.1])
  case noAction => exact congrArg some (optionWords_stripped [vs.1, vs.2.1])
  case setDefault => exact congrArg some (optionWords_stripped [vs.1, vs.2.1])
  case engineOption equals => cases equals <;> rfl
  case charsetOption default equals => cases default <;> cases equals <;> rfl
  case characterSetOption default equals => cases default <;> cases equals <;> rfl
  case collateOption default equals => cases default <;> cases equals <;> rfl
  case commentOption equals => cases equals <;> rfl
  case autoIncrementOption equals => cases equals <;> rfl
  case dropTable temporary guarded more =>
    cases temporary <;> cases guarded <;> cases more <;> rfl
  case tableNameTail more => cases more <;> rfl
  case truncateTable marked => cases marked <;> rfl
  case createIndex unique => cases unique <;> rfl
  case createDatabase schema guarded => cases guarded <;> rfl
  case dropDatabase schema guarded => cases guarded <;> rfl
  all_goals rfl

theorem ScriptRule.build_stripped (r : ScriptRule) (vs : Values r.rhs) :
    (r.build (Values.stripped r.rhs vs)).toOption = (r.build vs).toOption.map r.lhs.stripped := by
  cases r
  case script items last => cases items <;> cases last <;> rfl
  case scriptItems more filled => cases more <;> cases filled <;> rfl
  case statement form => cases form <;> rfl
  case begin marked => cases marked <;> rfl
  case commit marked => cases marked <;> rfl
  case rollback marked => cases marked <;> rfl
  all_goals rfl

theorem Production.build_stripped (m : Nat) (p : Production) (vs : Values p.rhs) :
    (p.build m (Values.stripped p.rhs vs)).toOption =
      (p.build m vs).toOption.map p.lhs.stripped := by
  cases p with
  | script r => exact r.build_stripped vs
  | query r => exact r.build_stripped m vs
  | expr r => exact r.build_stripped m vs
  | manipulation r => exact r.build_stripped vs
  | definition r => exact r.build_stripped vs

end Grammar

end SqlSyntax
