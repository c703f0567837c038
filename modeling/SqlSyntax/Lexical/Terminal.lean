/-! Terminals of the statement grammar. A keyword is spelled in any letter case and ends where the
word does; two of them also have a symbol. Reserved words are names only between back quotes. -/

namespace SqlSyntax

inductive Terminal where
  | kwSelect | kwFrom | kwWhere | kwGroup | kwBy | kwHaving | kwOrder | kwLimit | kwOffset | kwFor
  | kwUpdate | kwLock | kwIn | kwShare | kwMode | kwUnion | kwExcept | kwIntersect | kwAll
  | kwDistinct | kwAs | kwJoin | kwInner | kwCross | kwLeft | kwRight | kwOuter | kwOn | kwUsing
  | kwUse | kwForce | kwIgnore | kwIndex | kwKey | kwOr | kwXor | kwAnd | kwNot | kwIs | kwNull
  | kwTrue | kwFalse | kwBetween | kwLike | kwEscape | kwRegexp | kwExists | kwCase | kwWhen
  | kwThen | kwElse | kwEnd | kwDiv | kwMod | kwAsc | kwDesc | kwInsert | kwReplace | kwInto
  | kwValues | kwValue | kwSet | kwDefault | kwDuplicate | kwDelete | kwCreate | kwTemporary
  | kwTable | kwIf | kwPrimary | kwUnique | kwConstraint | kwForeign | kwReferences | kwCascade
  | kwRestrict | kwNo | kwAction | kwAutoIncrement | kwComment | kwCollate | kwCharacter
  | kwCharset | kwEngine | kwUnsigned | kwSigned | kwZerofill | kwDrop | kwTruncate | kwDatabase
  | kwSchema | kwBegin | kwStart | kwTransaction | kwWork | kwCommit | kwRollback | kwExplain
  | equals | comparison | shift | pipe | ampersand | caret | plus | minus | star | slash | percent
  | bang | tilde | semicolon | comma | dot | leftParen | rightParen | question
  | number | hexNumber | bitNumber | string | name | quotedName | variableName | endOfInput
deriving DecidableEq, Repr

namespace Terminal

/-- The words that spell a keyword, in lower case. -/
def words : Terminal → List String
  | .kwSelect => ["select"]
  | .kwFrom => ["from"]
  | .kwWhere => ["where"]
  | .kwGroup => ["group"]
  | .kwBy => ["by"]
  | .kwHaving => ["having"]
  | .kwOrder => ["order"]
  | .kwLimit => ["limit"]
  | .kwOffset => ["offset"]
  | .kwFor => ["for"]
  | .kwUpdate => ["update"]
  | .kwLock => ["lock"]
  | .kwIn => ["in"]
  | .kwShare => ["share"]
  | .kwMode => ["mode"]
  | .kwUnion => ["union"]
  | .kwExcept => ["except"]
  | .kwIntersect => ["intersect"]
  | .kwAll => ["all"]
  | .kwDistinct => ["distinct"]
  | .kwAs => ["as"]
  | .kwJoin => ["join"]
  | .kwInner => ["inner"]
  | .kwCross => ["cross"]
  | .kwLeft => ["left"]
  | .kwRight => ["right"]
  | .kwOuter => ["outer"]
  | .kwOn => ["on"]
  | .kwUsing => ["using"]
  | .kwUse => ["use"]
  | .kwForce => ["force"]
  | .kwIgnore => ["ignore"]
  | .kwIndex => ["index"]
  | .kwKey => ["key"]
  | .kwOr => ["or"]
  | .kwXor => ["xor"]
  | .kwAnd => ["and"]
  | .kwNot => ["not"]
  | .kwIs => ["is"]
  | .kwNull => ["null"]
  | .kwTrue => ["true"]
  | .kwFalse => ["false"]
  | .kwBetween => ["between"]
  | .kwLike => ["like"]
  | .kwEscape => ["escape"]
  | .kwRegexp => ["regexp", "rlike"]
  | .kwExists => ["exists"]
  | .kwCase => ["case"]
  | .kwWhen => ["when"]
  | .kwThen => ["then"]
  | .kwElse => ["else"]
  | .kwEnd => ["end"]
  | .kwDiv => ["div"]
  | .kwMod => ["mod"]
  | .kwAsc => ["asc"]
  | .kwDesc => ["desc"]
  | .kwInsert => ["insert"]
  | .kwReplace => ["replace"]
  | .kwInto => ["into"]
  | .kwValues => ["values"]
  | .kwValue => ["value"]
  | .kwSet => ["set"]
  | .kwDefault => ["default"]
  | .kwDuplicate => ["duplicate"]
  | .kwDelete => ["delete"]
  | .kwCreate => ["create"]
  | .kwTemporary => ["temporary"]
  | .kwTable => ["table"]
  | .kwIf => ["if"]
  | .kwPrimary => ["primary"]
  | .kwUnique => ["unique"]
  | .kwConstraint => ["constraint"]
  | .kwForeign => ["foreign"]
  | .kwReferences => ["references"]
  | .kwCascade => ["cascade"]
  | .kwRestrict => ["restrict"]
  | .kwNo => ["no"]
  | .kwAction => ["action"]
  | .kwAutoIncrement => ["auto_increment"]
  | .kwComment => ["comment"]
  | .kwCollate => ["collate"]
  | .kwCharacter => ["character"]
  | .kwCharset => ["charset"]
  | .kwEngine => ["engine"]
  | .kwUnsigned => ["unsigned"]
  | .kwSigned => ["signed"]
  | .kwZerofill => ["zerofill"]
  | .kwDrop => ["drop"]
  | .kwTruncate => ["truncate"]
  | .kwDatabase => ["database"]
  | .kwSchema => ["schema"]
  | .kwBegin => ["begin"]
  | .kwStart => ["start"]
  | .kwTransaction => ["transaction"]
  | .kwWork => ["work"]
  | .kwCommit => ["commit"]
  | .kwRollback => ["rollback"]
  | .kwExplain => ["explain", "describe"]
  | _ => []

/-- The symbol that may stand for a keyword, or the whole spelling of a mark. -/
def symbol? : Terminal → Option String
  | .kwOr => some "||"
  | .kwAnd => some "&&"
  | .equals => some "="
  | .pipe => some "|"
  | .ampersand => some "&"
  | .caret => some "^"
  | .plus => some "+"
  | .minus => some "-"
  | .star => some "*"
  | .slash => some "/"
  | .percent => some "%"
  | .bang => some "!"
  | .tilde => some "~"
  | .semicolon => some ";"
  | .comma => some ","
  | .dot => some "."
  | .leftParen => some "("
  | .rightParen => some ")"
  | .question => some "?"
  | _ => none

/-- Which of several terminals that match at one place is taken: the first in this list. -/
def precedence : List Terminal := [
  .hexNumber, .bitNumber, .kwSelect, .kwFrom, .kwWhere, .kwGroup, .kwBy, .kwHaving, .kwOrder,
  .kwLimit, .kwOffset, .kwFor, .kwUpdate, .kwLock, .kwIn, .kwShare, .kwMode, .kwUnion, .kwExcept,
  .kwIntersect, .kwAll, .kwDistinct, .kwAs, .kwJoin, .kwInner, .kwCross, .kwLeft, .kwRight,
  .kwOuter, .kwOn, .kwUsing, .kwUse, .kwForce, .kwIgnore, .kwIndex, .kwKey, .kwOr, .kwXor, .kwAnd,
  .kwNot, .kwIs, .kwNull, .kwTrue, .kwFalse, .kwBetween, .kwLike, .kwEscape, .kwRegexp, .kwExists,
  .kwCase, .kwWhen, .kwThen, .kwElse, .kwEnd, .kwDiv, .kwMod, .kwAsc, .kwDesc, .kwInsert,
  .kwReplace, .kwInto, .kwValues, .kwValue, .kwSet, .kwDefault, .kwDuplicate, .kwDelete,
  .kwCreate, .kwTemporary, .kwTable, .kwIf, .kwPrimary, .kwUnique, .kwConstraint, .kwForeign,
  .kwReferences, .kwCascade, .kwRestrict, .kwNo, .kwAction, .kwAutoIncrement, .kwComment,
  .kwCollate, .kwCharacter, .kwCharset, .kwEngine, .kwUnsigned, .kwSigned, .kwZerofill, .kwDrop,
  .kwTruncate, .kwDatabase, .kwSchema, .kwBegin, .kwStart, .kwTransaction, .kwWork, .kwCommit,
  .kwRollback, .kwExplain, .shift, .name, .string, .number, .variableName, .quotedName,
  .comparison, .equals, .pipe, .ampersand, .caret, .plus, .minus, .star, .slash, .percent, .bang,
  .tilde, .semicolon, .comma, .dot, .leftParen, .rightParen, .question]

end Terminal

/-- Keywords that are no names unless quoted. -/
def reservedWords : List String := [
  "select", "from", "where", "group", "by", "having", "order", "limit", "for", "update", "lock",
  "in", "union", "except", "intersect", "all", "distinct", "as", "join", "inner", "cross", "left",
  "right", "outer", "on", "using", "use", "force", "ignore", "index", "key", "or", "xor", "and",
  "not", "is", "null", "true", "false", "between", "like", "regexp", "rlike", "exists", "case",
  "when", "then", "else", "div", "mod", "asc", "desc", "insert", "replace", "into", "values",
  "set", "default", "delete", "create", "table", "if", "primary", "unique", "constraint",
  "foreign", "references", "cascade", "restrict", "character", "collate", "unsigned", "zerofill",
  "drop", "database", "schema", "explain", "describe"]

end SqlSyntax
