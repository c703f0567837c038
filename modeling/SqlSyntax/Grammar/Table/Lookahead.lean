import SqlSyntax.Lexical.Token

/-! What many rows of the automaton of the statement grammar share: the sets of terminals before
which it reduces, and the shifts at the start of a phrase. -/

namespace SqlSyntax.Grammar.Table

def lookahead0 : TerminalSet := .ofList [
  .endOfInput]

def lookahead1 : TerminalSet := .ofList [
  .kwSelect, .kwUpdate, .kwUse, .kwInsert, .kwReplace, .kwDelete, .kwCreate, .kwDrop, .kwTruncate,
  .kwBegin, .kwStart, .kwCommit, .kwRollback, .kwExplain, .semicolon, .endOfInput]

def lookahead2 : TerminalSet := .ofList [
  .semicolon, .endOfInput]

def lookahead3 : TerminalSet := .ofList [
  .kwOn, .semicolon, .rightParen, .endOfInput]

def lookahead4 : TerminalSet := .ofList [
  .kwSelect]

def lookahead5 : TerminalSet := .ofList [
  .kwSelect, .kwWhere, .kwGroup, .kwHaving, .kwOrder, .kwLimit, .kwFor, .kwLock, .kwUnion,
  .kwExcept, .kwIntersect, .kwAs, .kwJoin, .kwInner, .kwCross, .kwLeft, .kwRight, .kwOn, .kwUsing,
  .kwUse, .kwForce, .kwIgnore, .kwValues, .kwValue, .kwSet, .semicolon, .comma, .leftParen,
  .rightParen, .name, .quotedName, .endOfInput]

def lookahead6 : TerminalSet := .ofList [
  .kwSelect, .kwFrom, .kwWhere, .kwGroup, .kwHaving, .kwOrder, .kwLimit, .kwFor, .kwLock, .kwIn,
  .kwUnion, .kwExcept, .kwIntersect, .kwAs, .kwJoin, .kwInner, .kwCross, .kwLeft, .kwRight, .kwOn,
  .kwUsing, .kwUse, .kwForce, .kwIgnore, .kwIndex, .kwKey, .kwOr, .kwXor, .kwAnd, .kwNot, .kwIs,
  .kwNull, .kwBetween, .kwLike, .kwEscape, .kwRegexp, .kwWhen, .kwThen, .kwElse, .kwEnd, .kwDiv,
  .kwMod, .kwAsc, .kwDesc, .kwValues, .kwValue, .kwSet, .kwDefault, .kwPrimary, .kwUnique,
  .kwForeign, .kwAutoIncrement, .kwComment, .kwCollate, .kwCharacter, .kwCharset, .kwEngine,
  .equals, .comparison, .shift, .pipe, .ampersand, .caret, .plus, .minus, .star, .slash, .percent,
  .semicolon, .comma, .dot, .leftParen, .rightParen, .string, .name, .quotedName, .endOfInput]

def lookahead7 : TerminalSet := .ofList [
  .kwWhere, .kwGroup, .kwHaving, .kwOrder, .kwLimit, .kwFor, .kwLock, .kwUnion, .kwExcept,
  .kwIntersect, .kwOn, .kwSet, .semicolon, .rightParen, .endOfInput]

def lookahead8 : TerminalSet := .ofList [
  .kwWhere, .kwGroup, .kwHaving, .kwOrder, .kwLimit, .kwFor, .kwLock, .kwUnion, .kwExcept,
  .kwIntersect, .kwJoin, .kwInner, .kwCross, .kwLeft, .kwRight, .kwOn, .kwSet, .semicolon, .comma,
  .rightParen, .endOfInput]

def lookahead9 : TerminalSet := .ofList [
  .kwWhere, .kwGroup, .kwHaving, .kwOrder, .kwLimit, .kwFor, .kwLock, .kwUnion, .kwExcept,
  .kwIntersect, .kwJoin, .kwInner, .kwCross, .kwLeft, .kwRight, .kwOn, .kwUsing, .kwSet, .semicolon,
  .comma, .rightParen, .endOfInput]

def lookahead10 : TerminalSet := .ofList [
  .kwWhere, .kwGroup, .kwHaving, .kwOrder, .kwLimit, .kwFor, .kwLock, .kwUnion, .kwExcept,
  .kwIntersect, .kwOn, .semicolon, .rightParen, .endOfInput]

def lookahead11 : TerminalSet := .ofList [
  .kwFrom, .kwWhere, .kwGroup, .kwHaving, .kwOrder, .kwLimit, .kwFor, .kwLock, .kwUnion, .kwExcept,
  .kwIntersect, .kwOn, .semicolon, .rightParen, .endOfInput]

def lookahead12 : TerminalSet := .ofList [
  .kwFrom, .kwWhere, .kwGroup, .kwHaving, .kwOrder, .kwLimit, .kwFor, .kwLock, .kwUnion, .kwExcept,
  .kwIntersect, .kwOn, .semicolon, .comma, .rightParen, .endOfInput]

def lookahead13 : TerminalSet := .ofList [
  .kwFrom, .kwWhere, .kwGroup, .kwHaving, .kwOrder, .kwLimit, .kwFor, .kwLock, .kwIn, .kwUnion,
  .kwExcept, .kwIntersect, .kwAs, .kwOn, .kwOr, .kwXor, .kwAnd, .kwNot, .kwIs, .kwBetween, .kwLike,
  .kwRegexp, .kwDiv, .kwMod, .equals, .comparison, .shift, .pipe, .ampersand, .caret, .plus, .minus,
  .star, .slash, .percent, .semicolon, .comma, .rightParen, .string, .name, .quotedName,
  .endOfInput]

def lookahead14 : TerminalSet := .ofList [
  .kwFrom, .kwWhere, .kwGroup, .kwHaving, .kwOrder, .kwLimit, .kwFor, .kwLock, .kwUnion, .kwExcept,
  .kwIntersect, .kwAs, .kwJoin, .kwInner, .kwCross, .kwLeft, .kwRight, .kwOn, .kwOr, .kwWhen,
  .kwThen, .kwElse, .kwEnd, .kwAsc, .kwDesc, .kwSet, .semicolon, .comma, .rightParen, .string,
  .name, .quotedName, .endOfInput]

def lookahead15 : TerminalSet := .ofList [
  .kwFrom, .kwWhere, .kwGroup, .kwHaving, .kwOrder, .kwLimit, .kwFor, .kwLock, .kwUnion, .kwExcept,
  .kwIntersect, .kwAs, .kwJoin, .kwInner, .kwCross, .kwLeft, .kwRight, .kwOn, .kwOr, .kwXor,
  .kwWhen, .kwThen, .kwElse, .kwEnd, .kwAsc, .kwDesc, .kwSet, .semicolon, .comma, .rightParen,
  .string, .name, .quotedName, .endOfInput]

def lookahead16 : TerminalSet := .ofList [
  .kwFrom, .kwWhere, .kwGroup, .kwHaving, .kwOrder, .kwLimit, .kwFor, .kwLock, .kwUnion, .kwExcept,
  .kwIntersect, .kwAs, .kwJoin, .kwInner, .kwCross, .kwLeft, .kwRight, .kwOn, .kwOr, .kwXor, .kwAnd,
  .kwWhen, .kwThen, .kwElse, .kwEnd, .kwAsc, .kwDesc, .kwSet, .semicolon, .comma, .rightParen,
  .string, .name, .quotedName, .endOfInput]

def lookahead17 : TerminalSet := .ofList [
  .kwFrom, .kwWhere, .kwGroup, .kwHaving, .kwOrder, .kwLimit, .kwFor, .kwLock, .kwUnion, .kwExcept,
  .kwIntersect, .kwAs, .kwJoin, .kwInner, .kwCross, .kwLeft, .kwRight, .kwOn, .kwOr, .kwXor, .kwAnd,
  .kwIs, .kwWhen, .kwThen, .kwElse, .kwEnd, .kwAsc, .kwDesc, .kwSet, .equals, .comparison,
  .semicolon, .comma, .rightParen, .string, .name, .quotedName, .endOfInput]

def lookahead18 : TerminalSet := .ofList [
  .kwFrom, .kwWhere, .kwGroup, .kwHaving, .kwOrder, .kwLimit, .kwFor, .kwLock, .kwIn, .kwUnion,
  .kwExcept, .kwIntersect, .kwAs, .kwJoin, .kwInner, .kwCross, .kwLeft, .kwRight, .kwOn, .kwOr,
  .kwXor, .kwAnd, .kwNot, .kwIs, .kwBetween, .kwLike, .kwEscape, .kwRegexp, .kwWhen, .kwThen,
  .kwElse, .kwEnd, .kwAsc, .kwDesc, .kwSet, .equals, .comparison, .pipe, .semicolon, .comma,
  .rightParen, .string, .name, .quotedName, .endOfInput]

def lookahead19 : TerminalSet := .ofList [
  .kwFrom, .kwWhere, .kwGroup, .kwHaving, .kwOrder, .kwLimit, .kwFor, .kwLock, .kwIn, .kwUnion,
  .kwExcept, .kwIntersect, .kwAs, .kwJoin, .kwInner, .kwCross, .kwLeft, .kwRight, .kwOn, .kwOr,
  .kwXor, .kwAnd, .kwNot, .kwIs, .kwBetween, .kwLike, .kwEscape, .kwRegexp, .kwWhen, .kwThen,
  .kwElse, .kwEnd, .kwAsc, .kwDesc, .kwSet, .equals, .comparison, .pipe, .ampersand, .semicolon,
  .comma, .rightParen, .string, .name, .quotedName, .endOfInput]

def lookahead20 : TerminalSet := .ofList [
  .kwFrom, .kwWhere, .kwGroup, .kwHaving, .kwOrder, .kwLimit, .kwFor, .kwLock, .kwIn, .kwUnion,
  .kwExcept, .kwIntersect, .kwAs, .kwJoin, .kwInner, .kwCross, .kwLeft, .kwRight, .kwOn, .kwOr,
  .kwXor, .kwAnd, .kwNot, .kwIs, .kwBetween, .kwLike, .kwEscape, .kwRegexp, .kwWhen, .kwThen,
  .kwElse, .kwEnd, .kwAsc, .kwDesc, .kwSet, .equals, .comparison, .shift, .pipe, .ampersand,
  .semicolon, .comma, .rightParen, .string, .name, .quotedName, .endOfInput]

def lookahead21 : TerminalSet := .ofList [
  .kwFrom, .kwWhere, .kwGroup, .kwHaving, .kwOrder, .kwLimit, .kwFor, .kwLock, .kwIn, .kwUnion,
  .kwExcept, .kwIntersect, .kwAs, .kwJoin, .kwInner, .kwCross, .kwLeft, .kwRight, .kwOn, .kwOr,
  .kwXor, .kwAnd, .kwNot, .kwIs, .kwBetween, .kwLike, .kwEscape, .kwRegexp, .kwWhen, .kwThen,
  .kwElse, .kwEnd, .kwAsc, .kwDesc, .kwSet, .equals, .comparison, .shift, .pipe, .ampersand, .plus,
  .minus, .semicolon, .comma, .rightParen, .string, .name, .quotedName, .endOfInput]

def lookahead22 : TerminalSet := .ofList [
  .kwFrom, .kwWhere, .kwGroup, .kwHaving, .kwOrder, .kwLimit, .kwFor, .kwLock, .kwIn, .kwUnion,
  .kwExcept, .kwIntersect, .kwAs, .kwJoin, .kwInner, .kwCross, .kwLeft, .kwRight, .kwOn, .kwOr,
  .kwXor, .kwAnd, .kwNot, .kwIs, .kwBetween, .kwLike, .kwEscape, .kwRegexp, .kwWhen, .kwThen,
  .kwElse, .kwEnd, .kwDiv, .kwMod, .kwAsc, .kwDesc, .kwSet, .equals, .comparison, .shift, .pipe,
  .ampersand, .plus, .minus, .star, .slash, .percent, .semicolon, .comma, .rightParen, .string,
  .name, .quotedName, .endOfInput]

def lookahead23 : TerminalSet := .ofList [
  .kwFrom, .kwWhere, .kwGroup, .kwHaving, .kwOrder, .kwLimit, .kwFor, .kwLock, .kwIn, .kwUnion,
  .kwExcept, .kwIntersect, .kwAs, .kwJoin, .kwInner, .kwCross, .kwLeft, .kwRight, .kwOn, .kwOr,
  .kwXor, .kwAnd, .kwNot, .kwIs, .kwBetween, .kwLike, .kwEscape, .kwRegexp, .kwWhen, .kwThen,
  .kwElse, .kwEnd, .kwDiv, .kwMod, .kwAsc, .kwDesc, .kwSet, .equals, .comparison, .shift, .pipe,
  .ampersand, .caret, .plus, .minus, .star, .slash, .percent, .semicolon, .comma, .rightParen,
  .string, .name, .quotedName, .endOfInput]

def lookahead24 : TerminalSet := .ofList [
  .kwFrom, .kwWhere, .kwGroup, .kwHaving, .kwOrder, .kwLimit, .kwFor, .kwLock, .kwIn, .kwUnion,
  .kwExcept, .kwIntersect, .kwAs, .kwJoin, .kwInner, .kwCross, .kwLeft, .kwRight, .kwOn, .kwKey,
  .kwOr, .kwXor, .kwAnd, .kwNot, .kwIs, .kwNull, .kwBetween, .kwLike, .kwEscape, .kwRegexp, .kwWhen,
  .kwThen, .kwElse, .kwEnd, .kwDiv, .kwMod, .kwAsc, .kwDesc, .kwSet, .kwDefault, .kwPrimary,
  .kwUnique, .kwAutoIncrement, .kwComment, .kwCollate, .kwCharacter, .kwCharset, .equals,
  .comparison, .shift, .pipe, .ampersand, .caret, .plus, .minus, .star, .slash, .percent,
  .semicolon, .comma, .rightParen, .string, .name, .quotedName, .endOfInput]

def lookahead25 : TerminalSet := .ofList [
  .leftParen]

def lookahead26 : TerminalSet := .ofList [
  .kwUnion, .kwExcept, .kwIntersect, .kwOn, .semicolon, .rightParen, .endOfInput]

def lookahead27 : TerminalSet := .ofList [
  .kwOn, .semicolon, .endOfInput]

def lookahead28 : TerminalSet := .ofList [
  .leftParen, .name, .quotedName]

def lookahead29 : TerminalSet := .ofList [
  .kwWhere, .kwGroup, .kwHaving, .kwOrder, .kwLimit, .kwFor, .kwLock, .kwUnion, .kwExcept,
  .kwIntersect, .kwJoin, .kwInner, .kwCross, .kwLeft, .kwRight, .kwOn, .kwUsing, .kwUse, .kwForce,
  .kwIgnore, .kwSet, .semicolon, .comma, .rightParen, .endOfInput]

def lookahead30 : TerminalSet := .ofList [
  .kwOrder, .kwLimit, .semicolon, .endOfInput]

def lookahead31 : TerminalSet := .ofList [
  .kwGroup, .kwHaving, .kwOrder, .kwLimit, .kwFor, .kwLock, .kwUnion, .kwExcept, .kwIntersect,
  .kwOn, .semicolon, .rightParen, .endOfInput]

def lookahead32 : TerminalSet := .ofList [
  .kwLeft, .kwRight, .kwNull, .kwTrue, .kwFalse, .kwExists, .kwCase, .kwMod, .kwInsert, .kwReplace,
  .kwValues, .kwIf, .kwDatabase, .kwSchema, .plus, .minus, .bang, .tilde, .leftParen, .question,
  .number, .hexNumber, .bitNumber, .string, .name, .quotedName, .variableName]

def lookahead33 : TerminalSet := .ofList [
  .kwWhen, .kwElse, .kwEnd]

def lookahead34 : TerminalSet := .ofList [
  .kwSelect, .kwValues, .kwValue, .kwSet]

def lookahead35 : TerminalSet := .ofList [
  .rightParen]

def lookahead36 : TerminalSet := .ofList [
  .equals]

def lookahead37 : TerminalSet := .ofList [
  .kwWhere, .kwGroup, .kwHaving, .kwOrder, .kwLimit, .kwFor, .kwLock, .kwUnion, .kwExcept,
  .kwIntersect, .kwJoin, .kwInner, .kwCross, .kwLeft, .kwRight, .kwSet, .semicolon, .comma,
  .rightParen, .endOfInput]

def lookahead38 : TerminalSet := .ofList [
  .kwWhere, .kwGroup, .kwHaving, .kwOrder, .kwLimit, .kwFor, .kwLock, .kwUnion, .kwExcept,
  .kwIntersect, .kwOn, .kwSet, .semicolon, .comma, .rightParen, .endOfInput]

def lookahead39 : TerminalSet := .ofList [
  .kwLimit, .semicolon, .endOfInput]

def lookahead40 : TerminalSet := .ofList [
  .name, .quotedName]

def lookahead41 : TerminalSet := .ofList [
  .kwHaving, .kwOrder, .kwLimit, .kwFor, .kwLock, .kwUnion, .kwExcept, .kwIntersect, .kwOn,
  .semicolon, .rightParen, .endOfInput]

def lookahead42 : TerminalSet := .ofList [
  .kwOn, .semicolon, .comma, .endOfInput]

def lookahead43 : TerminalSet := .ofList [
  .kwWhere, .kwOrder, .kwLimit, .kwOn, .semicolon, .comma, .rightParen, .endOfInput]

def lookahead44 : TerminalSet := .ofList [
  .kwLimit, .kwFor, .kwLock, .kwUnion, .kwExcept, .kwIntersect, .kwOn, .semicolon, .rightParen,
  .endOfInput]

def lookahead45 : TerminalSet := .ofList [
  .comma, .rightParen]

def lookahead46 : TerminalSet := .ofList [
  .semicolon, .comma, .endOfInput]

def lookahead47 : TerminalSet := .ofList [
  .kwOrder, .kwLimit, .kwFor, .kwLock, .kwUnion, .kwExcept, .kwIntersect, .kwOn, .semicolon,
  .rightParen, .endOfInput]

def lookahead48 : TerminalSet := .ofList [
  .kwWhere, .kwOrder, .kwLimit, .kwOn, .semicolon, .comma, .endOfInput]

def lookahead49 : TerminalSet := .ofList [
  .kwFor, .kwLock, .kwUnion, .kwExcept, .kwIntersect, .kwOn, .semicolon, .rightParen, .endOfInput]

def lookahead50 : TerminalSet := .ofList [
  .kwOn, .kwKey, .kwNot, .kwNull, .kwDefault, .kwPrimary, .kwUnique, .kwAutoIncrement, .kwComment,
  .kwCollate, .kwCharacter, .kwCharset, .comma, .rightParen]

def lookahead51 : TerminalSet := .ofList [
  .kwOffset, .kwFor, .kwLock, .kwUnion, .kwExcept, .kwIntersect, .kwOn, .semicolon, .comma,
  .rightParen, .endOfInput]

def lookahead52 : TerminalSet := .ofList [
  .kwHaving, .kwOrder, .kwLimit, .kwFor, .kwLock, .kwUnion, .kwExcept, .kwIntersect, .kwOn,
  .semicolon, .comma, .rightParen, .endOfInput]

def lookahead53 : TerminalSet := .ofList [
  .kwDefault, .kwAutoIncrement, .kwComment, .kwCollate, .kwCharacter, .kwCharset, .kwEngine,
  .semicolon, .endOfInput]

def lookahead54 : TerminalSet := .ofList [
  .kwOn, .kwNot, .kwNull, .kwDefault, .kwPrimary, .kwUnique, .kwAutoIncrement, .kwComment,
  .kwCollate, .kwCharacter, .kwCharset, .comma, .rightParen]

def lookahead55 : TerminalSet := .ofList [
  .kwOn, .kwKey, .kwNot, .kwNull, .kwDefault, .kwPrimary, .kwUnique, .kwAutoIncrement, .kwComment,
  .kwCollate, .kwCharacter, .kwCharset, .kwUnsigned, .kwSigned, .kwZerofill, .comma, .rightParen]

def lookahead56 : TerminalSet := .ofList [
  .kwOn, .kwKey, .kwNot, .kwNull, .kwDefault, .kwPrimary, .kwUnique, .kwAutoIncrement, .kwComment,
  .kwCollate, .kwCharacter, .kwCharset, .kwEngine, .semicolon, .comma, .rightParen, .endOfInput]

def lookahead57 : TerminalSet := .ofList [
  .kwOn, .kwReferences, .semicolon, .comma, .rightParen, .endOfInput]

def lookahead58 : TerminalSet := .ofList [
  .kwOn, .comma, .rightParen]

/-! ### Shifts -/

/-- What starts an operand of a comparison. -/
def operandShifts : List (Terminal × Nat) := [
  (.kwLeft, 129), (.kwRight, 130), (.kwNull, 124), (.kwTrue, 125), (.kwFalse, 126),
  (.kwExists, 116), (.kwCase, 128), (.kwMod, 134), (.kwInsert, 132), (.kwReplace, 133),
  (.kwValues, 137), (.kwIf, 131), (.kwDatabase, 135), (.kwSchema, 136), (.plus, 107),
  (.minus, 106), (.bang, 108), (.tilde, 109), (.leftParen, 114), (.question, 118), (.number, 120),
  (.hexNumber, 121), (.bitNumber, 122), (.string, 123), (.name, 48), (.quotedName, 49),
  (.variableName, 119)]

/-- What starts an expression. -/
def expressionShifts : List (Terminal × Nat) := [
  (.kwLeft, 129), (.kwRight, 130), (.kwNot, 96), (.kwNull, 124), (.kwTrue, 125), (.kwFalse, 126),
  (.kwExists, 116), (.kwCase, 128), (.kwMod, 134), (.kwInsert, 132), (.kwReplace, 133),
  (.kwValues, 137), (.kwIf, 131), (.kwDatabase, 135), (.kwSchema, 136), (.plus, 107),
  (.minus, 106), (.bang, 108), (.tilde, 109), (.leftParen, 114), (.question, 118), (.number, 120),
  (.hexNumber, 121), (.bitNumber, 122), (.string, 123), (.name, 48), (.quotedName, 49),
  (.variableName, 119)]

/-- What starts an option of a table. -/
def optionShifts : List (Terminal × Nat) := [
  (.kwDefault, 633), (.kwAutoIncrement, 638), (.kwComment, 637), (.kwCollate, 636),
  (.kwCharacter, 635), (.kwCharset, 634), (.kwEngine, 632)]

end SqlSyntax.Grammar.Table
