import SqlSyntax.Grammar.Automaton
import SqlSyntax.Grammar.Table.Lookahead

/-! States 0 to 127 of the automaton of the statement grammar. -/

namespace SqlSyntax.Grammar.Table

def block0 : Array Row := #[
  ⟨[(.kwSelect, 35), (.kwUpdate, 24), (.kwUse, 29), (.kwInsert, 22), (.kwReplace, 23),
    (.kwDelete, 25), (.kwCreate, 26), (.kwDrop, 27), (.kwTruncate, 28), (.kwBegin, 30),
    (.kwStart, 31), (.kwCommit, 32), (.kwRollback, 33), (.kwExplain, 34), (.semicolon, 4)],
    [(.script (.script false false), lookahead0)],
    [(.script, 1), (.scriptItems, 2), (.statement, 3), (.query, 5), (.insertStatement, 6),
    (.updateStatement, 7), (.deleteStatement, 8), (.createTable, 9), (.dropTable, 10),
    (.truncateTable, 11), (.createIndex, 12), (.dropIndex, 13), (.createDatabase, 14),
    (.dropDatabase, 15), (.useStatement, 16), (.beginStatement, 17), (.commitStatement, 18),
    (.rollbackStatement, 19), (.explainStatement, 20), (.selectCore, 21)]⟩,
  ⟨[], [], []⟩,
  ⟨[(.kwSelect, 35), (.kwUpdate, 24), (.kwUse, 29), (.kwInsert, 22), (.kwReplace, 23),
    (.kwDelete, 25), (.kwCreate, 26), (.kwDrop, 27), (.kwTruncate, 28), (.kwBegin, 30),
    (.kwStart, 31), (.kwCommit, 32), (.kwRollback, 33), (.kwExplain, 34), (.semicolon, 37)],
    [(.script (.script true false), lookahead0)],
    [(.statement, 36), (.query, 5), (.insertStatement, 6), (.updateStatement, 7),
    (.deleteStatement, 8), (.createTable, 9), (.dropTable, 10), (.truncateTable, 11),
    (.createIndex, 12), (.dropIndex, 13), (.createDatabase, 14), (.dropDatabase, 15),
    (.useStatement, 16), (.beginStatement, 17), (.commitStatement, 18), (.rollbackStatement, 19),
    (.explainStatement, 20), (.selectCore, 21)]⟩,
  ⟨[(.semicolon, 38)], [(.script (.script false true), lookahead0)], []⟩,
  ⟨[], [(.script (.scriptItems false false), lookahead1)], []⟩,
  ⟨[], [(.script (.statement .query), lookahead2)], []⟩,
  ⟨[], [(.script (.statement .insert), lookahead2)], []⟩,
  ⟨[], [(.script (.statement .update), lookahead2)], []⟩,
  ⟨[], [(.script (.statement .delete), lookahead2)], []⟩,
  ⟨[], [(.script (.statement .createTable), lookahead2)], []⟩,
  ⟨[], [(.script (.statement .dropTable), lookahead2)], []⟩,
  ⟨[], [(.script (.statement .truncateTable), lookahead2)], []⟩,
  ⟨[], [(.script (.statement .createIndex), lookahead2)], []⟩,
  ⟨[], [(.script (.statement .dropIndex), lookahead2)], []⟩,
  ⟨[], [(.script (.statement .createDatabase), lookahead2)], []⟩,
  ⟨[], [(.script (.statement .dropDatabase), lookahead2)], []⟩,
  ⟨[], [(.script (.statement .useDatabase), lookahead2)], []⟩,
  ⟨[], [(.script (.statement .begin), lookahead2)], []⟩,
  ⟨[], [(.script (.statement .commit), lookahead2)], []⟩,
  ⟨[], [(.script (.statement .rollback), lookahead2)], []⟩,
  ⟨[], [(.script (.statement .explain), lookahead2)], []⟩,
  ⟨[(.kwUnion, 41), (.kwExcept, 42), (.kwIntersect, 43)],
    [(.query (.query false), lookahead3)],
    [(.queryTail, 39), (.setOperator, 40)]⟩,
  ⟨[(.kwIgnore, 44), (.kwInto, 45), (.name, 48), (.quotedName, 49)],
    [],
    [(.tableName, 46), (.ident, 47)]⟩,
  ⟨[(.kwIgnore, 50), (.kwInto, 51), (.name, 48), (.quotedName, 49)],
    [],
    [(.tableName, 52), (.ident, 47)]⟩,
  ⟨[(.kwIgnore, 53), (.leftParen, 60), (.name, 48), (.quotedName, 49)],
    [],
    [(.tableRefs, 54), (.tableRef, 55), (.tableFactor, 56), (.joinTable, 57), (.tableName, 58),
    (.subquery, 59), (.ident, 47)]⟩,
  ⟨[(.kwFrom, 62), (.kwIgnore, 61)], [], []⟩,
  ⟨[(.kwIndex, 66), (.kwTemporary, 63), (.kwTable, 64), (.kwUnique, 65), (.kwDatabase, 67),
    (.kwSchema, 68)],
    [],
    []⟩,
  ⟨[(.kwIndex, 71), (.kwTemporary, 69), (.kwTable, 70), (.kwDatabase, 72), (.kwSchema, 73)],
    [],
    []⟩,
  ⟨[(.kwTable, 74), (.name, 48), (.quotedName, 49)], [], [(.tableName, 75), (.ident, 47)]⟩,
  ⟨[(.name, 48), (.quotedName, 49)], [], [(.ident, 76)]⟩,
  ⟨[(.kwWork, 77)], [(.script (.begin false), lookahead2)], []⟩,
  ⟨[(.kwTransaction, 78)], [], []⟩]

def block1 : Array Row := #[
  ⟨[(.kwWork, 79)], [(.script (.commit false), lookahead2)], []⟩,
  ⟨[(.kwWork, 80)], [(.script (.rollback false), lookahead2)], []⟩,
  ⟨[(.kwSelect, 35), (.kwUpdate, 24), (.kwInsert, 22), (.kwReplace, 23), (.kwDelete, 25)],
    [],
    [(.explainable, 81), (.query, 82), (.insertStatement, 83), (.updateStatement, 84),
    (.deleteStatement, 85), (.selectCore, 21)]⟩,
  ⟨[(.kwAll, 87), (.kwDistinct, 86), (.kwLeft, 129), (.kwRight, 130), (.kwNot, 96),
    (.kwNull, 124), (.kwTrue, 125), (.kwFalse, 126), (.kwExists, 116), (.kwCase, 128),
    (.kwMod, 134), (.kwInsert, 132), (.kwReplace, 133), (.kwValues, 137), (.kwIf, 131),
    (.kwDatabase, 135), (.kwSchema, 136), (.plus, 107), (.minus, 106), (.star, 90), (.bang, 108),
    (.tilde, 109), (.leftParen, 114), (.question, 118), (.number, 120), (.hexNumber, 121),
    (.bitNumber, 122), (.string, 123), (.name, 48), (.quotedName, 49), (.variableName, 119)],
    [],
    [(.selectFields, 88), (.selectField, 89), (.ident, 91), (.expr, 92), (.xorExpr, 93),
    (.andExpr, 94), (.notExpr, 95), (.boolPrimary, 97), (.predicate, 98), (.bitOrExpr, 99),
    (.bitAndExpr, 100), (.shiftExpr, 101), (.sumExpr, 102), (.productExpr, 103),
    (.bitXorExpr, 104), (.unaryExpr, 105), (.simpleExpr, 110), (.literal, 111), (.columnRef, 112),
    (.funcCall, 113), (.subquery, 115), (.caseExpr, 117), (.funcKeyword, 127)]⟩,
  ⟨[(.semicolon, 138)], [(.script (.script true true), lookahead0)], []⟩,
  ⟨[], [(.script (.scriptItems true false), lookahead1)], []⟩,
  ⟨[], [(.script (.scriptItems false true), lookahead1)], []⟩,
  ⟨[(.kwUnion, 41), (.kwExcept, 42), (.kwIntersect, 43)],
    [(.query (.query true), lookahead3)],
    [(.setOperator, 139)]⟩,
  ⟨[(.kwSelect, 35)], [], [(.selectCore, 140)]⟩,
  ⟨[(.kwAll, 141), (.kwDistinct, 142)], [(.query (.setOperator .union none), lookahead4)], []⟩,
  ⟨[(.kwAll, 143), (.kwDistinct, 144)], [(.query (.setOperator .except none), lookahead4)], []⟩,
  ⟨[(.kwAll, 145), (.kwDistinct, 146)], [(.query (.setOperator .intersect none), lookahead4)], []⟩,
  ⟨[(.kwInto, 147), (.name, 48), (.quotedName, 49)], [], [(.tableName, 148), (.ident, 47)]⟩,
  ⟨[(.name, 48), (.quotedName, 49)], [], [(.tableName, 149), (.ident, 47)]⟩,
  ⟨[(.kwSelect, 35), (.kwValues, 153), (.kwValue, 154), (.kwSet, 156), (.leftParen, 152)],
    [],
    [(.columnList, 150), (.insertSource, 151), (.query, 155), (.selectCore, 21)]⟩,
  ⟨[(.dot, 157)], [(.query (.tableName false), lookahead5)], []⟩,
  ⟨[], [(.expr .plainIdent, lookahead6)], []⟩,
  ⟨[], [(.expr .quotedIdent, lookahead6)], []⟩,
  ⟨[(.kwInto, 158), (.name, 48), (.quotedName, 49)], [], [(.tableName, 159), (.ident, 47)]⟩,
  ⟨[(.name, 48), (.quotedName, 49)], [], [(.tableName, 160), (.ident, 47)]⟩,
  ⟨[(.kwSelect, 35), (.kwValues, 153), (.kwValue, 154), (.kwSet, 156), (.leftParen, 152)],
    [],
    [(.columnList, 161), (.insertSource, 162), (.query, 155), (.selectCore, 21)]⟩,
  ⟨[(.leftParen, 60), (.name, 48), (.quotedName, 49)],
    [],
    [(.tableRefs, 163), (.tableRef, 55), (.tableFactor, 56), (.joinTable, 57), (.tableName, 58),
    (.subquery, 59), (.ident, 47)]⟩,
  ⟨[(.kwSet, 164)], [], []⟩,
  ⟨[(.kwJoin, 169), (.kwInner, 168), (.kwCross, 170), (.kwLeft, 171), (.kwRight, 172),
    (.comma, 167)],
    [(.query (.tableRefs false), lookahead7)],
    [(.tableRefTail, 165), (.joinOperator, 166)]⟩,
  ⟨[], [(.query .singleTable, lookahead8)], []⟩,
  ⟨[], [(.query .joinedTable, lookahead8)], []⟩,
  ⟨[(.kwAs, 175), (.kwUse, 180), (.kwForce, 181), (.kwIgnore, 182), (.name, 176),
    (.quotedName, 177)],
    [(.query (.tableSource false false), lookahead9)],
    [(.tableAlias, 173), (.indexHints, 174), (.indexHintRun, 178), (.indexHint, 179)]⟩,
  ⟨[(.kwAs, 175), (.name, 176), (.quotedName, 177)], [], [(.tableAlias, 183)]⟩,
  ⟨[(.kwSelect, 35)], [], [(.query, 184), (.selectCore, 21)]⟩,
  ⟨[(.kwFrom, 185)], [], []⟩,
  ⟨[(.leftParen, 60), (.name, 48), (.quotedName, 49)],
    [],
    [(.tableRefs, 186), (.tableRef, 55), (.tableFactor, 56), (.joinTable, 57), (.tableName, 58),
    (.subquery, 59), (.ident, 47)]⟩,
  ⟨[(.kwTable, 187)], [], []⟩]

def block2 : Array Row := #[
  ⟨[(.kwIf, 190), (.name, 48), (.quotedName, 49)],
    [],
    [(.ifNotExists, 188), (.tableName, 189), (.ident, 47)]⟩,
  ⟨[(.kwIndex, 191)], [], []⟩,
  ⟨[(.name, 48), (.quotedName, 49)], [], [(.ident, 192)]⟩,
  ⟨[(.kwIf, 190), (.name, 48), (.quotedName, 49)], [], [(.ifNotExists, 193), (.ident, 194)]⟩,
  ⟨[(.kwIf, 190), (.name, 48), (.quotedName, 49)], [], [(.ifNotExists, 195), (.ident, 196)]⟩,
  ⟨[(.kwTable, 197)], [], []⟩,
  ⟨[(.kwIf, 200), (.name, 48), (.quotedName, 49)],
    [],
    [(.ifExists, 198), (.tableName, 199), (.ident, 47)]⟩,
  ⟨[(.name, 48), (.quotedName, 49)], [], [(.ident, 201)]⟩,
  ⟨[(.kwIf, 200), (.name, 48), (.quotedName, 49)], [], [(.ifExists, 202), (.ident, 203)]⟩,
  ⟨[(.kwIf, 200), (.name, 48), (.quotedName, 49)], [], [(.ifExists, 204), (.ident, 205)]⟩,
  ⟨[(.name, 48), (.quotedName, 49)], [], [(.tableName, 206), (.ident, 47)]⟩,
  ⟨[], [(.definition (.truncateTable false), lookahead2)], []⟩,
  ⟨[], [(.script .useDatabase, lookahead2)], []⟩,
  ⟨[], [(.script (.begin true), lookahead2)], []⟩,
  ⟨[], [(.script .startTransaction, lookahead2)], []⟩,
  ⟨[], [(.script (.commit true), lookahead2)], []⟩,
  ⟨[], [(.script (.rollback true), lookahead2)], []⟩,
  ⟨[], [(.script .explain, lookahead2)], []⟩,
  ⟨[], [(.script .explainQuery, lookahead2)], []⟩,
  ⟨[], [(.script .explainInsert, lookahead2)], []⟩,
  ⟨[], [(.script .explainUpdate, lookahead2)], []⟩,
  ⟨[], [(.script .explainDelete, lookahead2)], []⟩,
  ⟨[(.kwLeft, 129), (.kwRight, 130), (.kwNot, 96), (.kwNull, 124), (.kwTrue, 125),
    (.kwFalse, 126), (.kwExists, 116), (.kwCase, 128), (.kwMod, 134), (.kwInsert, 132),
    (.kwReplace, 133), (.kwValues, 137), (.kwIf, 131), (.kwDatabase, 135), (.kwSchema, 136),
    (.plus, 107), (.minus, 106), (.star, 90), (.bang, 108), (.tilde, 109), (.leftParen, 114),
    (.question, 118), (.number, 120), (.hexNumber, 121), (.bitNumber, 122), (.string, 123),
    (.name, 48), (.quotedName, 49), (.variableName, 119)],
    [],
    [(.selectFields, 207), (.selectField, 89), (.ident, 91), (.expr, 92), (.xorExpr, 93),
    (.andExpr, 94), (.notExpr, 95), (.boolPrimary, 97), (.predicate, 98), (.bitOrExpr, 99),
    (.bitAndExpr, 100), (.shiftExpr, 101), (.sumExpr, 102), (.productExpr, 103),
    (.bitXorExpr, 104), (.unaryExpr, 105), (.simpleExpr, 110), (.literal, 111), (.columnRef, 112),
    (.funcCall, 113), (.subquery, 115), (.caseExpr, 117), (.funcKeyword, 127)]⟩,
  ⟨[(.kwLeft, 129), (.kwRight, 130), (.kwNot, 96), (.kwNull, 124), (.kwTrue, 125),
    (.kwFalse, 126), (.kwExists, 116), (.kwCase, 128), (.kwMod, 134), (.kwInsert, 132),
    (.kwReplace, 133), (.kwValues, 137), (.kwIf, 131), (.kwDatabase, 135), (.kwSchema, 136),
    (.plus, 107), (.minus, 106), (.star, 90), (.bang, 108), (.tilde, 109), (.leftParen, 114),
    (.question, 118), (.number, 120), (.hexNumber, 121), (.bitNumber, 122), (.string, 123),
    (.name, 48), (.quotedName, 49), (.variableName, 119)],
    [],
    [(.selectFields, 208), (.selectField, 89), (.ident, 91), (.expr, 92), (.xorExpr, 93),
    (.andExpr, 94), (.notExpr, 95), (.boolPrimary, 97), (.predicate, 98), (.bitOrExpr, 99),
    (.bitAndExpr, 100), (.shiftExpr, 101), (.sumExpr, 102), (.productExpr, 103),
    (.bitXorExpr, 104), (.unaryExpr, 105), (.simpleExpr, 110), (.literal, 111), (.columnRef, 112),
    (.funcCall, 113), (.subquery, 115), (.caseExpr, 117), (.funcKeyword, 127)]⟩,
  ⟨[(.kwFrom, 210)], [(.query .noFrom, lookahead10)], [(.optFrom, 209)]⟩,
  ⟨[(.comma, 212)], [(.query (.selectFields false), lookahead11)], [(.selectFieldTail, 211)]⟩,
  ⟨[], [(.query .fieldStar, lookahead12)], []⟩,
  ⟨[(.dot, 213), (.leftParen, 214)], [(.expr .column, lookahead13)], []⟩,
  ⟨[(.kwAs, 217), (.kwOr, 216), (.string, 220), (.name, 218), (.quotedName, 219)],
    [(.query (.fieldExpr false), lookahead12)],
    [(.fieldAlias, 215)]⟩,
  ⟨[(.kwXor, 221)], [(.expr .orOperand, lookahead14)], []⟩,
  ⟨[(.kwAnd, 222)], [(.expr .xorOperand, lookahead15)], []⟩,
  ⟨[], [(.expr .andOperand, lookahead16)], []⟩]

def block3 : Array Row := #[
  ⟨expressionShifts, [],
    [(.notExpr, 223), (.boolPrimary, 97), (.predicate, 98), (.bitOrExpr, 99), (.bitAndExpr, 100),
    (.shiftExpr, 101), (.sumExpr, 102), (.productExpr, 103), (.bitXorExpr, 104), (.unaryExpr, 105),
    (.simpleExpr, 110), (.literal, 111), (.columnRef, 112), (.funcCall, 113), (.subquery, 115),
    (.caseExpr, 117), (.ident, 224), (.funcKeyword, 127)]⟩,
  ⟨[(.kwIs, 225), (.equals, 227), (.comparison, 228)],
    [(.expr .notOperand, lookahead16)],
    [(.comparator, 226)]⟩,
  ⟨[], [(.expr .boolOperand, lookahead17)], []⟩,
  ⟨[(.kwIn, 230), (.kwNot, 229), (.kwBetween, 231), (.kwLike, 232), (.kwRegexp, 233),
    (.pipe, 234)],
    [(.expr .predicateOperand, lookahead17)],
    []⟩,
  ⟨[(.ampersand, 235)], [(.expr .bitOrOperand, lookahead18)], []⟩,
  ⟨[(.shift, 236)], [(.expr .bitAndOperand, lookahead19)], []⟩,
  ⟨[(.plus, 237), (.minus, 238)], [(.expr .shiftOperand, lookahead20)], []⟩,
  ⟨[(.kwDiv, 242), (.kwMod, 243), (.star, 239), (.slash, 240), (.percent, 241)],
    [(.expr .sumOperand, lookahead21)],
    []⟩,
  ⟨[(.caret, 244)], [(.expr .productOperand, lookahead22)], []⟩,
  ⟨[], [(.expr .bitXorOperand, lookahead23)], []⟩,
  ⟨operandShifts, [],
    [(.unaryExpr, 245), (.simpleExpr, 110), (.literal, 111), (.columnRef, 112), (.funcCall, 113),
    (.subquery, 115), (.caseExpr, 117), (.ident, 224), (.funcKeyword, 127)]⟩,
  ⟨operandShifts, [],
    [(.unaryExpr, 246), (.simpleExpr, 110), (.literal, 111), (.columnRef, 112), (.funcCall, 113),
    (.subquery, 115), (.caseExpr, 117), (.ident, 224), (.funcKeyword, 127)]⟩,
  ⟨operandShifts, [],
    [(.unaryExpr, 247), (.simpleExpr, 110), (.literal, 111), (.columnRef, 112), (.funcCall, 113),
    (.subquery, 115), (.caseExpr, 117), (.ident, 224), (.funcKeyword, 127)]⟩,
  ⟨operandShifts, [],
    [(.unaryExpr, 248), (.simpleExpr, 110), (.literal, 111), (.columnRef, 112), (.funcCall, 113),
    (.subquery, 115), (.caseExpr, 117), (.ident, 224), (.funcKeyword, 127)]⟩,
  ⟨[], [(.expr .unaryOperand, lookahead23)], []⟩,
  ⟨[], [(.expr .simpleLiteral, lookahead23)], []⟩,
  ⟨[], [(.expr .simpleColumn, lookahead23)], []⟩,
  ⟨[], [(.expr .simpleCall, lookahead23)], []⟩,
  ⟨[(.kwSelect, 35), (.kwLeft, 129), (.kwRight, 130), (.kwNot, 96), (.kwNull, 124),
    (.kwTrue, 125), (.kwFalse, 126), (.kwExists, 116), (.kwCase, 128), (.kwMod, 134),
    (.kwInsert, 132), (.kwReplace, 133), (.kwValues, 137), (.kwIf, 131), (.kwDatabase, 135),
    (.kwSchema, 136), (.plus, 107), (.minus, 106), (.bang, 108), (.tilde, 109), (.leftParen, 114),
    (.question, 118), (.number, 120), (.hexNumber, 121), (.bitNumber, 122), (.string, 123),
    (.name, 48), (.quotedName, 49), (.variableName, 119)],
    [],
    [(.query, 184), (.expr, 249), (.selectCore, 21), (.xorExpr, 93), (.andExpr, 94),
    (.notExpr, 95), (.boolPrimary, 97), (.predicate, 98), (.bitOrExpr, 99), (.bitAndExpr, 100),
    (.shiftExpr, 101), (.sumExpr, 102), (.productExpr, 103), (.bitXorExpr, 104), (.unaryExpr, 105),
    (.simpleExpr, 110), (.literal, 111), (.columnRef, 112), (.funcCall, 113), (.subquery, 115),
    (.caseExpr, 117), (.ident, 224), (.funcKeyword, 127)]⟩,
  ⟨[], [(.expr .simpleSubquery, lookahead23)], []⟩,
  ⟨[(.leftParen, 60)], [], [(.subquery, 250)]⟩,
  ⟨[], [(.expr .simpleCase, lookahead23)], []⟩,
  ⟨[], [(.expr .marker, lookahead23)], []⟩,
  ⟨[], [(.expr .variableRef, lookahead23)], []⟩,
  ⟨[], [(.expr .number, lookahead24)], []⟩,
  ⟨[], [(.expr .hexNumber, lookahead24)], []⟩,
  ⟨[], [(.expr .bitNumber, lookahead24)], []⟩,
  ⟨[], [(.expr .string, lookahead24)], []⟩,
  ⟨[], [(.expr .null, lookahead24)], []⟩,
  ⟨[], [(.expr (.boolean true), lookahead24)], []⟩,
  ⟨[], [(.expr (.boolean false), lookahead24)], []⟩,
  ⟨[(.leftParen, 251)], [], []⟩]

end SqlSyntax.Grammar.Table
