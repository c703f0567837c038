import SqlSyntax.Grammar.Automaton
import SqlSyntax.Grammar.Table.Lookahead

/-! States 128 to 255 of the automaton of the statement grammar. -/

namespace SqlSyntax.Grammar.Table

def block4 : Array Row := #[
  ⟨[(.kwLeft, 129), (.kwRight, 130), (.kwNot, 96), (.kwNull, 124), (.kwTrue, 125),
    (.kwFalse, 126), (.kwExists, 116), (.kwCase, 128), (.kwWhen, 255), (.kwMod, 134),
    (.kwInsert, 132), (.kwReplace, 133), (.kwValues, 137), (.kwIf, 131), (.kwDatabase, 135),
    (.kwSchema, 136), (.plus, 107), (.minus, 106), (.bang, 108), (.tilde, 109), (.leftParen, 114),
    (.question, 118), (.number, 120), (.hexNumber, 121), (.bitNumber, 122), (.string, 123),
    (.name, 48), (.quotedName, 49), (.variableName, 119)],
    [],
    [(.expr, 252), (.whenRun, 253), (.xorExpr, 93), (.whenClause, 254), (.andExpr, 94),
    (.notExpr, 95), (.boolPrimary, 97), (.predicate, 98), (.bitOrExpr, 99), (.bitAndExpr, 100),
    (.shiftExpr, 101), (.sumExpr, 102), (.productExpr, 103), (.bitXorExpr, 104), (.unaryExpr, 105),
    (.simpleExpr, 110), (.literal, 111), (.columnRef, 112), (.funcCall, 113), (.subquery, 115),
    (.caseExpr, 117), (.ident, 224), (.funcKeyword, 127)]⟩,
  ⟨[], [(.expr (.functionWord .left), lookahead25)], []⟩,
  ⟨[], [(.expr (.functionWord .right), lookahead25)], []⟩,
  ⟨[], [(.expr (.functionWord .if_), lookahead25)], []⟩,
  ⟨[], [(.expr (.functionWord .insert), lookahead25)], []⟩,
  ⟨[], [(.expr (.functionWord .replace), lookahead25)], []⟩,
  ⟨[], [(.expr (.functionWord .mod), lookahead25)], []⟩,
  ⟨[], [(.expr (.functionWord .database), lookahead25)], []⟩,
  ⟨[], [(.expr (.functionWord .schema), lookahead25)], []⟩,
  ⟨[], [(.expr (.functionWord .values), lookahead25)], []⟩,
  ⟨[], [(.script (.scriptItems true true), lookahead1)], []⟩,
  ⟨[(.kwSelect, 35)], [], [(.selectCore, 256)]⟩,
  ⟨[], [(.query (.queryTail false), lookahead26)], []⟩,
  ⟨[], [(.query (.setOperator .union (some .all)), lookahead4)], []⟩,
  ⟨[], [(.query (.setOperator .union (some .distinct)), lookahead4)], []⟩,
  ⟨[], [(.query (.setOperator .except (some .all)), lookahead4)], []⟩,
  ⟨[], [(.query (.setOperator .except (some .distinct)), lookahead4)], []⟩,
  ⟨[], [(.query (.setOperator .intersect (some .all)), lookahead4)], []⟩,
  ⟨[], [(.query (.setOperator .intersect (some .distinct)), lookahead4)], []⟩,
  ⟨[(.name, 48), (.quotedName, 49)], [], [(.tableName, 257), (.ident, 47)]⟩,
  ⟨[(.kwSelect, 35), (.kwValues, 153), (.kwValue, 154), (.kwSet, 156), (.leftParen, 152)],
    [],
    [(.columnList, 258), (.insertSource, 259), (.query, 155), (.selectCore, 21)]⟩,
  ⟨[(.kwSelect, 35), (.kwValues, 153), (.kwValue, 154), (.kwSet, 156), (.leftParen, 152)],
    [],
    [(.columnList, 260), (.insertSource, 261), (.query, 155), (.selectCore, 21)]⟩,
  ⟨[(.kwSelect, 35), (.kwValues, 153), (.kwValue, 154), (.kwSet, 156)],
    [],
    [(.insertSource, 262), (.query, 155), (.selectCore, 21)]⟩,
  ⟨[(.kwOn, 264)],
    [(.manipulation (.insertStatement false false false false false), lookahead2)],
    [(.onDuplicate, 263)]⟩,
  ⟨[(.rightParen, 265), (.name, 48), (.quotedName, 49)], [], [(.identList, 266), (.ident, 267)]⟩,
  ⟨[(.leftParen, 269)], [], [(.valueRow, 268)]⟩,
  ⟨[(.leftParen, 269)], [], [(.valueRow, 270)]⟩,
  ⟨[], [(.manipulation .insertQuery, lookahead27)], []⟩,
  ⟨[(.name, 48), (.quotedName, 49)], [], [(.assignment, 271), (.columnRef, 272), (.ident, 273)]⟩,
  ⟨[(.name, 48), (.quotedName, 49)], [], [(.ident, 274)]⟩,
  ⟨[(.name, 48), (.quotedName, 49)], [], [(.tableName, 275), (.ident, 47)]⟩,
  ⟨[(.kwSelect, 35), (.kwValues, 153), (.kwValue, 154), (.kwSet, 156), (.leftParen, 152)],
    [],
    [(.columnList, 276), (.insertSource, 277), (.query, 155), (.selectCore, 21)]⟩]

def block5 : Array Row := #[
  ⟨[(.kwSelect, 35), (.kwValues, 153), (.kwValue, 154), (.kwSet, 156), (.leftParen, 152)],
    [],
    [(.columnList, 278), (.insertSource, 279), (.query, 155), (.selectCore, 21)]⟩,
  ⟨[(.kwSelect, 35), (.kwValues, 153), (.kwValue, 154), (.kwSet, 156)],
    [],
    [(.insertSource, 280), (.query, 155), (.selectCore, 21)]⟩,
  ⟨[(.kwOn, 264)],
    [(.manipulation (.insertStatement true false false false false), lookahead2)],
    [(.onDuplicate, 281)]⟩,
  ⟨[(.kwSet, 282)], [], []⟩,
  ⟨[(.name, 48), (.quotedName, 49)], [], [(.assignment, 283), (.columnRef, 272), (.ident, 273)]⟩,
  ⟨[(.comma, 284)], [(.query (.tableRefs true), lookahead7)], []⟩,
  ⟨[(.leftParen, 60), (.name, 48), (.quotedName, 49)],
    [],
    [(.tableFactor, 285), (.tableName, 58), (.subquery, 59), (.ident, 47)]⟩,
  ⟨[(.leftParen, 60), (.name, 48), (.quotedName, 49)],
    [],
    [(.tableRef, 286), (.tableFactor, 56), (.joinTable, 57), (.tableName, 58), (.subquery, 59),
    (.ident, 47)]⟩,
  ⟨[(.kwJoin, 287)], [], []⟩,
  ⟨[], [(.query (.joinInner false), lookahead28)], []⟩,
  ⟨[(.kwJoin, 288)], [], []⟩,
  ⟨[(.kwJoin, 290), (.kwOuter, 289)], [], []⟩,
  ⟨[(.kwJoin, 292), (.kwOuter, 291)], [], []⟩,
  ⟨[(.kwUse, 180), (.kwForce, 181), (.kwIgnore, 182)],
    [(.query (.tableSource true false), lookahead9)],
    [(.indexHints, 293), (.indexHintRun, 178), (.indexHint, 179)]⟩,
  ⟨[], [(.query (.tableSource false true), lookahead9)], []⟩,
  ⟨[(.name, 294), (.quotedName, 295)], [], []⟩,
  ⟨[], [(.query (.tableAlias false false), lookahead29)], []⟩,
  ⟨[], [(.query (.tableAlias false true), lookahead29)], []⟩,
  ⟨[(.kwUse, 180), (.kwForce, 181), (.kwIgnore, 182)],
    [(.query .indexHints, lookahead9)],
    [(.indexHint, 296)]⟩,
  ⟨[], [(.query (.indexHintRun false), lookahead29)], []⟩,
  ⟨[(.kwIndex, 297), (.kwKey, 298)], [], []⟩,
  ⟨[(.kwIndex, 299), (.kwKey, 300)], [], []⟩,
  ⟨[(.kwIndex, 301), (.kwKey, 302)], [], []⟩,
  ⟨[], [(.query .derivedTable, lookahead9)], []⟩,
  ⟨[(.rightParen, 303)], [], []⟩,
  ⟨[(.leftParen, 60), (.name, 48), (.quotedName, 49)],
    [],
    [(.tableRefs, 304), (.tableRef, 55), (.tableFactor, 56), (.joinTable, 57), (.tableName, 58),
    (.subquery, 59), (.ident, 47)]⟩,
  ⟨[(.kwWhere, 306)], [(.query .noWhere, lookahead30)], [(.optWhere, 305)]⟩,
  ⟨[(.kwIf, 190), (.name, 48), (.quotedName, 49)],
    [],
    [(.ifNotExists, 307), (.tableName, 308), (.ident, 47)]⟩,
  ⟨[(.name, 48), (.quotedName, 49)], [], [(.tableName, 309), (.ident, 47)]⟩,
  ⟨[(.leftParen, 310)], [], []⟩,
  ⟨[(.kwNot, 311)], [], []⟩,
  ⟨[(.name, 48), (.quotedName, 49)], [], [(.ident, 312)]⟩]

def block6 : Array Row := #[
  ⟨[(.kwOn, 313)], [], []⟩,
  ⟨[(.name, 48), (.quotedName, 49)], [], [(.ident, 314)]⟩,
  ⟨[], [(.definition (.createDatabase false false), lookahead2)], []⟩,
  ⟨[(.name, 48), (.quotedName, 49)], [], [(.ident, 315)]⟩,
  ⟨[], [(.definition (.createDatabase true false), lookahead2)], []⟩,
  ⟨[(.kwIf, 200), (.name, 48), (.quotedName, 49)],
    [],
    [(.ifExists, 316), (.tableName, 317), (.ident, 47)]⟩,
  ⟨[(.name, 48), (.quotedName, 49)], [], [(.tableName, 318), (.ident, 47)]⟩,
  ⟨[(.comma, 320)],
    [(.definition (.dropTable false false false), lookahead2)],
    [(.tableNameTail, 319)]⟩,
  ⟨[(.kwExists, 321)], [], []⟩,
  ⟨[(.kwOn, 322)], [], []⟩,
  ⟨[(.name, 48), (.quotedName, 49)], [], [(.ident, 323)]⟩,
  ⟨[], [(.definition (.dropDatabase false false), lookahead2)], []⟩,
  ⟨[(.name, 48), (.quotedName, 49)], [], [(.ident, 324)]⟩,
  ⟨[], [(.definition (.dropDatabase true false), lookahead2)], []⟩,
  ⟨[], [(.definition (.truncateTable true), lookahead2)], []⟩,
  ⟨[(.kwFrom, 210)], [(.query .noFrom, lookahead10)], [(.optFrom, 325)]⟩,
  ⟨[(.kwFrom, 210)], [(.query .noFrom, lookahead10)], [(.optFrom, 326)]⟩,
  ⟨[(.kwWhere, 306)], [(.query .noWhere, lookahead31)], [(.optWhere, 327)]⟩,
  ⟨[(.leftParen, 60), (.name, 48), (.quotedName, 49)],
    [],
    [(.tableRefs, 328), (.tableRef, 55), (.tableFactor, 56), (.joinTable, 57), (.tableName, 58),
    (.subquery, 59), (.ident, 47)]⟩,
  ⟨[(.comma, 329)], [(.query (.selectFields true), lookahead11)], []⟩,
  ⟨[(.kwLeft, 129), (.kwRight, 130), (.kwNot, 96), (.kwNull, 124), (.kwTrue, 125),
    (.kwFalse, 126), (.kwExists, 116), (.kwCase, 128), (.kwMod, 134), (.kwInsert, 132),
    (.kwReplace, 133), (.kwValues, 137), (.kwIf, 131), (.kwDatabase, 135), (.kwSchema, 136),
    (.plus, 107), (.minus, 106), (.star, 90), (.bang, 108), (.tilde, 109), (.leftParen, 114),
    (.question, 118), (.number, 120), (.hexNumber, 121), (.bitNumber, 122), (.string, 123),
    (.name, 48), (.quotedName, 49), (.variableName, 119)],
    [],
    [(.selectField, 330), (.ident, 91), (.expr, 92), (.xorExpr, 93), (.andExpr, 94),
    (.notExpr, 95), (.boolPrimary, 97), (.predicate, 98), (.bitOrExpr, 99), (.bitAndExpr, 100),
    (.shiftExpr, 101), (.sumExpr, 102), (.productExpr, 103), (.bitXorExpr, 104), (.unaryExpr, 105),
    (.simpleExpr, 110), (.literal, 111), (.columnRef, 112), (.funcCall, 113), (.subquery, 115),
    (.caseExpr, 117), (.funcKeyword, 127)]⟩,
  ⟨[(.star, 331), (.name, 48), (.quotedName, 49)], [], [(.ident, 332)]⟩,
  ⟨[(.kwDistinct, 333), (.kwLeft, 129), (.kwRight, 130), (.kwNot, 96), (.kwNull, 124),
    (.kwTrue, 125), (.kwFalse, 126), (.kwExists, 116), (.kwCase, 128), (.kwMod, 134),
    (.kwInsert, 132), (.kwReplace, 133), (.kwValues, 137), (.kwIf, 131), (.kwDatabase, 135),
    (.kwSchema, 136), (.plus, 107), (.minus, 106), (.star, 336), (.bang, 108), (.tilde, 109),
    (.leftParen, 114), (.rightParen, 335), (.question, 118), (.number, 120), (.hexNumber, 121),
    (.bitNumber, 122), (.string, 123), (.name, 48), (.quotedName, 49), (.variableName, 119)],
    [],
    [(.funcArgs, 334), (.exprList, 337), (.expr, 338), (.xorExpr, 93), (.andExpr, 94),
    (.notExpr, 95), (.boolPrimary, 97), (.predicate, 98), (.bitOrExpr, 99), (.bitAndExpr, 100),
    (.shiftExpr, 101), (.sumExpr, 102), (.productExpr, 103), (.bitXorExpr, 104), (.unaryExpr, 105),
    (.simpleExpr, 110), (.literal, 111), (.columnRef, 112), (.funcCall, 113), (.subquery, 115),
    (.caseExpr, 117), (.ident, 224), (.funcKeyword, 127)]⟩,
  ⟨[], [(.query (.fieldExpr true), lookahead12)], []⟩,
  ⟨expressionShifts, [],
    [(.xorExpr, 339), (.andExpr, 94), (.notExpr, 95), (.boolPrimary, 97), (.predicate, 98),
    (.bitOrExpr, 99), (.bitAndExpr, 100), (.shiftExpr, 101), (.sumExpr, 102), (.productExpr, 103),
    (.bitXorExpr, 104), (.unaryExpr, 105), (.simpleExpr, 110), (.literal, 111), (.columnRef, 112),
    (.funcCall, 113), (.subquery, 115), (.caseExpr, 117), (.ident, 224), (.funcKeyword, 127)]⟩,
  ⟨[(.string, 342), (.name, 340), (.quotedName, 341)], [], []⟩,
  ⟨[], [(.query (.fieldAlias false .plain), lookahead12)], []⟩,
  ⟨[], [(.query (.fieldAlias false .quoted), lookahead12)], []⟩,
  ⟨[], [(.query (.fieldAlias false .string), lookahead12)], []⟩,
  ⟨expressionShifts, [],
    [(.andExpr, 343), (.notExpr, 95), (.boolPrimary, 97), (.predicate, 98), (.bitOrExpr, 99),
    (.bitAndExpr, 100), (.shiftExpr, 101), (.sumExpr, 102), (.productExpr, 103),
    (.bitXorExpr, 104), (.unaryExpr, 105), (.simpleExpr, 110), (.literal, 111), (.columnRef, 112),
    (.funcCall, 113), (.subquery, 115), (.caseExpr, 117), (.ident, 224), (.funcKeyword, 127)]⟩,
  ⟨expressionShifts, [],
    [(.notExpr, 344), (.boolPrimary, 97), (.predicate, 98), (.bitOrExpr, 99), (.bitAndExpr, 100),
    (.shiftExpr, 101), (.sumExpr, 102), (.productExpr, 103), (.bitXorExpr, 104), (.unaryExpr, 105),
    (.simpleExpr, 110), (.literal, 111), (.columnRef, 112), (.funcCall, 113), (.subquery, 115),
    (.caseExpr, 117), (.ident, 224), (.funcKeyword, 127)]⟩,
  ⟨[], [(.expr .logicNot, lookahead16)], []⟩]

def block7 : Array Row := #[
  ⟨[(.dot, 345), (.leftParen, 214)], [(.expr .column, lookahead23)], []⟩,
  ⟨[(.kwNot, 346), (.kwNull, 347), (.kwTrue, 348), (.kwFalse, 349)], [], []⟩,
  ⟨operandShifts, [],
    [(.predicate, 350), (.bitOrExpr, 99), (.bitAndExpr, 100), (.shiftExpr, 101), (.sumExpr, 102),
    (.productExpr, 103), (.bitXorExpr, 104), (.unaryExpr, 105), (.simpleExpr, 110),
    (.literal, 111), (.columnRef, 112), (.funcCall, 113), (.subquery, 115), (.caseExpr, 117),
    (.ident, 224), (.funcKeyword, 127)]⟩,
  ⟨[], [(.expr .equals, lookahead32)], []⟩,
  ⟨[], [(.expr .comparison, lookahead32)], []⟩,
  ⟨[(.kwIn, 351), (.kwBetween, 352), (.kwLike, 353), (.kwRegexp, 354)], [], []⟩,
  ⟨[(.leftParen, 355)], [], [(.subquery, 356)]⟩,
  ⟨operandShifts, [],
    [(.bitOrExpr, 357), (.bitAndExpr, 100), (.shiftExpr, 101), (.sumExpr, 102),
    (.productExpr, 103), (.bitXorExpr, 104), (.unaryExpr, 105), (.simpleExpr, 110),
    (.literal, 111), (.columnRef, 112), (.funcCall, 113), (.subquery, 115), (.caseExpr, 117),
    (.ident, 224), (.funcKeyword, 127)]⟩,
  ⟨operandShifts, [],
    [(.bitOrExpr, 358), (.bitAndExpr, 100), (.shiftExpr, 101), (.sumExpr, 102),
    (.productExpr, 103), (.bitXorExpr, 104), (.unaryExpr, 105), (.simpleExpr, 110),
    (.literal, 111), (.columnRef, 112), (.funcCall, 113), (.subquery, 115), (.caseExpr, 117),
    (.ident, 224), (.funcKeyword, 127)]⟩,
  ⟨operandShifts, [],
    [(.bitOrExpr, 359), (.bitAndExpr, 100), (.shiftExpr, 101), (.sumExpr, 102),
    (.productExpr, 103), (.bitXorExpr, 104), (.unaryExpr, 105), (.simpleExpr, 110),
    (.literal, 111), (.columnRef, 112), (.funcCall, 113), (.subquery, 115), (.caseExpr, 117),
    (.ident, 224), (.funcKeyword, 127)]⟩,
  ⟨operandShifts, [],
    [(.bitAndExpr, 360), (.shiftExpr, 101), (.sumExpr, 102), (.productExpr, 103),
    (.bitXorExpr, 104), (.unaryExpr, 105), (.simpleExpr, 110), (.literal, 111), (.columnRef, 112),
    (.funcCall, 113), (.subquery, 115), (.caseExpr, 117), (.ident, 224), (.funcKeyword, 127)]⟩,
  ⟨operandShifts, [],
    [(.shiftExpr, 361), (.sumExpr, 102), (.productExpr, 103), (.bitXorExpr, 104),
    (.unaryExpr, 105), (.simpleExpr, 110), (.literal, 111), (.columnRef, 112), (.funcCall, 113),
    (.subquery, 115), (.caseExpr, 117), (.ident, 224), (.funcKeyword, 127)]⟩,
  ⟨operandShifts, [],
    [(.sumExpr, 362), (.productExpr, 103), (.bitXorExpr, 104), (.unaryExpr, 105),
    (.simpleExpr, 110), (.literal, 111), (.columnRef, 112), (.funcCall, 113), (.subquery, 115),
    (.caseExpr, 117), (.ident, 224), (.funcKeyword, 127)]⟩,
  ⟨operandShifts, [],
    [(.productExpr, 363), (.bitXorExpr, 104), (.unaryExpr, 105), (.simpleExpr, 110),
    (.literal, 111), (.columnRef, 112), (.funcCall, 113), (.subquery, 115), (.caseExpr, 117),
    (.ident, 224), (.funcKeyword, 127)]⟩,
  ⟨operandShifts, [],
    [(.productExpr, 364), (.bitXorExpr, 104), (.unaryExpr, 105), (.simpleExpr, 110),
    (.literal, 111), (.columnRef, 112), (.funcCall, 113), (.subquery, 115), (.caseExpr, 117),
    (.ident, 224), (.funcKeyword, 127)]⟩,
  ⟨operandShifts, [],
    [(.bitXorExpr, 365), (.unaryExpr, 105), (.simpleExpr, 110), (.literal, 111), (.columnRef, 112),
    (.funcCall, 113), (.subquery, 115), (.caseExpr, 117), (.ident, 224), (.funcKeyword, 127)]⟩,
  ⟨operandShifts, [],
    [(.bitXorExpr, 366), (.unaryExpr, 105), (.simpleExpr, 110), (.literal, 111), (.columnRef, 112),
    (.funcCall, 113), (.subquery, 115), (.caseExpr, 117), (.ident, 224), (.funcKeyword, 127)]⟩,
  ⟨operandShifts, [],
    [(.bitXorExpr, 367), (.unaryExpr, 105), (.simpleExpr, 110), (.literal, 111), (.columnRef, 112),
    (.funcCall, 113), (.subquery, 115), (.caseExpr, 117), (.ident, 224), (.funcKeyword, 127)]⟩,
  ⟨operandShifts, [],
    [(.bitXorExpr, 368), (.unaryExpr, 105), (.simpleExpr, 110), (.literal, 111), (.columnRef, 112),
    (.funcCall, 113), (.subquery, 115), (.caseExpr, 117), (.ident, 224), (.funcKeyword, 127)]⟩,
  ⟨operandShifts, [],
    [(.bitXorExpr, 369), (.unaryExpr, 105), (.simpleExpr, 110), (.literal, 111), (.columnRef, 112),
    (.funcCall, 113), (.subquery, 115), (.caseExpr, 117), (.ident, 224), (.funcKeyword, 127)]⟩,
  ⟨operandShifts, [],
    [(.unaryExpr, 370), (.simpleExpr, 110), (.literal, 111), (.columnRef, 112), (.funcCall, 113),
    (.subquery, 115), (.caseExpr, 117), (.ident, 224), (.funcKeyword, 127)]⟩,
  ⟨[], [(.expr (.sign .minus), lookahead23)], []⟩,
  ⟨[], [(.expr (.sign .plus), lookahead23)], []⟩,
  ⟨[], [(.expr (.sign .bang), lookahead23)], []⟩,
  ⟨[], [(.expr (.sign .tilde), lookahead23)], []⟩,
  ⟨[(.kwOr, 216), (.comma, 372), (.rightParen, 371)], [], []⟩,
  ⟨[], [(.expr .existsQuery, lookahead23)], []⟩,
  ⟨[(.kwDistinct, 373), (.kwLeft, 129), (.kwRight, 130), (.kwNot, 96), (.kwNull, 124),
    (.kwTrue, 125), (.kwFalse, 126), (.kwExists, 116), (.kwCase, 128), (.kwMod, 134),
    (.kwInsert, 132), (.kwReplace, 133), (.kwValues, 137), (.kwIf, 131), (.kwDatabase, 135),
    (.kwSchema, 136), (.plus, 107), (.minus, 106), (.star, 336), (.bang, 108), (.tilde, 109),
    (.leftParen, 114), (.rightParen, 375), (.question, 118), (.number, 120), (.hexNumber, 121),
    (.bitNumber, 122), (.string, 123), (.name, 48), (.quotedName, 49), (.variableName, 119)],
    [],
    [(.funcArgs, 374), (.exprList, 337), (.expr, 338), (.xorExpr, 93), (.andExpr, 94),
    (.notExpr, 95), (.boolPrimary, 97), (.predicate, 98), (.bitOrExpr, 99), (.bitAndExpr, 100),
    (.shiftExpr, 101), (.sumExpr, 102), (.productExpr, 103), (.bitXorExpr, 104), (.unaryExpr, 105),
    (.simpleExpr, 110), (.literal, 111), (.columnRef, 112), (.funcCall, 113), (.subquery, 115),
    (.caseExpr, 117), (.ident, 224), (.funcKeyword, 127)]⟩,
  ⟨[(.kwOr, 216), (.kwWhen, 255)], [], [(.whenRun, 376), (.whenClause, 254)]⟩,
  ⟨[(.kwWhen, 255), (.kwElse, 377), (.kwEnd, 378)], [], [(.whenClause, 379)]⟩,
  ⟨[], [(.expr (.whenRun false), lookahead33)], []⟩,
  ⟨expressionShifts, [],
    [(.expr, 380), (.xorExpr, 93), (.andExpr, 94), (.notExpr, 95), (.boolPrimary, 97),
    (.predicate, 98), (.bitOrExpr, 99), (.bitAndExpr, 100), (.shiftExpr, 101), (.sumExpr, 102),
    (.productExpr, 103), (.bitXorExpr, 104), (.unaryExpr, 105), (.simpleExpr, 110),
    (.literal, 111), (.columnRef, 112), (.funcCall, 113), (.subquery, 115), (.caseExpr, 117),
    (.ident, 224), (.funcKeyword, 127)]⟩]

end SqlSyntax.Grammar.Table
