import SqlSyntax.Grammar.Automaton
import SqlSyntax.Grammar.Table.Lookahead

/-! States 256 to 383 of the automaton of the statement grammar. -/

namespace SqlSyntax.Grammar.Table

def block8 : Array Row := #[
  ⟨[], [(.query (.queryTail true), lookahead26)], []⟩,
  ⟨[(.kwSelect, 35), (.kwValues, 153), (.kwValue, 154), (.kwSet, 156), (.leftParen, 152)],
    [],
    [(.columnList, 381), (.insertSource, 382), (.query, 155), (.selectCore, 21)]⟩,
  ⟨[(.kwSelect, 35), (.kwValues, 153), (.kwValue, 154), (.kwSet, 156)],
    [],
    [(.insertSource, 383), (.query, 155), (.selectCore, 21)]⟩,
  ⟨[(.kwOn, 264)],
    [(.manipulation (.insertStatement false true false false false), lookahead2)],
    [(.onDuplicate, 384)]⟩,
  ⟨[(.kwSelect, 35), (.kwValues, 153), (.kwValue, 154), (.kwSet, 156)],
    [],
    [(.insertSource, 385), (.query, 155), (.selectCore, 21)]⟩,
  ⟨[(.kwOn, 264)],
    [(.manipulation (.insertStatement false false true false false), lookahead2)],
    [(.onDuplicate, 386)]⟩,
  ⟨[(.kwOn, 264)],
    [(.manipulation (.insertStatement false false false true false), lookahead2)],
    [(.onDuplicate, 387)]⟩,
  ⟨[], [(.manipulation (.insertStatement false false false false true), lookahead2)], []⟩,
  ⟨[(.kwDuplicate, 388)], [], []⟩,
  ⟨[], [(.manipulation .noColumns, lookahead34)], []⟩,
  ⟨[(.rightParen, 389)], [], []⟩,
  ⟨[(.comma, 391)], [(.expr (.identList false), lookahead35)], [(.identTail, 390)]⟩,
  ⟨[(.comma, 393)],
    [(.manipulation (.insertValues true false), lookahead27)],
    [(.valueRowTail, 392)]⟩,
  ⟨[(.kwLeft, 129), (.kwRight, 130), (.kwNot, 96), (.kwNull, 124), (.kwTrue, 125),
    (.kwFalse, 126), (.kwExists, 116), (.kwCase, 128), (.kwMod, 134), (.kwInsert, 132),
    (.kwReplace, 133), (.kwValues, 137), (.kwDefault, 397), (.kwIf, 131), (.kwDatabase, 135),
    (.kwSchema, 136), (.plus, 107), (.minus, 106), (.bang, 108), (.tilde, 109), (.leftParen, 114),
    (.rightParen, 394), (.question, 118), (.number, 120), (.hexNumber, 121), (.bitNumber, 122),
    (.string, 123), (.name, 48), (.quotedName, 49), (.variableName, 119)],
    [],
    [(.valueOrDefault, 395), (.expr, 396), (.xorExpr, 93), (.andExpr, 94), (.notExpr, 95),
    (.boolPrimary, 97), (.predicate, 98), (.bitOrExpr, 99), (.bitAndExpr, 100), (.shiftExpr, 101),
    (.sumExpr, 102), (.productExpr, 103), (.bitXorExpr, 104), (.unaryExpr, 105),
    (.simpleExpr, 110), (.literal, 111), (.columnRef, 112), (.funcCall, 113), (.subquery, 115),
    (.caseExpr, 117), (.ident, 224), (.funcKeyword, 127)]⟩,
  ⟨[(.comma, 393)],
    [(.manipulation (.insertValues false false), lookahead27)],
    [(.valueRowTail, 398)]⟩,
  ⟨[(.comma, 400)],
    [(.manipulation (.insertAssignments false), lookahead27)],
    [(.assignmentTail, 399)]⟩,
  ⟨[(.equals, 401)], [], []⟩,
  ⟨[(.dot, 345)], [(.expr .column, lookahead36)], []⟩,
  ⟨[], [(.query (.tableName true), lookahead5)], []⟩,
  ⟨[(.kwSelect, 35), (.kwValues, 153), (.kwValue, 154), (.kwSet, 156), (.leftParen, 152)],
    [],
    [(.columnList, 402), (.insertSource, 403), (.query, 155), (.selectCore, 21)]⟩,
  ⟨[(.kwSelect, 35), (.kwValues, 153), (.kwValue, 154), (.kwSet, 156)],
    [],
    [(.insertSource, 404), (.query, 155), (.selectCore, 21)]⟩,
  ⟨[(.kwOn, 264)],
    [(.manipulation (.insertStatement true true false false false), lookahead2)],
    [(.onDuplicate, 405)]⟩,
  ⟨[(.kwSelect, 35), (.kwValues, 153), (.kwValue, 154), (.kwSet, 156)],
    [],
    [(.insertSource, 406), (.query, 155), (.selectCore, 21)]⟩,
  ⟨[(.kwOn, 264)],
    [(.manipulation (.insertStatement true false true false false), lookahead2)],
    [(.onDuplicate, 407)]⟩,
  ⟨[(.kwOn, 264)],
    [(.manipulation (.insertStatement true false false true false), lookahead2)],
    [(.onDuplicate, 408)]⟩,
  ⟨[], [(.manipulation (.insertStatement true false false false true), lookahead2)], []⟩,
  ⟨[(.name, 48), (.quotedName, 49)], [], [(.assignment, 409), (.columnRef, 272), (.ident, 273)]⟩,
  ⟨[(.kwWhere, 306), (.comma, 400)],
    [(.query .noWhere, lookahead30)],
    [(.assignmentTail, 410), (.optWhere, 411)]⟩,
  ⟨[(.leftParen, 60), (.name, 48), (.quotedName, 49)],
    [],
    [(.tableRef, 412), (.tableFactor, 56), (.joinTable, 57), (.tableName, 58), (.subquery, 59),
    (.ident, 47)]⟩,
  ⟨[(.kwOn, 414), (.kwUsing, 415)],
    [(.query (.joinTable false), lookahead37)],
    [(.joinCondition, 413)]⟩,
  ⟨[(.kwJoin, 169), (.kwInner, 168), (.kwCross, 170), (.kwLeft, 171), (.kwRight, 172)],
    [(.query (.tableRefTail false), lookahead38)],
    [(.joinOperator, 166)]⟩,
  ⟨[], [(.query (.joinInner true), lookahead28)], []⟩]

def block9 : Array Row := #[
  ⟨[], [(.query .joinCross, lookahead28)], []⟩,
  ⟨[(.kwJoin, 416)], [], []⟩,
  ⟨[], [(.query (.joinLeft false), lookahead28)], []⟩,
  ⟨[(.kwJoin, 417)], [], []⟩,
  ⟨[], [(.query (.joinRight false), lookahead28)], []⟩,
  ⟨[], [(.query (.tableSource true true), lookahead9)], []⟩,
  ⟨[], [(.query (.tableAlias true false), lookahead29)], []⟩,
  ⟨[], [(.query (.tableAlias true true), lookahead29)], []⟩,
  ⟨[], [(.query (.indexHintRun true), lookahead29)], []⟩,
  ⟨[(.kwFor, 418), (.leftParen, 419)], [], []⟩,
  ⟨[(.kwFor, 420), (.leftParen, 421)], [], []⟩,
  ⟨[(.kwFor, 422), (.leftParen, 423)], [], []⟩,
  ⟨[(.kwFor, 424), (.leftParen, 425)], [], []⟩,
  ⟨[(.kwFor, 426), (.leftParen, 427)], [], []⟩,
  ⟨[(.kwFor, 428), (.leftParen, 429)], [], []⟩,
  ⟨[], [(.query .subquery, lookahead23)], []⟩,
  ⟨[(.kwWhere, 306)], [(.query .noWhere, lookahead30)], [(.optWhere, 430)]⟩,
  ⟨[(.kwOrder, 433)], [(.query .noOrder, lookahead39)], [(.optOrderBy, 431), (.orderBy, 432)]⟩,
  ⟨expressionShifts, [],
    [(.expr, 434), (.xorExpr, 93), (.andExpr, 94), (.notExpr, 95), (.boolPrimary, 97),
    (.predicate, 98), (.bitOrExpr, 99), (.bitAndExpr, 100), (.shiftExpr, 101), (.sumExpr, 102),
    (.productExpr, 103), (.bitXorExpr, 104), (.unaryExpr, 105), (.simpleExpr, 110),
    (.literal, 111), (.columnRef, 112), (.funcCall, 113), (.subquery, 115), (.caseExpr, 117),
    (.ident, 224), (.funcKeyword, 127)]⟩,
  ⟨[(.name, 48), (.quotedName, 49)], [], [(.tableName, 435), (.ident, 47)]⟩,
  ⟨[(.leftParen, 436)], [], []⟩,
  ⟨[(.leftParen, 437)], [], []⟩,
  ⟨[(.kwIndex, 447), (.kwKey, 446), (.kwPrimary, 444), (.kwUnique, 445), (.kwConstraint, 442),
    (.kwForeign, 448), (.name, 48), (.quotedName, 49)],
    [],
    [(.tableElement, 438), (.columnDef, 439), (.constraint, 440), (.ident, 441),
    (.constraintBody, 443)]⟩,
  ⟨[(.kwExists, 449)], [], []⟩,
  ⟨[(.kwOn, 450)], [], []⟩,
  ⟨[(.name, 48), (.quotedName, 49)], [], [(.tableName, 451), (.ident, 47)]⟩,
  ⟨[], [(.definition (.createDatabase false true), lookahead2)], []⟩,
  ⟨[], [(.definition (.createDatabase true true), lookahead2)], []⟩,
  ⟨[(.name, 48), (.quotedName, 49)], [], [(.tableName, 452), (.ident, 47)]⟩,
  ⟨[(.comma, 320)],
    [(.definition (.dropTable true false false), lookahead2)],
    [(.tableNameTail, 453)]⟩,
  ⟨[(.comma, 320)],
    [(.definition (.dropTable false true false), lookahead2)],
    [(.tableNameTail, 454)]⟩,
  ⟨[(.comma, 455)], [(.definition (.dropTable false false true), lookahead2)], []⟩]

def block10 : Array Row := #[
  ⟨[(.name, 48), (.quotedName, 49)], [], [(.tableName, 456), (.ident, 47)]⟩,
  ⟨[], [(.definition .ifExists, lookahead40)], []⟩,
  ⟨[(.name, 48), (.quotedName, 49)], [], [(.tableName, 457), (.ident, 47)]⟩,
  ⟨[], [(.definition (.dropDatabase false true), lookahead2)], []⟩,
  ⟨[], [(.definition (.dropDatabase true true), lookahead2)], []⟩,
  ⟨[(.kwWhere, 306)], [(.query .noWhere, lookahead31)], [(.optWhere, 458)]⟩,
  ⟨[(.kwWhere, 306)], [(.query .noWhere, lookahead31)], [(.optWhere, 459)]⟩,
  ⟨[(.kwGroup, 462)], [(.query .noGroup, lookahead41)], [(.optGroupBy, 460), (.groupBy, 461)]⟩,
  ⟨[], [(.query .fromClause, lookahead10)], []⟩,
  ⟨[(.kwLeft, 129), (.kwRight, 130), (.kwNot, 96), (.kwNull, 124), (.kwTrue, 125),
    (.kwFalse, 126), (.kwExists, 116), (.kwCase, 128), (.kwMod, 134), (.kwInsert, 132),
    (.kwReplace, 133), (.kwValues, 137), (.kwIf, 131), (.kwDatabase, 135), (.kwSchema, 136),
    (.plus, 107), (.minus, 106), (.star, 90), (.bang, 108), (.tilde, 109), (.leftParen, 114),
    (.question, 118), (.number, 120), (.hexNumber, 121), (.bitNumber, 122), (.string, 123),
    (.name, 48), (.quotedName, 49), (.variableName, 119)],
    [],
    [(.selectField, 463), (.ident, 91), (.expr, 92), (.xorExpr, 93), (.andExpr, 94),
    (.notExpr, 95), (.boolPrimary, 97), (.predicate, 98), (.bitOrExpr, 99), (.bitAndExpr, 100),
    (.shiftExpr, 101), (.sumExpr, 102), (.productExpr, 103), (.bitXorExpr, 104), (.unaryExpr, 105),
    (.simpleExpr, 110), (.literal, 111), (.columnRef, 112), (.funcCall, 113), (.subquery, 115),
    (.caseExpr, 117), (.funcKeyword, 127)]⟩,
  ⟨[], [(.query (.selectFieldTail false), lookahead12)], []⟩,
  ⟨[], [(.query .fieldTableStar, lookahead12)], []⟩,
  ⟨[(.dot, 464)], [(.expr .tableColumn, lookahead13)], []⟩,
  ⟨[(.kwLeft, 129), (.kwRight, 130), (.kwNot, 96), (.kwNull, 124), (.kwTrue, 125),
    (.kwFalse, 126), (.kwExists, 116), (.kwCase, 128), (.kwMod, 134), (.kwInsert, 132),
    (.kwReplace, 133), (.kwValues, 137), (.kwIf, 131), (.kwDatabase, 135), (.kwSchema, 136),
    (.plus, 107), (.minus, 106), (.star, 336), (.bang, 108), (.tilde, 109), (.leftParen, 114),
    (.rightParen, 466), (.question, 118), (.number, 120), (.hexNumber, 121), (.bitNumber, 122),
    (.string, 123), (.name, 48), (.quotedName, 49), (.variableName, 119)],
    [],
    [(.funcArgs, 465), (.exprList, 337), (.expr, 338), (.xorExpr, 93), (.andExpr, 94),
    (.notExpr, 95), (.boolPrimary, 97), (.predicate, 98), (.bitOrExpr, 99), (.bitAndExpr, 100),
    (.shiftExpr, 101), (.sumExpr, 102), (.productExpr, 103), (.bitXorExpr, 104), (.unaryExpr, 105),
    (.simpleExpr, 110), (.literal, 111), (.columnRef, 112), (.funcCall, 113), (.subquery, 115),
    (.caseExpr, 117), (.ident, 224), (.funcKeyword, 127)]⟩,
  ⟨[(.rightParen, 467)], [], []⟩,
  ⟨[], [(.expr (.call false false), lookahead24)], []⟩,
  ⟨[], [(.expr .starArgument, lookahead35)], []⟩,
  ⟨[], [(.expr .arguments, lookahead35)], []⟩,
  ⟨[(.kwOr, 216), (.comma, 469)], [(.expr (.exprList false), lookahead35)], [(.exprTail, 468)]⟩,
  ⟨[(.kwXor, 221)], [(.expr .logicOr, lookahead14)], []⟩,
  ⟨[], [(.query (.fieldAlias true .plain), lookahead12)], []⟩,
  ⟨[], [(.query (.fieldAlias true .quoted), lookahead12)], []⟩,
  ⟨[], [(.query (.fieldAlias true .string), lookahead12)], []⟩,
  ⟨[(.kwAnd, 222)], [(.expr .logicXor, lookahead15)], []⟩,
  ⟨[], [(.expr .logicAnd, lookahead16)], []⟩,
  ⟨[(.name, 48), (.quotedName, 49)], [], [(.ident, 470)]⟩,
  ⟨[(.kwNull, 471), (.kwTrue, 472), (.kwFalse, 473)], [], []⟩,
  ⟨[], [(.expr (.isNull false), lookahead17)], []⟩,
  ⟨[], [(.expr (.isTruth false true), lookahead17)], []⟩,
  ⟨[], [(.expr (.isTruth false false), lookahead17)], []⟩,
  ⟨[], [(.expr .compare, lookahead17)], []⟩,
  ⟨[(.leftParen, 474)], [], [(.subquery, 475)]⟩]

def block11 : Array Row := #[
  ⟨operandShifts, [],
    [(.bitOrExpr, 476), (.bitAndExpr, 100), (.shiftExpr, 101), (.sumExpr, 102),
    (.productExpr, 103), (.bitXorExpr, 104), (.unaryExpr, 105), (.simpleExpr, 110),
    (.literal, 111), (.columnRef, 112), (.funcCall, 113), (.subquery, 115), (.caseExpr, 117),
    (.ident, 224), (.funcKeyword, 127)]⟩,
  ⟨operandShifts, [],
    [(.bitOrExpr, 477), (.bitAndExpr, 100), (.shiftExpr, 101), (.sumExpr, 102),
    (.productExpr, 103), (.bitXorExpr, 104), (.unaryExpr, 105), (.simpleExpr, 110),
    (.literal, 111), (.columnRef, 112), (.funcCall, 113), (.subquery, 115), (.caseExpr, 117),
    (.ident, 224), (.funcKeyword, 127)]⟩,
  ⟨operandShifts, [],
    [(.bitOrExpr, 478), (.bitAndExpr, 100), (.shiftExpr, 101), (.sumExpr, 102),
    (.productExpr, 103), (.bitXorExpr, 104), (.unaryExpr, 105), (.simpleExpr, 110),
    (.literal, 111), (.columnRef, 112), (.funcCall, 113), (.subquery, 115), (.caseExpr, 117),
    (.ident, 224), (.funcKeyword, 127)]⟩,
  ⟨[(.kwSelect, 35), (.kwLeft, 129), (.kwRight, 130), (.kwNot, 96), (.kwNull, 124),
    (.kwTrue, 125), (.kwFalse, 126), (.kwExists, 116), (.kwCase, 128), (.kwMod, 134),
    (.kwInsert, 132), (.kwReplace, 133), (.kwValues, 137), (.kwIf, 131), (.kwDatabase, 135),
    (.kwSchema, 136), (.plus, 107), (.minus, 106), (.bang, 108), (.tilde, 109), (.leftParen, 114),
    (.question, 118), (.number, 120), (.hexNumber, 121), (.bitNumber, 122), (.string, 123),
    (.name, 48), (.quotedName, 49), (.variableName, 119)],
    [],
    [(.query, 184), (.exprList, 479), (.selectCore, 21), (.expr, 338), (.xorExpr, 93),
    (.andExpr, 94), (.notExpr, 95), (.boolPrimary, 97), (.predicate, 98), (.bitOrExpr, 99),
    (.bitAndExpr, 100), (.shiftExpr, 101), (.sumExpr, 102), (.productExpr, 103),
    (.bitXorExpr, 104), (.unaryExpr, 105), (.simpleExpr, 110), (.literal, 111), (.columnRef, 112),
    (.funcCall, 113), (.subquery, 115), (.caseExpr, 117), (.ident, 224), (.funcKeyword, 127)]⟩,
  ⟨[], [(.expr (.inSubquery false), lookahead17)], []⟩,
  ⟨[(.kwAnd, 480), (.pipe, 234)], [], []⟩,
  ⟨[(.kwEscape, 481), (.pipe, 234)], [(.expr (.like false false), lookahead17)], []⟩,
  ⟨[(.pipe, 234)], [(.expr (.regexp false), lookahead17)], []⟩,
  ⟨[(.ampersand, 235)], [(.expr .bitOr, lookahead18)], []⟩,
  ⟨[(.shift, 236)], [(.expr .bitAnd, lookahead19)], []⟩,
  ⟨[(.plus, 237), (.minus, 238)], [(.expr .shift, lookahead20)], []⟩,
  ⟨[(.kwDiv, 242), (.kwMod, 243), (.star, 239), (.slash, 240), (.percent, 241)],
    [(.expr (.sum false), lookahead21)],
    []⟩,
  ⟨[(.kwDiv, 242), (.kwMod, 243), (.star, 239), (.slash, 240), (.percent, 241)],
    [(.expr (.sum true), lookahead21)],
    []⟩,
  ⟨[(.caret, 244)], [(.expr (.product .star), lookahead22)], []⟩,
  ⟨[(.caret, 244)], [(.expr (.product .slash), lookahead22)], []⟩,
  ⟨[(.caret, 244)], [(.expr (.product .percent), lookahead22)], []⟩,
  ⟨[(.caret, 244)], [(.expr (.product .div), lookahead22)], []⟩,
  ⟨[(.caret, 244)], [(.expr (.product .mod), lookahead22)], []⟩,
  ⟨[], [(.expr .bitXor, lookahead23)], []⟩,
  ⟨[], [(.expr .paren, lookahead23)], []⟩,
  ⟨expressionShifts, [],
    [(.exprList, 482), (.expr, 338), (.xorExpr, 93), (.andExpr, 94), (.notExpr, 95),
    (.boolPrimary, 97), (.predicate, 98), (.bitOrExpr, 99), (.bitAndExpr, 100), (.shiftExpr, 101),
    (.sumExpr, 102), (.productExpr, 103), (.bitXorExpr, 104), (.unaryExpr, 105),
    (.simpleExpr, 110), (.literal, 111), (.columnRef, 112), (.funcCall, 113), (.subquery, 115),
    (.caseExpr, 117), (.ident, 224), (.funcKeyword, 127)]⟩,
  ⟨[(.kwLeft, 129), (.kwRight, 130), (.kwNot, 96), (.kwNull, 124), (.kwTrue, 125),
    (.kwFalse, 126), (.kwExists, 116), (.kwCase, 128), (.kwMod, 134), (.kwInsert, 132),
    (.kwReplace, 133), (.kwValues, 137), (.kwIf, 131), (.kwDatabase, 135), (.kwSchema, 136),
    (.plus, 107), (.minus, 106), (.star, 336), (.bang, 108), (.tilde, 109), (.leftParen, 114),
    (.rightParen, 484), (.question, 118), (.number, 120), (.hexNumber, 121), (.bitNumber, 122),
    (.string, 123), (.name, 48), (.quotedName, 49), (.variableName, 119)],
    [],
    [(.funcArgs, 483), (.exprList, 337), (.expr, 338), (.xorExpr, 93), (.andExpr, 94),
    (.notExpr, 95), (.boolPrimary, 97), (.predicate, 98), (.bitOrExpr, 99), (.bitAndExpr, 100),
    (.shiftExpr, 101), (.sumExpr, 102), (.productExpr, 103), (.bitXorExpr, 104), (.unaryExpr, 105),
    (.simpleExpr, 110), (.literal, 111), (.columnRef, 112), (.funcCall, 113), (.subquery, 115),
    (.caseExpr, 117), (.ident, 224), (.funcKeyword, 127)]⟩,
  ⟨[(.rightParen, 485)], [], []⟩,
  ⟨[], [(.expr (.keywordCall false false), lookahead24)], []⟩,
  ⟨[(.kwWhen, 255), (.kwElse, 486), (.kwEnd, 487)], [], [(.whenClause, 379)]⟩,
  ⟨expressionShifts, [],
    [(.expr, 488), (.xorExpr, 93), (.andExpr, 94), (.notExpr, 95), (.boolPrimary, 97),
    (.predicate, 98), (.bitOrExpr, 99), (.bitAndExpr, 100), (.shiftExpr, 101), (.sumExpr, 102),
    (.productExpr, 103), (.bitXorExpr, 104), (.unaryExpr, 105), (.simpleExpr, 110),
    (.literal, 111), (.columnRef, 112), (.funcCall, 113), (.subquery, 115), (.caseExpr, 117),
    (.ident, 224), (.funcKeyword, 127)]⟩,
  ⟨[], [(.expr (.caseOf false false), lookahead23)], []⟩,
  ⟨[], [(.expr (.whenRun true), lookahead33)], []⟩,
  ⟨[(.kwOr, 216), (.kwThen, 489)], [], []⟩,
  ⟨[(.kwSelect, 35), (.kwValues, 153), (.kwValue, 154), (.kwSet, 156)],
    [],
    [(.insertSource, 490), (.query, 155), (.selectCore, 21)]⟩,
  ⟨[(.kwOn, 264)],
    [(.manipulation (.insertStatement false true true false false), lookahead2)],
    [(.onDuplicate, 491)]⟩,
  ⟨[(.kwOn, 264)],
    [(.manipulation (.insertStatement false true false true false), lookahead2)],
    [(.onDuplicate, 492)]⟩]

end SqlSyntax.Grammar.Table
