import SqlSyntax.Grammar.Automaton
import SqlSyntax.Grammar.Table.Lookahead

/-! States 384 to 511 of the automaton of the statement grammar. -/

namespace SqlSyntax.Grammar.Table

def block12 : Array Row := #[
  ⟨[], [(.manipulation (.insertStatement false true false false true), lookahead2)], []⟩,
  ⟨[(.kwOn, 264)],
    [(.manipulation (.insertStatement false false true true false), lookahead2)],
    [(.onDuplicate, 493)]⟩,
  ⟨[], [(.manipulation (.insertStatement false false true false true), lookahead2)], []⟩,
  ⟨[], [(.manipulation (.insertStatement false false false true true), lookahead2)], []⟩,
  ⟨[(.kwKey, 494)], [], []⟩,
  ⟨[], [(.manipulation .columnList, lookahead34)], []⟩,
  ⟨[(.comma, 495)], [(.expr (.identList true), lookahead35)], []⟩,
  ⟨[(.name, 48), (.quotedName, 49)], [], [(.ident, 496)]⟩,
  ⟨[(.comma, 497)], [(.manipulation (.insertValues true true), lookahead27)], []⟩,
  ⟨[(.leftParen, 269)], [], [(.valueRow, 498)]⟩,
  ⟨[], [(.manipulation .emptyRow, lookahead42)], []⟩,
  ⟨[(.comma, 501), (.rightParen, 500)], [], [(.valueTail, 499)]⟩,
  ⟨[(.kwOr, 216)], [(.manipulation .valueExpr, lookahead43)], []⟩,
  ⟨[], [(.manipulation .valueDefault, lookahead43)], []⟩,
  ⟨[(.comma, 497)], [(.manipulation (.insertValues false true), lookahead27)], []⟩,
  ⟨[(.comma, 502)], [(.manipulation (.insertAssignments true), lookahead27)], []⟩,
  ⟨[(.name, 48), (.quotedName, 49)], [], [(.assignment, 503), (.columnRef, 272), (.ident, 273)]⟩,
  ⟨[(.kwLeft, 129), (.kwRight, 130), (.kwNot, 96), (.kwNull, 124), (.kwTrue, 125),
    (.kwFalse, 126), (.kwExists, 116), (.kwCase, 128), (.kwMod, 134), (.kwInsert, 132),
    (.kwReplace, 133), (.kwValues, 137), (.kwDefault, 397), (.kwIf, 131), (.kwDatabase, 135),
    (.kwSchema, 136), (.plus, 107), (.minus, 106), (.bang, 108), (.tilde, 109), (.leftParen, 114),
    (.question, 118), (.number, 120), (.hexNumber, 121), (.bitNumber, 122), (.string, 123),
    (.name, 48), (.quotedName, 49), (.variableName, 119)],
    [],
    [(.valueOrDefault, 504), (.expr, 396), (.xorExpr, 93), (.andExpr, 94), (.notExpr, 95),
    (.boolPrimary, 97), (.predicate, 98), (.bitOrExpr, 99), (.bitAndExpr, 100), (.shiftExpr, 101),
    (.sumExpr, 102), (.productExpr, 103), (.bitXorExpr, 104), (.unaryExpr, 105),
    (.simpleExpr, 110), (.literal, 111), (.columnRef, 112), (.funcCall, 113), (.subquery, 115),
    (.caseExpr, 117), (.ident, 224), (.funcKeyword, 127)]⟩,
  ⟨[(.kwSelect, 35), (.kwValues, 153), (.kwValue, 154), (.kwSet, 156)],
    [],
    [(.insertSource, 505), (.query, 155), (.selectCore, 21)]⟩,
  ⟨[(.kwOn, 264)],
    [(.manipulation (.insertStatement true true true false false), lookahead2)],
    [(.onDuplicate, 506)]⟩,
  ⟨[(.kwOn, 264)],
    [(.manipulation (.insertStatement true true false true false), lookahead2)],
    [(.onDuplicate, 507)]⟩,
  ⟨[], [(.manipulation (.insertStatement true true false false true), lookahead2)], []⟩,
  ⟨[(.kwOn, 264)],
    [(.manipulation (.insertStatement true false true true false), lookahead2)],
    [(.onDuplicate, 508)]⟩,
  ⟨[], [(.manipulation (.insertStatement true false true false true), lookahead2)], []⟩,
  ⟨[], [(.manipulation (.insertStatement true false false true true), lookahead2)], []⟩,
  ⟨[(.kwWhere, 306), (.comma, 400)],
    [(.query .noWhere, lookahead30)],
    [(.assignmentTail, 509), (.optWhere, 510)]⟩,
  ⟨[(.kwWhere, 306), (.comma, 502)], [(.query .noWhere, lookahead30)], [(.optWhere, 511)]⟩,
  ⟨[(.kwOrder, 433)], [(.query .noOrder, lookahead39)], [(.optOrderBy, 512), (.orderBy, 432)]⟩,
  ⟨[(.kwJoin, 169), (.kwInner, 168), (.kwCross, 170), (.kwLeft, 171), (.kwRight, 172)],
    [(.query (.tableRefTail true), lookahead38)],
    [(.joinOperator, 166)]⟩,
  ⟨[], [(.query (.joinTable true), lookahead8)], []⟩,
  ⟨expressionShifts, [],
    [(.expr, 513), (.xorExpr, 93), (.andExpr, 94), (.notExpr, 95), (.boolPrimary, 97),
    (.predicate, 98), (.bitOrExpr, 99), (.bitAndExpr, 100), (.shiftExpr, 101), (.sumExpr, 102),
    (.productExpr, 103), (.bitXorExpr, 104), (.unaryExpr, 105), (.simpleExpr, 110),
    (.literal, 111), (.columnRef, 112), (.funcCall, 113), (.subquery, 115), (.caseExpr, 117),
    (.ident, 224), (.funcKeyword, 127)]⟩,
  ⟨[(.leftParen, 514)], [], []⟩]

def block13 : Array Row := #[
  ⟨[], [(.query (.joinLeft true), lookahead28)], []⟩,
  ⟨[], [(.query (.joinRight true), lookahead28)], []⟩,
  ⟨[(.kwGroup, 518), (.kwOrder, 517), (.kwJoin, 516)], [], [(.hintScope, 515)]⟩,
  ⟨[(.rightParen, 520), (.name, 48), (.quotedName, 49)], [], [(.identList, 519), (.ident, 267)]⟩,
  ⟨[(.kwGroup, 518), (.kwOrder, 517), (.kwJoin, 516)], [], [(.hintScope, 521)]⟩,
  ⟨[(.rightParen, 523), (.name, 48), (.quotedName, 49)], [], [(.identList, 522), (.ident, 267)]⟩,
  ⟨[(.kwGroup, 518), (.kwOrder, 517), (.kwJoin, 516)], [], [(.hintScope, 524)]⟩,
  ⟨[(.rightParen, 526), (.name, 48), (.quotedName, 49)], [], [(.identList, 525), (.ident, 267)]⟩,
  ⟨[(.kwGroup, 518), (.kwOrder, 517), (.kwJoin, 516)], [], [(.hintScope, 527)]⟩,
  ⟨[(.rightParen, 529), (.name, 48), (.quotedName, 49)], [], [(.identList, 528), (.ident, 267)]⟩,
  ⟨[(.kwGroup, 518), (.kwOrder, 517), (.kwJoin, 516)], [], [(.hintScope, 530)]⟩,
  ⟨[(.rightParen, 532), (.name, 48), (.quotedName, 49)], [], [(.identList, 531), (.ident, 267)]⟩,
  ⟨[(.kwGroup, 518), (.kwOrder, 517), (.kwJoin, 516)], [], [(.hintScope, 533)]⟩,
  ⟨[(.rightParen, 535), (.name, 48), (.quotedName, 49)], [], [(.identList, 534), (.ident, 267)]⟩,
  ⟨[(.kwOrder, 433)], [(.query .noOrder, lookahead39)], [(.optOrderBy, 536), (.orderBy, 432)]⟩,
  ⟨[(.kwLimit, 539)], [(.query .noLimit, lookahead2)], [(.optLimit, 537), (.limit, 538)]⟩,
  ⟨[], [(.query .orderClause, lookahead44)], []⟩,
  ⟨[(.kwBy, 540)], [], []⟩,
  ⟨[(.kwOr, 216)], [(.query .whereClause, lookahead31)], []⟩,
  ⟨[(.leftParen, 541)], [], []⟩,
  ⟨[(.kwIndex, 447), (.kwKey, 446), (.kwPrimary, 444), (.kwUnique, 445), (.kwConstraint, 442),
    (.kwForeign, 448), (.name, 48), (.quotedName, 49)],
    [],
    [(.tableElement, 542), (.columnDef, 439), (.constraint, 440), (.ident, 441),
    (.constraintBody, 443)]⟩,
  ⟨[(.kwIndex, 447), (.kwKey, 446), (.kwPrimary, 444), (.kwUnique, 445), (.kwConstraint, 442),
    (.kwForeign, 448), (.name, 48), (.quotedName, 49)],
    [],
    [(.tableElement, 543), (.columnDef, 439), (.constraint, 440), (.ident, 441),
    (.constraintBody, 443)]⟩,
  ⟨[(.comma, 546), (.rightParen, 545)], [], [(.tableElementTail, 544)]⟩,
  ⟨[], [(.definition .columnElement, lookahead45)], []⟩,
  ⟨[], [(.definition .constraintElement, lookahead45)], []⟩,
  ⟨[(.name, 548)], [], [(.dataType, 547)]⟩,
  ⟨[(.kwIndex, 447), (.kwKey, 446), (.kwPrimary, 444), (.kwUnique, 445), (.kwForeign, 448),
    (.name, 48), (.quotedName, 49)],
    [],
    [(.ident, 549), (.constraintBody, 550)]⟩,
  ⟨[], [(.definition .bareConstraint, lookahead45)], []⟩,
  ⟨[(.kwKey, 551)], [], []⟩,
  ⟨[(.kwIndex, 553), (.kwKey, 552), (.leftParen, 556), (.name, 48), (.quotedName, 49)],
    [],
    [(.ident, 554), (.keyParts, 555)]⟩,
  ⟨[(.leftParen, 556), (.name, 48), (.quotedName, 49)], [], [(.ident, 557), (.keyParts, 558)]⟩,
  ⟨[(.leftParen, 556), (.name, 48), (.quotedName, 49)], [], [(.ident, 559), (.keyParts, 560)]⟩]

def block14 : Array Row := #[
  ⟨[(.kwKey, 561)], [], []⟩,
  ⟨[], [(.definition .ifNotExists, lookahead40)], []⟩,
  ⟨[(.name, 48), (.quotedName, 49)], [], [(.tableName, 562), (.ident, 47)]⟩,
  ⟨[(.leftParen, 556)], [], [(.keyParts, 563)]⟩,
  ⟨[(.comma, 320)],
    [(.definition (.dropTable true true false), lookahead2)],
    [(.tableNameTail, 564)]⟩,
  ⟨[(.comma, 455)], [(.definition (.dropTable true false true), lookahead2)], []⟩,
  ⟨[(.comma, 455)], [(.definition (.dropTable false true true), lookahead2)], []⟩,
  ⟨[(.name, 48), (.quotedName, 49)], [], [(.tableName, 565), (.ident, 47)]⟩,
  ⟨[], [(.definition (.tableNameTail false), lookahead46)], []⟩,
  ⟨[], [(.definition .dropIndex, lookahead2)], []⟩,
  ⟨[(.kwGroup, 462)], [(.query .noGroup, lookahead41)], [(.optGroupBy, 566), (.groupBy, 461)]⟩,
  ⟨[(.kwGroup, 462)], [(.query .noGroup, lookahead41)], [(.optGroupBy, 567), (.groupBy, 461)]⟩,
  ⟨[(.kwHaving, 570)], [(.query .noHaving, lookahead47)], [(.optHaving, 568), (.having, 569)]⟩,
  ⟨[], [(.query .groupClause, lookahead41)], []⟩,
  ⟨[(.kwBy, 571)], [], []⟩,
  ⟨[], [(.query (.selectFieldTail true), lookahead12)], []⟩,
  ⟨[(.star, 572), (.name, 48), (.quotedName, 49)], [], [(.ident, 573)]⟩,
  ⟨[(.rightParen, 574)], [], []⟩,
  ⟨[], [(.expr (.call true false), lookahead24)], []⟩,
  ⟨[], [(.expr (.call false true), lookahead24)], []⟩,
  ⟨[(.comma, 575)], [(.expr (.exprList true), lookahead35)], []⟩,
  ⟨expressionShifts, [],
    [(.expr, 576), (.xorExpr, 93), (.andExpr, 94), (.notExpr, 95), (.boolPrimary, 97),
    (.predicate, 98), (.bitOrExpr, 99), (.bitAndExpr, 100), (.shiftExpr, 101), (.sumExpr, 102),
    (.productExpr, 103), (.bitXorExpr, 104), (.unaryExpr, 105), (.simpleExpr, 110),
    (.literal, 111), (.columnRef, 112), (.funcCall, 113), (.subquery, 115), (.caseExpr, 117),
    (.ident, 224), (.funcKeyword, 127)]⟩,
  ⟨[(.dot, 577)], [(.expr .tableColumn, lookahead23)], []⟩,
  ⟨[], [(.expr (.isNull true), lookahead17)], []⟩,
  ⟨[], [(.expr (.isTruth true true), lookahead17)], []⟩,
  ⟨[], [(.expr (.isTruth true false), lookahead17)], []⟩,
  ⟨[(.kwSelect, 35), (.kwLeft, 129), (.kwRight, 130), (.kwNot, 96), (.kwNull, 124),
    (.kwTrue, 125), (.kwFalse, 126), (.kwExists, 116), (.kwCase, 128), (.kwMod, 134),
    (.kwInsert, 132), (.kwReplace, 133), (.kwValues, 137), (.kwIf, 131), (.kwDatabase, 135),
    (.kwSchema, 136), (.plus, 107), (.minus, 106), (.bang, 108), (.tilde, 109), (.leftParen, 114),
    (.question, 118), (.number, 120), (.hexNumber, 121), (.bitNumber, 122), (.string, 123),
    (.name, 48), (.quotedName, 49), (.variableName, 119)],
    [],
    [(.query, 184), (.exprList, 578), (.selectCore, 21), (.expr, 338), (.xorExpr, 93),
    (.andExpr, 94), (.notExpr, 95), (.boolPrimary, 97), (.predicate, 98), (.bitOrExpr, 99),
    (.bitAndExpr, 100), (.shiftExpr, 101), (.sumExpr, 102), (.productExpr, 103),
    (.bitXorExpr, 104), (.unaryExpr, 105), (.simpleExpr, 110), (.literal, 111), (.columnRef, 112),
    (.funcCall, 113), (.subquery, 115), (.caseExpr, 117), (.ident, 224), (.funcKeyword, 127)]⟩,
  ⟨[], [(.expr (.inSubquery true), lookahead17)], []⟩,
  ⟨[(.kwAnd, 579), (.pipe, 234)], [], []⟩,
  ⟨[(.kwEscape, 580), (.pipe, 234)], [(.expr (.like true false), lookahead17)], []⟩,
  ⟨[(.pipe, 234)], [(.expr (.regexp true), lookahead17)], []⟩,
  ⟨[(.rightParen, 581)], [], []⟩]

def block15 : Array Row := #[
  ⟨operandShifts, [],
    [(.predicate, 582), (.bitOrExpr, 99), (.bitAndExpr, 100), (.shiftExpr, 101), (.sumExpr, 102),
    (.productExpr, 103), (.bitXorExpr, 104), (.unaryExpr, 105), (.simpleExpr, 110),
    (.literal, 111), (.columnRef, 112), (.funcCall, 113), (.subquery, 115), (.caseExpr, 117),
    (.ident, 224), (.funcKeyword, 127)]⟩,
  ⟨[(.string, 583)], [], []⟩,
  ⟨[(.rightParen, 584)], [], []⟩,
  ⟨[(.rightParen, 585)], [], []⟩,
  ⟨[], [(.expr (.keywordCall true false), lookahead24)], []⟩,
  ⟨[], [(.expr (.keywordCall false true), lookahead24)], []⟩,
  ⟨expressionShifts, [],
    [(.expr, 586), (.xorExpr, 93), (.andExpr, 94), (.notExpr, 95), (.boolPrimary, 97),
    (.predicate, 98), (.bitOrExpr, 99), (.bitAndExpr, 100), (.shiftExpr, 101), (.sumExpr, 102),
    (.productExpr, 103), (.bitXorExpr, 104), (.unaryExpr, 105), (.simpleExpr, 110),
    (.literal, 111), (.columnRef, 112), (.funcCall, 113), (.subquery, 115), (.caseExpr, 117),
    (.ident, 224), (.funcKeyword, 127)]⟩,
  ⟨[], [(.expr (.caseOf true false), lookahead23)], []⟩,
  ⟨[(.kwOr, 216), (.kwEnd, 587)], [], []⟩,
  ⟨expressionShifts, [],
    [(.expr, 588), (.xorExpr, 93), (.andExpr, 94), (.notExpr, 95), (.boolPrimary, 97),
    (.predicate, 98), (.bitOrExpr, 99), (.bitAndExpr, 100), (.shiftExpr, 101), (.sumExpr, 102),
    (.productExpr, 103), (.bitXorExpr, 104), (.unaryExpr, 105), (.simpleExpr, 110),
    (.literal, 111), (.columnRef, 112), (.funcCall, 113), (.subquery, 115), (.caseExpr, 117),
    (.ident, 224), (.funcKeyword, 127)]⟩,
  ⟨[(.kwOn, 264)],
    [(.manipulation (.insertStatement false true true true false), lookahead2)],
    [(.onDuplicate, 589)]⟩,
  ⟨[], [(.manipulation (.insertStatement false true true false true), lookahead2)], []⟩,
  ⟨[], [(.manipulation (.insertStatement false true false true true), lookahead2)], []⟩,
  ⟨[], [(.manipulation (.insertStatement false false true true true), lookahead2)], []⟩,
  ⟨[(.kwUpdate, 590)], [], []⟩,
  ⟨[(.name, 48), (.quotedName, 49)], [], [(.ident, 591)]⟩,
  ⟨[], [(.expr (.identTail false), lookahead45)], []⟩,
  ⟨[(.leftParen, 269)], [], [(.valueRow, 592)]⟩,
  ⟨[], [(.manipulation (.valueRowTail false), lookahead42)], []⟩,
  ⟨[(.comma, 594), (.rightParen, 593)], [], []⟩,
  ⟨[], [(.manipulation (.valueRow false), lookahead42)], []⟩,
  ⟨[(.kwLeft, 129), (.kwRight, 130), (.kwNot, 96), (.kwNull, 124), (.kwTrue, 125),
    (.kwFalse, 126), (.kwExists, 116), (.kwCase, 128), (.kwMod, 134), (.kwInsert, 132),
    (.kwReplace, 133), (.kwValues, 137), (.kwDefault, 397), (.kwIf, 131), (.kwDatabase, 135),
    (.kwSchema, 136), (.plus, 107), (.minus, 106), (.bang, 108), (.tilde, 109), (.leftParen, 114),
    (.question, 118), (.number, 120), (.hexNumber, 121), (.bitNumber, 122), (.string, 123),
    (.name, 48), (.quotedName, 49), (.variableName, 119)],
    [],
    [(.valueOrDefault, 595), (.expr, 396), (.xorExpr, 93), (.andExpr, 94), (.notExpr, 95),
    (.boolPrimary, 97), (.predicate, 98), (.bitOrExpr, 99), (.bitAndExpr, 100), (.shiftExpr, 101),
    (.sumExpr, 102), (.productExpr, 103), (.bitXorExpr, 104), (.unaryExpr, 105),
    (.simpleExpr, 110), (.literal, 111), (.columnRef, 112), (.funcCall, 113), (.subquery, 115),
    (.caseExpr, 117), (.ident, 224), (.funcKeyword, 127)]⟩,
  ⟨[(.name, 48), (.quotedName, 49)], [], [(.assignment, 596), (.columnRef, 272), (.ident, 273)]⟩,
  ⟨[], [(.manipulation (.assignmentTail false), lookahead48)], []⟩,
  ⟨[], [(.manipulation .assignment, lookahead48)], []⟩,
  ⟨[(.kwOn, 264)],
    [(.manipulation (.insertStatement true true true true false), lookahead2)],
    [(.onDuplicate, 597)]⟩,
  ⟨[], [(.manipulation (.insertStatement true true true false true), lookahead2)], []⟩,
  ⟨[], [(.manipulation (.insertStatement true true false true true), lookahead2)], []⟩,
  ⟨[], [(.manipulation (.insertStatement true false true true true), lookahead2)], []⟩,
  ⟨[(.kwWhere, 306), (.comma, 502)], [(.query .noWhere, lookahead30)], [(.optWhere, 598)]⟩,
  ⟨[(.kwOrder, 433)], [(.query .noOrder, lookahead39)], [(.optOrderBy, 599), (.orderBy, 432)]⟩,
  ⟨[(.kwOrder, 433)], [(.query .noOrder, lookahead39)], [(.optOrderBy, 600), (.orderBy, 432)]⟩]

end SqlSyntax.Grammar.Table
