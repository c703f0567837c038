import SqlSyntax.Grammar.Automaton
import SqlSyntax.Grammar.Table.Lookahead

/-! States 512 to 639 of the automaton of the statement grammar. -/

namespace SqlSyntax.Grammar.Table

def block16 : Array Row := #[
  ⟨[(.kwLimit, 539)], [(.query .noLimit, lookahead2)], [(.optLimit, 601), (.limit, 538)]⟩,
  ⟨[(.kwOr, 216)], [(.query .onCondition, lookahead8)], []⟩,
  ⟨[(.name, 48), (.quotedName, 49)], [], [(.identList, 602), (.ident, 267)]⟩,
  ⟨[(.leftParen, 603)], [], []⟩,
  ⟨[], [(.query .scopeJoin, lookahead25)], []⟩,
  ⟨[(.kwBy, 604)], [], []⟩,
  ⟨[(.kwBy, 605)], [], []⟩,
  ⟨[(.rightParen, 606)], [], []⟩,
  ⟨[], [(.query (.indexHint .use false false false), lookahead29)], []⟩,
  ⟨[(.leftParen, 607)], [], []⟩,
  ⟨[(.rightParen, 608)], [], []⟩,
  ⟨[], [(.query (.indexHint .use true false false), lookahead29)], []⟩,
  ⟨[(.leftParen, 609)], [], []⟩,
  ⟨[(.rightParen, 610)], [], []⟩,
  ⟨[], [(.query (.indexHint .force false false false), lookahead29)], []⟩,
  ⟨[(.leftParen, 611)], [], []⟩,
  ⟨[(.rightParen, 612)], [], []⟩,
  ⟨[], [(.query (.indexHint .force true false false), lookahead29)], []⟩,
  ⟨[(.leftParen, 613)], [], []⟩,
  ⟨[(.rightParen, 614)], [], []⟩,
  ⟨[], [(.query (.indexHint .ignore false false false), lookahead29)], []⟩,
  ⟨[(.leftParen, 615)], [], []⟩,
  ⟨[(.rightParen, 616)], [], []⟩,
  ⟨[], [(.query (.indexHint .ignore true false false), lookahead29)], []⟩,
  ⟨[(.kwLimit, 539)], [(.query .noLimit, lookahead2)], [(.optLimit, 617), (.limit, 538)]⟩,
  ⟨[], [(.manipulation (.deleteStatement false), lookahead2)], []⟩,
  ⟨[], [(.query .limitClause, lookahead49)], []⟩,
  ⟨[(.question, 620), (.number, 619)], [], [(.limitValue, 618)]⟩,
  ⟨expressionShifts, [],
    [(.byItem, 621), (.expr, 622), (.xorExpr, 93), (.andExpr, 94), (.notExpr, 95),
    (.boolPrimary, 97), (.predicate, 98), (.bitOrExpr, 99), (.bitAndExpr, 100), (.shiftExpr, 101),
    (.sumExpr, 102), (.productExpr, 103), (.bitXorExpr, 104), (.unaryExpr, 105),
    (.simpleExpr, 110), (.literal, 111), (.columnRef, 112), (.funcCall, 113), (.subquery, 115),
    (.caseExpr, 117), (.ident, 224), (.funcKeyword, 127)]⟩,
  ⟨[(.kwIndex, 447), (.kwKey, 446), (.kwPrimary, 444), (.kwUnique, 445), (.kwConstraint, 442),
    (.kwForeign, 448), (.name, 48), (.quotedName, 49)],
    [],
    [(.tableElement, 623), (.columnDef, 439), (.constraint, 440), (.ident, 441),
    (.constraintBody, 443)]⟩,
  ⟨[(.comma, 546), (.rightParen, 625)], [], [(.tableElementTail, 624)]⟩,
  ⟨[(.comma, 546), (.rightParen, 627)], [], [(.tableElementTail, 626)]⟩]

def block17 : Array Row := #[
  ⟨[(.comma, 629), (.rightParen, 628)], [], []⟩,
  ⟨optionShifts,
    [(.definition (.createTable false false false false), lookahead2)],
    [(.tableOptionRun, 630), (.tableOption, 631)]⟩,
  ⟨[(.kwIndex, 447), (.kwKey, 446), (.kwPrimary, 444), (.kwUnique, 445), (.kwConstraint, 442),
    (.kwForeign, 448), (.name, 48), (.quotedName, 49)],
    [],
    [(.tableElement, 639), (.columnDef, 439), (.constraint, 440), (.ident, 441),
    (.constraintBody, 443)]⟩,
  ⟨[(.kwOn, 650), (.kwKey, 647), (.kwNot, 642), (.kwNull, 643), (.kwDefault, 644),
    (.kwPrimary, 646), (.kwUnique, 648), (.kwAutoIncrement, 645), (.kwComment, 649),
    (.kwCollate, 651), (.kwCharacter, 653), (.kwCharset, 652)],
    [(.definition (.columnDef false), lookahead45)],
    [(.columnOptionRun, 640), (.columnOption, 641)]⟩,
  ⟨[(.kwUnsigned, 658), (.kwSigned, 659), (.kwZerofill, 660), (.leftParen, 656)],
    [(.definition (.dataType false false), lookahead50)],
    [(.typeArgs, 654), (.typeAttributeRun, 655), (.typeAttribute, 657)]⟩,
  ⟨[(.kwIndex, 447), (.kwKey, 446), (.kwPrimary, 444), (.kwUnique, 445), (.kwForeign, 448)],
    [],
    [(.constraintBody, 661)]⟩,
  ⟨[], [(.definition (.namedConstraint false), lookahead45)], []⟩,
  ⟨[(.leftParen, 556)], [], [(.keyParts, 662)]⟩,
  ⟨[(.leftParen, 556), (.name, 48), (.quotedName, 49)], [], [(.ident, 663), (.keyParts, 664)]⟩,
  ⟨[(.leftParen, 556), (.name, 48), (.quotedName, 49)], [], [(.ident, 665), (.keyParts, 666)]⟩,
  ⟨[(.leftParen, 556)], [], [(.keyParts, 667)]⟩,
  ⟨[], [(.definition (.uniqueConstraint none false), lookahead45)], []⟩,
  ⟨[(.name, 48), (.quotedName, 49)], [], [(.keyPart, 668), (.ident, 669)]⟩,
  ⟨[(.leftParen, 556)], [], [(.keyParts, 670)]⟩,
  ⟨[], [(.definition (.indexConstraint .key false), lookahead45)], []⟩,
  ⟨[(.leftParen, 556)], [], [(.keyParts, 671)]⟩,
  ⟨[], [(.definition (.indexConstraint .index false), lookahead45)], []⟩,
  ⟨[(.leftParen, 556), (.name, 48), (.quotedName, 49)], [], [(.ident, 672), (.keyParts, 673)]⟩,
  ⟨[(.leftParen, 556)], [], [(.keyParts, 674)]⟩,
  ⟨[], [(.definition (.createIndex false), lookahead2)], []⟩,
  ⟨[(.comma, 455)], [(.definition (.dropTable true true true), lookahead2)], []⟩,
  ⟨[], [(.definition (.tableNameTail true), lookahead46)], []⟩,
  ⟨[(.kwHaving, 570)], [(.query .noHaving, lookahead47)], [(.optHaving, 675), (.having, 569)]⟩,
  ⟨[(.kwHaving, 570)], [(.query .noHaving, lookahead47)], [(.optHaving, 676), (.having, 569)]⟩,
  ⟨[(.kwOrder, 433)], [(.query .noOrder, lookahead44)], [(.optOrderBy, 677), (.orderBy, 432)]⟩,
  ⟨[], [(.query .havingClause, lookahead47)], []⟩,
  ⟨expressionShifts, [],
    [(.expr, 678), (.xorExpr, 93), (.andExpr, 94), (.notExpr, 95), (.boolPrimary, 97),
    (.predicate, 98), (.bitOrExpr, 99), (.bitAndExpr, 100), (.shiftExpr, 101), (.sumExpr, 102),
    (.productExpr, 103), (.bitXorExpr, 104), (.unaryExpr, 105), (.simpleExpr, 110),
    (.literal, 111), (.columnRef, 112), (.funcCall, 113), (.subquery, 115), (.caseExpr, 117),
    (.ident, 224), (.funcKeyword, 127)]⟩,
  ⟨expressionShifts, [],
    [(.byItem, 679), (.expr, 622), (.xorExpr, 93), (.andExpr, 94), (.notExpr, 95),
    (.boolPrimary, 97), (.predicate, 98), (.bitOrExpr, 99), (.bitAndExpr, 100), (.shiftExpr, 101),
    (.sumExpr, 102), (.productExpr, 103), (.bitXorExpr, 104), (.unaryExpr, 105),
    (.simpleExpr, 110), (.literal, 111), (.columnRef, 112), (.funcCall, 113), (.subquery, 115),
    (.caseExpr, 117), (.ident, 224), (.funcKeyword, 127)]⟩,
  ⟨[], [(.query .fieldSchemaTableStar, lookahead12)], []⟩,
  ⟨[], [(.expr .schemaColumn, lookahead23)], []⟩,
  ⟨[], [(.expr (.call true true), lookahead24)], []⟩,
  ⟨expressionShifts, [],
    [(.expr, 680), (.xorExpr, 93), (.andExpr, 94), (.notExpr, 95), (.boolPrimary, 97),
    (.predicate, 98), (.bitOrExpr, 99), (.bitAndExpr, 100), (.shiftExpr, 101), (.sumExpr, 102),
    (.productExpr, 103), (.bitXorExpr, 104), (.unaryExpr, 105), (.simpleExpr, 110),
    (.literal, 111), (.columnRef, 112), (.funcCall, 113), (.subquery, 115), (.caseExpr, 117),
    (.ident, 224), (.funcKeyword, 127)]⟩]

def block18 : Array Row := #[
  ⟨[(.kwOr, 216)], [(.expr (.exprTail false), lookahead45)], []⟩,
  ⟨[(.name, 48), (.quotedName, 49)], [], [(.ident, 573)]⟩,
  ⟨[(.rightParen, 681)], [], []⟩,
  ⟨operandShifts, [],
    [(.predicate, 682), (.bitOrExpr, 99), (.bitAndExpr, 100), (.shiftExpr, 101), (.sumExpr, 102),
    (.productExpr, 103), (.bitXorExpr, 104), (.unaryExpr, 105), (.simpleExpr, 110),
    (.literal, 111), (.columnRef, 112), (.funcCall, 113), (.subquery, 115), (.caseExpr, 117),
    (.ident, 224), (.funcKeyword, 127)]⟩,
  ⟨[(.string, 683)], [], []⟩,
  ⟨[], [(.expr (.inList false), lookahead17)], []⟩,
  ⟨[], [(.expr (.between false), lookahead17)], []⟩,
  ⟨[], [(.expr (.like false true), lookahead17)], []⟩,
  ⟨[], [(.expr .row, lookahead23)], []⟩,
  ⟨[], [(.expr (.keywordCall true true), lookahead24)], []⟩,
  ⟨[(.kwOr, 216), (.kwEnd, 684)], [], []⟩,
  ⟨[], [(.expr (.caseOf false true), lookahead23)], []⟩,
  ⟨[(.kwOr, 216)], [(.expr .whenClause, lookahead33)], []⟩,
  ⟨[], [(.manipulation (.insertStatement false true true true true), lookahead2)], []⟩,
  ⟨[(.name, 48), (.quotedName, 49)], [], [(.assignment, 685), (.columnRef, 272), (.ident, 273)]⟩,
  ⟨[], [(.expr (.identTail true), lookahead45)], []⟩,
  ⟨[], [(.manipulation (.valueRowTail true), lookahead42)], []⟩,
  ⟨[], [(.manipulation (.valueRow true), lookahead42)], []⟩,
  ⟨[(.kwLeft, 129), (.kwRight, 130), (.kwNot, 96), (.kwNull, 124), (.kwTrue, 125),
    (.kwFalse, 126), (.kwExists, 116), (.kwCase, 128), (.kwMod, 134), (.kwInsert, 132),
    (.kwReplace, 133), (.kwValues, 137), (.kwDefault, 397), (.kwIf, 131), (.kwDatabase, 135),
    (.kwSchema, 136), (.plus, 107), (.minus, 106), (.bang, 108), (.tilde, 109), (.leftParen, 114),
    (.question, 118), (.number, 120), (.hexNumber, 121), (.bitNumber, 122), (.string, 123),
    (.name, 48), (.quotedName, 49), (.variableName, 119)],
    [],
    [(.valueOrDefault, 686), (.expr, 396), (.xorExpr, 93), (.andExpr, 94), (.notExpr, 95),
    (.boolPrimary, 97), (.predicate, 98), (.bitOrExpr, 99), (.bitAndExpr, 100), (.shiftExpr, 101),
    (.sumExpr, 102), (.productExpr, 103), (.bitXorExpr, 104), (.unaryExpr, 105),
    (.simpleExpr, 110), (.literal, 111), (.columnRef, 112), (.funcCall, 113), (.subquery, 115),
    (.caseExpr, 117), (.ident, 224), (.funcKeyword, 127)]⟩,
  ⟨[], [(.manipulation (.valueTail false), lookahead45)], []⟩,
  ⟨[], [(.manipulation (.assignmentTail true), lookahead48)], []⟩,
  ⟨[], [(.manipulation (.insertStatement true true true true true), lookahead2)], []⟩,
  ⟨[(.kwOrder, 433)], [(.query .noOrder, lookahead39)], [(.optOrderBy, 687), (.orderBy, 432)]⟩,
  ⟨[(.kwLimit, 539)], [(.query .noLimit, lookahead2)], [(.optLimit, 688), (.limit, 538)]⟩,
  ⟨[(.kwLimit, 539)], [(.query .noLimit, lookahead2)], [(.optLimit, 689), (.limit, 538)]⟩,
  ⟨[], [(.manipulation (.updateStatement false false), lookahead2)], []⟩,
  ⟨[(.rightParen, 690)], [], []⟩,
  ⟨[(.rightParen, 692), (.name, 48), (.quotedName, 49)], [], [(.identList, 691), (.ident, 267)]⟩,
  ⟨[], [(.query .scopeOrderBy, lookahead25)], []⟩,
  ⟨[], [(.query .scopeGroupBy, lookahead25)], []⟩,
  ⟨[], [(.query (.indexHint .use false false true), lookahead29)], []⟩,
  ⟨[(.rightParen, 694), (.name, 48), (.quotedName, 49)], [], [(.identList, 693), (.ident, 267)]⟩]

def block19 : Array Row := #[
  ⟨[], [(.query (.indexHint .use true false true), lookahead29)], []⟩,
  ⟨[(.rightParen, 696), (.name, 48), (.quotedName, 49)], [], [(.identList, 695), (.ident, 267)]⟩,
  ⟨[], [(.query (.indexHint .force false false true), lookahead29)], []⟩,
  ⟨[(.rightParen, 698), (.name, 48), (.quotedName, 49)], [], [(.identList, 697), (.ident, 267)]⟩,
  ⟨[], [(.query (.indexHint .force true false true), lookahead29)], []⟩,
  ⟨[(.rightParen, 700), (.name, 48), (.quotedName, 49)], [], [(.identList, 699), (.ident, 267)]⟩,
  ⟨[], [(.query (.indexHint .ignore false false true), lookahead29)], []⟩,
  ⟨[(.rightParen, 702), (.name, 48), (.quotedName, 49)], [], [(.identList, 701), (.ident, 267)]⟩,
  ⟨[], [(.query (.indexHint .ignore true false true), lookahead29)], []⟩,
  ⟨[], [(.manipulation (.deleteStatement true), lookahead2)], []⟩,
  ⟨[(.kwOffset, 704), (.comma, 703)], [(.query .limitCount, lookahead49)], []⟩,
  ⟨[], [(.query .limitNumber, lookahead51)], []⟩,
  ⟨[], [(.query .limitMarker, lookahead51)], []⟩,
  ⟨[(.comma, 706)], [(.query (.orderBy false), lookahead44)], [(.byItemTail, 705)]⟩,
  ⟨[(.kwOr, 216), (.kwAsc, 707), (.kwDesc, 708)], [(.query (.byItem none), lookahead52)], []⟩,
  ⟨[(.comma, 546), (.rightParen, 710)], [], [(.tableElementTail, 709)]⟩,
  ⟨[(.comma, 629), (.rightParen, 711)], [], []⟩,
  ⟨optionShifts,
    [(.definition (.createTable true false false false), lookahead2)],
    [(.tableOptionRun, 712), (.tableOption, 631)]⟩,
  ⟨[(.comma, 629), (.rightParen, 713)], [], []⟩,
  ⟨optionShifts,
    [(.definition (.createTable false true false false), lookahead2)],
    [(.tableOptionRun, 714), (.tableOption, 631)]⟩,
  ⟨optionShifts,
    [(.definition (.createTable false false true false), lookahead2)],
    [(.tableOptionRun, 715), (.tableOption, 631)]⟩,
  ⟨[(.kwIndex, 447), (.kwKey, 446), (.kwPrimary, 444), (.kwUnique, 445), (.kwConstraint, 442),
    (.kwForeign, 448), (.name, 48), (.quotedName, 49)],
    [],
    [(.tableElement, 716), (.columnDef, 439), (.constraint, 440), (.ident, 441),
    (.constraintBody, 443)]⟩,
  ⟨optionShifts,
    [(.definition (.createTable false false false true), lookahead2)],
    [(.tableOption, 717)]⟩,
  ⟨[], [(.definition (.tableOptionRun false), lookahead53)], []⟩,
  ⟨[(.equals, 718), (.string, 721), (.name, 48), (.quotedName, 49)],
    [],
    [(.identOrString, 719), (.ident, 720)]⟩,
  ⟨[(.kwCollate, 724), (.kwCharacter, 723), (.kwCharset, 722)], [], []⟩,
  ⟨[(.equals, 725), (.string, 721), (.name, 48), (.quotedName, 49)],
    [],
    [(.identOrString, 726), (.ident, 720)]⟩,
  ⟨[(.kwSet, 727)], [], []⟩,
  ⟨[(.equals, 728), (.string, 721), (.name, 48), (.quotedName, 49)],
    [],
    [(.identOrString, 729), (.ident, 720)]⟩,
  ⟨[(.equals, 730), (.string, 731)], [], []⟩,
  ⟨[(.equals, 732), (.number, 733)], [], []⟩,
  ⟨[], [(.definition (.tableElementTail false), lookahead45)], []⟩]

end SqlSyntax.Grammar.Table
