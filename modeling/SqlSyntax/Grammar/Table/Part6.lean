import SqlSyntax.Grammar.Automaton
import SqlSyntax.Grammar.Table.Lookahead

/-! States 640 to 767 of the automaton of the statement grammar. -/

namespace SqlSyntax.Grammar.Table

def block20 : Array Row := #[
  ⟨[(.kwOn, 650), (.kwKey, 647), (.kwNot, 642), (.kwNull, 643), (.kwDefault, 644),
    (.kwPrimary, 646), (.kwUnique, 648), (.kwAutoIncrement, 645), (.kwComment, 649),
    (.kwCollate, 651), (.kwCharacter, 653), (.kwCharset, 652)],
    [(.definition (.columnDef true), lookahead45)],
    [(.columnOption, 734)]⟩,
  ⟨[], [(.definition (.columnOptionRun false), lookahead50)], []⟩,
  ⟨[(.kwNull, 735)], [], []⟩,
  ⟨[], [(.definition .nullable, lookahead50)], []⟩,
  ⟨[(.kwLeft, 129), (.kwRight, 130), (.kwNull, 124), (.kwTrue, 125), (.kwFalse, 126),
    (.kwMod, 134), (.kwInsert, 132), (.kwReplace, 133), (.kwValues, 137), (.kwIf, 131),
    (.kwDatabase, 135), (.kwSchema, 136), (.plus, 739), (.minus, 738), (.leftParen, 742),
    (.number, 120), (.hexNumber, 121), (.bitNumber, 122), (.string, 123), (.name, 740),
    (.quotedName, 49)],
    [],
    [(.defaultValue, 736), (.literal, 737), (.funcCall, 741), (.ident, 743), (.funcKeyword, 127)]⟩,
  ⟨[], [(.definition .autoIncrement, lookahead50)], []⟩,
  ⟨[(.kwKey, 744)], [], []⟩,
  ⟨[], [(.definition (.primaryKey false), lookahead50)], []⟩,
  ⟨[(.kwKey, 745)], [(.definition (.uniqueKey false), lookahead54)], []⟩,
  ⟨[(.string, 746)], [], []⟩,
  ⟨[(.kwUpdate, 747)], [], []⟩,
  ⟨[(.string, 721), (.name, 48), (.quotedName, 49)], [], [(.identOrString, 748), (.ident, 720)]⟩,
  ⟨[(.string, 721), (.name, 48), (.quotedName, 49)], [], [(.identOrString, 749), (.ident, 720)]⟩,
  ⟨[(.kwSet, 750)], [], []⟩,
  ⟨[(.kwUnsigned, 658), (.kwSigned, 659), (.kwZerofill, 660)],
    [(.definition (.dataType true false), lookahead50)],
    [(.typeAttributeRun, 751), (.typeAttribute, 657)]⟩,
  ⟨[(.kwUnsigned, 658), (.kwSigned, 659), (.kwZerofill, 660)],
    [(.definition (.dataType false true), lookahead50)],
    [(.typeAttribute, 752)]⟩,
  ⟨[(.number, 754), (.string, 755)], [], [(.typeArg, 753)]⟩,
  ⟨[], [(.definition (.typeAttributeRun false), lookahead55)], []⟩,
  ⟨[], [(.definition (.typeAttribute .unsigned), lookahead55)], []⟩,
  ⟨[], [(.definition (.typeAttribute .signed), lookahead55)], []⟩,
  ⟨[], [(.definition (.typeAttribute .zerofill), lookahead55)], []⟩,
  ⟨[], [(.definition (.namedConstraint true), lookahead45)], []⟩,
  ⟨[], [(.definition .primaryConstraint, lookahead45)], []⟩,
  ⟨[(.leftParen, 556)], [], [(.keyParts, 756)]⟩,
  ⟨[], [(.definition (.uniqueConstraint (some .key) false), lookahead45)], []⟩,
  ⟨[(.leftParen, 556)], [], [(.keyParts, 757)]⟩,
  ⟨[], [(.definition (.uniqueConstraint (some .index) false), lookahead45)], []⟩,
  ⟨[], [(.definition (.uniqueConstraint none true), lookahead45)], []⟩,
  ⟨[(.comma, 760), (.rightParen, 759)], [], [(.keyPartTail, 758)]⟩,
  ⟨[(.kwAsc, 762), (.kwDesc, 763), (.leftParen, 761)],
    [(.definition (.keyPart none), lookahead45)],
    []⟩,
  ⟨[], [(.definition (.indexConstraint .key true), lookahead45)], []⟩,
  ⟨[], [(.definition (.indexConstraint .index true), lookahead45)], []⟩]

def block21 : Array Row := #[
  ⟨[(.leftParen, 556)], [], [(.keyParts, 764)]⟩,
  ⟨[(.kwReferences, 766)], [], [(.referenceDef, 765)]⟩,
  ⟨[], [(.definition (.createIndex true), lookahead2)], []⟩,
  ⟨[(.kwOrder, 433)], [(.query .noOrder, lookahead44)], [(.optOrderBy, 767), (.orderBy, 432)]⟩,
  ⟨[(.kwOrder, 433)], [(.query .noOrder, lookahead44)], [(.optOrderBy, 768), (.orderBy, 432)]⟩,
  ⟨[(.kwLimit, 539)], [(.query .noLimit, lookahead49)], [(.optLimit, 769), (.limit, 538)]⟩,
  ⟨[(.kwOr, 216)], [(.query .having, lookahead47)], []⟩,
  ⟨[(.comma, 706)], [(.query (.groupBy false), lookahead41)], [(.byItemTail, 770)]⟩,
  ⟨[(.kwOr, 216)], [(.expr (.exprTail true), lookahead45)], []⟩,
  ⟨[], [(.expr (.inList true), lookahead17)], []⟩,
  ⟨[], [(.expr (.between true), lookahead17)], []⟩,
  ⟨[], [(.expr (.like true true), lookahead17)], []⟩,
  ⟨[], [(.expr (.caseOf true true), lookahead23)], []⟩,
  ⟨[(.comma, 400)], [(.manipulation (.onDuplicate false), lookahead2)], [(.assignmentTail, 771)]⟩,
  ⟨[], [(.manipulation (.valueTail true), lookahead45)], []⟩,
  ⟨[(.kwLimit, 539)], [(.query .noLimit, lookahead2)], [(.optLimit, 772), (.limit, 538)]⟩,
  ⟨[], [(.manipulation (.updateStatement true false), lookahead2)], []⟩,
  ⟨[], [(.manipulation (.updateStatement false true), lookahead2)], []⟩,
  ⟨[], [(.query .usingColumns, lookahead8)], []⟩,
  ⟨[(.rightParen, 773)], [], []⟩,
  ⟨[], [(.query (.indexHint .use false true false), lookahead29)], []⟩,
  ⟨[(.rightParen, 774)], [], []⟩,
  ⟨[], [(.query (.indexHint .use true true false), lookahead29)], []⟩,
  ⟨[(.rightParen, 775)], [], []⟩,
  ⟨[], [(.query (.indexHint .force false true false), lookahead29)], []⟩,
  ⟨[(.rightParen, 776)], [], []⟩,
  ⟨[], [(.query (.indexHint .force true true false), lookahead29)], []⟩,
  ⟨[(.rightParen, 777)], [], []⟩,
  ⟨[], [(.query (.indexHint .ignore false true false), lookahead29)], []⟩,
  ⟨[(.rightParen, 778)], [], []⟩,
  ⟨[], [(.query (.indexHint .ignore true true false), lookahead29)], []⟩,
  ⟨[(.question, 620), (.number, 619)], [], [(.limitValue, 779)]⟩]

def block22 : Array Row := #[
  ⟨[(.question, 620), (.number, 619)], [], [(.limitValue, 780)]⟩,
  ⟨[(.comma, 781)], [(.query (.orderBy true), lookahead44)], []⟩,
  ⟨expressionShifts, [],
    [(.byItem, 782), (.expr, 622), (.xorExpr, 93), (.andExpr, 94), (.notExpr, 95),
    (.boolPrimary, 97), (.predicate, 98), (.bitOrExpr, 99), (.bitAndExpr, 100), (.shiftExpr, 101),
    (.sumExpr, 102), (.productExpr, 103), (.bitXorExpr, 104), (.unaryExpr, 105),
    (.simpleExpr, 110), (.literal, 111), (.columnRef, 112), (.funcCall, 113), (.subquery, 115),
    (.caseExpr, 117), (.ident, 224), (.funcKeyword, 127)]⟩,
  ⟨[], [(.query (.byItem (some .asc)), lookahead52)], []⟩,
  ⟨[], [(.query (.byItem (some .desc)), lookahead52)], []⟩,
  ⟨[(.comma, 629), (.rightParen, 783)], [], []⟩,
  ⟨optionShifts,
    [(.definition (.createTable true true false false), lookahead2)],
    [(.tableOptionRun, 784), (.tableOption, 631)]⟩,
  ⟨optionShifts,
    [(.definition (.createTable true false true false), lookahead2)],
    [(.tableOptionRun, 785), (.tableOption, 631)]⟩,
  ⟨optionShifts,
    [(.definition (.createTable true false false true), lookahead2)],
    [(.tableOption, 717)]⟩,
  ⟨optionShifts,
    [(.definition (.createTable false true true false), lookahead2)],
    [(.tableOptionRun, 786), (.tableOption, 631)]⟩,
  ⟨optionShifts,
    [(.definition (.createTable false true false true), lookahead2)],
    [(.tableOption, 717)]⟩,
  ⟨optionShifts,
    [(.definition (.createTable false false true true), lookahead2)],
    [(.tableOption, 717)]⟩,
  ⟨[], [(.definition (.tableElementTail true), lookahead45)], []⟩,
  ⟨[], [(.definition (.tableOptionRun true), lookahead53)], []⟩,
  ⟨[(.string, 721), (.name, 48), (.quotedName, 49)], [], [(.identOrString, 787), (.ident, 720)]⟩,
  ⟨[], [(.definition (.engineOption false), lookahead53)], []⟩,
  ⟨[], [(.expr .identAlone, lookahead56)], []⟩,
  ⟨[], [(.expr .stringIdent, lookahead56)], []⟩,
  ⟨[(.equals, 788), (.string, 721), (.name, 48), (.quotedName, 49)],
    [],
    [(.identOrString, 789), (.ident, 720)]⟩,
  ⟨[(.kwSet, 790)], [], []⟩,
  ⟨[(.equals, 791), (.string, 721), (.name, 48), (.quotedName, 49)],
    [],
    [(.identOrString, 792), (.ident, 720)]⟩,
  ⟨[(.string, 721), (.name, 48), (.quotedName, 49)], [], [(.identOrString, 793), (.ident, 720)]⟩,
  ⟨[], [(.definition (.charsetOption false false), lookahead53)], []⟩,
  ⟨[(.equals, 794), (.string, 721), (.name, 48), (.quotedName, 49)],
    [],
    [(.identOrString, 795), (.ident, 720)]⟩,
  ⟨[(.string, 721), (.name, 48), (.quotedName, 49)], [], [(.identOrString, 796), (.ident, 720)]⟩,
  ⟨[], [(.definition (.collateOption false false), lookahead53)], []⟩,
  ⟨[(.string, 797)], [], []⟩,
  ⟨[], [(.definition (.commentOption false), lookahead53)], []⟩,
  ⟨[(.number, 798)], [], []⟩,
  ⟨[], [(.definition (.autoIncrementOption false), lookahead53)], []⟩,
  ⟨[], [(.definition (.columnOptionRun true), lookahead50)], []⟩,
  ⟨[], [(.definition .notNull, lookahead50)], []⟩]

def block23 : Array Row := #[
  ⟨[], [(.definition .defaultOption, lookahead50)], []⟩,
  ⟨[], [(.definition .defaultLiteral, lookahead50)], []⟩,
  ⟨[(.number, 799)], [], []⟩,
  ⟨[(.number, 800)], [], []⟩,
  ⟨[], [(.expr .plainIdent, lookahead25), (.definition .defaultName, lookahead50)], []⟩,
  ⟨[], [(.definition .defaultCall, lookahead50)], []⟩,
  ⟨expressionShifts, [],
    [(.expr, 801), (.xorExpr, 93), (.andExpr, 94), (.notExpr, 95), (.boolPrimary, 97),
    (.predicate, 98), (.bitOrExpr, 99), (.bitAndExpr, 100), (.shiftExpr, 101), (.sumExpr, 102),
    (.productExpr, 103), (.bitXorExpr, 104), (.unaryExpr, 105), (.simpleExpr, 110),
    (.literal, 111), (.columnRef, 112), (.funcCall, 113), (.subquery, 115), (.caseExpr, 117),
    (.ident, 224), (.funcKeyword, 127)]⟩,
  ⟨[(.leftParen, 214)], [], []⟩,
  ⟨[], [(.definition (.primaryKey true), lookahead50)], []⟩,
  ⟨[], [(.definition (.uniqueKey true), lookahead50)], []⟩,
  ⟨[], [(.definition .comment, lookahead50)], []⟩,
  ⟨[(.kwLeft, 129), (.kwRight, 130), (.kwNull, 124), (.kwTrue, 125), (.kwFalse, 126),
    (.kwMod, 134), (.kwInsert, 132), (.kwReplace, 133), (.kwValues, 137), (.kwIf, 131),
    (.kwDatabase, 135), (.kwSchema, 136), (.plus, 739), (.minus, 738), (.leftParen, 742),
    (.number, 120), (.hexNumber, 121), (.bitNumber, 122), (.string, 123), (.name, 740),
    (.quotedName, 49)],
    [],
    [(.defaultValue, 802), (.literal, 737), (.funcCall, 741), (.ident, 743), (.funcKeyword, 127)]⟩,
  ⟨[], [(.definition .collate, lookahead50)], []⟩,
  ⟨[], [(.definition .charset, lookahead50)], []⟩,
  ⟨[(.string, 721), (.name, 48), (.quotedName, 49)], [], [(.identOrString, 803), (.ident, 720)]⟩,
  ⟨[(.kwUnsigned, 658), (.kwSigned, 659), (.kwZerofill, 660)],
    [(.definition (.dataType true true), lookahead50)],
    [(.typeAttribute, 752)]⟩,
  ⟨[], [(.definition (.typeAttributeRun true), lookahead55)], []⟩,
  ⟨[(.comma, 806), (.rightParen, 805)], [], [(.typeArgTail, 804)]⟩,
  ⟨[], [(.definition .numberArg, lookahead45)], []⟩,
  ⟨[], [(.definition .stringArg, lookahead45)], []⟩,
  ⟨[], [(.definition (.uniqueConstraint (some .key) true), lookahead45)], []⟩,
  ⟨[], [(.definition (.uniqueConstraint (some .index) true), lookahead45)], []⟩,
  ⟨[(.comma, 808), (.rightParen, 807)], [], []⟩,
  ⟨[], [(.definition (.keyParts false), lookahead57)], []⟩,
  ⟨[(.name, 48), (.quotedName, 49)], [], [(.keyPart, 809), (.ident, 669)]⟩,
  ⟨[(.number, 810)], [], []⟩,
  ⟨[], [(.definition (.keyPart (some .asc)), lookahead45)], []⟩,
  ⟨[], [(.definition (.keyPart (some .desc)), lookahead45)], []⟩,
  ⟨[(.kwReferences, 766)], [], [(.referenceDef, 811)]⟩,
  ⟨[], [(.definition (.foreignConstraint false), lookahead45)], []⟩,
  ⟨[(.name, 48), (.quotedName, 49)], [], [(.tableName, 812), (.ident, 47)]⟩,
  ⟨[(.kwLimit, 539)], [(.query .noLimit, lookahead49)], [(.optLimit, 813), (.limit, 538)]⟩]

end SqlSyntax.Grammar.Table
