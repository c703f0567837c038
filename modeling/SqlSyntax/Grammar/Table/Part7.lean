import SqlSyntax.Grammar.Automaton
import SqlSyntax.Grammar.Table.Lookahead

/-! States 768 to 857 of the automaton of the statement grammar. -/

namespace SqlSyntax.Grammar.Table

def block24 : Array Row := #[
  ⟨[(.kwLimit, 539)], [(.query .noLimit, lookahead49)], [(.optLimit, 814), (.limit, 538)]⟩,
  ⟨[(.kwFor, 817), (.kwLock, 818)],
    [(.query .noLock, lookahead26)],
    [(.optLock, 815), (.lock, 816)]⟩,
  ⟨[(.comma, 781)], [(.query (.groupBy true), lookahead41)], []⟩,
  ⟨[(.comma, 502)], [(.manipulation (.onDuplicate true), lookahead2)], []⟩,
  ⟨[], [(.manipulation (.updateStatement true true), lookahead2)], []⟩,
  ⟨[], [(.query (.indexHint .use false true true), lookahead29)], []⟩,
  ⟨[], [(.query (.indexHint .use true true true), lookahead29)], []⟩,
  ⟨[], [(.query (.indexHint .force false true true), lookahead29)], []⟩,
  ⟨[], [(.query (.indexHint .force true true true), lookahead29)], []⟩,
  ⟨[], [(.query (.indexHint .ignore false true true), lookahead29)], []⟩,
  ⟨[], [(.query (.indexHint .ignore true true true), lookahead29)], []⟩,
  ⟨[], [(.query .limitOffsetCount, lookahead49)], []⟩,
  ⟨[], [(.query .limitCountOffset, lookahead49)], []⟩,
  ⟨expressionShifts, [],
    [(.byItem, 819), (.expr, 622), (.xorExpr, 93), (.andExpr, 94), (.notExpr, 95),
    (.boolPrimary, 97), (.predicate, 98), (.bitOrExpr, 99), (.bitAndExpr, 100), (.shiftExpr, 101),
    (.sumExpr, 102), (.productExpr, 103), (.bitXorExpr, 104), (.unaryExpr, 105),
    (.simpleExpr, 110), (.literal, 111), (.columnRef, 112), (.funcCall, 113), (.subquery, 115),
    (.caseExpr, 117), (.ident, 224), (.funcKeyword, 127)]⟩,
  ⟨[], [(.query (.byItemTail false), lookahead52)], []⟩,
  ⟨optionShifts,
    [(.definition (.createTable true true true false), lookahead2)],
    [(.tableOptionRun, 820), (.tableOption, 631)]⟩,
  ⟨optionShifts,
    [(.definition (.createTable true true false true), lookahead2)],
    [(.tableOption, 717)]⟩,
  ⟨optionShifts,
    [(.definition (.createTable true false true true), lookahead2)],
    [(.tableOption, 717)]⟩,
  ⟨optionShifts,
    [(.definition (.createTable false true true true), lookahead2)],
    [(.tableOption, 717)]⟩,
  ⟨[], [(.definition (.engineOption true), lookahead53)], []⟩,
  ⟨[(.string, 721), (.name, 48), (.quotedName, 49)], [], [(.identOrString, 821), (.ident, 720)]⟩,
  ⟨[], [(.definition (.charsetOption true false), lookahead53)], []⟩,
  ⟨[(.equals, 822), (.string, 721), (.name, 48), (.quotedName, 49)],
    [],
    [(.identOrString, 823), (.ident, 720)]⟩,
  ⟨[(.string, 721), (.name, 48), (.quotedName, 49)], [], [(.identOrString, 824), (.ident, 720)]⟩,
  ⟨[], [(.definition (.collateOption true false), lookahead53)], []⟩,
  ⟨[], [(.definition (.charsetOption false true), lookahead53)], []⟩,
  ⟨[(.string, 721), (.name, 48), (.quotedName, 49)], [], [(.identOrString, 825), (.ident, 720)]⟩,
  ⟨[], [(.definition (.characterSetOption false false), lookahead53)], []⟩,
  ⟨[], [(.definition (.collateOption false true), lookahead53)], []⟩,
  ⟨[], [(.definition (.commentOption true), lookahead53)], []⟩,
  ⟨[], [(.definition (.autoIncrementOption true), lookahead53)], []⟩,
  ⟨[], [(.definition (.defaultSigned true), lookahead50)], []⟩]

def block25 : Array Row := #[
  ⟨[], [(.definition (.defaultSigned false), lookahead50)], []⟩,
  ⟨[(.kwOr, 216), (.rightParen, 826)], [], []⟩,
  ⟨[], [(.definition .onUpdate, lookahead50)], []⟩,
  ⟨[], [(.definition .characterSet, lookahead50)], []⟩,
  ⟨[(.comma, 828), (.rightParen, 827)], [], []⟩,
  ⟨[], [(.definition (.typeArgs false), lookahead55)], []⟩,
  ⟨[(.number, 754), (.string, 755)], [], [(.typeArg, 829)]⟩,
  ⟨[], [(.definition (.keyParts true), lookahead57)], []⟩,
  ⟨[(.name, 48), (.quotedName, 49)], [], [(.keyPart, 830), (.ident, 669)]⟩,
  ⟨[], [(.definition (.keyPartTail false), lookahead45)], []⟩,
  ⟨[(.rightParen, 831)], [], []⟩,
  ⟨[], [(.definition (.foreignConstraint true), lookahead45)], []⟩,
  ⟨[(.leftParen, 556)], [], [(.keyParts, 832)]⟩,
  ⟨[(.kwFor, 817), (.kwLock, 818)],
    [(.query .noLock, lookahead26)],
    [(.optLock, 833), (.lock, 816)]⟩,
  ⟨[(.kwFor, 817), (.kwLock, 818)],
    [(.query .noLock, lookahead26)],
    [(.optLock, 834), (.lock, 816)]⟩,
  ⟨[], [(.query (.selectCore none), lookahead26)], []⟩,
  ⟨[], [(.query .lockClause, lookahead26)], []⟩,
  ⟨[(.kwUpdate, 835)], [], []⟩,
  ⟨[(.kwIn, 836)], [], []⟩,
  ⟨[], [(.query (.byItemTail true), lookahead52)], []⟩,
  ⟨optionShifts,
    [(.definition (.createTable true true true true), lookahead2)],
    [(.tableOption, 717)]⟩,
  ⟨[], [(.definition (.charsetOption true true), lookahead53)], []⟩,
  ⟨[(.string, 721), (.name, 48), (.quotedName, 49)], [], [(.identOrString, 837), (.ident, 720)]⟩,
  ⟨[], [(.definition (.characterSetOption true false), lookahead53)], []⟩,
  ⟨[], [(.definition (.collateOption true true), lookahead53)], []⟩,
  ⟨[], [(.definition (.characterSetOption false true), lookahead53)], []⟩,
  ⟨[], [(.definition .defaultParen, lookahead50)], []⟩,
  ⟨[], [(.definition (.typeArgs true), lookahead55)], []⟩,
  ⟨[(.number, 754), (.string, 755)], [], [(.typeArg, 838)]⟩,
  ⟨[], [(.definition (.typeArgTail false), lookahead45)], []⟩,
  ⟨[], [(.definition (.keyPartTail true), lookahead45)], []⟩,
  ⟨[(.kwAsc, 839), (.kwDesc, 840)], [(.definition (.measuredPart none), lookahead45)], []⟩]

def block26 : Array Row := #[
  ⟨[(.kwOn, 843)],
    [(.definition (.referenceDef false), lookahead45)],
    [(.referenceActionRun, 841), (.referenceAction, 842)]⟩,
  ⟨[], [(.query (.selectCore (some .distinct)), lookahead26)], []⟩,
  ⟨[], [(.query (.selectCore (some .all)), lookahead26)], []⟩,
  ⟨[], [(.query .lockForUpdate, lookahead26)], []⟩,
  ⟨[(.kwShare, 844)], [], []⟩,
  ⟨[], [(.definition (.characterSetOption true true), lookahead53)], []⟩,
  ⟨[], [(.definition (.typeArgTail true), lookahead45)], []⟩,
  ⟨[], [(.definition (.measuredPart (some .asc)), lookahead45)], []⟩,
  ⟨[], [(.definition (.measuredPart (some .desc)), lookahead45)], []⟩,
  ⟨[(.kwOn, 843)], [(.definition (.referenceDef true), lookahead45)], [(.referenceAction, 845)]⟩,
  ⟨[], [(.definition (.referenceActionRun false), lookahead58)], []⟩,
  ⟨[(.kwUpdate, 847), (.kwDelete, 846)], [], []⟩,
  ⟨[(.kwMode, 848)], [], []⟩,
  ⟨[], [(.definition (.referenceActionRun true), lookahead58)], []⟩,
  ⟨[(.kwSet, 852), (.kwCascade, 850), (.kwRestrict, 851), (.kwNo, 853)],
    [],
    [(.referenceOption, 849)]⟩,
  ⟨[(.kwSet, 852), (.kwCascade, 850), (.kwRestrict, 851), (.kwNo, 853)],
    [],
    [(.referenceOption, 854)]⟩,
  ⟨[], [(.query .lockInShareMode, lookahead26)], []⟩,
  ⟨[], [(.definition .deleteAction, lookahead58)], []⟩,
  ⟨[], [(.definition .cascade, lookahead58)], []⟩,
  ⟨[], [(.definition .restrict, lookahead58)], []⟩,
  ⟨[(.kwNull, 855), (.kwDefault, 856)], [], []⟩,
  ⟨[(.kwAction, 857)], [], []⟩,
  ⟨[], [(.definition .updateAction, lookahead58)], []⟩,
  ⟨[], [(.definition .setNull, lookahead58)], []⟩,
  ⟨[], [(.definition .setDefault, lookahead58)], []⟩,
  ⟨[], [(.definition .noAction, lookahead58)], []⟩]

end SqlSyntax.Grammar.Table
