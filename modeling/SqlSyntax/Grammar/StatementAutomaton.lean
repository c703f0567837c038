import SqlSyntax.Grammar.Table.Part1
import SqlSyntax.Grammar.Table.Part2
import SqlSyntax.Grammar.Table.Part3
import SqlSyntax.Grammar.Table.Part4
import SqlSyntax.Grammar.Table.Part5
import SqlSyntax.Grammar.Table.Part6
import SqlSyntax.Grammar.Table.Part7

/-! The automaton of the statement grammar. It is deterministic with one symbol of lookahead, states
with the same items being one state; a shift goes before a reduction, so a condition belongs to the
nearest join and `KEY` to the `UNIQUE` before it. -/

namespace SqlSyntax.Grammar

def statementAutomaton : Automaton where
  blocks := #[
    Table.block0, Table.block1, Table.block2, Table.block3, Table.block4, Table.block5,
    Table.block6, Table.block7, Table.block8, Table.block9, Table.block10, Table.block11,
    Table.block12, Table.block13, Table.block14, Table.block15, Table.block16, Table.block17,
    Table.block18, Table.block19, Table.block20, Table.block21, Table.block22, Table.block23,
    Table.block24, Table.block25, Table.block26]
  final := 1

end SqlSyntax.Grammar
