import SqlSyntax.Grammar.Definition
import SqlSyntax.Grammar.Manipulation

/-! Productions for whole scripts: statements separated by semicolons, any of them empty. -/

namespace SqlSyntax.Grammar

inductive StatementForm where
  | query | insert | update | delete | createTable | dropTable | truncateTable | createIndex
  | dropIndex | createDatabase | dropDatabase | useDatabase | begin | commit | rollback | explain
deriving DecidableEq, Repr

def StatementForm.nonterminal : StatementForm → Nonterminal
  | .query => .query
  | .insert => .insertStatement
  | .update => .updateStatement
  | .delete => .deleteStatement
  | .createTable => .createTable
  | .dropTable => .dropTable
  | .truncateTable => .truncateTable
  | .createIndex => .createIndex
  | .dropIndex => .dropIndex
  | .createDatabase => .createDatabase
  | .dropDatabase => .dropDatabase
  | .useDatabase => .useStatement
  | .begin => .beginStatement
  | .commit => .commitStatement
  | .rollback => .rollbackStatement
  | .explain => .explainStatement

inductive ScriptRule where
  | script (items last : Bool) | scriptItems (more filled : Bool)
  | statement (form : StatementForm)
  | useDatabase | begin (marked : Bool) | startTransaction | commit (marked : Bool)
  | rollback (marked : Bool) | explain
  | explainQuery | explainInsert | explainUpdate | explainDelete
deriving DecidableEq, Repr

namespace ScriptRule

open SqlSyntax.Grammar.Symbol (terminal nonterminal)

def lhs : ScriptRule → Nonterminal
  | script _ _ => .script
  | scriptItems _ _ => .scriptItems
  | statement _ => .statement
  | useDatabase => .useStatement
  | begin _ | startTransaction => .beginStatement
  | commit _ => .commitStatement
  | rollback _ => .rollbackStatement
  | explain => .explainStatement
  | explainQuery | explainInsert | explainUpdate | explainDelete => .explainable

def rhs : ScriptRule → List Symbol
  | script items last =>
    optional items (nonterminal .scriptItems) (optional last (nonterminal .statement) [])
  | scriptItems more filled =>
    optional more (nonterminal .scriptItems)
      (optional filled (nonterminal .statement) [terminal .semicolon])
  | statement form => [nonterminal form.nonterminal]
  | useDatabase => [terminal .kwUse, nonterminal .ident]
  | begin marked => terminal .kwBegin :: optional marked (terminal .kwWork) []
  | startTransaction => [terminal .kwStart, terminal .kwTransaction]
  | commit marked => terminal .kwCommit :: optional marked (terminal .kwWork) []
  | rollback marked => terminal .kwRollback :: optional marked (terminal .kwWork) []
  | explain => [terminal .kwExplain, nonterminal .explainable]
  | explainQuery => [nonterminal .query]
  | explainInsert => [nonterminal .insertStatement]
  | explainUpdate => [nonterminal .updateStatement]
  | explainDelete => [nonterminal .deleteStatement]

/-- Every form of statement carries its node. -/
def statementNode : (form : StatementForm) → form.nonterminal.Value → Node
  | .query, n => n
  | .insert, n => n
  | .update, n => n
  | .delete, n => n
  | .createTable, n => n
  | .dropTable, n => n
  | .truncateTable, n => n
  | .createIndex, n => n
  | .dropIndex, n => n
  | .createDatabase, n => n
  | .dropDatabase, n => n
  | .useDatabase, n => n
  | .begin, n => n
  | .commit, n => n
  | .rollback, n => n
  | .explain, n => n

def build : (r : ScriptRule) → Values r.rhs → Except BuildError r.lhs.Value
  | script items last, vs =>
    let (earlier, vs) := Values.split items vs
    let (final, _) := Values.split last vs
    .ok (List.append (Option.getD earlier []) (Option.toList final))
  | scriptItems more filled, vs =>
    let (earlier, vs) := Values.split more vs
    let (next, _) := Values.split filled vs
    .ok (List.append (Option.getD earlier []) (Option.toList next))
  | statement form, (n, _) => .ok (statementNode form n)
  | useDatabase, (_, name, _) => .ok (.useDatabase (Token.name name))
  | begin _, _ => .ok .startTransaction
  | startTransaction, _ => .ok .startTransaction
  | commit _, _ => .ok .commit
  | rollback _, _ => .ok .rollback
  | explain, (_, s, _) => .ok (.explain (.node s))
  | explainQuery, (n, _) => .ok n
  | explainInsert, (n, _) => .ok n
  | explainUpdate, (n, _) => .ok n
  | explainDelete, (n, _) => .ok n

end ScriptRule

/-- A production of the grammar. -/
inductive Production where
  | script (r : ScriptRule)
  | query (r : QueryRule)
  | expr (r : ExprRule)
  | manipulation (r : ManipulationRule)
  | definition (r : DefinitionRule)
deriving DecidableEq, Repr

namespace Production

def lhs : Production → Nonterminal
  | script r => r.lhs
  | query r => r.lhs
  | expr r => r.lhs
  | manipulation r => r.lhs
  | definition r => r.lhs

def rhs : Production → List Symbol
  | script r => r.rhs
  | query r => r.rhs
  | expr r => r.rhs
  | manipulation r => r.rhs
  | definition r => r.rhs

/-- The value of the left-hand side; `markers` parameter markers were built before it. -/
def build (markers : Nat) : (p : Production) → Values p.rhs → Except BuildError p.lhs.Value
  | script r, vs => r.build vs
  | query r, vs => r.build markers vs
  | expr r, vs => r.build markers vs
  | manipulation r, vs => r.build vs
  | definition r, vs => r.build vs

/-- Whether the production builds a parameter marker. -/
def isMarker : Production → Bool
  | query .limitMarker => true
  | expr .marker => true
  | _ => false

end Production

end SqlSyntax.Grammar
