import SqlSyntax.Proofs.Grammar.Commented
import SqlSyntax.Proofs.Grammar.Recasing
import SqlSyntax.Proofs.Script.Concatenation
import SqlSyntax.Proofs.Script.Selection

/-!
# Comments and the letter case of keywords

An accepted text stays accepted, with the same statements, when letters of its keywords change their
case and block comments are put at its start and behind its tokens.
-/

namespace SqlSyntax

namespace Script

open Grammar (Portion Commented Reads statementAutomaton)
open Grammar.Portion (texts)
open Lexeme (Comments comment)

/-- The blanks and tokens of a text in the order in which they are read. -/
def portions (sql : String) : List Portion :=
  Grammar.portions statementAutomaton (sql.toList.length + 1) (.initial sql)

theorem reads_portions {sql : String} {statements : List Node}
    (parsed : parse sql = .ok statements) :
    Reads statementAutomaton (.ok statements) (.initial sql) (portions sql) :=
  Grammar.reads_portions (c := .initial sql) (Nat.lt_succ_self _)
    ((parse_eq_ok_iff sql statements).mp parsed)

/-- The portions of an accepted text are what is read of it, and they make up the text. With any
keywords among them in other letter case, and with any comments in front and behind tokens, the text
is accepted with the same statements. -/
theorem parse_retouched {sql : String} {statements : List Node}
    (parsed : parse sql = .ok statements) :
    Reads statementAutomaton (.ok statements) (.initial sql) (portions sql) ∧
      texts (portions sql) = sql.toList ∧
      ∀ recased lead text, List.Forall₂ Portion.Recased (portions sql) recased → Comments lead →
        Commented recased text → parse (String.ofList (lead ++ text)) = .ok statements := by
  have reads := reads_portions parsed
  refine ⟨reads, reads.texts_eq, ?_⟩
  intro recased lead text changed comments commented
  have path : Grammar.Stack.IsPath statementAutomaton [] := trivial
  have recasedReads := reads.recased changed (.refl []) .start
  rw [parse_eq_ok_iff, Grammar.Configuration.initial, String.toList_ofList]
  exact Grammar.accepts_of_comments comments
    (recasedReads.commented path commented (.refl [])) .start

def quotientUnion : Node :=
  .setOperation [.node (selectOf (.binaryOp "/" (.node (.value (.plain (.integer 4))))
    (.node (.value (.plain (.integer 2)))))), .node (selectOf (.value (.plain (.integer 1))))]
    ["UNION"]

theorem parse_retouched_union :
    parse "select 4/2 union select 1" = .ok [quotientUnion] ∧
      parse "/*1*/SELECT/**/ 4//***/2 Union/* - *//*;*/ select 1" = .ok [quotientUnion] := by
  have parsed : parse "select 4/2 union select 1" = .ok [quotientUnion] := by rfl
  have cut : portions "select 4/2 union select 1" =
      [.token .kwSelect ['s', 'e', 'l', 'e', 'c', 't'], .blank [' '], .token .number ['4'],
        .token .slash ['/'], .token .number ['2'], .blank [' '],
        .token .kwUnion ['u', 'n', 'i', 'o', 'n'], .blank [' '],
        .token .kwSelect ['s', 'e', 'l', 'e', 'c', 't'], .blank [' '], .token .number ['1']] := by
    decide +kernel
  have changed : List.Forall₂ Portion.Recased (portions "select 4/2 union select 1")
      [.token .kwSelect ['S', 'E', 'L', 'E', 'C', 'T'], .blank [' '], .token .number ['4'],
        .token .slash ['/'], .token .number ['2'], .blank [' '],
        .token .kwUnion ['U', 'n', 'i', 'o', 'n'], .blank [' '],
        .token .kwSelect ['s', 'e', 'l', 'e', 'c', 't'], .blank [' '], .token .number ['1']] := by
    rw [cut]
    exact .cons (.keyword nofun (by decide)) <| .cons (.blank _) <| .cons (.other _ rfl) <|
      .cons (.other _ rfl) <| .cons (.other _ rfl) <| .cons (.blank _) <|
      .cons (.keyword nofun (by decide)) <| .cons (.blank _) <|
      .cons (.keyword nofun (by decide)) <| .cons (.blank _) <| .cons (.other _ rfl) .nil
  have single {c : List Char} (closed : ¬['*', '/'] <:+: c) : Comments (comment c) := by
    simpa using Comments.cons closed .nil
  have commented : Commented _ _ :=
    .token .kwSelect ['S', 'E', 'L', 'E', 'C', 'T'] (single (c := []) (by decide)) <|
    .blank [' '] <| .token .number ['4'] .nil <|
    .token .slash ['/'] (single (c := ['*']) (by decide)) <|
    .token .number ['2'] .nil <| .blank [' '] <|
    .token .kwUnion ['U', 'n', 'i', 'o', 'n']
      (.cons (c := [' ', '-', ' ']) (by decide) (single (c := [';']) (by decide))) <|
    .blank [' '] <| .token .kwSelect ['s', 'e', 'l', 'e', 'c', 't'] .nil <| .blank [' '] <|
    .token .number ['1'] .nil .nil
  have retouched :=
    (parse_retouched parsed).2.2 _ _ _ changed (single (c := ['1']) (by decide)) commented
  exact ⟨parsed, retouched⟩

end Script

end SqlSyntax
