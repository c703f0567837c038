import SqlSyntax.Proofs.Grammar.MarkerOrder
import SqlSyntax.Proofs.Script.Retouched

/-!
# The numbers of parameter markers

The question marks of an accepted text, counted from zero over all its statements, become the
markers with these numbers. A question mark in a string, a quoted name or a comment is no token of
its own and does not count.
-/

namespace SqlSyntax.Script

open Grammar (Numbered Portion questions)
open Grammar.Portion (texts)

/-- The tokens of a text with their places. -/
def tokens (sql : String) : List Token :=
  Portion.tokens .start (portions sql)

theorem numbered_of_parse {sql : String} {statements : List Node}
    (parsed : parse sql = .ok statements) :
    Numbered 0 (tokens sql) [.nonterminal .script] (statements, ()) := by
  have start : Grammar.Stack.Follows [] 0 [] := ⟨trivial, .nil, rfl⟩
  exact (reads_portions parsed).numbered start

/-- The portions of an accepted text make up the text, and its statements come from the tokens among
them with every question mark made the marker of its number. So the orders of the markers are the
numbers below the number of question marks, each once. -/
theorem parse_numbers_markers {sql : String} {statements : List Node}
    (parsed : parse sql = .ok statements) :
    texts (portions sql) = sql.toList ∧
      Numbered 0 (tokens sql) [.nonterminal .script] (statements, ()) ∧
      (statements.flatMap Node.markers).Perm
        ((List.range (questions (tokens sql))).map Int.ofNat) := by
  have numbered := numbered_of_parse parsed
  refine ⟨(reads_portions parsed).texts_eq, numbered, ?_⟩
  have markers := numbered.markers (by simp) none
  rw [List.range_eq_range', ← Slot.markersEach_nodes]
  exact markers

/-- A bound is kept behind the count that is written after it, and the second statement counts
on. -/
theorem parse_numbers_markers_limit :
    ∃ statements, parse "SELECT ? LIMIT ?, ?; SELECT '?' /* ? */, ?" = .ok statements ∧
      statements.flatMap Node.markers = [0, 2, 1, 3] ∧
      (statements.flatMap Node.markers).Perm ((List.range 4).map Int.ofNat) := by
  have marked : (parse "SELECT ? LIMIT ?, ?; SELECT '?' /* ? */, ?").toOption.map
      (·.flatMap Node.markers) = some [0, 2, 1, 3] := by
    decide +kernel
  cases parsed : parse "SELECT ? LIMIT ?, ?; SELECT '?' /* ? */, ?" with
  | error e =>
    rw [parsed] at marked
    cases marked
  | ok statements =>
    rw [parsed] at marked
    have orders : statements.flatMap Node.markers = [0, 2, 1, 3] := Option.some.inj marked
    have numbers := (parse_numbers_markers parsed).2.2
    have count : 4 = questions (tokens "SELECT ? LIMIT ?, ?; SELECT '?' /* ? */, ?") := by
      simpa [orders] using numbers.length_eq
    exact ⟨statements, rfl, orders, count ▸ numbers⟩

end SqlSyntax.Script
