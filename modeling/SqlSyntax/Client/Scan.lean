import SqlSyntax.Text.Blank
import SqlSyntax.Text.Letter
import SqlSyntax.Text.Quoted

/-! Rough tokens of a text, taken without parsing it: words, texts between single quotes, and single
characters of any other kind but blanks. -/

namespace SqlSyntax.Scan

/-- The length of the token ahead, if it is not a blank. -/
def tokenLength? : List Char → Option Nat
  | [] => none
  | c :: rest =>
    if Text.isWordChar c then some ((rest.takeWhile Text.isWordChar).length + 1)
    else if Text.isBlank c then none
    else
      let inside := (rest.takeWhile (· != Text.singleQuote)).length
      if c = Text.singleQuote ∧ inside < rest.length then some (inside + 2) else some 1

/-- `fuel` bounds the number of steps; each takes at least one character. -/
def tokensFrom : Nat → List Char → List (List Char)
  | 0, _ => []
  | fuel + 1, cs =>
    match tokenLength? cs with
    | some n => cs.take n :: tokensFrom fuel (cs.drop n)
    | none =>
      match cs with
      | [] => []
      | _ :: rest => tokensFrom fuel rest

def tokens (sql : String) : List String :=
  let cs := sql.toList
  (tokensFrom cs.length cs).map String.ofList

end SqlSyntax.Scan
