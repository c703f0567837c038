import SqlSyntax.Lexical.Token
import SqlSyntax.Proofs.Lexical.Spelling

/-!
# Quoted texts as tokens

A string or a name that has been written between quotes is one token wherever it stands, unless the
text goes on with another such quote: nothing in it ends the token early, nothing behind it is drawn
into it, and the token is read back as what was written. Strings may also be written by others, in
either kind of quotes and with quotes doubled or escaped. What such a literal means is told by one
scan from left to right.
-/

namespace SqlSyntax

/-- The token of that kind at the head of a text, and the text behind it. -/
def Terminal.token? (t : Terminal) (place : Position) (text : String) : Option (Token × String) :=
  (t.lexemeLength? text.toList).map fun n =>
    (⟨t, String.ofList (text.toList.take n), place⟩, String.ofList (text.toList.drop n))

theorem Terminal.token?_append {t : Terminal} {written rest : String}
    (found : t.lexemeLength? (written.toList ++ rest.toList) = some written.toList.length)
    (place : Position) : t.token? place (written ++ rest) = some (⟨t, written, place⟩, rest) := by
  rw [token?, String.toList_append, found, Option.map_some, List.take_left, List.drop_left,
    String.ofList_toList, String.ofList_toList]

namespace Text

/-- Strings and names that are written between quotes stay there. -/
theorem quoted_token (rest : String) (place : Position) :
    (∀ value : String, Avoids singleQuote rest.toList →
        ∃ token, Terminal.string.token? place (quoteString value ++ rest) = some (token, rest) ∧
          token.text = quoteString value ∧ unquoteString token.text = value) ∧
      ∀ name : String, name ≠ "" → Avoids backQuote rest.toList →
        ∃ token, Terminal.quotedName.token? place (quoteName name ++ rest) = some (token, rest) ∧
          token.text = quoteName name ∧ unquoteName token.text = name := by
  constructor
  · intro value avoids
    have found := Lexeme.stringLength?_quoteString avoids value
    exact ⟨_, Terminal.token?_append (t := .string) found place, rfl,
      unquoteString_quoteString value⟩
  · intro name named avoids
    have found := Lexeme.quotedNameLength?_quoteName avoids named
    exact ⟨_, Terminal.token?_append (t := .quotedName) found place, rfl,
      unquoteName_quoteName name⟩

/-- A string that ends with a backslash and a name that is a back quote, in front of quotes of the
other kind. -/
theorem quoted_token_backslash :
    (Avoids singleQuote "` OR 'x".toList ∧
        ∃ token, Terminal.string.token? .start (quoteString "it's\\" ++ "` OR 'x") =
            some (token, "` OR 'x") ∧
          token.text = quoteString "it's\\" ∧ unquoteString token.text = "it's\\") ∧
      ("`" ≠ "" ∧ Avoids backQuote "' OR `x".toList) ∧
        ∃ token, Terminal.quotedName.token? .start (quoteName "`" ++ "' OR `x") =
            some (token, "' OR `x") ∧
          token.text = quoteName "`" ∧ unquoteName token.text = "`" := by
  have first : Avoids singleQuote "` OR 'x".toList := by simp [Avoids, singleQuote]
  have second : Avoids backQuote "' OR `x".toList := by simp [Avoids, backQuote]
  have named : "`" ≠ "" := by decide
  exact ⟨⟨first, (quoted_token _ _).1 _ first⟩, ⟨named, second⟩,
    (quoted_token _ _).2 _ named second⟩

/-- To collapse the pairs of quotes and then to resolve the escapes is to read the literal once,
from the left to the right. -/
theorem unquoteString_eq_decodeOnce {literal : String}
    (whole : Terminal.string.lexemeLength? literal.toList = some literal.toList.length) :
    ∃ quote body, (quote = singleQuote ∨ quote = doubleQuote) ∧
      literal.toList = quote :: (body ++ [quote]) ∧
      unquoteString literal = String.ofList (decodeOnce quote body) := by
  obtain ⟨quote, body, quoted, split, inside⟩ := Lexeme.stringLength?_eq_length_iff.mp whole
  have apart : quote ≠ backslash := by
    obtain rfl | rfl := quoted <;> decide
  refine ⟨quote, body, quoted, split, ?_⟩
  rw [unquoteString, unquoteString?, split]
  simp only [List.dropLast_concat, resolveEscapes_collapsePairs apart inside, Option.getD_some]

/-- An escaped quote in front of a pair of quotes, where the two passes pair them differently. -/
theorem unquoteString_eq_decodeOnce_run :
    Terminal.string.lexemeLength? "'\\'''\\\\''\\%\\n'".toList =
        some "'\\'''\\\\''\\%\\n'".toList.length ∧
      ∃ quote body, (quote = singleQuote ∨ quote = doubleQuote) ∧
        "'\\'''\\\\''\\%\\n'".toList = quote :: (body ++ [quote]) ∧
        unquoteString "'\\'''\\\\''\\%\\n'" = String.ofList (decodeOnce quote body) := by
  have whole : Terminal.string.lexemeLength? "'\\'''\\\\''\\%\\n'".toList =
      some "'\\'''\\\\''\\%\\n'".toList.length := by decide
  exact ⟨whole, unquoteString_eq_decodeOnce whole⟩

end Text

end SqlSyntax
