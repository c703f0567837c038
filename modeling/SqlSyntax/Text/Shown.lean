import SqlSyntax.Text.Printable
import SqlSyntax.Text.Quoted

/-! The form in which messages show a text: between single quotes, or double quotes when that saves
an escape, with everything that has no visible form escaped by its code. -/

namespace SqlSyntax.Text

def hexDigit (n : Nat) : Char :=
  if n < 10 then Char.ofNat (48 + n) else Char.ofNat (87 + n)

/-- The last `width` digits of `n` in base 16, lower case. -/
def hexDigits : Nat → Nat → List Char
  | 0, _ => []
  | width + 1, n => hexDigits width (n / 16) ++ [hexDigit (n % 16)]

/-- A character by its code. -/
def codeOf (c : Char) : List Char :=
  if c.toNat < 0x100 then backslash :: 'x' :: hexDigits 2 c.toNat
  else if c.toNat < 0x10000 then backslash :: 'u' :: hexDigits 4 c.toNat
  else backslash :: 'U' :: hexDigits 8 c.toNat

def showChar (quote c : Char) : List Char :=
  if c = quote ∨ c = backslash then [backslash, c]
  else if c = '\t' then [backslash, 't']
  else if c = '\n' then [backslash, 'n']
  else if c = '\r' then [backslash, 'r']
  else if isPrintable c then [c]
  else codeOf c

def shown (s : String) : String :=
  let cs := s.toList
  let quote :=
    if cs.contains singleQuote && !cs.contains doubleQuote then doubleQuote else singleQuote
  String.ofList (quote :: cs.flatMap (showChar quote) ++ [quote])

/-- A shown text with its characters beyond ASCII written by their codes too. -/
def shownAscii (s : String) : String :=
  String.ofList (s.toList.flatMap fun c => if c.toNat < 0x80 then [c] else codeOf c)

end SqlSyntax.Text
