import SqlSyntax.Wire.Value

/-! Writing values as JSON, in three styles: compact and terse, with every character that needs no
escape as it is, and spaced, in ASCII only. Compact and terse differ in how they write doubles. -/

namespace SqlSyntax.Json

def hexCode (code : Nat) : List Char :=
  Text.backslash :: 'u' :: Text.hexDigits 4 code

/-- The escapes that both styles share. -/
def commonEscape? (c : Char) : Option (List Char) :=
  if c = Text.doubleQuote ∨ c = Text.backslash then some [Text.backslash, c]
  else if c = '\x08' then some [Text.backslash, 'b']
  else if c = '\t' then some [Text.backslash, 't']
  else if c = '\n' then some [Text.backslash, 'n']
  else if c = '\x0c' then some [Text.backslash, 'f']
  else if c = '\r' then some [Text.backslash, 'r']
  else if c.toNat < 32 then some (hexCode c.toNat)
  else none

/-- All but control characters, quotes and backslashes stand for themselves. -/
def compactChar (c : Char) : List Char :=
  (commonEscape? c).getD [c]

/-- Characters outside printable ASCII are written by their UTF-16 units. -/
def asciiChar (c : Char) : List Char :=
  match commonEscape? c with
  | some escaped => escaped
  | none =>
    if c.toNat < 127 then [c]
    else if c.toNat < 0x10000 then hexCode c.toNat
    else
      let offset := c.toNat - 0x10000
      hexCode (0xd800 + offset / 0x400) ++ hexCode (0xdc00 + offset % 0x400)

/-- Positional from `0.00001` on; exponents have a sign and no zeros in front. -/
def compactLayout : Binary64.Layout := ⟨-5, Decimal.exponentText⟩

def compactFloat : Binary64 → String
  | .finite negative mantissa exponent =>
    (if negative then "-" else "") ++ compactLayout.magnitude mantissa exponent
  | .infinite _ => "null"
  | .nan => "null"

def spacedFloat : Binary64 → String
  | .infinite negative => if negative then "-Infinity" else "Infinity"
  | .nan => "NaN"
  | x => x.text

structure Style where
  comma : String
  colon : String
  char : Char → List Char
  float : Binary64 → String

def compact : Style := ⟨",", ":", compactChar, compactFloat⟩

def terse : Style := ⟨",", ":", compactChar, spacedFloat⟩

def spaced : Style := ⟨", ", ": ", asciiChar, spacedFloat⟩

def Style.quoted (style : Style) (s : String) : String :=
  String.ofList (Text.doubleQuote :: s.toList.flatMap style.char ++ [Text.doubleQuote])

/-- Values that JSON has no form for are written as texts. -/
def Style.literal (style : Style) : Literal → String
  | .null => "null"
  | .boolean b => if b then "true" else "false"
  | .integer n => toString n
  | .decimal d => style.quoted d.text
  | .float x => style.float x
  | .text s => style.quoted s
  | .binary digits base => style.quoted (Literal.binary digits base).shown

mutual

def write (style : Style) : Value → String
  | .plain l => style.literal l
  | .list items => "[" ++ writeItems style items ++ "]"
  | .record fields => "\x7b" ++ writeFields style fields ++ "\x7d"

def writeItems (style : Style) : List Value → String
  | [] => ""
  | [v] => write style v
  | v :: rest => write style v ++ style.comma ++ writeItems style rest

def writeFields (style : Style) : List (String × Value) → String
  | [] => ""
  | [(key, v)] => style.quoted key ++ style.colon ++ write style v
  | (key, v) :: rest =>
    style.quoted key ++ style.colon ++ write style v ++ style.comma ++ writeFields style rest

end

end SqlSyntax.Json
