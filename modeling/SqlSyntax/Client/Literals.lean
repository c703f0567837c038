import SqlSyntax.Digest.Sha256
import SqlSyntax.Lexical.Lexeme
import SqlSyntax.Text.Shown
import SqlSyntax.Text.Utf8

/-! The shape of a query: its text with every string and number replaced by a numbered placeholder,
and a short digest of that. -/

namespace SqlSyntax.Literals

/-- The word ends behind the characters ahead. -/
def endsWord (cs : List Char) : Bool :=
  !(cs.head?.any Text.isWordChar)

/-- `0` and a mark, then digits of that base up to the end of the word. -/
def markedLength? (mark : Char) (isBaseDigit : Char → Bool) : List Char → Option Nat
  | '0' :: m :: rest =>
    let n := Lexeme.runLength isBaseDigit rest
    if m = mark ∧ 0 < n ∧ endsWord (rest.drop n) then some (n + 2) else none
  | _ => none

/-- A mark and hexadecimal digits between quotes. -/
def quotedDigitsLength? : List Char → Option Nat
  | m :: quote :: rest =>
    let n := Lexeme.runLength Lexeme.isHexDigit rest
    if (m.toLower = 'x' ∨ m.toLower = 'b') ∧ quote = Text.singleQuote ∧
        (rest.drop n).head? = some Text.singleQuote then
      some (n + 3)
    else none
  | _ => none

/-- Where a string ends; `taken` characters lie behind. A doubled quote does not end it, nor does a
character after a backslash, which cannot be a line feed. If the end is missing, the string ends at
the first quote of the last pair. -/
def stringEnd? : List Char → Nat → Option Nat → Option Nat
  | [], _, last => last
  | [c], taken, last => if c = Text.singleQuote then some (taken + 1) else last
  | c :: d :: rest, taken, last =>
    if c = Text.singleQuote then
      if d = Text.singleQuote then stringEnd? rest (taken + 2) (some (taken + 1))
      else some (taken + 1)
    else if c = Text.backslash then
      if d = '\n' then last else stringEnd? rest (taken + 2) last
    else stringEnd? (d :: rest) (taken + 1) last

def stringLength? : List Char → Option Nat
  | c :: rest => if c = Text.singleQuote then stringEnd? rest 1 none else none
  | [] => none

/-- Digits, and a point with more digits where the word ends behind those. -/
def numberLength? (cs : List Char) : Option Nat :=
  let whole := Lexeme.runLength Text.isDigit cs
  if whole = 0 then none
  else
    match cs.drop whole with
    | '.' :: rest =>
      let places := Lexeme.runLength Text.isDigit rest
      if 0 < places ∧ endsWord (rest.drop places) then some (whole + 1 + places) else some whole
    | rest => if endsWord rest then some whole else none

/-- The length of the literal ahead. All but strings start a word. -/
def length? (insideWord : Bool) (cs : List Char) : Option Nat :=
  let atWord (n : Option Nat) : Option Nat := if insideWord then none else n
  (atWord (markedLength? 'x' Lexeme.isHexDigit cs)).or <|
    (atWord (markedLength? 'b' Lexeme.isBitDigit cs)).or <|
      (atWord (quotedDigitsLength? cs)).or <|
        (stringLength? cs).or (atWord (numberLength? cs))

/-- Replaces the literals ahead, the first by placeholder `next`. `skip` characters still belong to
the last one. -/
def replaceFrom (next skip : Nat) (insideWord : Bool) : List Char → List Char
  | [] => []
  | c :: rest =>
    let inside := Text.isWordChar c
    match skip with
    | skip + 1 => replaceFrom next skip inside rest
    | 0 =>
      match length? insideWord (c :: rest) with
      | some n => '$' :: (toString next).toList ++ replaceFrom (next + 1) (n - 1) inside rest
      | none => c :: replaceFrom next 0 inside rest

/-- The query with placeholders `$1`, `$2`, … for its literals. -/
def replaced (query : String) : String :=
  String.ofList (replaceFrom 1 0 false query.toList)

/-- The first sixteen digits of the digest of the query's shape. -/
def fingerprint (query : String) : String :=
  String.ofList (((Sha256.digest (Utf8.encode (replaced query))).take 2).flatMap fun w =>
    Text.hexDigits 8 w.toNat)

end SqlSyntax.Literals
