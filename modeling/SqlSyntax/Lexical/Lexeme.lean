import SqlSyntax.Lexical.Terminal
import SqlSyntax.Text.Blank
import SqlSyntax.Text.Digit
import SqlSyntax.Text.Letter
import SqlSyntax.Text.Quoted

/-! Spellings of the terminals. Each recogniser looks at the characters ahead and gives the length
of the lexeme that starts there, if one does. -/

namespace SqlSyntax.Lexeme

/-- The lower-case letter that a character is taken for in keywords and names: letters in either
case, the long s, the Kelvin sign, and i with or without its dot. -/
def foldLetter (c : Char) : Char :=
  if c.toNat = 0x17f then 's'
  else if c.toNat = 0x212a then 'k'
  else if c.toNat = 0x130 ∨ c.toNat = 0x131 then 'i'
  else c.toLower

/-- ASCII letters, the underscore and the dollar sign. -/
def isNameStart (c : Char) : Bool :=
  c.isAlpha || c == '_' || c == '$'

def isNameChar (c : Char) : Bool :=
  isNameStart c || c.isDigit

/-- How many characters of `cs`, from the first on, satisfy `p`. -/
def runLength (p : Char → Bool) (cs : List Char) : Nat :=
  (cs.takeWhile p).length

/-! ### Words -/

/-- The characters ahead spell out `word`, given in lower case; the rest is what follows. -/
def spelled? : List Char → List Char → Option (List Char)
  | [], cs => some cs
  | _ :: _, [] => none
  | w :: word, c :: cs => if foldLetter c = w then spelled? word cs else none

/-- The word is spelled out ahead and ends there. -/
def wordLength? (word : String) (cs : List Char) : Option Nat :=
  match spelled? word.toList cs with
  | some (c :: _) => if Text.isWordChar c then none else some word.length
  | some [] => some word.length
  | none => none

def symbolLength? (symbol : String) (cs : List Char) : Option Nat :=
  if symbol.toList.isPrefixOf cs then some symbol.length else none

/-- A name: letters, digits, underscores and dollar signs, not starting with a digit and not a
reserved word. -/
def nameLength? (cs : List Char) : Option Nat :=
  match cs with
  | [] => none
  | c :: _ =>
    if isNameStart (foldLetter c) then
      let spelling := (cs.takeWhile fun c => isNameChar (foldLetter c)).map foldLetter
      if reservedWords.contains (String.ofList spelling) then none else some spelling.length
    else none

/-- One or two at signs, then a name that may also hold dots. -/
def variableLength? : List Char → Option Nat
  | '@' :: '@' :: c :: rest =>
    if isNameStart c then some (3 + runLength (fun c => isNameChar c || c == '.') rest) else none
  | '@' :: c :: rest =>
    if isNameStart c then some (2 + runLength (fun c => isNameChar c || c == '.') rest) else none
  | _ => none

/-! ### Numbers -/

/-- An exponent mark, a sign or none, and digits; nothing otherwise. -/
def exponentLength : List Char → Nat
  | e :: rest =>
    if e == 'e' || e == 'E' then
      match rest with
      | s :: digits =>
        if s == '-' || s == '+' then
          let n := runLength Text.isDigit digits
          if n = 0 then 0 else n + 2
        else
          let n := runLength Text.isDigit rest
          if n = 0 then 0 else n + 1
      | [] => 0
    else 0
  | [] => 0

/-- Digits with at most one point among them, before, between or behind. -/
def mantissaLength? (cs : List Char) : Option Nat :=
  let whole := runLength Text.isDigit cs
  match cs.drop whole with
  | '.' :: rest =>
    let places := runLength Text.isDigit rest
    if whole = 0 ∧ places = 0 then none else some (whole + 1 + places)
  | _ => if whole = 0 then none else some whole

def numberLength? (cs : List Char) : Option Nat :=
  match mantissaLength? cs with
  | some n => some (n + exponentLength (cs.drop n))
  | none => none

def isHexDigit (c : Char) : Bool :=
  c.isDigit || ('a' ≤ c && c ≤ 'f') || ('A' ≤ c && c ≤ 'F')

def isBitDigit (c : Char) : Bool :=
  c == '0' || c == '1'

/-- `0` and a mark followed by digits up to the end of the word, or a mark and quoted digits, which
may be none. -/
def basedLength? (mark : Char) (isBaseDigit : Char → Bool) : List Char → Option Nat
  | '0' :: m :: rest =>
    let n := runLength isBaseDigit rest
    if m = mark ∧ 0 < n ∧ !((rest.drop n).head?.any isNameChar) then some (n + 2) else none
  | m :: quote :: rest =>
    let n := runLength isBaseDigit rest
    if m.toLower = mark ∧ quote = Text.singleQuote ∧
        (rest.drop n).head? = some Text.singleQuote then
      some (n + 3)
    else none
  | _ => none

/-! ### Quoted text -/

/-- Where a quoted text ends. `taken` characters lie behind, the opening quote included; a doubled
quote and, with `escapes`, a character after a backslash do not end it. If the end is missing, the
text ends at the first quote of the last pair. A text of `least` characters or more behind the
opening quote is required. -/
def closing (quote : Char) (escapes : Bool) (least : Nat) :
    List Char → Nat → Option Nat → Option Nat
  | [], _, last => last
  | [c], taken, last => if c = quote ∧ least < taken then some (taken + 1) else last
  | c :: d :: rest, taken, last =>
    if c = quote then
      if d = quote then
        closing quote escapes least rest (taken + 2)
          (if least < taken then some (taken + 1) else last)
      else if least < taken then some (taken + 1)
      else last
    else if c = Text.backslash ∧ escapes then closing quote escapes least rest (taken + 2) last
    else closing quote escapes least (d :: rest) (taken + 1) last

def stringLength? : List Char → Option Nat
  | quote :: rest =>
    if quote = Text.singleQuote ∨ quote = Text.doubleQuote then closing quote true 0 rest 1 none
    else none
  | [] => none

def quotedNameLength? : List Char → Option Nat
  | quote :: rest =>
    if quote = Text.backQuote then closing quote false 1 rest 1 none else none
  | [] => none

/-! ### Operators -/

def comparisonLength? : List Char → Option Nat
  | '<' :: '=' :: '>' :: _ => some 3
  | '<' :: '>' :: _ => some 2
  | '!' :: '=' :: _ => some 2
  | '<' :: '=' :: _ => some 2
  | '>' :: '=' :: _ => some 2
  | '<' :: _ => some 1
  | '>' :: _ => some 1
  | _ => none

def shiftLength? : List Char → Option Nat
  | '<' :: '<' :: _ => some 2
  | '>' :: '>' :: _ => some 2
  | _ => none

/-! ### Blanks -/

/-- What stands behind the first end of a block comment, counted from `taken`. -/
def blockEnd? : List Char → Nat → Option Nat
  | '*' :: '/' :: _, taken => some (taken + 2)
  | _ :: rest, taken => blockEnd? rest (taken + 1)
  | [], _ => none

/-- The length of the white space or comment ahead; a comment that is never closed is none. -/
def blankLength? : List Char → Option Nat
  | '#' :: rest => some (1 + runLength (· != '\n') rest)
  | '-' :: '-' :: rest =>
    if rest.head?.all Text.isBlank then some (2 + runLength (· != '\n') rest) else none
  | '/' :: '*' :: rest => blockEnd? rest 2
  | c :: rest => if Text.isLayout c then some (1 + runLength Text.isLayout rest) else none
  | [] => none

end SqlSyntax.Lexeme

namespace SqlSyntax.Terminal

/-- The length of the lexeme of the terminal that starts the given characters. -/
def lexemeLength? (t : Terminal) (cs : List Char) : Option Nat :=
  match t with
  | .number => Lexeme.numberLength? cs
  | .hexNumber => Lexeme.basedLength? 'x' Lexeme.isHexDigit cs
  | .bitNumber => Lexeme.basedLength? 'b' Lexeme.isBitDigit cs
  | .string => Lexeme.stringLength? cs
  | .name => Lexeme.nameLength? cs
  | .quotedName => Lexeme.quotedNameLength? cs
  | .variableName => Lexeme.variableLength? cs
  | .comparison => Lexeme.comparisonLength? cs
  | .shift => Lexeme.shiftLength? cs
  | .endOfInput => none
  | t =>
    match t.words.findSome? (Lexeme.wordLength? · cs) with
    | some n => some n
    | none => t.symbol?.bind (Lexeme.symbolLength? · cs)

end SqlSyntax.Terminal
