/-! A place in a YAML text, with what is still to be read there. A text has its line breaks as line
feeds, line separators and paragraph separators. -/

namespace SqlSyntax.Yaml

structure Cursor where
  rest : List Char
  /-- How many characters are behind. -/
  offset : Nat
  line : Nat
  column : Nat

def isBreak (c : Char) : Bool :=
  c == '\n' || c == '\u2028' || c == '\u2029'

def isBlank (c : Char) : Bool :=
  c == ' ' || c == '\t'

/-- The mark that may open a text; it takes no column. -/
def byteOrderMark : Char := '\ufeff'

/-- The end, a blank or a line break comes next. -/
def gapAhead : List Char → Bool
  | [] => true
  | c :: _ => isBlank c || isBreak c

namespace Cursor

/-- The start of a text, behind its byte order mark. -/
def start (text : List Char) : Cursor :=
  match text with
  | c :: rest => if c = byteOrderMark then ⟨rest, 1, 0, 0⟩ else ⟨text, 0, 0, 0⟩
  | [] => ⟨[], 0, 0, 0⟩

def step (cur : Cursor) : Cursor :=
  match cur.rest with
  | [] => cur
  | c :: rest =>
    if isBreak c then ⟨rest, cur.offset + 1, cur.line + 1, 0⟩
    else if c = byteOrderMark then ⟨rest, cur.offset + 1, cur.line, cur.column⟩
    else ⟨rest, cur.offset + 1, cur.line, cur.column + 1⟩

def advance (cur : Cursor) : Nat → Cursor
  | 0 => cur
  | n + 1 => cur.step.advance n

/-- Past the characters ahead that satisfy `p`. -/
def past (cur : Cursor) (p : Char → Bool) : Cursor :=
  cur.advance (cur.rest.takeWhile p).length

def skipFrom (comment : Bool) : List Char → Cursor → Cursor
  | [], cur => cur
  | c :: rest, cur =>
    if isBreak c then skipFrom false rest cur.step
    else if comment || c == ' ' then skipFrom comment rest cur.step
    else if c = '#' then skipFrom true rest cur.step
    else cur

/-- Past spaces, comments and line breaks. -/
def skip (cur : Cursor) : Cursor :=
  skipFrom false cur.rest cur

def opens (marker : String) (cur : Cursor) : Bool :=
  cur.column == 0 && marker.toList.isPrefixOf cur.rest && gapAhead (cur.rest.drop 3)

/-- A document starts or ends here. -/
def atMarker (cur : Cursor) : Bool :=
  cur.opens "---" || cur.opens "..."

def breaksFrom (isSkipped : Char → Bool) :
    List Char → List Char → Cursor → List Char × Cursor
  | [], breaks, cur => (breaks, cur)
  | c :: rest, breaks, cur =>
    if isBreak c then
      if cur.step.atMarker then (breaks ++ [c], cur.step)
      else breaksFrom isSkipped rest (breaks ++ [c]) cur.step
    else if isSkipped c then breaksFrom isSkipped rest breaks cur.step
    else (breaks, cur)

/-- The line breaks ahead, and the place past them and the skipped characters among them. A marker
of a document ends them. -/
def breaks (cur : Cursor) (isSkipped : Char → Bool) : List Char × Cursor :=
  breaksFrom isSkipped cur.rest [] cur

end Cursor

end SqlSyntax.Yaml
