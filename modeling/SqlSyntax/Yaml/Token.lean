import SqlSyntax.Text.Quoted
import SqlSyntax.Wire.JsonReader
import SqlSyntax.Yaml.Cursor
import SqlSyntax.Yaml.Fault

/-! The tokens of a YAML text. Where blocks start and end is told by indentation. A scalar or flow
collection is a key if a colon follows it on the same line; that is known only at the colon, so the
token that announces the key is put in afterwards. Anchors, tags, directives and scalars in blocks
are not known here. -/

namespace SqlSyntax.Yaml

inductive Token where
  | documentStart
  | documentEnd
  | listStart
  | mappingStart
  /-- The end of a list or mapping in a block. -/
  | blockEnd
  | flowListStart
  | flowListEnd
  | flowMappingStart
  | flowMappingEnd
  /-- The dash before an item. -/
  | entry
  | comma
  /-- A key comes next. -/
  | key
  /-- The colon behind a key. -/
  | value
  | scalar (text : String) (plain : Bool)
deriving DecidableEq, Repr

/-! ### Scalars -/

def isFlowMark (c : Char) : Bool :=
  c == ',' || c == '[' || c == ']' || c == '\x7b' || c == '\x7d'

/-- The text that line breaks are read as: a space for a line feed alone; the first of several is
dropped if it is a line feed. -/
def folded : List Char → List Char
  | ['\n'] => [' ']
  | '\n' :: more => more
  | breaks => breaks

/-- How far a plain scalar goes without a blank. -/
def chunkLength (flow : Bool) : List Char → Nat
  | [] => 0
  | c :: rest =>
    if gapAhead (c :: rest) then 0
    else if c == ':' && (gapAhead rest || (flow && rest.head?.any isFlowMark)) then 0
    else if flow && (isFlowMark c || c == '?') then 0
    else chunkLength flow rest + 1

/-- The blanks and line breaks ahead as part of a plain scalar, and the place past them. -/
def plainGap (cur : Cursor) : List Char × Cursor :=
  let spaces := cur.rest.takeWhile (· == ' ')
  let next := cur.advance spaces.length
  if next.rest.head?.any isBreak then
    let (breaks, next) := next.breaks (· == ' ')
    (folded breaks, next)
  else (spaces, next)

/-- A plain scalar after `text`; lines after the first are indented by more than `indent`. Also
whether line breaks follow it, and the place past them. -/
def plainFrom (flow : Bool) (indent : Int) :
    Nat → List Char → Cursor → List Char × Bool × Cursor
  | 0, text, cur => (text, false, cur)
  | fuel + 1, text, cur =>
    let n := chunkLength flow cur.rest
    let text := text ++ cur.rest.take n
    let cur := cur.advance n
    let (gap, next) := plainGap cur
    if gap.isEmpty || next.atMarker || next.rest.head? == some '#' ||
        (!flow && next.column ≤ indent) || chunkLength flow next.rest == 0 then
      (text, next.line != cur.line, next)
    else plainFrom flow indent fuel (text ++ gap) next

/-- A plain scalar may start here. -/
def startsPlain (flow : Bool) : List Char → Bool
  | [] => false
  | c :: rest =>
    if c == '-' then !gapAhead rest
    else if c == '?' || c == ':' then !flow && !gapAhead rest
    else !(gapAhead (c :: rest) || isFlowMark c ||
      ['#', '&', '*', '!', '|', '>', '\x27', '\x22', '%', '@', '\x60'].contains c)

/-- The value of a row of hexadecimal digits. -/
def hexCode? (cs : List Char) : Option Nat :=
  cs.foldl (fun n c => do some ((← n) * 16 + (← Json.hexValue? c))) (some 0)

/-- The character whose code the next `n` digits give. -/
def codedCharacter (n : Nat) (cs : List Char) : Except Fault Char :=
  match hexCode? (cs.take n) with
  | some code =>
    if cs.length < n then .error .malformed
    else if 0x7fffffff < code then .error .codeOverflow
    else if 0x10ffff < code then .error .noCharacter
    else .ok (Char.ofNat code)
  | none => .error .malformed

/-- How many characters an escape takes behind its backslash, and what it stands for. -/
def escape : List Char → Except Fault (Nat × Char)
  | [] => .error .malformed
  | c :: rest =>
    match c with
    | '0' => .ok (1, '\x00')
    | 'a' => .ok (1, '\x07')
    | 'b' => .ok (1, '\x08')
    | 't' => .ok (1, '\t')
    | '\t' => .ok (1, '\t')
    | 'n' => .ok (1, '\n')
    | 'v' => .ok (1, '\x0b')
    | 'f' => .ok (1, '\x0c')
    | 'r' => .ok (1, '\r')
    | 'e' => .ok (1, '\x1b')
    | ' ' => .ok (1, ' ')
    | '\x22' => .ok (1, c)
    | '\x5c' => .ok (1, c)
    | '/' => .ok (1, '/')
    | 'N' => .ok (1, '\u0085')
    | '_' => .ok (1, '\u00a0')
    | 'L' => .ok (1, '\u2028')
    | 'P' => .ok (1, '\u2029')
    | 'x' => (codedCharacter 2 rest).map fun d => (3, d)
    | 'u' => (codedCharacter 4 rest).map fun d => (5, d)
    | 'U' => (codedCharacter 8 rest).map fun d => (9, d)
    | _ => .error .malformed

/-- The rest of a quoted scalar behind `text`. -/
def quotedFrom (quote : Char) : Nat → List Char → Cursor → Except Fault (List Char × Cursor)
  | 0, _, _ => .error .malformed
  | fuel + 1, text, cur =>
    match cur.rest with
    | [] => .error .malformed
    | c :: rest =>
      if c = quote then
        if quote = Text.singleQuote ∧ rest.head? = some quote then
          quotedFrom quote fuel (text ++ [quote]) (cur.advance 2)
        else .ok (text, cur.step)
      else if c = Text.backslash ∧ quote = Text.doubleQuote then
        if rest.head?.any isBreak then
          let (breaks, next) := cur.step.breaks isBlank
          if next.atMarker then .error .malformed
          else quotedFrom quote fuel (text ++ breaks.drop 1) next
        else
          match escape rest with
          | .ok (n, meant) => quotedFrom quote fuel (text ++ [meant]) (cur.advance (n + 1))
          | .error e => .error e
      else if gapAhead cur.rest then
        let blanks := cur.rest.takeWhile isBlank
        let next := cur.advance blanks.length
        if next.rest.head?.any isBreak then
          let (breaks, next) := next.breaks isBlank
          if next.atMarker then .error .malformed
          else quotedFrom quote fuel (text ++ folded breaks) next
        else quotedFrom quote fuel (text ++ blanks) next
      else quotedFrom quote fuel (text ++ [c]) cur.step

/-! ### Reading tokens -/

/-- A place where a key may have started. -/
structure Candidate where
  /-- How many tokens are before it. -/
  position : Nat
  /-- Only a key can stand there. -/
  required : Bool
  start : Cursor

structure Scan where
  cursor : Cursor
  tokens : Array Token
  /-- The column of the innermost block. -/
  indent : Int
  /-- The columns of the blocks around it, innermost first. -/
  outer : List Int
  /-- A key may start here. -/
  keyAllowed : Bool
  /-- The last candidate in the innermost flow collection. -/
  candidate : Option Candidate
  /-- The candidates around each flow collection, innermost first. -/
  around : List (Option Candidate)

namespace Scan

def start (text : List Char) : Scan :=
  ⟨Cursor.start text, #[], -1, [], true, none, []⟩

def inFlow (s : Scan) : Bool :=
  !s.around.isEmpty

def push (s : Scan) (t : Token) : Scan :=
  { s with tokens := s.tokens.push t }

def insert (s : Scan) (position : Nat) (t : Token) : Scan :=
  { s with
    tokens := (s.tokens.extract 0 position).push t ++ s.tokens.extract position s.tokens.size }

def closeFrom (column : Int) : List Int → Scan → Scan
  | [], s => s
  | indent :: outer, s =>
    if column < s.indent then closeFrom column outer { s.push .blockEnd with indent, outer }
    else s

/-- Ends the blocks that are indented by more than `column`. -/
def closeBlocks (s : Scan) (column : Int) : Scan :=
  if s.inFlow then s else closeFrom column s.outer s

/-- Starts a block at `column`, unless it goes on there, before the token at `position`. -/
def openBlock (s : Scan) (column position : Nat) (t : Token) : Scan :=
  if s.indent < column then
    { s.insert position t with indent := column, outer := s.indent :: s.outer }
  else s

/-- The candidate is no key. -/
def forget (s : Scan) : Except Fault Scan :=
  if s.candidate.any (·.required) then .error .malformed else .ok { s with candidate := none }

/-- The longest way from the start of a key to its colon. -/
def keyLimit : Nat := 1024

def isStale (cur : Cursor) (c : Candidate) : Bool :=
  c.start.line != cur.line || keyLimit < cur.offset - c.start.offset

/-- Forgets the candidates that are too far behind. -/
def forgetStale (s : Scan) : Except Fault Scan :=
  let stale := isStale s.cursor
  if (s.candidate :: s.around).any fun c => c.any fun c => stale c && c.required then
    .error .malformed
  else
    .ok { s with
      candidate := s.candidate.filter (!stale ·)
      around := s.around.map fun c => c.filter (!stale ·) }

/-- What comes next may be a key. -/
def note (s : Scan) : Except Fault Scan :=
  if s.keyAllowed then do
    let s ← s.forget
    let required := !s.inFlow && s.indent == s.cursor.column
    .ok { s with candidate := some ⟨s.tokens.size, required, s.cursor⟩ }
  else .ok s

/-- Past blanks, comments and line breaks to the next token; blocks that end before it are
closed. -/
def settle (s : Scan) : Except Fault Scan := do
  let cursor := s.cursor.skip
  let newLine := !s.inFlow && cursor.line != s.cursor.line
  let s ← { s with cursor, keyAllowed := s.keyAllowed || newLine }.forgetStale
  .ok (s.closeBlocks cursor.column)

def marker (s : Scan) (t : Token) : Except Fault Scan := do
  let s ← (s.closeBlocks (-1)).forget
  .ok { s.push t with cursor := s.cursor.advance 3, keyAllowed := false }

def openFlow (s : Scan) (t : Token) : Except Fault Scan := do
  let s ← s.note
  .ok { s.push t with
    cursor := s.cursor.step
    around := s.candidate :: s.around
    candidate := none
    keyAllowed := true }

def closeFlow (s : Scan) (t : Token) : Except Fault Scan := do
  let s ← s.forget
  match s.around with
  | [] => .error .malformed
  | candidate :: around =>
    .ok { s.push t with cursor := s.cursor.step, candidate, around, keyAllowed := false }

def separator (s : Scan) : Except Fault Scan := do
  let s ← s.forget
  .ok { s.push .comma with cursor := s.cursor.step, keyAllowed := true }

/-- A dash, or a mark before or behind a key that is not known from its start. In a block it stands
only where a key may start. -/
def mark (s : Scan) (block t : Token) (keyAllowed : Bool) : Except Fault Scan :=
  if !s.inFlow && !s.keyAllowed then .error .malformed
  else do
    let s := if s.inFlow then s else s.openBlock s.cursor.column s.tokens.size block
    let s ← s.forget
    .ok { s.push t with cursor := s.cursor.step, keyAllowed }

/-- A colon; what the candidate marks is the key. -/
def colon (s : Scan) : Except Fault Scan :=
  match s.candidate with
  | none => s.mark .mappingStart .value (!s.inFlow)
  | some c =>
    let s := s.insert c.position .key
    let s := if s.inFlow then s else s.openBlock c.start.column c.position .mappingStart
    .ok { s.push .value with cursor := s.cursor.step, candidate := none, keyAllowed := false }

def quoted (s : Scan) (quote : Char) : Except Fault Scan := do
  let s ← s.note
  let (text, cursor) ← quotedFrom quote (s.cursor.rest.length + 1) [] s.cursor.step
  .ok { s.push (.scalar (String.ofList text) false) with cursor, keyAllowed := false }

def plain (s : Scan) : Except Fault Scan := do
  let s ← s.note
  let (text, newLine, cursor) := plainFrom s.inFlow s.indent s.cursor.rest.length [] s.cursor
  .ok { s.push (.scalar (String.ofList text) true) with cursor, keyAllowed := newLine }

/-- The token at the cursor. -/
def next (s : Scan) : Except Fault Scan :=
  match s.cursor.rest with
  | [] => .ok s
  | c :: rest =>
    let apart := s.inFlow || gapAhead rest
    if s.cursor.opens "---" then s.marker .documentStart
    else if s.cursor.opens "..." then s.marker .documentEnd
    else if c = '[' then s.openFlow .flowListStart
    else if c = '\x7b' then s.openFlow .flowMappingStart
    else if c = ']' then s.closeFlow .flowListEnd
    else if c = '\x7d' then s.closeFlow .flowMappingEnd
    else if c = ',' then s.separator
    else if c = '-' ∧ gapAhead rest then s.mark .listStart .entry true
    else if c = '?' ∧ apart then s.mark .mappingStart .key (!s.inFlow)
    else if c = ':' ∧ apart then s.colon
    else if c = Text.singleQuote ∨ c = Text.doubleQuote then s.quoted c
    else if startsPlain s.inFlow s.cursor.rest then s.plain
    else .error .malformed

/-- All tokens from the cursor on. -/
def finish : Nat → Scan → Except Fault (List Token)
  | 0, _ => .error .malformed
  | fuel + 1, s => do
    let s ← s.settle
    if s.cursor.rest.isEmpty then
      let s ← (s.closeBlocks (-1)).forget
      .ok s.tokens.toList
    else
      let s ← s.next
      finish fuel s

end Scan

def tokens (text : List Char) : Except Fault (List Token) :=
  (Scan.start text).finish (text.length + 1)

end SqlSyntax.Yaml
