import SqlSyntax.Text.Blank
import SqlSyntax.Text.Quoted
import SqlSyntax.Wire.Entries

/-! Files of variables: one `NAME=value` a line, with comments, quotes, and references to other
variables. A line that is none of that is passed over. -/

namespace SqlSyntax.Dotenv

/-- A blank that does not end the line. -/
def isInlineBlank (c : Char) : Bool :=
  Text.isBlank c && c != '\n' && c != '\r'

def isLineEnd (c : Char) : Bool :=
  c == '\n' || c == '\r'

def skipInline (cs : List Char) : List Char :=
  cs.dropWhile isInlineBlank

/-- What follows the end of the line, if nothing but blanks stands before it. -/
def afterLineEnd? (cs : List Char) : Option (List Char) :=
  match skipInline cs with
  | [] => some []
  | '\r' :: '\n' :: rest => some rest
  | '\n' :: rest => some rest
  | '\r' :: rest => some rest
  | _ => none

/-- What follows a comment, blanks before it included. -/
def afterComment (cs : List Char) : List Char :=
  match skipInline cs with
  | '#' :: rest => rest.dropWhile fun c => !isLineEnd c
  | _ => cs

/-- What follows the next line. -/
def afterLine (cs : List Char) : List Char :=
  (cs.dropWhile fun c => !isLineEnd c).drop 1

/-- How far a quoted text goes from the `n`th character on: up to a quote that no backslash escapes,
or else up to the last quote. A backslash that is itself escaped escapes nothing. -/
def quotedLength? (quote : Char) : List Char → Nat → Option Nat → Option Nat
  | [], _, last => last
  | [c], n, last => if c = quote then some n else last
  | c :: d :: rest, n, last =>
    if c = quote then some n
    else if c = Text.backslash ∧ d = quote then quotedLength? quote rest (n + 2) (some (n + 1))
    else if c = Text.backslash ∧ d = Text.backslash then quotedLength? quote rest (n + 2) last
    else quotedLength? quote (d :: rest) (n + 1) last

/-- What a backslash and a character stand for between the given quotes. -/
def escapeOf? (quote c : Char) : Option Char :=
  if c = Text.backslash ∨ c = Text.singleQuote then some c
  else if quote = Text.singleQuote then none
  else match c with
    | '\x22' => some c
    | 'a' => some '\x07'
    | 'b' => some '\x08'
    | 'f' => some '\x0c'
    | 'n' => some '\n'
    | 'r' => some '\r'
    | 't' => some '\t'
    | 'v' => some '\x0b'
    | _ => none

def unescaped (quote : Char) : List Char → List Char
  | c :: d :: rest =>
    if c = Text.backslash then
      match escapeOf? quote d with
      | some e => e :: unescaped quote rest
      | none => c :: unescaped quote (d :: rest)
    else c :: unescaped quote (d :: rest)
  | rest => rest

/-- The text up to a comment that blanks stand before. -/
def upToComment : List Char → List Char
  | [] => []
  | c :: rest =>
    if Text.isBlank c ∧ (rest.dropWhile Text.isBlank).head? = some '#' then []
    else c :: upToComment rest

def trimEnd (cs : List Char) : List Char :=
  (cs.reverse.dropWhile Text.isBlank).reverse

/-- The value behind an equals sign, and what follows it. Blanks behind the sign are no part of it,
but a comment may follow them. -/
def value? (cs : List Char) : Option (List Char × List Char) :=
  match skipInline cs with
  | [] => some ([], [])
  | c :: rest =>
    if c = Text.singleQuote ∨ c = Text.doubleQuote then
      (quotedLength? c rest 0 none).map fun n => (unescaped c (rest.take n), rest.drop (n + 1))
    else if isLineEnd c then some ([], c :: rest)
    else
      let line := cs.takeWhile fun c => !isLineEnd c
      some (trimEnd (skipInline (upToComment line)), cs.drop line.length)

/-- A name, quoted or not, and what follows it; a comment has none. -/
def key? (cs : List Char) : Option (Option (List Char) × List Char) :=
  match cs with
  | '#' :: _ => some (none, cs)
  | '\x27' :: rest =>
    let name := rest.takeWhile (· != '\x27')
    if name.isEmpty || rest.length ≤ name.length then none
    else some (some name, rest.drop (name.length + 1))
  | _ =>
    let name := cs.takeWhile fun c => !(c == '=' || c == '#' || Text.isBlank c)
    if name.isEmpty then none else some (some name, cs.drop name.length)

/-- The line ahead: its name and value, if it has them, and what follows it. If the line is none,
what stands behind the part of it that could be read. -/
def binding (cs : List Char) : Except (List Char) (Option (String × Option String) × List Char) :=
  let cs := match cs with
    | 'e' :: 'x' :: 'p' :: 'o' :: 'r' :: 't' :: c :: rest =>
      if isInlineBlank c then skipInline rest else cs
    | _ => cs
  match key? cs with
  | none => .error cs
  | some (name, rest) =>
    let rest := skipInline rest
    let given : Except (List Char) (Option (List Char) × List Char) := match rest with
      | '=' :: rest =>
        match value? rest with
        | some (v, rest) => .ok (some v, rest)
        | none => .error rest
      | rest => .ok (none, rest)
    match given with
    | .error rest => .error rest
    | .ok (v, rest) =>
      let rest := afterComment rest
      match afterLineEnd? rest with
      | none => .error rest
      | some rest =>
        .ok (name.map fun name => (String.ofList name, v.map String.ofList), rest)

/-- The bindings of a file in their order. `fuel` bounds the number of lines. -/
def bindings : Nat → List Char → List (String × Option String)
  | 0, _ => []
  | fuel + 1, cs =>
    match cs.dropWhile Text.isBlank with
    | [] => []
    | cs =>
      match binding cs with
      | .ok (found, rest) => found.toList ++ bindings fuel rest
      | .error rest => bindings fuel (afterLine rest)

/-- The text with all line ends alike. -/
def withLineEnds : List Char → List Char
  | '\r' :: '\n' :: rest => '\n' :: withLineEnds rest
  | '\r' :: rest => '\n' :: withLineEnds rest
  | c :: rest => c :: withLineEnds rest
  | [] => []

/-- A reference to a variable, written behind a dollar sign between braces, with a default or
without; and what follows it. -/
def reference? (cs : List Char) : Option (String × Option String × List Char) :=
  let name := cs.takeWhile fun c => c != '\x7d' && c != ':'
  match cs.drop name.length with
  | '\x7d' :: rest => some (String.ofList name, none, rest)
  | ':' :: '-' :: rest =>
    let default := rest.takeWhile (· != '\x7d')
    if rest.length ≤ default.length then none
    else some (String.ofList name, some (String.ofList default), rest.drop (default.length + 1))
  | _ => none

/-- The value with its references resolved. `fuel` bounds its length. -/
def expanded (known : Entries (Option String)) : Nat → List Char → List Char
  | 0, _ => []
  | fuel + 1, cs =>
    match cs with
    | [] => []
    | '$' :: '\x7b' :: rest =>
      match reference? rest with
      | some (name, default, rest) =>
        let v := match known.get? name with
          | some v => v.getD ""
          | none => default.getD ""
        v.toList ++ expanded known fuel rest
      | none => '$' :: expanded known fuel ('\x7b' :: rest)
    | c :: rest => c :: expanded known fuel rest

/-- The variables of a file; a later one may refer to earlier ones and to those of the environment.
-/
def read (environment : Entries String) (file : String) : Entries (Option String) :=
  let cs := withLineEnds file.toList
  let outer := environment.map fun (name, v) => (name, some v)
  (bindings (cs.length + 1) cs).foldl
    (fun found (name, v) =>
      let known := Entries.merge outer found
      found.put name (v.map fun v => String.ofList (expanded known (v.length + 1) v.toList)))
    []

end SqlSyntax.Dotenv
