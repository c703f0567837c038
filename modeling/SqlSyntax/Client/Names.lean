import SqlSyntax.Lexical.Lexeme

/-! Names told from rendered text: the table of a table reference, table and column of a column
reference. -/

namespace SqlSyntax.Names

/-- What follows one blank or more. -/
def afterBlanks? : List Char → Option (List Char)
  | c :: rest => if Text.isBlank c then some (rest.dropWhile Text.isBlank) else none
  | [] => none

/-- What follows the first of the given words that stands ahead. -/
def afterWord? (words : List String) (cs : List Char) : Option (List Char) :=
  words.findSome? fun word => Lexeme.spelled? word.toList cs

/-- What follows the scope of an index hint. -/
def afterScope? (cs : List Char) : Option (List Char) := do
  let cs ← afterBlanks? cs
  let cs ← afterWord? ["for"] cs
  let cs ← afterBlanks? cs
  match afterWord? ["join"] cs with
  | some rest => some rest
  | none =>
    let cs ← afterWord? ["order", "group"] cs
    let cs ← afterBlanks? cs
    afterWord? ["by"] cs

/-- An opening parenthesis, something, and a closing one. -/
def hasIndexList (cs : List Char) : Bool :=
  match cs.dropWhile Text.isBlank with
  | '(' :: rest =>
    let inside := (rest.takeWhile (· != ')')).length
    0 < inside && inside < rest.length
  | _ => false

/-- An index hint stands ahead, blanks first. -/
def startsHint (cs : List Char) : Bool :=
  let listAhead : Option Bool := do
    let cs ← afterBlanks? cs
    let cs ← afterWord? ["force", "use", "ignore"] cs
    let cs ← afterBlanks? cs
    let cs ← afterWord? ["index"] cs
    match afterScope? cs with
    | some rest => some (hasIndexList rest || hasIndexList cs)
    | none => some (hasIndexList cs)
  listAhead.getD false

/-- The text up to the first index hint. -/
def withoutHints : List Char → List Char
  | [] => []
  | c :: rest => if startsHint (c :: rest) then [] else c :: withoutHints rest

/-- The table that a rendered table reference names, without its quotes. -/
def tableOf? (text : String) : Option String :=
  let name := (withoutHints (Text.trimmed text).toList).filter (· != Text.backQuote)
  if name.isEmpty then none else some (String.ofList name)

/-- The names between back quotes, in order. `fuel` bounds the number of steps. -/
def quotedParts : Nat → List Char → List (List Char)
  | 0, _ => []
  | _, [] => []
  | fuel + 1, c :: rest =>
    if c = Text.backQuote then
      match Lexeme.closing Text.backQuote false 0 rest 1 none with
      | some n =>
        Text.collapsePairs Text.backQuote (rest.take (n - 2)) ::
          quotedParts fuel (rest.drop (n - 1))
      | none => quotedParts fuel rest
    else quotedParts fuel rest

structure Column where
  table : Option String
  name : String
deriving DecidableEq, Repr

/-- The last two quoted names of a text. -/
def columnOf? (text : String) : Option Column :=
  let cs := text.toList
  match (quotedParts cs.length cs).reverse with
  | [] => none
  | [name] => some ⟨none, String.ofList name⟩
  | name :: table :: _ => some ⟨some (String.ofList table), String.ofList name⟩

end SqlSyntax.Names
