/-! Quoted strings and names of statements. A string is written between single quotes, a backslash
before every quote and backslash; it is read from either kind of quote, a doubled quote standing
for one. A name stands between back quotes, which are doubled inside. -/

namespace SqlSyntax.Text

def singleQuote : Char := '\x27'
def doubleQuote : Char := '\x22'
def backQuote : Char := '\x60'
def backslash : Char := '\x5c'

/-- Every `c` written twice. -/
def doubleEach (c : Char) : List Char → List Char
  | [] => []
  | x :: rest => if x = c then c :: c :: doubleEach c rest else x :: doubleEach c rest

/-- Every pair of `c`, from the left, written once. -/
def collapsePairs (c : Char) : List Char → List Char
  | x :: y :: rest =>
    if x = c ∧ y = c then c :: collapsePairs c rest else x :: collapsePairs c (y :: rest)
  | rest => rest

/-- What a backslash and the character after it stand for. -/
def escapeMeaning (c : Char) : List Char :=
  match c with
  | '0' => ['\x00']
  | 'b' => ['\x08']
  | 'n' => ['\n']
  | 'r' => ['\r']
  | 't' => ['\t']
  | 'Z' => ['\x1a']
  | '%' => [backslash, '%']
  | '_' => [backslash, '_']
  | c => [c]

/-- Replaces each backslash and the character after it by what they stand for. A backslash at the
end stands for itself. -/
def resolveEscapes : List Char → List Char
  | x :: y :: rest =>
    if x = backslash then escapeMeaning y ++ resolveEscapes rest
    else x :: resolveEscapes (y :: rest)
  | rest => rest

/-- The text between the first and the last character. -/
def inner (literal : List Char) : List Char :=
  (literal.drop 1).dropLast

/-- The value of a string literal, given with its quotes; the empty text has no quote to go by. -/
def unquoteString? (literal : String) : Option String :=
  match literal.toList with
  | [] => none
  | quote :: rest => some (String.ofList (resolveEscapes (collapsePairs quote rest.dropLast)))

def unquoteString (literal : String) : String :=
  (unquoteString? literal).getD ""

/-- The name between a pair of back quotes. -/
def unquoteName (quoted : String) : String :=
  String.ofList (collapsePairs backQuote (inner quoted.toList))

def escapeString : List Char → List Char
  | [] => []
  | c :: rest =>
    if c = backslash ∨ c = singleQuote then backslash :: c :: escapeString rest
    else c :: escapeString rest

def quoteString (value : String) : String :=
  String.ofList (singleQuote :: escapeString value.toList ++ [singleQuote])

def quoteName (name : String) : String :=
  String.ofList (backQuote :: doubleEach backQuote name.toList ++ [backQuote])

end SqlSyntax.Text
