import SqlSyntax.Grammar.Parse
import SqlSyntax.Grammar.StatementAutomaton

/-! Scripts of statements: reading a text, and the errors that point to a place in it. -/

namespace SqlSyntax

/-- A rejected text, with the line and column of the place to blame where there is one. -/
structure ParseError where
  message : String
  line : Option Nat
  column : Option Nat
deriving DecidableEq, Repr

/-- Why a text is no script. -/
inductive ScriptError where
  | grammar (e : Grammar.SyntaxError)
  | build (e : Grammar.BuildError)
deriving DecidableEq, Repr

namespace ScriptError

def placeText (p : Position) : String :=
  "syntax error at line " ++ toString p.line ++ " column " ++ toString p.column

def near (p : Position) (fragment : String) : String :=
  placeText p ++ " near \"" ++ fragment ++ "\""

/-- How much of the text a message quotes. -/
def nearLength : Nat := 40

/-- What is wrong with the prefix length of an index part. -/
def lengthDetail (length : Token) : String :=
  let digits := (length.text.toList.takeWhile Text.isDigit).length
  if Numeral.digitLimit < digits then Numeral.tooLong digits
  else
    let shown := "Token('NUMBER', " ++ Text.shown length.text ++ ")"
    "invalid literal for int() with base 10: " ++ String.ofList (shown.toList.take 200)

def position : ScriptError → Position
  | .grammar (.unexpectedEnd p) => p
  | .grammar (.unexpected p _) => p
  | .build (.numberOutOfRange token) => token.position
  | .build (.notAggregate name) => name.position
  | .build (.badLength column _) => column.position

def message : ScriptError → String
  | .grammar (.unexpectedEnd p) => placeText p ++ ": unexpected end of input"
  | .grammar (.unexpected p rest) => near p (String.ofList (rest.take nearLength))
  | .build (.numberOutOfRange token) => near token.position token.text ++ ": number out of range"
  | .build (.notAggregate name) => near name.position name.text
  | .build (.badLength column length) =>
    near column.position column.text ++ ": " ++ lengthDetail length

def toParseError (e : ScriptError) : ParseError :=
  ⟨e.message, some e.position.line, some e.position.column⟩

end ScriptError

namespace Script

/-- The statements of a text. A text outside the grammar is rejected before any tree is built. -/
def parse (sql : String) : Except ScriptError (List Node) :=
  match Grammar.readScript Grammar.statementAutomaton sql with
  | .error e => .error (.grammar e)
  | .ok (.error e) => .error (.build e)
  | .ok (.ok statements) => .ok statements

end Script

end SqlSyntax
