import SqlSyntax.Dialect.Basic

/-! The MySQL dialect. -/

namespace SqlSyntax.Dialect.Mysql

def loggerName : String := "mysql_parser.plugins.mysql.plugin"

/-- What the parser says about a text that it does not take. Only a prefix length that is no integer
is worth a warning. -/
def errorRecords : ScriptError → List Log.Record
  | .grammar e =>
    [.plain .debug loggerName ("MySQL syntax error: " ++ (ScriptError.grammar e).message)]
  | .build (.badLength _ length) =>
    let detail := ScriptError.lengthDetail length
    [{ Log.Record.plain .warning loggerName
        ("Failed to build MySQL tree at rule key_part: " ++ detail) with
      fault := some ⟨"ValueError", detail⟩ }]
  | .build _ => []

def parse (sql : String) : Parsing :=
  match Script.parse sql with
  | .error e => (errorRecords e, .error (.rejected e.toParseError))
  | .ok statements =>
    ([.plain .debug loggerName
        ("Parsed " ++ toString statements.length ++ " MySQL statement(s)")],
      .ok (statements.map some))

/-- Statements, expressions and the two families of statements. -/
def categories : Categories :=
  [("statement", Family.statement), ("expression", .expression), ("ddl", .definition),
      ("dml", .manipulation)].foldl
    (fun cs (name, family) => cs.register (.make name (.classOf family.name) none none)) []

end SqlSyntax.Dialect.Mysql

namespace SqlSyntax.Dialect

def mysql : Dialect where
  name := "mysql"
  aliases := ["mariadb", "mysql8"]
  version := "1.0.0"
  categories := Mysql.categories
  parse := Mysql.parse
  render := Node.rendered
  members := Node.enumerated

end SqlSyntax.Dialect
