import SqlSyntax.Service.Builders
import SqlSyntax.Service.Location
import SqlSyntax.Wire.Check
import SqlSyntax.Wire.Json

/-! The HTTP interface of a service: parsing, the list of dialects, and signs of life. A text that
is rejected is no error of the request. -/

namespace SqlSyntax.Http

def version : String := "0.1.0"

structure Request where
  method : String
  path : String
  body : Option Value

structure Response where
  status : Nat
  /-- The text of the data, unless the answer is a page for readers or has to be empty. -/
  body : Option String

def data (status : Nat) (body : Value) : Response :=
  ⟨status, some (Json.write Json.terse body)⟩

def detail (status : Nat) (text : String) : Response :=
  data status (.record [("detail", .text text)])

inductive Route where
  | root
  | health
  | parse
  | dialects
  /-- A page for readers. -/
  | page (path : String)
deriving DecidableEq, Repr

namespace Route

def path : Route → String
  | .root => "/"
  | .health => "/health"
  | .parse => "/api/parse"
  | .dialects => "/api/dialects"
  | .page path => path

def methods : Route → List String
  | .parse => ["POST"]
  | .page _ => ["GET", "HEAD"]
  | _ => ["GET"]

def all : List Route :=
  [.page "/docs", .page "/docs/oauth2-redirect", .page "/redoc", .root, .health, .parse, .dialects]

/-- A line end behind the path does no harm. -/
def leadsTo (path : List Char) (r : Route) : Bool :=
  path == r.path.toList || path == r.path.toList ++ ['\n']

/-- The route at a path; slashes at its end lead to the same route. -/
def at? (path : String) : Option Route :=
  let cs := path.toList
  let bare := (cs.reverse.dropWhile (· == '/')).reverse
  (all.find? (leadsTo cs)).or (all.find? (leadsTo bare))

end Route

structure ParseRequest where
  sql : String
  dialect : Option String

/-- The body of a parse request. -/
def checkParse : Option Value → Checked ParseRequest
  | none => .fail .missing .null
  | some .null => .fail .missing .null
  | some (.record fields) =>
    match Value.requiredField fields "sql" Value.asText,
      Value.fieldOr none fields "dialect" (Value.orNull Value.asText) with
    | .ok sql, .ok dialect => .ok ⟨sql, dialect⟩
    | sql, dialect => .error (sql.complaints ++ dialect.complaints)
  | some v => .fail .notAttributes v

def stepValue : Step → Value
  | .field name => .text name
  | .item index => .integer index

def complaintValue (c : Complaint) : Value :=
  .record [("type", .text c.cause.type), ("loc", .list (c.path.map stepValue)),
    ("msg", .text c.cause.message), ("input", c.input)]

def unprocessable (cs : List Complaint) : Response :=
  data 422 (.record [("detail", .list (cs.map complaintValue))])

def parse (s : Service) (timing : Timing) (r : ParseRequest) : Service × Response :=
  match s.builderFor r.dialect with
  | .error e => (s, detail 404 e.message)
  | .ok (s, served) =>
    match (served.builder.build timing r.sql).2 with
    | .ok e => (s, data 200 e.wire)
    | .error _ => (s, detail 500 "Internal server error")

def dialectValue (entry : String × Registration) : Value :=
  let d := entry.2.dialect
  .record [("name", .text entry.1), ("version", .text d.version),
    ("aliases", .list (d.aliases.map .text))]

def dialects (s : Service) : Value :=
  .record [("default_dialect", .text s.settings.defaultDialect),
    ("dialects", .list (s.registry.dialects.map dialectValue)),
    ("statistics", .record [("total_plugins", .integer s.registry.dialects.length),
      ("total_aliases", .integer s.registry.aliases.length)])]

/-- The answer at a route. -/
def answerAt (s : Service) (timing : Timing) (body : Option Value) : Route → Service × Response
  | .root =>
    (s, data 200 (.record [("message", .text "MySQL Parser API"), ("version", .text version),
      ("docs", .text "/docs")]))
  | .health => (s, data 200 (.record [("status", .text "healthy"), ("version", .text version)]))
  | .dialects => (s, data 200 (dialects s))
  | .page _ => (s, ⟨200, none⟩)
  | .parse =>
    match (checkParse body).under (.field "body") with
    | .ok request => parse s timing request
    | .error cs => (s, unprocessable cs)

/-- The answer to a request. Methods count in upper case; one that asks for the head alone gets no
body. -/
def answer (s : Service) (timing : Timing) (r : Request) :
    Except LocationError (Service × Response) := do
  let path ← Location.target r.path
  let method := Text.toUpper r.method
  let (s, response) := match Route.at? path with
    | none => (s, detail 404 "Not Found")
    | some route =>
      if route.methods.contains method then answerAt s timing r.body route
      else (s, detail 405 "Method Not Allowed")
  .ok (s, if method = "HEAD" then { response with body := none } else response)

end SqlSyntax.Http
