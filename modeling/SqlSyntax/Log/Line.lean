import SqlSyntax.Log.Record
import SqlSyntax.Number.Arithmetic
import SqlSyntax.Wire.Json

/-! Log records as lines of JSON. Some of the values that go with a record stand at the top, the
others under `context`. -/

namespace SqlSyntax.Log

/-! ### Time -/

/-- A day of the Gregorian calendar. -/
structure Day where
  year : Int
  month : Nat
  day : Nat
deriving DecidableEq, Repr

/-- The day so many days after the first of 1970. Years are counted from March, in cycles of 400. -/
def Day.ofNumber (n : Int) : Day :=
  let shifted := n + 719468
  let cycle := shifted.fdiv 146097
  let inCycle := (shifted - cycle * 146097).toNat
  let yearOfCycle := (inCycle - inCycle / 1460 + inCycle / 36524 - inCycle / 146096) / 365
  let dayOfYear := inCycle - (365 * yearOfCycle + yearOfCycle / 4 - yearOfCycle / 100)
  let shiftedMonth := (5 * dayOfYear + 2) / 153
  let month := if shiftedMonth < 10 then shiftedMonth + 3 else shiftedMonth - 9
  ⟨(yearOfCycle : Int) + cycle * 400 + (if month ≤ 2 then 1 else 0), month,
    dayOfYear - (153 * shiftedMonth + 2) / 5 + 1⟩

/-- At least `width` digits. -/
def padded (width n : Nat) : String :=
  let digits := toString n
  String.ofList (List.replicate (width - digits.length) '0') ++ digits

/-- The microsecond that a double of seconds names: its whole part, and the fraction rounded. -/
def microsecond (seconds : Binary64) : Int :=
  let whole := seconds.truncated
  let fraction := (seconds.sub (.ofInt whole)).mul (.ofInt 1000000)
  whole * 1000000 + fraction.rounded

/-- The time in UTC, to the millisecond. -/
def timestamp (seconds : Binary64) : String :=
  let micros := microsecond seconds
  let day := Day.ofNumber (micros.fdiv 86400000000)
  let inDay := (micros.fmod 86400000000).toNat / 1000
  let second := inDay / 1000
  padded 4 day.year.toNat ++ "-" ++ padded 2 day.month ++ "-" ++ padded 2 day.day ++ "T" ++
    padded 2 (second / 3600) ++ ":" ++ padded 2 (second / 60 % 60) ++ ":" ++
    padded 2 (second % 60) ++ "." ++ padded 3 (inDay % 1000) ++ "Z"

/-! ### Entries -/

/-- The place in a program that made a record. -/
structure Origin where
  file : String
  line : Int
  function : String

/-- Values that stand at the top of an entry. -/
def promotedFields : List String := ["dialect", "request_id", "phase"]

/-- Names that belong to every record and never count as values that go with it. -/
def recordFields : List String :=
  ["name", "msg", "args", "levelname", "levelno", "pathname", "filename", "module", "exc_info",
    "exc_text", "stack_info", "lineno", "funcName", "created", "msecs", "relativeCreated", "thread",
    "threadName", "processName", "process"]

/-- Names that a formatter passes over. -/
def ignoredFields : List String :=
  recordFields ++ ["message", "asctime", "taskName"]

/-- Failures that are reported under the package they belong to. -/
def packageFaults : List String :=
  ["MySQLParserError", "ParseError", "NormalizationError", "NormalizationDepthError",
    "UnknownDialectError", "BridgeError"]

/-- The last line of a trace. -/
def traceText (f : Fault) : String :=
  let type := if packageFaults.contains f.type then "mysql_parser.errors." ++ f.type else f.type
  if f.message.isEmpty then type else type ++ ": " ++ f.message

def faultValue (f : Fault) : Value :=
  .record [("type", .text f.type), ("message", .text f.message),
    ("stack_trace", .text (traceText f))]

/-- What a record tells of itself. A value that goes with it under the same name takes its place. -/
def Record.own (r : Record) (name : String) (told : Value) : Value :=
  (r.extra.get? name).getD told

/-- A record without its time and origin: `head`, what is told of every record, then the values that
go with it and the failure. -/
def Record.fields (r : Record) (promoted : List String) (head : Entries Value) : Entries Value :=
  let told := head ++
    [("level", r.own "levelname" (.text r.level.name)), ("logger", r.own "name" (.text r.logger)),
      ("message", .text r.message)]
  let extra := r.extra.filter fun (key, _) => !ignoredFields.contains key
  let top := extra.filter fun (key, _) => promoted.contains key
  let context := extra.filter fun (key, _) => !promoted.contains key
  let told := told.merge top
  let told := if context.isEmpty then told else told.put "context" (.record context)
  match r.fault with
  | some f => told.put "error" (faultValue f)
  | none => told

/-- The line of a record made at the given time. -/
def Record.line (r : Record) (promoted : List String) (seconds : Binary64) (origin : Origin) :
    String :=
  let fields := r.fields promoted [("timestamp", .text (timestamp seconds))]
  Json.write Json.spaced (.record (fields.put "source"
    (.record [("file", r.own "pathname" (.text origin.file)),
      ("line", r.own "lineno" (.integer origin.line)),
      ("function", r.own "funcName" (.text origin.function))])))

end SqlSyntax.Log
