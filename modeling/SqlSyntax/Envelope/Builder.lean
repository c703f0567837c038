import SqlSyntax.Envelope.Basic
import SqlSyntax.Envelope.Metrics
import SqlSyntax.View.Normalize

/-! Building envelopes: a text is parsed by a dialect and every statement is viewed. A text that is
too long, is rejected by the dialect or nests too deep gives a failure. There is no envelope where
the dialect itself fails, or where a failure has to tell a number of too many digits. -/

namespace SqlSyntax

/-- How long a call took as a whole, in microseconds, and in its phases, in milliseconds. -/
structure Timing where
  total : Int
  parse : Binary64
  normalize : Binary64

structure Builder where
  dialect : Dialect
  depthLimit : Int
  lengthLimit : Int

namespace Builder

def loggerName : String := "mysql_parser.core.envelope_builder"

/-- What is logged about the outcome of a call. -/
def outcomeRecord (logger dialect : String) (success : Bool) (statements : Value)
    (statementsText : String) (duration : Option Value) (error : Option Value) : Log.Record :=
  let message :=
    if success then "Parsed " ++ statementsText ++ " statement(s)" else "SQL rejected by parser"
  let optional (key : String) : Option Value → Entries Value
    | some v => [(key, v)]
    | none => []
  ⟨.info, logger, message,
    [("dialect", .text dialect), ("success", .boolean success), ("statement_count", statements)] ++
      optional "duration_ms" duration ++ optional "error" error, none⟩

/-- The reason to reject a text that is too long. -/
def tooLong (length limit : Int) : String :=
  "SQL text too long: " ++ toString length ++ " characters exceeds " ++ toString limit

/-- The end of a call that gives a failure. -/
def reject (m : Metrics) (finished : Int) (reason : String) : List Log.Record × Envelope :=
  let m := m.complete finished "rejected" (some reason)
  ([m.completionRecord,
      outcomeRecord loggerName m.dialect false (.integer 0) "0" none (some (.text reason)),
      Metrics.emitted "parse.rejected" (.integer 1) [("dialect", .text m.dialect)]],
    .failure reason)

/-- The end of a call that gives the views. -/
def accept (m : Metrics) (finished : Int) (trees : List View) : List Log.Record × Envelope :=
  let m := m.complete finished "completed" none
  let tags : Entries Value := [("dialect", .text m.dialect)]
  ([m.completionRecord,
      outcomeRecord loggerName m.dialect true (.integer trees.length) (toString trees.length)
        (some (.float (m.total.roundTo 2))) none,
      Metrics.emitted "parse.nodes" (.integer m.nodes) tags] ++
      (if m.degraded = 0 then []
        else [Metrics.emitted "parse.partial_nodes" (.integer m.degraded) tags]),
    .ok trees)

/-- The views of all statements that are there. -/
def views (b : Builder) : List (Option Node) → Metrics →
    List Log.Record × Metrics × Except Walk.Stop (List View)
  | [], m => ([], m, .ok [])
  | none :: rest, m => b.views rest m
  | some n :: rest, m =>
    match View.normalize b.dialect b.depthLimit n ⟨.zero, []⟩ with
    | (p, .error e) => (p.log, m, .error e)
    | (p, .ok view) =>
      let m := m.recordTree p.tally.nodes p.tally.degraded p.tally.deepest
      match b.views rest m with
      | (log, m, .error e) => (p.log ++ log, m, .error e)
      | (log, m, .ok trees) => (p.log ++ log, m, .ok (view :: trees))

/-- The reason that a rejection gives; there always is one. -/
def reasonOf (e : ParseError) : String :=
  if e.message.isEmpty then "syntax error" else e.message

/-- The envelope of a text, unless the call crashes, and what is logged on the way. -/
def build (b : Builder) (timing : Timing) (sql : String) :
    List Log.Record × Except Fault Envelope :=
  let m := (Metrics.new b.dialect.name).start 0
  let finish (log : List Log.Record) (ending : List Log.Record × Envelope) :
      List Log.Record × Except Fault Envelope :=
    (log ++ ending.1, .ok ending.2)
  if b.lengthLimit < sql.length then
    if Numeral.isShort sql.length && Numeral.isShort b.lengthLimit then
      finish [] (reject m timing.total (tooLong sql.length b.lengthLimit))
    else ([], .error .untold)
  else
    let (parseLog, parsed) := b.dialect.parse sql
    let m := m.recordPhase "parse" timing.parse
    match parsed with
    | .error (.crashed fault) => (parseLog, .error fault)
    | .error (.rejected e) => finish parseLog (reject m timing.total (reasonOf e))
    | .ok statements =>
      let (viewLog, m, viewed) := b.views statements m
      let m := m.recordPhase "normalize" timing.normalize
      match viewed with
      | .error (.crashed fault) => (parseLog ++ viewLog, .error fault)
      | .error (.tooDeep e) => finish (parseLog ++ viewLog) (reject m timing.total e.message)
      | .ok trees => finish (parseLog ++ viewLog) (accept m timing.total trees)

end Builder

end SqlSyntax
