import SqlSyntax.Log.Record
import SqlSyntax.Number.Arithmetic

/-! Metrics of one call: how long its phases took, what it found, how it ended. Times are given by
the caller, instants in microseconds and phases in milliseconds. -/

namespace SqlSyntax

structure Metrics where
  dialect : String
  started : Option Int
  duration : Option Int
  phases : Entries Binary64
  statements : Int
  nodes : Int
  degraded : Int
  deepest : Int
  status : String
  error : Option String

namespace Metrics

def loggerName : String := "mysql_parser.utils.metrics"

def new (dialect : String) : Metrics :=
  ⟨dialect, none, none, [], 0, 0, 0, 0, "running", none⟩

def start (m : Metrics) (now : Int) : Metrics :=
  { m with started := some now, status := "running" }

/-- Microseconds in whole milliseconds, toward zero, by way of seconds as a double. -/
def milliseconds (micros : Int) : Int :=
  ((Binary64.ofQuotient micros 1000000).mul (.ofInt 1000)).truncated

def complete (m : Metrics) (now : Int) (status : String) (error : Option String) : Metrics :=
  { m with
    status, error
    duration := match m.started with
      | some started => some (milliseconds (now - started))
      | none => m.duration }

/-- Time spent in a phase adds up. -/
def recordPhase (m : Metrics) (phase : String) (elapsed : Binary64) : Metrics :=
  let before := (m.phases.get? phase).getD (.zero false)
  { m with phases := m.phases.put phase (before.add elapsed) }

/-- The milliseconds between two readings of a clock that counts in seconds. -/
def elapsed (before after : Binary64) : Binary64 :=
  (after.sub before).mul (.ofInt 1000)

def recordTree (m : Metrics) (nodes degraded deepest : Int) : Metrics :=
  { m with
    statements := m.statements + 1
    nodes := m.nodes + nodes
    degraded := m.degraded + degraded
    deepest := max m.deepest deepest }

/-- Durations are told to two places. -/
def summary (m : Metrics) : Entries Value :=
  [("status", .text m.status),
    ("duration_ms", match m.duration with
      | some d => .integer d
      | none => .null),
    ("statement_count", .integer m.statements), ("node_count", .integer m.nodes),
    ("partial_count", .integer m.degraded), ("max_depth", .integer m.deepest),
    ("phases", .record (m.phases.map fun (phase, spent) => (phase, .float (spent.roundTo 2))))] ++
    match m.error with
    | some e => if e.isEmpty then [] else [("error_message", .text e)]
    | none => []

/-- What is logged when a call ends. -/
def completionRecord (m : Metrics) : Log.Record :=
  ⟨.debug, loggerName, "Parse call " ++ m.status,
    Entries.merge [("dialect", .text m.dialect)] m.summary, none⟩

/-- A single measurement as it is logged. -/
def emitted (name : String) (measured : Value) (tags : Entries Value) : Log.Record :=
  ⟨.debug, loggerName, "Metric: " ++ name,
    [("metric_name", .text name), ("metric_value", measured), ("metric_tags", .record tags)], none⟩

/-- The sum of all phases. -/
def total (m : Metrics) : Binary64 :=
  m.phases.foldl (fun sum (_, spent) => sum.add spent) (.zero false)

end Metrics

end SqlSyntax
