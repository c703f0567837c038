import SqlSyntax.Log.Line

/-! Loggers with a context. The context goes with every record, what is given with a record itself
wins. A block adds to the context of a logger while it is open. -/

namespace SqlSyntax.Log

structure Logger where
  name : String
  context : Entries Value

namespace Logger

/-- A value cannot go with a record under the name of one of the record's own. -/
def clash? (extra : Entries Value) : Option String :=
  extra.keys.find? fun key => key == "message" || key == "asctime" || recordFields.contains key

def clashFault (key : String) : Fault :=
  ⟨"KeyError", Text.shown ("Attempt to overwrite " ++ Text.shown key ++ " in LogRecord")⟩

/-- Values that come by name cannot have a name that the operation they are for uses itself. -/
def named (own : List String) (given : Entries Value) : Except Fault (Entries Value) :=
  if given.keys.any own.contains then .error ⟨"TypeError", "multiple values for a name"⟩
  else .ok given

/-- A record with the context of the logger. -/
def record (l : Logger) (level : Level) (message : String) (extra : Entries Value)
    (fault : Option Fault) : Except Fault Record :=
  let extra := l.context.merge extra
  match clash? extra with
  | some key => .error (clashFault key)
  | none => .ok ⟨level, l.name, message, extra, fault⟩

/-- Another logger, whose context has more. -/
def withContext (l : Logger) (more : Entries Value) : Logger :=
  { l with context := l.context.merge more }

/-- A failure, with its kind unless the caller says otherwise. -/
def faultRecord (l : Logger) (message : String) (fault : Fault) (extra : Entries Value) :
    Except Fault Record :=
  let extra := if extra.has "error_type" then extra else extra.put "error_type" (.text fault.type)
  l.record .error message extra (some fault)

end Logger

/-- Loggers that were made one from another, the one in use, and the blocks that are open: each with
the logger it belongs to and the context from before. -/
structure Scopes where
  loggers : List Logger
  current : Nat
  blocks : List (Nat × Entries Value)

namespace Scopes

def start (l : Logger) : Scopes := ⟨[l], 0, []⟩

def logger (s : Scopes) : Logger :=
  s.loggers.getD s.current ⟨"root", []⟩

def setContext (s : Scopes) (index : Nat) (context : Entries Value) : Scopes :=
  { s with loggers := s.loggers.modify index fun l => { l with context } }

/-- Goes on with a logger whose context has more. -/
def derive (s : Scopes) (more : Entries Value) : Scopes :=
  { s with loggers := s.loggers ++ [s.logger.withContext more], current := s.loggers.length }

/-- Opens a block on the logger in use. -/
def enter (s : Scopes) (more : Entries Value) : Scopes :=
  let before := s.logger.context
  { s.setContext s.current (before.merge more) with blocks := (s.current, before) :: s.blocks }

/-- Leaves the latest block; its logger has the context from before again. -/
def exit? (s : Scopes) : Option Scopes :=
  match s.blocks with
  | [] => none
  | (index, before) :: rest => some { s.setContext index before with blocks := rest }

end Scopes

end SqlSyntax.Log
