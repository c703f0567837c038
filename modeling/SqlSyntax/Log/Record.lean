import SqlSyntax.Wire.Value

/-! Log records: what is said, how loud, by whom, and the values that go with it. -/

namespace SqlSyntax

/-- A failure as logs and answers name it. -/
structure Fault where
  type : String
  message : String
deriving DecidableEq, Repr

/-- A message was to tell an integer of too many digits. -/
def Fault.untold : Fault := ⟨"ValueError", Numeral.untold⟩

namespace Log

structure Level where
  number : Int
deriving DecidableEq, Repr

namespace Level

def debug : Level := ⟨10⟩
def info : Level := ⟨20⟩
def warning : Level := ⟨30⟩
def error : Level := ⟨40⟩
def critical : Level := ⟨50⟩

def name (l : Level) : String :=
  if l.number = 0 then "NOTSET"
  else if l = debug then "DEBUG"
  else if l = info then "INFO"
  else if l = warning then "WARNING"
  else if l = error then "ERROR"
  else if l = critical then "CRITICAL"
  else "Level " ++ toString l.number

/-- The level that a configured name stands for. -/
def ofName? : String → Option Level
  | "NOTSET" => some ⟨0⟩
  | "DEBUG" => some debug
  | "INFO" => some info
  | "WARN" => some warning
  | "WARNING" => some warning
  | "ERROR" => some error
  | "FATAL" => some critical
  | "CRITICAL" => some critical
  | _ => none

end Level

structure Record where
  level : Level
  logger : String
  message : String
  extra : Entries Value
  fault : Option Fault

namespace Record

/-- A record with no values to go with it. -/
def plain (level : Level) (logger message : String) : Record :=
  ⟨level, logger, message, [], none⟩

end Record

end Log

end SqlSyntax
