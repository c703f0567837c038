import SqlSyntax.Dialect.Mysql
import SqlSyntax.Dialect.Registry
import SqlSyntax.Envelope.Builder
import SqlSyntax.Service.Settings

/-! The builders of a service and the envelopes that it gives through them. One builder is kept for
each dialect name and serves until another dialect is registered under that name. -/

namespace SqlSyntax

/-- A builder, its number, and the registration it was made for. -/
structure Served where
  number : Nat
  registration : Registration
  builder : Builder

structure Service where
  settings : Settings
  registry : Registry
  builders : Entries Served
  /-- How many builders were made so far. -/
  made : Nat

namespace Service

/-- A service that knows the built-in dialect only. -/
def initial (settings : Settings) : Service :=
  ⟨settings, Registry.empty.register ⟨0, .mysql⟩, [], 0⟩

/-- The name that a request means; an empty one means the default. -/
def meant (s : Service) : Option String → String
  | some name => if name.isEmpty then s.settings.defaultDialect else name
  | none => s.settings.defaultDialect

/-- The builder for a dialect, made anew unless the one kept is for the same registration. -/
def builderFor (s : Service) (dialect : Option String) :
    Except Registry.UnknownDialect (Service × Served) :=
  match s.registry.require (s.meant dialect) with
  | .error e => .error e
  | .ok found =>
    let fresh : Served :=
      ⟨s.made, found,
        ⟨found.dialect, s.settings.depthLimit, s.settings.lengthLimit⟩⟩
    let renewed : Service :=
      { s with builders := s.builders.put found.dialect.name fresh, made := s.made + 1 }
    match s.builders.get? found.dialect.name with
    | some kept =>
      if kept.registration.serial = found.serial then .ok (s, kept) else .ok (renewed, fresh)
    | none => .ok (renewed, fresh)

/-- Why a service gives no envelope. -/
inductive Denial where
  | unknown (e : Registry.UnknownDialect)
  /-- The parser of the dialect failed in a way of its own. -/
  | crashed (fault : Fault)

/-- The envelope of a text in a dialect. -/
def envelope (s : Service) (timing : Timing) (sql : String) (dialect : Option String) :
    Service × Except Denial Envelope :=
  match s.builderFor dialect with
  | .error e => (s, .error (.unknown e))
  | .ok (s, served) =>
    match (served.builder.build timing sql).2 with
    | .ok e => (s, .ok e)
    | .error fault => (s, .error (.crashed fault))

/-- The envelope of a text as a text of its own. -/
def json (s : Service) (timing : Timing) (sql : String) (dialect : Option String) :
    Service × Except Denial String :=
  match s.envelope timing sql dialect with
  | (s, .ok e) => (s, .ok e.json)
  | (s, .error denial) => (s, .error denial)

end Service

end SqlSyntax
