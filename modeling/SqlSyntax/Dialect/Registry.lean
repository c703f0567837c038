import SqlSyntax.Dialect.Basic

/-! The registry of dialects. Names and aliases count in lower case; a name wins over an alias. -/

namespace SqlSyntax

/-- A dialect together with a number that tells it from others of the same name. -/
structure Registration where
  serial : Nat
  dialect : Dialect

structure Registry where
  dialects : Entries Registration
  aliases : Entries String

namespace Registry

def empty : Registry := ⟨[], []⟩

/-- A later dialect takes over the name and the aliases of earlier ones. -/
def register (r : Registry) (added : Registration) : Registry :=
  let name := Text.toLower added.dialect.name
  ⟨r.dialects.put name added,
    added.dialect.aliases.foldl (fun known other => known.put (Text.toLower other) name) r.aliases⟩

/-- The dialect of that name or alias. -/
def find? (r : Registry) (name : String) : Option Registration :=
  let key := Text.toLower name
  match r.dialects.get? key with
  | some found => some found
  | none => (r.aliases.get? key).bind r.dialects.get?

/-- No dialect has that name or alias. -/
structure UnknownDialect where
  name : String
deriving DecidableEq, Repr

def UnknownDialect.message (e : UnknownDialect) : String :=
  "Unknown SQL dialect: " ++ e.name

def require (r : Registry) (name : String) : Except UnknownDialect Registration :=
  match r.find? name with
  | some found => .ok found
  | none => .error ⟨name⟩

/-- The registry without the dialect of that name and the aliases that still lead to it, and whether
there was one. -/
def unregister (r : Registry) (name : String) : Registry × Bool :=
  let key := Text.toLower name
  match r.dialects.get? key with
  | none => (r, false)
  | some found =>
    let drop (known : Entries String) (other : String) : Entries String :=
      let other := Text.toLower other
      if known.get? other = some key then known.remove other else known
    (⟨r.dialects.remove key, found.dialect.aliases.foldl drop r.aliases⟩, true)

end Registry

end SqlSyntax
