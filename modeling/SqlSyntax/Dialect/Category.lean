import SqlSyntax.Log.Record
import SqlSyntax.Tree.Render

/-! Semantic categories of nodes. A category is a class of nodes or a test; a node may be in several
of them and is marked once for each, in the order of their registration. A test that fails counts
as not met and leaves a trace in the log. -/

namespace SqlSyntax

inductive Capability where
  | classOf (name : String)
  | test (met : Slot → Except Fault Bool)

structure Category where
  name : String
  capability : Capability
  key : String
  marker : String

namespace Category

/-- Key and marker follow from the name unless they are given; an empty one is not. -/
def make (name : String) (capability : Capability) (key marker : Option String) : Category :=
  let given (s : Option String) (default : String) : String :=
    match s with
    | some s => if s.isEmpty then default else s
    | none => default
  ⟨name, capability, given key (name ++ "_type"), given marker name⟩

def isMet (c : Category) (s : Slot) : Except Fault Bool :=
  match c.capability with
  | .test met => met s
  | .classOf name =>
    match s with
    | .node n => .ok (n.kind.isOf name)
    | _ => .ok false

end Category

/-- The registered categories under their names. -/
abbrev Categories := Entries Category

namespace Categories

def loggerName : String := "mysql_parser.core.categories"

def baselineNames : List String := ["statement", "expression", "ddl", "dml"]

def register (cs : Categories) (c : Category) : Categories :=
  cs.put c.name c

/-- The categories without that one, and whether it was there. -/
def unregister (cs : Categories) (name : String) : Categories × Bool :=
  (cs.remove name, cs.has name)

/-- The baseline categories in their order, then the others in theirs; or the baseline names that
have no capability. -/
def withBaseline (capabilities : Entries Capability) : Except (List String) Categories :=
  let missing := baselineNames.filter fun name => !capabilities.has name
  if missing.isEmpty then
    let add (cs : Categories) (name : String) : Categories :=
      match capabilities.get? name with
      | some capability => cs.register (Category.make name capability none none)
      | none => cs
    let others := capabilities.keys.filter fun name => !baselineNames.contains name
    .ok ((baselineNames ++ others).foldl add [])
  else .error missing

def failureRecord (c : Category) (s : Slot) (fault : Fault) : Log.Record :=
  { Log.Record.plain .debug loggerName
      ("Category test '" ++ c.name ++ "' failed for " ++ s.typeName) with
    fault := some fault }

/-- The categories that are met, and a record for every test that failed. -/
def matching (cs : Categories) (s : Slot) : List Log.Record × List Category :=
  cs.foldr
    (fun (_, c) (records, met) =>
      match c.isMet s with
      | .ok true => (records, c :: met)
      | .ok false => (records, met)
      | .error fault => (failureRecord c s fault :: records, met))
    ([], [])

/-- One marker for each category that is met; of two with one key the later counts. -/
def markers (cs : Categories) (s : Slot) : List Log.Record × Entries String :=
  let (records, met) := cs.matching s
  (records, met.foldl (fun marks c => marks.put c.key c.marker) [])

end Categories

end SqlSyntax
