import SqlSyntax.Dialect.Files
import SqlSyntax.Log.Record
import SqlSyntax.Yaml.Reader

/-! Configurations of dialects, one in each directory. What a text means is for a reader to say; the
one in use knows a part of YAML. A configuration that was read and found complete is kept; a broken
one is reported, and passed over when a whole directory is searched, unless its error is of a family
that the search does not reckon with. -/

namespace SqlSyntax

/-- The families of errors that a caller can tell apart. -/
inductive ErrorFamily where
  /-- The file system is in the way. -/
  | system
  /-- A value is not acceptable. -/
  | value
  /-- A text breaks the rules of its format. -/
  | format
  | other
deriving DecidableEq, Repr

/-- Why a text has no meaning. -/
structure ReadError where
  family : ErrorFamily
  fault : Fault
deriving DecidableEq, Repr

/-- How configurations are read. -/
structure ConfigReader (α : Type) where
  read : String → Except ReadError α
  /-- The configuration is a mapping with that field. -/
  has : α → String → Bool
  /-- What is logged of a complete configuration may be impossible to tell. -/
  report : α → Except Fault Unit

structure Catalog (α : Type) where
  /-- How messages write the root. -/
  root : String
  files : Files
  /-- What was read, under the path of its file. -/
  cache : Entries α

namespace Catalog

variable {α : Type}

inductive LoadError where
  | notFound (path : String)
  | isDirectory
  | unreadable (e : ReadError)
  | incomplete (field path : String)
deriving DecidableEq, Repr

def LoadError.message : LoadError → String
  | .notFound path => "Plugin configuration not found: " ++ path
  | .isDirectory => "Is a directory"
  | .unreadable e => e.fault.message
  | .incomplete field path => "Missing required field '" ++ field ++ "' in " ++ path

def LoadError.family : LoadError → ErrorFamily
  | .notFound _ => .system
  | .isDirectory => .system
  | .unreadable e => e.family
  | .incomplete _ _ => .value

/-- Whether a search goes on with the next directory after the error. -/
def LoadError.isPassedOver (e : LoadError) : Bool :=
  e.family != .other

/-- Why a search ends without a result. -/
inductive Halt where
  /-- A file is searched. -/
  | isFile
  /-- A configuration cannot be loaded, for a reason that is not passed over. -/
  | broken (e : LoadError)
  /-- A configuration that was loaded cannot be logged. -/
  | unlogged (fault : Fault)
deriving DecidableEq, Repr

def Halt.message : Halt → String
  | .isFile => "Not a directory"
  | .broken e => e.message
  | .unlogged fault => fault.message

def configName : String := "config.yaml"

def requiredFields : List String := ["name", "version", "aliases"]

def pathText (c : Catalog α) (path : List String) : String :=
  "/".intercalate (c.root :: path)

/-- A configuration has to be a mapping with all required fields. -/
def complete (r : ConfigReader α) (path : String) (config : α) : Except LoadError α :=
  match requiredFields.find? fun field => !r.has config field with
  | some field => .error (.incomplete field path)
  | none => .ok config

/-- The configuration in a file, read anew. -/
def readConfig (r : ConfigReader α) (c : Catalog α) (path : List String) : Except LoadError α :=
  match c.files.item? path with
  | none => .error (.notFound (c.pathText path))
  | some .directory => .error .isDirectory
  | some (.file text) =>
    match r.read text with
    | .error e => .error (.unreadable e)
    | .ok config => complete r (c.pathText path) config

/-- The configuration of the dialect in a directory. -/
def load (r : ConfigReader α) (c : Catalog α) (directory : List String) :
    Catalog α × Except LoadError α :=
  let path := directory ++ [configName]
  let key := c.pathText path
  match c.cache.get? key with
  | some config => (c, .ok config)
  | none =>
    match c.readConfig r path with
    | .ok config => ({ c with cache := c.cache.put key config }, .ok config)
    | .error e => (c, .error e)

/-- The directories directly below one that have a configuration. -/
def candidates (c : Catalog α) (directory : List String) : List (List String) :=
  ((c.files.names directory).map fun name => directory ++ [name]).filter fun path =>
    c.files.item? path == some .directory && (c.files.item? (path ++ [configName])).isSome

/-- The configurations of the directories that can be loaded, in the order of the directories. -/
def collect (r : ConfigReader α) (c : Catalog α) :
    List (List String) → Catalog α × Except Halt (List α)
  | [] => (c, .ok [])
  | path :: rest =>
    match c.load r path with
    | (c, .ok config) =>
      match r.report config with
      | .ok _ =>
        let (c, found) := c.collect r rest
        (c, found.map (config :: ·))
      | .error fault => (c, .error (.unlogged fault))
    | (c, .error e) => if e.isPassedOver then c.collect r rest else (c, .error (.broken e))

/-- All configurations directly below a directory that can be loaded. -/
def discover (r : ConfigReader α) (c : Catalog α) (directory : List String) :
    Catalog α × Except Halt (List α) :=
  match c.files.item? directory with
  | none => (c, .ok [])
  | some (.file _) => (c, .error .isFile)
  | some .directory => c.collect r (c.candidates directory)

end Catalog

namespace Yaml

def Fault.family : Fault → ErrorFamily
  | .malformed => .format
  | .codeOverflow | .worthOverflow => .other
  | _ => .value

/-- The error as callers see it. -/
def Fault.toReadError (e : Fault) : ReadError :=
  let type := match e.family with
    | .system => "OSError"
    | .value => "ValueError"
    | .format => "YAMLError"
    | .other => "OverflowError"
  ⟨e.family, type, e.message⟩

/-- Whether the name and the version, which are logged, can be told. -/
def canReport (v : Value) : Bool :=
  ["name", "version"].all fun field => ((v.get? field).getD .null).isTellable

/-- Configurations are mappings. -/
def configReader : ConfigReader Value where
  read text := (read text).mapError Fault.toReadError
  has v field := (v.get? field).isSome
  report v := if canReport v then .ok () else .error .untold

end Yaml

/-- What a configuration says about its dialect. -/
structure DialectSheet where
  name : Value
  version : String
  aliases : List Value

namespace DialectSheet

inductive Problem where
  | unreadable (fault : Yaml.Fault)
  /-- The configuration is no mapping. -/
  | notMapping
  /-- The name of the grammar file is no text. -/
  | namelessGrammar
  | grammarNotFound (path : String)
  | grammarIsDirectory
  /-- The aliases are not a row of anything. -/
  | notRow
  /-- The version is a number of too many digits, or has one inside. -/
  | untoldVersion
deriving DecidableEq, Repr

def Problem.message : Problem → String
  | .unreadable fault => fault.message
  | .grammarNotFound path => "MySQL grammar not found at " ++ path
  | .untoldVersion => Numeral.untold
  | _ => ""

/-- The items of a list, the letters of a text, the keys of a mapping. -/
def row? : Value → Option (List Value)
  | .list items => some items
  | .text s => some (s.toList.map fun c => .text (String.singleton c))
  | .record fields => some (fields.map fun (key, _) => .text key)
  | _ => none

/-- Path and text of a file named relative to the root; an absolute name leads elsewhere. -/
def locate (root name : String) : Option (List String) × String :=
  let parts := Files.parts name
  if name.startsWith "/" then (none, "/" ++ "/".intercalate parts)
  else (some parts, "/".intercalate (root :: parts))

def checkGrammar (root : String) (files : Files) (name : Value) : Except Problem Unit :=
  match name with
  | .text name =>
    let (path, text) := locate root name
    match path.bind files.item? with
    | none => .error (.grammarNotFound text)
    | some .directory => .error .grammarIsDirectory
    | some (.file _) => .ok ()
  | _ => .error .namelessGrammar

/-- What the configuration says, where the grammar that it names is among the files. -/
def ofConfig (root : String) (files : Files) (config : String) : Except Problem DialectSheet :=
  match Yaml.read config with
  | .error fault => .error (.unreadable fault)
  | .ok (.record fields) =>
    let field (key : String) (default : Value) : Value := (fields.lookup key).getD default
    match checkGrammar root files (field "grammar" (.text "grammar.lark")) with
    | .error p => .error p
    | .ok _ =>
      let version := field "version" (.text "0.0.0")
      if !version.isTellable then .error .untoldVersion
      else
        match row? (field "aliases" (.list [])) with
        | none => .error .notRow
        | some aliases => .ok ⟨field "name" (.text "mysql"), version.plainText, aliases⟩
  | .ok _ => .error .notMapping

end DialectSheet

end SqlSyntax
