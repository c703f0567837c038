import SqlSyntax.Number.Numeral
import SqlSyntax.Service.Dotenv
import SqlSyntax.Text.Case
import SqlSyntax.Wire.Check

/-! Settings of the service. They are given directly, by the environment or by a file of variables,
in this order of precedence, and have defaults. -/

namespace SqlSyntax

structure Settings where
  defaultDialect : String
  lengthLimit : Int
  depthLimit : Int
  host : String
  port : Int
  logLevel : String
deriving DecidableEq, Repr

namespace Settings

def default : Settings :=
  ⟨"mysql", 1024 * 1024, 256, "0.0.0.0", 8000, "INFO"⟩

/-! ### Integers -/

/-- White space in the sense of Unicode. -/
def isSpace (c : Char) : Bool :=
  Text.isBlank c && !(0x1c ≤ c.toNat && c.toNat ≤ 0x1f)

def trim (cs : List Char) : List Char :=
  ((cs.dropWhile isSpace).reverse.dropWhile isSpace).reverse

def isLead (c : Char) : Bool :=
  ('1' ≤ c && c ≤ '9') || c == '-'

/-- What follows leading zeros, underscores among them included. The last zero stays if nothing
follows, and the character before a point. -/
def afterZeros? (last : Char) : List Char → Option (List Char)
  | [] => some [last]
  | c :: rest =>
    if c = '0' ∨ c = '_' then afterZeros? c rest
    else if isLead c then some (c :: rest)
    else if c = '.' then some (last :: c :: rest)
    else none

def withoutZeros? : List Char → Option (List Char)
  | [] => none
  | c :: rest => if c = '0' then afterZeros? c rest else if isLead c then some (c :: rest) else none

/-- Without a fraction of zeros. -/
def withoutFraction (cs : List Char) : List Char :=
  let whole := cs.takeWhile (· != '.')
  let places := cs.drop (whole.length + 1)
  if places.isEmpty || places.any (· != '0') then cs else whole

/-- Two characters in a row that are both underscores. -/
def hasGap : List Char → Bool
  | '_' :: '_' :: _ => true
  | _ :: rest => hasGap rest
  | [] => false

/-- Underscores may stand inside, one at a time. -/
def withoutUnderscores (cs : List Char) : List Char :=
  if cs.head? = some '_' ∨ cs.getLast? = some '_' ∨ hasGap cs then cs else cs.filter (· != '_')

inductive Unreadable where
  | notAnInteger
  | tooManyDigits

/-- A numeral without sign and leading zeros. -/
def naturalOf (cs : List Char) : Except Unreadable Nat :=
  let digits := cs.takeWhile Char.isDigit
  if digits.head? = some '0' then if cs = ['0'] then .ok 0 else .error .notAnInteger
  else if Numeral.digitLimit < digits.length then .error .tooManyDigits
  else if digits.isEmpty ∨ digits.length < cs.length then .error .notAnInteger
  else .ok (Numeral.value digits)

/-- A numeral in plain form: digits without zeros in front, perhaps behind a minus. -/
def plainInteger : List Char → Except Unreadable Int
  | '-' :: rest => (naturalOf rest).map fun n => -(n : Int)
  | rest => (naturalOf rest).map fun n => (n : Int)

/-- The plain form of a numeral. A sign may stand in front of it, a minus also behind leading zeros,
and a fraction of zeros may follow. -/
def plainForm? (cs : List Char) : Option (List Char) :=
  let cs := match trim cs with
    | '+' :: '-' :: _ => []
    | '+' :: rest => rest
    | rest => rest
  let (sign, cs) := match cs with
    | '-' :: rest => (['-'], rest)
    | rest => ([], rest)
  (withoutZeros? cs).map fun cs => sign ++ withoutUnderscores (withoutFraction cs)

/-- The integer that a text spells. It is brought into plain form only if it can not be read as it
stands, and only as it stands is it said to have too many digits. -/
def integerOf (s : String) : Except Unreadable Int :=
  match plainInteger s.toList with
  | .error .notAnInteger =>
    match (plainForm? s.toList).map plainInteger with
    | some (.ok n) => .ok n
    | _ => .error .notAnInteger
  | found => found

/-- The integer that a double without fraction stands for, if it is less than `2 ^ 63`. -/
def wholeOf (v : Value) (x : Binary64) : Checked Int :=
  if !x.isFinite then .fail .notFinite v
  else if !x.isIntegral then .fail .fractional v
  else match x.smallInteger? with
    | some n => .ok n
    | none => .fail .tooManyDigits v

/-- Integers, numbers without fraction, truth values, and texts that spell an integer. -/
def asInteger (v : Value) : Checked Int :=
  match v with
  | .integer n => .ok n
  | .boolean b => .ok (if b then 1 else 0)
  | .float x => wholeOf v x
  | .plain (.decimal (.finite negative coefficient exponent)) =>
    let unit := Nat.pow 10 exponent.natAbs
    let signed (n : Nat) : Int := if negative then -(n : Int) else n
    if 0 ≤ exponent then .ok (signed (coefficient * unit))
    else if coefficient % unit = 0 then .ok (signed (coefficient / unit))
    else .fail .fractional v
  | .plain (.decimal _) => .fail .notFinite v
  | .text s =>
    match integerOf s with
    | .ok n => .ok n
    | .error .tooManyDigits => .fail .tooManyDigits v
    | .error .notAnInteger => .fail .unreadableInteger v
  | _ => .fail .notInteger v

/-! ### Sources -/

def fieldNames : List String :=
  ["default_dialect", "max_sql_length", "max_depth", "api_host", "api_port", "log_level"]

/-- How variables are read. -/
structure Reading where
  /-- What their names start with. -/
  start : String
  /-- Whether the case of names matters. -/
  caseMatters : Bool
  skipEmpty : Bool
  /-- The text that stands for no value. -/
  nothing : Option String
  /-- Whether the common file is read. -/
  fromFile : Bool

namespace Reading

/-- Names of options, which are given with the settings but are none. -/
def optionNames : List String :=
  ["_case_sensitive", "_nested_model_default_partial_update", "_env_prefix", "_env_file",
    "_env_file_encoding", "_env_ignore_empty", "_env_nested_delimiter", "_env_nested_max_split",
    "_env_parse_none_str", "_env_parse_enums", "_cli_prog_name", "_cli_parse_args",
    "_cli_settings_source", "_cli_parse_none_str", "_cli_hide_none_type", "_cli_avoid_json",
    "_cli_enforce_required", "_cli_use_class_docs_for_groups", "_cli_exit_on_error", "_cli_prefix",
    "_cli_flag_prefix_char", "_cli_implicit_flags", "_cli_ignore_unknown_args", "_cli_kebab_case",
    "_cli_shortcuts", "_secrets_dir"]

/-- The common file of variables, perhaps named as one in place. -/
def isCommonFile : Value → Bool
  | .text path => (path.splitOn "/").filter (fun step => step != "." && step != "") == [".env"] &&
      path.toList.head? != some '/'
  | _ => false

/-- The options among directly given values; null stands for the usual. -/
def ofDirect (direct : Entries Value) : Reading :=
  let text? (name : String) : Option String := match direct.get? name with
    | some (.text s) => some s
    | _ => none
  let isOn (name : String) : Bool := match direct.get? name with
    | some v => !v.isNothing
    | none => false
  ⟨(text? "_env_prefix").getD "MYSQL_PARSER_", isOn "_case_sensitive", isOn "_env_ignore_empty",
    text? "_env_parse_none_str",
    match direct.get? "_env_file" with
    | none => true
    | some (.list files) => files.any isCommonFile
    | some file => isCommonFile file⟩

def nameOf (r : Reading) (name : String) : String :=
  if r.caseMatters then name else Text.toLower name

/-- Variables under the names by which they count. -/
def variablesOf (r : Reading) (vars : Entries (Option String)) : Entries String :=
  let told := vars.filter fun (_, v) => !(r.skipEmpty && v == some "")
  let named := told.foldl (fun found (name, v) => Entries.put (r.nameOf name) v found) []
  named.filterMap fun (name, v) => v.map fun v => (name, v)

/-- The fields that variables give. -/
def given (r : Reading) (vars : Entries String) : Entries Value :=
  fieldNames.filterMap fun field =>
    (vars.get? (r.nameOf (r.start ++ field))).map fun v =>
      (field, if r.nothing = some v then .null else .text v)

/-- Variables of a file that are for no field. Those without value, and those that spell a field
without the common start, do not count. -/
def strangers (r : Reading) (vars : Entries String) : Entries Value :=
  vars.filterMap fun (name, v) =>
    let known := fieldNames.contains name ||
      fieldNames.any fun field => name == r.nameOf (r.start ++ field)
    if v.isEmpty || known then none else some (name, .text v)

end Reading

/-- All that the sources say, the more important ones winning. -/
def merged (environment : Entries String) (file : Option String) (direct : Entries Value) :
    Entries Value :=
  let r := Reading.ofDirect direct
  let outer := r.variablesOf (environment.map fun (name, v) => (name, some v))
  let inFile := match file with
    | some file => if r.fromFile then r.variablesOf (Dotenv.read environment file) else []
    | none => []
  let fileFields := Entries.merge (r.given inFile) (r.strangers inFile)
  (fileFields.merge (r.given outer)).merge
    (direct.filter fun (name, _) => !Reading.optionNames.contains name)

/-- Settings made of fields; a field that is none of them is refused. -/
def check (fields : Entries Value) : Checked Settings :=
  let dialect := Value.fieldOr default.defaultDialect fields "default_dialect" Value.asText
  let length := Value.fieldOr default.lengthLimit fields "max_sql_length" asInteger
  let depth := Value.fieldOr default.depthLimit fields "max_depth" asInteger
  let host := Value.fieldOr default.host fields "api_host" Value.asText
  let port := Value.fieldOr default.port fields "api_port" asInteger
  let level := Value.fieldOr default.logLevel fields "log_level" Value.asText
  let unknown := fields.filterMap fun (name, v) =>
    if fieldNames.contains name then none else some ⟨[.field name], .unexpected, v⟩
  match dialect, length, depth, host, port, level, unknown with
  | .ok dialect, .ok length, .ok depth, .ok host, .ok port, .ok level, [] =>
    .ok ⟨dialect, length, depth, host, port, level⟩
  | dialect, length, depth, host, port, level, unknown =>
    .error (dialect.complaints ++ length.complaints ++ depth.complaints ++ host.complaints ++
      port.complaints ++ level.complaints ++ unknown)

/-- The settings that the sources give. -/
def read (environment : Entries String) (file : Option String) (direct : Entries Value) :
    Checked Settings :=
  check (merged environment file direct)

/-- The fields of settings under their names. -/
def fields (s : Settings) : Entries Value :=
  [("default_dialect", .text s.defaultDialect), ("max_sql_length", .integer s.lengthLimit),
    ("max_depth", .integer s.depthLimit), ("api_host", .text s.host), ("api_port", .integer s.port),
    ("log_level", .text s.logLevel)]

end Settings

end SqlSyntax
