import SqlSyntax.Number.Arithmetic
import SqlSyntax.Wire.Value

/-! Checking values against what a model expects. All complaints about one value are gathered, in
the order of the model's fields. -/

namespace SqlSyntax

/-- A step from a value to a part of it. -/
inductive Step where
  | field (name : String)
  | item (index : Nat)
deriving DecidableEq, Repr

/-- What is wrong with a value. -/
inductive Complaint.Cause where
  | missing
  | notText
  | notBoolean
  | unreadableBoolean
  | notList
  | notRecord
  | notModel (name : String)
  | notAttributes
  | notInteger
  | fractional
  | notFinite
  | unreadableInteger
  | tooManyDigits
  | unexpected
  | inconsistent (reason : String)
deriving DecidableEq, Repr

namespace Complaint.Cause

/-- The name of the cause on the wire. -/
def type : Cause → String
  | .missing => "missing"
  | .notText => "string_type"
  | .notBoolean => "bool_type"
  | .unreadableBoolean => "bool_parsing"
  | .notList => "list_type"
  | .notRecord => "dict_type"
  | .notModel _ => "model_type"
  | .notAttributes => "model_attributes_type"
  | .notInteger => "int_type"
  | .fractional => "int_from_float"
  | .notFinite => "finite_number"
  | .unreadableInteger => "int_parsing"
  | .tooManyDigits => "int_parsing_size"
  | .unexpected => "extra_forbidden"
  | .inconsistent _ => "value_error"

def message : Cause → String
  | .missing => "Field required"
  | .notText => "Input should be a valid string"
  | .notBoolean => "Input should be a valid boolean"
  | .unreadableBoolean => "Input should be a valid boolean, unable to interpret input"
  | .notList => "Input should be a valid list"
  | .notRecord => "Input should be a valid dictionary"
  | .notModel name => "Input should be a valid dictionary or instance of " ++ name
  | .notAttributes => "Input should be a valid dictionary or object to extract fields from"
  | .notInteger => "Input should be a valid integer"
  | .fractional => "Input should be a valid integer, got a number with a fractional part"
  | .notFinite => "Input should be a finite number"
  | .unreadableInteger =>
    "Input should be a valid integer, unable to parse string as an integer"
  | .tooManyDigits =>
    "Unable to parse input string as an integer, exceeded maximum size"
  | .unexpected => "Extra inputs are not permitted"
  | .inconsistent reason => "Value error, " ++ reason

end Complaint.Cause

structure Complaint where
  path : List Step
  cause : Complaint.Cause
  /-- The value complained about. -/
  input : Value

namespace Complaint

/-- The complaint about a part as one about the whole. -/
def under (s : Step) (c : Complaint) : Complaint :=
  { c with path := s :: c.path }

end Complaint

abbrev Checked (α : Type) := Except (List Complaint) α

namespace Checked

variable {α : Type}

def complaints : Checked α → List Complaint
  | .ok _ => []
  | .error cs => cs

def under (s : Step) : Checked α → Checked α
  | .ok a => .ok a
  | .error cs => .error (cs.map (·.under s))

def fail (cause : Complaint.Cause) (input : Value) : Checked α :=
  .error [⟨[], cause, input⟩]

end Checked

namespace Value

def asText : Value → Checked String
  | .text s => .ok s
  | v => .fail .notText v

def asRecord : Value → Checked (Entries Value)
  | .record fields => .ok fields
  | v => .fail .notRecord v

/-- Words that stand for a truth value, whatever their case. -/
def booleanWord? (s : String) : Option Bool :=
  let word := String.ofList (s.toList.map Char.toLower)
  if ["0", "off", "f", "false", "n", "no"].contains word then some false
  else if ["1", "on", "t", "true", "y", "yes"].contains word then some true
  else none

/-- Truth values, their words, and the numbers zero and one. Other integers of a machine word are
told from what is no truth value at all. -/
def asBoolean (v : Value) : Checked Bool :=
  let ofInt (n : Int) : Checked Bool :=
    if n = 0 then .ok false else if n = 1 then .ok true else .fail .unreadableBoolean v
  match v with
  | .boolean b => .ok b
  | .integer n =>
    if -9223372036854775808 ≤ n ∧ n < 9223372036854775808 then ofInt n else .fail .notBoolean v
  | .float x =>
    match x.smallInteger? with
    | some n => ofInt n
    | none => .fail .notBoolean v
  | .text s =>
    match booleanWord? s with
    | some b => .ok b
    | none => .fail .unreadableBoolean v
  | _ => .fail .notBoolean v

/-- A field that has to be there. -/
def requiredField {α : Type} (fields : Entries Value) (name : String) (as : Value → Checked α) :
    Checked α :=
  match fields.get? name with
  | some v => (as v).under (.field name)
  | none => .error [⟨[.field name], .missing, .record fields⟩]

/-- A field that has a default. -/
def fieldOr {α : Type} (default : α) (fields : Entries Value) (name : String)
    (as : Value → Checked α) : Checked α :=
  match fields.get? name with
  | some v => (as v).under (.field name)
  | none => .ok default

/-- Null, or what the given check takes. -/
def orNull {α : Type} (as : Value → Checked α) : Value → Checked (Option α)
  | .null => .ok none
  | v =>
    match as v with
    | .ok a => .ok (some a)
    | .error cs => .error cs

end Value

end SqlSyntax
