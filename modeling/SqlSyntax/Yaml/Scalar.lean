import SqlSyntax.Number.Arithmetic
import SqlSyntax.Wire.Value
import SqlSyntax.Yaml.Fault

/-! What a plain YAML scalar stands for: nothing, a truth value, a number, or its own text. -/

namespace SqlSyntax.Yaml

def isDecimalDigit (c : Char) : Bool :=
  '0' ≤ c && c ≤ '9'

/-- A digit, or the underscore that may stand between digits. -/
def isSpacedDigit (c : Char) : Bool :=
  isDecimalDigit c || c == '_'

def isHexOrUnderscore (c : Char) : Bool :=
  isSpacedDigit c || ('a' ≤ c && c ≤ 'f') || ('A' ≤ c && c ≤ 'F')

def unsigned (cs : List Char) : Bool × List Char :=
  match cs with
  | '-' :: rest => (true, rest)
  | '+' :: rest => (false, rest)
  | rest => (false, rest)

def withoutUnderscores (cs : List Char) : List Char :=
  cs.filter (· != '_')

/-! ### Integers -/

def inBase (base : Nat) (digits : List Char) : Nat :=
  (withoutUnderscores digits).foldl
    (fun n c =>
      let d := if isDecimalDigit c then c.toNat - 48 else c.toLower.toNat - 87
      n * base + d)
    0

/-- Digits in base two or sixteen, of which there is at least one. -/
def inPowerOfTwo (base : Nat) (digits : List Char) : Except Fault Nat :=
  if (withoutUnderscores digits).isEmpty then .error (.noDigits base)
  else .ok (inBase base digits)

def inTen (digits : List Char) : Except Fault Nat :=
  let count := (withoutUnderscores digits).length
  if Numeral.digitLimit < count then .error (.tooManyDigits count) else .ok (inBase 10 digits)

/-- The parts of a number between colons. -/
def colonParts (cs : List Char) : List (List Char) :=
  cs.foldr
    (fun c parts =>
      match c, parts with
      | ':', parts => [] :: parts
      | c, [] => [[c]]
      | c, part :: parts => (c :: part) :: parts)
    [[]]

/-- Parts of a number in base sixty, after the first. -/
def isSixtieth (part : List Char) : Bool :=
  match part with
  | [d] => isDecimalDigit d
  | [t, d] => '0' ≤ t && t ≤ '5' && isDecimalDigit d
  | _ => false

/-- The parts of a number in base sixty; there are at least two. -/
def sixtieths? (cs : List Char) : Option (List Char × List (List Char)) :=
  match colonParts cs with
  | first :: parts =>
    if first.head?.any isDecimalDigit && first.all isSpacedDigit && !parts.isEmpty &&
        parts.all isSixtieth then
      some (first, parts)
    else none
  | [] => none

/-- The integer that unsigned characters spell. -/
def natural? (cs : List Char) : Option (Except Fault Nat) :=
  match cs with
  | ['0'] => some (.ok 0)
  | '0' :: 'b' :: digits =>
    if !digits.isEmpty && digits.all fun c => c == '0' || c == '1' || c == '_' then
      some (inPowerOfTwo 2 digits)
    else none
  | '0' :: 'x' :: digits =>
    if !digits.isEmpty && digits.all isHexOrUnderscore then some (inPowerOfTwo 16 digits)
    else none
  | '0' :: digits =>
    if digits.all fun c => ('0' ≤ c && c ≤ '7') || c == '_' then some (.ok (inBase 8 digits))
    else none
  | c :: rest =>
    if !('1' ≤ c && c ≤ '9') then none
    else if rest.all isSpacedDigit then some (inTen cs)
    else
      (sixtieths? cs).map fun (first, parts) =>
        (inTen first).map fun n => parts.foldl (fun n part => n * 60 + inBase 10 part) n
  | [] => none

/-! ### Numbers with a point -/

/-- An exponent mark, a sign and digits, or nothing. -/
def isExponent : List Char → Bool
  | [] => true
  | e :: s :: digits =>
    (e == 'e' || e == 'E') && (s == '-' || s == '+') && !digits.isEmpty &&
      digits.all isDecimalDigit
  | _ => false

/-- Adds parts, the last place first, to a sum; `base` is what the place of the first is worth. -/
def addSixties (sum : Binary64) (base : Nat) : List (List Char) → Except Fault Binary64
  | [] => .ok sum
  | part :: rest =>
    match Binary64.ofInt base with
    | .infinite _ => .error .worthOverflow
    | worth =>
      addSixties (sum.add ((Numeral.toBinary64 (withoutUnderscores part)).mul worth)) (base * 60)
        rest

/-- The sum of the parts, each sixty times what it would be one place later. -/
def inSixties (parts : List (List Char)) : Except Fault Binary64 :=
  addSixties (Binary64.zero false) 1 parts.reverse

/-- The number with a point that unsigned characters spell; a sign is not allowed before a leading
point, nor an exponent in base sixty. -/
def fraction? (signed : Bool) (cs : List Char) : Option (Except Fault Binary64) :=
  let whole := cs.takeWhile (· != '.')
  match cs.drop whole.length with
  | '.' :: rest =>
    let places := rest.takeWhile isSpacedDigit
    let leading := whole.head?.any isDecimalDigit && whole.all isSpacedDigit
    let bare := whole.isEmpty && !signed && places.head?.any isDecimalDigit
    if leading || bare then
      if isExponent (rest.drop places.length) then
        some (.ok (Numeral.toBinary64 (withoutUnderscores cs)))
      else none
    else
      match sixtieths? whole with
      | some _ =>
        if rest.all isSpacedDigit then some (inSixties (colonParts cs)) else none
      | none => none
  | _ => none

def negated (negative : Bool) : Binary64 → Binary64
  | .finite _ m e => .finite negative m e
  | .infinite _ => .infinite negative
  | .nan => .nan

/-! ### Values -/

def number? (cs : List Char) : Option (Except Fault Value) :=
  let (negative, body) := unsigned cs
  let signed := body.length < cs.length
  match natural? body with
  | some read => some (read.map fun n => .integer (if negative then -n else n))
  | none =>
    if [".inf", ".Inf", ".INF"].contains (String.ofList body) then
      some (.ok (.float (.infinite negative)))
    else if !signed && [".nan", ".NaN", ".NAN"].contains (String.ofList body) then
      some (.ok (.float .nan))
    else
      (fraction? signed body).map fun read => read.map fun x => .float (negated negative x)

/-- The key whose value is a mapping that is taken over. -/
def mergeKey : String := "<<"

/-- The scalar that is a text as a key and nothing else elsewhere. -/
def defaultKey : String := "="

/-- The value of a plain scalar. -/
def resolve (s : String) : Except Fault Value :=
  if ["", "~", "null", "Null", "NULL"].contains s then .ok .null
  else if ["yes", "Yes", "YES", "true", "True", "TRUE", "on", "On", "ON"].contains s then
    .ok (.boolean true)
  else if ["no", "No", "NO", "false", "False", "FALSE", "off", "Off", "OFF"].contains s then
    .ok (.boolean false)
  else if s = mergeKey ∨ s = defaultKey then .error .malformed
  else (number? s.toList).getD (.ok (.text s))

/-- The name under which a scalar key is kept. -/
def keyText : Value → Option String
  | .text s => some s
  | .null => some "null"
  | .boolean b => some (if b then "true" else "false")
  | .plain l => some l.shown
  | _ => none

end SqlSyntax.Yaml
