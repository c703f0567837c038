import SqlSyntax.Number.Numeral
import SqlSyntax.Wire.Value

/-! Reading JSON. Numbers without point and exponent are integers, all others doubles; the last of
several fields with one key counts. A reader may have a limit on the digits of an integer; then a
text with a longer one cannot be read. -/

namespace SqlSyntax.Json

def isSpace (c : Char) : Bool :=
  c == ' ' || c == '\t' || c == '\n' || c == '\r'

def skipSpace (cs : List Char) : List Char :=
  cs.dropWhile isSpace

def hexValue? (c : Char) : Option Nat :=
  if c.isDigit then some (c.toNat - 48)
  else if 'a' ≤ c ∧ c ≤ 'f' then some (c.toNat - 87)
  else if 'A' ≤ c ∧ c ≤ 'F' then some (c.toNat - 55)
  else none

def hexUnit? (a b c d : Char) : Option Nat :=
  match hexValue? a, hexValue? b, hexValue? c, hexValue? d with
  | some a, some b, some c, some d => some (((a * 16 + b) * 16 + c) * 16 + d)
  | _, _, _, _ => none

/-- The character that a one-letter escape stands for. -/
def escaped? (c : Char) : Option Char :=
  if c = Text.doubleQuote ∨ c = Text.backslash ∨ c = '/' then some c
  else match c with
    | 'b' => some '\x08'
    | 'f' => some '\x0c'
    | 'n' => some '\n'
    | 'r' => some '\r'
    | 't' => some '\t'
    | _ => none

/-- The rest of a string behind its opening quote, and what follows the closing one. `high` is the
first half of a surrogate pair that waits for the second, `taken` what was read so far, the last
character first. -/
def readString (high : Option Nat) (taken : List Char) : List Char → Option (List Char × List Char)
  | '\x5c' :: 'u' :: a :: b :: c :: d :: rest =>
    match hexUnit? a b c d, high with
    | none, _ => none
    | some unit, some h =>
      if 0xdc00 ≤ unit ∧ unit < 0xe000 then
        let code := 0x10000 + (h - 0xd800) * 0x400 + (unit - 0xdc00)
        readString none (Char.ofNat code :: taken) rest
      else none
    | some unit, none =>
      if 0xd800 ≤ unit ∧ unit < 0xdc00 then readString (some unit) taken rest
      else readString none (Char.ofNat unit :: taken) rest
  | '\x5c' :: c :: rest =>
    match high, escaped? c with
    | none, some e => readString none (e :: taken) rest
    | _, _ => none
  | c :: rest =>
    if high.isSome then none
    else if c = Text.doubleQuote then some (taken.reverse, rest)
    else readString none (c :: taken) rest
  | [] => none

def isNumberChar (c : Char) : Bool :=
  c.isDigit || c == '-' || c == '+' || c == '.' || c == 'e' || c == 'E'

/-- The number that the given characters spell. -/
def number? (limit : Option Nat) (cs : List Char) : Option Value :=
  let (negative, body) := match cs with
    | '-' :: rest => (true, rest)
    | rest => (false, rest)
  match body with
  | [] => none
  | _ :: _ =>
    if body.all Char.isDigit then
      if limit.all (body.length ≤ ·) then
        let n : Int := Numeral.value body
        some (.integer (if negative then -n else n))
      else none
    else
      match Numeral.toDecimal body with
      | .finite _ coefficient exponent => some (.float (.ofDecimal negative coefficient exponent))
      | _ => none

mutual

/-- The value at the head of the text and what follows it. -/
def readValue (limit : Option Nat) : Nat → List Char → Option (Value × List Char)
  | 0, _ => none
  | fuel + 1, cs =>
    match skipSpace cs with
    | 'n' :: 'u' :: 'l' :: 'l' :: rest => some (.null, rest)
    | 't' :: 'r' :: 'u' :: 'e' :: rest => some (.boolean true, rest)
    | 'f' :: 'a' :: 'l' :: 's' :: 'e' :: rest => some (.boolean false, rest)
    | '[' :: rest =>
      match skipSpace rest with
      | ']' :: rest => some (.list [], rest)
      | rest => (readItems limit fuel rest).map fun (items, rest) => (.list items, rest)
    | '\x7b' :: rest =>
      match skipSpace rest with
      | '\x7d' :: rest => some (.record [], rest)
      | rest =>
        (readFields limit fuel rest).map fun (fields, rest) =>
          (.record (Entries.merge [] fields), rest)
    | c :: rest =>
      if c = Text.doubleQuote then
        (readString none [] rest).map fun (s, rest) => (.text (String.ofList s), rest)
      else
        (number? limit ((c :: rest).takeWhile isNumberChar)).map fun v =>
          (v, (c :: rest).dropWhile isNumberChar)
    | [] => none

/-- The items of a list up to its closing bracket. -/
def readItems (limit : Option Nat) : Nat → List Char → Option (List Value × List Char)
  | 0, _ => none
  | fuel + 1, cs =>
    match readValue limit fuel cs with
    | none => none
    | some (v, rest) =>
      match skipSpace rest with
      | ',' :: rest => (readItems limit fuel rest).map fun (items, rest) => (v :: items, rest)
      | ']' :: rest => some ([v], rest)
      | _ => none

/-- The fields of a record up to its closing brace. -/
def readFields (limit : Option Nat) : Nat → List Char → Option (List (String × Value) × List Char)
  | 0, _ => none
  | fuel + 1, cs =>
    match skipSpace cs with
    | '\x22' :: rest =>
      match readString none [] rest with
      | none => none
      | some (key, rest) =>
        match skipSpace rest with
        | ':' :: rest =>
          match readValue limit fuel rest with
          | none => none
          | some (v, rest) =>
            match skipSpace rest with
            | ',' :: rest =>
              (readFields limit fuel rest).map fun (fields, rest) =>
                ((String.ofList key, v) :: fields, rest)
            | '\x7d' :: rest => some ([(String.ofList key, v)], rest)
            | _ => none
        | _ => none
    | _ => none

end

/-- The value that a whole text spells. -/
def readWithin? (limit : Option Nat) (s : String) : Option Value :=
  let cs := s.toList
  match readValue limit (cs.length + 1) cs with
  | some (v, rest) => if (skipSpace rest).isEmpty then some v else none
  | none => none

/-- The value of a text for a reader with the usual limit. -/
def read? (s : String) : Option Value :=
  readWithin? (some Numeral.digitLimit) s

end SqlSyntax.Json
