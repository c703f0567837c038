import SqlSyntax.Log.Record
import SqlSyntax.Number.Arithmetic
import SqlSyntax.Number.Figures

/-! Messages with percent placeholders. A placeholder takes the next argument, or, where the
arguments are given by name, the one it names. -/

namespace SqlSyntax.Log

def wrongType (message : String) : Fault := ⟨"TypeError", message⟩
def wrongValue (message : String) : Fault := ⟨"ValueError", message⟩
def tooLarge (message : String) : Fault := ⟨"OverflowError", message⟩

/-- The arguments still to be used, and those that can be asked for by name. -/
structure Arguments where
  named : Option (Entries Value)
  rest : List Value

namespace Arguments

/-- A single record with fields is taken by name; it also counts as one argument. -/
def ofList : List Value → Arguments
  | [.record (field :: fields)] => ⟨some (field :: fields), [.record (field :: fields)]⟩
  | values => ⟨none, values⟩

def next (a : Arguments) : Except Fault (Value × Arguments) :=
  match a.rest with
  | v :: rest => .ok (v, { a with rest })
  | [] => .error (wrongType "not enough arguments for format string")

/-- The argument of that name is the only one left to use. -/
def choose (a : Arguments) (name : String) : Except Fault Arguments :=
  match a.named with
  | none => .error (wrongType "format requires a mapping")
  | some fields =>
    match fields.get? name with
    | some v => .ok { a with rest := [v] }
    | none => .error ⟨"KeyError", Text.shown name⟩

end Arguments

/-- A placeholder: flags, least width, precision, conversion. -/
structure Placeholder where
  left : Bool
  zeros : Bool
  sign : Option Char
  alternate : Bool
  width : Nat
  precision : Option Nat
  conversion : Char

namespace Placeholder

def numberOf (cs : List Char) : Nat :=
  cs.foldl (fun n c => 10 * n + (c.toNat - 48)) 0

def widest : Nat := 9223372036854775807
def mostPrecise : Nat := 2147483647

def integer? : Value → Option Int
  | .boolean b => some (if b then 1 else 0)
  | .integer n => some n
  | _ => none

/-- How many characters stand before the bracket that closes the name; brackets in it nest. -/
def nameLength? : Nat → List Char → Option Nat
  | _, [] => none
  | depth, c :: rest =>
    if c = ')' then
      match depth with
      | 0 => some 0
      | depth + 1 => (nameLength? depth rest).map (· + 1)
    else (nameLength? (if c = '(' then depth + 1 else depth) rest).map (· + 1)

/-- The name in brackets, if there is one, decides about the arguments. -/
def readName (a : Arguments) : List Char → Except Fault (Arguments × List Char)
  | '(' :: rest =>
    match a.named, nameLength? 0 rest with
    | none, _ => .error (wrongType "format requires a mapping")
    | some _, none => .error (wrongValue "incomplete format key")
    | some _, some n => do
      let a ← a.choose (String.ofList (rest.take n))
      .ok (a, rest.drop (n + 1))
  | cs => .ok (a, cs)

/-- A number that is written out or, for a star, given by the next argument. -/
def readSize (a : Arguments) (what : String) (limit : Nat) :
    List Char → Except Fault (Option Int × Arguments × List Char)
  | '*' :: rest => do
    let (v, a) ← a.next
    match integer? v with
    | none => .error (wrongType "* wants int")
    | some n =>
      if limit < n.natAbs then .error (tooLarge ("argument too large for " ++ what))
      else .ok (some n, a, rest)
  | cs =>
    let digits := cs.takeWhile Char.isDigit
    if limit < numberOf digits then .error (wrongValue (what ++ " too big"))
    else .ok (if digits.isEmpty then none else some (numberOf digits), a, cs.drop digits.length)

/-- The placeholder behind a percent sign, the arguments left, and the text behind it. -/
def read (a : Arguments) (cs : List Char) :
    Except Fault (Placeholder × Arguments × List Char) := do
  let isFlag (c : Char) : Bool := c == '-' || c == '0' || c == '+' || c == ' ' || c == '#'
  let (a, cs) ← readName a cs
  let flags := cs.takeWhile isFlag
  let (width, a, cs) ← readSize a "width" widest (cs.drop flags.length)
  let (precision, a, cs) ← match cs with
    | '.' :: rest => do
      let (n, a, rest) ← readSize a "precision" mostPrecise rest
      .ok (some (n.getD 0).toNat, a, rest)
    | cs => .ok (none, a, cs)
  let cs := match cs with
    | c :: rest => if c == 'h' || c == 'l' || c == 'L' then rest else cs
    | [] => []
  match cs with
  | [] => .error (wrongValue "incomplete format")
  | c :: rest =>
    let sign :=
      if flags.contains '+' then some '+' else if flags.contains ' ' then some ' ' else none
    let width := width.getD 0
    .ok (⟨flags.contains '-' || width < 0, flags.contains '0', sign, flags.contains '#',
      width.natAbs, precision, c⟩, a, rest)

/-- The text brought to the least width. -/
def fill (p : Placeholder) (text : String) : String :=
  let blanks := String.ofList (List.replicate (p.width - text.length) ' ')
  if p.left then text ++ blanks else blanks ++ text

/-- A number brought to the least width, zeros standing behind its sign. -/
def fillNumber (p : Placeholder) (negative : Bool) (mark digits : String) : String :=
  let sign := if negative then "-" else match p.sign with
    | some c => String.singleton c
    | none => ""
  let taken := sign.length + mark.length + digits.length
  if p.zeros && !p.left then sign ++ mark ++ Figures.zeros (p.width - taken) ++ digits
  else p.fill (sign ++ mark ++ digits)

/-- An integer with at least as many digits as the precision asks for. -/
def fillInteger (p : Placeholder) (mark : String) (digits : List Char) (n : Int) : String :=
  p.fillNumber (n < 0) mark
    (Figures.zeros (p.precision.getD 0 - digits.length) ++ String.ofList digits)

def cut (p : Placeholder) (text : String) : String :=
  match p.precision with
  | some n => String.ofList (text.toList.take n)
  | none => text

/-- The integer part of a number. -/
def truncated (p : Placeholder) : Value → Except Fault Int
  | .float .nan => .error (wrongValue "cannot convert float NaN to integer")
  | .float (.infinite _) => .error (tooLarge "cannot convert float infinity to integer")
  | .float x => .ok x.truncated
  | .plain (.decimal (.finite negative coefficient exponent)) =>
    let size :=
      if 0 ≤ exponent then coefficient * Nat.pow 10 exponent.natAbs
      else coefficient / Nat.pow 10 exponent.natAbs
    .ok (if negative then -(size : Int) else size)
  | .plain (.decimal (.nan _)) => .error (wrongValue "cannot convert NaN to integer")
  | .plain (.decimal (.infinite _)) => .error (tooLarge "cannot convert Infinity to integer")
  | .plain (.binary digits base) => .ok (Literal.binaryValue digits base)
  | v =>
    match integer? v with
    | some n => .ok n
    | none => .error (wrongType ("%" ++ String.singleton p.conversion ++
        " format: a real number is required"))

/-- The double nearest to a number. -/
def real : Value → Except Fault Binary64
  | .float x => .ok x
  | .plain (.decimal (.finite negative coefficient exponent)) =>
    .ok (.ofDecimal negative coefficient exponent)
  | .plain (.decimal (.infinite negative)) => .ok (.infinite negative)
  | .plain (.decimal (.nan _)) => .ok .nan
  | v =>
    match integer? v with
    | none => .error (wrongType "must be real number")
    | some n =>
      match Binary64.ofInt n with
      | .infinite _ => .error (tooLarge "int too large to convert to float")
      | x => .ok x

/-- A real number, with the places, the figures or the exponent that the conversion asks for. -/
def writeReal (p : Placeholder) (v : Value) : Except Fault String := do
  let form : Bool → Nat → Nat → Nat → String := match p.conversion.toLower with
    | 'e' => Figures.scientific
    | 'g' => Figures.general
    | _ => Figures.fixed
  let cased (text : String) : String := if p.conversion.isUpper then text.toUpper else text
  match ← real v with
  | .finite negative mantissa exponent =>
    let (num, den) := Binary64.quotient mantissa exponent
    .ok (p.fillNumber negative "" (cased (form p.alternate (p.precision.getD 6) num den)))
  | .infinite negative => .ok (p.fillNumber negative "" (cased "inf"))
  | .nan => .ok (p.fillNumber false "" (cased "nan"))

def writeBase (p : Placeholder) (base : Nat) (mark : String) (v : Value) : Except Fault String :=
  match integer? v with
  | none => .error (wrongType ("%" ++ String.singleton p.conversion ++
      " format: an integer is required"))
  | some n =>
    let digits := Nat.toDigits base n.natAbs
    let digits := if p.conversion.isUpper then digits.map Char.toUpper else digits
    .ok (p.fillInteger (if p.alternate then mark else "") digits n)

/-- A character, given as such or by its code. -/
def writeChar (p : Placeholder) (v : Value) : Except Fault String :=
  match v, integer? v with
  | _, some n =>
    if 0 ≤ n ∧ n < 0x110000 then .ok (p.fill (String.singleton (Char.ofNat n.toNat)))
    else .error (tooLarge "%c arg not in range(0x110000)")
  | .text s, none =>
    if s.length = 1 then .ok (p.fill s) else .error (wrongType "%c requires int or char")
  | _, none => .error (wrongType "%c requires int or char")

/-- The text of a value; `position` is where the conversion stands in the message. -/
def write (p : Placeholder) (position : Nat) (v : Value) : Except Fault String :=
  let shown := v.shown
  match p.conversion with
  | 's' => .ok (p.fill (p.cut v.plainText))
  | 'r' => .ok (p.fill (p.cut shown))
  | 'a' => .ok (p.fill (p.cut (Text.shownAscii shown)))
  | 'x' => p.writeBase 16 "0x" v
  | 'X' => p.writeBase 16 "0X" v
  | 'o' => p.writeBase 8 "0o" v
  | 'c' => p.writeChar v
  | c =>
    if ['d', 'i', 'u'].contains c then do
      let n ← p.truncated v
      .ok (p.fillInteger "" (Nat.toDigits 10 n.natAbs) n)
    else if ['e', 'E', 'f', 'F', 'g', 'G'].contains c then p.writeReal v
    else
      let named := if 31 ≤ c.toNat ∧ c.toNat ≤ 126 then c else '?'
      .error (wrongValue ("unsupported format character '" ++ String.singleton named ++ "' (0x" ++
        String.ofList (Nat.toDigits 16 c.toNat) ++ ") at index " ++ toString position))

end Placeholder

/-- The rest of a message of `size` characters with its placeholders filled. All arguments have to
be used, unless they can be asked for by name. -/
def fillFrom (size : Nat) : Nat → Arguments → List Char → Except Fault (List Char)
  | 0, _, _ => .ok []
  | _, a, [] =>
    if a.named.isSome || a.rest.isEmpty then .ok []
    else .error (wrongType "not all arguments converted during string formatting")
  | fuel + 1, a, '%' :: '%' :: rest => do
    let cs ← fillFrom size fuel a rest
    .ok ('%' :: cs)
  | fuel + 1, a, '%' :: rest => do
    let (p, a, rest) ← Placeholder.read a rest
    let (v, a) ← a.next
    let text ← p.write (size - rest.length - 1) v
    let cs ← fillFrom size fuel a rest
    .ok (text.toList ++ cs)
  | fuel + 1, a, c :: rest => do
    let cs ← fillFrom size fuel a rest
    .ok (c :: cs)

/-- A message without arguments is taken as it is. -/
def filled (template : String) (args : List Value) : Except Fault String :=
  if args.isEmpty then .ok template
  else do
    let cs ← fillFrom template.length (template.length + 1) (.ofList args) template.toList
    .ok (String.ofList cs)

end SqlSyntax.Log
