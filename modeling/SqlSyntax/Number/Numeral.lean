import SqlSyntax.Number.Binary64
import SqlSyntax.Number.Decimal
import SqlSyntax.Text.Digit

/-! Reading numerals, in the digits of any script. -/

namespace SqlSyntax.Numeral

/-- The value of a row of digits. -/
def value (digits : List Char) : Nat :=
  digits.foldl (fun n c => 10 * n + (Text.digitValue? c).getD 0) 0

/-- The longest run of digits that is read or written as an integer. -/
def digitLimit : Nat := 4300

/-- Whether an integer has no more digits than the limit, if there is one. -/
def isWithin (limit : Option Nat) (n : Int) : Bool :=
  limit.all fun most => (Nat.toDigits 10 n.natAbs).length ≤ most

/-- Whether the digits of an integer are few enough to be written. -/
def isShort (n : Int) : Bool :=
  isWithin (some digitLimit) n

/-- What is wrong with a run of so many digits. -/
def tooLong (count : Nat) : String :=
  "Exceeds the limit (" ++ toString digitLimit ++
    " digits) for integer string conversion: value has " ++ toString count ++
    " digits; use sys.set_int_max_str_digits() to increase the limit"

/-- What is wrong with writing an integer of more digits than that. -/
def untold : String :=
  "Exceeds the limit (" ++ toString digitLimit ++
    " digits) for integer string conversion; use sys.set_int_max_str_digits() to increase the limit"

def isExponentMark (c : Char) : Bool :=
  c == 'e' || c == 'E'

/-- The signed exponent that follows an exponent mark. -/
def exponent : List Char → Int
  | '-' :: digits => -(value digits)
  | '+' :: digits => value digits
  | digits => value digits

/-- Coefficient and number of places of a numeral without exponent. -/
def mantissa (cs : List Char) : Nat × Nat :=
  let places := ((cs.dropWhile (· != '.')).drop 1).length
  (value (cs.filter (· != '.')), places)

/-- An unsigned numeral as a decimal. -/
def toDecimal (cs : List Char) : Decimal :=
  let m := mantissa (cs.takeWhile (!isExponentMark ·))
  let e := exponent ((cs.dropWhile (!isExponentMark ·)).drop 1)
  .finite false m.1 (e - m.2)

/-- An unsigned numeral as the nearest double. -/
def toBinary64 (cs : List Char) : Binary64 :=
  match toDecimal cs with
  | .finite negative coefficient exponent => Binary64.ofDecimal negative coefficient exponent
  | .infinite negative => .infinite negative
  | .nan _ => .nan

end SqlSyntax.Numeral
