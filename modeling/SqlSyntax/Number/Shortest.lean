import SqlSyntax.Number.Binary64
import SqlSyntax.Number.Decimal

/-! The shortest decimal that reads back as a given double, and the text made of it. -/

namespace SqlSyntax.Binary64

/-- Digits and decimal exponent: `digits · 10 ^ exponent`. -/
structure Digits where
  digits : Nat
  exponent : Int

/-- The decimal exponent of the first digit of `num / den`. -/
def leadingExponent (num den : Nat) : Int :=
  if den ≤ num then (toString (num / den)).length - 1
  else -(toString ((den + num - 1) / num - 1)).length

/-- A decimal of `count` digits that reads back as `mantissa · 2 ^ exponent`, if there is one. The
reals that read back reach half way to either neighbour, ends included for an even mantissa; they
are measured in quarters of the last bit. -/
def candidate (mantissa : Nat) (exponent leading : Int) (count : Nat) : Option Digits :=
  let power : Int := leading - count + 1
  let (unitNum, unitDen) := scaled 1 1 (exponent - 2)
  let (gridNum, gridDen) :=
    if 0 ≤ power then (Nat.pow 10 power.natAbs, 1) else (1, Nat.pow 10 power.natAbs)
  let weight := unitNum * gridDen
  let grid := gridNum * unitDen
  let value := 4 * mantissa * weight
  let low := (4 * mantissa - (if mantissa = Nat.pow 2 52 ∧ -1074 < exponent then 1 else 2)) * weight
  let high := (4 * mantissa + 2) * weight
  let inside (d : Nat) : Bool :=
    if mantissa % 2 = 0 then low ≤ d * grid && d * grid ≤ high
    else low < d * grid && d * grid < high
  let below := value / grid
  let rest := value % grid
  match inside below, inside (below + 1) with
  | true, true =>
    if 2 * rest < grid then some ⟨below, power⟩
    else if grid < 2 * rest then some ⟨below + 1, power⟩
    else some ⟨below + below % 2, power⟩
  | true, false => some ⟨below, power⟩
  | false, true => some ⟨below + 1, power⟩
  | false, false => none

/-- The fewest digits that read back; seventeen always do. -/
def shortest (mantissa : Nat) (exponent : Int) : Digits :=
  let (num, den) := quotient mantissa exponent
  let leading := leadingExponent num den
  (((List.range 17).map (· + 1)).findSome? (candidate mantissa exponent leading)).getD
    ⟨mantissa, exponent⟩

def dropZeros (digits : List Char) : List Char :=
  let kept := (digits.reverse.dropWhile (· == '0')).reverse
  if kept.isEmpty then ['0'] else kept

/-- At least two digits, the sign always written. -/
def exponentText (e : Int) : String :=
  let digits := toString e.natAbs
  (if e < 0 then "-" else "+") ++ (if digits.length < 2 then "0" ++ digits else digits)

/-- The least exponent that is still written positionally, and the text of one that is not. -/
structure Layout where
  least : Int
  exponent : Int → String

/-- Positional from `0.0001` on; exponents have two digits or more. -/
def plain : Layout := ⟨-4, exponentText⟩

/-- Positional from the least exponent of the layout up to sixteen digits before the point, always
with a fraction; outside that range with an exponent. -/
def Layout.magnitude (layout : Layout) (mantissa : Nat) (exponent : Int) : String :=
  if mantissa = 0 then "0.0"
  else
    let found := shortest mantissa exponent
    let written := (toString found.digits).toList
    let digits := dropZeros written
    let place : Int := found.exponent + written.length
    if layout.least < place ∧ place ≤ 16 then
      let body := Decimal.pointed (String.ofList digits) place
      if (digits.length : Int) ≤ place then body ++ ".0" else body
    else
      let fraction := if digits.length = 1 then "" else "." ++ String.ofList (digits.drop 1)
      String.ofList (digits.take 1) ++ fraction ++ "e" ++ layout.exponent (place - 1)

def text : Binary64 → String
  | .finite negative mantissa exponent =>
    (if negative then "-" else "") ++ plain.magnitude mantissa exponent
  | .infinite negative => if negative then "-inf" else "inf"
  | .nan => "nan"

end SqlSyntax.Binary64
