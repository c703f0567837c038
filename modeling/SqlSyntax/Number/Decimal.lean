/-! Decimal numbers that keep the exponent they were written with, and their plain text: positional
while the exponent is not positive and at most six zeros lead, with an `E` exponent otherwise. -/

namespace SqlSyntax

/-- `finite negative coefficient exponent` stands for `± coefficient · 10 ^ exponent`; the exponent
also tells how many places were written, so `1.50` and `1.5` differ. -/
inductive Decimal where
  | finite (negative : Bool) (coefficient : Nat) (exponent : Int)
  | infinite (negative : Bool)
  | nan (negative : Bool)
deriving DecidableEq, Repr

namespace Decimal

/-- A signed exponent, the sign always written. -/
def exponentText (e : Int) : String :=
  if e < 0 then "-" ++ toString e.natAbs else "+" ++ toString e.natAbs

/-- Digits with the point `place` digits after the first one begins. -/
def pointed (digits : String) (place : Int) : String :=
  if place ≤ 0 then "0." ++ String.ofList (List.replicate place.natAbs '0') ++ digits
  else if digits.length ≤ place.natAbs then
    digits ++ String.ofList (List.replicate (place.natAbs - digits.length) '0')
  else
    String.ofList (digits.toList.take place.natAbs) ++ "." ++
      String.ofList (digits.toList.drop place.natAbs)

def text : Decimal → String
  | .finite negative coefficient exponent =>
    let digits := toString coefficient
    let left : Int := exponent + digits.length
    let sign := if negative then "-" else ""
    if exponent ≤ 0 ∧ -6 < left then sign ++ pointed digits left
    else
      sign ++ pointed digits 1 ++ (if left = 1 then "" else "E" ++ Decimal.exponentText (left - 1))
  | .infinite negative => (if negative then "-" else "") ++ "Infinity"
  | .nan negative => (if negative then "-" else "") ++ "NaN"

end Decimal

end SqlSyntax
