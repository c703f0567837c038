/-! Double-precision numbers in exact integer arithmetic. A finite one is `mantissa · 2 ^ exponent`
with `mantissa < 2 ^ 53` and `-1074 ≤ exponent ≤ 971`; the mantissa has its top bit set unless the
exponent is least. Reading a quotient or a decimal gives the nearest one, ties to even. -/

namespace SqlSyntax

inductive Binary64 where
  | finite (negative : Bool) (mantissa : Nat) (exponent : Int)
  | infinite (negative : Bool)
  | nan
deriving DecidableEq, Repr

namespace Binary64

def zero (negative : Bool) : Binary64 :=
  .finite negative 0 (-1074)

def isInfinite : Binary64 → Bool
  | .infinite _ => true
  | _ => false

/-- The nearest integer to `num / den`, an exact half going to the even neighbour. -/
def roundDiv (num den : Nat) : Nat :=
  let floor := num / den
  let twice := 2 * (num % den)
  if twice < den then floor
  else if den < twice then floor + 1
  else if floor % 2 = 0 then floor
  else floor + 1

/-- `num · 2 ^ shift / den` as a pair of naturals. -/
def scaled (num den : Nat) (shift : Int) : Nat × Nat :=
  if 0 ≤ shift then (num * Nat.pow 2 shift.natAbs, den) else (num, den * Nat.pow 2 shift.natAbs)

/-- The exponent at which `num / den` has a mantissa of 53 bits, or the least exponent. -/
def exponentFor (num den : Nat) : Int :=
  let guess : Int := (num.log2 : Int) - den.log2 - 52
  let (a, b) := scaled num den (-guess)
  let exact := if a < Nat.pow 2 52 * b then guess - 1 else guess
  if exact < -1074 then -1074 else exact

/-- The double nearest to `num / den`, for `den ≠ 0`. -/
def nearest (negative : Bool) (num den : Nat) : Binary64 :=
  if num = 0 then zero negative
  else
    let exponent := exponentFor num den
    let (a, b) := scaled num den (-exponent)
    let mantissa := roundDiv a b
    let (mantissa, exponent) :=
      if mantissa = Nat.pow 2 53 then (Nat.pow 2 52, exponent + 1) else (mantissa, exponent)
    if 971 < exponent then .infinite negative else .finite negative mantissa exponent

/-- The double nearest to `coefficient · 10 ^ exponent`. Beyond the range of doubles no power of
ten is computed. -/
def ofDecimal (negative : Bool) (coefficient : Nat) (exponent : Int) : Binary64 :=
  let size : Int := exponent + (toString coefficient).length
  if coefficient = 0 then zero negative
  else if 310 < size then .infinite negative
  else if size < -330 then zero negative
  else if 0 ≤ exponent then nearest negative (coefficient * Nat.pow 10 exponent.natAbs) 1
  else nearest negative coefficient (Nat.pow 10 exponent.natAbs)

/-- The exact value of a finite double as a quotient. -/
def quotient (mantissa : Nat) (exponent : Int) : Nat × Nat :=
  scaled mantissa 1 exponent

/-- The nearest double with the given number of decimal places, ties to even. -/
def roundTo (places : Nat) : Binary64 → Binary64
  | .finite negative mantissa exponent =>
    let (num, den) := quotient mantissa exponent
    nearest negative (roundDiv (num * Nat.pow 10 places) den) (Nat.pow 10 places)
  | x => x

end Binary64

end SqlSyntax
