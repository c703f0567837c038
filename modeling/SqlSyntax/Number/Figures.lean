import SqlSyntax.Number.Shortest

/-! Quotients written with a chosen number of places or of figures, rounded to the nearest, an exact
half to the even neighbour. A bare point at the end stands only where it is asked for. -/

namespace SqlSyntax.Figures

def zeros (n : Nat) : String :=
  String.ofList (List.replicate n '0')

/-- Digits with a point behind the first `whole` of them. -/
def pointed (point : Bool) (whole : Nat) (digits : String) : String :=
  let cs := digits.toList
  let fraction := cs.drop whole
  String.ofList (cs.take whole ++ (if point || !fraction.isEmpty then ['.'] else []) ++ fraction)

/-- `num / den` with so many places. -/
def fixed (point : Bool) (places num den : Nat) : String :=
  let digits := toString (Binary64.roundDiv (num * Nat.pow 10 places) den)
  let digits := zeros (places + 1 - digits.length) ++ digits
  pointed point (digits.length - places) digits

/-- The first `count` figures of `num / den` and the exponent of the first of them. -/
def leading (count num den : Nat) : Nat × Int :=
  if num = 0 then (0, 0)
  else
    let exponent := Binary64.leadingExponent num den
    let power : Int := exponent - count + 1
    let figures :=
      if 0 ≤ power then Binary64.roundDiv num (den * Nat.pow 10 power.natAbs)
      else Binary64.roundDiv (num * Nat.pow 10 power.natAbs) den
    if figures = Nat.pow 10 count then (figures / 10, exponent + 1) else (figures, exponent)

/-- `num / den` with an exponent and so many places. -/
def scientific (point : Bool) (places num den : Nat) : String :=
  let (figures, exponent) := leading (places + 1) num den
  let digits := toString figures
  pointed point 1 (digits ++ zeros (places + 1 - digits.length)) ++ "e" ++
    Binary64.exponentText exponent

/-- The text without the zeros at the end of its fraction. -/
def trimmed (text : String) : String :=
  if text.contains '.' then
    let kept := text.toList.reverse.dropWhile (· == '0')
    String.ofList (kept.dropWhile (· == '.')).reverse
  else text

/-- So many figures, positional while the exponent is at least -4 and below their number; zeros at
the end of the fraction stay only if the point is asked for. -/
def general (point : Bool) (count num den : Nat) : String :=
  let count := if count = 0 then 1 else count
  let (figures, exponent) := leading count num den
  if -4 ≤ exponent ∧ exponent < count then
    let text := fixed point (count - 1 - exponent).toNat num den
    if point then text else trimmed text
  else
    let digits := toString figures
    let mantissa := pointed point 1 digits
    (if point then mantissa else trimmed mantissa) ++ "e" ++ Binary64.exponentText exponent

end SqlSyntax.Figures
