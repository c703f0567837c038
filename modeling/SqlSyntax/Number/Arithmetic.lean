import SqlSyntax.Number.Binary64

/-! Arithmetic on doubles: the exact result, rounded to the nearest double. -/

namespace SqlSyntax.Binary64

/-- The exact value of a finite double as a signed quotient. -/
def signedQuotient (negative : Bool) (mantissa : Nat) (exponent : Int) : Int × Nat :=
  let (num, den) := quotient mantissa exponent
  (if negative then -num else num, den)

/-- The double nearest to `num / den`. -/
def ofQuotient (num : Int) (den : Nat) : Binary64 :=
  nearest (num < 0) num.natAbs den

def ofInt (n : Int) : Binary64 :=
  ofQuotient n 1

def add : Binary64 → Binary64 → Binary64
  | .finite a m e, .finite b n f =>
    let (x, p) := signedQuotient a m e
    let (y, q) := signedQuotient b n f
    let sum := x * q + y * p
    if sum = 0 then zero (a && b) else ofQuotient sum (p * q)
  | .nan, _ => .nan
  | _, .nan => .nan
  | .infinite a, .infinite b => if a = b then .infinite a else .nan
  | .infinite a, .finite .. => .infinite a
  | .finite .., .infinite b => .infinite b

def neg : Binary64 → Binary64
  | .finite a m e => .finite (!a) m e
  | .infinite a => .infinite (!a)
  | .nan => .nan

def sub (x y : Binary64) : Binary64 :=
  add x (neg y)

def mul : Binary64 → Binary64 → Binary64
  | .finite a m e, .finite b n f =>
    let (x, p) := quotient m e
    let (y, q) := quotient n f
    nearest (a != b) (x * y) (p * q)
  | .nan, _ => .nan
  | _, .nan => .nan
  | .infinite a, .infinite b => .infinite (a != b)
  | .infinite a, .finite b n _ => if n = 0 then .nan else .infinite (a != b)
  | .finite a m _, .infinite b => if m = 0 then .nan else .infinite (a != b)

/-- The integer part of a finite double, toward zero. -/
def truncated : Binary64 → Int
  | .finite negative mantissa exponent =>
    let (num, den) := quotient mantissa exponent
    if negative then -(num / den : Nat) else (num / den : Nat)
  | _ => 0

/-- The integer nearest to a finite double, an exact half going to the even neighbour. -/
def rounded : Binary64 → Int
  | .finite negative mantissa exponent =>
    let (num, den) := quotient mantissa exponent
    if negative then -(roundDiv num den : Nat) else (roundDiv num den : Nat)
  | _ => 0

/-- Whether the double is an integer. -/
def isIntegral : Binary64 → Bool
  | .finite _ mantissa exponent =>
    let (num, den) := quotient mantissa exponent
    num % den == 0
  | _ => false

def isFinite : Binary64 → Bool
  | .finite .. => true
  | _ => false

/-- The integer that the double is, if it is one of at most 63 bits. -/
def smallInteger? (x : Binary64) : Option Int :=
  if x.isIntegral && x.truncated.natAbs < 9223372036854775808 then some x.truncated else none

end SqlSyntax.Binary64
