/-!
# Double-precision numbers

A finite number is `mantissa * 2 ^ exponent` with a mantissa below `2 ^ 53`
and an exponent from -1074 to 971; the mantissa is at least `2 ^ 52` unless
the exponent is the least. Every operation is exact arithmetic on these
followed by one rounding, to the nearest number and at a tie to the even
mantissa. What is no number carries a payload that tells it from others.
-/

namespace CommitLint

inductive Binary64 where
  | noNumber (payload : Nat)
  | infinite (negative : Bool)
  | finite (negative : Bool) (mantissa : Nat) (exponent : Int)
deriving DecidableEq, Repr, Inhabited

namespace Binary64

def zero : Binary64 :=
  .finite false 0 (-1074)

/-- The one that is written down. -/
def nan : Binary64 :=
  .noNumber 0

/-- The quotient rounded to a whole number, a half to the even neighbour. -/
def divideEven (numerator denominator : Nat) : Nat :=
  let quotient := numerator / denominator
  let twice := 2 * (numerator % denominator)
  if denominator < twice || (twice == denominator && quotient % 2 == 1) then quotient + 1
  else quotient

/-- The quotient `numerator / denominator` divided by `2 ^ exponent`, as a quotient again. -/
def scaleDown (numerator denominator : Nat) (exponent : Int) : Nat × Nat :=
  if exponent < 0 then (numerator * Nat.pow 2 (-exponent).toNat, denominator)
  else (numerator, denominator * Nat.pow 2 exponent.toNat)

/-- The number nearest to a quotient; what rounds beyond the largest is infinite. -/
def ofQuotient (negative : Bool) (numerator denominator : Nat) : Binary64 :=
  if numerator = 0 then .finite negative 0 (-1074)
  else
    let estimate : Int := max (-1074) (numerator.log2 - denominator.log2 - 53 : Int)
    let (top, bottom) := scaleDown numerator denominator estimate
    let exponent := if top / bottom < Nat.pow 2 53 then estimate else estimate + 1
    let (top, bottom) := scaleDown numerator denominator exponent
    let mantissa := divideEven top bottom
    let (mantissa, exponent) :=
      if mantissa = Nat.pow 2 53 then (Nat.pow 2 52, exponent + 1) else (mantissa, exponent)
    if 971 < exponent then .infinite negative else .finite negative mantissa exponent

/--
The number nearest to `digits * 10 ^ exponent`. Exponents far outside the
range are settled by the count of digits alone.
-/
def ofDecimal (negative : Bool) (digits : Nat) (exponent : Int) : Binary64 :=
  let magnitude : Int := (digits.log2 : Int) / 3 + exponent
  if digits = 0 then .finite negative 0 (-1074)
  else if 400 < exponent then .infinite negative
  else if magnitude < -400 then .finite negative 0 (-1074)
  else if exponent < 0 then ofQuotient negative digits (Nat.pow 10 (-exponent).toNat)
  else ofQuotient negative (digits * Nat.pow 10 exponent.toNat) 1

def isZero : Binary64 → Bool
  | .finite _ mantissa _ => mantissa == 0
  | _ => false

def negate : Binary64 → Binary64
  | .noNumber payload => .noNumber payload
  | .infinite negative => .infinite (!negative)
  | .finite negative mantissa exponent => .finite (!negative) mantissa exponent

/-- A finite number as a signed multiple of `2 ^ (-1074)`. -/
def units (negative : Bool) (mantissa : Nat) (exponent : Int) : Int :=
  let size : Int := mantissa * Nat.pow 2 (exponent + 1074).toNat
  if negative then -size else size

def ofUnits (count : Int) (scale : Nat) : Binary64 :=
  ofQuotient (count < 0) (count.natAbs * scale) (Nat.pow 2 1074)

def add : Binary64 → Binary64 → Binary64
  | .noNumber payload, _ => .noNumber payload
  | _, .noNumber payload => .noNumber payload
  | .infinite first, .infinite second => if first = second then .infinite first else .nan
  | .infinite sign, _ => .infinite sign
  | _, .infinite sign => .infinite sign
  | .finite s m e, .finite t n f =>
      let total := units s m e + units t n f
      if total = 0 then .finite (s && t) 0 (-1074) else ofUnits total 1

/-- The product with a natural number. -/
def scale (number : Binary64) (factor : Nat) : Binary64 :=
  match number with
  | .noNumber payload => .noNumber payload
  | .infinite sign => if factor = 0 then .nan else .infinite sign
  | .finite sign mantissa exponent =>
      if mantissa = 0 || factor = 0 then .finite sign 0 (-1074)
      else ofUnits (units sign mantissa exponent) factor

/-- A whole number rounded to a number, unless it is beyond the largest one. -/
def roundWhole? (whole : Nat) : Option Nat :=
  match ofQuotient false whole 1 with
  | .finite _ mantissa exponent =>
      some ((units false mantissa exponent).natAbs / Nat.pow 2 1074)
  | _ => none

/-- Equality of values: the two zeros are one value, and what is no number is told by its
payload. -/
def sameValue : Binary64 → Binary64 → Bool
  | .noNumber payload, .noNumber other => payload == other
  | .infinite sign, .infinite other => sign == other
  | .finite s m e, .finite t n f => units s m e == units t n f
  | _, _ => false

def equalsInt : Binary64 → Int → Bool
  | .finite negative mantissa exponent, whole =>
      units negative mantissa exponent == whole * Nat.pow 2 1074
  | _, _ => false

end Binary64

end CommitLint
