import CommitLint.Decimal.Binary64

/-!
# Shortest decimal text

A finite number is written by the fewest digits that read back as it, and
among those by the nearest to it. The digits come first; how they are laid
out around the point is a second, separate choice.
-/

namespace CommitLint

namespace Binary64

/-- Digits of a decimal number, most significant first, and the place of the point behind the
first. -/
structure Digits where
  digits : List Char
  exponent : Int

/-- The number of decimal digits of a positive number. -/
def decimalLength (value : Nat) : Nat :=
  (Nat.toDigits 10 value).length

/-- The exponent of the leading decimal digit of a positive quotient. -/
def leadingExponent (numerator denominator : Nat) : Int :=
  if denominator ≤ numerator then decimalLength (numerator / denominator) - 1
  else
    let places := decimalLength (denominator / numerator)
    if numerator * Nat.pow 10 (places - 1) = denominator then 1 - places else -places

/-- The value as a quotient of whole numbers. -/
def quotient (mantissa : Nat) (exponent : Int) : Nat × Nat :=
  if exponent < 0 then (mantissa, Nat.pow 2 (-exponent).toNat)
  else (mantissa * Nat.pow 2 exponent.toNat, 1)

/--
The grid of `count` digits around the value: of its two neighbours on the
grid those that read back, the nearer one first asked, at a tie the even.
-/
def onGrid (mantissa : Nat) (exponent leading : Int) (count : Nat) : Option (Nat × Int) :=
  let (numerator, denominator) := quotient mantissa exponent
  let place : Int := leading - count + 1
  let (top, bottom) :=
    if place < 0 then (numerator * Nat.pow 10 (-place).toNat, denominator)
    else (numerator, denominator * Nat.pow 10 place.toNat)
  let below := top / bottom
  let nearest := divideEven top bottom
  let farther := if nearest = below then below + 1 else below
  let readsBack (digits : Nat) : Bool :=
    ofDecimal false digits place == .finite false mantissa exponent
  if readsBack nearest then some (nearest, place)
  else if readsBack farther then some (farther, place)
  else none

/-- The first grid with a hit, from `count` digits on; seventeen always suffice. -/
def shortestFrom (mantissa : Nat) (exponent leading : Int) : Nat → Nat → Nat × Int
  | 0, count => (onGrid mantissa exponent leading count).getD (0, 0)
  | fuel + 1, count =>
      match onGrid mantissa exponent leading count with
      | some hit => hit
      | none => shortestFrom mantissa exponent leading fuel (count + 1)

def dropTrailingZeros (digits : List Char) : List Char :=
  match (digits.reverse.dropWhile (· == '0')).reverse with
  | [] => ['0']
  | kept => kept

def shortest (mantissa : Nat) (exponent : Int) : Digits :=
  if mantissa = 0 then ⟨['0'], 0⟩
  else
    let (numerator, denominator) := quotient mantissa exponent
    let leading := leadingExponent numerator denominator
    let (value, place) := shortestFrom mantissa exponent leading 17 1
    let digits := Nat.toDigits 10 value
    ⟨dropTrailingZeros digits, place + digits.length - 1⟩

/-- How digits are laid out: the exponents written positionally, and the width of the others. -/
structure Layout where
  least : Int
  most : Int
  exponentWidth : Nat
  nan : String
  infinity : String

/-- From a ten-thousandth to below ten to the sixteenth the number is written out. -/
def layout : Layout :=
  ⟨-4, 15, 2, "nan", "inf"⟩

def padLeft (width : Nat) (text : List Char) : List Char :=
  List.replicate (width - text.length) '0' ++ text

/-- A written-out number keeps a digit on either side of the point. -/
def layOut (form : Layout) (number : Digits) : List Char :=
  if number.exponent < form.least || form.most < number.exponent then
    let sign := if number.exponent < 0 then '-' else '+'
    let power := padLeft form.exponentWidth (Nat.toDigits 10 number.exponent.natAbs)
    match number.digits with
    | [] => []
    | [digit] => digit :: 'e' :: sign :: power
    | digit :: rest => digit :: '.' :: rest ++ 'e' :: sign :: power
  else if number.exponent < 0 then
    '0' :: '.' :: List.replicate (number.exponent.natAbs - 1) '0' ++ number.digits
  else
    let places := number.exponent.toNat + 1
    let whole := number.digits.take places
    let fraction := number.digits.drop places
    whole ++ List.replicate (places - whole.length) '0' ++ '.' ::
      (if fraction.isEmpty then ['0'] else fraction)

def signed (negative : Bool) (text : List Char) : List Char :=
  if negative then '-' :: text else text

def written : Binary64 → List Char
  | .noNumber _ => layout.nan.toList
  | .infinite negative => signed negative layout.infinity.toList
  | .finite negative mantissa exponent =>
      signed negative (layOut layout (shortest mantissa exponent))

end Binary64

end CommitLint
