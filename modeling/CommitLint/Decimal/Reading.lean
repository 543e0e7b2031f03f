import CommitLint.Decimal.Binary64
import CommitLint.Text.Blank
import CommitLint.Text.Digit
import CommitLint.Text.Folding

/-!
# Reading numbers

Whole numbers in a base and decimal fractions, with blanks around them, a
sign, and single low lines between digits.
-/

namespace CommitLint.Decimal

open Text

/-- The value of a digit of any base up to thirty-six. -/
def digitOf? (c : Char) : Option Nat :=
  let letter := (toAsciiLower c).toNat
  if 97 ≤ letter && letter ≤ 122 then some (letter - 87) else digitValue? c

/-- Digits of `base` with single low lines between them; the last character has to be a digit. -/
def digitsFrom (base : Nat) : Nat → List Char → Option Nat
  | value, [] => some value
  | _, ['_'] => none
  | value, '_' :: c :: rest =>
      match digitOf? c with
      | some digit => if digit < base then digitsFrom base (value * base + digit) rest else none
      | none => none
  | value, c :: rest =>
      match digitOf? c with
      | some digit => if digit < base then digitsFrom base (value * base + digit) rest else none
      | none => none

/-- At least one digit, the first not preceded by a low line. -/
def digits? (base : Nat) : List Char → Option Nat
  | [] => none
  | '_' :: _ => none
  | text => digitsFrom base 0 text

/-- Take away the mark of the base, where the base has one and the text shows it. -/
def dropBaseMark (base : Nat) : List Char → List Char
  | '0' :: mark :: rest =>
      let shown := toAsciiLower mark
      if (base = 2 && shown = 'b') || (base = 8 && shown = 'o') || (base = 16 && shown = 'x') then
        match rest with
        | '_' :: digits => digits
        | digits => digits
      else '0' :: mark :: rest
  | text => text

def splitSign : List Char → Bool × List Char
  | '-' :: rest => (true, rest)
  | '+' :: rest => (false, rest)
  | text => (false, text)

/-- A whole number of the given base. -/
def int? (base : Nat) (text : List Char) : Option Int :=
  let (negative, rest) := splitSign (trim text)
  (digits? base (dropBaseMark base rest)).map fun value =>
    if negative then -(value : Int) else value

/-- The digits before the first character that is neither a digit nor a low line between digits. -/
def takeDigits (text : List Char) : List Char × List Char :=
  text.span fun c => (digitValue? c).isSome || c == '_'

/-- Digits that may be missing, as on either side of a decimal point. -/
def optionalDigits? (text : List Char) : Option Nat :=
  if text.isEmpty then some 0 else digits? 10 text

def countDigits (text : List Char) : Nat :=
  (text.filter (· != '_')).length

/-- The exponent of a decimal fraction; no mark means zero. -/
def exponent? : List Char → Option Int
  | [] => some 0
  | mark :: rest =>
      if toAsciiLower mark = 'e' then
        let (negative, digits) := splitSign rest
        (digits? 10 digits).map fun value => if negative then -(value : Int) else value
      else none

def fraction? (negative : Bool) (text : List Char) : Option Binary64 := do
  let (whole, rest) := takeDigits text
  let (part, rest) :=
    match rest with
    | '.' :: tail => takeDigits tail
    | tail => ([], tail)
  if whole.isEmpty && part.isEmpty then none
  else
    let wholeValue ← optionalDigits? whole
    let partValue ← optionalDigits? part
    let power ← exponent? rest
    let places := countDigits part
    return Binary64.ofDecimal negative (wholeValue * Nat.pow 10 places + partValue) (power - places)

/-- A decimal fraction, an infinity, or the number that is none. -/
def real? (text : List Char) : Option Binary64 :=
  let (negative, rest) := splitSign (trim text)
  let word := String.ofList (rest.map toAsciiLower)
  if word = "inf" || word = "infinity" then some (.infinite negative)
  else if word = "nan" then some .nan
  else fraction? negative rest

end CommitLint.Decimal
