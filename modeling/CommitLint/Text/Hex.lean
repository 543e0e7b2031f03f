import CommitLint.Text.Folding

/-!
# Hexadecimal digits

The value of digits in the base sixteen, in either case.
-/

namespace CommitLint.Text

def hexDigitValue? (c : Char) : Option Nat :=
  let code := (toAsciiLower c).toNat
  if 48 ≤ code && code ≤ 57 then some (code - 48)
  else if 97 ≤ code && code ≤ 102 then some (code - 87)
  else none

def isHexDigit (c : Char) : Bool :=
  (hexDigitValue? c).isSome

/-- The number that the first `width` characters write, each of which has to be a digit. -/
def hexNumber? (width : Nat) (text : List Char) : Option Nat :=
  if (text.take width).length < width then none
  else
    (text.take width).foldl
      (fun value c => value.bind fun high => (hexDigitValue? c).map fun low => high * 16 + low)
      (some 0)

end CommitLint.Text
