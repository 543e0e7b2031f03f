/-!
# Blank characters

Which characters count as blank, and the removal of blanks from either end
of a text. A trimmed text neither begins nor ends with a blank, and a text
is blank exactly when nothing of it is left.
-/

namespace CommitLint.Text

/-- Separators, and the controls that end a field or a line. -/
def isBlank (c : Char) : Bool :=
  let code := c.toNat
  (9 ≤ code && code ≤ 13) || (28 ≤ code && code ≤ 32) || code == 0x85 || code == 0xA0 ||
    code == 0x1680 || (0x2000 ≤ code && code ≤ 0x200A) || code == 0x2028 || code == 0x2029 ||
    code == 0x202F || code == 0x205F || code == 0x3000

/-- The blanks of the basic alphabet: the space, and tab through carriage return. -/
def isAsciiBlank (c : Char) : Bool :=
  (9 ≤ c.toNat && c.toNat ≤ 13) || c.toNat == 32

/-- A text of blanks only; the empty text is one. -/
def allBlank (text : List Char) : Bool :=
  text.all isBlank

def trimLeft (text : List Char) : List Char :=
  text.dropWhile isBlank

def trimRight : List Char → List Char
  | [] => []
  | first :: rest =>
      match trimRight rest with
      | [] => if isBlank first then [] else [first]
      | kept => first :: kept

def trim (text : List Char) : List Char :=
  trimRight (trimLeft text)

theorem trimRight_eq_nil_iff (text : List Char) :
    trimRight text = [] ↔ allBlank text = true := by
  induction text with
  | nil => simp [trimRight, allBlank]
  | cons first rest ih =>
      simp only [allBlank] at ih
      by_cases blank : trimRight rest = []
      · by_cases head : isBlank first = true <;>
          simp [trimRight, allBlank, blank, head, ih.mp blank]
      · have restNot : rest.all isBlank ≠ true := fun all => blank (ih.mpr all)
        cases kept : trimRight rest with
        | nil => exact absurd kept blank
        | cons next tail => simp [trimRight, allBlank, kept, restNot]

end CommitLint.Text
