import CommitLint.Text.Word

/-!
# Mentions

A handle is the longest run of name characters behind an at sign. Name
characters hold no at sign, so handles are found by looking at every at
sign by itself.
-/

namespace CommitLint

/-- Word characters of the basic alphabet and the hyphen. -/
def isNameChar (c : Char) : Bool :=
  Text.isAsciiWord c || c == '-'

namespace Mention

/-- The handles of a text, from left to right; repeated ones stay. -/
def extract : List Char → List (List Char)
  | [] => []
  | '@' :: rest =>
      match rest.takeWhile isNameChar with
      | [] => extract rest
      | handle => handle :: extract rest
  | _ :: rest => extract rest

end Mention

end CommitLint
