/-!
# Similar words

How alike two words are: the characters that both hold in common runs,
counted twice, against the characters of both. The common runs are found by
taking the longest one, the leftmost of several, and then looking on either
side of it.
-/

namespace CommitLint.Text

/-- How far two texts agree from their start. -/
def commonLength : List Char → List Char → Nat
  | first :: rest, other :: tail => if first = other then commonLength rest tail + 1 else 0
  | _, _ => 0

/-- A run that both texts hold, by where it starts in each. -/
structure CommonRun where
  left : Nat
  right : Nat
  length : Nat

/-- The longest run that starts with `text`, at or after the place `right` of the other text. -/
def longestAt (text : List Char) (left : Nat) : Nat → List Char → CommonRun → CommonRun
  | _, [], best => best
  | right, other :: tail, best =>
      let length := commonLength text (other :: tail)
      longestAt text left (right + 1) tail
        (if best.length < length then ⟨left, right, length⟩ else best)

def longestRun (other : List Char) : Nat → List Char → CommonRun → CommonRun
  | _, [], best => best
  | left, first :: rest, best =>
      longestRun other (left + 1) rest (longestAt (first :: rest) left 0 other best)

/-- The number of characters in common runs; a run shortens the texts, so `fuel` is their length. -/
def matched : Nat → List Char → List Char → Nat
  | 0, _, _ => 0
  | fuel + 1, text, other =>
      let best := longestRun other 0 text ⟨0, 0, 0⟩
      if best.length = 0 then 0
      else
        best.length + matched fuel (text.take best.left) (other.take best.right) +
          matched fuel (text.drop (best.left + best.length)) (other.drop (best.right + best.length))

/-- A word that is alike enough to be meant, with the count that ranks it. -/
structure Suggestion where
  word : String
  score : Nat
  total : Nat

namespace Suggestion

/-- Three fifths of the characters have to be common. -/
def close (suggestion : Suggestion) : Bool :=
  3 * suggestion.total ≤ 10 * suggestion.score

/-- More alike comes first, and of equally alike words the later in the alphabet. -/
def before (first second : Suggestion) : Bool :=
  let left := first.score * second.total
  let right := second.score * first.total
  if left = right then second.word ≤ first.word else right < left

end Suggestion

/-- The three most similar of `words`, as far as they are similar enough. -/
def closeMatches (word : String) (words : List String) : List String :=
  let scored := words.map fun candidate =>
    let total := candidate.length + word.length
    (⟨candidate, matched total candidate.toList word.toList, total⟩ : Suggestion)
  (((scored.filter (·.close)).mergeSort Suggestion.before).take 3).map (·.word)

end CommitLint.Text
