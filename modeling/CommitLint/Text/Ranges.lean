/-!
# Sets of code points

A set of characters is kept as an array of disjoint ranges in rising order,
both ends included, and membership is found by halving the array.
-/

namespace CommitLint.Text

abbrev Ranges := Array (Nat × Nat)

namespace Ranges

/-- Look between the indices `low` (included) and `high` (excluded). -/
def searchFrom (ranges : Ranges) (code low high : Nat) : Bool :=
  if _inside : low < high then
    let middle := (low + high) / 2
    match ranges[middle]? with
    | none => false
    | some (first, last) =>
        if code < first then searchFrom ranges code low middle
        else if last < code then searchFrom ranges code (middle + 1) high
        else true
  else false
termination_by high - low
decreasing_by all_goals omega

def contains (ranges : Ranges) (c : Char) : Bool :=
  searchFrom ranges c.toNat 0 ranges.size

end Ranges

end CommitLint.Text
