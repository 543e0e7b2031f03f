import CommitLint.Pattern.Search

/-!
# The hits of a pattern

A search for all hits of a pattern goes through a text from left to right,
and behind every hit it goes on from where the hit ended. A reader that
finds at each place what the pattern is hit with there finds the same as
the search.
-/

namespace CommitLint.Pattern.Node

/-- The hits from a place on, each with the place where it began, with a limit on the places that
are tried. A hit is taken to be nonempty. -/
def hitsFrom (node : Node) (text : List Char) : Nat → Nat → List (Nat × Spot)
  | 0, _ => []
  | more + 1, position =>
      match node.run text.toArray ⟨position, []⟩ some with
      | some found => (position, found) :: node.hitsFrom text more found.position
      | none => node.hitsFrom text more (position + 1)

def hits (node : Node) (text : List Char) : List (Nat × Spot) :=
  node.hitsFrom text text.length 0

variable {α : Type} {node : Node} {text : List Char} {value : Nat → Spot → α}
  {read : List Char → List α}

/-- A reader reads the value of a hit where there is one, and goes on behind it. -/
structure IsFollowedBy (node : Node) (text : List Char) (value : Nat → Spot → α)
    (read : List Char → List α) : Prop where
  nothing : read [] = []
  hit : ∀ position found, node.run text.toArray ⟨position, []⟩ some = some found →
    position < found.position ∧
      read (text.drop position) = value position found :: read (text.drop found.position)
  missed : ∀ position, node.run text.toArray ⟨position, []⟩ some = none →
    read (text.drop position) = read (text.drop (position + 1))

theorem IsFollowedBy.read_drop (followed : node.IsFollowedBy text value read)
    {more position : Nat} (enough : text.length ≤ position + more) :
    read (text.drop position) =
      (node.hitsFrom text more position).map fun hit => value hit.1 hit.2 := by
  induction more generalizing position with
  | zero =>
      have behind : text.drop position = [] := List.drop_of_length_le enough
      rw [behind, followed.nothing, hitsFrom, List.map_nil]
  | succ more ih =>
      rw [hitsFrom]
      cases ran : node.run text.toArray ⟨position, []⟩ some with
      | some found =>
          obtain ⟨onward, reads⟩ := followed.hit position found ran
          rw [reads, ih (by omega)]
          rfl
      | none => rw [followed.missed position ran, ih (by omega)]

theorem IsFollowedBy.read_eq (followed : node.IsFollowedBy text value read) :
    read text = (node.hits text).map fun hit => value hit.1 hit.2 := by
  have enough : text.length ≤ 0 + text.length := Nat.le_add_left _ _
  exact followed.read_drop enough

end CommitLint.Pattern.Node
