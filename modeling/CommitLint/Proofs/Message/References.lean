import CommitLint.Proofs.Message.ReferencePattern
import CommitLint.Proofs.Message.Tokens
import CommitLint.Proofs.Pattern.Hits

/-!
# The references of a text

The references of a text are what its tokens spell. A search for the pattern
of references from left to right, which goes on behind every match, holds
the same references in its groups.
-/

namespace CommitLint.Reference

open Pattern

/-- The references that the pattern is found at from a place on, behind a match from where it
ended, with a limit on the places that are tried. -/
def searchFrom (text : List Char) : Nat → Nat → List Reference
  | 0, _ => []
  | more + 1, position =>
      match node.run text.toArray ⟨position, []⟩ some with
      | some found => ofSpot text position found :: searchFrom text more found.position
      | none => searchFrom text more (position + 1)

theorem searchFrom_eq_map (text : List Char) (more position : Nat) :
    searchFrom text more position =
      (node.hitsFrom text more position).map fun hit => ofSpot text hit.1 hit.2 := by
  induction more generalizing position with
  | zero => rfl
  | succ more ih =>
      rw [searchFrom, Node.hitsFrom]
      cases node.run text.toArray ⟨position, []⟩ some with
      | some found =>
          dsimp only
          rw [ih, List.map_cons]
      | none => exact ih (position + 1)

theorem followed (text : List Char) : node.IsFollowedBy text (ofSpot text) extract where
  nothing := by rw [extract]
  hit := by
    intro position found ran
    obtain ⟨spelling, rest, cut, -, reached, held⟩ := spelling_of_run ran
    have same := held.ofSpot_eq (cut ▸ List.prefix_append _ rest) reached
    have positive : 0 < spelling.raw.length := List.length_pos_iff.mpr spelling.raw_ne_nil
    have read := readAt?_drop text position
    rw [ran, Option.map_some, cut, same] at read
    refine ⟨by omega, ?_⟩
    rw [reached, ← List.drop_drop, cut, List.drop_left, same]
    exact extract_of_readAt? read
  missed := by
    intro position ran
    have read := readAt?_drop text position
    rw [ran, Option.map_none] at read
    rw [← List.drop_drop]
    cases ahead : text.drop position with
    | nil => rfl
    | cons first rest =>
        rw [ahead] at read
        exact extract_of_not_starts (readAt?_eq_none_iff.mp read)

theorem searchFrom_eq {text : List Char} {more position : Nat}
    (enough : text.length ≤ position + more) :
    searchFrom text more position = extract (text.drop position) := by
  rw [searchFrom_eq_map, (followed text).read_drop enough]

/--
The references of a text are those that its tokens spell: the next token
begins at the first place, not before the end of the last one, where a
spelling begins, and is the longest one there. The search for the pattern
gives the same references.
-/
theorem extract_tokens [CharacterNames] (text : List Char) :
    (∀ references, extract text = references ↔
      ∃ spellings, Tokens text spellings ∧ references = spellings.map Spelling.reference) ∧
    Pattern.read patternText = .ok node ∧
    extract text = searchFrom text text.length 0 := by
  refine ⟨fun _ => extract_eq_iff, read_patternText, ?_⟩
  rw [searchFrom_eq (Nat.le_add_left _ _), List.drop_zero]

end CommitLint.Reference
