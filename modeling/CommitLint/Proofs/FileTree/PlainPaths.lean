import CommitLint.Proofs.FileTree.Places
import Mathlib.Data.List.Induction

/-!
# Paths without steps up

A path that is resolved starts at the root and goes down only, so that its
parts name the one place it can lead to. In a closed tree it leads there
whenever something is there, unless a name or the path is too long.
-/

namespace CommitLint

namespace Location

variable {parts : List String}

/-- One part of a path leads on: a step up goes back, and any other part goes down. -/
def advance (place : Location) (part : String) : Location :=
  if part = ".." then place.dropLast else place ++ [part]

theorem climb_eq_foldl (parts : List String) : Path.climb parts = parts.foldl advance [] := by
  simp only [Path.climb, beq_iff_eq]
  rfl

/-- Parts without steps up lead down. -/
theorem foldl_advance_of_down (down : ".." ∉ parts) (place : Location) :
    parts.foldl advance place = place ++ parts := by
  induction parts generalizing place with
  | nil => exact (List.append_nil place).symm
  | cons part parts ih =>
      obtain ⟨apart, downRest⟩ := List.ne_and_not_mem_of_not_mem_cons down
      rw [List.foldl_cons, advance, if_neg apart.symm, ih downRest, List.append_assoc,
        List.singleton_append]

end Location

namespace Path

variable {path below : Path} {part : String} {parts : List String}

/-- A path from the root down. -/
structure IsPlain (path : Path) : Prop where
  absolute : path.isAbsolute = true
  down : ".." ∉ path.parts

theorem IsPlain.child (plain : path.IsPlain) (down : part ≠ "..") : (path.child part).IsPlain := by
  refine ⟨plain.absolute, fun among => ?_⟩
  rcases List.mem_append.mp among with before | last
  · exact plain.down before
  · exact down (List.mem_singleton.mp last).symm

theorem climb_append_singleton (parts : List String) (part : String) :
    climb (parts ++ [part]) =
      if part = ".." then (climb parts).dropLast else climb parts ++ [part] := by
  simp [climb]

/-- Climbing leaves parts out and brings none in, and no step up is left. -/
theorem mem_climb (among : part ∈ climb parts) : part ∈ parts ∧ part ≠ ".." := by
  induction parts using List.reverseRecOn with
  | nil => cases among
  | append_singleton parts last ih =>
      rw [climb_append_singleton] at among
      split at among
      · obtain ⟨before, down⟩ := ih (List.dropLast_subset _ among)
        exact ⟨List.mem_append_left _ before, down⟩
      · next down =>
          rcases List.mem_append.mp among with before | here
          · obtain ⟨before, down⟩ := ih before
            exact ⟨List.mem_append_left _ before, down⟩
          · cases List.mem_singleton.mp here
            exact ⟨List.mem_append_right _ here, down⟩

theorem hasNull_eq_false_iff :
    path.hasNull = false ↔ ∀ part ∈ path.parts, '\x00' ∉ part.toList := by
  simp [hasNull]

theorem hasNull_join (whole : path.hasNull = false) (wholeBelow : below.hasNull = false) :
    (path.join below).hasNull = false := by
  rw [join]
  split
  · exact wholeBelow
  · rw [hasNull_eq_false_iff] at whole wholeBelow ⊢
    intro part among
    rcases List.mem_append.mp among with first | second
    · exact whole part first
    · exact wholeBelow part second

end Path

namespace FileTree

variable {tree : FileTree} {path : Path} {location place : Location} {parts : List String}

theorem resolve_isPlain (tree : FileTree) (path : Path) : (tree.resolve path).IsPlain :=
  ⟨rfl, fun among => (Path.mem_climb among).2 rfl⟩

theorem hasNull_resolve (here : (Path.mk "/" tree.current).hasNull = false)
    (whole : path.hasNull = false) : (tree.resolve path).hasNull = false := by
  rw [Path.hasNull_eq_false_iff] at here whole ⊢
  intro part among
  have known := (Path.mem_climb among).1
  split at known
  · exact whole part known
  · rcases List.mem_append.mp known with above | own
    · exact here part above
    · exact whole part own

/-! ## Where a plain path leads -/

/-- Where the system goes one part on, it gets to where the part leads. -/
theorem advance_of_step {part : String} (stepped : tree.step location part = .ok place) :
    place = Location.advance location part := by
  obtain ⟨-, next⟩ := step_eq_ok_iff.mp stepped
  rw [Location.advance]
  split at next
  case isTrue up => rw [if_pos up, next]
  case isFalse down => rw [if_neg down, next.2]

theorem foldl_advance_of_walk (walked : tree.walk location parts = .ok place) :
    place = parts.foldl Location.advance location := by
  induction parts generalizing location with
  | nil =>
      cases walked
      rfl
  | cons part parts ih =>
      obtain ⟨next, stepped, rest⟩ := walk_cons_eq_ok_iff.mp walked
      rw [List.foldl_cons, ← advance_of_step stepped]
      exact ih rest

theorem walk_of_down (down : ".." ∉ parts) (walked : tree.walk location parts = .ok place) :
    place = location ++ parts :=
  (foldl_advance_of_walk walked).trans (Location.foldl_advance_of_down down location)

theorem locate_of_isPlain (plain : path.IsPlain) (located : tree.locate path = .ok place) :
    place = path.parts := by
  obtain ⟨-, walked⟩ := locate_eq_ok_iff.mp located
  rw [if_pos plain.absolute] at walked
  exact walk_of_down plain.down walked

/-- The way to what is in a closed tree can fail for the length of a name only. -/
theorem walk_of_there (closed : tree.IsClosed) (down : ".." ∉ parts)
    (there : tree.get? (location ++ parts) ≠ none) :
    tree.walk location parts = .ok (location ++ parts) ∨
      tree.walk location parts = .error .nameTooLong := by
  induction parts generalizing location with
  | nil =>
      rw [List.append_nil]
      exact .inl rfl
  | cons part rest ih =>
      obtain ⟨apart, downRest⟩ := List.ne_and_not_mem_of_not_mem_cons down
      have above : tree.get? location = some .directory := closed.above there
      have onward : location ++ part :: rest = location ++ [part] ++ rest := by simp
      by_cases long : nameLimit < part.utf8ByteSize
      · have stepped : tree.step location part = .error .nameTooLong := by
          simp [step, above, apart.symm, long]
        exact .inr (by rw [walk, stepped]; rfl)
      · have stepped : tree.step location part = .ok (location ++ [part]) := by
          simp [step, above, apart.symm, long]
        rw [onward] at there ⊢
        rw [walk, stepped]
        exact ih downRest there

/-- Where a plain path finds nothing, there is nothing. -/
theorem free_of_isPlain (closed : tree.IsClosed) (plain : path.IsPlain)
    (whole : path.hasNull = false) (free : tree.isThere path = .ok false) :
    tree.get? path.parts = none := by
  refine Classical.byContradiction fun there => ?_
  have found : tree.locate path = .ok path.parts ∨ tree.locate path = .error .nameTooLong := by
    rw [locate, if_pos plain.absolute]
    split
    · exact .inr rfl
    · exact walk_of_there closed plain.down there
  rcases found with located | long
  · rw [isThere_of_locate whole located, Except.ok.injEq, Option.isSome_eq_false_iff,
      Option.isNone_iff_eq_none] at free
    exact there free
  · simp [isThere, test, entryAt, whole, long, bind, Except.bind] at free

end FileTree

end CommitLint
