import CommitLint.FileTree.Access

/-!
# Trees of one shape

Trees with files and directories in the same places, whatever the files hold.
A path leads to the same place in them or fails to for the same reason, and
they answer alike to every question about what is a directory.
-/

namespace CommitLint

def Entry.isDirectory : Entry → Bool
  | .directory => true
  | .file _ _ => false

namespace FileTree

structure SameShape (tree other : FileTree) : Prop where
  current : other.current = tree.current
  names : ∀ location, other.names location = tree.names location
  kinds : ∀ location, (other.get? location).map Entry.isDirectory =
    (tree.get? location).map Entry.isDirectory

namespace SameShape

variable {tree other : FileTree}

theorem step_eq (same : SameShape tree other) (location : Location) (part : String) :
    other.step location part = tree.step location part := by
  have alike := same.kinds location
  unfold step
  cases held : tree.get? location with
  | none =>
      rw [held, Option.map_none, Option.map_eq_none_iff] at alike
      rw [alike]
  | some entry =>
      rw [held, Option.map_some, Option.map_eq_some_iff] at alike
      obtain ⟨entry', held', alike⟩ := alike
      rw [held']
      cases entry <;> cases entry' <;> first | rfl | cases alike

theorem walk_eq (same : SameShape tree other) (location : Location) (parts : List String) :
    other.walk location parts = tree.walk location parts := by
  induction parts generalizing location with
  | nil => rfl
  | cons part rest ih => simp only [walk, same.step_eq, ih]

theorem locate_eq (same : SameShape tree other) (path : Path) :
    other.locate path = tree.locate path := by
  simp only [locate, same.current, same.walk_eq]

theorem list_eq (same : SameShape tree other) (path : Path) : other.list path = tree.list path := by
  simp only [list, same.locate_eq, same.names]

/-- What is at a path is of one kind in both, or nothing is for one reason. -/
theorem entryAt_cases (same : SameShape tree other) (path : Path) :
    (∃ error, tree.entryAt path = .error error ∧ other.entryAt path = .error error) ∨
      ∃ first second, first.isDirectory = second.isDirectory ∧
        tree.entryAt path = .ok first ∧ other.entryAt path = .ok second := by
  simp only [entryAt, same.locate_eq, bind, Except.bind]
  cases tree.locate path with
  | error error => exact .inl ⟨error, rfl, rfl⟩
  | ok location =>
      have alike := same.kinds location
      dsimp only
      cases held : tree.get? location with
      | none =>
          rw [held, Option.map_none, Option.map_eq_none_iff] at alike
          rw [alike]
          exact .inl ⟨.notFound, rfl, rfl⟩
      | some entry =>
          rw [held, Option.map_some, Option.map_eq_some_iff] at alike
          obtain ⟨entry', held', alike⟩ := alike
          rw [held']
          exact .inr ⟨entry, entry', alike.symm, rfl, rfl⟩

theorem test_eq (same : SameShape tree other) (path : Path) {p : Entry → Bool}
    (blind : ∀ first second, first.isDirectory = second.isDirectory → p second = p first) :
    other.test path p = tree.test path p := by
  unfold test
  rcases same.entryAt_cases path with ⟨error, first, second⟩ | ⟨entry, entry', alike, first, second⟩
  · rw [first, second]
  · rw [first, second]
    simp only [blind _ _ alike]

theorem isFile_eq (same : SameShape tree other) (path : Path) :
    other.isFile path = tree.isFile path :=
  same.test_eq path fun first second alike => by cases first <;> cases second <;> trivial

theorem isDirectory_eq (same : SameShape tree other) (path : Path) :
    other.isDirectory path = tree.isDirectory path :=
  same.test_eq path fun first second alike => by cases first <;> cases second <;> trivial

theorem get?_eq_directory_iff (same : SameShape tree other) (location : Location) :
    other.get? location = some .directory ↔ tree.get? location = some .directory := by
  have shown (tree : FileTree) : tree.get? location = some .directory ↔
      (tree.get? location).map Entry.isDirectory = some true := by
    cases tree.get? location with
    | none => simp
    | some entry => cases entry <;> simp [Entry.isDirectory]
  rw [shown, shown, same.kinds]

theorem hasCurrent_eq (same : SameShape tree other) : other.hasCurrent = tree.hasCurrent := by
  rw [Bool.eq_iff_iff, hasCurrent_iff, hasCurrent_iff, same.current, same.get?_eq_directory_iff]

end SameShape

end FileTree

end CommitLint
