import CommitLint.FileTree.Access

/-!
# Searching paths

Paths are tried in turn until one leads to a file. The search comes to a path
if those before it lead to none, and a path that is too long ends it.
-/

namespace CommitLint

namespace FileTree

variable (tree : FileTree)

/-- There is a file with this content at a path. -/
def Holds (path : Path) (content : Content) : Prop :=
  path.hasNull = false ∧ ∃ mode, tree.entryAt path = .ok (.file content mode)

/-- A path is too long to be followed. -/
def Refuses (path : Path) : Prop :=
  path.hasNull = false ∧ tree.entryAt path = .error .nameTooLong

def Misses (path : Path) : Prop :=
  (∀ content, ¬ tree.Holds path content) ∧ ¬ tree.Refuses path

/-- A search of paths comes to one of them: those before it lead to no file. -/
inductive Reaches : List Path → Path → Prop where
  | here {path : Path} {rest : List Path} : Reaches (path :: rest) path
  | later {other path : Path} {rest : List Path} (missed : tree.Misses other)
      (further : Reaches rest path) : Reaches (other :: rest) path

variable {tree} {path : Path} {content : Content}

theorem isFile_of_holds (held : tree.Holds path content) : tree.isFile path = .ok true := by
  obtain ⟨whole, mode, entry⟩ := held
  simp [isFile, test, whole, entry]

theorem test_of_refuses (refused : tree.Refuses path) (p : Entry → Bool) :
    tree.test path p = .error (.system .nameTooLong path.text) := by
  obtain ⟨whole, entry⟩ := refused
  simp [test, whole, entry]

theorem isFile_of_refuses (refused : tree.Refuses path) :
    tree.isFile path = .error (.system .nameTooLong path.text) :=
  test_of_refuses refused _

theorem isFile_of_misses (missed : tree.Misses path) : tree.isFile path = .ok false := by
  obtain ⟨unheld, unrefused⟩ := missed
  unfold isFile test
  split
  · rfl
  · rename_i whole
    rw [Bool.not_eq_true] at whole
    cases entry : tree.entryAt path with
    | ok found =>
        cases found with
        | directory => rfl
        | file content mode => exact absurd ⟨whole, mode, entry⟩ (unheld content)
    | error error =>
        cases error with
        | nameTooLong => exact absurd ⟨whole, entry⟩ unrefused
        | _ => rfl

theorem Refuses.not_holds (refused : tree.Refuses path) : ¬ tree.Holds path content := by
  intro held
  cases (isFile_of_holds held).symm.trans (isFile_of_refuses refused)

/-- A path from the root whose first part is too long for a name. -/
theorem refuses_of_overlong {part : String} {rest : List String}
    (absolute : path.isAbsolute = true) (parts : path.parts = part :: rest)
    (whole : path.hasNull = false) (overlong : nameLimit < part.utf8ByteSize) :
    tree.Refuses path := by
  have down : part ≠ ".." := by
    rintro rfl
    exact absurd overlong (by decide)
  have stepped : tree.step [] part = .error .nameTooLong := by
    simp [step, get?, down, overlong]
  have lost : tree.locate path = .error .nameTooLong := by
    rw [locate, if_pos absolute, parts, walk, stepped]
    exact ite_self _
  exact ⟨whole, by rw [entryAt, lost]; rfl⟩

theorem read_of_holds (held : tree.Holds path content) (shown : String) :
    tree.read path shown = .ok content := by
  obtain ⟨whole, mode, entry⟩ := held
  simp [read, whole, entry]

theorem holds_or_refuses_or_misses (tree : FileTree) (path : Path) :
    (∃ content, tree.Holds path content) ∨ tree.Refuses path ∨ tree.Misses path := by
  by_cases held : ∃ content, tree.Holds path content
  · exact .inl held
  · by_cases refused : tree.Refuses path
    · exact .inr (.inl refused)
    · exact .inr (.inr ⟨not_exists.mp held, refused⟩)

/-- A search ends at a file, at a path that is too long, or with nothing. -/
theorem search_cases (tree : FileTree) (paths : List Path) :
    (∃ path content, tree.Reaches paths path ∧ tree.Holds path content) ∨
      (∃ path, tree.Reaches paths path ∧ tree.Refuses path) ∨
        ∀ path ∈ paths, tree.Misses path := by
  induction paths with
  | nil => exact .inr (.inr fun path among => nomatch among)
  | cons first rest ih =>
      rcases tree.holds_or_refuses_or_misses first with ⟨content, held⟩ | refused | missed
      · exact .inl ⟨first, content, .here, held⟩
      · exact .inr (.inl ⟨first, .here, refused⟩)
      · rcases ih with ⟨path, content, reached, held⟩ | ⟨path, reached, refused⟩ | none
        · exact .inl ⟨path, content, .later missed reached, held⟩
        · exact .inr (.inl ⟨path, .later missed reached, refused⟩)
        · exact .inr (.inr (List.forall_mem_cons.mpr ⟨missed, none⟩))

end FileTree

end CommitLint
