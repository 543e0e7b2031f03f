import CommitLint.Proofs.FileTree.PathSizes
import CommitLint.Proofs.FileTree.PlainPaths

/-!
# Where texts of paths lead

The text of a path is followed from a place, one piece between slashes after
another. What is made of it as a path leads to the same place: its parts in
their order, seen from another path or taken together with the steps up. So
does the system, wherever it gets through.
-/

namespace CommitLint

/-- The name of an entry in a directory. -/
structure Path.IsName (part : String) : Prop where
  present : part ≠ ""
  down : part ≠ "." ∧ part ≠ ".."
  flat : '/' ∉ part.toList
  whole : '\x00' ∉ part.toList

namespace Location

variable {place : Location} {piece text : List Char} {parts : List String}

/-- One piece of a text leads on: nothing and a dot stay, two dots go back, a name goes down. -/
def onward (place : Location) (piece : List Char) : Location :=
  if piece = [] ∨ piece = ['.'] then place
  else if piece = ['.', '.'] then place.dropLast
  else place ++ [String.ofList piece]

/-- Where a text leads to from a place, or from the root if it begins with a slash. -/
def reach (place : Location) (text : List Char) : Location :=
  (Text.splitOn '/' text).foldl onward (if text.head? = some '/' then [] else place)

/-! ## The parts of a text -/

theorem onward_of_isPart (part : Path.isPart piece = true) :
    onward place piece = advance place (String.ofList piece) := by
  have given : ¬ (piece = [] ∨ piece = ['.']) := by simpa [Path.isPart] using part
  have back : String.ofList piece = ".." ↔ piece = ['.', '.'] := by
    rw [← String.toList_inj, String.toList_ofList]
    rfl
  rw [onward, if_neg given, advance, if_congr back rfl rfl]

theorem onward_of_not_isPart (nothing : ¬ Path.isPart piece = true) :
    onward place piece = place := by
  rw [onward, if_pos]
  simpa [Path.isPart, Decidable.or_iff_not_imp_left] using nothing

theorem foldl_onward (place : Location) (pieces : List (List Char)) :
    pieces.foldl onward place =
      ((pieces.filter Path.isPart).map String.ofList).foldl advance place := by
  induction pieces generalizing place with
  | nil => rfl
  | cons piece pieces ih =>
      by_cases part : Path.isPart piece = true
      · rw [List.filter_cons_of_pos part, List.map_cons, List.foldl_cons, List.foldl_cons,
          onward_of_isPart part, ih]
      · rw [List.filter_cons_of_neg part, List.foldl_cons, onward_of_not_isPart part, ih]

/-- A text leads where the parts lead that it is read as. -/
theorem reach_eq (place : Location) (text : String) :
    reach place text.toList =
      (Path.ofText text).parts.foldl advance
        (if (Path.ofText text).isAbsolute then [] else place) := by
  rw [reach, foldl_onward, if_congr Path.isAbsolute_ofText.symm rfl rfl]
  rfl

example : reach ["a", "b"] "../c//./d".toList = ["a", "c", "d"] := by decide +kernel

/-- Behind a slash, a text leads on from where the text in front leads to. -/
theorem reach_append_slash {front : List Char} (given : front ≠ []) (place : Location)
    (relative : text.head? ≠ some '/') :
    reach place (front ++ '/' :: text) = reach (reach place front) text := by
  have first : (front ++ '/' :: text).head? = front.head? := by
    rw [List.head?_append_of_ne_nil _ given]
  rw [reach, Text.splitOn_append, List.foldl_append, first, ← reach, reach.eq_def _ text,
    if_neg relative]

/-! ## Paths in a tree -/

section

variable {tree : FileTree}

/-- A resolved path has the parts that its own lead to. -/
theorem parts_resolve (down : ".." ∉ tree.current) (path : Path) :
    (tree.resolve path).parts =
      path.parts.foldl advance (if path.isAbsolute then [] else tree.current) := by
  rw [FileTree.resolve, climb_eq_foldl]
  by_cases absolute : path.isAbsolute = true
  · rw [if_pos absolute, if_pos absolute]
  · rw [if_neg absolute, if_neg absolute, List.foldl_append, foldl_advance_of_down down,
      List.nil_append]

/-- A text seen from a project leads on from where the project is. -/
theorem parts_resolve_join (down : ".." ∉ tree.current) (project text : String) :
    (tree.resolve ((Path.ofText project).join (Path.ofText text))).parts =
      reach (reach tree.current project.toList) text.toList := by
  rw [parts_resolve down, reach_eq _ text, reach_eq _ project, Path.join]
  by_cases absolute : (Path.ofText text).isAbsolute = true
  · rw [if_pos absolute, if_pos absolute, if_pos absolute]
  · rw [if_neg absolute, if_neg absolute, List.foldl_append]
    rfl

/-- Where the system finds a place for a text, it is the one that the text leads to. -/
theorem reach_of_locate {text : String} (located : tree.locate (Path.ofText text) = .ok place) :
    place = reach tree.current text.toList := by
  rw [reach_eq]
  exact FileTree.foldl_advance_of_walk (FileTree.locate_eq_ok_iff.mp located).2

end

/-! ## Names -/

theorem advance_named {part : String} (named : ∀ name ∈ place, Path.IsName name)
    (down : part ≠ ".." → Path.IsName part) : ∀ name ∈ advance place part, Path.IsName name := by
  rw [advance]
  split
  case isTrue up => exact fun name among => named name (List.dropLast_subset _ among)
  case isFalse apart =>
    exact List.forall_mem_append.mpr ⟨named, List.forall_mem_singleton.mpr (down apart)⟩

theorem foldl_advance_named (named : ∀ name ∈ place, Path.IsName name)
    (down : ∀ part ∈ parts, part ≠ ".." → Path.IsName part) :
    ∀ name ∈ parts.foldl advance place, Path.IsName name := by
  induction parts generalizing place with
  | nil => exact named
  | cons part parts ih =>
      obtain ⟨downFirst, downRest⟩ := List.forall_mem_cons.mp down
      exact ih (advance_named named downFirst) downRest

/-- The parts that a text is read as are names, but for the steps up. -/
theorem named_ofText {text : String} (whole : '\x00' ∉ text.toList) :
    ∀ part ∈ (Path.ofText text).parts, part ≠ ".." → Path.IsName part := by
  intro part among up
  obtain ⟨piece, kept, rfl⟩ := List.mem_map.mp among
  obtain ⟨stands, isPart⟩ := List.mem_filter.mp kept
  obtain ⟨present, apart⟩ : piece ≠ [] ∧ piece ≠ ['.'] := by simpa [Path.isPart] using isPart
  have dot : String.ofList piece = "." ↔ piece = ['.'] := by
    rw [← String.toList_inj, String.toList_ofList]
    rfl
  refine ⟨?present, ⟨dot.not.mpr apart, up⟩, ?flat, ?whole⟩
  case present =>
    refine String.toList_eq_nil_iff.not.mp ?_
    rwa [String.toList_ofList]
  case flat =>
    rw [String.toList_ofList]
    exact Text.splitOn_flat '/' text.toList piece stands
  case whole =>
    rw [String.toList_ofList]
    exact fun null => whole (Text.splitOn_subset '/' text.toList piece stands null)

theorem reach_named {text : String} (named : ∀ name ∈ place, Path.IsName name)
    (whole : '\x00' ∉ text.toList) : ∀ name ∈ reach place text.toList, Path.IsName name := by
  rw [reach_eq]
  refine foldl_advance_named ?_ (named_ofText whole)
  split
  · exact List.forall_mem_nil _
  · exact named

/-! ## Paths of names -/

theorem foldl_onward_of_named (named : ∀ name ∈ parts, Path.IsName name) (place : Location) :
    (parts.map String.toList).foldl onward place = place ++ parts := by
  have down : ".." ∉ parts := fun among => (named ".." among).down.2 rfl
  have kept : (parts.map String.toList).filter Path.isPart = parts.map String.toList := by
    refine List.filter_eq_self.mpr fun piece among => ?_
    obtain ⟨name, stands, rfl⟩ := List.mem_map.mp among
    have given : name.toList ≠ [] := String.toList_eq_nil_iff.not.mpr (named name stands).present
    have apart : name.toList ≠ ['.'] := fun dot => (named name stands).down.1 (by
      rw [← String.toList_inj, dot]
      rfl)
    simp [Path.isPart, given, apart]
  have same : (parts.map String.toList).map String.ofList = parts := by simp
  rw [foldl_onward, kept, same, foldl_advance_of_down down]

/-- The text of a path of names leads to them from everywhere. -/
theorem reach_text {path : Path} (absolute : path.root = "/")
    (named : ∀ name ∈ path.parts, Path.IsName name) (place : Location) :
    reach place path.text.toList = path.parts := by
  have written : path.text.toList = '/' :: Text.joinWith '/' (path.parts.map String.toList) := by
    rw [Path.text, absolute, if_neg (by simp), String.toList_append, String.toList_intercalate,
      ← Path.intercalate_eq_joinWith]
    rfl
  have front : ∀ rest, reach place ('/' :: rest) = (Text.splitOn '/' rest).foldl onward [] := by
    intro rest
    rw [reach, Text.splitOn, if_pos rfl]
    rfl
  rw [written, front]
  by_cases top : path.parts = []
  · rw [top]
    rfl
  · have flat : ∀ piece ∈ path.parts.map String.toList, '/' ∉ piece := by
      intro piece among
      obtain ⟨name, stands, rfl⟩ := List.mem_map.mp among
      exact (named name stands).flat
    rw [Text.splitOn_joinWith (List.map_eq_nil_iff.not.mpr top) flat,
      foldl_onward_of_named named, List.nil_append]

end Location

end CommitLint
