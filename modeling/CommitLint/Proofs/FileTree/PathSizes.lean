import CommitLint.Proofs.FileTree.PathTexts
import Mathlib.Data.String.Basic

/-!
# How long paths are

A path leaves out some of the text that it is read from and adds nothing, so
as a text it is never longer. A path is never longer than its children.
-/

namespace CommitLint.Path

variable {text : List Char}

/-! ## Pieces with slashes between them -/

theorem intercalate_eq_joinWith (pieces : List (List Char)) :
    ['/'].intercalate pieces = Text.joinWith '/' pieces := by
  induction pieces with
  | nil => rfl
  | cons piece pieces ih =>
      cases pieces with
      | nil => simp [Text.joinWith]
      | cons next others =>
          rw [List.intercalate_cons_cons, ih, Text.joinWith]
          simp

theorem joinWith_sublist_cons (piece : List Char) (pieces : List (List Char)) :
    (Text.joinWith '/' pieces).Sublist (Text.joinWith '/' (piece :: pieces)) := by
  cases pieces with
  | nil => exact List.nil_sublist _
  | cons next others => exact (List.sublist_cons_self '/' _).trans (List.sublist_append_right _ _)

theorem joinWith_sublist_append (pieces others : List (List Char)) :
    (Text.joinWith '/' pieces).Sublist (Text.joinWith '/' (pieces ++ others)) := by
  induction pieces with
  | nil => exact List.nil_sublist _
  | cons piece pieces ih =>
      cases pieces with
      | nil =>
          cases others with
          | nil => exact List.Sublist.refl _
          | cons next others => exact List.sublist_append_left piece _
      | cons next pieces => exact (ih.cons_cons '/').append_left piece

/-- Together with a piece that is left out goes one of the slashes beside it. -/
theorem joinWith_filter_sublist (keep : List Char → Bool) (pieces : List (List Char)) :
    (Text.joinWith '/' (pieces.filter keep)).Sublist (Text.joinWith '/' pieces) := by
  induction pieces with
  | nil => exact List.Sublist.refl []
  | cons piece pieces ih =>
      by_cases kept : keep piece = true
      · rw [List.filter_cons_of_pos kept]
        cases pieces with
        | nil => exact List.Sublist.refl _
        | cons next others =>
            cases left : (next :: others).filter keep with
            | nil => exact List.sublist_append_left piece _
            | cons first rest =>
                rw [left] at ih
                exact (ih.cons_cons '/').append_left piece
      · rw [List.filter_cons_of_neg kept]
        exact ih.trans (joinWith_sublist_cons piece pieces)

/-! ## What a path keeps of a text -/

/-- The parts of a text as they are joined in a path. -/
def joinedParts (text : List Char) : List Char :=
  Text.joinWith '/' ((Text.splitOn '/' text).filter isPart)

theorem joinedParts_sublist (text : List Char) : (joinedParts text).Sublist text := by
  have kept := joinWith_filter_sublist isPart (Text.splitOn '/' text)
  rwa [Text.joinWith_splitOn] at kept

theorem joinedParts_slash (text : List Char) : joinedParts ('/' :: text) = joinedParts text := by
  simp [joinedParts, Text.splitOn, isPart]

theorem root_parts_sublist (text : List Char) :
    ((readRoot text).toList ++ joinedParts text).Sublist text := by
  fun_cases readRoot text with
  | case1 rest =>
      rw [joinedParts_slash, joinedParts_slash]
      exact ((joinedParts_sublist ('/' :: rest)).cons '/').cons_cons '/'
  | case2 rest single =>
      rw [joinedParts_slash, joinedParts_slash]
      exact ((joinedParts_sublist rest).cons_cons '/').cons_cons '/'
  | case3 rest _ single =>
      rw [joinedParts_slash]
      exact (joinedParts_sublist rest).cons_cons '/'
  | case4 _ _ _ bare => exact joinedParts_sublist _

/-- A text with neither a root nor a part begins with the dot that its path is shown as. -/
theorem dot_sublist (given : text ≠ []) (bare : readRoot text = "")
    (nothing : (Text.splitOn '/' text).filter isPart = []) : ['.'].Sublist text := by
  obtain ⟨first, rest, rfl⟩ := List.exists_cons_of_ne_nil given
  have apart : first ≠ '/' := by
    rintro rfl
    exact readRoot_ne_iff.mpr rfl bare
  obtain ⟨piece, pieces, cut⟩ := List.exists_cons_of_ne_nil (Text.splitOn_ne_nil '/' rest)
  rw [Text.splitOn, if_neg apart, cut] at nothing
  have refused : ¬ isPart (first :: piece) = true := fun part => by
    rw [List.filter_cons_of_pos part] at nothing
    cases nothing
  obtain ⟨rfl, -⟩ : first = '.' ∧ piece = [] := by simpa [isPart] using refused
  exact (List.nil_sublist rest).cons_cons '.'

theorem text_ofText_sublist {text : String} (given : text ≠ "") :
    (ofText text).text.toList.Sublist text.toList := by
  have parts : (ofText text).parts.map String.toList =
      (Text.splitOn '/' text.toList).filter isPart := by
    simp [ofText, List.map_map, Function.comp_def]
  rw [Path.text]
  split
  · next bare =>
      obtain ⟨root, nothing⟩ : (ofText text).root = "" ∧ (ofText text).parts = [] := by
        simpa using bare
      rw [nothing] at parts
      exact dot_sublist (String.toList_eq_nil_iff.not.mpr given) root parts.symm
  · have joined : ['/'].intercalate ((ofText text).parts.map String.toList) =
        joinedParts text.toList := by
      rw [intercalate_eq_joinWith, parts, joinedParts]
    rw [String.toList_append, String.toList_intercalate]
    exact joined ▸ root_parts_sublist text.toList

/-! ## Bytes -/

theorem utf8ByteSize_le_of_sublist {first second : String}
    (kept : first.toList.Sublist second.toList) : first.utf8ByteSize ≤ second.utf8ByteSize := by
  rw [← String.utf8Len_toList first, ← String.utf8Len_toList second]
  exact String.utf8Len_le_of_sublist kept

theorem utf8ByteSize_ofText_le {text : String} (given : text ≠ "") :
    (ofText text).text.utf8ByteSize ≤ text.utf8ByteSize :=
  utf8ByteSize_le_of_sublist (text_ofText_sublist given)

theorem utf8ByteSize_le_child {name : String} (named : name ≠ "") (path : Path) :
    path.text.utf8ByteSize ≤ (path.child name).text.utf8ByteSize := by
  have child : (path.child name).text = path.root ++ "/".intercalate (path.parts ++ [name]) := by
    simp [Path.text, Path.child]
  rw [child, Path.text]
  split
  · next bare =>
      obtain ⟨root, nothing⟩ : path.root = "" ∧ path.parts = [] := by simpa using bare
      have present : ".".utf8ByteSize ≤ name.utf8ByteSize :=
        Nat.pos_of_ne_zero (by simpa using named)
      simpa [root, nothing] using present
  · have longer : ("/".intercalate path.parts).utf8ByteSize ≤
        ("/".intercalate (path.parts ++ [name])).utf8ByteSize := by
      apply utf8ByteSize_le_of_sublist
      rw [String.toList_intercalate, String.toList_intercalate, List.map_append]
      change (['/'].intercalate _).Sublist (['/'].intercalate _)
      rw [intercalate_eq_joinWith, intercalate_eq_joinWith]
      exact joinWith_sublist_append _ _
    rw [String.utf8ByteSize_append, String.utf8ByteSize_append]
    exact Nat.add_le_add_left longer _

end CommitLint.Path
