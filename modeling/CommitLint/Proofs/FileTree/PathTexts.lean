import CommitLint.FileTree.Path
import CommitLint.Proofs.Text.Lines
import Mathlib.Data.List.TakeWhile

/-!
# Paths as texts

A name behind a path, with one slash between them, is read as the child of
that name, whether the path ends with a slash or not.
-/

namespace CommitLint.Path

variable {front rest name : List Char}

/-- The parts in a text. -/
def partsOf (text : List Char) : List String :=
  ((Text.splitOn '/' text).filter isPart).map String.ofList

theorem partsOf_append (front rest : List Char) :
    partsOf (front ++ '/' :: rest) = partsOf front ++ partsOf rest := by
  rw [partsOf, Text.splitOn_append, List.filter_append, List.map_append]
  rfl

theorem partsOf_of_isPart (flat : '/' ∉ name) (part : isPart name = true) :
    partsOf name = [String.ofList name] := by
  rw [partsOf, Text.splitOn_of_flat flat, List.filter_cons_of_pos part]
  rfl

/-- The slashes at the front. -/
def slashes (text : List Char) : List Char :=
  text.takeWhile (· == '/')

/-- The root shows in the number of the slashes at the front. -/
theorem readRoot_eq (text : List Char) :
    readRoot text =
      match (slashes text).length with
      | 0 => ""
      | 2 => "//"
      | _ => "/" := by
  fun_cases readRoot text with
  | case1 rest => rfl
  | case2 rest single =>
      cases rest with
      | nil => rfl
      | cons third others =>
          have bare : third ≠ '/' := by
            rintro rfl
            exact single others rfl
          simp [slashes, bare]
  | case3 rest _ single =>
      cases rest with
      | nil => rfl
      | cons second others =>
          have bare : second ≠ '/' := by
            rintro rfl
            exact single others rfl
          simp [slashes, bare]
  | case4 _ _ _ bare =>
      cases text with
      | nil => rfl
      | cons first others =>
          have other : first ≠ '/' := by
            rintro rfl
            exact bare others rfl
          simp [slashes, other]

/-- A path has a root exactly if its text begins with a slash. -/
theorem readRoot_ne_iff {text : List Char} : readRoot text ≠ "" ↔ text.head? = some '/' := by
  fun_cases readRoot text with
  | case1 rest => simp
  | case2 rest single => simp
  | case3 rest _ single => simp
  | case4 _ _ _ bare =>
      refine iff_of_false (absurd rfl ·) fun front => ?_
      obtain ⟨rest, rfl⟩ := List.head?_eq_some_iff.mp front
      exact bare rest rfl

theorem isAbsolute_ofText {text : String} :
    (ofText text).isAbsolute = true ↔ text.toList.head? = some '/' := by
  rw [isAbsolute, bne_iff_ne]
  exact readRoot_ne_iff

/-- What stands behind changes the root only if it goes on with slashes. -/
theorem readRoot_append (given : front ≠ [])
    (apart : front.getLast? = some '/' → rest.head? ≠ some '/') :
    readRoot (front ++ rest) = readRoot front := by
  have same : slashes (front ++ rest) = slashes front := by
    by_cases all : ∀ c ∈ front, c = '/'
    · have whole : ∀ c ∈ front, (c == '/') = true := by simpa using all
      have last : front.getLast? = some '/' := by
        rw [List.getLast?_eq_some_getLast given, all _ (List.getLast_mem given)]
      have ends : rest.takeWhile (· == '/') = [] := by
        cases rest with
        | nil => rfl
        | cons c tail =>
            have bare : c ≠ '/' := by simpa using apart last
            exact List.takeWhile_cons_of_neg (by simpa using bare)
      rw [slashes, slashes, List.takeWhile_append_of_pos whole, ends, List.append_nil,
        List.takeWhile_eq_self_iff.mpr whole]
    · rw [slashes, slashes, List.takeWhile_append, if_neg]
      intro length
      have kept := (List.takeWhile_prefix _).eq_of_length length
      exact all (by simpa using List.takeWhile_eq_self_iff.mp kept)
  rw [readRoot_eq, readRoot_eq, same]

theorem endsWith_slash_iff {text : String} :
    text.endsWith "/" = true ↔ ['/'] <:+ text.toList := by
  rw [← String.endsWith_toSlice, String.Slice.endsWith_string_iff]
  simp

section

variable {directory part : String} (given : directory ≠ "") (flat : '/' ∉ part.toList)
  (named : isPart part.toList = true)

include given flat named

/-- Behind a path that ends with a slash a name is its child. -/
theorem ofText_append (ends : directory.endsWith "/" = true) :
    ofText (directory ++ part) = (ofText directory).child part := by
  have root : readRoot (directory.toList ++ part.toList) = readRoot directory.toList := by
    refine readRoot_append (String.toList_eq_nil_iff.not.mpr given) fun _ first => ?_
    exact flat (List.mem_of_mem_head? first)
  have parts : partsOf (directory.toList ++ part.toList) = partsOf directory.toList ++ [part] := by
    obtain ⟨front, cut⟩ := endsWith_slash_iff.mp ends
    rw [← cut, List.append_assoc, List.singleton_append, partsOf_append, partsOf_append,
      partsOf_of_isPart flat named, String.ofList_toList]
    simp [partsOf, Text.splitOn, isPart]
  rw [child, ofText, String.toList_append, root, ← partsOf, parts]
  rfl

/-- Behind any other path it is its child when a slash comes first. -/
theorem ofText_append_slash (ends : directory.endsWith "/" = false) :
    ofText (directory ++ "/" ++ part) = (ofText directory).child part := by
  have text : (directory ++ "/" ++ part).toList = directory.toList ++ '/' :: part.toList := by
    simp [String.toList_append]
  have root : readRoot (directory.toList ++ '/' :: part.toList) = readRoot directory.toList := by
    refine readRoot_append (String.toList_eq_nil_iff.not.mpr given) fun last => ?_
    obtain ⟨front, cut⟩ := List.getLast?_eq_some_iff.mp last
    exact absurd (endsWith_slash_iff.mpr ⟨front, cut.symm⟩) (Bool.eq_false_iff.mp ends)
  rw [child, ofText, text, root, ← partsOf, partsOf_append, partsOf_of_isPart flat named,
    String.ofList_toList]
  rfl

end

end CommitLint.Path
