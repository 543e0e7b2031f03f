import CommitLint.Text.Lines

/-!
# Lines of texts

The first line of a text has no line feed of its own, and it is the first
of the lines into which the text is cut. A line feed between two texts keeps
their lines apart.
-/

namespace CommitLint.Text

theorem firstLine_flat (text : List Char) : '\n' ∉ firstLine text := by
  induction text with
  | nil => exact List.not_mem_nil
  | cons first rest ih =>
      rw [firstLine]
      by_cases cut : first = '\n'
      · rw [List.takeWhile_cons_of_neg (by simp [cut])]
        exact List.not_mem_nil
      · rw [List.takeWhile_cons_of_pos (by simp [cut])]
        exact List.not_mem_cons_of_ne_of_not_mem (Ne.symm cut) ih

theorem head?_lines (text : List Char) : (lines text).head? = some (firstLine text) := by
  induction text with
  | nil => rfl
  | cons first rest ih =>
      rw [lines] at ih
      rw [lines, splitOn, firstLine]
      by_cases cut : first = '\n'
      · rw [if_pos cut, List.takeWhile_cons_of_neg (by simp [cut]), List.head?_cons]
      · rw [if_neg cut, List.takeWhile_cons_of_pos (by simp [cut])]
        cases pieces : splitOn '\n' rest with
        | nil => exact absurd pieces (splitOn_ne_nil '\n' rest)
        | cons piece others =>
            rw [pieces, List.head?_cons] at ih
            rw [List.head?_cons, Option.some.inj ih]
            rfl

theorem splitOn_append (separator : Char) (front rest : List Char) :
    splitOn separator (front ++ separator :: rest) =
      splitOn separator front ++ splitOn separator rest := by
  induction front with
  | nil => simp [splitOn]
  | cons first tail ih =>
      rw [List.cons_append, splitOn, splitOn, ih]
      by_cases cut : first = separator
      · simp [cut]
      · obtain ⟨piece, pieces, split⟩ :=
          List.exists_cons_of_ne_nil (splitOn_ne_nil separator tail)
        simp [cut, split]

theorem lines_append (front rest : List Char) :
    lines (front ++ '\n' :: rest) = lines front ++ lines rest :=
  splitOn_append '\n' front rest

theorem splitOn_of_flat {separator : Char} {piece : List Char} (flat : separator ∉ piece) :
    splitOn separator piece = [piece] := by
  induction piece with
  | nil => rfl
  | cons first rest ih =>
      have apart : first ≠ separator := fun same => flat (same ▸ List.mem_cons_self)
      have others := ih fun member => flat (List.mem_cons_of_mem _ member)
      simp [splitOn, apart, others]

theorem lines_of_flat {line : List Char} (flat : '\n' ∉ line) : lines line = [line] :=
  splitOn_of_flat flat

/-- No piece has the separator in it. -/
theorem splitOn_flat (separator : Char) (text : List Char) :
    ∀ piece ∈ splitOn separator text, separator ∉ piece := by
  induction text with
  | nil => simp [splitOn]
  | cons first rest ih =>
      obtain ⟨piece, pieces, cut⟩ := List.exists_cons_of_ne_nil (splitOn_ne_nil separator rest)
      rw [cut] at ih
      obtain ⟨flat, flatOthers⟩ := List.forall_mem_cons.mp ih
      rw [splitOn, cut]
      by_cases ends : first = separator
      · rw [if_pos ends]
        exact List.forall_mem_cons.mpr ⟨List.not_mem_nil, ih⟩
      · rw [if_neg ends]
        exact List.forall_mem_cons.mpr
          ⟨List.not_mem_cons_of_ne_of_not_mem (Ne.symm ends) flat, flatOthers⟩

/-- Nothing stands in a piece that does not stand in the text. -/
theorem splitOn_subset (separator : Char) (text : List Char) :
    ∀ piece ∈ splitOn separator text, piece ⊆ text := by
  induction text with
  | nil => simp [splitOn]
  | cons first rest ih =>
      obtain ⟨piece, pieces, cut⟩ := List.exists_cons_of_ne_nil (splitOn_ne_nil separator rest)
      have onward : ∀ other ∈ splitOn separator rest, other ⊆ first :: rest :=
        fun other among => List.subset_cons_of_subset first (ih other among)
      rw [splitOn]
      split
      case isTrue => exact List.forall_mem_cons.mpr ⟨List.nil_subset _, onward⟩
      case isFalse =>
        rw [cut] at onward ih ⊢
        exact List.forall_mem_cons.mpr ⟨List.cons_subset_cons first (ih piece List.mem_cons_self),
          fun other among => onward other (List.mem_cons_of_mem piece among)⟩

/-- Pieces without the separator are cut apart where they were joined. -/
theorem splitOn_joinWith {separator : Char} {pieces : List (List Char)} (present : pieces ≠ [])
    (flat : ∀ piece ∈ pieces, separator ∉ piece) :
    splitOn separator (joinWith separator pieces) = pieces := by
  induction pieces with
  | nil => exact absurd rfl present
  | cons piece rest ih =>
      obtain ⟨flatFirst, flatRest⟩ := List.forall_mem_cons.mp flat
      cases rest with
      | nil => exact splitOn_of_flat flatFirst
      | cons next others =>
          rw [joinWith, splitOn_append, splitOn_of_flat flatFirst,
            ih (List.cons_ne_nil next others) flatRest]
          rfl

theorem firstLine_of_lines_eq {text first : List Char} {rest : List (List Char)}
    (cut : lines text = first :: rest) : firstLine text = first := by
  have head := head?_lines text
  rw [cut, List.head?_cons] at head
  exact (Option.some.inj head).symm

end CommitLint.Text
