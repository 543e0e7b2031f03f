/-!
# Searching for a part

Whether a sequence stands somewhere within another, all of it in one piece.
-/

namespace CommitLint.Text

def occurs {α : Type} [BEq α] (part : List α) : List α → Bool
  | [] => part.isEmpty
  | first :: rest => part.isPrefixOf (first :: rest) || occurs part rest

theorem occurs_iff {α : Type} [BEq α] [LawfulBEq α] (part whole : List α) :
    occurs part whole = true ↔ part <:+: whole := by
  induction whole with
  | nil => simp [occurs]
  | cons first rest ih =>
      simp [occurs, ih, List.isPrefixOf_iff_prefix, List.infix_cons_iff]

end CommitLint.Text
