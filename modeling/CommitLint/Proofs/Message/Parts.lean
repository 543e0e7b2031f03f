import CommitLint.Message.Parsed
import Mathlib.Data.List.TakeWhile

/-!
# The parts below a header

Below its header a message has some lines that are not blank, and then
either nothing more or a blank line with anything behind it. The body and
the footer are read off from that.
-/

namespace CommitLint.Parsed

variable {lines run : List (List Char)} {blank : List Char}

theorem parts_of_solid (solid : ∀ line ∈ lines, Text.allBlank line = false) :
    bodyLines lines = lines ∧ footerLines lines = [] := by
  have kept : ∀ line ∈ lines, (!Text.allBlank line) = true := fun line member => by
    rw [solid line member, Bool.not_false]
  refine ⟨List.takeWhile_eq_self_iff.mpr kept, ?_⟩
  rw [footerLines, List.dropWhile_eq_nil_iff.mpr kept, List.drop_nil]

theorem parts_of_cut (solid : ∀ line ∈ run, Text.allBlank line = false)
    (ends : Text.allBlank blank = true) (rest : List (List Char)) :
    bodyLines (run ++ blank :: rest) = run ∧ footerLines (run ++ blank :: rest) = rest := by
  have kept : ∀ line ∈ run, (!Text.allBlank line) = true := fun line member => by
    rw [solid line member, Bool.not_false]
  constructor
  · rw [bodyLines, List.takeWhile_append_of_pos kept]
    simp [ends]
  · rw [footerLines, List.dropWhile_append_of_pos kept]
    simp [ends]

/-- Either no line is blank, or some lines are cut off by the first blank one. -/
theorem solid_or_cut (lines : List (List Char)) :
    (∀ line ∈ lines, Text.allBlank line = false) ∨
      ∃ run blank rest, lines = run ++ blank :: rest ∧
        (∀ line ∈ run, Text.allBlank line = false) ∧ Text.allBlank blank = true := by
  induction lines with
  | nil => exact .inl fun line member => absurd member List.not_mem_nil
  | cons first lines ih =>
      cases blank : Text.allBlank first with
      | true =>
          exact .inr ⟨[], first, lines, rfl, fun line member => absurd member List.not_mem_nil,
            blank⟩
      | false =>
          rcases ih with solid | ⟨run, other, rest, rfl, solid, ends⟩
          · exact .inl (List.forall_mem_cons.mpr ⟨blank, solid⟩)
          · exact .inr ⟨first :: run, other, rest, rfl, List.forall_mem_cons.mpr ⟨blank, solid⟩,
              ends⟩

end CommitLint.Parsed
