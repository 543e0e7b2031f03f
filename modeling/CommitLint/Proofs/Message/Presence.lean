import CommitLint.Proofs.Message.Fields
import CommitLint.Proofs.Message.Parts

/-!
# Fields that are there

A field of a parsed message that is there shows some text, since the grammar
of headers asks for it and a body has no blank lines. The footer may be the
exception: it is taken to be there as soon as a line is left for it, and the
only line that is left may be empty.
-/

namespace CommitLint

theorem Text.unlines_eq_nil_iff {pieces : List (List Char)} :
    unlines pieces = [] ↔ pieces = [] ∨ pieces = [[]] := by
  match pieces with
  | [] => simp [unlines, joinWith]
  | [piece] => simp [unlines, joinWith]
  | piece :: next :: rest => simp [unlines, joinWith]

theorem map_ofList_eq_empty_iff {field : Option (List Char)} :
    field.map String.ofList = some "" ↔ field = some [] := by
  cases field with
  | none => simp
  | some text => simp [← String.toList_inj]

namespace Parsed

theorem block_eq_some_nil_iff {lines : List (List Char)} :
    block lines = some [] ↔ lines = [[]] := by
  cases lines with
  | nil => simp [block]
  | cons line rest => simp [block, Text.unlines_eq_nil_iff]

/-- The lines of a body, a blank line that ends it, and an empty line as all that is left. -/
def LeavesEmptyLine (lines : List (List Char)) : Prop :=
  ∃ body blank, lines = body ++ [blank, []] ∧ (∀ line ∈ body, Text.allBlank line = false) ∧
    Text.allBlank blank = true

theorem bodyLines_solid (lines : List (List Char)) :
    ∀ line ∈ bodyLines lines, Text.allBlank line = false := by
  intro line member
  simpa using List.mem_takeWhile_imp member

theorem bodyLines_ne_singleton_nil (lines : List (List Char)) : bodyLines lines ≠ [[]] := by
  intro single
  have solid := bodyLines_solid lines [] (by rw [single]; exact List.mem_cons_self)
  cases solid

theorem footerLines_eq_singleton_nil_iff {lines : List (List Char)} :
    footerLines lines = [[]] ↔ LeavesEmptyLine lines := by
  constructor
  · intro single
    rcases solid_or_cut lines with solid | ⟨run, blank, rest, rfl, solid, ends⟩
    · rw [(parts_of_solid solid).2] at single
      cases single
    · rw [(parts_of_cut solid ends rest).2] at single
      rw [single]
      exact ⟨run, blank, rfl, solid, ends⟩
  · rintro ⟨body, blank, rfl, solid, ends⟩
    exact (parts_of_cut solid ends [[]]).2

end Parsed

theorem Header.subject?_ne_some_nil (header : Header) : header.subject? ≠ some [] := by
  rw [subject?_eq]
  split
  · nofun
  · rename_i kept
    exact fun same => kept (Option.some.inj same)

/--
The type, the scope, the subject and the body of a message are absent or
show some text. The footer is the empty text exactly for the messages that
leave one empty line behind the blank line at the end of the body.
-/
theorem parse_fields_nonempty (message : String) :
    (parse message).type ≠ some "" ∧ (parse message).scope ≠ some "" ∧
      (parse message).subject ≠ some "" ∧ (parse message).body ≠ some "" ∧
      ((parse message).footer = some "" ↔
        Parsed.LeavesEmptyLine ((Text.lines message.toList).drop 2)) := by
  refine ⟨?_, ?_, ?_, ?_, ?_⟩ <;> simp only [parse, ne_eq]
  · intro empty
    obtain ⟨header, read, nothing⟩ := Option.map_eq_some_iff.mp empty
    exact (Header.isWritten_of_read? read).typeNonempty (String.ofList_eq_empty_iff.mp nothing)
  · rw [map_ofList_eq_empty_iff, Option.bind_eq_some_iff]
    rintro ⟨header, read, empty⟩
    exact ((Header.isWritten_of_read? read).scopeClosed [] empty).1 rfl
  · rw [map_ofList_eq_empty_iff, Option.bind_eq_some_iff]
    rintro ⟨header, -, empty⟩
    exact header.subject?_ne_some_nil empty
  · rw [map_ofList_eq_empty_iff, Parsed.block_eq_some_nil_iff]
    exact Parsed.bodyLines_ne_singleton_nil _
  · rw [map_ofList_eq_empty_iff, Parsed.block_eq_some_nil_iff]
    exact Parsed.footerLines_eq_singleton_nil_iff

/-- A body with two line feeds behind it has the empty text for its footer. -/
theorem parse_shows_empty_footer :
    (parse "fix: a\n\nb\n\n").body = some "b" ∧ (parse "fix: a\n\nb\n\n").footer = some "" := by
  decide +kernel

end CommitLint
