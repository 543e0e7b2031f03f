import CommitLint.Proofs.Rule.ParsedBody
import Mathlib.Data.List.Induction

/-!
# Body and footer

The first blank line from the third line on ends the body, and all that
stands behind it is the footer, blank lines included. A reader that takes
the lines one by one and remembers whether it is still in the body sorts
them in the same way, and no line that is not blank is lost, doubled or
moved.
-/

namespace CommitLint

namespace Parsed

variable {lines : List (List Char)} {line : List Char}

/-! ## Line by line -/

/-- What a reader has sorted so far, and whether it is still in the body. -/
structure Sorting where
  inBody : Bool
  body : List (List Char)
  footer : List (List Char)

namespace Sorting

def start : Sorting :=
  ⟨true, [], []⟩

/-- A blank line in the body ends it; behind it every line belongs to the footer. -/
def take (sorting : Sorting) (line : List Char) : Sorting :=
  if sorting.inBody then
    if Text.allBlank line then { sorting with inBody := false }
    else { sorting with body := sorting.body ++ [line] }
  else { sorting with footer := sorting.footer ++ [line] }

/-- The lines have been sorted into body and footer. -/
structure Holds (lines : List (List Char)) (sorting : Sorting) : Prop where
  inBody : sorting.inBody = true ↔ ∀ line ∈ lines, Text.allBlank line = false
  body : sorting.body = bodyLines lines
  footer : sorting.footer = footerLines lines

variable {sorting : Sorting}

theorem Holds.take (holds : sorting.Holds lines) (line : List Char) :
    (sorting.take line).Holds (lines ++ [line]) := by
  obtain ⟨inBody, body, footer⟩ := holds
  rcases solid_or_cut lines with solid | ⟨run, blank, rest, rfl, solid, ends⟩
  · obtain ⟨whole, nothing⟩ := parts_of_solid solid
    rw [Sorting.take, if_pos (inBody.mpr solid)]
    cases blank : Text.allBlank line with
    | true =>
        obtain ⟨before, behind⟩ := parts_of_cut solid blank []
        rw [if_pos rfl]
        refine ⟨?_, ?_, ?_⟩
        · simp [blank]
        · rw [body, whole, before]
        · rw [footer, nothing, behind]
    | false =>
        have more : ∀ other ∈ lines ++ [line], Text.allBlank other = false :=
          List.forall_mem_append.mpr ⟨solid, List.forall_mem_singleton.mpr blank⟩
        obtain ⟨before, behind⟩ := parts_of_solid more
        rw [if_neg Bool.false_ne_true]
        refine ⟨?_, ?_, ?_⟩
        · simpa [inBody.mpr solid] using more
        · rw [body, whole, before]
        · rw [footer, nothing, behind]
  · have unsolid : ∀ rest, ¬ ∀ line ∈ run ++ blank :: rest, Text.allBlank line = false := by
      intro rest all
      have unblank := all blank (List.mem_append_right run List.mem_cons_self)
      rw [ends] at unblank
      cases unblank
    have left : ¬ sorting.inBody = true := mt inBody.mp (unsolid rest)
    obtain ⟨before, behind⟩ := parts_of_cut solid ends rest
    obtain ⟨beforeMore, behindMore⟩ := parts_of_cut solid ends (rest ++ [line])
    rw [Sorting.take, if_neg left, List.append_assoc, List.cons_append]
    refine ⟨?_, ?_, ?_⟩
    · exact iff_of_false left (unsolid (rest ++ [line]))
    · rw [body, before, beforeMore]
    · rw [footer, behind, behindMore]

theorem holds_foldl (lines : List (List Char)) : (lines.foldl take start).Holds lines := by
  induction lines using List.reverseRecOn with
  | nil => exact ⟨by simp [start], rfl, rfl⟩
  | append_singleton lines line ih =>
      rw [List.foldl_append]
      exact ih.take line

end Sorting

/-! ## By the numbers of the lines -/

/-- The first blank line from the third one on stands at a place. -/
structure EndsAt (lines : List (List Char)) (place : Nat) : Prop where
  behind : 2 ≤ place
  blank : ∃ line, lines[place]? = some line ∧ Text.allBlank line = true
  first : ∀ other, 2 ≤ other → other < place →
    ∀ line, lines[other]? = some line → Text.allBlank line = false

theorem EndsAt.cut {place : Nat} (ends : EndsAt lines place) :
    ∃ blank, lines.drop 2 = (lines.drop 2).take (place - 2) ++ blank :: lines.drop (place + 1) ∧
      (∀ line ∈ (lines.drop 2).take (place - 2), Text.allBlank line = false) ∧
      Text.allBlank blank = true := by
  obtain ⟨behind, ⟨blank, held, isBlank⟩, first⟩ := ends
  obtain ⟨within, rfl⟩ := List.getElem?_eq_some_iff.mp held
  have fromPlace : (lines.drop 2).drop (place - 2) = lines[place] :: lines.drop (place + 1) := by
    rw [List.drop_drop, Nat.add_sub_cancel' behind, List.drop_eq_getElem_cons within]
  refine ⟨lines[place], ?_, fun line member => ?_, isBlank⟩
  · rw [← fromPlace, List.take_append_drop]
  · obtain ⟨index, found⟩ := List.mem_iff_getElem?.mp member
    rw [List.getElem?_take] at found
    split at found
    · next low =>
        rw [List.getElem?_drop] at found
        exact first (2 + index) (Nat.le_add_right 2 index) (by omega) line found
    · cases found

/-- A field has the text of some lines, and is absent if there are none. -/
structure Shows (field : Option String) (lines : List (List Char)) : Prop where
  text : field = if lines = [] then none else some (String.ofList (Text.unlines lines))
  lines : Text.linesOfAll field.toList = lines

theorem shows_block (flat : ∀ line ∈ lines, '\n' ∉ line) :
    Shows ((block lines).map String.ofList) lines := by
  refine ⟨?_, linesOfAll_block flat⟩
  cases lines with
  | nil => rfl
  | cons first rest => rfl

end Parsed

/--
The lines of the body are those from the third one up to the first blank one,
and the lines of the footer are all those behind it. Without a blank line
there is no footer. Sorting the lines one by one comes to the same, and the
lines that are not blank are in body and footer once each and in their order.
-/
theorem parse_blocks (message : String) :
    let lines := Text.lines message.toList
    let parsed := parse message
    let sorting := (lines.drop 2).foldl Parsed.Sorting.take Parsed.Sorting.start
    (∀ place, Parsed.EndsAt lines place →
      Parsed.Shows parsed.body ((lines.drop 2).take (place - 2)) ∧
      Parsed.Shows parsed.footer (lines.drop (place + 1))) ∧
    ((∀ line ∈ lines.drop 2, Text.allBlank line = false) →
      Parsed.Shows parsed.body (lines.drop 2) ∧ parsed.footer = none) ∧
    (Parsed.Shows parsed.body sorting.body ∧ Parsed.Shows parsed.footer sorting.footer) ∧
    Text.solid (Text.linesOfAll parsed.below) = Text.solid (lines.drop 2) := by
  intro lines parsed sorting
  have flat : ∀ line ∈ lines.drop 2, '\n' ∉ line := fun line member =>
    Text.splitOn_flat '\n' message.toList line (List.mem_of_mem_drop member)
  have body : Parsed.Shows parsed.body (Parsed.bodyLines (lines.drop 2)) :=
    Parsed.shows_block fun line member => flat line (List.takeWhile_subset _ member)
  have footer : Parsed.Shows parsed.footer (Parsed.footerLines (lines.drop 2)) :=
    Parsed.shows_block fun line member =>
      flat line (List.dropWhile_subset _ (List.mem_of_mem_drop member))
  refine ⟨?_, ?_, ?_, ?_⟩
  · intro place ends
    obtain ⟨blank, cut, solid, isBlank⟩ := ends.cut
    obtain ⟨before, behind⟩ := Parsed.parts_of_cut solid isBlank (lines.drop (place + 1))
    rw [← cut] at before behind
    rw [before] at body
    rw [behind] at footer
    exact ⟨body, footer⟩
  · intro solid
    obtain ⟨whole, nothing⟩ := Parsed.parts_of_solid solid
    rw [whole] at body
    rw [nothing] at footer
    exact ⟨body, footer.text⟩
  · obtain ⟨-, sortedBody, sortedFooter⟩ := Parsed.Sorting.holds_foldl (lines.drop 2)
    rw [sortedBody, sortedFooter]
    exact ⟨body, footer⟩
  · obtain ⟨first, rest, cut⟩ :=
      List.exists_cons_of_ne_nil (Text.splitOn_ne_nil '\n' message.toList)
    have below := solid_below cut
    rw [← List.drop_succ_cons, ← cut] at below
    exact below

/-- The body ends at a line of wide blanks, and the footer keeps the empty lines around its text. -/
theorem parse_blocks_wide_blank :
    let message := "fix: a\n\nb\n c\n\u3000\n\nd\n"
    Parsed.EndsAt (Text.lines message.toList) 4 ∧
      (parse message).body = some "b\n c" ∧ (parse message).footer = some "\nd\n" ∧
      (∀ line ∈ (Text.lines "fix: a\n\nb".toList).drop 2, Text.allBlank line = false) ∧
      (parse "fix: a\n\nb").footer = none := by
  intro message
  have lines : Text.lines message.toList =
      ["fix: a", "", "b", " c", "\u3000", "", "d", ""].map (·.toList) := by
    decide +kernel
  have ends : Parsed.EndsAt (Text.lines message.toList) 4 := by
    rw [lines]
    refine ⟨by decide, ⟨_, rfl, by decide⟩, fun other low high line held => ?_⟩
    obtain rfl | rfl : other = 2 ∨ other = 3 := by omega
    · cases held
      rfl
    · cases held
      rfl
  have solid : ∀ line ∈ (Text.lines "fix: a\n\nb".toList).drop 2, Text.allBlank line = false := by
    decide +kernel
  obtain ⟨body, footer⟩ := (parse_blocks message).1 4 ends
  refine ⟨ends, body.text.trans ?_, footer.text.trans ?_, solid, ?_⟩
  · decide +kernel
  · decide +kernel
  · exact ((parse_blocks "fix: a\n\nb").2.1 solid).2

end CommitLint
