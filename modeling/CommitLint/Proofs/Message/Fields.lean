import CommitLint.Proofs.Message.HeaderPattern
import CommitLint.Proofs.Text.Lines

/-!
# The fields of the header

What a parsed message says about its header is what the grammar of headers
says about the first line without its quotation marks. The groups of the
pattern of headers say the same, whatever way the search goes.
-/

namespace CommitLint

/-- A field that holds what is left of a text when it is trimmed, if anything is left. -/
def HoldsTrimmed (field : Option String) (text : List Char) : Prop :=
  ∃ kept, Text.IsTrimmed text kept ∧ field = if kept = [] then none else some (String.ofList kept)

namespace Header

theorem subject?_eq (header : Header) :
    header.subject? =
      if Text.trim header.description = [] then none else some (Text.trim header.description) := by
  rw [subject?]
  cases Text.trim header.description with
  | nil => rfl
  | cons first rest => rw [if_neg (List.cons_ne_nil first rest)]

/-- The gap behind the colon is trimmed away with the other blanks. -/
theorem holdsTrimmed_subject? {header : Header} {gap subject : List Char}
    (cut : header.description = gap ++ subject) (few : gap = [] ∨ gap = [' ']) :
    HoldsTrimmed (header.subject?.map String.ofList) subject := by
  have same : Text.trim header.description = Text.trim subject := by
    rw [cut]
    rcases few with rfl | rfl
    · rfl
    · exact Text.trim_blank_cons (by decide) subject
  refine ⟨Text.trim subject, Text.trim_isTrimmed subject, ?_⟩
  rw [subject?_eq, same]
  split <;> rfl

end Header

/-- The line that the header of a message is read from. -/
def headerLine (message : String) : List Char :=
  dropQuotationMarks (Text.firstLine message.toList)

theorem headerLine_flat (message : String) : '\n' ∉ headerLine message :=
  dropQuotationMarks_flat (Text.firstLine_flat message.toList)

theorem parse_of_isWritten {message : String} {header : Header}
    (written : header.IsWritten (headerLine message)) :
    (parse message).type = some (String.ofList header.type) ∧
      (parse message).scope = header.scope.map String.ofList ∧
      (parse message).subject = header.subject?.map String.ofList := by
  have read : Header.read? (headerLine message) = some header :=
    Header.read?_eq_some_iff.mpr written
  unfold headerLine at read
  simp [parse, read]

theorem parse_of_unwritten {message : String}
    (unwritten : ∀ header : Header, ¬ header.IsWritten (headerLine message)) :
    (parse message).type = none ∧ (parse message).scope = none ∧
      (parse message).subject = none := by
  have read : Header.read? (headerLine message) = none := Header.read?_eq_none_iff.mpr unwritten
  unfold headerLine at read
  simp [parse, read]

/--
The type, the scope and the subject of a message are the parts of the only
header that its line is written as, and absent if there is none. The groups
of the pattern hold the same parts on every way through the line, and there
is a way exactly if there is a header.
-/
theorem parse_header [CharacterNames] (message : String) :
    (∀ first second : Header, first.IsWritten (headerLine message) →
      second.IsWritten (headerLine message) → first = second) ∧
    (∀ header : Header, header.IsWritten (headerLine message) →
      (parse message).type = some (String.ofList header.type) ∧
      (parse message).scope = header.scope.map String.ofList ∧
      HoldsTrimmed (parse message).subject header.description) ∧
    ((∀ header : Header, ¬ header.IsWritten (headerLine message)) →
      (parse message).type = none ∧ (parse message).scope = none ∧
      (parse message).subject = none) ∧
    Pattern.read Header.patternText = .ok Header.node ∧
    ((Header.node.run (headerLine message).toArray ⟨0, []⟩ some).isSome = true ↔
      ∃ header : Header, header.IsWritten (headerLine message)) ∧
    (∀ found, Header.node.run (headerLine message).toArray ⟨0, []⟩ some = some found →
      Header.node.Matches (headerLine message).toArray ⟨0, []⟩ found) ∧
    (∀ next, Header.node.Matches (headerLine message).toArray ⟨0, []⟩ next →
      (parse message).type = (next.captured (headerLine message) 1).map String.ofList ∧
      (parse message).scope = (next.captured (headerLine message) 2).map String.ofList ∧
      ∃ subject, next.captured (headerLine message) 3 = some subject ∧
        HoldsTrimmed (parse message).subject subject) := by
  have flat := headerLine_flat message
  refine ⟨fun first second => Header.IsWritten.unique, ?_, parse_of_unwritten,
    Header.read_patternText, Header.run_node_isSome_iff flat, ?_, ?_⟩
  · intro header written
    obtain ⟨type, scope, subject⟩ := parse_of_isWritten written
    rw [subject]
    exact ⟨type, scope, Header.holdsTrimmed_subject? (List.nil_append _).symm (.inl rfl)⟩
  · intro found ran
    obtain ⟨next, matched, same⟩ :=
      (Header.node.run_realizes Header.node_ordered).sound (Nat.zero_le _) ran
    exact Option.some.inj same ▸ matched
  · intro next matched
    obtain ⟨header, gap, subject, written, first, second, third, cut, few⟩ :=
      Header.isWritten_of_matches flat matched
    obtain ⟨type, scope, shown⟩ := parse_of_isWritten written
    rw [type, scope, shown, first, second]
    exact ⟨rfl, rfl, subject, third, Header.holdsTrimmed_subject? cut few⟩

open CharacterNames in
/-- A scope with a colon in it, and a description with parentheses and a colon. -/
theorem parse_header_two_colons :
    (parse "wip(a: b): (c): d ").type = some "wip" ∧
      (parse "wip(a: b): (c): d ").scope = some "a: b" ∧
      HoldsTrimmed (parse "wip(a: b): (c): d ").subject " (c): d ".toList := by
  have written : Header.IsWritten ⟨"wip".toList, some "a: b".toList, " (c): d ".toList⟩
      (headerLine "wip(a: b): (c): d ") :=
    { typeNonempty := by decide +kernel
      typeWord := List.all_eq_true.mp (by decide +kernel)
      scopeClosed := by decide +kernel
      descriptionNonempty := by decide +kernel
      line_eq := by decide +kernel }
  obtain ⟨type, scope, subject⟩ := (parse_header "wip(a: b): (c): d ").2.1 _ written
  exact ⟨type, scope, subject⟩

end CommitLint
