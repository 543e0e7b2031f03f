import CommitLint.Proofs.Message.Fields
import CommitLint.Proofs.Message.Parts

/-!
# Drafts

The parts that a message is composed of, and the message that they make. A
blank line stands in front of the body and of the footer; a footer without a
body has one more in front of it, which ends the body that is not there.
Parsing the message gives back the parts.
-/

namespace CommitLint

/-- The parts of a message, each in a form that the reading of the whole does not cut. -/
structure Draft where
  type : String
  scope : Option String
  subject : String
  body : Option String
  footer : Option String
  typeNonempty : type ≠ ""
  typeWord : ∀ c ∈ type.toList, Text.isAsciiWord c = true
  scopeNonempty : ∀ text ∈ scope, text ≠ ""
  scopePlain : ∀ text ∈ scope, ∀ c ∈ text.toList,
    c ≠ ')' ∧ c ≠ '\n' ∧ isQuotationMark c = false
  subjectNonempty : subject ≠ ""
  subjectPlain : ∀ c ∈ subject.toList, c ≠ '\n' ∧ isQuotationMark c = false
  subjectFront : ∀ c ∈ subject.toList.head?, Text.isBlank c = false
  subjectBack : ∀ c ∈ subject.toList.getLast?, Text.isBlank c = false
  bodySolid : ∀ text ∈ body, ∀ line ∈ Text.lines text.toList, Text.allBlank line = false

namespace Draft

/-- The header, with one space behind the colon. -/
def heading (draft : Draft) : List Char :=
  draft.type.toList ++
    (Header.scopeText (draft.scope.map (·.toList)) ++ ':' :: ' ' :: draft.subject.toList)

/-- What stands behind the header. -/
def ending : Option String → Option String → List Char
  | none, none => []
  | some body, none => '\n' :: '\n' :: body.toList
  | some body, some footer => '\n' :: '\n' :: (body.toList ++ '\n' :: '\n' :: footer.toList)
  | none, some footer => '\n' :: '\n' :: '\n' :: footer.toList

/-- The message that a draft makes. -/
def render (draft : Draft) : String :=
  String.ofList (draft.heading ++ ending draft.body draft.footer)

def bodyPart : Option String → List (List Char)
  | none => []
  | some body => Text.lines body.toList

/-- The lines of the footer behind the blank one that ends the body. -/
def footerPart : Option String → List (List Char)
  | none => []
  | some footer => [] :: Text.lines footer.toList

theorem lines_ending {line : List Char} (flat : '\n' ∉ line) (body footer : Option String) :
    ∃ rest, Text.lines (line ++ ending body footer) = line :: rest ∧
      rest.drop 1 = bodyPart body ++ footerPart footer := by
  have below : ∀ text, Text.lines ('\n' :: text) = [] :: Text.lines text :=
    Text.lines_append []
  cases body with
  | none =>
      cases footer with
      | none =>
          refine ⟨[], ?_, rfl⟩
          rw [ending, List.append_nil, Text.lines_of_flat flat]
      | some footer =>
          refine ⟨[] :: [] :: Text.lines footer.toList, ?_, rfl⟩
          rw [ending, Text.lines_append, Text.lines_of_flat flat, below, below]
          rfl
  | some body =>
      cases footer with
      | none =>
          refine ⟨[] :: Text.lines body.toList, ?_, (List.append_nil _).symm⟩
          rw [ending, Text.lines_append, Text.lines_of_flat flat, below]
          rfl
      | some footer =>
          refine ⟨[] :: (Text.lines body.toList ++ [] :: Text.lines footer.toList), ?_, rfl⟩
          rw [ending, Text.lines_append, Text.lines_of_flat flat, below, Text.lines_append, below]
          rfl

theorem block_bodyPart (body : Option String) :
    Parsed.block (bodyPart body) = body.map (·.toList) := by
  cases body with
  | none => rfl
  | some text =>
      obtain ⟨piece, pieces, cut⟩ :=
        List.exists_cons_of_ne_nil (Text.splitOn_ne_nil '\n' text.toList)
      have joined := Text.joinWith_splitOn '\n' text.toList
      rw [cut] at joined
      simp [Parsed.block, bodyPart, Text.lines, Text.unlines, cut, joined]

variable (draft : Draft)

theorem bodyPart_solid : ∀ line ∈ bodyPart draft.body, Text.allBlank line = false := by
  intro line member
  cases body : draft.body with
  | none =>
      rw [body] at member
      cases member
  | some text =>
      rw [body] at member
      exact draft.bodySolid text body line member

/-- The body goes up to the footer, whose blank line ends it. -/
theorem parts_eq :
    Parsed.bodyLines (bodyPart draft.body ++ footerPart draft.footer) = bodyPart draft.body ∧
      Parsed.footerLines (bodyPart draft.body ++ footerPart draft.footer) =
        bodyPart draft.footer := by
  cases draft.footer with
  | none =>
      rw [footerPart, List.append_nil]
      exact Parsed.parts_of_solid draft.bodyPart_solid
  | some footer => exact Parsed.parts_of_cut draft.bodyPart_solid rfl _

theorem bodyLines_parts :
    Parsed.bodyLines (bodyPart draft.body ++ footerPart draft.footer) = bodyPart draft.body :=
  draft.parts_eq.1

theorem footerLines_parts :
    Parsed.footerLines (bodyPart draft.body ++ footerPart draft.footer) =
      bodyPart draft.footer :=
  draft.parts_eq.2

theorem mem_heading {c : Char} (member : c ∈ draft.heading) :
    c ∈ draft.type.toList ∨ c ∈ [':', ' ', '(', ')'] ∨
      (∃ text ∈ draft.scope, c ∈ text.toList) ∨ c ∈ draft.subject.toList := by
  rw [heading] at member
  cases scope : draft.scope with
  | none =>
      simp only [scope, Option.map_none, Header.scopeText, List.nil_append, List.mem_append,
        List.mem_cons] at member
      simp only [List.mem_cons]
      tauto
  | some text =>
      simp only [scope, Option.map_some, Header.scopeText, List.cons_append, List.mem_append,
        List.mem_cons, List.append_assoc, List.nil_append] at member
      simp only [List.mem_cons, Option.mem_def, Option.some.injEq, exists_eq_left']
      tauto

/-- Words of the basic alphabet hold neither line feeds nor quotation marks. -/
theorem plain_of_isAsciiWord {c : Char} (word : Text.isAsciiWord c = true) :
    c ≠ '\n' ∧ isQuotationMark c = false := by
  constructor
  · rintro rfl
    cases word
  · by_contra mark
    simp only [isQuotationMark, Bool.not_eq_false, Bool.or_eq_true, beq_iff_eq] at mark
    rcases mark with ((((rfl | rfl) | rfl) | rfl) | rfl) | rfl <;> cases word

theorem plain_of_sign : ∀ c ∈ [':', ' ', '(', ')'], c ≠ '\n' ∧ isQuotationMark c = false := by
  simp [isQuotationMark]

theorem heading_plain {c : Char} (member : c ∈ draft.heading) :
    c ≠ '\n' ∧ isQuotationMark c = false := by
  rcases draft.mem_heading member with word | sign | ⟨text, present, inside⟩ | inside
  · exact plain_of_isAsciiWord (draft.typeWord c word)
  · exact plain_of_sign c sign
  · exact (draft.scopePlain text present c inside).2
  · exact draft.subjectPlain c inside

theorem heading_flat : '\n' ∉ draft.heading :=
  fun member => (draft.heading_plain member).1 rfl

theorem dropQuotationMarks_heading : dropQuotationMarks draft.heading = draft.heading := by
  rw [dropQuotationMarks, List.filter_eq_self]
  intro c member
  rw [(draft.heading_plain member).2]
  rfl

theorem trim_subject : Text.trim (' ' :: draft.subject.toList) = draft.subject.toList := by
  rw [Text.trim_blank_cons (by decide)]
  apply Text.trim_eq_self draft.subjectFront
  rintro ⟨c, last, blank⟩
  rw [draft.subjectBack c last] at blank
  cases blank

theorem isWritten_heading :
    Header.IsWritten
      ⟨draft.type.toList, draft.scope.map (·.toList), ' ' :: draft.subject.toList⟩
      draft.heading where
  typeNonempty := mt String.toList_eq_nil_iff.mp draft.typeNonempty
  typeWord := draft.typeWord
  scopeClosed := by
    intro scope member
    obtain ⟨text, present, rfl⟩ := Option.map_eq_some_iff.mp member
    exact ⟨mt String.toList_eq_nil_iff.mp (draft.scopeNonempty text present),
      fun closing => (draft.scopePlain text present ')' closing).1 rfl⟩
  descriptionNonempty := List.cons_ne_nil _ _
  line_eq := Header.render_eq _

theorem headerLine_render : headerLine draft.render = draft.heading := by
  obtain ⟨rest, cut, -⟩ := lines_ending draft.heading_flat draft.body draft.footer
  rw [headerLine, render, String.toList_ofList, Text.firstLine_of_lines_eq cut,
    dropQuotationMarks_heading]

/--
Parsing undoes composing: the message of a draft is parsed to the parts of the
draft, whichever of scope, body and footer are there. The footer may hold
blank lines, and may even be empty.
-/
theorem parse_render :
    (parse draft.render).type = some draft.type ∧
    (parse draft.render).scope = draft.scope ∧
    (parse draft.render).subject = some draft.subject ∧
    (parse draft.render).body = draft.body ∧
    (parse draft.render).footer = draft.footer ∧
    (parse draft.render).header = String.ofList draft.heading ∧
    (parse draft.render).raw = draft.render := by
  have written := draft.isWritten_heading
  rw [← draft.headerLine_render] at written
  obtain ⟨type, scope, subject⟩ := parse_of_isWritten written
  obtain ⟨rest, cut, behind⟩ := lines_ending draft.heading_flat draft.body draft.footer
  have parts : (Text.lines draft.render.toList).drop 2 =
      bodyPart draft.body ++ footerPart draft.footer := by
    rw [render, String.toList_ofList, cut]
    exact behind
  have back : ∀ text : Option String, (text.map (·.toList)).map String.ofList = text := by
    intro text
    cases text <;> simp
  refine ⟨?_, ?_, ?_, ?_, ?_, ?_, rfl⟩
  · rw [type, String.ofList_toList]
  · rw [scope, back]
  · rw [subject, Header.subject?_eq, draft.trim_subject,
      if_neg (mt String.toList_eq_nil_iff.mp draft.subjectNonempty)]
    simp
  · simp only [parse]
    rw [parts, bodyLines_parts, block_bodyPart, back]
  · simp only [parse]
    rw [parts, footerLines_parts, block_bodyPart, back]
  · simp only [parse]
    rw [render, String.toList_ofList, Text.firstLine_of_lines_eq cut]

/-- A draft with the signs of a header in its subject and blank lines in its footer. -/
def sample : Draft where
  type := "wip"
  scope := some "a b"
  subject := "x: (y)"
  body := some "one\ntwo"
  footer := some "\nend\n"
  typeNonempty := by decide +kernel
  typeWord := List.all_eq_true.mp (by decide +kernel)
  scopeNonempty := by simp
  scopePlain := by simp [isQuotationMark]
  subjectNonempty := by decide +kernel
  subjectPlain := by simp [isQuotationMark]
  subjectFront := by
    rintro c ⟨⟩
    rfl
  subjectBack := by
    rintro c ⟨⟩
    rfl
  bodySolid := by
    rintro text ⟨⟩
    exact List.forall_mem_cons.mpr ⟨rfl, List.forall_mem_singleton.mpr rfl⟩

theorem parse_render_sample :
    sample.render = "wip(a b): x: (y)\n\none\ntwo\n\n\nend\n" ∧
      (parse sample.render).subject = some "x: (y)" ∧
      (parse sample.render).body = some "one\ntwo" ∧
      (parse sample.render).footer = some "\nend\n" := by
  obtain ⟨-, -, subject, body, footer, -, -⟩ := sample.parse_render
  exact ⟨by decide +kernel, subject, body, footer⟩

end Draft

end CommitLint
