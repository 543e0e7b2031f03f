import CommitLint.Proofs.Message.Parts
import CommitLint.Proofs.Rule.Verdicts

/-!
# The body that the rules see

The rules for the body and the parsed message cut the lines of a message in
three ways that agree. The lines that are measured are those of the parsed
body and footer, as far as they are not blank. Parsing keeps every other line
that is not blank but the second one of the message, so nothing is lost
exactly when the rule for that line has nothing to complain of.
-/

namespace CommitLint

namespace Text

/-- The lines of several texts, one text after the other. -/
def linesOfAll (texts : List String) : List (List Char) :=
  texts.flatMap fun text => lines text.toList

/-- The lines that are not blank. -/
def solid (pieces : List (List Char)) : List (List Char) :=
  pieces.filter fun line => !allBlank line

theorem solid_append (first second : List (List Char)) :
    solid (first ++ second) = solid first ++ solid second :=
  List.filter_append first second

theorem mem_solid_iff {pieces : List (List Char)} {line : List Char} :
    line ∈ solid pieces ↔ line ∈ pieces ∧ allBlank line = false := by
  simp [solid]

theorem solid_eq_nil_iff {pieces : List (List Char)} :
    solid pieces = [] ↔ ∀ line ∈ pieces, allBlank line = true := by
  simp [solid]

end Text

namespace Parsed

/-- What is parsed behind the header. -/
def below (parsed : Parsed) : List String :=
  parsed.body.toList ++ parsed.footer.toList

/-- What the lines of a message are parsed into. -/
def pieces (parsed : Parsed) : List String :=
  parsed.header :: parsed.below

/-- A block has the lines that it was made of. -/
theorem linesOfAll_block {lines : List (List Char)} (flat : ∀ line ∈ lines, '\n' ∉ line) :
    Text.linesOfAll ((block lines).map String.ofList).toList = lines := by
  cases lines with
  | nil => rfl
  | cons first rest =>
      have cut : Text.lines (Text.unlines (first :: rest)) = first :: rest :=
        Text.splitOn_joinWith (List.cons_ne_nil first rest) flat
      simp [block, Text.linesOfAll, cut]

/-- Of the lines behind the separator only blank ones are in neither body nor footer. -/
theorem solid_bodyLines_append_footerLines (lines : List (List Char)) :
    Text.solid (bodyLines lines ++ footerLines lines) = Text.solid lines := by
  rcases solid_or_cut lines with solid | ⟨run, blank, rest, rfl, solid, ends⟩
  · obtain ⟨whole, nothing⟩ := parts_of_solid solid
    rw [whole, nothing, List.append_nil]
  · obtain ⟨before, behind⟩ := parts_of_cut solid ends rest
    have dropped : Text.solid (blank :: rest) = Text.solid rest :=
      List.filter_cons_of_neg (by simp [ends])
    rw [before, behind, Text.solid_append, Text.solid_append, dropped]

end Parsed

section

variable {message : String} {first : List Char} {rest : List (List Char)}
  (lines : Text.lines message.toList = first :: rest)

include lines

theorem linesOfAll_header :
    Text.linesOfAll [(parse message).header] = [first] := by
  have flat : '\n' ∉ first := firstLine_of_lines lines ▸ Text.firstLine_flat message.toList
  simp [Text.linesOfAll, parse, firstLine_of_lines lines, Text.lines_of_flat flat]

/-- The lines behind the header that are parsed are those behind the second one, but for blank
lines. -/
theorem solid_below :
    Text.solid (Text.linesOfAll (parse message).below) = Text.solid (rest.drop 1) := by
  have flat : ∀ line ∈ rest.drop 1, '\n' ∉ line := by
    intro line member
    have among : line ∈ Text.lines message.toList :=
      lines ▸ List.mem_cons_of_mem first (List.mem_of_mem_drop member)
    exact Text.splitOn_flat '\n' message.toList line among
  have parts : Text.linesOfAll (parse message).below =
      Parsed.bodyLines (rest.drop 1) ++ Parsed.footerLines (rest.drop 1) := by
    have cut : (Text.lines message.toList).drop 2 = rest.drop 1 := by
      rw [lines]
      rfl
    have bodyFlat : ∀ line ∈ Parsed.bodyLines (rest.drop 1), '\n' ∉ line :=
      fun line member => flat line (List.takeWhile_subset _ member)
    have footerFlat : ∀ line ∈ Parsed.footerLines (rest.drop 1), '\n' ∉ line :=
      fun line member => flat line (List.dropWhile_subset _ (List.mem_of_mem_drop member))
    rw [Parsed.below, Text.linesOfAll, List.flatMap_append]
    simp only [parse, cut]
    exact congrArg₂ _ (Parsed.linesOfAll_block bodyFlat) (Parsed.linesOfAll_block footerFlat)
  rw [parts, Parsed.solid_bodyLines_append_footerLines]

/-- Parsing passes over the second line, and over blank ones. -/
theorem solid_lines :
    Text.solid (Text.lines message.toList) =
      Text.solid [first] ++ (Text.solid (rest.take 1) ++
        Text.solid (Text.linesOfAll (parse message).below)) := by
  rw [solid_below lines, lines, ← Text.solid_append, List.take_append_drop, ← Text.solid_append,
    List.singleton_append]

theorem solid_pieces :
    Text.solid (Text.linesOfAll (parse message).pieces) =
      Text.solid [first] ++ Text.solid (Text.linesOfAll (parse message).below) := by
  rw [Parsed.pieces, ← List.singleton_append, Text.linesOfAll, List.flatMap_append,
    Text.solid_append]
  exact congrArg (Text.solid · ++ _) (linesOfAll_header lines)

end

/--
The rule for the lengths of lines complains exactly of a message whose parsed
body or footer has a line that is not blank and longer than the limit of the
options. The rule for the leading blank accepts exactly the messages of which
parsing loses nothing: header, body and footer have as many lines that are
not blank as the message, and then they have the same ones.
-/
theorem bodyRules_of_parsed (message : String) (options : Option Entries) :
    let parsed := parse message
    let limit := maxLength options BodyLength.fallback
    let measured := (BodyLength.rule.validate message options).verdict
    let separated := (LeadingBlank.rule.validate message options).verdict
    let written := Text.solid (Text.lines message.toList)
    let kept := Text.solid (Text.linesOfAll parsed.pieces)
    (measured = .invalid (some (BodyLength.complaint limit)) ↔
      ∃ line ∈ Text.linesOfAll parsed.below, Text.allBlank line = false ∧ limit < line.length) ∧
    (measured = .valid ↔
      ∀ line ∈ Text.linesOfAll parsed.below, Text.allBlank line = false → line.length ≤ limit) ∧
    (separated = .valid ↔ written.length = kept.length) ∧
    (separated = .invalid (some LeadingBlank.complaint) ↔ written.length ≠ kept.length) ∧
    (written.length = kept.length ↔ written = kept) := by
  intro parsed limit measured separated written kept
  obtain ⟨first, rest, lines⟩ :=
    List.exists_cons_of_ne_nil (Text.splitOn_ne_nil '\n' message.toList)
  have long : measured = .given (∀ line ∈ rest.drop 1, Text.allBlank line = true ∨
      line.length ≤ limit) (BodyLength.complaint limit) :=
    BodyLength.verdict_of_lines options lines
  have short : (∀ line ∈ rest.drop 1, Text.allBlank line = true ∨ line.length ≤ limit) ↔
      ∀ line ∈ Text.linesOfAll parsed.below, Text.allBlank line = false → line.length ≤ limit := by
    simp only [or_iff_not_imp_left, Bool.not_eq_true, ← and_imp, ← Text.mem_solid_iff,
      parsed, solid_below lines]
  have joined : separated = .given (∀ second ∈ rest.head?, Text.allBlank second = true)
      LeadingBlank.complaint := LeadingBlank.verdict_of_lines options lines
  have lost : written.length = kept.length ↔ Text.solid (rest.take 1) = [] := by
    simp only [written, kept, parsed, solid_lines lines, solid_pieces lines, List.length_append]
    rw [← List.length_eq_zero_iff]
    omega
  have blank : (∀ second ∈ rest.head?, Text.allBlank second = true) ↔
      written.length = kept.length := by
    rw [lost, Text.solid_eq_nil_iff]
    cases rest <;> simp
  refine ⟨?_, ?_, ?_, ?_, ?_⟩
  · rw [long, Verdict.given_eq_invalid_iff, short]
    simp
  · rw [long, Verdict.given_eq_valid_iff, short]
  · rw [joined, Verdict.given_eq_valid_iff, blank]
  · rw [joined, Verdict.given_eq_invalid_iff, blank]
  · refine ⟨fun same => ?_, congrArg List.length⟩
    simp only [written, kept, parsed, solid_lines lines, solid_pieces lines, lost.mp same,
      List.nil_append]

end CommitLint
