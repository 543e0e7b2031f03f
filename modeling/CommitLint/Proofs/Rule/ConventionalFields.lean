import CommitLint.Proofs.Message.Fields
import CommitLint.Proofs.Rule.ConventionalPattern
import CommitLint.Proofs.Rule.Verdicts

/-!
# The fields of conventional headers

The rule about conventional headers and the parser read the same line. The
parser takes any word for a type, nearly anything for a scope, and needs no
space behind the colon; the rule is stricter in all three. So the rule finds
a message valid exactly if the parsed fields are of the stricter kind and
the line is written with a space, and the subject is the description then.
-/

namespace CommitLint

/-- The fields of a message are those of a conventional header with this type and description. -/
structure Parsed.IsConventional (parsed : Parsed) (type : String) (description : List Char) :
    Prop where
  type_eq : parsed.type = some type
  typeKnown : type.toList.map Text.toAsciiLower ∈ Conventional.types.map (·.toList)
  scopeNamed : ∀ scope ∈ parsed.scope, ∀ c ∈ scope.toList, Conventional.isScopeChar c = true
  line_eq : dropQuotationMarks parsed.header.toList =
    type.toList ++
      (Header.scopeText (parsed.scope.map (·.toList)) ++ ':' :: ' ' :: description)
  descriptionNonempty : description ≠ []
  descriptionLine : '\r' ∉ description

theorem dropQuotationMarks_header (message : String) :
    dropQuotationMarks (parse message).header.toList = headerLine message := by
  simp [parse, headerLine]

theorem exists_isWritten_of_type {message type : String}
    (typed : (parse message).type = some type) :
    ∃ header : Header, header.IsWritten (headerLine message) := by
  by_contra unwritten
  have absent := (parse_of_unwritten fun header written => unwritten ⟨header, written⟩).1
  rw [typed] at absent
  cases absent

namespace Conventional

variable {message type : String} {description : List Char}

/-- Every type is a word of the basic alphabet, in whatever case it is written. -/
theorem word_of_known {type : List Char}
    (known : type.map Text.toAsciiLower ∈ types.map (·.toList)) :
    type ≠ [] ∧ ∀ c ∈ type, Text.isAsciiWord c = true := by
  have words : (types.map (·.toList)).all
      (fun word => !word.isEmpty && word.all Text.isAsciiWord) = true := by
    decide +kernel
  have listed := List.all_eq_true.mp words _ known
  rw [Bool.and_eq_true, List.all_eq_true] at listed
  constructor
  · rintro rfl
    cases listed.1
  · intro c member
    rw [← Text.isAsciiWord_toAsciiLower]
    exact listed.2 _ (List.mem_map_of_mem member)

theorem isScopeChar_closing : isScopeChar ')' = false := by
  decide

/-- A conventional header is a header; the space belongs to its description. -/
theorem isWritten_of_parts {type : List Char} {scope : Option (List Char)} {line : List Char}
    (line_eq : line = type ++ (Header.scopeText scope ++ ':' :: ' ' :: description))
    (known : type.map Text.toAsciiLower ∈ types.map (·.toList))
    (named : ∀ inner ∈ scope, inner ≠ [] ∧ ∀ c ∈ inner, isScopeChar c = true) :
    Header.IsWritten ⟨type, scope, ' ' :: description⟩ line := by
  obtain ⟨nonempty, word⟩ := word_of_known known
  refine ⟨nonempty, word, ?_, List.cons_ne_nil _ _, ?_⟩
  · intro inner member
    obtain ⟨innerNonempty, inside⟩ := named inner member
    refine ⟨innerNonempty, fun closing => ?_⟩
    have outside := inside ')' closing
    rw [isScopeChar_closing] at outside
    cases outside
  · rw [Header.render_eq, line_eq]

/-- A scope that is read is never empty, so that its characters are all there is to ask. -/
theorem scope_of_fields (fields : (parse message).IsConventional type description) :
    ∀ inner ∈ (parse message).scope.map (·.toList),
      inner ≠ [] ∧ ∀ c ∈ inner, isScopeChar c = true := by
  obtain ⟨header, written⟩ := exists_isWritten_of_type fields.type_eq
  have bounded := (parse_of_isWritten written).2.1
  intro inner member
  obtain ⟨scope, present, rfl⟩ := Option.map_eq_some_iff.mp member
  refine ⟨?_, fields.scopeNamed scope present⟩
  rw [bounded] at present
  obtain ⟨read, held, rfl⟩ := Option.map_eq_some_iff.mp present
  rw [String.toList_ofList]
  exact (written.scopeClosed read held).1

theorem isWritten_of_fields (fields : (parse message).IsConventional type description) :
    Header.IsWritten ⟨type.toList, (parse message).scope.map (·.toList), ' ' :: description⟩
      (headerLine message) :=
  isWritten_of_parts (dropQuotationMarks_header message ▸ fields.line_eq) fields.typeKnown
    (scope_of_fields fields)

/-- The line is conventional exactly if its fields are. -/
theorem isConventional_iff_fields :
    IsConventional (headerLine message) ↔
      ∃ type description, (parse message).IsConventional type description := by
  constructor
  · rintro ⟨type, scope, description, line_eq, known, named, nonempty, line⟩
    have written := isWritten_of_parts line_eq known named
    obtain ⟨typed, bounded, -⟩ := parse_of_isWritten written
    refine ⟨String.ofList type, description, typed, ?_, ?_, ?_, nonempty, line⟩
    · rw [String.toList_ofList]
      exact known
    · intro scope present
      rw [bounded] at present
      obtain ⟨inner, held, rfl⟩ := Option.map_eq_some_iff.mp present
      rw [String.toList_ofList]
      exact (named inner held).2
    · have same : (scope.map String.ofList).map (·.toList) = scope := by
        cases scope <;> simp
      rw [dropQuotationMarks_header, bounded, same, String.toList_ofList]
      exact line_eq
  · rintro ⟨type, description, fields⟩
    exact ⟨type.toList, (parse message).scope.map (·.toList), description,
      dropQuotationMarks_header message ▸ fields.line_eq, fields.typeKnown,
      scope_of_fields fields, fields.descriptionNonempty, fields.descriptionLine⟩

theorem verdict_eq_given (message : String) (options : Option Entries) :
    (rule.validate message options).verdict =
      .given (IsConventional (headerLine message)) complaint := by
  obtain ⟨first, rest, lines⟩ :=
    List.exists_cons_of_ne_nil (Text.splitOn_ne_nil '\n' message.toList)
  rw [headerLine, firstLine_of_lines lines]
  exact verdict_of_lines options lines

theorem verdict_eq_valid_iff (message : String) (options : Option Entries) :
    (rule.validate message options).verdict = .valid ↔ IsConventional (headerLine message) := by
  rw [verdict_eq_given, Verdict.given]
  split <;> simp [*]

/--
The rule and the parser read the same first line, and they agree on it: the
rule finds a message valid exactly if the pattern of the rule is found in the
line, and exactly if the parsed fields are those of a conventional header
with some description. The subject is that description without the blanks
around it, or absent if nothing else is in it.
-/
theorem valid_iff_fields [CharacterNames] (message : String) (options : Option Entries) :
    (Text.lines message.toList).head? = some (parse message).header.toList ∧
    ((rule.validate message options).verdict = .valid ↔
      ∃ type description, (parse message).IsConventional type description) ∧
    ((rule.validate message options).verdict = .valid ↔
      Pattern.search patternText (dropQuotationMarks (parse message).header.toList) = .ok true) ∧
    (∀ type description, (parse message).IsConventional type description →
      HoldsTrimmed (parse message).subject description) := by
  refine ⟨?_, ?_, ?_, ?_⟩
  · rw [Text.head?_lines]
    simp [parse]
  · rw [verdict_eq_valid_iff, isConventional_iff_fields]
  · rw [verdict_eq_valid_iff, dropQuotationMarks_header,
      search_patternText (headerLine_flat message), ← accepts_iff, Except.ok.injEq]
  · intro type description fields
    rw [(parse_of_isWritten (isWritten_of_fields fields)).2.2]
    exact Header.holdsTrimmed_subject? rfl (.inr rfl)

end Conventional

end CommitLint
