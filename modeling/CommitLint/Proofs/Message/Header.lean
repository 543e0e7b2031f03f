import CommitLint.Message.Parsed
import CommitLint.Proofs.Text.Trim

/-!
# The grammar of headers

A header is written as a nonempty word, a scope in parentheses or none, a
colon, and a nonempty rest. A line can be written so in at most one way, and
reading finds that way: a word ends before the first character that belongs
to no word, a scope before the first closing parenthesis.
-/

namespace CommitLint

theorem dropQuotationMarks_flat {text : List Char} (flat : '\n' ∉ text) :
    '\n' ∉ dropQuotationMarks text :=
  fun member => flat (List.mem_filter.mp member).1

namespace Header

/-- A line is the written form of a header. -/
structure IsWritten (header : Header) (line : List Char) : Prop where
  typeNonempty : header.type ≠ []
  typeWord : ∀ c ∈ header.type, Text.isAsciiWord c = true
  scopeClosed : ∀ scope ∈ header.scope, scope ≠ [] ∧ ')' ∉ scope
  descriptionNonempty : header.description ≠ []
  line_eq : header.render = line

/-- What stands between the type and the colon. -/
def scopeText : Option (List Char) → List Char
  | none => []
  | some scope => '(' :: scope ++ [')']

theorem render_eq (header : Header) :
    header.render = header.type ++ (scopeText header.scope ++ ':' :: header.description) := by
  cases scope : header.scope <;> simp [render, scopeText, scope]

theorem readDescription?_eq_some_iff {text description : List Char} :
    readDescription? text = some description ↔ text = ':' :: description ∧ description ≠ [] := by
  constructor
  · intro read
    unfold readDescription? at read
    split at read
    · cases read
      exact ⟨rfl, List.cons_ne_nil _ _⟩
    · cases read
  · rintro ⟨rfl, nonempty⟩
    cases description with
    | nil => exact absurd rfl nonempty
    | cons first rest => rfl

theorem readScope?_eq_some_iff {text scope description : List Char} :
    readScope? text = some (scope, description) ↔
      text = scope ++ ')' :: ':' :: description ∧ scope ≠ [] ∧ ')' ∉ scope ∧ description ≠ [] := by
  constructor
  · intro read
    unfold readScope? at read
    split at read
    case h_1 first inner rest cut =>
      obtain ⟨whole, inside, -⟩ := Text.span_eq_iff.mp cut
      obtain ⟨found, readRest, same⟩ := Option.map_eq_some_iff.mp read
      obtain ⟨restEq, nonempty⟩ := readDescription?_eq_some_iff.mp readRest
      cases same
      refine ⟨by rw [whole, restEq], List.cons_ne_nil _ _, ?_, nonempty⟩
      intro closing
      exact absurd (inside ')' closing) (by decide)
    case h_2 => cases read
  · rintro ⟨rfl, nonempty, closed, rest⟩
    have inside : ∀ c ∈ scope, (c != ')') = true := by
      intro c member
      simpa using fun same : c = ')' => closed (same ▸ member)
    have stops : Text.Stops (· != ')') (')' :: ':' :: description) := Text.stops_cons (by decide)
    have cut := Text.span_append inside stops
    cases scope with
    | nil => exact absurd rfl nonempty
    | cons first inner =>
        rw [readScope?, cut]
        exact congrArg (Option.map _) (readDescription?_eq_some_iff.mpr ⟨rfl, rest⟩)

/-- Behind the type stands a scope or the colon, so that the type is the longest word. -/
theorem stops_scopeText (scope : Option (List Char)) (rest : List Char) :
    Text.Stops Text.isAsciiWord (scopeText scope ++ ':' :: rest) := by
  cases scope with
  | none => exact Text.stops_cons (by decide)
  | some inner => exact Text.stops_cons (by decide)

theorem isWritten_of_read? {line : List Char} {header : Header}
    (read : read? line = some header) : header.IsWritten line := by
  unfold read? at read
  split at read
  case h_1 => cases read
  case h_2 first type rest cut =>
    obtain ⟨whole, inside, -⟩ := Text.span_eq_iff.mp cut
    obtain ⟨⟨scope, description⟩, readRest, same⟩ := Option.map_eq_some_iff.mp read
    obtain ⟨restEq, nonempty, closed, described⟩ := readScope?_eq_some_iff.mp readRest
    cases same
    refine ⟨List.cons_ne_nil _ _, inside, ?_, described, ?_⟩
    · intro inner member
      cases member
      exact ⟨nonempty, closed⟩
    · simp [render_eq, scopeText, whole, restEq]
  case h_3 first type rest _ cut =>
    obtain ⟨whole, inside, -⟩ := Text.span_eq_iff.mp cut
    obtain ⟨description, readRest, same⟩ := Option.map_eq_some_iff.mp read
    obtain ⟨restEq, described⟩ := readDescription?_eq_some_iff.mp readRest
    cases same
    refine ⟨List.cons_ne_nil _ _, inside, ?_, described, ?_⟩
    · intro inner member
      cases member
    · simp [render_eq, scopeText, whole, restEq]

theorem read?_of_isWritten {line : List Char} {header : Header}
    (written : header.IsWritten line) : read? line = some header := by
  obtain ⟨type, scope, description⟩ := header
  obtain ⟨nonempty, inside, closed, described, whole⟩ := written
  rw [render_eq] at whole
  have cut := Text.span_append inside (stops_scopeText scope description)
  rw [whole] at cut
  dsimp only at nonempty described closed
  obtain ⟨first, rest, rfl⟩ := List.exists_cons_of_ne_nil nonempty
  cases scope with
  | none =>
      have found := readDescription?_eq_some_iff.mpr ⟨rfl, described⟩
      simp only [read?, cut, scopeText, List.nil_append]
      exact congrArg (Option.map _) found
  | some inner =>
      obtain ⟨innerNonempty, innerClosed⟩ := closed inner rfl
      have found := readScope?_eq_some_iff.mpr ⟨rfl, innerNonempty, innerClosed, described⟩
      simp only [read?, cut, scopeText, List.cons_append, List.append_assoc, List.nil_append]
      exact congrArg (Option.map _) found

theorem read?_eq_some_iff {line : List Char} {header : Header} :
    read? line = some header ↔ header.IsWritten line :=
  ⟨isWritten_of_read?, read?_of_isWritten⟩

theorem IsWritten.unique {line : List Char} {first second : Header}
    (one : first.IsWritten line) (other : second.IsWritten line) : first = second :=
  Option.some.inj ((read?_eq_some_iff.mpr one).symm.trans (read?_eq_some_iff.mpr other))

theorem read?_eq_none_iff {line : List Char} :
    read? line = none ↔ ∀ header : Header, ¬ header.IsWritten line := by
  constructor
  · intro nothing header written
    rw [read?_eq_some_iff.mpr written] at nothing
    cases nothing
  · intro unwritten
    cases read : read? line with
    | none => rfl
    | some header => exact absurd (read?_eq_some_iff.mp read) (unwritten header)

end Header

end CommitLint
