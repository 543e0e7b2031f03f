import CommitLint.Proofs.Message.Header
import CommitLint.Rule.Conventional

/-!
# The grammar of conventional headers

A conventional header is one of the types in any letter case, a scope in
parentheses or none, a colon and a space, and a description in one line. The
rule accepts exactly these headers; since no type begins another, the first
type that it finds at the front is the only one.
-/

namespace CommitLint.Conventional

/-- The parts of a conventional header in their order. -/
def IsConventional (header : List Char) : Prop :=
  ∃ (type : List Char) (scope : Option (List Char)) (description : List Char),
    header = type ++ (Header.scopeText scope ++ ':' :: ' ' :: description) ∧
    type.map Text.toAsciiLower ∈ types.map (·.toList) ∧
    (∀ inner ∈ scope, inner ≠ [] ∧ ∀ c ∈ inner, isScopeChar c = true) ∧
    description ≠ [] ∧ '\r' ∉ description

/-- No type begins another one. -/
theorem types_prefixFree : ∀ first ∈ types, ∀ second ∈ types,
    first.toList <+: second.toList → first = second := by
  decide +kernel

theorem afterType?_eq_some_iff {header rest : List Char} :
    afterType? header = some rest ↔
      ∃ type, header = type ++ rest ∧ type.map Text.toAsciiLower ∈ types.map (·.toList) := by
  constructor
  · intro found
    obtain ⟨name, known, dropped⟩ := List.exists_of_findSome?_eq_some found
    obtain ⟨type, cut, lower⟩ := Text.dropWord?_eq_some_iff.mp dropped
    exact ⟨type, cut, lower ▸ List.mem_map_of_mem known⟩
  · rintro ⟨type, rfl, member⟩
    obtain ⟨name, known, lower⟩ := List.mem_map.mp member
    have dropped : Text.dropWord? name.toList (type ++ rest) = some rest :=
      Text.dropWord?_eq_some_iff.mpr ⟨type, rfl, lower.symm⟩
    have some : (afterType? (type ++ rest)).isSome = true :=
      List.findSome?_isSome_iff.mpr ⟨name, known, by rw [dropped]; rfl⟩
    obtain ⟨tail, found⟩ := Option.isSome_iff_exists.mp some
    obtain ⟨other, knownOther, droppedOther⟩ := List.exists_of_findSome?_eq_some found
    obtain ⟨typeOther, cut, lowerOther⟩ := Text.dropWord?_eq_some_iff.mp droppedOther
    have front : name.toList <+: (type ++ rest).map Text.toAsciiLower := by
      rw [List.map_append, ← lower]
      exact List.prefix_append _ _
    have frontOther : other.toList <+: (type ++ rest).map Text.toAsciiLower := by
      rw [cut, List.map_append, lowerOther]
      exact List.prefix_append _ _
    have same : name = other := by
      rcases List.prefix_or_prefix_of_prefix front frontOther with shorter | longer
      · exact types_prefixFree name known other knownOther shorter
      · exact (types_prefixFree other knownOther name known longer).symm
    rw [found, ← droppedOther, ← same, dropped]

theorem afterScope?_eq_colon_iff {text rest : List Char} :
    afterScope? text = some (':' :: rest) ↔
      ∃ scope, text = Header.scopeText scope ++ ':' :: rest ∧
        ∀ inner ∈ scope, inner ≠ [] ∧ ∀ c ∈ inner, isScopeChar c = true := by
  constructor
  · intro read
    unfold afterScope? at read
    split at read
    case h_1 behind =>
      split at read
      case h_1 first others tail cut =>
        obtain ⟨whole, inside, -⟩ := Text.span_eq_iff.mp cut
        cases read
        refine ⟨some (first :: others), ?_, ?_⟩
        · simp [Header.scopeText, whole]
        · rintro inner ⟨⟩
          exact ⟨List.cons_ne_nil _ _, inside⟩
      case h_2 => cases read
    case h_2 =>
      cases read
      exact ⟨none, rfl, fun inner member => absurd member (Option.not_mem_none inner)⟩
  · rintro ⟨scope, rfl, named⟩
    cases scope with
    | none => rfl
    | some inner =>
        obtain ⟨nonempty, inside⟩ := named inner rfl
        have close : Text.Stops isScopeChar (')' :: ':' :: rest) := Text.stops_cons (by decide)
        have cut := Text.span_append inside close
        obtain ⟨first, others, rfl⟩ := List.exists_cons_of_ne_nil nonempty
        simp only [Header.scopeText, List.cons_append, List.append_assoc, List.nil_append] at cut ⊢
        simp only [afterScope?, cut]

theorem isDescription_iff {text : List Char} :
    isDescription text = true ↔
      ∃ description, text = ':' :: ' ' :: description ∧ description ≠ [] ∧ '\r' ∉ description := by
  constructor
  · intro described
    unfold isDescription at described
    split at described
    case h_1 first rest =>
      exact ⟨first :: rest, rfl, List.cons_ne_nil _ _, by simpa using described⟩
    case h_2 => cases described
  · rintro ⟨description, rfl, nonempty, oneLine⟩
    obtain ⟨first, rest, rfl⟩ := List.exists_cons_of_ne_nil nonempty
    simpa [isDescription] using oneLine

/-- The rule accepts the conventional headers and no others. -/
theorem accepts_iff {header : List Char} : accepts header = true ↔ IsConventional header := by
  have parts : accepts header = true ↔ ∃ behind rest, afterType? header = some behind ∧
      afterScope? behind = some rest ∧ isDescription rest = true := by
    rw [accepts]
    cases afterType? header with
    | none => simp
    | some behind => cases bounded : afterScope? behind <;> simp [bounded]
  rw [parts]
  constructor
  · rintro ⟨behind, rest, typed, bounded, described⟩
    obtain ⟨description, rfl, nonempty, oneLine⟩ := isDescription_iff.mp described
    obtain ⟨scope, rfl, named⟩ := afterScope?_eq_colon_iff.mp bounded
    obtain ⟨type, cut, known⟩ := afterType?_eq_some_iff.mp typed
    exact ⟨type, scope, description, cut, known, named, nonempty, oneLine⟩
  · rintro ⟨type, scope, description, cut, known, named, nonempty, oneLine⟩
    exact ⟨_, _, afterType?_eq_some_iff.mpr ⟨type, cut, known⟩,
      afterScope?_eq_colon_iff.mpr ⟨scope, rfl, named⟩,
      isDescription_iff.mpr ⟨description, rfl, nonempty, oneLine⟩⟩

instance (header : List Char) : Decidable (IsConventional header) :=
  decidable_of_iff (accepts header = true) accepts_iff

end CommitLint.Conventional
