import CommitLint.Proofs.Text.Trim
import CommitLint.Proofs.Text.UpperCase
import CommitLint.Value.Literal

/-!
# Values that name a severity

A severity is named by itself, by its rank and by its word, whatever blanks
stand around the word and in whatever case its letters are. Two words are
taken besides, because a letter from outside the basic alphabet has capitals
of it as upper case. Nothing else names a severity.
-/

namespace CommitLint

/-- A text is a word of small letters, but for the blanks around it and the case of its letters. -/
def Text.Spells (text : List Char) (word : String) : Prop :=
  ∃ kept, IsTrimmed text kept ∧ kept.map toAsciiLower = word.toList

theorem Text.spells_iff {text : List Char} {word : String} :
    Spells text word ↔ (trim text).map toAsciiLower = word.toList := by
  constructor
  · rintro ⟨kept, trimmed, same⟩
    rw [isTrimmed_iff.mp trimmed]
    exact same
  · exact fun same => ⟨trim text, trim_isTrimmed text, same⟩

namespace Severity

/-- The word that names a severity. -/
def word : Severity → String
  | .off => "off"
  | .warning => "warning"
  | .error => "error"

/-- Another word with the name of the severity as its upper case: one letter stands for the two at
the end, or the `i` has no dot. -/
def disguise? : Severity → Option String
  | .off => some "o\ufb00"
  | .warning => some "warn\u0131ng"
  | .error => none

variable {text : List Char}

open Text (upperAscii IsCapital asciiUpperTable)

theorem eq_off_of_upperAscii (small : ∀ c ∈ text, ¬ IsCapital c)
    (upper : upperAscii text = "OFF".toList) :
    text = "off".toList ∨ text = "o\ufb00".toList := by
  have shared : IsCapital 'F' := ⟨by decide, by decide⟩
  have single : ∀ entry ∈ asciiUpperTable, entry.2 ≠ ['F'] := by decide
  have paired : ∀ entry ∈ asciiUpperTable,
      entry.2 = ['F', 'F'] → entry.1 = '\ufb00'.toNat := by
    decide
  have name : "OFF".toList = ['O'] ++ ['F', 'F'] := rfl
  obtain ⟨tail, rfl, pair⟩ := Text.upperAscii_eq_append (by decide) small (upper.trans name)
  have smallTail := (List.forall_mem_append.mp small).2
  obtain ⟨c, rest, rfl, ⟨rfl, last⟩ | ⟨more, listed, last⟩⟩ :=
    Text.upperAscii_eq_cons smallTail shared pair
  · have smallRest := (List.forall_mem_cons.mp smallTail).2
    obtain ⟨d, rest, rfl, ⟨rfl, none⟩ | ⟨more, listed, none⟩⟩ :=
      Text.upperAscii_eq_cons smallRest shared last
    · rw [Text.upperAscii_eq_nil none]
      exact .inl rfl
    · obtain ⟨rfl, -⟩ := List.append_eq_nil_iff.mp none
      exact absurd rfl (single _ listed)
  · cases more with
    | nil => exact absurd rfl (single _ listed)
    | cons second more =>
        obtain ⟨rfl, none⟩ := List.cons.inj last
        obtain ⟨rfl, none⟩ := List.append_eq_nil_iff.mp none
        rw [Char.toNat_inj.mp (paired _ listed rfl), Text.upperAscii_eq_nil none]
        exact .inr rfl

theorem eq_warning_of_upperAscii (small : ∀ c ∈ text, ¬ IsCapital c)
    (upper : upperAscii text = "WARNING".toList) :
    text = "warning".toList ∨ text = "warn\u0131ng".toList := by
  have shared : IsCapital 'I' := ⟨by decide, by decide⟩
  have dotless : ∀ entry ∈ asciiUpperTable,
      entry.2.head? = some 'I' → entry = ('\u0131'.toNat, ['I']) := by
    decide
  have name : "WARNING".toList = "WARN".toList ++ ['I', 'N', 'G'] := rfl
  obtain ⟨tail, rfl, behind⟩ := Text.upperAscii_eq_append (by decide) small (upper.trans name)
  have smallTail := (List.forall_mem_append.mp small).2
  obtain ⟨c, rest, rfl, either⟩ := Text.upperAscii_eq_cons smallTail shared behind
  have smallRest := (List.forall_mem_cons.mp smallTail).2
  rcases either with ⟨rfl, last⟩ | ⟨more, listed, last⟩
  · rw [Text.upperAscii_eq (by decide) smallRest last]
    exact .inl rfl
  · obtain ⟨code, alone⟩ := Prod.mk.inj (dotless _ listed rfl)
    obtain ⟨-, rfl⟩ := List.cons.inj alone
    rw [Char.toNat_inj.mp code, Text.upperAscii_eq (by decide) smallRest last]
    exact .inr rfl

/-- The name of a severity is the upper case of its word, and of its disguise, in any case. -/
theorem upperAscii_eq_name_iff (severity : Severity) :
    upperAscii text = severity.name.toList ↔
      text.map Text.toAsciiLower = severity.word.toList ∨
        ∃ disguise ∈ severity.disguise?, text.map Text.toAsciiLower = disguise.toList := by
  have small : ∀ c ∈ text.map Text.toAsciiLower, ¬ IsCapital c := by
    intro c member
    obtain ⟨source, -, rfl⟩ := List.mem_map.mp member
    exact Text.not_isCapital_toAsciiLower source
  rw [← Text.upperAscii_map_toAsciiLower]
  constructor
  · intro upper
    cases severity with
    | off => simpa [word, disguise?] using eq_off_of_upperAscii small upper
    | warning => simpa [word, disguise?] using eq_warning_of_upperAscii small upper
    | error => exact .inl (Text.upperAscii_eq (by decide) small upper)
  · rintro (same | ⟨disguise, member, same⟩)
    · rw [same]
      cases severity <;> rfl
    · rw [same]
      cases severity with
      | off => cases member; rfl
      | warning => cases member; rfl
      | error => cases member

theorem ofRank?_eq_some_iff {rank : Int} {severity : Severity} :
    ofRank? rank = some severity ↔ rank = severity.rank := by
  constructor
  · intro found
    have same := List.find?_some found
    exact (beq_iff_eq.mp same).symm
  · rintro rfl
    exact ofRank?_rank severity

theorem ofWord?_eq_some_iff {text : List Char} {severity : Severity} :
    ofWord? text = some severity ↔ upperAscii (Text.trim text) = severity.name.toList := by
  constructor
  · intro found
    have same := List.find?_some found
    exact (beq_iff_eq.mp same).symm
  · intro upper
    rw [ofWord?, upper]
    cases severity <;> rfl

end Severity

namespace Value

/-- What is documented to name a severity. -/
inductive Names : Value → Severity → Prop where
  | itself (severity : Severity) : Names (.severity severity) severity
  | rank (severity : Severity) : Names (.int severity.rank) severity
  | word {content : String} {severity : Severity}
      (spelled : Text.Spells content.toList severity.word) : Names (.text content) severity

/-- A text that spells another word with the same upper case. -/
inductive Disguises : Value → Severity → Prop where
  | word {content disguise : String} {severity : Severity}
      (alike : disguise ∈ severity.disguise?)
      (spelled : Text.Spells content.toList disguise) : Disguises (.text content) severity

/-- A text denotes a severity by its word or by another one with the same upper case. -/
theorem toSeverity?_text_eq_some_iff {content : String} {severity : Severity} :
    (Value.text content).toSeverity? = some severity ↔
      Text.Spells content.toList severity.word ∨
        ∃ disguise ∈ severity.disguise?, Text.Spells content.toList disguise := by
  simp only [toSeverity?, Severity.ofWord?_eq_some_iff, Severity.upperAscii_eq_name_iff,
    Text.spells_iff]

/--
A value denotes a severity exactly if it names it, or is a text that spells
the disguise of its word. Every other value denotes none: any other number
or text, the truth values, and the values of all other kinds.
-/
theorem toSeverity?_eq_some_iff (value : Value) :
    (∀ severity, value.toSeverity? = some severity ↔
      value.Names severity ∨ value.Disguises severity) ∧
    (value.toSeverity? = none ↔
      ∀ severity, ¬ value.Names severity ∧ ¬ value.Disguises severity) := by
  have denotes : ∀ severity, value.toSeverity? = some severity ↔
      value.Names severity ∨ value.Disguises severity := by
    intro severity
    cases value with
    | severity level =>
        constructor
        · intro same
          cases same
          exact .inl (.itself severity)
        · rintro (named | disguised)
          · cases named
            rfl
          · cases disguised
    | int number =>
        rw [toSeverity?, Severity.ofRank?_eq_some_iff]
        constructor
        · rintro rfl
          exact .inl (.rank severity)
        · rintro (named | disguised)
          · cases named
            rfl
          · cases disguised
    | text content =>
        rw [toSeverity?_text_eq_some_iff]
        constructor
        · rintro (spelled | ⟨disguise, alike, spelled⟩)
          · exact .inl (.word spelled)
          · exact .inr (.word alike spelled)
        · rintro (named | disguised)
          · cases named with
            | word spelled => exact .inl spelled
          · cases disguised with
            | word alike spelled => exact .inr ⟨_, alike, spelled⟩
    | _ =>
        refine iff_of_false nofun ?_
        rintro (named | disguised)
        · cases named
        · cases disguised
  refine ⟨denotes, ?_⟩
  rw [Option.eq_none_iff_forall_ne_some]
  simp only [ne_eq, denotes, not_or]

/-- Words that are none of the three and yet denote a severity. -/
theorem toSeverity?_disguised :
    (Value.text "warn\u0131ng").toSeverity? = some .warning ∧
      (Value.text "o\ufb00").toSeverity? = some .off ∧
      ∀ severity, ¬ (Value.text "warn\u0131ng").Names severity ∧
        ¬ (Value.text "o\ufb00").Names severity := by
  refine ⟨by decide, by decide, fun severity => ⟨?_, ?_⟩⟩
  · intro named
    cases named with
    | word spelled => cases severity <;> exact absurd (Text.spells_iff.mp spelled) (by decide)
  · intro named
    cases named with
    | word spelled => cases severity <;> exact absurd (Text.spells_iff.mp spelled) (by decide)

end Value

end CommitLint
