import CommitLint.Proofs.Text.Runs
import CommitLint.Text.Blank

/-!
# Trimming

A trimmed text is the text without blanks in front and at the end, and
nothing else is taken from it. A text keeps its end exactly if its last
character is no blank.
-/

namespace CommitLint.Text

/-- What is left of a text when the blanks at both its ends are gone. -/
structure IsTrimmed (text kept : List Char) : Prop where
  cut : ∃ before after, text = before ++ kept ++ after ∧
    allBlank before = true ∧ allBlank after = true
  front : ∀ c ∈ kept.head?, isBlank c = false
  back : ∀ c ∈ kept.getLast?, isBlank c = false

/-- There is a last character, and it is a blank. -/
def EndsBlank (text : List Char) : Prop :=
  ∃ c ∈ text.getLast?, isBlank c = true

theorem not_endsBlank_iff {text : List Char} :
    ¬ EndsBlank text ↔ ∀ c ∈ text.getLast?, isBlank c = false := by
  simp [EndsBlank]

theorem trimRight_cons_of_nil {first : Char} {rest : List Char} (gone : trimRight rest = []) :
    trimRight (first :: rest) = if isBlank first then [] else [first] := by
  simp only [trimRight, gone]

theorem trimRight_cons_of_ne_nil {first : Char} {rest : List Char} (kept : trimRight rest ≠ []) :
    trimRight (first :: rest) = first :: trimRight rest := by
  cases stays : trimRight rest with
  | nil => exact absurd stays kept
  | cons next tail => simp only [trimRight, stays]

theorem trimRight_append (text : List Char) :
    ∃ after, text = trimRight text ++ after ∧ allBlank after = true := by
  induction text with
  | nil => exact ⟨[], rfl, rfl⟩
  | cons first rest ih =>
      obtain ⟨after, cut, blank⟩ := ih
      by_cases gone : trimRight rest = []
      · rw [trimRight_cons_of_nil gone]
        rw [gone, List.nil_append] at cut
        by_cases head : isBlank first = true
        · refine ⟨first :: rest, by rw [if_pos head, List.nil_append], ?_⟩
          rw [allBlank, List.all_cons, head, Bool.true_and, cut]
          exact blank
        · exact ⟨rest, by rw [if_neg head, List.singleton_append], cut ▸ blank⟩
      · rw [trimRight_cons_of_ne_nil gone]
        exact ⟨after, by rw [List.cons_append, ← cut], blank⟩

theorem trimRight_back (text : List Char) :
    ∀ c ∈ (trimRight text).getLast?, isBlank c = false := by
  induction text with
  | nil =>
      intro c last
      cases last
  | cons first rest ih =>
      by_cases gone : trimRight rest = []
      · rw [trimRight_cons_of_nil gone]
        by_cases head : isBlank first = true
        · intro c last
          rw [if_pos head] at last
          cases last
        · intro c last
          rw [if_neg head] at last
          cases last
          simpa using head
      · rw [trimRight_cons_of_ne_nil gone]
        intro c last
        rw [List.getLast?_cons_of_ne_nil gone] at last
        exact ih c last

theorem trimRight_eq_self_iff (text : List Char) :
    trimRight text = text ↔ ¬ EndsBlank text := by
  constructor
  · rintro same ⟨c, last, blank⟩
    have outside := trimRight_back text c (same.symm ▸ last)
    rw [blank] at outside
    cases outside
  · intro solid
    obtain ⟨after, cut, blank⟩ := trimRight_append text
    cases tail : after.getLast? with
    | none =>
        rw [List.getLast?_eq_none_iff.mp tail, List.append_nil] at cut
        exact cut.symm
    | some c =>
        refine absurd ⟨c, ?_, ?_⟩ solid
        · rw [cut, List.getLast?_append, tail]
          rfl
        · exact List.all_eq_true.mp blank c (List.mem_of_getLast? tail)

theorem trimRight_front {text : List Char} (front : Stops isBlank text) :
    Stops isBlank (trimRight text) := by
  cases text with
  | nil => exact stops_nil isBlank
  | cons first rest =>
      have outside := front first rfl
      by_cases gone : trimRight rest = []
      · rw [trimRight_cons_of_nil gone, if_neg (by rw [outside]; exact Bool.false_ne_true)]
        exact stops_cons outside
      · rw [trimRight_cons_of_ne_nil gone]
        exact stops_cons outside

theorem trim_isTrimmed (text : List Char) : IsTrimmed text (trim text) := by
  obtain ⟨whole, inside, stops⟩ := longest_run isBlank text
  obtain ⟨after, kept, blank⟩ := trimRight_append (trimLeft text)
  refine ⟨⟨text.takeWhile isBlank, after, ?_, List.all_eq_true.mpr inside, blank⟩,
    trimRight_front stops, trimRight_back _⟩
  rw [List.append_assoc, trim, ← kept]
  exact whole

/-- Blanks behind a text are taken off together with those at its end. -/
theorem trimRight_append_blank (text : List Char) {after : List Char}
    (blank : allBlank after = true) : trimRight (text ++ after) = trimRight text := by
  induction text with
  | nil => exact (trimRight_eq_nil_iff after).mpr blank
  | cons first rest ih => simp only [List.cons_append, trimRight, ih]

/-- Trimming finds the only text that the blanks at both ends can leave. -/
theorem isTrimmed_iff {text kept : List Char} : IsTrimmed text kept ↔ trim text = kept := by
  constructor
  · rintro ⟨⟨before, after, rfl, blank, blank'⟩, front, back⟩
    have left : trimLeft (before ++ kept ++ after) = trimLeft (kept ++ after) := by
      rw [List.append_assoc]
      exact List.dropWhile_append_of_pos (List.all_eq_true.mp blank)
    have right := trimRight_append_blank kept blank'
    rw [(trimRight_eq_self_iff kept).mpr (not_endsBlank_iff.mpr back)] at right
    rw [trim, left]
    cases kept with
    | nil =>
        have gone : trimLeft after = [] :=
          List.dropWhile_eq_nil_iff.mpr (List.all_eq_true.mp blank')
        rw [List.nil_append, gone]
        rfl
    | cons first rest =>
        rw [List.cons_append, trimLeft, List.dropWhile_cons_of_neg (by simp [front first rfl])]
        exact right
  · rintro rfl
    exact trim_isTrimmed text

/-- What is blank adds nothing behind a text. -/
theorem IsTrimmed.append_blank {text kept tail : List Char} (trimmed : IsTrimmed text kept)
    (blankTail : allBlank tail = true) : IsTrimmed (text ++ tail) kept := by
  obtain ⟨⟨before, after, rfl, blank, blank'⟩, front, back⟩ := trimmed
  refine ⟨⟨before, after ++ tail, List.append_assoc _ _ _, blank, ?_⟩, front, back⟩
  rw [allBlank, List.all_append]
  exact Bool.and_eq_true_iff.mpr ⟨blank', blankTail⟩

/-- Nothing is left of a text exactly if it is blank. -/
theorem trim_eq_nil_iff {text : List Char} : trim text = [] ↔ allBlank text = true := by
  constructor
  · intro gone
    obtain ⟨before, after, cut, blank, blank'⟩ := (trim_isTrimmed text).cut
    rw [cut, gone, List.append_nil, allBlank, List.all_append]
    exact Bool.and_eq_true_iff.mpr ⟨blank, blank'⟩
  · intro nothing
    exact isTrimmed_iff.mp ⟨⟨text, [], by simp, nothing, rfl⟩, by simp, by simp⟩

theorem trim_eq_self {text : List Char} (front : Stops isBlank text)
    (back : ¬ EndsBlank text) : trim text = text := by
  have whole : text = [] ++ text ++ [] := (List.append_nil text).symm
  exact isTrimmed_iff.mp ⟨⟨[], [], whole, rfl, rfl⟩, front, not_endsBlank_iff.mp back⟩

theorem trim_blank_cons {first : Char} (blank : isBlank first = true) (rest : List Char) :
    trim (first :: rest) = trim rest := by
  rw [trim, trimLeft, List.dropWhile_cons_of_pos blank]
  rfl

end CommitLint.Text
