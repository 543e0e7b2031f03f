import CommitLint.Lint

/-!
# Patterns on the way

The patterns of a configuration are searched for in turn. One that is not
found, or that is malformed, is passed; the first one that is not passed
decides. It is found, or it cannot be searched for at all, and then nothing
else is done with the message.
-/

namespace CommitLint

/-- The event of a malformed pattern. -/
def Event.isInvalidPattern : Event → Bool
  | .invalidPattern _ _ => true
  | _ => false

namespace Lint

variable [CharacterNames]

/-- A pattern that cannot be read for its form. -/
def isMalformed : Value → Bool
  | .text content =>
      match Pattern.read content.toList with
      | .error .malformed => true
      | _ => false
  | _ => false

/-- The search goes on behind a pattern that is not found or that is malformed. -/
def passes (message : List Char) (pattern : Value) : Bool :=
  match search pattern message with
  | .ok (some false) => true
  | .ok none => true
  | _ => false

/-- The search comes to a pattern that cannot be read for a reason other than its form. -/
inductive Interrupted (message : List Char) : List Value → Pattern.Fault → Prop where
  | here {content : String} {rest : List Value} {reason : Pattern.Fault}
      (refused : Pattern.read content.toList = .error reason) (grave : reason ≠ .malformed) :
      Interrupted message (.text content :: rest) reason
  | later {pattern : Value} {rest : List Value} {reason : Pattern.Fault}
      (passed : passes message pattern = true) (further : Interrupted message rest reason) :
      Interrupted message (pattern :: rest) reason

variable {message : List Char} {content : String}

theorem search_of_read {node : Pattern.Node} (read : Pattern.read content.toList = .ok node) :
    search (.text content) message = .ok (some (node.found message)) := by
  simp only [search, Pattern.search, read, Except.map]

theorem search_of_malformed (read : Pattern.read content.toList = .error .malformed) :
    search (.text content) message = .ok none := by
  simp only [search, Pattern.search, read, Except.map]

theorem search_of_refused {reason : Pattern.Fault}
    (read : Pattern.read content.toList = .error reason) (grave : reason ≠ .malformed) :
    search (.text content) message = .error (.pattern reason) := by
  cases reason with
  | malformed => exact absurd rfl grave
  | repetitionTooLarge => simp only [search, Pattern.search, read, Except.map]
  | conflictingFlags => simp only [search, Pattern.search, read, Except.map]

theorem isMalformed_text_iff : isMalformed (.text content) = true ↔
    Pattern.read content.toList = .error .malformed := by
  rw [isMalformed]
  split
  case h_1 read => exact ⟨fun _ => read, fun _ => rfl⟩
  case h_2 other => exact ⟨(absurd · Bool.false_ne_true), (absurd · other)⟩

/-- A search ends without an answer exactly for a malformed pattern. -/
theorem search_eq_none_iff {pattern : Value} :
    search pattern message = .ok none ↔ isMalformed pattern = true := by
  cases pattern with
  | text content =>
      rw [isMalformed_text_iff]
      constructor
      · intro searched
        cases read : Pattern.read content.toList with
        | ok node =>
            rw [search_of_read read] at searched
            cases searched
        | error reason =>
            by_cases grave : reason = .malformed
            · rw [grave]
            · rw [search_of_refused read grave] at searched
              cases searched
      · exact search_of_malformed
  | _ =>
      simp only [search, isMalformed]
      split <;> simp

theorem isIgnored_of_not_found {pattern : Value} (rest : List Value)
    (searched : search pattern message = .ok (some false)) :
    isIgnored message (pattern :: rest) = isIgnored message rest := by
  rw [isIgnored, searched]

theorem isIgnored_of_malformed {pattern : Value} (rest : List Value)
    (searched : search pattern message = .ok none) :
    isIgnored message (pattern :: rest) =
      .after (.invalidPattern pattern.display .malformed) (isIgnored message rest) := by
  rw [isIgnored, searched]

theorem isIgnored_of_not_passes {pattern : Value} (rest : List Value)
    (stays : passes message pattern = false) :
    isIgnored message (pattern :: rest) =
      .quiet ((search pattern message).map fun _ => true) := by
  rw [passes] at stays
  rw [isIgnored]
  cases searched : search pattern message with
  | error fault => rfl
  | ok found =>
      rw [searched] at stays
      cases found with
      | none => cases stays
      | some answer =>
          cases answer with
          | true => rfl
          | false => cases stays

theorem passes_iff {pattern : Value} :
    passes message pattern = true ↔
      search pattern message = .ok (some false) ∨ isMalformed pattern = true := by
  have unanswered : search pattern message = .ok none ↔ isMalformed pattern = true :=
    search_eq_none_iff
  rw [← unanswered, passes]
  split
  case h_1 searched => simp [searched]
  case h_2 searched => simp [searched]
  case h_3 found answered =>
    refine ⟨(absurd · Bool.false_ne_true), ?_⟩
    rintro (absent | malformed)
    · exact absurd absent found
    · exact absurd malformed answered

/-- The value does not depend on the patterns that are passed. -/
theorem isIgnored_value_of_passes {pattern : Value} (rest : List Value)
    (passed : passes message pattern = true) :
    (isIgnored message (pattern :: rest)).value = (isIgnored message rest).value := by
  rcases passes_iff.mp passed with absent | malformed
  · rw [isIgnored_of_not_found rest absent]
  · rw [isIgnored_of_malformed rest (search_eq_none_iff.mpr malformed)]
    rfl

theorem isIgnored_filter (patterns : List Value) :
    (isIgnored message (patterns.filter fun pattern => !isMalformed pattern)).value =
      (isIgnored message patterns).value := by
  induction patterns with
  | nil => rfl
  | cons pattern rest ih =>
      by_cases malformed : isMalformed pattern = true
      · rw [List.filter_cons_of_neg (by simp [malformed]), ih]
        exact (isIgnored_value_of_passes rest (passes_iff.mpr (.inr malformed))).symm
      · rw [List.filter_cons_of_pos (by simp [malformed])]
        by_cases passed : passes message pattern = true
        · rw [isIgnored_value_of_passes _ passed, isIgnored_value_of_passes _ passed, ih]
        · have stays : passes message pattern = false := Bool.of_not_eq_true passed
          rw [isIgnored_of_not_passes _ stays, isIgnored_of_not_passes _ stays]

/-- Every malformed pattern that the search comes to is told of, and nothing else. -/
theorem isIgnored_events (patterns : List Value) :
    (isIgnored message patterns).events =
      ((patterns.takeWhile (passes message)).filter isMalformed).map fun pattern =>
        .invalidPattern pattern.display .malformed := by
  induction patterns with
  | nil => rfl
  | cons pattern rest ih =>
      by_cases passed : passes message pattern = true
      · rw [List.takeWhile_cons_of_pos passed]
        by_cases malformed : isMalformed pattern = true
        · rw [isIgnored_of_malformed rest (search_eq_none_iff.mpr malformed),
            List.filter_cons_of_pos malformed, List.map_cons, ← ih]
          rfl
        · rw [isIgnored_of_not_found rest ((passes_iff.mp passed).resolve_right malformed),
            List.filter_cons_of_neg malformed, ih]
      · have stays : passes message pattern = false := Bool.of_not_eq_true passed
        rw [isIgnored_of_not_passes rest stays, List.takeWhile_cons_of_neg passed]
        rfl

theorem isIgnored_events_filter (patterns : List Value) :
    (isIgnored message patterns).events.filter Event.isInvalidPattern =
      (isIgnored message patterns).events := by
  rw [isIgnored_events, List.filter_eq_self]
  intro event told
  obtain ⟨pattern, -, rfl⟩ := List.mem_map.mp told
  rfl

/-- Patterns that are texts keep a message from being linted only by an interruption. -/
theorem isIgnored_eq_error_iff {patterns : List Value} {fault : LintFault}
    (texts : ∀ pattern ∈ patterns, ∃ content, pattern = .text content) :
    (isIgnored message patterns).value = .error fault ↔
      ∃ reason, fault = .pattern reason ∧ Interrupted message patterns reason := by
  induction patterns with
  | nil =>
      constructor
      · intro impossible
        cases impossible
      · rintro ⟨reason, -, interrupted⟩
        cases interrupted
  | cons pattern rest ih =>
      obtain ⟨⟨content, rfl⟩, others⟩ := List.forall_mem_cons.mp texts
      by_cases passed : passes message (.text content) = true
      · rw [isIgnored_value_of_passes rest passed, ih others]
        constructor
        · rintro ⟨reason, same, further⟩
          exact ⟨reason, same, .later passed further⟩
        · rintro ⟨reason, same, interrupted⟩
          cases interrupted with
          | later _ further => exact ⟨reason, same, further⟩
          | here refused grave =>
              rw [passes, search_of_refused refused grave] at passed
              cases passed
      · rw [isIgnored_of_not_passes rest (Bool.of_not_eq_true passed)]
        cases read : Pattern.read content.toList with
        | ok node =>
            rw [search_of_read read]
            constructor
            · intro impossible
              cases impossible
            · rintro ⟨reason, -, interrupted⟩
              cases interrupted with
              | here refused => cases read.symm.trans refused
              | later kept => exact absurd kept passed
        | error reason =>
            have grave : reason ≠ .malformed := by
              rintro rfl
              exact passed (passes_iff.mpr (.inr (isMalformed_text_iff.mpr read)))
            rw [search_of_refused read grave]
            constructor
            · intro same
              cases same
              exact ⟨reason, rfl, .here read grave⟩
            · rintro ⟨other, rfl, interrupted⟩
              cases interrupted with
              | here refused =>
                  cases read.symm.trans refused
                  rfl
              | later kept => exact absurd kept passed

end Lint

end CommitLint
