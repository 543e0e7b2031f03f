import CommitLint.Proofs.Lint.Entries
import CommitLint.Proofs.Lint.Overlaid
import CommitLint.Proofs.Pattern.Ordered

/-!
# Messages left alone

The patterns of a configuration together are one question: whether one of
them that can be read matches somewhere in the message. Their order, their
number and the list that they stand in do not matter, and malformed ones do
not count. Only what is told of malformed ones depends on the order.
-/

namespace CommitLint

section

variable [CharacterNames]

namespace Lint

/-- A pattern that can be read, or whose form is all that is wrong with it. -/
def IsRegular (pattern : Value) : Prop :=
  ∃ content, pattern = .text content ∧
    ∀ fault, Pattern.read content.toList = .error fault → fault = .malformed

theorem isRegular_text {content : String}
    (small : Pattern.read content.toList ≠ .error .repetitionTooLarge)
    (agreeing : Pattern.read content.toList ≠ .error .conflictingFlags) :
    IsRegular (.text content) := by
  refine ⟨content, rfl, fun fault refused => ?_⟩
  cases fault with
  | malformed => rfl
  | repetitionTooLarge => exact absurd refused small
  | conflictingFlags => exact absurd refused agreeing

/-- A pattern can be read, and matches from some place of the message. -/
def Occurs (message : List Char) (pattern : Value) : Prop :=
  ∃ content node, pattern = .text content ∧ Pattern.read content.toList = .ok node ∧
    ∃ start next, start ≤ message.length ∧ node.Matches message.toArray ⟨start, []⟩ next

variable {message : List Char} {pattern : Value} {patterns : List Value}

theorem search_eq_true_iff_occurs :
    search pattern message = .ok (some true) ↔ Occurs message pattern := by
  cases pattern with
  | text content =>
      have found : search (.text content) message = .ok (some true) ↔
          Pattern.search content.toList message = .ok true := by
        rw [search]
        cases Pattern.search content.toList message with
        | ok found => simp
        | error fault => cases fault <;> simp
      rw [found, Pattern.search_eq_true_iff]
      constructor
      · rintro ⟨node, done, matched⟩
        exact ⟨content, node, rfl, done, matched⟩
      · rintro ⟨_, node, ⟨⟩, done, matched⟩
        exact ⟨node, done, matched⟩
  | _ =>
      refine iff_of_false (fun searched => ?_) ?_
      · simp only [search] at searched
        split at searched <;> cases searched
      · rintro ⟨content, node, same, -⟩
        cases same

theorem Occurs.isMalformed_eq_false (occurs : Occurs message pattern) :
    isMalformed pattern = false := by
  obtain ⟨content, node, rfl, done, -⟩ := occurs
  rw [← Bool.not_eq_true, isMalformed_text_iff, done]
  nofun

/-- The search goes on behind every pattern that is regular, unless it is found. -/
theorem passes_iff_of_isRegular (regular : IsRegular pattern) :
    passes message pattern = true ↔ ¬ Occurs message pattern := by
  rw [passes_iff, ← search_eq_true_iff_occurs]
  obtain ⟨content, rfl, onlyForm⟩ := regular
  cases done : Pattern.read content.toList with
  | ok node =>
      have formed : ¬ isMalformed (.text content) = true := by
        rw [isMalformed_text_iff, done]
        nofun
      rw [search_of_read done]
      simp [formed]
  | error fault =>
      have malformed : Pattern.read content.toList = .error .malformed := by
        rw [done, onlyForm fault done]
      rw [search_of_malformed malformed]
      simp [isMalformed_text_iff.mpr malformed]

/-- Nothing interrupts the search for regular patterns, and it answers whether one is found. -/
theorem isIgnored_of_isRegular (regular : ∀ pattern ∈ patterns, IsRegular pattern) :
    ∃ found, (isIgnored message patterns).value = .ok found ∧
      (found = true ↔ ∃ pattern ∈ patterns, Occurs message pattern) := by
  have texts : ∀ pattern ∈ patterns, ∃ content, pattern = .text content := by
    intro pattern member
    obtain ⟨content, text, -⟩ := regular pattern member
    exact ⟨content, text⟩
  have uninterrupted : ∀ reason, ¬ Interrupted message patterns reason := by
    intro reason interrupted
    induction interrupted with
    | here refused grave =>
        obtain ⟨content, same, onlyForm⟩ := regular _ List.mem_cons_self
        cases same
        exact grave (onlyForm _ refused)
    | later _ _ ih =>
        obtain ⟨-, others⟩ := List.forall_mem_cons.mp regular
        exact ih others (List.forall_mem_cons.mp texts).2
  cases searched : (isIgnored message patterns).value with
  | error fault =>
      obtain ⟨reason, -, interrupted⟩ := (isIgnored_eq_error_iff texts).mp searched
      exact absurd interrupted (uninterrupted reason)
  | ok found =>
      refine ⟨found, rfl, ?_⟩
      have passed : found = false ↔ ∀ pattern ∈ patterns, ¬ Occurs message pattern := by
        rw [← forall₂_congr fun pattern member => passes_iff_of_isRegular (regular pattern member),
          ← isIgnored_eq_false_iff, searched, Except.ok.injEq]
      rw [← Bool.not_eq_false, passed]
      simp only [not_forall, not_not, exists_prop]

/-- The search comes to the first pattern that is found, and no further. -/
theorem takeWhile_passes {before later : List Value}
    (regular : ∀ pattern ∈ before ++ later, IsRegular pattern)
    (unfound : ∀ pattern ∈ before, ¬ Occurs message pattern)
    (ended : ∀ pattern ∈ later.head?, Occurs message pattern) :
    (before ++ later).takeWhile (passes message) = before := by
  obtain ⟨front, back⟩ := List.forall_mem_append.mp regular
  have passed : ∀ pattern ∈ before, passes message pattern = true := fun pattern member =>
    (passes_iff_of_isRegular (front pattern member)).mpr (unfound pattern member)
  rw [List.takeWhile_append_of_pos passed]
  cases later with
  | nil => rw [List.takeWhile_nil, List.append_nil]
  | cons first rest =>
      have stays : ¬ passes message first = true := fun passed =>
        (passes_iff_of_isRegular (back first List.mem_cons_self)).mp passed (ended first rfl)
      rw [List.takeWhile_cons_of_neg stays, List.append_nil]

/-- A pattern that is found is found among more patterns. -/
theorem Occurs.among {others : List Value}
    (more : ∀ pattern, isMalformed pattern = false → pattern ∈ patterns → pattern ∈ others)
    (found : ∃ pattern ∈ patterns, Occurs message pattern) :
    ∃ pattern ∈ others, Occurs message pattern := by
  obtain ⟨pattern, member, occurs⟩ := found
  exact ⟨pattern, more pattern occurs.isMalformed_eq_false member, occurs⟩

omit [CharacterNames] in
/-- No entry tells that a message is left alone. -/
theorem ignored_not_mem_evaluate {rules : List Rule} {message : String} {verbose : Bool}
    (entries : Entries) : Event.ignored ∉ (evaluate rules message verbose entries).events :=
  fun told => Bool.false_ne_true (evaluate_events told)

end Lint

/-- A message in which nothing is found wrong, whatever the rules are and however they are set. -/
def Config.LeavesAlone (config : Config) (message : String) : Prop :=
  ∀ entries rules asked,
    (lint { config with rules := entries } rules message asked).value = .ok .clean

variable {config : Config} {message : String}

/-- With regular patterns, linting comes down to whether one of them is found. -/
theorem lint_of_isRegular (regular : ∀ pattern ∈ config.allIgnores, Lint.IsRegular pattern)
    (message : String) :
    ∃ found, (found = true ↔ ∃ pattern ∈ config.allIgnores, Lint.Occurs message.toList pattern) ∧
      (∀ entries rules asked,
        (lint { config with rules := entries } rules message asked).value =
          .ok (if found then .clean
            else (Lint.evaluate rules message (config.effectiveVerbose asked) entries).value)) ∧
      ∀ rules, .ignored ∈ (lint config rules message (some true)).events ↔ found = true := by
  obtain ⟨found, searched, known⟩ := @Lint.isIgnored_of_isRegular _ message.toList _ regular
  refine ⟨found, known, fun entries rules asked => ?_, fun rules => ?_⟩
  · have same : (Lint.isIgnored message.toList
        (Config.allIgnores { config with rules := entries })).value = .ok found := searched
    rw [lint_value, same]
    rfl
  · have unnamed : Event.ignored ∉ (Lint.isIgnored message.toList config.allIgnores).events := by
      rw [Lint.isIgnored_events]
      simp
    rw [lint]
    cases found with
    | true => simp [searched, Config.effectiveVerbose]
    | false => simp [searched, unnamed, Lint.ignored_not_mem_evaluate]

omit [CharacterNames] in
/-- A rule that always fails tells a message that is linted from one that is not. -/
theorem exists_report (message : String) (verbose : Bool) :
    ∃ entries rules, (Lint.evaluate rules message verbose entries).value ≠ .clean := by
  refine ⟨[(.text "always", .int 2)], [(Behaviour.fail (some "refused")).toRule "always"], ?_⟩
  have reported : (Lint.evaluate [(Behaviour.fail (some "refused")).toRule "always"] message verbose
      [(.text "always", .int 2)]).value = ⟨["refused"], []⟩ := rfl
  rw [reported]
  nofun

end

end CommitLint
