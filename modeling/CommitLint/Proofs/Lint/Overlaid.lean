import CommitLint.Config.Overlay
import CommitLint.Proofs.Lint.Patterns
import CommitLint.Proofs.Lint.Rounds
import CommitLint.Rule.Builtin
import Mathlib.Control.Monad.Basic

/-!
# Linting with an overlaid default

A configuration laid over the default has texts for patterns. What it says
wrongly is passed over: a malformed pattern, an entry for an unknown rule or
at a level that is none, and an entry whose rule breaks down all leave the
diagnostics as they would be without them. Only a pattern that cannot be read
for a reason other than its form interrupts the linting.
-/

namespace CommitLint

namespace Lint

/-- A round that adds no report: its rule is unknown, its level is no severity or off, or its rule
breaks down. -/
def isSkipped (rules : List Rule) (message : String) (setting : Value × RuleEntry) : Bool :=
  match lookup rules setting.1 with
  | none => true
  | some rule =>
      match setting.2.level.toSeverity? with
      | none => true
      | some .off => true
      | some _ => (rule.validate message setting.2.options).verdict == .raised

variable {rules : List Rule} {message : String} {verbose : Bool}

theorem added_of_isSkipped {setting : Value × RuleEntry}
    (skipped : isSkipped rules message setting = true) :
    (added rules message verbose setting.1 setting.2).value = .clean := by
  have adds := added_adds rules message verbose setting.1 setting.2
  generalize added rules message verbose setting.1 setting.2 = part at adds
  cases adds with
  | unknown | unranked | off | raised | valid => rfl
  | warning consulted level verdict =>
      simp [isSkipped, lookup_eq_some_iff.mpr consulted, level, verdict] at skipped
  | error consulted level verdict =>
      simp [isSkipped, lookup_eq_some_iff.mpr consulted, level, verdict] at skipped

/-- What is passed over does not count. -/
theorem total_filter (settings : List (Value × RuleEntry)) :
    (total rules message verbose
      (settings.filter fun setting => !isSkipped rules message setting)).value =
        (total rules message verbose settings).value := by
  induction settings with
  | nil => rfl
  | cons setting rest ih =>
      by_cases skipped : isSkipped rules message setting = true
      · rw [List.filter_cons_of_neg (by simp [skipped]), ih, total_cons, joined]
        dsimp only
        rw [added_of_isSkipped skipped, Diagnostics.clean_append]
      · rw [List.filter_cons_of_pos (by simp [skipped]), total_cons, total_cons, joined, joined]
        dsimp only
        rw [ih]

theorem evaluate_filter (inside : ∀ rule ∈ rules, rule.StaysInside) (entries : Entries) :
    (evaluate rules message verbose
      (entries.filter fun entry =>
        !isSkipped rules message (entry.1, .ofValue entry.2))).value =
          (evaluate rules message verbose entries).value := by
  rw [evaluate_eq_total, evaluate_eq_total, settings_of_staysInside inside,
    settings_of_staysInside inside, ← total_filter (entries.map _), List.filter_map]
  rfl

/-- No entry tells of a pattern. -/
theorem evaluate_events_filter (entries : Entries) :
    (evaluate rules message verbose entries).events.filter Event.isInvalidPattern = [] := by
  refine List.filter_eq_nil_iff.mpr fun event told => ?_
  have ofRound := evaluate_events told
  cases event <;> first | exact Bool.false_ne_true | cases ofRound

end Lint

namespace Config

theorem patternList_text {raw : Entries} {key : String} {below : List Value}
    (texts : ∀ pattern ∈ below, ∃ content, pattern = .text content) :
    ∀ pattern ∈ (patternList raw key below).value, ∃ content, pattern = .text content := by
  intro pattern member
  unfold patternList at member
  split at member
  · exact texts pattern member
  · cases member
  · obtain ⟨item, -, rfl⟩ := List.mem_map.mp member
    exact ⟨item.display, rfl⟩
  · exact texts pattern member

/-- What is laid over a configuration with texts for patterns leaves them texts. -/
theorem overlay_text {raw : Value} {base : Config} {config : Logged Config}
    (texts : ∀ pattern ∈ base.allIgnores, ∃ content, pattern = .text content)
    (accepted : overlay raw base = .ok config) :
    ∀ pattern ∈ config.value.allIgnores, ∃ content, pattern = .text content := by
  unfold overlay at accepted
  split at accepted
  case h_2 => cases accepted
  case h_1 entries =>
    cases rules : overlayRules entries with
    | error fault =>
        rw [rules] at accepted
        cases accepted
    | ok replaced =>
        rw [rules] at accepted
        cases accepted
        intro pattern member
        rcases List.mem_append.mp member with own | general
        · refine patternList_text (fun pattern below => ?_) pattern own
          exact texts pattern (List.mem_append_left _ below)
        · refine patternList_text (fun pattern below => ?_) pattern general
          exact texts pattern (List.mem_append_right _ below)

theorem default_text : ∀ pattern ∈ default.allIgnores, ∃ content, pattern = .text content := by
  simp [default, allIgnores]

/-- The configuration without the patterns that are malformed. -/
def withoutMalformed [CharacterNames] (config : Config) : Config :=
  { config with
    ignores := config.ignores.filter fun pattern => !Lint.isMalformed pattern
    defaultIgnores := config.defaultIgnores.filter fun pattern => !Lint.isMalformed pattern }

/-- The configuration without the entries that report nothing as they are written. -/
def withoutSkipped (config : Config) (rules : List Rule) (message : String) : Config :=
  { config with
    rules := config.rules.filter fun entry =>
      !Lint.isSkipped rules message (entry.1, .ofValue entry.2) }

theorem allIgnores_withoutMalformed [CharacterNames] (config : Config) :
    config.withoutMalformed.allIgnores =
      config.allIgnores.filter fun pattern => !Lint.isMalformed pattern :=
  (List.filter_append _ _).symm

end Config

section

variable [CharacterNames]

theorem lint_value (config : Config) (rules : List Rule) (message : String)
    (asked : Option Bool) :
    (lint config rules message asked).value =
      (Lint.isIgnored message.toList config.allIgnores).value.map fun ignored =>
        if ignored then .clean
        else (Lint.evaluate rules message (config.effectiveVerbose asked) config.rules).value := by
  rw [lint]
  cases found : (Lint.isIgnored message.toList config.allIgnores).value with
  | error fault => rfl
  | ok ignored => cases ignored <;> rfl

theorem lint_value_withoutMalformed (config : Config) (rules : List Rule) (message : String)
    (asked : Option Bool) :
    (lint config.withoutMalformed rules message asked).value =
      (lint config rules message asked).value := by
  rw [lint_value, lint_value, Config.allIgnores_withoutMalformed, Lint.isIgnored_filter]
  rfl

theorem lint_value_withoutSkipped {rules : List Rule}
    (inside : ∀ rule ∈ rules, rule.StaysInside) (config : Config) (message : String)
    (asked : Option Bool) :
    (lint (config.withoutSkipped rules message) rules message asked).value =
      (lint config rules message asked).value := by
  rw [lint_value, lint_value]
  refine congrArg (fun rest => Except.map rest _) (funext fun ignored => ?_)
  rw [Config.withoutSkipped, Lint.evaluate_filter inside]
  rfl

theorem lint_events_filter (config : Config) (rules : List Rule) (message : String)
    (asked : Option Bool) :
    (lint config rules message asked).events.filter Event.isInvalidPattern =
      ((config.allIgnores.takeWhile (Lint.passes message.toList)).filter Lint.isMalformed).map
        fun pattern => .invalidPattern pattern.display .malformed := by
  rw [← Lint.isIgnored_events, lint]
  dsimp only
  split
  · exact Lint.isIgnored_events_filter _
  · rw [List.filter_append, Lint.isIgnored_events_filter]
    split <;> exact List.append_nil _
  · rw [List.filter_append, Lint.isIgnored_events_filter, Lint.evaluate_events_filter,
      List.append_nil]

end

end CommitLint
