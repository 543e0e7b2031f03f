import CommitLint.Proofs.Lint.Patterns
import CommitLint.Proofs.Lint.Rounds
import Mathlib.Control.Monad.Basic

/-!
# Linting entry by entry

What linting reports and logs is what its rounds add, one after the other. A
round adds what its entry gives when it is alone in the configuration, unless
a rule before has changed how the entry reads: the options of a rule are a
copy, but the collections among them are shared.
-/

namespace CommitLint

/-- The configuration with one entry for all its rules. -/
def Config.withOnly (config : Config) (entry : Value × Value) : Config :=
  { config with rules := [entry] }

section

variable [CharacterNames]

namespace Lint

/-- Patterns of which none is found leave the message to the rules, unless one interrupts. -/
theorem isIgnored_ne_true {text : List Char} {patterns : List Value}
    (unmatched : ∀ pattern ∈ patterns, search pattern text ≠ .ok (some true)) :
    (isIgnored text patterns).value ≠ .ok true := by
  induction patterns with
  | nil =>
      intro impossible
      cases impossible
  | cons pattern rest ih =>
      obtain ⟨here, later⟩ := List.forall_mem_cons.mp unmatched
      by_cases passed : passes text pattern = true
      · rw [isIgnored_value_of_passes rest passed]
        exact ih later
      · rw [isIgnored_of_not_passes rest (Bool.of_not_eq_true passed)]
        intro found
        cases searched : search pattern text with
        | error fault =>
            rw [searched] at found
            cases found
        | ok answer =>
            rw [passes, searched] at passed
            rcases answer with _ | _ | _
            · exact passed rfl
            · exact passed rfl
            · exact here searched

theorem isIgnored_eq_false_iff {text : List Char} {patterns : List Value} :
    (isIgnored text patterns).value = .ok false ↔
      ∀ pattern ∈ patterns, passes text pattern = true := by
  induction patterns with
  | nil => simp [isIgnored, Logged.quiet]
  | cons pattern rest ih =>
      rw [List.forall_mem_cons]
      by_cases passed : passes text pattern = true
      · rw [isIgnored_value_of_passes rest passed, ih]
        simp only [passed, true_and]
      · rw [isIgnored_of_not_passes rest (Bool.of_not_eq_true passed)]
        cases search pattern text <;> simp [passed, Logged.quiet, Except.map]

end Lint

variable {config : Config} {rules : List Rule} {message : String}

theorem lint_of_not_ignored
    (searched : (Lint.isIgnored message.toList config.allIgnores).value = .ok false)
    (asked : Option Bool) :
    lint config rules message asked =
      ⟨.ok (Lint.evaluate rules message (config.effectiveVerbose asked) config.rules).value,
        (Lint.isIgnored message.toList config.allIgnores).events ++
          (Lint.evaluate rules message (config.effectiveVerbose asked) config.rules).events⟩ := by
  rw [lint]
  simp only [searched]

theorem lint_of_interrupted {fault : LintFault}
    (searched : (Lint.isIgnored message.toList config.allIgnores).value = .error fault)
    (asked : Option Bool) :
    lint config rules message asked =
      ⟨.error fault, (Lint.isIgnored message.toList config.allIgnores).events⟩ := by
  rw [lint]
  simp only [searched]

theorem lint_congr {others : List Rule}
    (alike : ∀ entry ∈ config.rules, Lint.lookup others entry.1 = Lint.lookup rules entry.1)
    (asked : Option Bool) : lint config others message asked = lint config rules message asked := by
  rw [lint, lint, Lint.evaluate_of_lookup alike]

theorem lint_withOnly
    (searched : (Lint.isIgnored message.toList config.allIgnores).value = .ok false)
    (entry : Value × Value) (asked : Option Bool) :
    lint (config.withOnly entry) rules message asked =
      ⟨.ok (Lint.contribution rules message (config.effectiveVerbose asked) entry).value,
        (Lint.isIgnored message.toList config.allIgnores).events ++
          (Lint.contribution rules message (config.effectiveVerbose asked) entry).events⟩ := by
  have same : (Lint.isIgnored message.toList (config.withOnly entry).allIgnores).value =
      .ok false := searched
  exact lint_of_not_ignored same asked

end

end CommitLint
