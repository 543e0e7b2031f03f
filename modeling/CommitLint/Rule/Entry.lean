import CommitLint.Severity
import CommitLint.Value.Basic

/-!
# Rule entries

What a configuration says about a rule: a level alone, a sequence of a level
and options, or a map in which the level stands under `severity` and every
other key is an option. An empty sequence turns the rule off.
-/

namespace CommitLint

/-- The level of an entry, which need not denote a severity, and its options. -/
structure RuleEntry where
  level : Value
  options : Option Entries

namespace RuleEntry

/-- Options count only if they are a map. -/
def ofItems : List Value → RuleEntry
  | [] => ⟨.severity .off, none⟩
  | level :: .map options :: _ => ⟨level, some options⟩
  | level :: _ => ⟨level, none⟩

def ofMap (entries : Entries) : RuleEntry :=
  let options := entries.without "severity"
  ⟨(entries.named? "severity").getD .null, if options.isEmpty then none else some options⟩

def ofValue : Value → RuleEntry
  | .list items => ofItems items
  | .tuple items => ofItems items
  | .map entries => ofMap entries
  | level => ⟨level, none⟩

end RuleEntry

end CommitLint
