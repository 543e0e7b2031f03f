import CommitLint.Config.Basic
import CommitLint.Log

/-!
# Overlays

A value laid over a configuration. Only a map can be laid over one; each of
its known keys replaces what lies below, and rules are replaced one by one.
A list of patterns that is no list is told of and passed over.
-/

namespace CommitLint

/-- Why a configuration cannot be used. -/
inductive ConfigFault where
  | notMapping
  | rulesNotMapping
  | fileNotFound (name : String)
  | invalidYaml (path : String)
deriving DecidableEq, Repr

namespace ConfigFault

/-- What is wrong within a malformed file is not told. -/
def message : ConfigFault → String
  | .notMapping => "Config must be a mapping at the top level"
  | .rulesNotMapping => "'rules' must be a mapping of rule name to severity"
  | .fileNotFound name => "Config file not found: " ++ name
  | .invalidYaml path => "Invalid YAML in " ++ path ++ ": <yaml error>"

end ConfigFault

namespace Config

/-- The patterns under a key, each by its display; without the key those from below stay. -/
def patternList (raw : Entries) (key : String) (below : List Value) : Logged (List Value) :=
  match raw.named? key with
  | none => .quiet below
  | some .null => .quiet []
  | some (.list items) => .quiet (items.map fun item => .text item.display)
  | some _ => ⟨below, [.notPatternList key]⟩

/-- The rules of an overlay; none where the value under the key is false. -/
def overlayRules (raw : Entries) : Except ConfigFault Entries :=
  match raw.named? "rules" with
  | some (.map entries) => .ok entries
  | some other => if other.isTrue then .error .rulesNotMapping else .ok []
  | none => .ok []

def overlay (raw : Value) (base : Config) : Except ConfigFault (Logged Config) :=
  match raw with
  | .map entries => do
      let rules ← overlayRules entries
      let ignores := patternList entries "ignores" base.ignores
      let defaults := patternList entries "default_ignores" base.defaultIgnores
      return ⟨{ verbose := .bool ((Entries.named? entries "verbose").getD base.verbose).isTrue
                rules := base.rules.update rules
                ignores := ignores.value
                defaultIgnores := defaults.value
                customRulesDir :=
                  (Entries.named? entries "custom_rules_dir").getD base.customRulesDir },
        ignores.events ++ defaults.events⟩
  | _ => .error .notMapping

end Config

end CommitLint
