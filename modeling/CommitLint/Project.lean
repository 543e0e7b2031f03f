import CommitLint.Config.File
import CommitLint.Rule.Builtin
import CommitLint.Rule.Directory

/-!
# Projects

Linting with what a project says: its configuration, and its own rules
behind those that are always there, so that they can replace them.
-/

namespace CommitLint.Project

/-- All rules of a project. -/
def rules (tree : FileTree) (project : Path) (config : Config) :
    Logged (Except Failure (List Rule)) :=
  if config.customRulesDir.isTrue then
    (RuleDirectory.loadNamed tree project config.customRulesDir).map fun found =>
      found.map fun custom => Rule.builtin ++ custom.map (·.rule)
  else .quiet (.ok Rule.builtin)

/-- Go on from a result that may have failed. -/
def andThen {α β : Type} (result : Logged (Except Failure α))
    (next : α → Logged (Except Failure β)) : Logged (Except Failure β) :=
  result.bind fun found =>
    match found with
    | .ok value => next value
    | .error failure => .quiet (.error failure)

/-- The diagnostics of a message under a configuration that is loaded. -/
def lintWith [CharacterNames] (tree : FileTree) (project : Path) (config : Config)
    (message : String) (verbose : Option Bool) : Logged (Except Failure Diagnostics) :=
  andThen (rules tree project config) fun rules =>
    (CommitLint.lint config rules message verbose).map fun result => result.mapError .lint

def lint [CharacterNames] (tree : FileTree) (project : Path) (file : Option String)
    (message : String) (verbose : Option Bool) : Logged (Except Failure Diagnostics) :=
  andThen (Config.load tree project file) fun config =>
    lintWith tree project config message verbose

end CommitLint.Project
