import CommitLint.CommandLine.Options

/-!
# Commands

The commands with their options and arguments.
-/

namespace CommitLint.Catalogue

def editOption : OptionSpec :=
  ⟨["--edit"], some "PATH", "Path to .git/COMMIT_EDITMSG file"⟩

def lint : CommandSpec where
  name := "lint"
  usage := "[OPTIONS] [FILES]..."
  summary := "Lint a commit message from a file or stdin."
  options :=
    [editOption,
      ⟨["--verbose", "--quiet"], none, "Print a success line when the message passes"⟩,
      ⟨["--config"], some "TEXT", "Path to config file"⟩,
      ⟨["--project-dir"], some "TEXT", "Directory to search for gitmsglint.yml"⟩,
      ⟨["--json"], none, "Print the result as JSON"⟩]
  most := none
  mixed := true

def parse : CommandSpec where
  name := "parse"
  usage := "[OPTIONS] [FILE]"
  summary := "Print the structured form of a commit message as JSON."
  options := [editOption]
  most := some 1
  mixed := true

def hooks : CommandSpec where
  name := "hooks"
  usage := "[OPTIONS]"
  summary := "Manage the git commit-msg hook."
  options :=
    [⟨["--install"], none, "Install the commit-msg hook"⟩,
      ⟨["--uninstall"], none, "Remove the commit-msg hook"⟩,
      ⟨["--force"], none, "Overwrite an existing commit-msg hook"⟩,
      ⟨["--project-dir"], some "TEXT", "Repository directory"⟩]
  most := some 0
  mixed := true

def init : CommandSpec where
  name := "init"
  usage := "[OPTIONS]"
  summary := "Create a starter gitmsglint.yml in the project."
  options := [⟨["--project-dir"], some "TEXT", "Project directory"⟩]
  most := some 0
  mixed := true

def listRules : CommandSpec where
  name := "list-rules"
  usage := "[OPTIONS]"
  summary := "List all built-in rules."
  options := []
  most := some 0
  mixed := true

def version : CommandSpec where
  name := "version"
  usage := "[OPTIONS]"
  summary := "Show the version of gitmsglint."
  options := []
  most := some 0
  mixed := true

def commands : List CommandSpec :=
  [lint, parse, hooks, init, listRules, version]

/-- The program itself, whose arguments are a command and what belongs to it. -/
def program : CommandSpec where
  name := ""
  usage := "[OPTIONS] COMMAND [ARGS]..."
  summary := "gitmsglint - Lint and parse git commit messages."
  options := [⟨["--version"], none, "Show the version and exit."⟩]
  most := none
  mixed := false

end CommitLint.Catalogue
