/-!
# Starter configuration

The text of the file that a project starts with. What it says is what holds
without it.
-/

namespace CommitLint.Config

def templateLines : List String :=
  ["# gitmsglint configuration",
    "",
    "verbose: true",
    "",
    "# Severity: 0, 1, 2 or \"off\", \"warning\", \"error\" (quote \"off\": " ++
      "bare off is a YAML boolean).",
    "# Options go in a [severity, \x7boptions\x7d] pair or a mapping with a required severity key.",
    "rules:",
    "  conventional-commits: error",
    "  header-max-length: [error, \x7bmaxLength: 72\x7d]",
    "  body-max-line-length:",
    "    severity: error",
    "    maxLength: 100",
    "  body-leading-blank: error",
    "  no-trailing-whitespace: warning",
    "",
    "# Messages matching any of these regular expressions skip linting.",
    "ignores: []",
    "",
    "# custom_rules_dir: .gitmsglint/rules/"]

/-- The starter text; every line of it is ended. -/
def templateText : List Char :=
  templateLines.flatMap fun line => line.toList ++ ['\n']

def template : String :=
  String.ofList templateText

theorem toList_template : template.toList = templateText :=
  String.toList_ofList

end CommitLint.Config
