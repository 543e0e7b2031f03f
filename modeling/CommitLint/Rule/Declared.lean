import CommitLint.Rule.Basic
import CommitLint.Text.Search
import CommitLint.Value.Literal

/-!
# Declared rules

Rules of a project, given by what they do: always pass, always fail, break
down, look for a part of the message, or show the options they are handed.
-/

namespace CommitLint

inductive Behaviour where
  | pass
  | fail (reason : Option String)
  | raise
  | contains (part : String) (reason : Option String)
  | options
deriving DecidableEq, Repr, Inhabited

namespace Behaviour

/-- The mark that a rule which shows its options leaves in them. -/
def marked (options : Entries) : Entries :=
  options.insert (.text "mutated") (.bool true)

def keyNames (options : Entries) : List String :=
  (options.map fun entry => entry.1.display).mergeSort fun first second => first ≤ second

def shown (options : Entries) : String :=
  "options: " ++ ",".intercalate (keyNames options)

def verdict (behaviour : Behaviour) (message : String) (options : Option Entries) : Verdict :=
  match behaviour with
  | .pass => .valid
  | .fail reason => .invalid reason
  | .raise => .raised
  | .contains part reason =>
      if Text.occurs part.toList message.toList then .invalid reason else .valid
  | .options =>
      match options with
      | none => .invalid (some "options: none")
      | some entries => .invalid (some (shown (marked entries)))

def validate (behaviour : Behaviour) (message : String) (options : Option Entries) : Reply :=
  ⟨behaviour.verdict message options, .nothing⟩

/-- A rule of the given name that behaves so. -/
def toRule (behaviour : Behaviour) (name : String) : Rule :=
  ⟨name, "Custom", behaviour.validate⟩

end Behaviour

end CommitLint
