import CommitLint.Rule.Entry

/-!
# Rules

A rule has a name, and judges a message under the options that an entry of
the configuration gives it. The options are a copy, which the rule may change
as it likes. But the collections among their values are no copies: another
entry that shares one of them is read as the rule has left it.
-/

namespace CommitLint

/-- A message is valid, or invalid for a reason that may be left out, or the rule breaks down. -/
inductive Verdict where
  | valid
  | invalid (reason : Option String)
  | raised
deriving DecidableEq, Repr

/-- What a rule has made of other entries: how those read that it has changed, by their keys. -/
abbrev Reach := Value → Option RuleEntry

namespace Reach

def nothing : Reach :=
  fun _ => none

/-- One rule after another. -/
def andThen (first second : Reach) : Reach :=
  fun key => (second key).or (first key)

end Reach

/-- A verdict, and what the rule has done beyond it. -/
structure Reply where
  verdict : Verdict
  reach : Reach

structure Rule where
  name : String
  description : String
  validate : String → Option Entries → Reply

namespace Rule

/-- A rule that does nothing but judge. -/
def ofVerdict (name description : String) (verdict : String → Option Entries → Verdict) : Rule :=
  ⟨name, description, fun message options => ⟨verdict message options, .nothing⟩⟩

/-- The rule registered last under a name. -/
def find? (rules : List Rule) (name : String) : Option Rule :=
  rules.reverse.find? fun rule => rule.name == name

end Rule

end CommitLint
