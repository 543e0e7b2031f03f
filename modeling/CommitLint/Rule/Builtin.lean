import CommitLint.Rule.Conventional
import CommitLint.Rule.Length
import CommitLint.Rule.Whitespace

/-!
# Built-in rules

The rules that are there without any configuration, in the order in which
they are listed.
-/

namespace CommitLint.Rule

def builtin : List Rule :=
  [Conventional.rule, HeaderLength.rule, BodyLength.rule, LeadingBlank.rule, TrailingBlank.rule]

end CommitLint.Rule
