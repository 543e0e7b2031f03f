import CommitLint.Message.Header
import CommitLint.Rule.Basic
import CommitLint.Text.Folding
import CommitLint.Text.Lines

/-!
# Conventional headers

A header is conventional if it is one of the fixed types, a scope of letters,
digits and hyphens in parentheses where there is one, a colon, a space, and
a description without carriage returns. Letter case does not matter.
-/

namespace CommitLint

namespace Conventional

def types : List String :=
  ["build", "chore", "ci", "docs", "feat", "fix", "perf", "refactor", "revert", "style", "test"]

def isScopeChar (c : Char) : Bool :=
  Text.isAsciiAlphanumeric c || c == '-'

/-- What follows one of the types, none of which begins another. -/
def afterType? (header : List Char) : Option (List Char) :=
  types.findSome? fun type => Text.dropWord? type.toList header

/-- What follows the scope, or the whole text where none begins. -/
def afterScope? : List Char → Option (List Char)
  | '(' :: rest =>
      match rest.span isScopeChar with
      | (_ :: _, ')' :: tail) => some tail
      | _ => none
  | rest => some rest

def isDescription : List Char → Bool
  | ':' :: ' ' :: first :: rest => !(first :: rest).contains '\r'
  | _ => false

def accepts (header : List Char) : Bool :=
  (((afterType? header).bind afterScope?).map isDescription).getD false

def verdict (message : String) (_ : Option Entries) : Verdict :=
  if accepts (dropQuotationMarks (Text.firstLine message.toList)) then .valid
  else
    .invalid (some ("Commit message header does not follow conventional commit format: " ++
      "<type>[(scope)]: <description>"))

def rule : Rule :=
  .ofVerdict "conventional-commits" "Enforces conventional commit format" verdict

end Conventional

end CommitLint
