import CommitLint.Text.Blank
import CommitLint.Text.Folding

/-!
# Severities

The three ranks of a rule, and the words that name them. A word names a
rank up to surrounding blanks and letter case.
-/

namespace CommitLint

/-- The ranks in rising order: only the last one blocks a commit. -/
inductive Severity where
  | off
  | warning
  | error
deriving DecidableEq, Repr, Inhabited

namespace Severity

def all : List Severity :=
  [.off, .warning, .error]

def name : Severity → String
  | .off => "OFF"
  | .warning => "WARNING"
  | .error => "ERROR"

def rank : Severity → Nat
  | .off => 0
  | .warning => 1
  | .error => 2

def isBlocking (severity : Severity) : Bool :=
  severity == .error

/-- The severity of a rank; other numbers have none. -/
def ofRank? (rank : Int) : Option Severity :=
  all.find? fun severity => (severity.rank : Int) == rank

theorem ofRank?_rank (severity : Severity) : ofRank? severity.rank = some severity := by
  cases severity <;> rfl

/-- The severity that a word names. -/
def ofWord? (word : List Char) : Option Severity :=
  let upper := Text.upperAscii (Text.trim word)
  all.find? fun severity => severity.name.toList == upper

end Severity

end CommitLint
