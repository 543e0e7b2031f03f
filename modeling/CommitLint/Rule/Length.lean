import CommitLint.Rule.Basic
import CommitLint.Text.Blank
import CommitLint.Text.Lines

/-!
# Length limits

The header has a limit, and so has every line from the third one on that is
not blank. The option `maxLength` sets the limit if it is a positive whole
number; lengths count characters.
-/

namespace CommitLint

/-- The limit that the options set, or `fallback` where they set none. -/
def maxLength (options : Option Entries) (fallback : Int) : Int :=
  match options.bind (·.named? "maxLength") with
  | some (.int number) => if 0 < number then number else fallback
  | _ => fallback

namespace HeaderLength

def fallback : Int :=
  72

def verdict (message : String) (options : Option Entries) : Verdict :=
  let limit := maxLength options fallback
  let length := (Text.firstLine message.toList).length
  if limit < length then
    .invalid (some ("Commit message header exceeds maximum length of " ++ toString limit ++
      " characters (" ++ toString length ++ ")"))
  else .valid

def rule : Rule :=
  .ofVerdict "header-max-length" "Enforces a maximum length for the commit message header" verdict

end HeaderLength

namespace BodyLength

def fallback : Int :=
  100

/-- The lines that are measured: from the third on, as far as they are not blank. -/
def measured (message : String) : List (List Char) :=
  ((Text.lines message.toList).drop 2).filter fun line => !Text.allBlank line

def verdict (message : String) (options : Option Entries) : Verdict :=
  let limit := maxLength options fallback
  if (measured message).any fun line => limit < line.length then
    .invalid (some ("Commit message body contains lines exceeding maximum length of " ++
      toString limit ++ " characters"))
  else .valid

def rule : Rule :=
  .ofVerdict "body-max-line-length" "Enforces a maximum line length for the commit message body"
    verdict

end BodyLength

end CommitLint
