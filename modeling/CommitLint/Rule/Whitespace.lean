import CommitLint.Rule.Basic
import CommitLint.Text.Blank
import CommitLint.Text.Lines

/-!
# Blanks in their place

A blank line stands between the header and the body, and no line ends with
a blank.
-/

namespace CommitLint

namespace LeadingBlank

def verdict (message : String) (_ : Option Entries) : Verdict :=
  match Text.lines message.toList with
  | _ :: second :: _ =>
      if Text.allBlank second then .valid
      else .invalid (some "Commit message must have a blank line between header and body")
  | _ => .valid

def rule : Rule :=
  .ofVerdict "body-leading-blank" "Enforces a blank line between the commit header and body" verdict

end LeadingBlank

namespace TrailingBlank

/-- The numbers of the lines that end with a blank, counted on from `number`. -/
def offendingFrom (number : Nat) : List (List Char) → List Nat
  | [] => []
  | line :: rest =>
      if Text.trimRight line = line then offendingFrom (number + 1) rest
      else number :: offendingFrom (number + 1) rest

def verdict (message : String) (_ : Option Entries) : Verdict :=
  match offendingFrom 1 (Text.lines message.toList) with
  | [] => .valid
  | numbers =>
      .invalid (some ("Commit message contains lines with trailing whitespace (lines: " ++
        ", ".intercalate (numbers.map toString) ++ ")"))

def rule : Rule :=
  .ofVerdict "no-trailing-whitespace" "Checks for trailing whitespace in commit message" verdict

end TrailingBlank

end CommitLint
