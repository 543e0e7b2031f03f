import CommitLint.Message.Mention
import CommitLint.Text.Blank
import CommitLint.Text.Folding

/-!
# Issue references

A reference is a closing verb, blanks, and an issue number behind a number
sign, before which an owner and a repository may stand. References are read
from left to right, each from where the one before it ended.
-/

namespace CommitLint

structure Reference where
  action : List Char
  owner : Option (List Char)
  repository : Option (List Char)
  issue : List Char
  raw : List Char
deriving DecidableEq, Repr

namespace Reference

/-- The mark between the repository and the issue. -/
def mark : String := "#"

/-- The verbs that close an issue. -/
def verbs : List (List Char) :=
  ["close", "closes", "closed", "fix", "fixes", "fixed", "resolve", "resolves", "resolved"].map
    (·.toList)

/-- A verb with at least one blank behind it, and what follows the blanks. -/
def readVerb? (text : List Char) (verb : List Char) : Option (List Char × List Char) :=
  match Text.dropWord? verb text with
  | some (c :: rest) =>
      if Text.isAsciiBlank c then some (verb, rest.dropWhile Text.isAsciiBlank) else none
  | _ => none

/-- An owner and a repository, and what follows the number sign. -/
def readRepository? (text : List Char) : Option (List Char × List Char × List Char) :=
  match text.span isNameChar with
  | (first :: owner, '/' :: rest) =>
      match rest.span isNameChar with
      | (next :: repository, '#' :: tail) => some (first :: owner, next :: repository, tail)
      | _ => none
  | _ => none

/-- The issue number at the front of a text, given what was read before it. -/
def readIssue? (start rest action : List Char) (place : Option (List Char × List Char)) :
    Option Reference :=
  match rest.span Text.isAsciiDigit with
  | ([], _) => none
  | (digits, tail) =>
      some ⟨action, place.map (·.1), place.map (·.2), digits,
        start.take (start.length - tail.length)⟩

/-- The reference that starts at the front of a text. -/
def readAt? (text : List Char) : Option Reference := do
  let (action, rest) ← verbs.findSome? (readVerb? text)
  match rest with
  | '#' :: digits => readIssue? text digits action none
  | _ =>
      let (owner, repository, digits) ← readRepository? rest
      readIssue? text digits action (some (owner, repository))

/-- The references of a text; behind one the reading goes on where it ended. -/
def extract : List Char → List Reference
  | [] => []
  | first :: rest =>
      match readAt? (first :: rest) with
      | some reference => reference :: extract (rest.drop (reference.raw.length - 1))
      | none => extract rest
termination_by text => text.length
decreasing_by all_goals simp only [List.length_drop, List.length_cons]; omega

end Reference

end CommitLint
