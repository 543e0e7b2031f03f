import CommitLint.Message.Header
import CommitLint.Message.Reference

/-!
# Parsed messages

The fields of a commit message. The line behind the header is taken to be
blank and is not looked at; the lines after it are the body up to the first
blank one, and the footer behind that.
-/

namespace CommitLint

structure Parsed where
  header : String
  type : Option String
  scope : Option String
  subject : Option String
  body : Option String
  footer : Option String
  mentions : List String
  references : List Reference
  raw : String
deriving DecidableEq, Repr

namespace Parsed

/-- Lines as one text; no lines are no text. -/
def block (lines : List (List Char)) : Option (List Char) :=
  if lines.isEmpty then none else some (Text.unlines lines)

/-- The lines before the first blank one. -/
def bodyLines (lines : List (List Char)) : List (List Char) :=
  lines.takeWhile fun line => !Text.allBlank line

/-- The lines behind the first blank one. -/
def footerLines (lines : List (List Char)) : List (List Char) :=
  (lines.dropWhile fun line => !Text.allBlank line).drop 1

end Parsed

/-- Every message has a parse; what it does not show is absent. -/
def parse (message : String) : Parsed :=
  let text := message.toList
  let first := Text.firstLine text
  let header := Header.read? (dropQuotationMarks first)
  let rest := (Text.lines text).drop 2
  { header := String.ofList first
    type := header.map fun found => String.ofList found.type
    scope := (header.bind (·.scope)).map String.ofList
    subject := (header.bind (·.subject?)).map String.ofList
    body := (Parsed.block (Parsed.bodyLines rest)).map String.ofList
    footer := (Parsed.block (Parsed.footerLines rest)).map String.ofList
    mentions := (Mention.extract text).map String.ofList
    references := Reference.extract text
    raw := message }

end CommitLint
