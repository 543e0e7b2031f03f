import CommitLint.Json
import CommitLint.Lint
import CommitLint.Message.Parsed

/-!
# Reports

How diagnostics and parsed messages are shown: blocks of lines for a
terminal, and documents for other programs.
-/

namespace CommitLint

namespace Diagnostics

/-- The status that a program ends with. -/
def exitCode (diagnostics : Diagnostics) : Nat :=
  if diagnostics.isValid then 0 else 1

def errorBlock (diagnostics : Diagnostics) : Option String :=
  if diagnostics.isValid then none
  else
    some ("\n".intercalate
      ("Commit message validation failed:" :: diagnostics.errors.map ("- " ++ ·)))

def warningBlock (diagnostics : Diagnostics) : Option String :=
  if diagnostics.warnings.isEmpty then none
  else some ("\n".intercalate (diagnostics.warnings.map ("! " ++ ·)))

def successLine (diagnostics : Diagnostics) (verbose : Bool) : Option String :=
  if diagnostics.isValid && verbose then some "Commit message validation passed!" else none

def toJson (diagnostics : Diagnostics) : Json :=
  .object [("valid", .bool diagnostics.isValid),
    ("errors", .array (diagnostics.errors.map .text)),
    ("warnings", .array (diagnostics.warnings.map .text))]

/-- Within the basic alphabet. -/
def json (diagnostics : Diagnostics) : String :=
  diagnostics.toJson.render true

end Diagnostics

namespace Reference

def toJson (reference : Reference) : Json :=
  .object [("action", .text (String.ofList reference.action)),
    ("owner", .ofOption (reference.owner.map String.ofList)),
    ("repository", .ofOption (reference.repository.map String.ofList)),
    ("issue", .text (String.ofList reference.issue)),
    ("raw", .text (String.ofList reference.raw)),
    ("prefix", .text mark)]

end Reference

namespace Parsed

def toJson (parsed : Parsed) : Json :=
  .object [("header", .text parsed.header),
    ("type", .ofOption parsed.type),
    ("scope", .ofOption parsed.scope),
    ("subject", .ofOption parsed.subject),
    ("body", .ofOption parsed.body),
    ("footer", .ofOption parsed.footer),
    ("mentions", .array (parsed.mentions.map .text)),
    ("references", .array (parsed.references.map (·.toJson))),
    ("raw", .text parsed.raw)]

/-- Characters outside the basic alphabet stand as they are. -/
def json (parsed : Parsed) : String :=
  parsed.toJson.render false

end Parsed

end CommitLint
