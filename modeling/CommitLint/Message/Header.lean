import CommitLint.Text.Blank
import CommitLint.Text.Lines
import CommitLint.Text.Word

/-!
# Headers

The first line of a message names what kind of change it is: a type, an
optional scope in parentheses, a colon and a description. Quotation marks
around the header or in it are dropped before it is read.
-/

namespace CommitLint

/-- Straight and curly, single and double. -/
def isQuotationMark (c : Char) : Bool :=
  c == '\'' || c == '"' || c == '‘' || c == '’' || c == '“' || c == '”'

def dropQuotationMarks (text : List Char) : List Char :=
  text.filter fun c => !isQuotationMark c

/-- The parts of a header; a scope that is present is nonempty, and so is the description. -/
structure Header where
  type : List Char
  scope : Option (List Char)
  description : List Char
deriving DecidableEq, Repr

namespace Header

/-- What follows the type and the scope: a colon and at least one character. -/
def readDescription? : List Char → Option (List Char)
  | ':' :: first :: rest => some (first :: rest)
  | _ => none

/-- What stands up to the closing parenthesis, and the description behind it. -/
def readScope? (text : List Char) : Option (List Char × List Char) :=
  match text.span (· != ')') with
  | (first :: scope, ')' :: rest) =>
      (readDescription? rest).map fun description => (first :: scope, description)
  | _ => none

/-- Read a line as a header; the type is the longest run of word characters. -/
def read? (line : List Char) : Option Header :=
  match line.span Text.isAsciiWord with
  | ([], _) => none
  | (first :: type, '(' :: rest) =>
      (readScope? rest).map fun found => ⟨first :: type, some found.1, found.2⟩
  | (first :: type, rest) =>
      (readDescription? rest).map fun description => ⟨first :: type, none, description⟩

/-- The header as it is written, the description right behind the colon. -/
def render (header : Header) : List Char :=
  header.type ++
    (match header.scope with
      | none => []
      | some scope => '(' :: scope ++ [')']) ++
    ':' :: header.description

/-- The description without the blanks around it, if anything is left of it. -/
def subject? (header : Header) : Option (List Char) :=
  match Text.trim header.description with
  | [] => none
  | subject => some subject

end Header

end CommitLint
