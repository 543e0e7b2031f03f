import CommitLint.Decimal.Shortest
import CommitLint.Text.Quoted
import CommitLint.Value.Basic

/-!
# Written values

The literal of a value, which tells a text from a number, and its plain
display, in which a text stands for itself.
-/

namespace CommitLint

namespace Value

def quotedText (content : String) : String :=
  String.ofList (Text.quoted content.toList)

def byteLiteral (mark : Char) (byte : UInt8) : List Char :=
  let c := Char.ofNat byte.toNat
  if byte < 0x80 then Text.quoteChar mark c else '\\' :: 'x' :: Text.hexDigits 2 byte.toNat

def bytesLiteral (content : List UInt8) : String :=
  let mark := Text.quoteMark (content.map fun byte => Char.ofNat byte.toNat)
  String.ofList ('b' :: mark :: content.flatMap (byteLiteral mark) ++ [mark])

def severityLiteral (level : Severity) : String :=
  "<Severity." ++ level.name ++ ": " ++ toString level.rank ++ ">"

mutual

def literal : Value → String
  | .null => "None"
  | .bool truth => if truth then "True" else "False"
  | .int number => toString number
  | .real number => String.ofList number.written
  | .text content => quotedText content
  | .list items => "[" ++ ", ".intercalate (literals items) ++ "]"
  | .tuple [item] => "(" ++ literal item ++ ",)"
  | .tuple items => "(" ++ ", ".intercalate (literals items) ++ ")"
  | .map entries => "\x7b" ++ ", ".intercalate (entryLiterals entries) ++ "\x7d"
  | .set [] => "set()"
  | .set members => "\x7b" ++ ", ".intercalate (literals members) ++ "\x7d"
  | .bytes content => bytesLiteral content
  | .severity level => severityLiteral level
  | .date day => day.literal
  | .moment time => time.literal

def literals : List Value → List String
  | [] => []
  | item :: rest => literal item :: literals rest

def entryLiterals : List (Value × Value) → List String
  | [] => []
  | (key, content) :: rest => (literal key ++ ": " ++ literal content) :: entryLiterals rest

end

/-- A text stands for itself, a severity for its name, a date for its digits. -/
def display : Value → String
  | .text content => content
  | .severity level => "Severity." ++ level.name
  | .date day => day.text
  | .moment time => time.text
  | other => other.literal

@[simp] theorem display_text (content : String) : display (.text content) = content :=
  rfl

/-- The severity that a value denotes: itself, a rank, or a word. Truth values are no ranks. -/
def toSeverity? : Value → Option Severity
  | .severity level => some level
  | .int number => Severity.ofRank? number
  | .text word => Severity.ofWord? word.toList
  | _ => none

/-- What is said of a value that denotes no severity. -/
def unknownSeverity (value : Value) : String :=
  "Unknown severity: " ++ value.literal

end Value

end CommitLint
