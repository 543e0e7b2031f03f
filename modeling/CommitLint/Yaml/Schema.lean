import CommitLint.Text.Hex
import CommitLint.Text.Lines

/-!
# Kinds of nodes

The kinds that addresses name, and the kind that a plain scalar shows by its
form: truth values, whole numbers in several bases and in base sixty,
fractions, the merge and the default key, nothing, and points in time.
-/

namespace CommitLint.Yaml

inductive Kind where
  | null
  | bool
  | int
  | real
  | text
  | timestamp
  | bytes
  | sequence
  | mapping
  | set
  | orderedPairs
  | pairs
  | merge
  | default
  | other
deriving DecidableEq, Repr, Inhabited

namespace Kind

/-- What the addresses of all known kinds begin with. -/
def address : String :=
  "tag:yaml.org,2002:"

def names : List (String × Kind) :=
  [("null", .null), ("bool", .bool), ("int", .int), ("float", .real), ("str", .text),
  ("timestamp", .timestamp), ("binary", .bytes), ("seq", .sequence), ("map", .mapping),
  ("set", .set), ("omap", .orderedPairs), ("pairs", .pairs), ("merge", .merge),
  ("value", .default)]

def ofAddress (text : String) : Kind :=
  match names.find? fun entry => address ++ entry.1 == text with
  | some entry => entry.2
  | none => .other

/-- Whether a value of this kind is a collection that can change. -/
def isCollection : Kind → Bool
  | .sequence | .mapping | .set | .orderedPairs | .pairs => true
  | _ => false

end Kind

namespace Form

def isDigit (c : Char) : Bool :=
  '0' ≤ c && c ≤ '9'

def isDigitOrLow (c : Char) : Bool :=
  isDigit c || c == '_'

def dropSign : List Char → List Char
  | '-' :: rest => rest
  | '+' :: rest => rest
  | text => text

def truths : List String :=
  ["yes", "Yes", "YES", "no", "No", "NO", "true", "True", "TRUE", "false", "False", "FALSE",
  "on", "On", "ON", "off", "Off", "OFF"]

def nulls : List String :=
  ["", "~", "null", "Null", "NULL"]

def isOneOf (words : List String) (text : List Char) : Bool :=
  words.any fun word => word.toList == text

/-- A digit, and then digits and low lines. -/
def isDigits : List Char → Bool
  | first :: rest => isDigit first && rest.all isDigitOrLow
  | [] => false

def isCount : List Char → Bool
  | first :: rest => '1' ≤ first && first ≤ '9' && rest.all isDigitOrLow
  | [] => false

/-- A part below sixty, of one digit or two. -/
def isSixtieth : List Char → Bool
  | [ones] => isDigit ones
  | [tens, ones] => '0' ≤ tens && tens ≤ '5' && isDigit ones
  | _ => false

/-- Parts between colons, the first of which has the given form. -/
def isSexagesimal (isFirst : List Char → Bool) (text : List Char) : Bool :=
  match Text.splitOn ':' text with
  | first :: second :: rest => isFirst first && (second :: rest).all isSixtieth
  | _ => false

def isSomeOf (p : Char → Bool) (text : List Char) : Bool :=
  !text.isEmpty && text.all p

/-- A whole number without its sign. -/
def isUnsignedInt (text : List Char) : Bool :=
  match text with
  | ['0'] => true
  | '0' :: 'b' :: rest => isSomeOf (fun c => c == '0' || c == '1' || c == '_') rest
  | '0' :: 'x' :: rest => isSomeOf (fun c => Text.isHexDigit c || c == '_') rest
  | '0' :: rest => isSomeOf (fun c => ('0' ≤ c && c ≤ '7') || c == '_') rest
  | _ => isCount text || isSexagesimal isCount text

def isInt (text : List Char) : Bool :=
  isUnsignedInt (dropSign text)

/-- An exponent has a sign. -/
def isExponent : List Char → Bool
  | mark :: sign :: digits =>
      (mark == 'e' || mark == 'E') && (sign == '-' || sign == '+') && isSomeOf isDigit digits
  | _ => false

/-- What may follow the decimal point. -/
def isFraction (text : List Char) : Bool :=
  let rest := text.dropWhile isDigitOrLow
  rest.isEmpty || isExponent rest

/-- A number with digits before its point, without its sign. -/
def isUnsignedReal (text : List Char) : Bool :=
  match text.span (· != '.') with
  | (whole, '.' :: fraction) =>
      (isDigits whole && isFraction fraction) ||
        (isSexagesimal isDigits whole && fraction.all isDigitOrLow)
  | _ => false

def startsWithDigit (text : List Char) : Bool :=
  (text.head?.map isDigit).getD false

def isReal (text : List Char) : Bool :=
  isUnsignedReal (dropSign text) || isOneOf [".inf", ".Inf", ".INF"] (dropSign text) ||
    isOneOf [".nan", ".NaN", ".NAN"] text ||
    match text with
    | '.' :: fraction => startsWithDigit fraction && isFraction fraction
    | _ => false

end Form

/-- The parts of a point in time as written; no hour means a day. -/
structure Timestamp where
  year : Nat
  month : Nat
  day : Nat
  time : Option (Nat × Nat × Nat)
  fraction : List Char
  /-- Minutes ahead of universal time. -/
  offset : Option Int
deriving Repr

namespace Timestamp

open Form

def number (digits : List Char) : Nat :=
  digits.foldl (fun value c => value * 10 + (c.toNat - 48)) 0

/-- Take digits, at least `least` and at most `most`. -/
def readDigits? (least most : Nat) (text : List Char) : Option (Nat × List Char) :=
  let digits := (text.take most).takeWhile isDigit
  if digits.length < least then none else some (number digits, text.drop digits.length)

def readSign? (sign : Char) : List Char → Option (List Char)
  | [] => none
  | c :: rest => if c == sign then some rest else none

/-- The distance from universal time at the end of a text; none is one as well. -/
def readZone? (text : List Char) : Option (Option Int) :=
  match text.dropWhile fun c => c == ' ' || c == '\t' with
  | [] => if text.isEmpty then some none else none
  | ['Z'] => some (some 0)
  | sign :: rest =>
      if sign == '-' || sign == '+' then do
        let (hours, rest) ← readDigits? 1 2 rest
        let minutes ←
          match rest with
          | [] => some 0
          | _ => do
              let rest ← readSign? ':' rest
              let (minutes, rest) ← readDigits? 2 2 rest
              if rest.isEmpty then some minutes else none
        let span : Int := hours * 60 + minutes
        return some (if sign == '-' then -span else span)
      else none

/-- What separates a day from a time: one letter, or spaces. -/
def readSeparator? : List Char → Option (List Char)
  | c :: rest =>
      if c == 'T' || c == 't' then some rest
      else if c == ' ' || c == '\t' then
        some (rest.dropWhile fun c => c == ' ' || c == '\t')
      else none
  | [] => none

def readTime? (year month day : Nat) (text : List Char) : Option Timestamp := do
  let rest ← readSeparator? text
  let (hour, rest) ← readDigits? 1 2 rest
  let rest ← readSign? ':' rest
  let (minute, rest) ← readDigits? 2 2 rest
  let rest ← readSign? ':' rest
  let (second, rest) ← readDigits? 2 2 rest
  let (fraction, rest) :=
    match rest with
    | '.' :: tail => tail.span isDigit
    | tail => ([], tail)
  let offset ← readZone? rest
  return ⟨year, month, day, some (hour, minute, second), fraction, offset⟩

def read? (text : List Char) : Option Timestamp := do
  let (year, rest) ← readDigits? 4 4 text
  let rest ← readSign? '-' rest
  let (month, rest) ← readDigits? 1 2 rest
  let rest ← readSign? '-' rest
  let (day, rest) ← readDigits? 1 2 rest
  if rest.isEmpty then return ⟨year, month, day, none, [], none⟩
  else readTime? year month day rest

/-- A plain scalar is a day only if the month and the day have two digits. -/
def isForm (text : List Char) : Bool :=
  match read? text with
  | some stamp => stamp.time.isSome || text.length == 10
  | none => false

end Timestamp

/-- Leave out a line feed at the very end. -/
def dropFinalBreak : List Char → List Char
  | [] => []
  | ['\n'] => []
  | c :: rest => c :: dropFinalBreak rest

/-- The kind of a scalar that names none, by its form. -/
def Kind.ofForm (text : List Char) : Kind :=
  let form := dropFinalBreak text
  if text.head? == some '\n' then .text
  else if Form.isOneOf Form.truths form then .bool
  else if Form.isReal form then .real
  else if Form.isInt form then .int
  else if form == ['<', '<'] then .merge
  else if Form.isOneOf Form.nulls form then .null
  else if Timestamp.isForm form then .timestamp
  else if form == ['='] then .default
  else if Form.isOneOf ["!", "&", "*"] form then .other
  else .text

end CommitLint.Yaml
