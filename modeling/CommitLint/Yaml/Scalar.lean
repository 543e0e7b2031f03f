import CommitLint.Decimal.Reading
import CommitLint.Value.Basic
import CommitLint.Yaml.Base64
import CommitLint.Yaml.Cursor
import CommitLint.Yaml.Schema

/-!
# Values of scalars

What the text of a scalar means in each kind. A kind can be given to a text
that has not its form; then there is no value, and the fault says why.
-/

namespace CommitLint.Yaml

namespace Scalar

/-- Take a sign off a number that is not empty. -/
def splitSign : List Char → Except Fault (Bool × List Char)
  | [] => .error .emptyNumber
  | '-' :: rest => .ok (true, rest)
  | '+' :: rest => .ok (false, rest)
  | text => .ok (false, text)

def integer (base : Nat) (text : List Char) : Except Fault Int :=
  match Decimal.int? base text with
  | some number => .ok number
  | none => .error (.noInteger base text)

/-- The value of parts in base sixty. -/
def sexagesimal (parts : List Int) : Int :=
  parts.foldl (fun value part => value * 60 + part) 0

/-- A whole number without its sign. -/
def unsigned : List Char → Except Fault Int
  | [] => .error .emptyNumber
  | ['0'] => .ok 0
  | '0' :: 'b' :: digits => integer 2 digits
  | '0' :: 'x' :: digits => integer 16 digits
  | '0' :: digits => integer 8 ('0' :: digits)
  | text =>
      if text.contains ':' then
        ((Text.splitOn ':' text).mapM (integer 10)).map sexagesimal
      else integer 10 text

def toInt (text : List Char) : Except Fault Int := do
  let (negative, rest) ← splitSign (text.filter (· != '_'))
  let number ← unsigned rest
  return if negative then -number else number

def real (text : List Char) : Except Fault Binary64 :=
  match Decimal.real? text with
  | some number => .ok number
  | none => .error (.noReal text)

/-- The sum of parts from the last one on, each sixty times the weight of the one behind it; every
weight has to be within the range of numbers. -/
def sumParts (weight : Nat) (sum : Binary64) : List Binary64 → Except Fault Binary64
  | [] => .ok sum
  | part :: rest =>
      match Binary64.roundWhole? weight with
      | some factor => sumParts (weight * 60) (sum.add (part.scale factor)) rest
      | none => .error .weightTooLarge

def toReal (text : List Char) : Except Fault Binary64 := do
  let (negative, rest) ← splitSign ((text.filter (· != '_')).map Text.toLower)
  let number ←
    if rest == ".inf".toList then .ok (.infinite false)
    else if rest == ".nan".toList then .ok .nan
    else if rest.contains ':' then do
      let parts ← (Text.splitOn ':' rest).mapM real
      sumParts 1 .zero parts.reverse
    else real rest
  return if negative then number.negate else number

def toTruth (text : List Char) : Except Fault Bool :=
  let word := text.map Text.toLower
  if Form.isOneOf ["yes", "true", "on"] word then .ok true
  else if Form.isOneOf ["no", "false", "off"] word then .ok false
  else .error (.noTruth word)

/-- Six digits of a fraction, zeros behind it or digits left out. -/
def micros (fraction : List Char) : Nat :=
  Timestamp.number ((fraction ++ List.replicate 6 '0').take 6)

def toTime (text : List Char) : Except Fault Value := do
  match Timestamp.read? (dropFinalBreak text) with
  | none => throw .noTimestamp
  | some stamp =>
      let date : Date := ⟨stamp.year, stamp.month, stamp.day⟩
      match stamp.time with
      | none => return .date (← date.check.mapError .calendar)
      | some (hour, minute, second) =>
          let moment : Moment :=
            ⟨date, hour, minute, second, micros stamp.fraction, stamp.offset⟩
          return .moment (← moment.check.mapError .calendar)

def toBytes (text : List Char) : Except Fault (List UInt8) :=
  match Base64.decode text with
  | some content => .ok content
  | none => .error .malformed

/-- The value of a text in a kind of scalars; the merge and the default key mean nothing
elsewhere. -/
def value (kind : Kind) (text : List Char) : Except Fault Value :=
  match kind with
  | .null => .ok .null
  | .bool => (toTruth text).map .bool
  | .int => (toInt text).map .int
  | .real => (toReal text).map .real
  | .text => .ok (.text (String.ofList text))
  | .timestamp => toTime text
  | .bytes => (toBytes text).map .bytes
  | _ => .error .malformed

/-- The value of the text under the default key of a mapping; a time is looked for in the mapping,
which is no text. -/
def underDefault (kind : Kind) (text : List Char) : Except Fault Value :=
  match kind with
  | .timestamp => .error .noText
  | _ => value kind text

end Scalar

end CommitLint.Yaml
