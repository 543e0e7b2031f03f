import CommitLint.Calendar
import CommitLint.Decimal.Binary64
import CommitLint.Severity

/-!
# Configuration values

What a configuration may hold: scalars, sequences of two kinds, and maps
that keep the order in which their keys first came. Keys are compared by
value, so that equal numbers of different kinds are one key, and a key set
again keeps its place and its first spelling.
-/

namespace CommitLint

inductive Value where
  | null
  | bool (truth : Bool)
  | int (number : Int)
  | real (number : Binary64)
  | text (content : String)
  | list (items : List Value)
  | tuple (items : List Value)
  | map (entries : List (Value × Value))
  | set (members : List Value)
  | bytes (content : List UInt8)
  | severity (level : Severity)
  | date (day : Date)
  | moment (time : Moment)
deriving Inhabited

namespace Value

/-- Zero, the empty text and empty collections are false, everything else is true. -/
def isTrue : Value → Bool
  | .null => false
  | .bool truth => truth
  | .int number => number != 0
  | .real number => !number.isZero
  | .text content => !content.isEmpty
  | .list items => !items.isEmpty
  | .tuple items => !items.isEmpty
  | .map entries => !entries.isEmpty
  | .set members => !members.isEmpty
  | .bytes content => !content.isEmpty
  | .severity _ => true
  | .date _ => true
  | .moment _ => true

/-- The name of a value's kind, as messages give it. -/
def kindName : Value → String
  | .null => "NoneType"
  | .bool _ => "bool"
  | .int _ => "int"
  | .real _ => "float"
  | .text _ => "str"
  | .list _ => "list"
  | .tuple _ => "tuple"
  | .map _ => "dict"
  | .set _ => "set"
  | .bytes _ => "bytes"
  | .severity _ => "Severity"
  | .date _ => "datetime.date"
  | .moment _ => "datetime.datetime"

/-- The whole number that a truth value or a whole number stands for. -/
def whole? : Value → Option Int
  | .bool truth => some (if truth then 1 else 0)
  | .int number => some number
  | _ => none

mutual

/-- Equality of keys. Collections that can change are no keys and equal nothing. -/
def same : Value → Value → Bool
  | .null, .null => true
  | .text first, .text second => first == second
  | .bytes first, .bytes second => first == second
  | .severity first, .severity second => first == second
  | .date first, .date second => first == second
  | .moment first, .moment second => first.sameInstant second
  | .tuple first, .tuple second => sameList first second
  | .real first, .real second => first.sameValue second
  | .real first, second => (second.whole?.map first.equalsInt).getD false
  | .bool first, .real second => second.equalsInt (if first then 1 else 0)
  | .int first, .real second => second.equalsInt first
  | .bool first, second => second.whole? == some (if first then 1 else 0)
  | .int first, second => second.whole? == some first
  | _, _ => false

def sameList : List Value → List Value → Bool
  | [], [] => true
  | first :: rest, second :: tail => same first second && sameList rest tail
  | _, _ => false

end

theorem same_text (first second : String) :
    same (.text first) (.text second) = (first == second) := by
  simp [same]

mutual

/-- The first value that keeps this one from being a key: a collection that can change. -/
def keyFault? : Value → Option Value
  | .list items => some (.list items)
  | .map entries => some (.map entries)
  | .set members => some (.set members)
  | .tuple items => keyFaultIn? items
  | _ => none

def keyFaultIn? : List Value → Option Value
  | [] => none
  | item :: rest =>
      match keyFault? item with
      | some fault => some fault
      | none => keyFaultIn? rest

end

end Value

namespace Value

/-- What a value consists of: a text of its characters, a map of its keys. Scalars have no
elements. -/
def elements? : Value → Option (List Value)
  | .text content => some (content.toList.map fun c => .text (String.singleton c))
  | .list items => some items
  | .tuple items => some items
  | .map entries => some (entries.map (·.1))
  | .set members => some members
  | .bytes content => some (content.map fun byte => .int byte.toNat)
  | _ => none

end Value

/-- A map as the list of its entries, in the order of their keys. -/
abbrev Entries := List (Value × Value)

namespace Entries

def get? (entries : Entries) (key : Value) : Option Value :=
  (entries.find? fun entry => entry.1.same key).map (·.2)

/-- Set a key: where it stands already, or at the end. -/
def insert (key value : Value) : Entries → Entries
  | [] => [(key, value)]
  | (first, content) :: rest =>
      if first.same key then (first, value) :: rest
      else (first, content) :: insert key value rest

/-- Set every entry of `extra` in turn. -/
def update (entries extra : Entries) : Entries :=
  extra.foldl (fun built entry => built.insert entry.1 entry.2) entries

def ofList (entries : Entries) : Entries :=
  update [] entries

/-- The entry under a name. -/
def named? (entries : Entries) (name : String) : Option Value :=
  entries.get? (.text name)

def without (entries : Entries) (name : String) : Entries :=
  entries.filter fun entry => !entry.1.same (.text name)

end Entries

end CommitLint
