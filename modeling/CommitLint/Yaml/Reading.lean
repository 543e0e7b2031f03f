import CommitLint.Text.Quoted
import CommitLint.Yaml.Node
import CommitLint.Yaml.Scalar

/-!
# Reading documents

The value of a document. Collections are filled level by level, so that of
several faults the one nearest to the root counts, and on one level the
first. A mapping takes over the entries of those that its merge keys name;
its own entries come behind them. Values are copies: a node that has several
aliases has as many values. The digits of an integer are not limited.
-/

namespace CommitLint.Yaml

/-- A fault, and the level on which it shows. -/
structure LevelFault where
  level : Nat
  fault : Fault

/-- A result that may show a fault on some level. -/
abbrev Levelled (α : Type) := Except LevelFault α

namespace Levelled

def fail {α : Type} (level : Nat) (fault : Fault) : Levelled α :=
  .error ⟨level, fault⟩

/-- Both of two results; of two faults the one on the lower level, or the first. -/
def both {α β : Type} (first : Levelled α) (second : Levelled β) : Levelled (α × β) :=
  match first, second with
  | .ok a, .ok b => .ok (a, b)
  | .ok _, .error fault => .error fault
  | .error fault, .ok _ => .error fault
  | .error fault, .error other => .error (if other.level < fault.level then other else fault)

def all {α : Type} : List (Levelled α) → Levelled (List α)
  | [] => .ok []
  | first :: rest => (both first (all rest)).map fun pair => pair.1 :: pair.2

end Levelled

/-- The entries of a mapping: those merged into it, and its own. -/
structure Assembled where
  merged : List (Levelled (Value × Value))
  own : List (Levelled (Value × Value))

namespace Assembled

def all (assembled : Assembled) : List (Levelled (Value × Value)) :=
  assembled.merged ++ assembled.own

end Assembled

namespace Node

mutual

/-- The text of a node that is taken for a scalar; a mapping shows the one under its default key. -/
def scalarText : Node → Except Fault (List Char)
  | .scalar _ text => .ok text
  | .sequence _ _ => .error .malformed
  | .mapping _ entries => defaultText entries

def defaultText : List (Node × Node) → Except Fault (List Char)
  | [] => .error .malformed
  | (key, value) :: rest => if key.kind = .default then scalarText value else defaultText rest

end

/-- The entries of a mapping with equal keys taken together. -/
def gather (level : Nat) : Except Fault Assembled → Levelled Entries
  | .error fault => .fail level fault
  | .ok assembled => (Levelled.all assembled.all).map Entries.ofList

/-- An entry. A default key is a text; a key that can change is none. -/
def keyed (level : Nat) (key : Node) (found content : Levelled Value) : Levelled (Value × Value) :=
  if key.kind = .default then
    match key.scalarText with
    | .ok text => Levelled.both (.ok (.text (String.ofList text))) content
    | .error fault => .fail level fault
  else if key.kind.isCollection then Levelled.fail level .malformed
  else Levelled.both found content

mutual

/-- The value of a node; what a collection holds shows its faults one level below it. -/
def value (level : Nat) : Node → Levelled Value
  | .scalar kind text =>
      if kind.isCollection then .fail (level + 1) .malformed
      else (Scalar.value kind text).mapError fun fault => ⟨level, fault⟩
  | .sequence kind items =>
      match kind with
      | .sequence => (Levelled.all (itemValues (level + 1) items)).map .list
      | .orderedPairs => (Levelled.all (pairValues (level + 1) items)).map .list
      | .pairs => (Levelled.all (pairValues (level + 1) items)).map .list
      | .mapping => .fail (level + 1) .malformed
      | .set => .fail (level + 1) .malformed
      | _ => .fail level .malformed
  | .mapping kind entries =>
      match kind with
      | .mapping => (gather (level + 1) (assemble (level + 1) entries)).map .map
      | .set =>
          (gather (level + 1) (assemble (level + 1) entries)).map fun found =>
            .set (found.map (·.1))
      | .sequence => .fail (level + 1) .malformed
      | .orderedPairs => .fail (level + 1) .malformed
      | .pairs => .fail (level + 1) .malformed
      | _ =>
          match (defaultText entries).bind (Scalar.underDefault kind) with
          | .ok found => .ok found
          | .error fault => .fail level fault

def itemValues (level : Nat) : List Node → List (Levelled Value)
  | [] => []
  | item :: rest => value level item :: itemValues level rest

/-- Items that are mappings of one entry, as pairs. -/
def pairValues (level : Nat) : List Node → List (Levelled Value)
  | [] => []
  | .mapping _ [(key, content)] :: rest =>
      ((Levelled.both (value level key) (value level content)).map fun pair =>
        .tuple [pair.1, pair.2]) :: pairValues level rest
  | _ :: _ => [.fail level .malformed]

/-- The entries of a mapping, with those that its merge keys bring. -/
def assemble (level : Nat) : List (Node × Node) → Except Fault Assembled
  | [] => .ok ⟨[], []⟩
  | (key, content) :: rest => do
      if key.kind = .merge then
        let brought ← broughtEntries level content
        let others ← assemble level rest
        return ⟨brought ++ others.merged, others.own⟩
      else
        let first := keyed level key (value level key) (value level content)
        let others ← assemble level rest
        return ⟨others.merged, first :: others.own⟩

/-- The entries that the value of a merge key brings: of a mapping, or of several, the
last first. -/
def broughtEntries (level : Nat) : Node → Except Fault (List (Levelled (Value × Value)))
  | .scalar _ _ => .error .malformed
  | .mapping _ entries => (assemble level entries).map (·.all)
  | .sequence _ items => broughtByAll level items

def broughtByAll (level : Nat) : List Node → Except Fault (List (Levelled (Value × Value)))
  | [] => .ok []
  | .mapping _ entries :: rest => do
      let first ← assemble level entries
      let others ← broughtByAll level rest
      return others ++ first.all
  | _ :: _ => .error .malformed

end

end Node

namespace Fault

/-- The first characters of the literal of a text; longer ones are cut off. -/
def cutLiteral (text : List Char) : String :=
  String.ofList ((Text.quoted text).take 200)

/-- What is said of a scalar without a value. What is wrong with a malformed document is
not told. -/
def message : Fault → String
  | .malformed => "<yaml error>"
  | .codeOutOfRange => "chr() arg not in range(0x110000)"
  | .codeOverflow => "Python int too large to convert to C int"
  | .noInteger base text =>
      "invalid literal for int() with base " ++ toString base ++ ": " ++ cutLiteral text
  | .noReal text => "could not convert string to float: " ++ String.ofList (Text.quoted text)
  | .weightTooLarge => "int too large to convert to float"
  | .emptyNumber => "string index out of range"
  | .noTruth word => String.ofList (Text.quoted word)
  | .noTimestamp => "'NoneType' object has no attribute 'groupdict'"
  | .noText => "expected string or bytes-like object, got 'list'"
  | .calendar fault => fault.message
  | .halfPair => "half of a surrogate pair cannot be expressed"
  | .selfContaining => "a collection that contains itself cannot be expressed"

end Fault

/-- The characters that a document may hold: no controls but tab and breaks, and no
noncharacters. -/
def isPrintable (c : Char) : Bool :=
  let code := c.toNat
  code == 9 || code == 10 || code == 13 || (0x20 ≤ code && code ≤ 0x7E) || code == 0x85 ||
    (0xA0 ≤ code && code ≤ 0xFFFD) || 0x10000 ≤ code

/-- The value of a document; a stream without one has the null value. -/
def read (text : List Char) : Except Fault Value := do
  if !text.all isPrintable then throw .malformed
  match ← Node.ofText? text with
  | none => return .null
  | some node => (node.value 0).mapError (·.fault)

end CommitLint.Yaml
