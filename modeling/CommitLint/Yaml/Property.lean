import CommitLint.Text.Hex
import CommitLint.Text.Utf8
import CommitLint.Yaml.Cursor

/-!
# Anchors, tags and directives

The names that a document gives to its nodes and to their kinds. A kind is
named by an address, in full or behind a handle that stands for the front
of it; directives declare handles and the version of the language.
-/

namespace CommitLint.Yaml

def isNameSign (c : Char) : Bool :=
  ('0' ≤ c && c ≤ '9') || ('A' ≤ c && c ≤ 'Z') || ('a' ≤ c && c ≤ 'z') || c == '-' || c == '_'

/-- A name behind its sign, which has to end where the name of an anchor can. -/
def readAnchor (cursor : Cursor) : Except Fault (String × Cursor) :=
  let (name, behind) := cursor.next.take isNameSign
  let closed :=
    match behind.rest with
    | [] => true
    | c :: _ => isSpace c || isBreak c || "?:,]\x7d%@\x60".toList.contains c
  if name.isEmpty || !closed then .error .malformed else .ok (String.ofList name, behind)

namespace Address

def isSign (c : Char) : Bool :=
  isNameSign c || ";/?:@&=+$,.!~*'()[]%".toList.contains c

def decodeBytes (reversed : List UInt8) : Except Fault (List Char) :=
  (Text.Utf8.decode reversed.reverse).mapError fun _ => .malformed

/-- Resolve the bytes that are written by a percent sign and two digits each. -/
def resolve (reversed : List UInt8) : List Char → Except Fault (List Char)
  | [] => decodeBytes reversed
  | '%' :: high :: low :: rest =>
      match Text.hexNumber? 2 [high, low] with
      | some code => resolve (code.toUInt8 :: reversed) rest
      | none => .error .malformed
  | c :: rest => do
      if c == '%' then throw .malformed
      let front ← decodeBytes reversed
      let tail ← resolve [] rest
      return front ++ c :: tail

/-- An address is not empty. -/
def read (cursor : Cursor) : Except Fault (String × Cursor) := do
  let (written, behind) := cursor.take isSign
  if written.isEmpty then throw .malformed
  return (String.ofList (← resolve [] written), behind)

end Address

/-- A tag as written: the handle, unless the address is given in full, and the rest. -/
structure WrittenTag where
  handle : Option String
  suffix : String
deriving Repr

namespace WrittenTag

/-- A handle is an exclamation mark, or a name between two of them. -/
def readHandle (cursor : Cursor) : Except Fault (String × Cursor) :=
  let (name, behind) := cursor.next.take isNameSign
  match cursor.rest, behind.rest with
  | '!' :: ' ' :: _, _ => .ok ("!", cursor.next)
  | '!' :: _, '!' :: _ => .ok (String.ofList ('!' :: name ++ ['!']), behind.next)
  | _, _ => .error .malformed

/-- Whether another exclamation mark closes a handle that begins here. -/
def closesHandle (text : List Char) : Bool :=
  (text.takeWhile fun c => c != ' ' && !isBreak c).contains '!'

def readWritten (cursor : Cursor) : Except Fault (WrittenTag × Cursor) := do
  let start := cursor.next
  match start.rest with
  | '<' :: _ =>
      let (address, behind) ← Address.read start.next
      match behind.rest with
      | '>' :: _ => return (⟨none, address⟩, behind.next)
      | _ => throw .malformed
  | rest =>
      if endsWord rest then return (⟨none, "!"⟩, start)
      let (handle, behind) ← if closesHandle rest then readHandle cursor else .ok ("!", start)
      let (suffix, behind) ← Address.read behind
      return (⟨some handle, suffix⟩, behind)

/-- A tag at its sign; a blank or the end of the line has to follow. -/
def read (cursor : Cursor) : Except Fault (WrittenTag × Cursor) := do
  let (tag, behind) ← readWritten cursor
  if endsField behind.rest then return (tag, behind) else throw .malformed

end WrittenTag

/-- A directive of a kind that is not known says nothing. -/
inductive Directive where
  | version (major : Nat)
  | handle (name address : String)
  | unknown
deriving Repr

namespace Directive

def readNumber (cursor : Cursor) : Except Fault (Nat × Cursor) :=
  let (digits, behind) := cursor.take fun c => '0' ≤ c && c ≤ '9'
  if digits.isEmpty then .error .malformed
  else .ok (digits.foldl (fun value c => value * 10 + (c.toNat - 48)) 0, behind)

def readVersion (cursor : Cursor) : Except Fault (Directive × Cursor) := do
  let (major, behind) ← readNumber cursor.skipBlanks
  match behind.rest with
  | '.' :: _ =>
      let (_, behind) ← readNumber behind.next
      if endsField behind.rest then return (.version major, behind) else throw .malformed
  | _ => throw .malformed

def readDeclaration (cursor : Cursor) : Except Fault (Directive × Cursor) := do
  let (name, behind) ← WrittenTag.readHandle cursor.skipBlanks
  match behind.rest with
  | ' ' :: _ =>
      let (address, behind) ← Address.read behind.skipBlanks
      if endsField behind.rest then return (.handle name address, behind) else throw .malformed
  | _ => throw .malformed

/-- A directive at its sign, with the rest of its line. -/
def read (cursor : Cursor) : Except Fault (Directive × Cursor) := do
  let (name, behind) := cursor.next.take isNameSign
  if name.isEmpty || !endsField behind.rest then throw .malformed
  let (directive, behind) ←
    match String.ofList name with
    | "YAML" => readVersion behind
    | "TAG" => readDeclaration behind
    | _ => .ok (.unknown, behind.skip fun c => !isBreak c)
  return (directive, ← behind.finishLine)

end Directive

end CommitLint.Yaml
