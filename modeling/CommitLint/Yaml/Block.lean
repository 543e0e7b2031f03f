import CommitLint.Yaml.Quoted

/-!
# Block scalars

A block scalar is the lines that are indented to one column. Its header says
whether breaks are kept or folded, what becomes of the last ones, and the
indentation, if the first line is not to show it.
-/

namespace CommitLint.Yaml

/-- What becomes of the breaks behind the last line: one stays, none, or all of them. -/
inductive Chomping where
  | clip
  | strip
  | keep
deriving DecidableEq, Repr

structure BlockHeader where
  chomping : Chomping
  indentation : Option Nat

namespace BlockHeader

def chomping? (c : Char) : Option Chomping :=
  if c == '+' then some .keep else if c == '-' then some .strip else none

def indentation? (c : Char) : Option Nat :=
  if '0' ≤ c && c ≤ '9' then some (c.toNat - 48) else none

/-- The signs of a header in either order, each at most once, and how many there are. -/
def signs : List Char → BlockHeader × Nat
  | first :: second :: _ =>
      match chomping? first, indentation? first with
      | some chomping, _ =>
          match indentation? second with
          | some digit => (⟨chomping, some digit⟩, 2)
          | none => (⟨chomping, none⟩, 1)
      | none, some digit =>
          match chomping? second with
          | some chomping => (⟨chomping, some digit⟩, 2)
          | none => (⟨.clip, some digit⟩, 1)
      | none, none => (⟨.clip, none⟩, 0)
  | [only] =>
      match chomping? only, indentation? only with
      | some chomping, _ => (⟨chomping, none⟩, 1)
      | none, some digit => (⟨.clip, some digit⟩, 1)
      | none, none => (⟨.clip, none⟩, 0)
  | [] => (⟨.clip, none⟩, 0)

/-- The header at a cursor, and the cursor at the start of the next line. An indentation is not
zero. -/
def read (cursor : Cursor) : Except Fault (BlockHeader × Cursor) := do
  let (header, count) := signs cursor.rest
  if header.indentation = some 0 then throw .malformed
  let behind : Cursor :=
    ⟨cursor.place.afterAll (cursor.rest.take count), cursor.rest.drop count⟩
  if !endsField behind.rest then throw .malformed
  return (header, ← behind.finishLine)

end BlockHeader

/-- The breaks before the first line that is not blank, and the widest of the lines up to it. -/
structure Leading where
  breaks : List Char
  widest : Nat
  cursor : Cursor

/-- Pass blanks and breaks. -/
def readLeading (breaks : List Char) (widest : Nat) (place : Place) : List Char → Leading
  | [] => ⟨breaks, widest, place, []⟩
  | c :: rest =>
      if c == ' ' then
        readLeading breaks (max widest (place.after c).column) (place.after c) rest
      else if isBreak c then readLeading (breaks ++ [plainBreak c]) widest (place.after c) rest
      else ⟨breaks, widest, place, c :: rest⟩

/-- The break at the end of a line of text, and the breaks of the empty lines behind it. -/
structure LineEnd where
  /-- Empty before the first line. -/
  last : List Char
  /-- Whether the line began with something other than a space. -/
  flush : Bool
  empty : List Char

namespace LineEnd

/-- What stands between two lines of text, the second of which begins with `next`. -/
def between (folded : Bool) (line : LineEnd) (next : Char) : List Char :=
  (if folded && line.last == ['\n'] && line.flush && !isSpace next then
    if line.empty.isEmpty then [' '] else []
  else line.last) ++ line.empty

/-- What stands behind the last line. -/
def closing (chomping : Chomping) (line : LineEnd) : List Char :=
  match chomping with
  | .strip => []
  | .clip => line.last
  | .keep => line.last ++ line.empty

end LineEnd

/-- Where a reading of a block stands: in a line, or in front of one behind what ended the last. -/
inductive BlockState where
  | inside (flush : Bool)
  | front (line : LineEnd)

/-- The lines from here on; the first that is not indented to `indent` ends the scalar. -/
def readBlock (folded : Bool) (chomping : Chomping) (indent : Nat) (state : BlockState)
    (place : Place) : List Char → Scanned
  | [] =>
      match state with
      | .inside _ => ⟨[], place, []⟩
      | .front line => ⟨line.closing chomping, place, []⟩
  | c :: rest =>
      match state with
      | .inside flush =>
          if isBreak c then
            readBlock folded chomping indent (.front ⟨[plainBreak c], flush, []⟩)
              (place.after c) rest
          else
            (readBlock folded chomping indent (.inside flush) (place.after c) rest).before [c]
      | .front line =>
          if c == ' ' && place.column < indent then
            readBlock folded chomping indent (.front line) (place.after c) rest
          else if isBreak c then
            readBlock folded chomping indent
              (.front { line with empty := line.empty ++ [plainBreak c] }) (place.after c) rest
          else if place.column == indent then
            (readBlock folded chomping indent (.inside (!isSpace c)) (place.after c) rest).before
              (line.between folded c ++ [c])
          else ⟨line.closing chomping, place, c :: rest⟩

/-- A block scalar behind its sign, within a collection whose items stand at `least` or further
right. -/
def readBlockScalar (folded : Bool) (least : Nat) (cursor : Cursor) : Except Fault Scanned := do
  let (header, start) ← BlockHeader.read cursor
  let least := max least 1
  match header.indentation with
  | some digit =>
      return readBlock folded header.chomping (least + digit - 1) (.front ⟨[], false, []⟩)
        start.place start.rest
  | none =>
      let leading := readLeading [] 0 start.place start.rest
      return readBlock folded header.chomping (max least leading.widest)
        (.front ⟨[], false, leading.breaks⟩) leading.cursor.place leading.cursor.rest

end CommitLint.Yaml
