import CommitLint.Calendar

/-!
# Places in a document

What is left to read, and where in the document it stands. Lines and columns
matter: nesting is shown by columns, and a key has to fit on one line.
-/

namespace CommitLint.Yaml

/-- Why a document cannot be read, or a scalar has no value. -/
inductive Fault where
  | malformed
  | codeOutOfRange
  | codeOverflow
  | noInteger (base : Nat) (text : List Char)
  | noReal (text : List Char)
  | weightTooLarge
  | emptyNumber
  | noTruth (word : List Char)
  | noTimestamp
  | noText
  | calendar (fault : CalendarFault)
  | halfPair
  | selfContaining
deriving DecidableEq, Repr

/-- Whether a document is not to blame: it is one with a value that values cannot express here, a
text with half of a surrogate pair or a collection that contains itself. -/
def Fault.isBeyond : Fault → Bool
  | .halfPair => true
  | .selfContaining => true
  | _ => false

/-- Line feed, carriage return, next line, and the line and paragraph separators. -/
def isBreak (c : Char) : Bool :=
  c == '\n' || c == '\r' || c == '\x85' || c == '\u2028' || c == '\u2029'

/-- Every break but a separator is read as a line feed. -/
def plainBreak (c : Char) : Char :=
  if c == '\u2028' || c == '\u2029' then c else '\n'

def isSpace (c : Char) : Bool :=
  c == ' ' || c == '\t'

/-- Whether a word ends here: at the end of the document, a space or a break. -/
def endsWord : List Char → Bool
  | [] => true
  | c :: _ => isSpace c || isBreak c

def endsLine : List Char → Bool
  | [] => true
  | c :: _ => isBreak c

/-- The end of a line or a blank, but no tab. -/
def endsField : List Char → Bool
  | [] => true
  | c :: _ => c == ' ' || isBreak c

/-- Three times a character, and nothing behind it in the same word. -/
def isMarker (mark : Char) : List Char → Bool
  | first :: second :: third :: rest =>
      first == mark && second == mark && third == mark && endsWord rest
  | _ => false

/-- At the start of a line: a mark that ends the document or starts another one. -/
def separatorAhead (text : List Char) : Bool :=
  isMarker '-' text || isMarker '.' text

structure Place where
  index : Nat
  line : Nat
  column : Nat
deriving DecidableEq, Repr, Inhabited

namespace Place

def start : Place :=
  ⟨0, 0, 0⟩

/-- The place behind a character; a byte order mark takes no column. -/
def after (place : Place) (c : Char) : Place :=
  if isBreak c then ⟨place.index + 1, place.line + 1, 0⟩
  else if c == '\uFEFF' then { place with index := place.index + 1 }
  else { place with index := place.index + 1, column := place.column + 1 }

def afterAll (place : Place) (text : List Char) : Place :=
  text.foldl after place

end Place

structure Cursor where
  place : Place
  rest : List Char
deriving Repr, Inhabited

namespace Cursor

/-- The cursor behind the next character; the end stays the end. -/
def next (cursor : Cursor) : Cursor :=
  match cursor.rest with
  | [] => cursor
  | c :: rest => ⟨cursor.place.after c, rest⟩

/-- Take the characters from here on that satisfy a condition. -/
def take (cursor : Cursor) (p : Char → Bool) : List Char × Cursor :=
  let (taken, rest) := cursor.rest.span p
  (taken, ⟨cursor.place.afterAll taken, rest⟩)

def skip (cursor : Cursor) (p : Char → Bool) : Cursor :=
  (cursor.take p).2

def skipBlanks (cursor : Cursor) : Cursor :=
  cursor.skip (· == ' ')

/-- Go behind the rest of a line, which may hold blanks and a comment only. -/
def finishLine (cursor : Cursor) : Except Fault Cursor :=
  let behind := cursor.skipBlanks
  let behind :=
    match behind.rest with
    | '#' :: _ => behind.skip fun c => !isBreak c
    | _ => behind
  if endsLine behind.rest then .ok behind.next else .error .malformed

end Cursor

end CommitLint.Yaml
