import CommitLint.Yaml.Block
import CommitLint.Yaml.Plain
import CommitLint.Yaml.Property

/-!
# Tokens

A document as the sequence of its signs, names and scalars, with the block
collections made explicit that indentation opens and closes. A key without a
sign of its own is known only by the colon behind it, so the tokens of a
simple key are held back until the colon comes or cannot come any more.
Where scanning fails, the sequence ends with the fault behind the last token
that was not held back.
-/

namespace CommitLint.Yaml

inductive Token where
  | directive (directive : Directive)
  | documentStart
  | documentEnd
  | blockSequence
  | blockMapping
  | blockEnd
  | flowSequence
  | flowSequenceEnd
  | flowMapping
  | flowMappingEnd
  | blockEntry
  | flowEntry
  | key
  | value
  | alias (name : String)
  | anchor (name : String)
  | tag (tag : WrittenTag)
  | scalar (text : List Char) (plain : Bool)
  | streamEnd
deriving Repr, Inhabited

/-- The tokens of a document; without a fault the last one is the end of the stream. -/
structure Tokens where
  items : List Token
  fault : Option Fault

/-- A token that may begin a key: its number and place, and whether it must begin one. -/
structure SimpleKey where
  number : Nat
  required : Bool
  place : Place
deriving Repr

namespace SimpleKey

/-- A key has to be on the line of its colon, and not longer than 1024 characters. -/
def isStale (key : SimpleKey) (place : Place) : Bool :=
  key.place.line != place.line || 1024 < place.index - key.place.index

end SimpleKey

structure Scanner where
  cursor : Cursor
  /-- The latest token first. -/
  tokens : List Token
  count : Nat
  /-- How many brackets are open. -/
  depth : Nat
  /-- The columns of the open block collections, the innermost first. -/
  columns : List Nat
  keyAllowed : Bool
  /-- The possible keys by the depth of brackets that they stand in. -/
  keys : List (Nat × SimpleKey)
  ended : Bool

namespace Scanner

def start (text : List Char) : Scanner where
  cursor := ⟨.start, text⟩
  tokens := []
  count := 0
  depth := 0
  columns := []
  keyAllowed := true
  keys := []
  ended := false

def inFlow (s : Scanner) : Bool :=
  s.depth != 0

def column (s : Scanner) : Nat :=
  s.cursor.place.column

/-- The least column of what is inside the innermost block collection. -/
def least (s : Scanner) : Nat :=
  match s.columns with
  | [] => 0
  | column :: _ => column + 1

def emit (s : Scanner) (token : Token) : Scanner :=
  { s with tokens := token :: s.tokens, count := s.count + 1 }

/-- Put a token before the one of the given number. -/
def insert (s : Scanner) (number : Nat) (token : Token) : Scanner :=
  { s with tokens := s.tokens.insertIdx (s.count - number) token, count := s.count + 1 }

def allowKey (s : Scanner) (allowed : Bool) : Scanner :=
  { s with keyAllowed := allowed }

def moveTo (s : Scanner) (cursor : Cursor) : Scanner :=
  { s with cursor := cursor }

/-- Emit a sign of one character. -/
def emitSign (s : Scanner) (token : Token) : Scanner :=
  (s.moveTo s.cursor.next).emit token

/-- Give up the possible keys that a colon can no longer follow. -/
def dropStale (s : Scanner) : Except Fault Scanner :=
  let place := s.cursor.place
  if s.keys.any fun key => key.2.isStale place && key.2.required then .error .malformed
  else .ok { s with keys := s.keys.filter fun key => !key.2.isStale place }

/-- Give up the possible key of this depth. -/
def dropKey (s : Scanner) : Except Fault Scanner :=
  match s.keys.lookup s.depth with
  | some key =>
      if key.required then .error .malformed
      else .ok { s with keys := s.keys.filter fun key => key.1 != s.depth }
  | none => .ok s

/-- The next token may begin a key, if one is allowed here. -/
def saveKey (s : Scanner) : Except Fault Scanner :=
  if s.keyAllowed then
    s.dropKey.map fun s =>
      { s with keys :=
          (s.depth, ⟨s.count, !s.inFlow && s.columns.head? == some s.column, s.cursor.place⟩) ::
            s.keys }
  else .ok s

/-- The first token that is held back. -/
def heldFrom (s : Scanner) : Nat :=
  (s.keys.map (·.2.number)).foldl min s.count

/-- Close the block collections that stand further right than `column`. -/
def closeBlocks (s : Scanner) (column : Option Nat) : Scanner :=
  if s.inFlow then s
  else
    let isRight := fun (other : Nat) => (column.map fun least => decide (least < other)).getD true
    (s.columns.takeWhile isRight).foldl (fun s _ => s.emit .blockEnd)
      { s with columns := s.columns.dropWhile isRight }

/-- Whether a collection at this column would be inside the innermost one. -/
def opensBlock (s : Scanner) (column : Nat) : Bool :=
  !s.inFlow && s.least ≤ column

def pushBlock (s : Scanner) (column : Nat) : Scanner :=
  { s with columns := column :: s.columns }

/-- Open a block collection here, if none stands at this column. -/
def openBlock (s : Scanner) (token : Token) : Scanner :=
  if s.opensBlock s.column then (s.pushBlock s.column).emit token else s

/-- Pass blanks, comments and breaks; `commented` inside a comment, `crossed` behind a break. -/
def passGap (commented crossed : Bool) (place : Place) : List Char → Bool × Cursor
  | [] => (crossed, ⟨place, []⟩)
  | c :: rest =>
      if isBreak c then passGap false true (place.after c) rest
      else if commented || c == ' ' then passGap commented crossed (place.after c) rest
      else if c == '#' then passGap true crossed (place.after c) rest
      else (crossed, ⟨place, c :: rest⟩)

/-- Go to the next token. A new line outside brackets allows a key; a byte order mark
comes first. -/
def skipGap (s : Scanner) : Scanner :=
  let cursor :=
    match s.cursor.rest with
    | '\uFEFF' :: _ => if s.cursor.place.index == 0 then s.cursor.next else s.cursor
    | _ => s.cursor
  let (crossed, cursor) := passGap false false cursor.place cursor.rest
  { s with cursor := cursor, keyAllowed := s.keyAllowed || (crossed && !s.inFlow) }

def fetchEnd (s : Scanner) : Except Fault Scanner := do
  let s ← (s.closeBlocks none).dropKey
  return { s.emit .streamEnd with keyAllowed := false, keys := [], ended := true }

def fetchDirective (s : Scanner) : Except Fault Scanner := do
  let s ← (s.closeBlocks none).dropKey
  let (directive, cursor) ← Directive.read s.cursor
  return ((s.allowKey false).moveTo cursor).emit (.directive directive)

/-- The marks that start and end a document are three signs wide. -/
def fetchMarker (s : Scanner) (token : Token) : Except Fault Scanner := do
  let s ← (s.closeBlocks none).dropKey
  return ((s.allowKey false).moveTo s.cursor.next.next.next).emit token

def fetchOpening (s : Scanner) (token : Token) : Except Fault Scanner := do
  let s ← s.saveKey
  return ({ s with depth := s.depth + 1, keyAllowed := true }).emitSign token

/-- A closing bracket that closes nothing is told by whoever reads the token. -/
def fetchClosing (s : Scanner) (token : Token) : Except Fault Scanner := do
  let s ← s.dropKey
  return ({ s with depth := s.depth - 1, keyAllowed := false }).emitSign token

def fetchFlowEntry (s : Scanner) : Except Fault Scanner := do
  let s ← s.dropKey
  return (s.allowKey true).emitSign .flowEntry

def fetchBlockEntry (s : Scanner) : Except Fault Scanner := do
  if !s.inFlow && !s.keyAllowed then throw .malformed
  let s ← ((s.openBlock .blockSequence).allowKey true).dropKey
  return s.emitSign .blockEntry

def fetchKey (s : Scanner) : Except Fault Scanner := do
  if !s.inFlow && !s.keyAllowed then throw .malformed
  let s ← ((s.openBlock .blockMapping).allowKey !s.inFlow).dropKey
  return s.emitSign .key

/-- A colon behind a possible key makes it one, and may open a mapping before it. -/
def fetchValue (s : Scanner) : Except Fault Scanner := do
  match s.keys.lookup s.depth with
  | some key =>
      let s := { s with keys := s.keys.filter fun other => other.1 != s.depth }
      let s := s.insert key.number .key
      let s :=
        if s.opensBlock key.place.column then
          (s.pushBlock key.place.column).insert key.number .blockMapping
        else s
      return (s.allowKey false).emitSign .value
  | none =>
      if !s.inFlow && !s.keyAllowed then throw .malformed
      return ((s.openBlock .blockMapping).allowKey !s.inFlow).emitSign .value

def fetchAlias (s : Scanner) : Except Fault Scanner := do
  let s ← s.saveKey
  let (name, cursor) ← readAnchor s.cursor
  return ((s.allowKey false).moveTo cursor).emit (.alias name)

def fetchAnchor (s : Scanner) : Except Fault Scanner := do
  let s ← s.saveKey
  let (name, cursor) ← readAnchor s.cursor
  return ((s.allowKey false).moveTo cursor).emit (.anchor name)

def fetchTag (s : Scanner) : Except Fault Scanner := do
  let s ← s.saveKey
  let (tag, cursor) ← WrittenTag.read s.cursor
  return ((s.allowKey false).moveTo cursor).emit (.tag tag)

def fetchBlockScalar (s : Scanner) (folded : Bool) : Except Fault Scanner := do
  let s ← (s.allowKey true).dropKey
  let scanned ← readBlockScalar folded s.least s.cursor.next
  return (s.moveTo scanned.cursor).emit (.scalar scanned.text false)

def fetchQuoted (s : Scanner) (read : Place → Gap → List Char → Except Fault Scanned) :
    Except Fault Scanner := do
  let s ← s.saveKey
  let start := s.cursor.next
  let scanned ← read start.place .empty start.rest
  return ((s.allowKey false).moveTo scanned.cursor).emit (.scalar scanned.text false)

def fetchPlain (s : Scanner) : Except Fault Scanner := do
  let s ← s.saveKey
  let plain := readPlain s.inFlow s.least .empty s.cursor.place s.cursor.rest
  return ((s.allowKey plain.crossed).moveTo plain.cursor).emit (.scalar plain.text true)

/-- The token that begins with `c` before `rest`. -/
def fetchAt (s : Scanner) (c : Char) (rest : List Char) : Except Fault Scanner :=
  let atLineStart := s.column == 0
  if c == '%' && atLineStart then s.fetchDirective
  else if atLineStart && isMarker '-' (c :: rest) then s.fetchMarker .documentStart
  else if atLineStart && isMarker '.' (c :: rest) then s.fetchMarker .documentEnd
  else if c == '[' then s.fetchOpening .flowSequence
  else if c == '\x7b' then s.fetchOpening .flowMapping
  else if c == ']' then s.fetchClosing .flowSequenceEnd
  else if c == '\x7d' then s.fetchClosing .flowMappingEnd
  else if c == ',' then s.fetchFlowEntry
  else if c == '-' && endsWord rest then s.fetchBlockEntry
  else if c == '?' && (s.inFlow || endsWord rest) then s.fetchKey
  else if c == ':' && (s.inFlow || endsWord rest) then s.fetchValue
  else if c == '*' then s.fetchAlias
  else if c == '&' then s.fetchAnchor
  else if c == '!' then s.fetchTag
  else if c == '|' && !s.inFlow then s.fetchBlockScalar false
  else if c == '>' && !s.inFlow then s.fetchBlockScalar true
  else if c == '\'' then s.fetchQuoted readSingle
  else if c == '"' then s.fetchQuoted readDouble
  else if startsPlain s.inFlow c rest then s.fetchPlain
  else .error .malformed

/-- Scan one more token, and those that it brings about. -/
def fetch (s : Scanner) : Except Fault Scanner := do
  let s ← s.skipGap.dropStale
  let s := s.closeBlocks s.column
  let s ←
    match s.cursor.rest with
    | [] => s.fetchEnd
    | c :: rest => s.fetchAt c rest
  s.dropStale

/-- Scan up to the end; every token but the last takes a character. -/
def run : Nat → Scanner → Tokens
  | 0, s => ⟨s.tokens.reverse, none⟩
  | fuel + 1, s =>
      if s.ended then ⟨s.tokens.reverse, none⟩
      else
        match s.fetch with
        | .ok next => run fuel next
        | .error fault => ⟨s.tokens.reverse.take s.heldFrom, some fault⟩

end Scanner

def Tokens.ofText (text : List Char) : Tokens :=
  (Scanner.start text).run (text.length + 2)

end CommitLint.Yaml
