import CommitLint.Decimal.Reading
import CommitLint.Pattern.Basic
import CommitLint.Text.Identifier
import CommitLint.Text.Naming

/-!
# Reading patterns

A pattern is read from its marks: single characters, and characters behind
a backslash. A part is an alternation of branches, a branch a sequence of
pieces, and every piece takes at least one mark, so that a budget of three
steps for each mark suffices. A character can be written by its name in the
character database. How deep a pattern may be nested is not limited here.
-/

namespace CommitLint.Pattern

/-- A character, a character behind a backslash, or a backslash behind which the pattern ends. -/
inductive Mark where
  | plain (c : Char)
  | escaped (c : Char)
  | dangling
deriving DecidableEq, Repr

def marks : List Char → List Mark
  | [] => []
  | ['\\'] => [.dangling]
  | '\\' :: c :: rest => .escaped c :: marks rest
  | c :: rest => .plain c :: marks rest

/-- The flags that a pattern can set for itself or for a part of it. -/
structure Flags where
  ignoreCase : Bool := false
  multiLine : Bool := false
  dotAll : Bool := false
  verbose : Bool := false
  ascii : Bool := false
  unicode : Bool := false
  template : Bool := false
deriving DecidableEq, Repr, Inhabited

namespace Flags

def comparison (flags : Flags) : Comparison :=
  ⟨flags.ignoreCase, flags.ascii⟩

/-- Add the flag of a letter; a letter that names none gives none. -/
def set? (flags : Flags) : Char → Option Flags
  | 'i' => some { flags with ignoreCase := true }
  | 'm' => some { flags with multiLine := true }
  | 's' => some { flags with dotAll := true }
  | 'x' => some { flags with verbose := true }
  | 'a' => some { flags with ascii := true }
  | 'u' => some { flags with unicode := true }
  | 't' => some { flags with template := true }
  | _ => none

/-- Both kinds of flags that choose an alphabet. -/
def alphabet (flags : Flags) : Bool :=
  flags.ascii || flags.unicode

/-- The flags that are in both. -/
def meets (first second : Flags) : Bool :=
  (first.ignoreCase && second.ignoreCase) || (first.multiLine && second.multiLine) ||
    (first.dotAll && second.dotAll) || (first.verbose && second.verbose)

def join (first second : Flags) : Flags :=
  { ignoreCase := first.ignoreCase || second.ignoreCase
    multiLine := first.multiLine || second.multiLine
    dotAll := first.dotAll || second.dotAll
    verbose := first.verbose || second.verbose
    ascii := first.ascii || second.ascii
    unicode := first.unicode || second.unicode
    template := first.template || second.template }

/-- The flags inside a part that turns some on and some off; an alphabet replaces the one
outside. -/
def within (flags on off : Flags) : Flags :=
  { ignoreCase := (flags.ignoreCase || on.ignoreCase) && !off.ignoreCase
    multiLine := (flags.multiLine || on.multiLine) && !off.multiLine
    dotAll := (flags.dotAll || on.dotAll) && !off.dotAll
    verbose := (flags.verbose || on.verbose) && !off.verbose
    ascii := if on.alphabet then on.ascii else flags.ascii
    unicode := if on.alphabet then on.unicode else flags.unicode
    template := flags.template }

end Flags

/-- What has been read so far: the marks to come, and the groups with their widths once closed. -/
structure Source where
  rest : List Mark
  groups : Array (Option Width)
  names : List (String × Nat)
  /-- Inside a look behind, the number of groups opened before it. -/
  behind : Option Nat
  /-- Groups that conditions ask for by number, which may come later. -/
  awaited : List Nat
  flags : Flags
  /-- The characters by their names. -/
  named? : String → Option Char
deriving Inhabited

abbrev Reader := StateT Source (Except Fault)

namespace Reader

def fail {α : Type} : Reader α :=
  throw .malformed

def peek : Reader (Option Mark) := do
  return (← get).rest.head?

/-- Pass the next mark; a backslash with nothing behind it is refused as soon as it comes next. -/
def skip : Reader Unit := do
  let source ← get
  let rest := source.rest.drop 1
  if rest.head? = some .dangling then fail
  set { source with rest }

def take : Reader (Option Mark) := do
  let mark ← peek
  skip
  return mark

/-- Pass the next mark if it is the given character. -/
def accept (c : Char) : Reader Bool := do
  if (← peek) = some (.plain c) then
    skip
    return true
  else return false

def expect (c : Char) : Reader Unit := do
  if !(← accept c) then fail

/-- At most `count` characters of a class. -/
def takeWhile (holds : Char → Bool) : Nat → Reader (List Char)
  | 0 => return []
  | count + 1 => do
      match ← peek with
      | some (.plain c) =>
          if holds c then
            skip
            return c :: (← takeWhile holds count)
          else return []
      | _ => return []

/-- Everything up to a closing character, which is passed; it must be there, and something before
it. -/
def takeUntil (close : Char) : Nat → List Char → Reader (List Char)
  | 0, _ => fail
  | budget + 1, found => do
      match ← take with
      | some (.plain c) =>
          if c = close then
            if found.isEmpty then fail else return found.reverse
          else takeUntil close budget (c :: found)
      | some (.escaped c) => takeUntil close budget (c :: '\\' :: found)
      | _ => fail

end Reader

open Reader

def isHexDigit (c : Char) : Bool :=
  Text.isAsciiDigit c || ('a' ≤ c && c ≤ 'f') || ('A' ≤ c && c ≤ 'F')

def isOctalDigit (c : Char) : Bool :=
  '0' ≤ c && c ≤ '7'

def isAsciiLetter (c : Char) : Bool :=
  ('a' ≤ c && c ≤ 'z') || ('A' ≤ c && c ≤ 'Z')

/-- The value of digits in a base up to sixteen. -/
def digitsValue (base : Nat) (digits : List Char) : Nat :=
  digits.foldl
    (fun value c =>
      value * base +
        (if Text.isAsciiDigit c then c.toNat - 48 else (Text.toAsciiLower c).toNat - 87))
    0

/-- The controls that have a letter of their own. -/
def controlOf? : Char → Option Nat
  | 'a' => some 7
  | 'f' => some 12
  | 'n' => some 10
  | 'r' => some 13
  | 't' => some 9
  | 'v' => some 11
  | '\\' => some 92
  | _ => none

def categoryOf? : Char → Option Member
  | 'd' => some (.category .digit false)
  | 'D' => some (.category .digit true)
  | 's' => some (.category .blank false)
  | 'S' => some (.category .blank true)
  | 'w' => some (.category .word false)
  | 'W' => some (.category .word true)
  | _ => none

/-- Exactly `count` hexadecimal digits. -/
def readHex (count : Nat) : Reader Nat := do
  let digits ← takeWhile isHexDigit count
  if digits.length = count then return digitsValue 16 digits else fail

/-- The character of a name between braces. -/
def readNamedChar : Reader Char := do
  expect '\x7b'
  let source ← get
  let name ← takeUntil '\x7d' (source.rest.length + 1) []
  match source.named? (String.ofList name) with
  | some c => return c
  | none => fail

/-- A code point by its hexadecimal digits or its name, for the letters that introduce one. -/
def readCode? (letter : Char) : Reader (Option Nat) := do
  match letter with
  | 'x' => return some (← readHex 2)
  | 'u' => return some (← readHex 4)
  | 'U' =>
      let value ← readHex 8
      if value < 0x110000 then return some value else fail
  | 'N' => return some (← readNamedChar).toNat
  | _ => return none

/-- A character of a set behind a backslash. -/
def readSetEscape (c : Char) : Reader Member := do
  if c = 'b' then return .code 8
  if let some control := controlOf? c then return .code control
  if let some category := categoryOf? c then return category
  if let some code ← readCode? c then return .code code
  if isOctalDigit c then
    let value := digitsValue 8 (c :: (← takeWhile isOctalDigit 2))
    if 0o377 < value then fail
    return .code value
  if Text.isAsciiDigit c || isAsciiLetter c then fail
  return .code c.toNat

def readSetMember : Mark → Reader Member
  | .plain c => return .code c.toNat
  | .escaped c => readSetEscape c
  | .dangling => fail

/-- The members of a set behind its opening bracket; a closing bracket that comes first is a
member. -/
def readMembers : Nat → List Member → Reader (List Member)
  | 0, _ => fail
  | budget + 1, found => do
      match ← take with
      | none => fail
      | some mark =>
          if mark = .plain ']' && !found.isEmpty then return found.reverse
          let first ← readSetMember mark
          if ← accept '-' then
            match ← take with
            | none => fail
            | some (.plain ']') => return (.code 45 :: first :: found).reverse
            | some mark =>
                let last ← readSetMember mark
                match first, last with
                | .code low, .code high =>
                    if high < low then fail
                    readMembers budget (.range low high :: found)
                | _, _ => fail
          else readMembers budget (first :: found)

def readSet (flags : Flags) : Reader Node := do
  let negated ← accept '^'
  let members ← readMembers ((← get).rest.length + 1) []
  return .char ⟨flags.comparison, negated, members⟩

/-- A group may be referred to once it is closed, and inside a look behind only if it was opened
before. -/
def checkBehind (index : Nat) : Reader Unit := do
  let source ← get
  match source.behind with
  | none => return ()
  | some opened =>
      if (source.groups[index]?.bind id).isNone || opened ≤ index then fail

def readBackReference (flags : Flags) (index : Nat) : Reader Node := do
  if ((← get).groups[index]?.bind id).isNone then fail
  checkBehind index
  return .again index flags.comparison

/-- Digits behind a backslash: a code in three octal digits, or the number of a group. -/
def readNumberEscape (flags : Flags) (first : Char) : Reader Node := do
  let literal (value : Nat) : Node := .char ⟨flags.comparison, false, [.code value]⟩
  if first = '0' then
    return literal (digitsValue 8 (← takeWhile isOctalDigit 2))
  match ← takeWhile Text.isAsciiDigit 1 with
  | [second] =>
      if isOctalDigit first && isOctalDigit second then
        match ← takeWhile isOctalDigit 1 with
        | [third] =>
            let value := digitsValue 8 [first, second, third]
            if 0o377 < value then fail
            return literal value
        | _ => readBackReference flags (digitsValue 10 [first, second])
      else readBackReference flags (digitsValue 10 [first, second])
  | _ => readBackReference flags (digitsValue 10 [first])

/-- What a backslash and a character stand for outside a set. -/
def readEscape (flags : Flags) (c : Char) : Reader Node := do
  let literal (value : Nat) : Node := .char ⟨flags.comparison, false, [.code value]⟩
  match c with
  | 'A' => return .anchor .textStart
  | 'Z' => return .anchor .textEnd
  | 'b' => return .anchor (.boundary flags.ascii false)
  | 'B' => return .anchor (.boundary flags.ascii true)
  | _ =>
      if let some category := categoryOf? c then
        return .char ⟨flags.comparison, false, [category]⟩
      if let some control := controlOf? c then return literal control
      if let some code ← readCode? c then return literal code
      if Text.isAsciiDigit c then readNumberEscape flags c
      else if isAsciiLetter c then fail
      else return literal c.toNat

/-- The counts from which on a repetition is too large. -/
def countLimit : Nat :=
  4294967295

def readCount (digits : List Char) : Reader Nat := do
  let value := digitsValue 10 digits
  if countLimit ≤ value then throw .repetitionTooLarge
  return value

/-- The counts between braces; without a closing brace the opening one is a character. -/
def readBounds? : Reader (Option (Nat × Option Nat)) := do
  let source ← get
  if source.rest.head? = some (.plain '\x7d') then return none
  let low ← takeWhile Text.isAsciiDigit source.rest.length
  let comma ← accept ','
  let high ← if comma then takeWhile Text.isAsciiDigit source.rest.length else pure low
  if !(← accept '\x7d') then
    set source
    return none
  let least ← if low.isEmpty then pure 0 else readCount low
  if high.isEmpty then return some (least, none)
  let most ← readCount high
  if most < least then fail
  return some (least, some most)

/-- The bounds of a repetition sign. -/
def readRepetition? : Char → Reader (Option (Nat × Option Nat))
  | '?' => return some (0, some 1)
  | '*' => return some (0, none)
  | '+' => return some (1, none)
  | '\x7b' => readBounds?
  | _ => return none

def readGreed : Reader Greed := do
  if ← accept '?' then return .lazy
  if ← accept '+' then return .possessive
  return .greedy

/-- A piece of a branch; a place cannot be repeated, and neither can a repetition. -/
structure Piece where
  node : Node
  isPlace : Bool
  isRepetition : Bool

def Piece.single (node : Node) : Piece :=
  ⟨node, false, false⟩

def branchOf (pieces : List Piece) : Node :=
  pieces.foldl (fun branch piece =>
    match branch with
    | .empty => piece.node
    | branch => .seq piece.node branch) .empty

def readGroupName (close : Char) : Reader String := do
  let name ← takeUntil close ((← get).rest.length + 1) []
  if Text.isIdentifier name then return String.ofList name else fail

/-- The width of a part; a back reference is as wide as its group. -/
def widthOf (groups : Array (Option Width)) : Node → Width
  | .empty => .none
  | .char _ => .one
  | .anchor _ => .none
  | .seq first second => (widthOf groups first).add (widthOf groups second)
  | .either first second => (widthOf groups first).join (widthOf groups second)
  | .group _ body => widthOf groups body
  | .iterate _ least most body => (widthOf groups body).times least most
  | .again index _ => (groups[index]?.bind id).getD .none
  | .look _ _ _ _ => .none
  | .atomic body => widthOf groups body
  | .whether _ present absent => (widthOf groups present).join (widthOf groups absent)

/-- Open a group, named or not, and give its number. -/
def openGroup (name : Option String) : Reader Nat := do
  let source ← get
  let index := source.groups.size
  match name with
  | none => set { source with groups := source.groups.push none }
  | some name =>
      if (source.names.lookup name).isSome then fail
      set { source with
        groups := source.groups.push none
        names := (name, index) :: source.names }
  return index

def closeGroup (index : Nat) (body : Node) : Reader Unit :=
  modify fun source =>
    { source with groups := source.groups.setIfInBounds index (some (widthOf source.groups body)) }

/-- The group that a condition asks for, by name or by number. -/
def readCondition : Reader Nat := do
  let name ← takeUntil ')' ((← get).rest.length + 1) []
  let source ← get
  if Text.isIdentifier name then
    match source.names.lookup (String.ofList name) with
    | some index => return index
    | none => fail
  else
    match Decimal.int? 10 name with
    | none => fail
    | some number =>
        if number ≤ 0 || 1073741823 ≤ number then fail
        set { source with awaited := number.toNat :: source.awaited }
        return number.toNat

/-- Read flag letters up to a character that ends them, which is given with them. -/
def readFlagLetters : Nat → Flags → Char → Reader (Flags × Char)
  | 0, _, _ => fail
  | budget + 1, flags, letter => do
      match flags.set? letter with
      | none => fail
      | some flags =>
          if flags.ascii && flags.unicode then fail
          match ← take with
          | some (.plain c) =>
              if c = ')' || c = '-' || c = ':' then return (flags, c)
              else readFlagLetters budget flags c
          | _ => fail

/-- Read the letters of flags that are turned off, up to the colon. -/
def readOffLetters : Nat → Flags → Char → Reader Flags
  | 0, _, _ => fail
  | budget + 1, flags, letter => do
      match flags.set? letter with
      | none => fail
      | some flags =>
          if flags.alphabet then fail
          match ← take with
          | some (.plain c) =>
              if c = ':' then return flags else readOffLetters budget flags c
          | _ => fail

/-- Flags for the whole pattern, or the flags turned on and off for a part. -/
inductive FlagSetting where
  | whole (flags : Flags)
  | part (on off : Flags)

def readFlags (first : Char) : Reader FlagSetting := do
  let budget := (← get).rest.length + 1
  let (on, close) ← if first = '-' then pure ({}, '-') else readFlagLetters budget {} first
  if close = ')' then return .whole on
  if on.template then fail
  if close = ':' then return .part on {}
  match ← take with
  | some (.plain c) =>
      let off ← readOffLetters budget {} c
      if off.template || on.meets off then fail
      return .part on off
  | _ => fail

/-- What the character behind an opening parenthesis and a question mark announces. -/
inductive Opening where
  | capture (name : Option String)
  | plain (on off : Flags)
  | atomic
  | look (direction : Direction) (negated : Bool)
  | condition (index : Nat)
  | reference (node : Node)
  | nothing

def readNamed (flags : Flags) : Reader Opening := do
  if ← accept '<' then return .capture (some (← readGroupName '>'))
  expect '='
  let name ← readGroupName ')'
  match (← get).names.lookup name with
  | none => fail
  | some index => return .reference (← readBackReference flags index)

/-- Pass a comment up to its closing parenthesis. -/
def skipComment : Nat → Reader Unit
  | 0 => fail
  | budget + 1 => do
      match ← take with
      | none => fail
      | some (.plain ')') => return ()
      | some _ => skipComment budget

def readExtension (flags : Flags) (atStart : Bool) : Reader Opening := do
  match ← take with
  | some (.plain 'P') => readNamed flags
  | some (.plain ':') => return .plain {} {}
  | some (.plain '#') =>
      skipComment ((← get).rest.length + 1)
      return .nothing
  | some (.plain '=') => return .look .ahead false
  | some (.plain '!') => return .look .ahead true
  | some (.plain '<') =>
      match ← take with
      | some (.plain '=') => return .look .behind false
      | some (.plain '!') => return .look .behind true
      | _ => fail
  | some (.plain '(') => return .condition (← readCondition)
  | some (.plain '>') => return .atomic
  | some (.plain c) =>
      match ← readFlags c with
      | .part on off => return .plain on off
      | .whole on =>
          if !atStart then fail
          modify fun source => { source with flags := source.flags.join on }
          return .nothing
  | _ => fail

def readOpening (flags : Flags) (atStart : Bool) : Reader Opening := do
  if ← accept '?' then readExtension flags atStart else return .capture none

/-- Pass a comment of a verbose pattern up to the end of its line. -/
def skipRemark : Nat → Reader Unit
  | 0 => return ()
  | budget + 1 => do
      match ← take with
      | none => return ()
      | some (.plain '\n') => return ()
      | some _ => skipRemark budget

def isVerboseBlank (c : Char) : Bool :=
  Text.isAsciiBlank c

/-- The node of a character that is no sign of its own, or of a place or the any-character sign. -/
def readSimple (flags : Flags) (c : Char) : Reader Piece := do
  match c with
  | '^' => return ⟨.anchor (if flags.multiLine then .lineStart else .textStart), true, false⟩
  | '$' => return ⟨.anchor (if flags.multiLine then .lineEnd else .lastLineEnd), true, false⟩
  | '.' =>
      let members := if flags.dotAll then [] else [Member.code 10]
      return .single (.char ⟨⟨false, false⟩, true, members⟩)
  | '[' => return .single (← readSet flags)
  | c => return .single (.char ⟨flags.comparison, false, [.code c.toNat]⟩)

def isPlaceNode : Node → Bool
  | .anchor _ => true
  | _ => false

/-- Repeat the last piece. -/
def repeatLast (pieces : List Piece) (least : Nat) (most : Option Nat) : Reader (List Piece) := do
  match pieces with
  | [] => fail
  | last :: before =>
      if last.isPlace || last.isRepetition then fail
      let greed ← readGreed
      return ⟨.iterate greed least most last.node, false, true⟩ :: before

def isRepetitionSign (c : Char) : Bool :=
  c == '*' || c == '+' || c == '?' || c == '\x7b'

mutual

/-- Branches up to the end or a closing parenthesis; `top` tells the outermost alternation. -/
def readAlternation : Nat → Flags → Bool → Bool → Reader Node
  | 0, _, _, _ => fail
  | budget + 1, flags, top, first => do
      let branch ← readBranch budget flags (top && first) []
      if ← accept '|' then
        let flags ← if top then pure (← get).flags else pure flags
        return .either branch (← readAlternation budget flags top false)
      else return branch

/-- Pieces up to the end, a bar or a closing parenthesis, given last first in `pieces`. -/
def readBranch : Nat → Flags → Bool → List Piece → Reader Node
  | 0, _, _, _ => fail
  | budget + 1, flags, first, pieces => do
      match ← peek with
      | none => return branchOf pieces
      | some .dangling => fail
      | some (.escaped c) =>
          skip
          let node ← readEscape flags c
          readBranch budget flags first (⟨node, isPlaceNode node, false⟩ :: pieces)
      | some (.plain c) =>
          if c = '|' || c = ')' then return branchOf pieces
          skip
          if flags.verbose && isVerboseBlank c then readBranch budget flags first pieces
          else if flags.verbose && c = '#' then
            skipRemark ((← get).rest.length + 1)
            readBranch budget flags first pieces
          else if isRepetitionSign c then
            match ← readRepetition? c with
            | none =>
                let piece ← readSimple flags c
                readBranch budget flags first (piece :: pieces)
            | some (least, most) =>
                readBranch budget flags first (← repeatLast pieces least most)
          else if c = '(' then
            let opening ← readOpening flags (first && pieces.isEmpty)
            match opening with
            | .nothing =>
                let flags ← if first then pure (← get).flags else pure flags
                readBranch budget flags first pieces
            | .reference node => readBranch budget flags first (.single node :: pieces)
            | opening =>
                let node ← readGroup budget flags opening
                readBranch budget flags first (.single node :: pieces)
          else
            let piece ← readSimple flags c
            readBranch budget flags first (piece :: pieces)

/-- The part behind an opening, with its closing parenthesis. -/
def readGroup : Nat → Flags → Opening → Reader Node
  | 0, _, _ => fail
  | budget + 1, flags, opening => do
      match opening with
      | .capture name =>
          let index ← openGroup name
          let body ← readAlternation budget flags false false
          expect ')'
          closeGroup index body
          return .group index body
      | .plain on off =>
          let body ← readAlternation budget (flags.within on off) false false
          expect ')'
          return body
      | .atomic =>
          let body ← readAlternation budget flags false false
          expect ')'
          return .atomic body
      | .look .ahead negated =>
          let body ← readAlternation budget flags false false
          expect ')'
          return .look .ahead negated 0 body
      | .look .behind negated =>
          let outer := (← get).behind
          if outer.isNone then
            modify fun source => { source with behind := some source.groups.size }
          let body ← readAlternation budget flags false false
          modify fun source => { source with behind := outer }
          expect ')'
          let width := widthOf (← get).groups body
          return .look .behind negated (width.fixed?.getD 0) body
      | .condition index =>
          checkBehind index
          let present ← readBranch budget flags false []
          let absent ←
            if ← accept '|' then
              let absent ← readBranch budget flags false []
              if (← peek) = some (.plain '|') then fail
              pure absent
            else pure .empty
          expect ')'
          return .whether index present absent
      | .reference node => return node
      | .nothing => return .empty

end

/-- Every look behind looks at a fixed number of characters. -/
def looksFixed (groups : Array (Option Width)) : Node → Bool
  | .seq first second => looksFixed groups first && looksFixed groups second
  | .either first second => looksFixed groups first && looksFixed groups second
  | .group _ body => looksFixed groups body
  | .iterate _ _ _ body => looksFixed groups body
  | .look .ahead _ _ body => looksFixed groups body
  | .look .behind _ _ body => (widthOf groups body).fixed?.isSome && looksFixed groups body
  | .atomic body => looksFixed groups body
  | .whether _ present absent => looksFixed groups present && looksFixed groups absent
  | _ => true

def hasRepetition : Node → Bool
  | .seq first second => hasRepetition first || hasRepetition second
  | .either first second => hasRepetition first || hasRepetition second
  | .group _ body => hasRepetition body
  | .iterate _ _ _ _ => true
  | .look _ _ _ body => hasRepetition body
  | .atomic body => hasRepetition body
  | .whether _ present absent => hasRepetition present || hasRepetition absent
  | _ => false

/-- A whole pattern; what is left over, or asked for and missing, is an error. -/
def readWhole (budget : Nat) : Reader Node := do
  if (← peek) = some .dangling then fail
  let node ← readAlternation budget {} true true
  let source ← get
  if source.flags.ascii && source.flags.unicode then throw .conflictingFlags
  if !source.rest.isEmpty then fail
  if source.awaited.any fun index => source.groups.size ≤ index then fail
  if !looksFixed source.groups node then fail
  if source.flags.template && hasRepetition node then fail
  return node

/-- The node of a pattern text. -/
def read [CharacterNames] (text : List Char) : Except Fault Node :=
  let rest := marks text
  (readWhole (3 * rest.length + 3)).run'
    ⟨rest, #[none], [], none, [], {}, CharacterNames.named?⟩

end CommitLint.Pattern
