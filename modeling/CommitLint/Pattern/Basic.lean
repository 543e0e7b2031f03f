import CommitLint.Text.Blank
import CommitLint.Text.Digit
import CommitLint.Text.Folding
import CommitLint.Text.Word

/-!
# Search patterns

The tree of a search pattern. Everything that depends on the flags in force
where a part was written is settled in the part itself: whether case
matters, which characters are blanks, digits and words, and which places
are the ends of lines.
-/

namespace CommitLint.Pattern

inductive Category where
  | digit
  | blank
  | word
deriving DecidableEq, Repr

namespace Category

/-- Membership in every script, or in the basic alphabet alone. -/
def holds (ascii : Bool) (c : Char) : Category → Bool
  | .digit => if ascii then Text.isAsciiDigit c else Text.isDigit c
  | .blank => if ascii then Text.isAsciiBlank c else Text.isBlank c
  | .word => if ascii then Text.isAsciiWord c else Text.isWord c

end Category

/-- A member of a character set. Code points are numbers, since a pattern may name one that no
character has. -/
inductive Member where
  | code (value : Nat)
  | range (first last : Nat)
  | category (kind : Category) (negated : Bool)
deriving DecidableEq, Repr

/-- How characters are compared: exactly, or up to case in the basic alphabet or in every script. -/
structure Comparison where
  ignoreCase : Bool
  ascii : Bool
deriving DecidableEq, Repr

namespace Comparison

def fold (comparison : Comparison) (c : Char) : Char :=
  if comparison.ignoreCase then
    if comparison.ascii then Text.toAsciiLower c else Text.toLower c
  else c

/-- The folded characters that count as the folded character `c`. -/
def equals (comparison : Comparison) (c : Char) : List Char :=
  if comparison.ignoreCase && !comparison.ascii then Text.siblings c else [c]

/-- The characters that fold to `c`. -/
def sources (comparison : Comparison) (c : Char) : List Char :=
  if !comparison.ignoreCase then [c]
  else if comparison.ascii then
    if 'a' ≤ c && c ≤ 'z' then [c, Char.ofNat (c.toNat - 32)] else [c]
  else c :: Text.upperForms c

end Comparison

namespace Member

/-- Whether a member admits the character that folds to `folded`. -/
def admits (comparison : Comparison) (folded : Char) : Member → Bool
  | .code value =>
      if value.isValidChar then
        (comparison.equals folded).contains (comparison.fold (Char.ofNat value))
      else false
  | .range first last =>
      ((comparison.equals folded).flatMap comparison.sources).any fun c =>
        first ≤ c.toNat && c.toNat ≤ last
  | .category kind negated => kind.holds comparison.ascii folded != negated

end Member

/-- A set of characters, or of all the others. -/
structure CharSet where
  comparison : Comparison
  negated : Bool
  members : List Member
deriving DecidableEq, Repr

namespace CharSet

def admits (set : CharSet) (c : Char) : Bool :=
  set.members.any (Member.admits set.comparison (set.comparison.fold c)) != set.negated

end CharSet

/-- A condition on a place between characters. -/
inductive Anchor where
  | textStart
  | lineStart
  | textEnd
  | lastLineEnd
  | lineEnd
  | boundary (ascii negated : Bool)
deriving DecidableEq, Repr

/-- How a repetition chooses between one more round and going on. -/
inductive Greed where
  | greedy
  | lazy
  | possessive
deriving DecidableEq, Repr

/-- Look ahead from a place, or at the given number of characters before it. -/
inductive Direction where
  | ahead
  | behind
deriving DecidableEq, Repr

inductive Node where
  | empty
  | char (set : CharSet)
  | anchor (place : Anchor)
  | seq (first second : Node)
  | either (first second : Node)
  | group (index : Nat) (body : Node)
  | iterate (greed : Greed) (least : Nat) (most : Option Nat) (body : Node)
  | again (index : Nat) (comparison : Comparison)
  | look (direction : Direction) (negated : Bool) (width : Nat) (body : Node)
  | atomic (body : Node)
  | whether (index : Nat) (present absent : Node)
deriving DecidableEq, Repr, Inhabited

/-- The least and the greatest number of characters that a part takes; none means without bound. -/
structure Width where
  least : Nat
  most : Option Nat
deriving DecidableEq, Repr, Inhabited

namespace Width

def none : Width :=
  ⟨0, some 0⟩

def one : Width :=
  ⟨1, some 1⟩

def add (first second : Width) : Width :=
  ⟨first.least + second.least, do return (← first.most) + (← second.most)⟩

def join (first second : Width) : Width :=
  ⟨min first.least second.least, do return max (← first.most) (← second.most)⟩

/-- Repeated without bound, a part stays bounded only if it takes nothing. -/
def times (width : Width) (least : Nat) (most : Option Nat) : Width :=
  ⟨width.least * least,
    match width.most, most with
    | some 0, _ => some 0
    | some size, some count => some (size * count)
    | _, _ => .none⟩

/-- The number of characters, if it is always the same. -/
def fixed? (width : Width) : Option Nat :=
  if width.most = some width.least then some width.least else .none

end Width

/-- The error of a pattern that cannot be searched for. -/
inductive Fault where
  | malformed
  | repetitionTooLarge
  | conflictingFlags
deriving DecidableEq, Repr

namespace Fault

/-- What is wrong with the wording of a malformed pattern is not told. -/
def message : Fault → String
  | .malformed => "<regex error>"
  | .repetitionTooLarge => "the repetition number is too large"
  | .conflictingFlags => "ASCII and UNICODE flags are incompatible"

end Fault

end CommitLint.Pattern
