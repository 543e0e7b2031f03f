import CommitLint.Pattern.Reading

/-!
# Searching

A part of a pattern is run from a place in the text with a continuation
that stands for the rest of the pattern. The ways to match are tried in
order, and the first one that the continuation accepts is the answer. A
repetition runs its body again only at a new place once its least count is
reached, so the length of the text bounds its rounds.
-/

namespace CommitLint.Pattern

/-- A place in the text, and what the groups closed so far have captured, the latest first. -/
structure Spot where
  position : Nat
  captures : List (Nat × Nat × Nat)
deriving Inhabited

/-- What is left to match: the spot where all of it is done, if it can be. -/
abbrev Rest := Spot → Option Spot

/-- A way to match: from a spot, with the rest of the pattern. -/
abbrev Step := Spot → Rest → Option Spot

def isWordAt (text : Array Char) (ascii : Bool) (position : Nat) : Bool :=
  (text[position]?.map (Category.word.holds ascii)).getD false

namespace Anchor

/-- No place of an empty text is a boundary, and none is between boundaries. -/
def holds (text : Array Char) (position : Nat) : Anchor → Bool
  | .textStart => position == 0
  | .lineStart => position == 0 || text[position - 1]? == some '\n'
  | .textEnd => position == text.size
  | .lastLineEnd =>
      position == text.size || (position + 1 == text.size && text[position]? == some '\n')
  | .lineEnd => position == text.size || text[position]? == some '\n'
  | .boundary ascii negated =>
      !text.isEmpty &&
        ((position != 0 && isWordAt text ascii (position - 1)) != isWordAt text ascii position) !=
          negated

end Anchor

/-- Whether the captured text stands again at a place. -/
def repeatsAt (text : Array Char) (comparison : Comparison) (start position : Nat) : Nat → Bool
  | 0 => true
  | count + 1 =>
      match text[start]?, text[position]? with
      | some first, some second =>
          comparison.fold first == comparison.fold second &&
            repeatsAt text comparison (start + 1) (position + 1) count
      | _, _ => false

/-- Whether one more round is allowed after `count` of them. -/
def below (count : Nat) : Option Nat → Bool
  | none => true
  | some most => count < most

/-- Rounds as many as possible; `last` is where the last round beyond the least count began. -/
def greedyRounds (body : Step) (least : Nat) (most : Option Nat) :
    Nat → Nat → Option Nat → Step
  | 0, _, _, _, _ => none
  | fuel + 1, count, last, spot, rest =>
      if count < least then
        body spot fun next => greedyRounds body least most fuel (count + 1) last next rest
      else if below count most && last != some spot.position then
        match body spot fun next =>
            greedyRounds body least most fuel (count + 1) (some spot.position) next rest with
        | some done => some done
        | none => rest spot
      else rest spot

/-- Rounds as few as possible. -/
def lazyRounds (body : Step) (least : Nat) (most : Option Nat) :
    Nat → Nat → Option Nat → Step
  | 0, _, _, _, _ => none
  | fuel + 1, count, last, spot, rest =>
      if count < least then
        body spot fun next => lazyRounds body least most fuel (count + 1) last next rest
      else
        match rest spot with
        | some done => some done
        | none =>
            if below count most && last != some spot.position then
              body spot fun next =>
                lazyRounds body least most fuel (count + 1) (some spot.position) next rest
            else none

/-- As many rounds as there are, each in the first way that it matches, none taken back. -/
def possessiveRounds (body : Step) (least : Nat) (most : Option Nat) :
    Nat → Nat → Option Nat → Spot → Option Spot
  | 0, _, _, _ => none
  | fuel + 1, count, last, spot =>
      if count < least then
        (body spot some).bind (possessiveRounds body least most fuel (count + 1) last)
      else if below count most && last != some spot.position then
        match body spot some with
        | some next => possessiveRounds body least most fuel (count + 1) (some spot.position) next
        | none => some spot
      else some spot

/-- The number of characters of a set from a place on, up to a bound. -/
def runLength (text : Array Char) (set : CharSet) : Nat → Nat → Nat
  | 0, _ => 0
  | bound + 1, position =>
      match text[position]? with
      | some c => if set.admits c then runLength text set bound (position + 1) + 1 else 0
      | none => 0

/-- Go on behind `count` characters, or behind fewer, but not behind fewer than `least`. -/
def backOff (least : Nat) (spot : Spot) (rest : Rest) : Nat → Option Spot
  | 0 => if least = 0 then rest spot else none
  | count + 1 =>
      if count + 1 < least then none
      else
        match rest { spot with position := spot.position + (count + 1) } with
        | some done => some done
        | none => backOff least spot rest count

/-- The rounds that a repetition can take: the least count, and one for every place, and
one more. -/
def roundLimit (text : Array Char) (least : Nat) : Nat :=
  least + text.size + 2

namespace Node

def run (text : Array Char) : Node → Step
  | .empty, spot, rest => rest spot
  | .char set, spot, rest =>
      match text[spot.position]? with
      | some c => if set.admits c then rest { spot with position := spot.position + 1 } else none
      | none => none
  | .anchor place, spot, rest => if place.holds text spot.position then rest spot else none
  | .seq first second, spot, rest => run text first spot fun next => run text second next rest
  | .either first second, spot, rest =>
      match run text first spot rest with
      | some done => some done
      | none => run text second spot rest
  | .group index body, spot, rest =>
      run text body spot fun next =>
        rest { next with captures := (index, spot.position, next.position) :: next.captures }
  | .iterate .greedy least most (.char set), spot, rest =>
      let bound := text.size - spot.position
      backOff least spot rest
        (runLength text set ((most.map (min bound)).getD bound) spot.position)
  | .iterate .greedy least most body, spot, rest =>
      greedyRounds (run text body) least most (roundLimit text least) 0 none spot rest
  | .iterate .lazy least most body, spot, rest =>
      lazyRounds (run text body) least most (roundLimit text least) 0 none spot rest
  | .iterate .possessive least most body, spot, rest =>
      (possessiveRounds (run text body) least most (roundLimit text least) 0 none spot).bind rest
  | .again index comparison, spot, rest =>
      match spot.captures.lookup index with
      | some (start, stop) =>
          if repeatsAt text comparison start spot.position (stop - start) then
            rest { spot with position := spot.position + (stop - start) }
          else none
      | none => none
  | .look .ahead negated _ body, spot, rest =>
      match run text body spot some with
      | some found => if negated then none else rest { found with position := spot.position }
      | none => if negated then rest spot else none
  | .look .behind negated width body, spot, rest =>
      let found :=
        if spot.position < width then none
        else run text body { spot with position := spot.position - width } some
      match found with
      | some found => if negated then none else rest { found with position := spot.position }
      | none => if negated then rest spot else none
  | .atomic body, spot, rest => (run text body spot some).bind rest
  | .whether index present absent, spot, rest =>
      if (spot.captures.lookup index).isSome then run text present spot rest
      else run text absent spot rest

/-- Whether the pattern matches from one of the places from `position` on. -/
def foundFrom (text : Array Char) (node : Node) : Nat → Nat → Bool
  | 0, position => (node.run text ⟨position, []⟩ some).isSome
  | more + 1, position =>
      (node.run text ⟨position, []⟩ some).isSome || foundFrom text node more (position + 1)

/-- Whether the pattern matches somewhere in the text. -/
def found (node : Node) (text : List Char) : Bool :=
  foundFrom text.toArray node text.length 0

end Node

/-- Search a text for a pattern given as text. -/
def search [CharacterNames] (pattern text : List Char) : Except Fault Bool :=
  (read pattern).map fun node => node.found text

end CommitLint.Pattern
