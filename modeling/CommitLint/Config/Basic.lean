import CommitLint.Value.Basic

/-!
# Configurations

What a linter is set up with: how much it tells, the entries of the rules in
their order, and two lists of patterns for messages to be left alone. A
configuration is built from values of any shape; rules may come as a map or
as pairs, patterns as anything that has elements.
-/

namespace CommitLint

structure Config where
  verbose : Value
  rules : Entries
  ignores : List Value
  defaultIgnores : List Value
  customRulesDir : Value
deriving Inhabited

/-- Why values have not the shape of a configuration. -/
inductive ShapeFault where
  | notIterable (kind : String)
  | notSequence (index : Nat)
  | notPair (index length : Nat)
  | unhashable (kind : String)
deriving DecidableEq, Repr

namespace ShapeFault

def message : ShapeFault → String
  | .notIterable kind => "'" ++ kind ++ "' object is not iterable"
  | .notSequence index =>
      "cannot convert dictionary update sequence element #" ++ toString index ++ " to a sequence"
  | .notPair index length =>
      "dictionary update sequence element #" ++ toString index ++ " has length " ++
        toString length ++ "; 2 is required"
  | .unhashable kind => "unhashable type: '" ++ kind ++ "'"

end ShapeFault

namespace Config

/-- The key and the content of an element that is a pair. -/
def readPair (index : Nat) (element : Value) : Except ShapeFault (Value × Value) :=
  match element.elements? with
  | none => .error (.notSequence index)
  | some [key, content] =>
      match key.keyFault? with
      | some part => .error (.unhashable part.kindName)
      | none => .ok (key, content)
  | some items => .error (.notPair index items.length)

/-- Pairs in their order, counted on from `index`. -/
def readPairs (index : Nat) : List Value → Except ShapeFault Entries
  | [] => .ok []
  | element :: rest => do
      let pair ← readPair index element
      let others ← readPairs (index + 1) rest
      return pair :: others

/-- The entries that a value holds: those of a map, or its elements as pairs. -/
def readEntries (value : Value) : Except ShapeFault Entries :=
  match value with
  | .map entries => .ok entries
  | other =>
      match other.elements? with
      | none => .error (.notIterable other.kindName)
      | some items => (readPairs 0 items).map Entries.ofList

def readItems (value : Value) : Except ShapeFault (List Value) :=
  match value.elements? with
  | none => .error (.notIterable value.kindName)
  | some items => .ok items

/-- A configuration from its parts; the rules are asked first, then the patterns. -/
def ofValues (verbose rules ignores defaultIgnores customRulesDir : Value) :
    Except ShapeFault Config := do
  let entries ← readEntries rules
  let patterns ← readItems ignores
  let defaults ← readItems defaultIgnores
  return ⟨verbose, entries, patterns, defaults, customRulesDir⟩

def allIgnores (config : Config) : List Value :=
  config.ignores ++ config.defaultIgnores

def limit (length : Int) : Value :=
  .map [(.text "maxLength", .int length)]

/-- What holds where a project says nothing. -/
def default : Config where
  verbose := .bool true
  rules :=
    [(.text "conventional-commits", .int 2),
      (.text "header-max-length", .tuple [.int 2, limit 72]),
      (.text "body-max-line-length", .tuple [.int 2, limit 100]),
      (.text "body-leading-blank", .int 2),
      (.text "no-trailing-whitespace", .int 1)]
  ignores := []
  defaultIgnores :=
    [.text "^Merge branch", .text "^Merge pull request", .text "^Merged PR", .text "^Revert ",
      .text "^Release "]
  customRulesDir := .null

end Config

end CommitLint
