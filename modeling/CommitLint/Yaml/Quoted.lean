import CommitLint.Text.Hex
import CommitLint.Yaml.Cursor

/-!
# Quoted scalars

Between quotes, spaces stand for themselves unless a line break is among
them. A break is folded into a blank, more breaks into one break less, and
the spaces around breaks are dropped. Double quotes know escapes; an escaped
break vanishes.
-/

namespace CommitLint.Yaml

/-- What stands between two words: spaces, or breaks, the first of which may be escaped. -/
inductive Gap where
  | spaces (reversed : List Char)
  | breaks (first : Option Char) (reversed : List Char)

namespace Gap

def empty : Gap :=
  .spaces []

def isEmpty : Gap → Bool
  | .spaces [] => true
  | _ => false

def hasBreak : Gap → Bool
  | .spaces _ => false
  | .breaks _ _ => true

def space (c : Char) : Gap → Gap
  | .spaces reversed => .spaces (c :: reversed)
  | gap => gap

def newLine (c : Char) : Gap → Gap
  | .spaces _ => .breaks (some (plainBreak c)) []
  | .breaks first reversed => .breaks first (plainBreak c :: reversed)

/-- What the gap stands for. -/
def text : Gap → List Char
  | .spaces reversed => reversed.reverse
  | .breaks none reversed => reversed.reverse
  | .breaks (some first) reversed =>
      if first != '\n' then first :: reversed.reverse
      else if reversed.isEmpty then [' ']
      else reversed.reverse

end Gap

/-- The text of a scalar, and where it ends. -/
structure Scanned where
  text : List Char
  cursor : Cursor

namespace Scanned

/-- Put text before what was read behind it. -/
def before (text : List Char) (scanned : Scanned) : Scanned :=
  ⟨text ++ scanned.text, scanned.cursor⟩

end Scanned

/-- The text up to a single quote; two of them stand for one. -/
def readSingle (place : Place) (gap : Gap) : List Char → Except Fault Scanned
  | [] => .error .malformed
  | '\'' :: '\'' :: rest =>
      (readSingle ((place.after '\'').after '\'') .empty rest).map (.before (gap.text ++ ['\'']))
  | '\'' :: rest => .ok ⟨gap.text, place.after '\'', rest⟩
  | c :: rest =>
      if isSpace c then readSingle (place.after c) (gap.space c) rest
      else if isBreak c then
        if separatorAhead rest then .error .malformed
        else readSingle (place.after c) (gap.newLine c) rest
      else (readSingle (place.after c) .empty rest).map (.before (gap.text ++ [c]))

/-- The escapes by one character. -/
def escapes : List (Char × Char) :=
  [('0', '\x00'), ('a', '\x07'), ('b', '\x08'), ('t', '\t'), ('\t', '\t'), ('n', '\n'),
  ('v', '\x0B'), ('f', '\x0C'), ('r', '\r'), ('e', '\x1B'), (' ', ' '), ('"', '"'), ('\\', '\\'),
  ('/', '/'), ('N', '\x85'), ('_', '\xA0'), ('L', '\u2028'), ('P', '\u2029')]

/-- The escapes by a code, with the number of its digits. -/
def codeEscapes : List (Char × Nat) :=
  [('x', 2), ('u', 4), ('U', 8)]

/-- The character of a code; half of a pair of codes is none that a text can hold here. -/
def charOfCode (code : Nat) : Except Fault Char :=
  if 0xD800 ≤ code && code < 0xE000 then .error .halfPair
  else if code < 0x110000 then .ok (Char.ofNat code)
  else if code < 0x80000000 then .error .codeOutOfRange
  else .error .codeOverflow

/-- The character that an escape stands for, and how many characters write it. -/
def readEscape : List Char → Except Fault (Char × Nat)
  | [] => .error .malformed
  | c :: rest =>
      match escapes.lookup c, codeEscapes.lookup c with
      | some meant, _ => .ok (meant, 1)
      | none, some width =>
          match Text.hexNumber? width rest with
          | some code => (charOfCode code).map fun meant => (meant, width + 1)
          | none => .error .malformed
      | none, none => .error .malformed

/-- The text up to a double quote. -/
def readDouble (place : Place) (gap : Gap) : List Char → Except Fault Scanned
  | [] => .error .malformed
  | '"' :: rest => .ok ⟨gap.text, place.after '"', rest⟩
  | '\\' :: c :: rest =>
      if isBreak c then
        if separatorAhead rest then .error .malformed
        else
          (readDouble ((place.after '\\').after c) (.breaks none []) rest).map (.before gap.text)
      else
        match readEscape (c :: rest) with
        | .error fault => .error fault
        | .ok (meant, width) =>
            (readDouble (place.afterAll ('\\' :: (c :: rest).take width)) .empty
              (rest.drop (width - 1))).map (.before (gap.text ++ [meant]))
  | c :: rest =>
      if c == '\\' then .error .malformed
      else if isSpace c then readDouble (place.after c) (gap.space c) rest
      else if isBreak c then
        if separatorAhead rest then .error .malformed
        else readDouble (place.after c) (gap.newLine c) rest
      else (readDouble (place.after c) .empty rest).map (.before (gap.text ++ [c]))
termination_by text => text.length
decreasing_by
  all_goals simp only [List.length_drop, List.length_cons]
  all_goals omega

end CommitLint.Yaml
