import CommitLint.Failure
import CommitLint.FileTree.Access

/-!
# Directories of rules

The rules that the files of a directory define. Files are taken in the order
of their names; hidden ones count, and those with a low line in front do
not. A file that fails is told of, and keeps nothing from the others. What
the code of a file does is not modelled: a file with code is given by a
description of what it defines, and one that is given by its bytes stands
for a source without code, or for one that cannot be read.
-/

namespace CommitLint

namespace RuleDirectory

def isRuleFile (name : String) : Bool :=
  ".py".toList.isSuffixOf name.toList && name.toList.head? != some '_'

/-- Whether a text has only blank lines and comments. -/
def isEmptyText (text : List Char) : Bool :=
  (Text.lines (Text.unifyNewlines text)).all fun line =>
    match line.dropWhile fun c => c == ' ' || c == '\t' || c == '\x0C' with
    | [] => true
    | '#' :: _ => true
    | _ => false

/-- A file that is given by its bytes defines no rules. If it has anything but blank lines and
comments, it counts as one that cannot be read; code has to be given by a description. A byte order
mark in front is no part of the text. -/
def ofBytes (bytes : List UInt8) : RuleModule :=
  let wellFormed :=
    match Text.Utf8.decode bytes with
    | .ok ('\uFEFF' :: text) => !text.contains '\x00' && isEmptyText text
    | .ok text => !text.contains '\x00' && isEmptyText text
    | .error _ => false
  { RuleModule.empty with wellFormed := wellFormed }

/-- The rules of one file, and whether it failed; a directory fails. -/
def loadFile (tree : FileTree) (path : Path) : List CustomRule × Bool :=
  match tree.read path path.text with
  | .ok (.rules file) => file.load
  | .ok (.bytes content) => (ofBytes content).load
  | .error _ => ([], true)

def loadFiles (tree : FileTree) (directory : Path) : List String → Logged (List CustomRule)
  | [] => .quiet []
  | name :: rest =>
      let path := directory.child name
      let (rules, failed) := loadFile tree path
      let others := loadFiles tree directory rest
      ⟨rules ++ others.value, (if failed then [.ruleFileFailed path.text] else []) ++ others.events⟩

/-- The rules of a directory, none where there is no directory. -/
def load (tree : FileTree) (directory : Path) : Logged (Except Failure (List CustomRule)) :=
  match tree.isDirectory directory with
  | .error fault => .quiet (.error (.file fault))
  | .ok false => .quiet (.ok [])
  | .ok true => (loadFiles tree directory ((tree.list directory).filter isRuleFile)).map .ok

/-- The rules of the directory that a value names, seen from the project. -/
def loadNamed (tree : FileTree) (project : Path) (name : Value) :
    Logged (Except Failure (List CustomRule)) :=
  match name with
  | .text text => load tree (project.join (Path.ofText text))
  | other => .quiet (.error (.rulesDirectory other.kindName))

end RuleDirectory

end CommitLint
