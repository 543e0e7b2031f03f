import CommitLint.FileTree.Path
import CommitLint.Rule.Module
import CommitLint.Text.Quoted

/-!
# File trees

Directories and files by where they are. A place is the sequence of names
that leads to it from the root, which is always a directory; storing or
erasing an entry changes nothing at any other place. There are no links in a
tree, and no owners: every name leads to one place, and every file may be
read. Names are texts, so that names of bytes that are no text are left out.
A working directory that is gone is nowhere, while a system still finds it, and
those above it, by paths of dots.
-/

namespace CommitLint

/-- The names from the root down. -/
abbrev Location := List String

inductive Content where
  | bytes (content : List UInt8)
  | rules (file : RuleModule)
deriving Repr

/-- The bytes of a content; those of a rule file are not looked at. -/
def Content.toBytes : Content → List UInt8
  | .bytes content => content
  | .rules _ => []

inductive Entry where
  | directory
  | file (content : Content) (mode : Nat)
deriving Repr

structure FileTree where
  entries : List (Location × Entry)
  /-- The working directory; it is gone if nothing is there. -/
  current : Location
deriving Repr

/-- Why the system refuses to do something with a path. -/
inductive SystemError where
  | notFound
  | notDirectory
  | isDirectory
  | nameTooLong
  | notPermitted
  | denied
  | noSpace
deriving DecidableEq, Repr

namespace SystemError

def number : SystemError → Nat
  | .notPermitted => 1
  | .notFound => 2
  | .denied => 13
  | .notDirectory => 20
  | .isDirectory => 21
  | .noSpace => 28
  | .nameTooLong => 36

def text : SystemError → String
  | .notFound => "No such file or directory"
  | .notDirectory => "Not a directory"
  | .isDirectory => "Is a directory"
  | .nameTooLong => "File name too long"
  | .notPermitted => "Operation not permitted"
  | .denied => "Permission denied"
  | .noSpace => "No space left on device"

end SystemError

/-- A refusal with the path as it was given or without one, a path that no system can take, or a
home that nobody knows. -/
inductive FileFault where
  | system (error : SystemError) (path : String)
  | unnamed (error : SystemError)
  | nullByte
  | noHome
deriving DecidableEq, Repr

namespace FileFault

def message : FileFault → String
  | .system error path =>
      "[Errno " ++ toString error.number ++ "] " ++ error.text ++ ": " ++
        String.ofList (Text.quoted path.toList)
  | .unnamed error => "[Errno " ++ toString error.number ++ "] " ++ error.text
  | .nullByte => "embedded null byte"
  | .noHome => "Could not determine home directory."

end FileFault

namespace FileTree

def get? (tree : FileTree) : Location → Option Entry
  | [] => some .directory
  | location => tree.entries.lookup location

def insert (tree : FileTree) (location : Location) (entry : Entry) : FileTree :=
  { tree with
    entries := (location, entry) :: tree.entries.filter fun stored => stored.1 != location }

theorem get?_insert_self (tree : FileTree) {location : Location} (entry : Entry)
    (below : location ≠ []) : (tree.insert location entry).get? location = some entry := by
  cases location with
  | nil => exact absurd rfl below
  | cons part rest => simp [get?, insert]

/-- An entry is seen at its own place only. -/
theorem get?_insert_of_ne (tree : FileTree) {location other : Location} (entry : Entry)
    (apart : other ≠ location) : (tree.insert location entry).get? other = tree.get? other := by
  cases other with
  | nil => rfl
  | cons part rest =>
      have unequal : ((part :: rest) == location) = false := by simp [apart]
      simp only [get?, insert, List.lookup_cons, unequal]
      induction tree.entries with
      | nil => rfl
      | cons stored others ih =>
          obtain ⟨place, held⟩ := stored
          by_cases same : place = location
          · simp [same, List.lookup_cons, unequal, ih]
          · simp [same, List.lookup_cons, ih]

/-- Erase what is at a place and below it. -/
def erase (tree : FileTree) (location : Location) : FileTree :=
  { tree with entries := tree.entries.filter fun stored => !location.isPrefixOf stored.1 }

theorem get?_erase (tree : FileTree) (location : Location) {other : Location}
    (below : other ≠ []) :
    (tree.erase location).get? other =
      if location.isPrefixOf other then none else tree.get? other := by
  cases other with
  | nil => exact absurd rfl below
  | cons part rest =>
      simp only [get?, erase]
      induction tree.entries with
      | nil => simp
      | cons stored others ih =>
          obtain ⟨place, held⟩ := stored
          by_cases same : part :: rest = place
          · subst same
            cases erased : location.isPrefixOf (part :: rest) <;>
              simp [erased, ih]
          · have unequal : ((part :: rest) == place) = false := by simp [same]
            cases erased : location.isPrefixOf place <;>
              simp [List.lookup_cons, erased, unequal, ih]

/-- The names in a directory, in their order. -/
def names (tree : FileTree) (location : Location) : List String :=
  let below := tree.entries.filterMap fun stored =>
    if stored.1.dropLast == location then stored.1.getLast? else none
  below.mergeSort fun first second => first ≤ second

def isDirectoryAt (tree : FileTree) (location : Location) : Bool :=
  tree.get? location matches some .directory

/-- Whether the working directory is still there. -/
def hasCurrent (tree : FileTree) : Bool :=
  tree.isDirectoryAt tree.current

theorem hasCurrent_iff {tree : FileTree} :
    tree.hasCurrent = true ↔ tree.get? tree.current = some .directory := by
  rw [hasCurrent, isDirectoryAt]
  split <;> simp_all

/-- Make a directory below `above`, and those that lead to it. -/
def makeDirectoriesFrom (tree : FileTree) (above : Location) : List String → FileTree
  | [] => tree
  | name :: rest =>
      let location := above ++ [name]
      let tree := if tree.isDirectoryAt location then tree else tree.insert location .directory
      makeDirectoriesFrom tree location rest

def makeDirectories (tree : FileTree) (location : Location) : FileTree :=
  tree.makeDirectoriesFrom [] location

/-- The tree that holds nothing but the working directory and those that lead to it. -/
def initial (current : Location) : FileTree :=
  makeDirectories ⟨[], current⟩ current

end FileTree

end CommitLint
