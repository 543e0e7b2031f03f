import CommitLint.FileTree.Basic
import CommitLint.Text.Utf8

/-!
# Access to files

What paths mean in a tree, and reading and writing by path. A path is
walked part by part, and every step needs a directory to start from. Asking
whether something is there answers no for a path that leads nowhere.
-/

namespace CommitLint.FileTree

/-- The longest name that a directory can hold, and the longest path, in bytes. -/
def nameLimit : Nat :=
  255

def pathLimit : Nat :=
  4095

/-- Go one part on from a place. -/
def step (tree : FileTree) (location : Location) (part : String) : Except SystemError Location :=
  match tree.get? location with
  | none => .error .notFound
  | some (.file _ _) => .error .notDirectory
  | some .directory =>
      if part == ".." then .ok location.dropLast
      else if nameLimit < part.utf8ByteSize then .error .nameTooLong
      else .ok (location ++ [part])

def walk (tree : FileTree) (location : Location) : List String → Except SystemError Location
  | [] => .ok location
  | part :: rest => do tree.walk (← tree.step location part) rest

/-- The place that a path leads to; nothing needs to be there. -/
def locate (tree : FileTree) (path : Path) : Except SystemError Location :=
  if pathLimit < path.text.utf8ByteSize then .error .nameTooLong
  else tree.walk (if path.isAbsolute then [] else tree.current) path.parts

def entryAt (tree : FileTree) (path : Path) : Except SystemError Entry := do
  match tree.get? (← tree.locate path) with
  | some entry => .ok entry
  | none => .error .notFound

/-- Ask about the entry at a path; a path that leads nowhere satisfies nothing. -/
def test (tree : FileTree) (path : Path) (p : Entry → Bool) : Except FileFault Bool :=
  if path.hasNull then .ok false
  else
    match tree.entryAt path with
    | .ok entry => .ok (p entry)
    | .error .nameTooLong => .error (.system .nameTooLong path.text)
    | .error _ => .ok false

def isFile (tree : FileTree) (path : Path) : Except FileFault Bool :=
  tree.test path fun entry => entry matches .file _ _

def isDirectory (tree : FileTree) (path : Path) : Except FileFault Bool :=
  tree.test path fun entry => entry matches .directory

def isThere (tree : FileTree) (path : Path) : Except FileFault Bool :=
  tree.test path fun _ => true

/-- The content of a file at a path, which faults show as `shown`. -/
def read (tree : FileTree) (path : Path) (shown : String) : Except FileFault Content :=
  if path.hasNull then .error .nullByte
  else
    match tree.entryAt path with
    | .ok (.file content _) => .ok content
    | .ok .directory => .error (.system .isDirectory shown)
    | .error error => .error (.system error shown)

/-- Store a content at a path. A file that is there keeps its mode. -/
def write (tree : FileTree) (path : Path) (shown : String) (content : Content) :
    Except FileFault FileTree :=
  if path.hasNull then .error .nullByte
  else
    match tree.locate path with
    | .error error => .error (.system error shown)
    | .ok location =>
        match tree.get? location with
        | some .directory => .error (.system .isDirectory shown)
        | some (.file _ mode) => .ok (tree.insert location (.file content mode))
        | none => .ok (tree.insert location (.file content 0o644))

/-- Set the mode of a file; a directory keeps its own. -/
def setMode (tree : FileTree) (path : Path) (mode : Nat) : FileTree :=
  match tree.locate path with
  | .error _ => tree
  | .ok location =>
      match tree.get? location with
      | some (.file content _) => tree.insert location (.file content mode)
      | _ => tree

/-- Remove a file. -/
def remove (tree : FileTree) (path : Path) : FileTree :=
  match tree.locate path with
  | .error _ => tree
  | .ok location => tree.erase location

/-- The names in the directory at a path; elsewhere there are none. -/
def list (tree : FileTree) (path : Path) : List String :=
  match tree.locate path with
  | .error _ => []
  | .ok location => tree.names location

/-- The absolute path without steps up that a path means from the working directory. -/
def resolve (tree : FileTree) (path : Path) : Path :=
  ⟨"/", Path.climb (if path.isAbsolute then path.parts else tree.current ++ path.parts)⟩

end CommitLint.FileTree
