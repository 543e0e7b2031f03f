import CommitLint.Text.Lines

/-!
# Paths

A path as a root and the parts below it. Repeated slashes and parts that
stay where they are have no meaning and are left out; a step up stays,
because it depends on what is there. Two slashes at the front are a root of
their own.
-/

namespace CommitLint

structure Path where
  /-- Empty for a relative path. -/
  root : String
  parts : List String
deriving DecidableEq, Repr, Inhabited

namespace Path

def readRoot (text : List Char) : String :=
  match text with
  | '/' :: '/' :: '/' :: _ => "/"
  | '/' :: '/' :: _ => "//"
  | '/' :: _ => "/"
  | _ => ""

def isPart (part : List Char) : Bool :=
  part != [] && part != ['.']

def ofText (text : String) : Path :=
  ⟨readRoot text.toList, ((Text.splitOn '/' text.toList).filter isPart).map String.ofList⟩

def isAbsolute (path : Path) : Bool :=
  path.root != ""

/-- The path as text; the path without parts is a dot. -/
def text (path : Path) : String :=
  let body := "/".intercalate path.parts
  if path.root == "" && path.parts.isEmpty then "." else path.root ++ body

/-- A path seen from another one. -/
def join (path below : Path) : Path :=
  if below.isAbsolute then below else ⟨path.root, path.parts ++ below.parts⟩

def child (path : Path) (name : String) : Path :=
  ⟨path.root, path.parts ++ [name]⟩

/-- Take the steps up: each goes back one part, and above the root there is nothing. -/
def climb (parts : List String) : List String :=
  parts.foldl (fun taken part => if part == ".." then taken.dropLast else taken ++ [part]) []

def hasNull (path : Path) : Bool :=
  path.parts.any fun part => part.toList.contains '\x00'

end Path

end CommitLint
