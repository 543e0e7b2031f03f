import CommitLint.Failure
import CommitLint.FileTree.Access

/-!
# Configuration files

Where the configuration of a project is looked for, and what a file there
means. Without a file the default holds.
-/

namespace CommitLint.Config

def fileNames : List String :=
  ["gitmsglint.yml", "gitmsglint.yaml", ".gitmsglint.yml"]

/-- The first of some names that a file has in a directory. -/
def findNamed (tree : FileTree) (project : Path) : List String → Except FileFault (Option Path)
  | [] => .ok none
  | name :: rest => do
      if ← tree.isFile (project.child name) then return some (project.child name)
      else findNamed tree project rest

def find (tree : FileTree) (project : Path) : Except FileFault (Option Path) :=
  findNamed tree project fileNames

/-- The value that the text of a file means; an empty document is an empty map. -/
def readText (path : Path) (text : List Char) : Except Failure Value :=
  match Yaml.read text with
  | .ok .null => .ok (.map [])
  | .ok value => .ok value
  | .error .malformed => .error (.config (.invalidYaml path.text))
  | .error fault => .error (.scalar fault)

/-- The default with the file at a path laid over it. -/
def readFile (tree : FileTree) (path : Path) : Logged (Except Failure Config) :=
  let result : Except Failure (Logged Config) := do
    let content ← (tree.read path path.text).mapError .file
    let text ← FileTree.textOf content.toBytes
    (overlay (← readText path text) default).mapError .config
  match result with
  | .ok found => .after (.loadingConfig path.text) ⟨.ok found.value, found.events⟩
  | .error failure => ⟨.error failure, [.loadingConfig path.text]⟩

/-- The path of the file to read: the one that was asked for, or one that the project has. -/
def choose (tree : FileTree) (project : Path) (file : Option String) :
    Except Failure (Option Path) :=
  match file with
  | none => (find tree project).mapError .file
  | some name => do
      if ← (tree.isFile (Path.ofText name)).mapError .file then return some (Path.ofText name)
      else throw (.config (.fileNotFound name))

/-- The configuration of a project, or what keeps it from being used. -/
def load (tree : FileTree) (project : Path) (file : Option String) :
    Logged (Except Failure Config) :=
  match choose tree project file with
  | .error failure => .quiet (.error failure)
  | .ok none => .quiet (.ok default)
  | .ok (some path) => readFile tree path

end CommitLint.Config
