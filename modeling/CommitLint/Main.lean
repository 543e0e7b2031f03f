import CommitLint.CommandLine.Program

/-!
# The executable

Reads what a command may look at, runs the program on it, and carries out
what it says: the files that changed, the two channels, and the status.
-/

open CommitLint

/-- The names that the program knows within a project. -/
def knownNames : List String :=
  ["", "/.git", "/.git/hooks", "/.git/hooks/commit-msg"] ++ Config.fileNames.map ("/" ++ ·)

/-- The words that may name a file or a project, an option with its value in two parts. -/
def namedPlaces (arguments : List String) : List String :=
  arguments.flatMap fun word =>
    match CommandSpec.splitValue word.toList with
    | (_, some value) => [word, String.ofList value]
    | (_, none) => [word]

def candidates (here : String) (arguments : List String) : List String :=
  (here :: namedPlaces arguments).flatMap fun place => knownNames.map (place ++ ·)

/-- Store what is at a path on the disk, if there is something. -/
def snapshot (isDirectory : String → IO Bool) (tree : FileTree) (path : String) : IO FileTree := do
  let place := (tree.resolve (Path.ofText path)).parts
  if ← isDirectory path then return tree.makeDirectories place
  try
    let bytes ← IO.FS.readBinFile path
    let above := tree.makeDirectories place.dropLast
    return above.insert place (.file (.bytes bytes.toList) 0o644)
  catch _ => return tree

/-- The rights of the owner, the group or others, from one digit of a mode. -/
def rightsOf (digit : Nat) : IO.AccessRight :=
  { read := digit / 4 % 2 == 1, write := digit / 2 % 2 == 1, execution := digit % 2 == 1 }

def setRights (path : String) (mode : Nat) : IO Unit :=
  IO.setAccessRights path
    { user := rightsOf (mode / 64 % 8)
      group := rightsOf (mode / 8 % 8)
      other := rightsOf (mode % 8) }

/-- Bring the disk up to date at one path. -/
def store (before after : FileTree) (path : String) : IO Unit := do
  let place := (before.resolve (Path.ofText path)).parts
  match before.get? place, after.get? place with
  | some (.file _ _), none => IO.FS.removeFile path
  | old, some (.file content mode) =>
      let bytes := content.toBytes
      let (oldBytes, oldMode) :=
        match old with
        | some (.file oldContent oldMode) => (oldContent.toBytes, oldMode)
        | _ => ([], 0)
      if bytes != oldBytes || mode != oldMode then
        IO.FS.writeBinFile path ⟨bytes.toArray⟩
        setRights path mode
  | _, _ => return ()

/-- All that is left to read. -/
partial def readAll (stream : IO.FS.Stream) (read : String) : IO String := do
  let line ← stream.getLine
  if line.isEmpty then return read else readAll stream (read ++ line)

def readsInput (arguments : List String) : Bool :=
  arguments.head? == some "lint" || arguments.head? == some "parse"

open CharacterNames in
def main (arguments : List String) : IO UInt32 := do
  let base ← IO.currentDir
  let here := base.toString
  let current := (Path.ofText here).parts
  let paths := candidates here arguments
  let mut tree := FileTree.initial current
  for path in paths do
    tree ← snapshot (fun path => (base / path).isDir) tree path
  let stdin ← IO.getStdin
  let terminal ← stdin.isTty
  let input ← if terminal || !readsInput arguments then pure "" else readAll stdin ""
  let repository : RepositoryAnswer :=
    if tree.isDirectoryAt (current ++ [".git"]) then .status 0 ".git/hooks" else .status 128 ""
  let world : World :=
    { tree := tree
      input := ⟨input, false⟩
      terminal := terminal
      surroundings := ⟨some (← IO.appPath).toString, some here, none, "python3"⟩
      repository := repository
      refusals := {} }
  let level ← IO.getEnv "GITMSGLINT_LOG_LEVEL"
  let run := Program.run world level arguments
  for path in paths do
    store tree run.tree path
  IO.print run.stdout
  IO.eprint (run.stderr (Program.shownFrom level))
  match run.ending with
  | .ok status => return status.toUInt32
  | .error failure =>
      IO.eprintln failure.message
      return 1
