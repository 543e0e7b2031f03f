import CommitLint.FileTree.Action
import CommitLint.Hook.Command
import CommitLint.Text.Search

/-!
# The hook

A script in the directory of the hooks that lints every message before it is
committed. A marker tells it from hooks of others, which are neither
overwritten unasked nor removed. The file is emptied before the script is
encoded and written, and its mode is set last, so that a step which fails on
the way leaves what the steps before it have done.
-/

namespace CommitLint

namespace Hook

def name : String :=
  "commit-msg"

def marker : String :=
  "# gitmsglint commit-msg hook"

/-- The script up to the command, and behind it. -/
def scriptHead : String :=
  "#!/bin/sh\n" ++ marker ++ "\n" ++
    "# Installed by gitmsglint; remove with \x60gitmsglint hooks --uninstall\x60.\n\n"

def scriptTail : String :=
  " lint --edit \"$1\"\n"

def script (command : String) : String :=
  scriptHead ++ command ++ scriptTail

/-- The bytes of the script for a command that may hold halves of pairs. -/
def encodedScript (command : Text.LooseText) : Except Text.EncodingFault (List UInt8) :=
  Text.LooseText.encode (.ofString scriptHead ++ command ++ .ofString scriptTail)

/-- Whether the file at a path carries the marker. Bytes that are no text do not matter. -/
def isOurs (tree : FileTree) (path : Path) : Except FileFault Bool :=
  match tree.read path path.text with
  | .ok content =>
      .ok (Text.occurs marker.toList
        (Text.unifyNewlines (Text.Utf8.decodeLossy content.toBytes)))
  | .error .nullByte => .error .nullByte
  | .error _ => .ok false

/-- The command to write: as given, or the one that is found; an empty text is not given. -/
def commandText (tree : FileTree) (surroundings : Surroundings) (command : Option Text.LooseText) :
    Except FileFault Text.LooseText :=
  match command with
  | some (first :: rest) => .ok (first :: rest)
  | _ => (surroundings.command tree).map .ofString

/-- What the system refuses for reasons that a tree does not show, such as rights or room. -/
structure Refusals where
  opening : Option SystemError := none
  writing : Option SystemError := none
  marking : Option SystemError := none
  removing : Option SystemError := none
deriving Repr, Inhabited

/-- Let the system refuse a step. -/
def grant (refusal : Option SystemError) (fault : SystemError → FileFault) : FileAction Unit :=
  FileAction.demand
    (match refusal with
    | none => .ok ()
    | some error => .error (.file (fault error)))

/-- Write the hook into a directory, and answer with its path. -/
def install (refusals : Refusals) (surroundings : Surroundings) (directory : Path)
    (command : Option Text.LooseText) (force : Bool) : FileAction Path := do
  let path := directory.child name
  FileAction.check (← FileAction.ask (·.isDirectory directory))
    (.hook (.noDirectory directory.text))
  FileAction.check (!(← FileAction.ask (·.isThere path)) || force) (.hook .present)
  let command ← FileAction.ask (commandText · surroundings command)
  grant refusals.opening (.system · path.text)
  FileAction.change (·.write path path.text (.bytes []))
  let script ← FileAction.demand ((encodedScript command).mapError .encoding)
  grant refusals.writing .unnamed
  FileAction.change (·.write path path.text (.bytes script))
  grant refusals.marking (.system · path.text)
  FileAction.change fun tree => .ok (tree.setMode path 0o755)
  return path

/-- Remove the hook from a directory, and answer whether there was one. -/
def uninstall (refusals : Refusals) (directory : Path) : FileAction Bool := do
  let path := directory.child name
  if ← FileAction.ask (·.isThere path) then
    FileAction.check (← FileAction.ask (isOurs · path)) (.hook .foreign)
    grant refusals.removing (.system · path.text)
    FileAction.change fun tree => .ok (tree.remove path)
    return true
  else return false

end Hook

end CommitLint
