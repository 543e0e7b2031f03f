import CommitLint.Failure
import CommitLint.FileTree.Access
import CommitLint.Log
import CommitLint.Text.Blank

/-!
# The directory of the hooks

The repository says where its hooks are. Its answer is a path, seen from the
project; no answer means that there is no repository. What it prints is read
as text, with line feeds for all line ends; bytes that are no text are a
failure of their own. Links are not followed, because a tree has none.
-/

namespace CommitLint

/-- What the repository answered, unless it could not be asked or what it printed is no text. The
output is what was read of it, where every line ends with a line feed. -/
inductive RepositoryAnswer where
  | status (code : Int) (output : String)
  | failed
  | unreadable (fault : Text.Utf8.Fault)
deriving Repr, Inhabited

namespace RepositoryAnswer

/-- The path in an answer, without the blanks around it. -/
def path? : RepositoryAnswer → Option Path
  | .failed => none
  | .unreadable _ => none
  | .status code output =>
      if code != 0 then none
      else
        match Text.trim output.toList with
        | [] => none
        | path => some (Path.ofText (String.ofList path))

end RepositoryAnswer

namespace Hook

/-- The path as the system resolves it, from the working directory if it is a relative one. -/
def resolved (tree : FileTree) (path : Path) : Except Failure Path :=
  if path.isAbsolute || tree.hasCurrent then .ok (tree.resolve path)
  else .error (.file (.unnamed .notFound))

/-- The absolute path of the directory, for a project at a path. -/
def directory (tree : FileTree) (answer : RepositoryAnswer) (project : Path) :
    Logged (Except Failure (Option Path)) :=
  match answer with
  | .unreadable fault => .quiet (.error (.decoding fault))
  | .failed => ⟨.ok none, [.gitFailed]⟩
  | .status _ _ =>
      .quiet
        (match answer.path? with
        | none => .ok none
        | some path => (resolved tree (project.join path)).map some)

end Hook

end CommitLint
