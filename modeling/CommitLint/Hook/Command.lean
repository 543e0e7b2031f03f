import CommitLint.FileTree.Access
import CommitLint.Text.Word

/-!
# The command of the hook

Which program the hook runs: the one that was found, or one of the places
where it is usually installed, or the interpreter with the module. The path
is written so that a shell reads it as one word. What is found is a text;
paths of bytes that are no text are left out.
-/

namespace CommitLint

namespace Shell

/-- The characters that mean nothing to a shell. -/
def isSafe (c : Char) : Bool :=
  Text.isAsciiWord c || "@%+=:,./-".toList.contains c

/-- A single quote ends the quotation, stands in double quotes, and the quotation goes on. -/
def quoteChar (c : Char) : List Char :=
  if c == '\'' then ['\'', '"', '\'', '"', '\''] else [c]

def quote (word : List Char) : List Char :=
  if !word.isEmpty && word.all isSafe then word
  else '\'' :: word.flatMap quoteChar ++ ['\'']

end Shell

/-- Where programs are looked for; an empty text is no answer. -/
structure Surroundings where
  found : Option String
  /-- The directory of the user, unless nobody knows it. -/
  home : Option String
  scripts : Option String
  interpreter : String
deriving Repr, Inhabited

namespace Surroundings

/-- A text that is there and not empty. -/
def answer? : Option String → Option String
  | some "" => none
  | answer => answer

/-- The places besides the one found, in the order in which they are looked at. -/
def places (surroundings : Surroundings) (home : String) : List Path :=
  ((((Path.ofText home).child ".local").child "bin").child "gitmsglint") ::
    match answer? surroundings.scripts with
    | none => []
    | some scripts => [(Path.ofText scripts).child "gitmsglint"]

/-- The first of some paths that a file is at. -/
def firstFile? (tree : FileTree) : List Path → Except FileFault (Option Path)
  | [] => .ok none
  | path :: rest => do if ← tree.isFile path then return some path else firstFile? tree rest

/-- The path of the program, unless only the interpreter is left. -/
def program? (surroundings : Surroundings) (tree : FileTree) : Except FileFault (Option String) :=
  match answer? surroundings.found, surroundings.home with
  | some found, _ => .ok (some found)
  | none, none => .error .noHome
  | none, some home => (firstFile? tree (surroundings.places home)).map (·.map (·.text))

/-- The command as a shell reads it. -/
def command (surroundings : Surroundings) (tree : FileTree) : Except FileFault String := do
  match ← surroundings.program? tree with
  | some program => return String.ofList (Shell.quote program.toList)
  | none =>
      return String.ofList (Shell.quote surroundings.interpreter.toList) ++ " -m gitmsglint"

end Surroundings

end CommitLint
