import CommitLint.CommandLine.Catalogue
import CommitLint.CommandLine.Output
import CommitLint.Config.Template
import CommitLint.Hook.Basic
import CommitLint.Hook.Directory
import CommitLint.Project
import CommitLint.Report

/-!
# What the commands do

Each command as a function from its words and the world around it to what
it says, how it ends, and the files that it leaves. What a command cannot
use it reports with status one; other failures leave it as they are.
-/

namespace CommitLint

/-- The text that waits at the input. Some streams hand over line feeds for all line ends, others
each line end as it is. -/
structure InputStream where
  content : String
  unifies : Bool

/-- The text that is read from a stream. -/
def InputStream.text (stream : InputStream) : List Char :=
  if stream.unifies then Text.unifyNewlines stream.content.toList else stream.content.toList

/-- What a command sees besides its words. -/
structure World where
  tree : FileTree
  input : InputStream
  /-- Whether the input comes from a terminal. -/
  terminal : Bool
  surroundings : Surroundings
  repository : RepositoryAnswer
  /-- What the system refuses while the hook is written or removed. -/
  refusals : Hook.Refusals

def version : String :=
  "0.1.0"

namespace World

/-- The current directory as text, where it is or was. -/
def here (world : World) : String :=
  (Path.mk "/" world.tree.current).text

/-- The directory of the project; an empty text means the current one. -/
def project (world : World) (words : Words) : String :=
  match Surroundings.answer? (words.value? "--project-dir") with
  | some given => given
  | none => world.here

/-- Whether the project is named, or the current directory is there to stand for it. -/
def hasProject (world : World) (words : Words) : Bool :=
  (Surroundings.answer? (words.value? "--project-dir")).isSome || world.tree.hasCurrent

def finish (world : World) (emissions : List Emission) (status : Nat) : Run :=
  ⟨emissions, .ok status, world.tree⟩

def fail (world : World) (emissions : List Emission) (failure : Failure) : Run :=
  ⟨emissions, .error failure, world.tree⟩

/-- Go on if there is a project; a current directory that is gone is not caught. -/
def inProject (world : World) (words : Words) (next : Run) : Run :=
  if world.hasProject words then next else world.fail [] (.file (.unnamed .notFound))

theorem inProject_of_hasProject {world : World} {words : Words}
    (there : world.hasProject words = true) (next : Run) : world.inProject words next = next :=
  if_pos there

theorem inProject_of_not_hasProject {world : World} {words : Words}
    (gone : world.hasProject words = false) (next : Run) :
    world.inProject words next = world.fail [] (.file (.unnamed .notFound)) :=
  if_neg (by simp [gone])

end World

namespace Command

variable [CharacterNames]

def logs (events : List Event) : List Emission :=
  events.map .log

/-- The text of a message file, or what to say about it; a path that no system takes is not
caught. -/
def readFile (world : World) (file : String) : Except Run String :=
  let path := Path.ofText file
  let refuse (reason : String) : Run :=
    world.finish [.err ("Error reading commit message file: " ++ file), .err reason] 1
  match world.tree.read path path.text with
  | .error .nullByte => .error (world.fail [] (.file .nullByte))
  | .error fault => .error (refuse fault.message)
  | .ok content =>
      match FileTree.textOf content.toBytes with
      | .ok text => .ok (String.ofList text)
      | .error failure => .error (refuse failure.message)

/-- The message: of a file, or of the input unless a terminal is behind it. -/
def readMessage (world : World) (spec : CommandSpec) (edit : Option String)
    (file : Option String) : Except Run String :=
  match Surroundings.answer? edit, file with
  | some edited, _ => readFile world edited
  | none, some file => readFile world file
  | none, none =>
      if world.terminal then .error (world.finish [.err (spec.page [])] 1)
      else .ok (String.ofList world.input.text)

/-- How diagnostics are shown: as a document, or warnings and errors apart from success. -/
def present (diagnostics : Diagnostics) (verbose asJson : Bool) : List Emission :=
  if asJson then [.out diagnostics.json]
  else
    diagnostics.warningBlock.toList.map .err ++ diagnostics.errorBlock.toList.map .err ++
      (diagnostics.successLine verbose).toList.map .out

/-- The verbosity that the words ask for. -/
def askedVerbose (words : Words) : Option Bool :=
  (words.last? ["--verbose", "--quiet"]).map fun occurrence => occurrence.spelling == "--verbose"

/-- Lint a message under a configuration that is loaded. -/
def lintMessage (world : World) (words : Words) (config : Config) (message : String) : Run :=
  let verbose := config.effectiveVerbose (askedVerbose words)
  let result := Project.lintWith world.tree (Path.ofText (world.project words)) config message
    (some verbose)
  match result.value with
  | .error failure => world.fail (logs result.events) failure
  | .ok diagnostics =>
      world.finish (logs result.events ++ present diagnostics verbose (words.has "--json"))
        diagnostics.exitCode

/-- Read a message and the configuration, and lint. -/
def lintInProject (world : World) (words : Words) : Run :=
  match readMessage world Catalogue.lint (words.value? "--edit") words.arguments.head? with
  | .error run => run
  | .ok message =>
      let loaded := Config.load world.tree (Path.ofText (world.project words))
        (words.value? "--config")
      match loaded.value with
      | .error (.config fault) =>
          world.finish (logs loaded.events ++ [.err ("Invalid configuration: " ++ fault.message)]) 1
      | .error failure => world.fail (logs loaded.events) failure
      | .ok config => (lintMessage world words config message).after (logs loaded.events)

def lint (world : World) (words : Words) : Run :=
  world.inProject words (lintInProject world words)

def parse (world : World) (words : Words) : Run :=
  match readMessage world Catalogue.parse (words.value? "--edit")
      (Surroundings.answer? words.arguments.head?) with
  | .error run => run
  | .ok message => world.finish [.out (CommitLint.parse message).json] 0

/-- What is said of a failure to install or remove the hook; other failures are not caught. -/
def refuseHook (world : World) (emissions : List Emission) (failure : Failure) : Run :=
  match failure with
  | .hook fault => world.finish (emissions ++ [.err fault.message]) 1
  | .file (.system error path) =>
      world.finish
        (emissions ++
          [.err ("Failed to manage git hooks: " ++ (FileFault.system error path).message)]) 1
  | .file (.unnamed error) =>
      world.finish
        (emissions ++
          [.err ("Failed to manage git hooks: " ++ (FileFault.unnamed error).message)]) 1
  | other => world.fail emissions other

def installHook (world : World) (emissions : List Emission) (directory : Path) (force : Bool) :
    Run :=
  match (Hook.install world.refusals world.surroundings directory none force).on world.tree with
  | (.error failure, tree) => refuseHook { world with tree } emissions failure
  | (.ok path, tree) =>
      ⟨emissions ++ [.err ("Git commit-msg hook installed at " ++ path.text)], .ok 0, tree⟩

def uninstallHook (world : World) (emissions : List Emission) (directory : Path) : Run :=
  match (Hook.uninstall world.refusals directory).on world.tree with
  | (.error failure, tree) => refuseHook { world with tree } emissions failure
  | (.ok false, tree) => ⟨emissions ++ [.err "No commit-msg hook found"], .ok 0, tree⟩
  | (.ok true, tree) =>
      ⟨emissions ++ [.err ("Git commit-msg hook removed from " ++ directory.text)], .ok 0, tree⟩

/-- Find the directory of the hooks, and do there what is asked for. -/
def manageHook (world : World) (words : Words) (action : String) : Run :=
  let found := Hook.directory world.tree world.repository (Path.ofText (world.project words))
  match found.value with
  | .error failure => world.fail (logs found.events) failure
  | .ok none => world.finish (logs found.events ++ [.err "Not a git repository"]) 1
  | .ok (some directory) =>
      if action == "--install" then
        installHook world (logs found.events) directory (words.has "--force")
      else uninstallHook world (logs found.events) directory

def hooks (world : World) (words : Words) : Run :=
  match words.last? ["--install", "--uninstall"] with
  | none => world.finish [.err "Please specify --install or --uninstall"] 1
  | some action => world.inProject words (manageHook world words action.spelling)

/-- A name in a directory as text, with one slash between them. -/
def nameIn (directory name : String) : String :=
  if directory.endsWith "/" then directory ++ name else directory ++ "/" ++ name

/-- A path that is given as text is not shortened, so that its own length counts. -/
def fits (name : String) : Bool :=
  name.utf8ByteSize ≤ FileTree.pathLimit

/-- Whether something is at a path that is given as text; no fault is told. -/
def isTaken (tree : FileTree) (name : String) : Bool :=
  match tree.isThere (Path.ofText name) with
  | .ok taken => fits name && taken
  | .error _ => false

/-- Store a content at a path that is given as text. -/
def writeAt (tree : FileTree) (name : String) (content : Content) : Except FileFault FileTree :=
  let path := Path.ofText name
  if path.hasNull || fits name then tree.write path name content
  else .error (.system .nameTooLong name)

/-- Write the template into the project, unless something is there. -/
def createConfig (world : World) (words : Words) : Run :=
  let name := nameIn (world.project words) "gitmsglint.yml"
  if isTaken world.tree name then world.finish [.err (name ++ " already exists")] 1
  else
    match writeAt world.tree name (.bytes (Text.Utf8.encode Config.template.toList)) with
    | .error fault => world.fail [] (.file fault)
    | .ok tree => ⟨[.out ("Created " ++ name)], .ok 0, tree⟩

def init (world : World) (words : Words) : Run :=
  world.inProject words (createConfig world words)

def ruleRow (rule : Rule) : String :=
  CommandSpec.padRight 26 rule.name ++ " " ++ rule.description

def listRules (world : World) (_ : Words) : Run :=
  world.finish
    ([.out (CommandSpec.padRight 26 "Rule" ++ " Description"),
      .out (String.ofList (List.replicate 80 '-'))] ++
      Rule.builtin.map (fun rule => .out (ruleRow rule)) ++
      [.out ("\n" ++ toString Rule.builtin.length ++ " rules total.")]) 0

def showVersion (world : World) (_ : Words) : Run :=
  world.finish [.out version] 0

/-- The commands with what they do. -/
def all : List (CommandSpec × (World → Words → Run)) :=
  [(Catalogue.lint, lint), (Catalogue.parse, parse), (Catalogue.hooks, hooks),
    (Catalogue.init, init), (Catalogue.listRules, listRules), (Catalogue.version, showVersion)]

end Command

end CommitLint
