import CommitLint.CommandLine.Commands
import CommitLint.CommandLine.LogLevel

/-!
# The program

A command line as a whole: options of the program, a command, and what
belongs to the command. The level of the log is looked up once the command
is known, and before its own words are.
-/

namespace CommitLint.Program

variable [CharacterNames]

/-- What is said about a command line that is not understood. -/
def refuse (world : World) (spec : CommandSpec) (fault : UsageFault) : Run :=
  let usage := spec.usageLine ++ "\nTry '" ++ spec.path ++ " --help' for help.\n"
  world.finish
    ((if fault.showsUsage then [Emission.err usage] else []) ++
      [.err ("Error: " ++ fault.message)]) 2

def showPage (world : World) (spec : CommandSpec) (commands : List CommandSpec) : Run :=
  world.finish [.out (spec.page commands)] 0

def programPage (world : World) : Run :=
  showPage world Catalogue.program Catalogue.commands

/-- Run a command on the words behind its name. -/
def runCommand (world : World) (spec : CommandSpec) (command : World → Words → Run)
    (rest : List String) : Run :=
  match spec.split rest with
  | .error fault => refuse world spec fault
  | .ok words =>
      if words.has "--help" then showPage world spec []
      else
        match spec.checkArguments words with
        | .error fault => refuse world spec fault
        | .ok words => command world words

/-- Whether a name that no command has begins like an option of some kind. -/
def looksLikeOption (name : String) : Bool :=
  match name.toList with
  | [] => false
  | c :: _ => !Text.isAlphanumeric c

def dispatch (world : World) (logLevel : Option String) (name : String) (rest : List String) :
    Run :=
  match Command.all.find? fun command => command.1.name == name with
  | none =>
      if looksLikeOption name then programPage world
      else refuse world Catalogue.program (.noSuchCommand name)
  | some (spec, command) =>
      match LogLevel.threshold logLevel with
      | .error failure => world.fail [] failure
      | .ok _ => runCommand world spec command rest

/-- Run the program on its arguments. -/
def run (world : World) (logLevel : Option String) (arguments : List String) : Run :=
  if arguments.isEmpty then programPage world
  else
    match Catalogue.program.split arguments with
    | .error fault => refuse world Catalogue.program fault
    | .ok words =>
        match words.options.head?, words.arguments with
        | some occurrence, _ =>
            if occurrence.spelling == "--version" then
              world.finish [.out ("gitmsglint, version " ++ version)] 0
            else programPage world
        | none, [] => refuse world Catalogue.program .missingCommand
        | none, name :: rest => dispatch world logLevel name rest

/-- The weight from which on events are shown. -/
def shownFrom (logLevel : Option String) : Nat :=
  match LogLevel.threshold logLevel with
  | .ok weight => weight
  | .error _ => LogLevel.fallback

end CommitLint.Program
