import CommitLint.Text.Similarity
import CommitLint.Value.Literal

/-!
# Options and arguments

How the words of a command line are told apart: options with or without a
value, and arguments. Two hyphens end the options. A word that is no option
is refused, with similar ones if there are any.
-/

namespace CommitLint

/-- An option with its spellings; a flag takes no value. -/
structure OptionSpec where
  spellings : List String
  /-- What the value is called, for an option that takes one. -/
  value : Option String
  help : String
deriving Repr

structure CommandSpec where
  name : String
  /-- What stands behind the name of the command in its usage. -/
  usage : String
  summary : String
  options : List OptionSpec
  /-- How many arguments there may be. -/
  most : Option Nat
  /-- Whether options may stand behind arguments. -/
  mixed : Bool
deriving Repr

/-- An option as it occurs on a command line. -/
structure Occurrence where
  spelling : String
  value : Option String
deriving DecidableEq, Repr

structure Words where
  options : List Occurrence
  arguments : List String
deriving DecidableEq, Repr

inductive UsageFault where
  | noSuchOption (spelling : String) (similar : List String)
  | needsArgument (spelling : String)
  | takesNoValue (spelling : String)
  | extraArguments (arguments : List String)
  | noSuchCommand (name : String)
  | missingCommand
deriving DecidableEq, Repr

namespace UsageFault

def similarText : List String → String
  | [] => ""
  | [only] => " Did you mean " ++ only ++ "?"
  | several =>
      " (Possible options: " ++
        ", ".intercalate (several.mergeSort fun first second => first ≤ second) ++ ")"

def message : UsageFault → String
  | .noSuchOption spelling similar => "No such option: " ++ spelling ++ similarText similar
  | .needsArgument spelling => "Option " ++ Value.quotedText spelling ++ " requires an argument."
  | .takesNoValue spelling => "Option " ++ Value.quotedText spelling ++ " does not take a value."
  | .extraArguments arguments =>
      "Got unexpected extra argument" ++ (if arguments.length == 1 then "" else "s") ++ " (" ++
        " ".intercalate arguments ++ ")"
  | .noSuchCommand name => "No such command " ++ Value.quotedText name ++ "."
  | .missingCommand => "Missing command."

/-- Whether the usage of the command is shown with the fault. -/
def showsUsage : UsageFault → Bool
  | .needsArgument _ => false
  | .takesNoValue _ => false
  | _ => true

end UsageFault

namespace Words

def addOption (words : Words) (occurrence : Occurrence) : Words :=
  { words with options := occurrence :: words.options }

def addArgument (words : Words) (argument : String) : Words :=
  { words with arguments := argument :: words.arguments }

/-- The last occurrence of one of some spellings. -/
def last? (words : Words) (spellings : List String) : Option Occurrence :=
  words.options.reverse.find? fun occurrence => spellings.contains occurrence.spelling

/-- The last value of an option. -/
def value? (words : Words) (spelling : String) : Option String :=
  (words.last? [spelling]).bind (·.value)

def has (words : Words) (spelling : String) : Bool :=
  (words.last? [spelling]).isSome

end Words

namespace CommandSpec

def helpOption : OptionSpec :=
  ⟨["--help"], none, "Show this message and exit."⟩

def allOptions (spec : CommandSpec) : List OptionSpec :=
  spec.options ++ [helpOption]

def spellings (spec : CommandSpec) : List String :=
  spec.allOptions.flatMap (·.spellings)

def isOption (word : String) : Bool :=
  match word.toList with
  | '-' :: _ :: _ => true
  | _ => false

/-- A word cut at its first equals sign. -/
def splitValue (word : List Char) : List Char × Option (List Char) :=
  match word.span (· != '=') with
  | (name, _ :: value) => (name, some value)
  | (name, []) => (name, none)

/-- The option that a word means, and the value in the word itself. -/
def readOption (spec : CommandSpec) (word : String) :
    Except UsageFault (OptionSpec × String × Option String) :=
  let (name, value) := splitValue word.toList
  let spelling := String.ofList name
  match spec.allOptions.find? fun option => option.spellings.contains spelling with
  | some option => .ok (option, spelling, value.map String.ofList)
  | none =>
      match word.toList with
      | '-' :: '-' :: _ =>
          .error (.noSuchOption spelling (Text.closeMatches spelling spec.spellings))
      | '-' :: c :: _ => .error (.noSuchOption (String.ofList ['-', c]) [])
      | _ => .error (.noSuchOption spelling [])

/-- Tell the words of a command line apart. -/
def split (spec : CommandSpec) : List String → Except UsageFault Words
  | [] => .ok ⟨[], []⟩
  | word :: rest =>
      if word == "--" then .ok ⟨[], rest⟩
      else if isOption word then
        match spec.readOption word with
        | .error fault => .error fault
        | .ok (option, spelling, value) =>
            match option.value with
            | none =>
                match value with
                | none => (spec.split rest).map (·.addOption ⟨spelling, none⟩)
                | some _ => .error (.takesNoValue spelling)
            | some _ =>
                match value with
                | some given => (spec.split rest).map (·.addOption ⟨spelling, some given⟩)
                | none =>
                    match rest with
                    | [] => .error (.needsArgument spelling)
                    | next :: others => (spec.split others).map (·.addOption ⟨spelling, some next⟩)
      else if spec.mixed then (spec.split rest).map (·.addArgument word)
      else .ok ⟨[], word :: rest⟩

/-- Refuse more arguments than there may be. -/
def checkArguments (spec : CommandSpec) (words : Words) : Except UsageFault Words :=
  match spec.most with
  | none => .ok words
  | some most =>
      match words.arguments.drop most with
      | [] => .ok words
      | extra => .error (.extraArguments extra)

/-! ## Help pages -/

def path (spec : CommandSpec) : String :=
  if spec.name.isEmpty then "gitmsglint" else "gitmsglint " ++ spec.name

def usageLine (spec : CommandSpec) : String :=
  "Usage: " ++ spec.path ++ " " ++ spec.usage

def padRight (width : Nat) (text : String) : String :=
  text ++ String.ofList (List.replicate (width - text.length) ' ')

/-- Names and what they mean, in two columns. -/
def table (rows : List (String × String)) : List String :=
  let width := (rows.map (·.1.length)).foldl max 0 + 2
  rows.map fun row => "  " ++ padRight width row.1 ++ row.2

def optionRow (option : OptionSpec) : String × String :=
  (" / ".intercalate option.spellings ++ (option.value.map (" " ++ ·)).getD "", option.help)

/-- The page of a command, with those below it. -/
def page (spec : CommandSpec) (commands : List CommandSpec) : String :=
  let below := commands.mergeSort fun first second => first.name ≤ second.name
  "\n".intercalate
    ([spec.usageLine, "", "  " ++ spec.summary, "", "Options:"] ++
      table (spec.allOptions.map optionRow) ++
      if below.isEmpty then []
      else ["", "Commands:"] ++ table (below.map fun command => (command.name, command.summary)))

end CommandSpec

end CommitLint
