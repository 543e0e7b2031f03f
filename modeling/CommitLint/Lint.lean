import CommitLint.Config.Basic
import CommitLint.Log
import CommitLint.Pattern.Search
import CommitLint.Rule.Basic
import CommitLint.Rule.Entry

/-!
# Linting

A message that a pattern to be left alone is found in has nothing reported.
Otherwise there is a round for every entry of the configuration, in order,
which reports at most once. What is reported and logged is gathered from
round to round, and so is what the rules have done to the entries to come.
-/

namespace CommitLint

/-- What was found wrong with a message: errors stop a commit, warnings do not. -/
structure Diagnostics where
  errors : List String
  warnings : List String
deriving DecidableEq, Repr

namespace Diagnostics

def clean : Diagnostics :=
  ⟨[], []⟩

def isValid (diagnostics : Diagnostics) : Bool :=
  diagnostics.errors.isEmpty

def append (first second : Diagnostics) : Diagnostics :=
  ⟨first.errors ++ second.errors, first.warnings ++ second.warnings⟩

@[simp] theorem clean_append (diagnostics : Diagnostics) : clean.append diagnostics = diagnostics :=
  rfl

@[simp] theorem append_clean (diagnostics : Diagnostics) :
    diagnostics.append clean = diagnostics := by
  simp only [append, clean, List.append_nil]

theorem append_assoc (first second third : Diagnostics) :
    (first.append second).append third = first.append (second.append third) := by
  simp only [append, List.append_assoc]

/-- Add a report at a severity that is not off. -/
def report (diagnostics : Diagnostics) (severity : Severity) (text : String) : Diagnostics :=
  if severity.isBlocking then { diagnostics with errors := diagnostics.errors ++ [text] }
  else { diagnostics with warnings := diagnostics.warnings ++ [text] }

end Diagnostics

/-- Why a message cannot be linted: a pattern that is no pattern text, or that fails by more than
its form. -/
inductive LintFault where
  | notText
  | unhashable (kind : String)
  | pattern (fault : Pattern.Fault)
deriving DecidableEq, Repr

namespace LintFault

def message : LintFault → String
  | .notText => "first argument must be string or compiled pattern"
  | .unhashable kind => "unhashable type: '" ++ kind ++ "'"
  | .pattern fault => fault.message

end LintFault

namespace Lint

/-- Search for one pattern; `none` says that it is malformed. -/
def search [CharacterNames] (pattern : Value) (message : List Char) :
    Except LintFault (Option Bool) :=
  match pattern with
  | .text content =>
      match Pattern.search content.toList message with
      | .ok found => .ok (some found)
      | .error .malformed => .ok none
      | .error fault => .error (.pattern fault)
  | other =>
      match other.keyFault? with
      | some part => .error (.unhashable part.kindName)
      | none => .error .notText

/-- Whether one of the patterns is found; malformed ones are told of on the way. -/
def isIgnored [CharacterNames] (message : List Char) :
    List Value → Logged (Except LintFault Bool)
  | [] => .quiet (.ok false)
  | pattern :: rest =>
      match search pattern message with
      | .error fault => .quiet (.error fault)
      | .ok (some true) => .quiet (.ok true)
      | .ok (some false) => isIgnored message rest
      | .ok none => .after (.invalidPattern pattern.display .malformed) (isIgnored message rest)

/-- The report of an invalid verdict; a rule that gives no reason is named. -/
def reason (rule : String) : Option String → String
  | none => "Rule \"" ++ rule ++ "\" failed validation"
  | some "" => "Rule \"" ++ rule ++ "\" failed validation"
  | some text => text

/-- The rule that a key of the configuration names. -/
def lookup (rules : List Rule) : Value → Option Rule
  | .text name => Rule.find? rules name
  | _ => none

/-- Add what a rule says about a message at a severity that is not off. -/
def judge (gathered : Logged Diagnostics) (rule : Rule) (severity : Severity) :
    Verdict → Logged Diagnostics
  | .valid => gathered
  | .invalid text => gathered.map (·.report severity (reason rule.name text))
  | .raised => gathered.log (.ruleRaised rule.name)

/-- One round, for a key and how its entry reads: what is gathered then, and what the rule has done
to other entries. -/
def round (rules : List Rule) (message : String) (verbose : Bool) (gathered : Logged Diagnostics)
    (key : Value) (setting : RuleEntry) : Logged Diagnostics × Reach :=
  match lookup rules key with
  | none => (if verbose then gathered.log (.ruleNotFound key) else gathered, .nothing)
  | some rule =>
      match setting.level.toSeverity? with
      | none => (gathered.log (.invalidSeverity key setting.level), .nothing)
      | some .off => (gathered, .nothing)
      | some severity =>
          let reply := rule.validate message setting.options
          (judge gathered rule severity reply.verdict, reply.reach)

/-- The rounds for the entries to come, some of which the rules before may have changed. -/
def rounds (rules : List Rule) (message : String) (verbose : Bool) :
    Logged Diagnostics → Reach → Entries → Logged Diagnostics
  | gathered, _, [] => gathered
  | gathered, reach, (key, content) :: rest =>
      let setting := (reach key).getD (RuleEntry.ofValue content)
      let (gathered, further) := round rules message verbose gathered key setting
      rounds rules message verbose gathered (reach.andThen further) rest

/-- All rounds. -/
def evaluate (rules : List Rule) (message : String) (verbose : Bool) (entries : Entries) :
    Logged Diagnostics :=
  rounds rules message verbose (.quiet .clean) .nothing entries

end Lint

/-- How much to tell: as asked for, or as the configuration says. -/
def Config.effectiveVerbose (config : Config) (asked : Option Bool) : Bool :=
  asked.getD config.verbose.isTrue

def lint [CharacterNames] (config : Config) (rules : List Rule) (message : String)
    (asked : Option Bool) : Logged (Except LintFault Diagnostics) :=
  let verbose := config.effectiveVerbose asked
  let ignored := Lint.isIgnored message.toList config.allIgnores
  match ignored.value with
  | .error fault => ⟨.error fault, ignored.events⟩
  | .ok true => ⟨.ok .clean, ignored.events ++ if verbose then [.ignored] else []⟩
  | .ok false =>
      let result := Lint.evaluate rules message verbose config.rules
      ⟨.ok result.value, ignored.events ++ result.events⟩

end CommitLint
