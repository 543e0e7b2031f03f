import CommitLint.Pattern.Basic
import CommitLint.Value.Literal

/-!
# Log

What is told on the way to a result, without changing it. Every event has a
level and a text; some come with the trace of the failure that caused them.
-/

namespace CommitLint

/-- The levels in rising order of weight. -/
inductive Level where
  | debug
  | info
  | warning
  | error
deriving DecidableEq, Repr

namespace Level

def name : Level → String
  | .debug => "DEBUG"
  | .info => "INFO"
  | .warning => "WARNING"
  | .error => "ERROR"

def weight : Level → Nat
  | .debug => 10
  | .info => 20
  | .warning => 30
  | .error => 40

end Level

inductive Event where
  | loadingConfig (path : String)
  | notPatternList (key : String)
  | invalidPattern (pattern : String) (fault : Pattern.Fault)
  | ignored
  | ruleNotFound (rule : Value)
  | invalidSeverity (rule level : Value)
  | ruleRaised (rule : String)
  | ruleFileFailed (path : String)
  | gitFailed
deriving Inhabited

namespace Event

def level : Event → Level
  | .loadingConfig _ => .debug
  | .notPatternList _ => .warning
  | .invalidPattern _ _ => .warning
  | .ignored => .info
  | .ruleNotFound _ => .warning
  | .invalidSeverity _ _ => .warning
  | .ruleRaised _ => .error
  | .ruleFileFailed _ => .error
  | .gitFailed => .debug

def message : Event → String
  | .loadingConfig path => "Loading config from " ++ path
  | .notPatternList key => "Ignoring '" ++ key ++ "' in config: expected a list of patterns"
  | .invalidPattern pattern fault =>
      "Invalid ignore pattern " ++ Value.quotedText pattern ++ ": " ++ fault.message
  | .ignored => "Commit message matched ignore pattern, skipping validation"
  | .ruleNotFound rule => "Rule \"" ++ rule.display ++ "\" not found, skipping"
  | .invalidSeverity rule level =>
      "Rule \"" ++ rule.display ++ "\" has invalid severity " ++ level.literal ++
        ", treating as off"
  | .ruleRaised rule => "Rule " ++ rule ++ " raised an exception"
  | .ruleFileFailed path => "Failed to load custom rule from " ++ path
  | .gitFailed => "git rev-parse --git-path hooks failed"

/-- Whether the trace of a failure belongs to the event. -/
def traced : Event → Bool
  | .ruleRaised _ => true
  | .ruleFileFailed _ => true
  | .gitFailed => true
  | _ => false

end Event

/-- A result, and what was logged until it was there. -/
structure Logged (α : Type) where
  value : α
  events : List Event

namespace Logged

def quiet {α : Type} (value : α) : Logged α :=
  ⟨value, []⟩

/-- Log an event before all that a result has logged. -/
def after {α : Type} (event : Event) (result : Logged α) : Logged α :=
  ⟨result.value, event :: result.events⟩

/-- Log an event behind all that a result has logged. -/
def log {α : Type} (result : Logged α) (event : Event) : Logged α :=
  ⟨result.value, result.events ++ [event]⟩

def map {α β : Type} (change : α → β) (result : Logged α) : Logged β :=
  ⟨change result.value, result.events⟩

/-- Go on from a result, and log behind it. -/
def bind {α β : Type} (result : Logged α) (next : α → Logged β) : Logged β :=
  let last := next result.value
  ⟨last.value, result.events ++ last.events⟩

@[simp] theorem quiet_bind {α β : Type} (value : α) (next : α → Logged β) :
    (quiet value).bind next = next value :=
  rfl

@[simp] theorem bind_quiet {α : Type} (result : Logged α) : result.bind quiet = result := by
  simp only [bind, quiet, List.append_nil]

end Logged

end CommitLint
