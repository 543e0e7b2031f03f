import CommitLint.Failure
import CommitLint.Text.Folding

/-!
# Log levels by name

The level from which on events are shown, as a word of the environment names
it. A word that names none stands for warnings; two words name the layouts
of log lines instead, and with them no command can start.
-/

namespace CommitLint.LogLevel

/-- The words that name a level, with its weight. -/
def weights : List (String × Nat) :=
  [("CRITICAL", 50), ("FATAL", 50), ("ERROR", Level.error.weight),
  ("WARNING", Level.warning.weight), ("WARN", Level.warning.weight), ("INFO", Level.info.weight),
  ("DEBUG", Level.debug.weight), ("NOTSET", 0)]

def fallback : Nat :=
  Level.warning.weight

/-- The weight that a word names in any letter case. -/
def threshold (word : Option String) : Except Failure Nat :=
  match word with
  | none => .ok fallback
  | some text =>
      let upper := String.ofList (Text.upperAscii text.toList)
      match weights.lookup upper with
      | some weight => .ok weight
      | none =>
          if upper == "BASIC_FORMAT" then .error .levelLayout
          else if upper == "_STYLES" then .error .levelLayouts
          else .ok fallback

end CommitLint.LogLevel
