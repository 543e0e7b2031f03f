import CommitLint.Failure

/-!
# Output of commands

What a command says on its two channels, in order, how it ends, and the
files that it leaves. Log lines go where errors go, from a level on that
does not change anything else. Colour codes are taken out of what is said.
-/

namespace CommitLint

inductive Emission where
  | out (text : String)
  | err (text : String)
  | log (event : Event)

/-- How a command ends: with a status, or with a failure that nobody caught. -/
abbrev Ending := Except Failure Nat

structure Run where
  emissions : List Emission
  ending : Ending
  tree : FileTree

namespace Terminal

def isParameter (c : Char) : Bool :=
  ('0' ≤ c && c ≤ '9') || c == ';' || c == '?'

def isLetter (c : Char) : Bool :=
  ('a' ≤ c && c ≤ 'z') || ('A' ≤ c && c ≤ 'Z')

/-- What follows a code whose bracket has just been read, if a code it is. -/
def afterCode? (text : List Char) : Option (List Char) :=
  match text.dropWhile isParameter with
  | c :: rest => if isLetter c then some rest else none
  | [] => none

theorem length_afterCode? {text rest : List Char} (found : afterCode? text = some rest) :
    rest.length < text.length := by
  unfold afterCode? at found
  have shorter : (text.dropWhile isParameter).length ≤ text.length :=
    (List.dropWhile_suffix isParameter).length_le
  split at found
  · next c tail dropped =>
      rw [dropped, List.length_cons] at shorter
      split at found
      · cases found
        omega
      · cases found
  · cases found

/-- A text without the codes that colour a terminal. -/
def plain : List Char → List Char
  | [] => []
  | '\x1B' :: '[' :: rest =>
      match found : afterCode? rest with
      | some tail =>
          have := length_afterCode? found
          plain tail
      | none => '\x1B' :: '[' :: plain rest
  | c :: rest => c :: plain rest
termination_by text => text.length
decreasing_by
  all_goals simp only [List.length_cons]
  all_goals omega

end Terminal

namespace Emission

/-- A text on a line of its own, or several. -/
def line (text : String) : String :=
  String.ofList (Terminal.plain (text ++ "\n").toList)

def logLine (event : Event) : String :=
  "gitmsglint: " ++ event.message ++ "\n" ++ if event.traced then "<traceback>\n" else ""

def onOut : Emission → String
  | .out text => line text
  | _ => ""

/-- Events below the threshold are not shown. -/
def onErr (threshold : Nat) : Emission → String
  | .out _ => ""
  | .err text => line text
  | .log event => if event.level.weight < threshold then "" else logLine event

end Emission

namespace Run

def stdout (run : Run) : String :=
  String.join (run.emissions.map (·.onOut))

def stderr (run : Run) (threshold : Nat) : String :=
  String.join (run.emissions.map (·.onErr threshold))

/-- Say something before all that a run says. -/
def after (emissions : List Emission) (run : Run) : Run :=
  { run with emissions := emissions ++ run.emissions }

end Run

end CommitLint
