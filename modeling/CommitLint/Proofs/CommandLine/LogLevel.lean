import CommitLint.Proofs.CommandLine.Linting

/-!
# The level of the log

The word for the level decides which lines of the log are shown, and nothing
else: a run says and does the same with every word. A word that names no
level is taken as the one for warnings, but for the two words that name
layouts of log lines. With them no command starts.
-/

namespace CommitLint

/-- Texts that are the same line by line, but for lines of the log. -/
inductive SameButLog : String → String → Prop where
  | done : SameButLog "" ""
  | said {first second : String} (text : String) (rest : SameButLog first second) :
      SameButLog (Emission.line text ++ first) (Emission.line text ++ second)
  | added {first second : String} (event : Event) (rest : SameButLog first second) :
      SameButLog (Emission.logLine event ++ first) second
  | missed {first second : String} (event : Event) (rest : SameButLog first second) :
      SameButLog first (Emission.logLine event ++ second)

/-- From whatever weight on events are shown, the other lines are the same. -/
theorem Run.stderr_sameButLog (run : Run) (weight weight' : Nat) :
    SameButLog (run.stderr weight) (run.stderr weight') := by
  rw [stderr, stderr]
  induction run.emissions with
  | nil => exact .done
  | cons emission rest ih =>
      rw [List.map_cons, List.map_cons, String.join_cons, String.join_cons]
      cases emission with
      | out text => simpa [Emission.onErr] using ih
      | err text => exact .said text ih
      | log event =>
          have shown (weight : Nat) : Emission.onErr weight (.log event) = "" ∨
              Emission.onErr weight (.log event) = Emission.logLine event := by
            rw [Emission.onErr]
            exact ite_eq_or_eq _ _ _
          rcases shown weight with none | some <;> rcases shown weight' with none' | some'
          · rwa [none, none', String.empty_append, String.empty_append]
          · rw [none, some', String.empty_append]
            exact .missed event ih
          · rw [some, none', String.empty_append]
            exact .added event ih
          · rw [some, some']
            exact .added event (.missed event ih)

namespace LogLevel

/-- The name that a word stands for, which does not depend on its letter case. -/
def nameOf (word : String) : String :=
  String.ofList (Text.upperAscii word.toList)

def NamesLevel (word : String) : Prop :=
  nameOf word ∈ weights.map (·.1)

instance (word : String) : Decidable (NamesLevel word) :=
  inferInstanceAs (Decidable (nameOf word ∈ weights.map (·.1)))

/-- The names of a layout of log lines, and of the table of all layouts. -/
def NamesLayout (word : String) : Prop :=
  nameOf word = "BASIC_FORMAT" ∨ nameOf word = "_STYLES"

variable {word : String}

theorem threshold_of_layout (layout : NamesLayout word) :
    ∃ failure, threshold (some word) = .error failure := by
  unfold threshold
  rcases layout with named | named
  · refine ⟨.levelLayout, ?_⟩
    dsimp only
    rw [← nameOf, named]
    rfl
  · refine ⟨.levelLayouts, ?_⟩
    dsimp only
    rw [← nameOf, named]
    rfl

/-- A word that names neither a level nor a layout stands for warnings. -/
theorem threshold_of_not_layout (plain : ¬ NamesLayout word) :
    ∃ weight, threshold (some word) = .ok weight ∧ (¬ NamesLevel word → weight = fallback) := by
  unfold threshold
  dsimp only
  rw [← nameOf]
  cases found : weights.lookup (nameOf word) with
  | some weight =>
      refine ⟨weight, rfl, fun unnamed => absurd ?_ unnamed⟩
      obtain ⟨before, after, listed, -⟩ := List.lookup_eq_some_iff.mp found
      rw [NamesLevel, listed]
      simp
  | none =>
      obtain ⟨other, others⟩ := not_or.mp plain
      refine ⟨fallback, ?_, fun _ => rfl⟩
      dsimp only
      rw [if_neg (by simpa using other), if_neg (by simpa using others)]

end LogLevel

namespace Program

section

variable [CharacterNames] {world : World} {word : String} {arguments : List String}

/-- Unless the word names a layout, the run is the one without a word. -/
theorem run_of_not_layout (plain : ¬ (LogLevel.NamesLayout word ∧ IsCall arguments)) :
    run world (some word) arguments = run world none arguments := by
  by_cases called : IsCall arguments
  · obtain ⟨spec, command, rest, listed, calls⟩ := called
    have bare : ¬ LogLevel.NamesLayout word := fun layout =>
      plain ⟨layout, spec, command, rest, listed, calls⟩
    obtain ⟨weight, threshold, -⟩ := LogLevel.threshold_of_not_layout bare
    rw [run_of_calls listed calls, run_of_calls listed calls, threshold]
    rfl
  · exact run_of_not_isCall called none

/-- With the name of a layout no command starts. -/
theorem run_of_layout (layout : LogLevel.NamesLayout word) (called : IsCall arguments) :
    ∃ failure, run world (some word) arguments = world.fail [] failure := by
  obtain ⟨spec, command, rest, listed, calls⟩ := called
  obtain ⟨failure, threshold⟩ := LogLevel.threshold_of_layout layout
  refine ⟨failure, ?_⟩
  rw [run_of_calls listed calls, threshold]

omit [CharacterNames] in
theorem shownFrom_of_not_level (unnamed : ¬ LogLevel.NamesLevel word) :
    shownFrom (some word) = shownFrom none := by
  by_cases layout : LogLevel.NamesLayout word
  · obtain ⟨failure, threshold⟩ := LogLevel.threshold_of_layout layout
    rw [shownFrom, threshold]
    rfl
  · obtain ⟨weight, threshold, warns⟩ := LogLevel.threshold_of_not_layout layout
    rw [shownFrom, threshold]
    exact warns unnamed

/--
The word for the level of the log changes lines of the log only, and none at
all where it names no level: status, first channel and files are those of a
run without a word. The exception are the names of layouts, with which a
command fails before it says or does anything.
-/
theorem run_of_level (world : World) (word : String) (arguments : List String) :
    let told := run world (some word) arguments
    let plain := run world none arguments
    (¬ (LogLevel.NamesLayout word ∧ IsCall arguments) →
      told.ending = plain.ending ∧ told.stdout = plain.stdout ∧ told.tree = plain.tree ∧
        SameButLog (told.stderr (shownFrom (some word))) (plain.stderr (shownFrom none)) ∧
        (¬ LogLevel.NamesLevel word →
          told.stderr (shownFrom (some word)) = plain.stderr (shownFrom none))) ∧
    (LogLevel.NamesLayout word ∧ IsCall arguments →
      (∃ failure, told.ending = .error failure) ∧ told.emissions = [] ∧
        told.tree = world.tree) := by
  intro told plain
  refine ⟨fun bare => ?_, fun ⟨layout, called⟩ => ?_⟩
  · have same : told = plain := run_of_not_layout bare
    rw [same]
    refine ⟨rfl, rfl, rfl, Run.stderr_sameButLog plain _ _, fun unnamed => ?_⟩
    rw [shownFrom_of_not_level unnamed]
  · obtain ⟨failure, stopped⟩ : ∃ failure, told = world.fail [] failure :=
      run_of_layout layout called
    rw [stopped]
    exact ⟨⟨failure, rfl⟩, rfl, rfl⟩

end

open CharacterNames in
/-- The name of the layout is no level, and yet the command fails that succeeds without it. -/
theorem run_of_level_layout :
    ¬ LogLevel.NamesLevel "BASIC_FORMAT" ∧
      (run (piped "") none ["version"]).ending = .ok 0 ∧
      (run (piped "") none ["version"]).stdout = "0.1.0\n" ∧
      (run (piped "") (some "BASIC_FORMAT") ["version"]).ending = .error .levelLayout ∧
      (run (piped "") (some "BASIC_FORMAT") ["version"]).stdout = "" := by
  refine ⟨?_, ?_, ?_, ?_, ?_⟩ <;> decide +kernel

end Program

end CommitLint
