import CommitLint.CommandLine.Program

/-!
# Command lines that call a command

A command is called by its name in front, with or without the mark that ends
the options. Only then does the program look at the level of the log: a word
for which there is none keeps the command from starting, and all others
start it alike.
-/

namespace CommitLint.Program

variable [CharacterNames] {world : World} {level : Option String} {spec : CommandSpec}
  {command : World → Words → Run} {rest arguments : List String}

/-- The command lines that call a command on the words behind its name. -/
inductive Calls (spec : CommandSpec) (rest : List String) : List String → Prop where
  | direct : Calls spec rest (spec.name :: rest)
  | marked : Calls spec rest ("--" :: spec.name :: rest)

/-- Whether a command line calls one of the commands. -/
def IsCall (arguments : List String) : Prop :=
  ∃ spec command rest, (spec, command) ∈ Command.all ∧ Calls spec rest arguments

theorem isOption_name (listed : (spec, command) ∈ Command.all) :
    CommandSpec.isOption spec.name = false := by
  have plain : ∀ other ∈ Catalogue.commands, CommandSpec.isOption other.name = false := by
    decide
  have member : spec ∈ Command.all.map Prod.fst := List.mem_map_of_mem listed
  exact plain spec member

/-- A command is found by its name. -/
theorem find?_name (listed : (spec, command) ∈ Command.all) :
    (Command.all.find? fun command => command.1.name == spec.name) = some (spec, command) := by
  simp only [Command.all, List.mem_cons, Prod.mk.injEq, List.not_mem_nil, or_false] at listed
  rcases listed with ⟨rfl, rfl⟩ | ⟨rfl, rfl⟩ | ⟨rfl, rfl⟩ | ⟨rfl, rfl⟩ | ⟨rfl, rfl⟩ | ⟨rfl, rfl⟩ <;>
    rfl

theorem split_of_calls (listed : (spec, command) ∈ Command.all)
    (calls : Calls spec rest arguments) :
    Catalogue.program.split arguments = .ok ⟨[], spec.name :: rest⟩ := by
  cases calls with
  | direct =>
      have plain := isOption_name listed
      have bare : spec.name ≠ "--" := by
        intro same
        rw [same] at plain
        cases plain
      rw [CommandSpec.split, if_neg (by simpa using bare), if_neg (by simp [plain])]
      rfl
  | marked => rfl

omit [CharacterNames] in
theorem addOption_ne {result : Except UsageFault Words} {occurrence : Occurrence}
    {arguments : List String} : result.map (·.addOption occurrence) ≠ .ok ⟨[], arguments⟩ := by
  cases result <;> simp [Except.map, Words.addOption]

omit [CharacterNames] in
/-- Where no option is in front, the arguments are the command line itself or follow the mark. -/
theorem split_eq_ok {arguments words : List String}
    (split : Catalogue.program.split words = .ok ⟨[], arguments⟩) :
    words = arguments ∨ words = "--" :: arguments := by
  cases words with
  | nil =>
      cases split
      exact .inl rfl
  | cons word others =>
      rw [CommandSpec.split] at split
      split at split
      · next mark =>
          cases split
          exact .inr (by rw [eq_of_beq mark])
      · split at split
        · repeat' split at split
          all_goals first
            | exact absurd split addOption_ne
            | cases split
        · cases split
          exact .inl rfl

theorem dispatch_of_call (listed : (spec, command) ∈ Command.all) :
    dispatch world level spec.name rest =
      match LogLevel.threshold level with
      | .error failure => world.fail [] failure
      | .ok _ => runCommand world spec command rest := by
  cases threshold : LogLevel.threshold level with
  | error failure => simp only [dispatch, find?_name listed, threshold]
  | ok weight => simp only [dispatch, find?_name listed, threshold]

/-- A command that is called runs, unless there is no level. -/
theorem run_of_calls (listed : (spec, command) ∈ Command.all)
    (calls : Calls spec rest arguments) :
    run world level arguments =
      match LogLevel.threshold level with
      | .error failure => world.fail [] failure
      | .ok _ => runCommand world spec command rest := by
  have given : arguments.isEmpty = false := by
    cases calls <;> rfl
  rw [← dispatch_of_call listed, run, if_neg (by simp [given]), split_of_calls listed calls]
  rfl

/-- A command line that starts a command on these words. -/
structure Starts (level : Option String) (spec : CommandSpec) (words : Words)
    (arguments : List String) : Prop where
  threshold : ∃ weight, LogLevel.threshold level = .ok weight
  split : ∃ rest, Calls spec rest arguments ∧ spec.split rest = .ok words
  plain : words.has "--help" = false
  few : spec.checkArguments words = .ok words

theorem run_of_starts {words : Words} (listed : (spec, command) ∈ Command.all)
    (starts : Starts level spec words arguments) :
    run world level arguments = command world words := by
  obtain ⟨⟨weight, threshold⟩, ⟨rest, calls, split⟩, plain, few⟩ := starts
  rw [run_of_calls listed calls, threshold]
  dsimp only
  rw [runCommand, split]
  dsimp only
  rw [if_neg (by simp [plain]), few]

theorem isCall_of_found {name : String} {found : CommandSpec × (World → Words → Run)}
    (named : (Command.all.find? fun command => command.1.name == name) = some found)
    (split : Catalogue.program.split arguments = .ok ⟨[], name :: rest⟩) : IsCall arguments := by
  have same : found.1.name = name := by simpa using List.find?_some named
  subst same
  refine ⟨found.1, found.2, rest, List.mem_of_find?_eq_some named, ?_⟩
  rcases split_eq_ok split with rfl | rfl
  · exact .direct
  · exact .marked

/-- The level does not matter where no command is called. -/
theorem run_of_not_isCall (uncalled : ¬ IsCall arguments) (other : Option String) :
    run world level arguments = run world other arguments := by
  rw [run, run]
  split
  · rfl
  · cases split : Catalogue.program.split arguments with
    | error fault => rfl
    | ok words =>
        obtain ⟨options, names⟩ := words
        cases options with
        | cons occurrence later => rfl
        | nil =>
            cases names with
            | nil => rfl
            | cons name rest =>
                change dispatch world level name rest = dispatch world other name rest
                rw [dispatch, dispatch]
                cases found : Command.all.find? fun command => command.1.name == name with
                | none => rfl
                | some pair =>
                    exact absurd (isCall_of_found found split) uncalled

end CommitLint.Program
