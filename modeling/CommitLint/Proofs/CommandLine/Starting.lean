import CommitLint.Proofs.CommandLine.Creating
import CommitLint.Proofs.Config.Template
import CommitLint.Proofs.Lint.Default
import CommitLint.Proofs.Lint.Overlaid

/-!
# Starting a project

The command that starts a project puts the starter file where nothing was,
and the project then lints every message as it did by default. Only the log
tells that there is a file now.
-/

namespace CommitLint

namespace FileTree

variable {tree : FileTree} {path : Path} {place : Location} {content : Content}

theorem holds_iff :
    tree.Holds path content ↔ path.hasNull = false ∧ ∃ place mode,
      tree.locate path = .ok place ∧ tree.get? place = some (.file content mode) := by
  refine and_congr_right fun _ => ?_
  unfold entryAt
  cases tree.locate path with
  | error error => simp [bind, Except.bind]
  | ok place =>
      cases held : tree.get? place with
      | none => simp [bind, Except.bind, held]
      | some entry => simp [bind, Except.bind, held]

theorem misses_of_isFile (answer : tree.isFile path = .ok false) : tree.Misses path := by
  refine ⟨fun content held => ?_, fun refused => ?_⟩
  · cases answer.symm.trans (isFile_of_holds held)
  · cases answer.symm.trans (isFile_of_refuses refused)

section

variable (free : tree.get? place = none) (stored : Content) (mode : Nat)

include free

/-- A file that is stored where nothing was leaves all others as they are. -/
theorem Holds.insert (held : tree.Holds path content) :
    (tree.insert place (.file stored mode)).Holds path content := by
  obtain ⟨whole, other, mode', located, there⟩ := holds_iff.mp held
  have flat := flat_of_free free
  have apart : other ≠ place := by
    rintro rfl
    rw [free] at there
    cases there
  refine holds_iff.mpr ⟨whole, other, mode', ?_, ?_⟩
  · exact (sameDirectories_insert_file flat stored mode).locate_eq_ok_iff.mpr located
  · rw [get?_insert_of_ne tree _ apart, there]

theorem holds_insert (whole : path.hasNull = false) (located : tree.locate path = .ok place) :
    (tree.insert place (.file stored mode)).Holds path stored := by
  have flat := flat_of_free free
  refine holds_iff.mpr ⟨whole, place, mode, ?_, get?_insert_of_flat flat _⟩
  exact (sameDirectories_insert_file flat stored mode).locate_eq_ok_iff.mpr located

end

end FileTree

namespace Command

variable {world : World} {words startWords : Words} {message : String} {place : Location}
  {next : FileTree}

/-- The command for linting, once the message and the configuration are there. -/
theorem lint_of_load [CharacterNames] {config : Config} {events : List Event}
    (supplied : Supplied world words message) (found : loaded world words = ⟨.ok config, events⟩) :
    lint world words = (lintMessage world words config message).after (logs events) := by
  rw [lint_of_message ((readMessage_eq_ok_iff Catalogue.lint).mpr supplied), found]

/-! ## The starter file -/

/-- The starter file is stored at a place where nothing was. -/
structure Creates (world : World) (words : Words) (place : Location) (next : FileTree) : Prop where
  whole : (starterPath world words).hasNull = false
  located : world.tree.locate (starterPath world words) = .ok place
  free : world.tree.get? place = none
  stored : ∃ mode, next = world.tree.insert place (.file starterContent mode)

theorem init_creates (created : (init world words).ending = .ok 0) :
    ∃ place, Creates world words place (init world words).tree := by
  have effect := init_effect world words
  generalize init world words = run at created effect
  cases effect with
  | present room held => cases created
  | failed roomless misplaced => cases created
  | created room free =>
      have whole := (hasNull_starterPath world words).trans room.whole
      exact ⟨_, whole, room.locate, free, _, rfl⟩

section

variable (creates : Creates world startWords place next)

include creates

theorem Creates.holds : next.Holds (starterPath world startWords) starterContent := by
  obtain ⟨whole, located, free, mode, rfl⟩ := creates
  exact FileTree.holds_insert free starterContent mode whole located

/-- The message of a command is the same as before. -/
theorem Creates.supplied (supplied : Supplied world words message) :
    Supplied { world with tree := next } words message := by
  obtain ⟨-, -, free, mode, rfl⟩ := creates
  cases supplied with
  | file named held decoded => exact .file named (held.insert free starterContent mode) decoded
  | input unnamed piped => exact .input unnamed piped

/-- The project has a configuration now, which is the starter one. -/
theorem Creates.load :
    Config.load next (.ofText (world.project startWords)) none =
      ⟨.ok Config.starter, [.loadingConfig (starterPath world startWords).text]⟩ := by
  have decoded : FileTree.textOf starterContent.toBytes = .ok Config.templateText := by
    rw [starterContent, Content.toBytes, Config.textOf_template]
  exact Config.load_starter ⟨starterContent, ⟨.here, creates.holds⟩, decoded⟩

theorem Creates.project (words : Words) :
    World.project { world with tree := next } words = world.project words := by
  obtain ⟨-, -, -, mode, rfl⟩ := creates
  rfl

theorem Creates.hasProject (words : Words) :
    World.hasProject { world with tree := next } words = world.hasProject words := by
  obtain ⟨-, -, free, mode, rfl⟩ := creates
  have same := FileTree.sameDirectories_insert_file (FileTree.flat_of_free free) starterContent mode
  simp only [World.hasProject, same.hasCurrent_eq]

theorem Creates.lintMessage_starter [CharacterNames] (words : Words) (message : String) :
    lintMessage { world with tree := next } words Config.starter message =
      { lintMessage world words Config.default message with tree := next } := by
  have verbose : Config.starter.effectiveVerbose (askedVerbose words) =
      Config.default.effectiveVerbose (askedVerbose words) := rfl
  unfold lintMessage
  dsimp only
  rw [creates.project, verbose, Project.lintWith_starter world.tree next]
  generalize Project.lintWith world.tree _ Config.default message _ = judged
  cases judged.value <;> rfl

section

variable (there : world.hasProject words = true)
  (same : Path.ofText (world.project words) = Path.ofText (world.project startWords))
  (unasked : words.value? "--config" = none)

include there same unasked

theorem Creates.loaded :
    loaded { world with tree := next } words =
      ⟨.ok Config.starter, [.loadingConfig (starterPath world startWords).text]⟩ := by
  rw [Command.loaded, if_pos ((creates.hasProject words).trans there), creates.project, same,
    unasked, creates.load]

/-- The library finds what it finds by default, and tells of the file. -/
theorem Creates.outcome [CharacterNames] (message : String) :
    outcome { world with tree := next } words message =
      .after (.loadingConfig (starterPath world startWords).text)
        (Project.lintWith world.tree (.ofText (world.project words)) Config.default message
          (askedVerbose words)) := by
  rw [outcome_eq ((creates.hasProject words).trans there), creates.loaded there same unasked,
    creates.project]
  simp only [Project.andThen, Logged.bind, Project.lintWith_starter world.tree next]
  rfl

theorem Creates.lint [CharacterNames] (supplied : Supplied world words message) :
    let plain := lintMessage world words Config.default message
    lint { world with tree := next } words =
      ⟨.log (.loadingConfig (starterPath world startWords).text) :: plain.emissions, plain.ending,
        next⟩ := by
  rw [lint_of_load (creates.supplied supplied) (creates.loaded there same unasked),
    creates.lintMessage_starter]
  generalize lintMessage world words Config.default message = plain
  rfl

end

end

/-! ## Without a file -/

section

variable (there : world.hasProject words = true) (unasked : words.value? "--config" = none)
  (missed : ∀ path ∈ Config.places (.ofText (world.project words)) none,
    world.tree.isFile path = .ok false)

include there unasked missed

theorem loaded_of_no_file : loaded world words = .quiet (.ok Config.default) := by
  rw [loaded, if_pos there, unasked]
  exact Config.load_of_misses fun path among => FileTree.misses_of_isFile (missed path among)

theorem outcome_of_no_file [CharacterNames] (message : String) :
    outcome world words message =
      Project.lintWith world.tree (.ofText (world.project words)) Config.default message
        (askedVerbose words) := by
  rw [outcome_eq there, loaded_of_no_file there unasked missed, Project.andThen,
    Logged.quiet_bind]

theorem lint_of_no_file [CharacterNames] (supplied : Supplied world words message) :
    lint world words = lintMessage world words Config.default message := by
  rw [lint_of_load supplied (loaded_of_no_file there unasked missed)]
  generalize lintMessage world words Config.default message = plain
  rfl

end

/-- By default every message has diagnostics. -/
theorem lintWith_default_eq_ok [CharacterNames] (tree : FileTree) (project : Path)
    (message : String) (asked : Option Bool) :
    ∃ diagnostics, (Project.lintWith tree project Config.default message asked).value =
      .ok diagnostics := by
  have judged := lint_value Config.default Rule.builtin message asked
  rw [isIgnored_default] at judged
  have plain : Project.rules tree project Config.default = .quiet (.ok Rule.builtin) := rfl
  rw [Project.lintWith, plain]
  simp only [Project.andThen, Logged.quiet_bind, Logged.map, judged, Except.map, Except.mapError]
  exact ⟨_, rfl⟩

end Command

namespace Program

section

variable [CharacterNames] {world : World} {startLevel level : Option String}
  {startWords words : Words} {startArguments arguments : List String} {message : String}

/--
After a project was started successfully, it has a configuration that lints
like the default, whatever the rules and the message. Linting in the project
comes to what it comes to by default: the same diagnostics, which there
always are, the same ending, the same first channel, and the same second one
unless the log is shown down to its lowest level. That is what linting came
to before, if no file of the project had one of the names of configurations.
-/
theorem run_lint_after_init
    (began : Starts startLevel Catalogue.init startWords startArguments)
    (created : (run world startLevel startArguments).ending = .ok 0)
    (starts : Starts level Catalogue.lint words arguments)
    (there : world.hasProject words = true)
    (same : Path.ofText (world.project words) = Path.ofText (world.project startWords))
    (unasked : words.value? "--config" = none) (supplied : Command.Supplied world words message) :
    let project := Path.ofText (world.project words)
    let byDefault := Command.lintMessage world words Config.default message
    let judged := Project.lintWith world.tree project Config.default message
      (Command.askedVerbose words)
    let next := { world with tree := (run world startLevel startArguments).tree }
    let again := run next level arguments
    (∃ config, (Command.loaded next words).value = .ok config ∧ ∀ rules message asked,
      lint config rules message asked = lint Config.default rules message asked) ∧
    (∃ diagnostics, judged.value = .ok diagnostics ∧
      (Command.outcome next words message).value = .ok diagnostics) ∧
    again.ending = byDefault.ending ∧ again.stdout = byDefault.stdout ∧
    (∀ weight, Level.debug.weight < weight → again.stderr weight = byDefault.stderr weight) ∧
    ((∀ path ∈ Config.places project none, world.tree.isFile path = .ok false) →
      run world level arguments = byDefault ∧ Command.outcome world words message = judged) := by
  intro project byDefault judged next again
  have init : run world startLevel startArguments = Command.init world startWords :=
    run_of_starts (by simp [Command.all]) began
  rw [init] at created
  obtain ⟨place, creates⟩ := Command.init_creates created
  rw [← init] at creates
  have lints (world : World) : run world level arguments = Command.lint world words :=
    run_of_starts (.head _) starts
  have told : again = ⟨.log (.loadingConfig (Command.starterPath world startWords).text) ::
      byDefault.emissions, byDefault.ending, next.tree⟩ :=
    (lints next).trans (creates.lint there same unasked supplied)
  refine ⟨?config, ?found, ?ending, ?stdout, ?stderr, ?before⟩
  case config =>
    exact ⟨Config.starter, congrArg Logged.value (creates.loaded there same unasked),
      lint_eq_of_saysTheSame Config.default_saysTheSame_starter⟩
  case found =>
    obtain ⟨diagnostics, found⟩ := Command.lintWith_default_eq_ok world.tree project message
      (Command.askedVerbose words)
    refine ⟨diagnostics, found, ?_⟩
    rw [creates.outcome there same unasked, Logged.after]
    dsimp only
    exact found
  case ending => rw [told]
  case stdout =>
    rw [told, Run.stdout, List.map_cons, String.join_cons]
    exact String.empty_append
  case stderr =>
    intro weight above
    have hidden : Emission.onErr weight
        (.log (.loadingConfig (Command.starterPath world startWords).text)) = "" := if_pos above
    rw [told, Run.stderr, List.map_cons, String.join_cons, hidden]
    exact String.empty_append
  case before =>
    intro missed
    exact ⟨(lints world).trans (Command.lint_of_no_file there unasked missed supplied),
      Command.outcome_of_no_file there unasked missed message⟩

end

open CharacterNames in
/-- In a world without files a message is linted alike before and after the project was started. -/
theorem run_lint_after_init_piped :
    let world := piped "fix: x\n"
    let next := { world with tree := (run world none ["init"]).tree }
    (run world none ["init"]).ending = .ok 0 ∧
      (run next none ["lint"]).ending = (run world none ["lint"]).ending ∧
      (run next none ["lint"]).stdout = (run world none ["lint"]).stdout ∧
      (run next none ["lint"]).stderr LogLevel.fallback =
        (run world none ["lint"]).stderr LogLevel.fallback := by
  intro world next
  have began : Starts none Catalogue.init ⟨[], []⟩ ["init"] :=
    ⟨⟨_, rfl⟩, ⟨_, .direct, rfl⟩, by decide, rfl⟩
  have starts : Starts none Catalogue.lint ⟨[], []⟩ ["lint"] :=
    ⟨⟨_, rfl⟩, ⟨_, .direct, rfl⟩, by decide, rfl⟩
  have created : (run world none ["init"]).ending = .ok 0 := by decide +kernel
  have supplied : Command.Supplied (piped "fix: x\n") ⟨[], []⟩ "fix: x\n" := .input rfl rfl
  have missed : ∀ path ∈ Config.places (Path.ofText (world.project ⟨[], []⟩)) none,
      world.tree.isFile path = .ok false := by decide +kernel
  obtain ⟨-, -, ending, stdout, stderr, before⟩ :=
    run_lint_after_init began created starts rfl rfl rfl supplied
  rw [(before missed).1]
  exact ⟨created, ending, stdout, stderr LogLevel.fallback (by decide)⟩

end Program

end CommitLint
