import CommitLint.Proofs.CommandLine.Flags
import CommitLint.Proofs.CommandLine.Linting
import CommitLint.Proofs.Lint.Verbosity

/-!
# Linting quietly

The command for linting with the quiet flag in the place of the verbose one:
it ends alike, with the same files, the same warnings and errors, the same
document, and the same log but for remarks. The line of success is all that
the first channel can lack.
-/

namespace CommitLint

def Emission.isRemark : Emission → Bool
  | .log event => event.isRemark
  | _ => false

namespace Run

/-- A run with the remarks taken out of what it logs. -/
def withoutRemarks (run : Run) : Run :=
  { run with emissions := run.emissions.filter fun emission => !emission.isRemark }

/-- A run that comes to the same as another one, but for remarks and the line of success. -/
structure Quiets (loud quiet : Run) : Prop where
  ending : quiet.ending = loud.ending
  tree : quiet.tree = loud.tree
  stderr (weight : Nat) : quiet.withoutRemarks.stderr weight = loud.withoutRemarks.stderr weight
  stdout : quiet.stdout = loud.stdout ∨
    loud.stdout = "Commit message validation passed!\n" ∧ quiet.stdout = ""

theorem Quiets.refl (run : Run) : run.Quiets run :=
  ⟨rfl, rfl, fun _ => rfl, .inl rfl⟩

theorem withoutRemarks_eq {run : Run}
    (terse : ∀ emission ∈ run.emissions, emission.isRemark = false) : run.withoutRemarks = run := by
  rw [withoutRemarks, filter_of_terse terse]

/-- Remarks are not seen on the first channel. -/
theorem stdout_withoutRemarks (run : Run) : run.withoutRemarks.stdout = run.stdout := by
  rw [stdout, stdout, withoutRemarks]
  induction run.emissions with
  | nil => rfl
  | cons emission rest ih =>
      rw [List.map_cons, String.join_cons, ← ih]
      cases remark : emission.isRemark with
      | false => simp [remark]
      | true =>
          have silent : emission.onOut = "" := by
            cases emission with
            | log event => rfl
            | out text => cases remark
            | err text => cases remark
          simp [remark, silent]

end Run

namespace Command

variable {world : World} {words : Words} {message : String}

/-! ## What is said of a result -/

theorem filter_logs (events : List Event) :
    (logs events).filter (fun emission => !emission.isRemark) =
      logs (events.filter fun event => !event.isRemark) := by
  rw [logs, logs, List.filter_map]
  rfl

theorem isRemark_present (diagnostics : Diagnostics) (verbose asJson : Bool) :
    ∀ emission ∈ present diagnostics verbose asJson, emission.isRemark = false := by
  intro emission said
  unfold present at said
  cases asJson with
  | true =>
      cases List.mem_singleton.mp said
      rfl
  | false =>
      simp only [Bool.false_eq_true, if_false, List.mem_append, List.mem_map] at said
      rcases said with (⟨text, -, rfl⟩ | ⟨text, -, rfl⟩) | ⟨text, -, rfl⟩ <;> rfl

/-- The run that says the outcome of linting. -/
def report (world : World) (asJson verbose : Bool)
    (outcome : Logged (Except Failure Diagnostics)) : Run :=
  match outcome.value with
  | .error failure => world.fail (logs outcome.events) failure
  | .ok diagnostics =>
      world.finish (logs outcome.events ++ present diagnostics verbose asJson) diagnostics.exitCode

theorem report_withoutRemarks (world : World) (asJson verbose : Bool)
    (outcome : Logged (Except Failure Diagnostics)) :
    (report world asJson verbose outcome).withoutRemarks =
      report world asJson verbose outcome.withoutRemarks := by
  unfold report
  rw [Logged.withoutRemarks]
  cases outcome.value with
  | error failure => simp only [Run.withoutRemarks, World.fail, filter_logs]
  | ok diagnostics =>
      have kept := filter_of_terse (isRemark_present diagnostics verbose asJson)
      simp only [Run.withoutRemarks, World.finish, List.filter_append, filter_logs, kept]

theorem report_shows (world : World) {outcome : Logged (Except Failure Diagnostics)}
    {diagnostics : Diagnostics} (judged : outcome.value = .ok diagnostics) (asJson verbose : Bool)
    (weight : Nat) :
    Shows world asJson verbose weight outcome.events diagnostics
      (report world asJson verbose outcome) := by
  rw [report, judged]
  exact finish_shows world asJson verbose weight outcome.events diagnostics

theorem Shows.stderr_eq {asJson verbose verbose' : Bool} {weight : Nat} {events : List Event}
    {diagnostics : Diagnostics} {run run' : Run}
    (first : Shows world asJson verbose weight events diagnostics run)
    (second : Shows world asJson verbose' weight events diagnostics run') :
    run'.stderr weight = run.stderr weight := by
  cases asJson with
  | true => rw [(first.document rfl).2, (second.document rfl).2]
  | false => rw [first.blocks rfl, second.blocks rfl]

/-- The same outcome, quietly: the line of success can be missing, unless a document is asked
for. -/
theorem report_quiet (world : World) (asJson verbose : Bool)
    (outcome : Logged (Except Failure Diagnostics)) :
    let loud := report world asJson verbose outcome
    let quiet := report world asJson false outcome
    quiet.ending = loud.ending ∧ quiet.tree = loud.tree ∧
      (∀ weight, quiet.stderr weight = loud.stderr weight) ∧
      (quiet.stdout = loud.stdout ∨
        asJson = false ∧ loud.stdout = "Commit message validation passed!\n" ∧
          quiet.stdout = "") := by
  intro loud quiet
  cases judged : outcome.value with
  | error failure =>
      have same : quiet = loud := by simp only [quiet, loud, report, judged]
      rw [same]
      exact ⟨rfl, rfl, fun _ => rfl, .inl rfl⟩
  | ok diagnostics =>
      have shows (verbose : Bool) (weight : Nat) :=
        report_shows world judged asJson verbose weight
      refine ⟨(shows false 0).ending.trans (shows verbose 0).ending.symm,
        (shows false 0).tree.trans (shows verbose 0).tree.symm,
        fun weight => (shows verbose weight).stderr_eq (shows false weight), ?_⟩
      cases asJson with
      | true =>
          have document (verbose : Bool) := ((shows verbose 0).document rfl).1
          exact .inl ((document false).trans (document verbose).symm)
      | false =>
          have success (verbose : Bool) := (shows verbose 0).success rfl
          by_cases praised : diagnostics.errors = [] ∧ verbose = true
          · exact .inr ⟨rfl, (success verbose).trans (if_pos praised), by
              simpa using success false⟩
          · refine .inl ?_
            rw [success verbose, if_neg praised]
            simpa using success false

/-- Reported quietly, an outcome lacks remarks and the line of success at most. -/
theorem report_quiets (world : World) (asJson verbose : Bool)
    {loud quiet : Logged (Except Failure Diagnostics)}
    (alike : quiet.withoutRemarks = loud.withoutRemarks) :
    (report world asJson verbose loud).Quiets (report world asJson false quiet) ∧
      (asJson = true →
        (report world asJson false quiet).stdout = (report world asJson verbose loud).stdout) := by
  have loudly := report_withoutRemarks world asJson verbose loud
  have quietly := report_withoutRemarks world asJson false quiet
  obtain ⟨ending, tree, stderr, stdout⟩ := report_quiet world asJson verbose loud.withoutRemarks
  rw [alike] at quietly
  rw [← loudly, ← quietly] at ending tree stderr stdout
  rw [Run.stdout_withoutRemarks, Run.stdout_withoutRemarks] at stdout
  refine ⟨⟨ending, tree, stderr, ?_⟩, ?_⟩
  · exact stdout.imp id And.right
  · rintro rfl
    exact stdout.elim id fun ⟨plain, _⟩ => nomatch plain

/-! ## The words -/

/-- Words that ask for quiet where they asked for verbosity. -/
def hushed (words : Words) : Words :=
  words.exchange "--verbose" "--quiet"

theorem value?_hushed {spelling : String} (other : spelling ∉ ["--verbose", "--quiet"]) :
    (hushed words).value? spelling = words.value? spelling := by
  simp only [List.mem_cons, List.not_mem_nil, or_false, not_or] at other
  exact Words.value?_exchange (Ne.symm other.1) (Ne.symm other.2)

theorem has_hushed {spelling : String} (other : spelling ∉ ["--verbose", "--quiet"]) :
    (hushed words).has spelling = words.has spelling := by
  simp only [List.mem_cons, List.not_mem_nil, or_false, not_or] at other
  exact Words.has_exchange (Ne.symm other.1) (Ne.symm other.2)

theorem askedVerbose_hushed (words : Words) :
    askedVerbose (hushed words) = (askedVerbose words).map fun _ => false := by
  have flags : ((hushed words).last? ["--verbose", "--quiet"]).map (·.spelling) =
      (words.last? ["--verbose", "--quiet"]).map fun _ => "--quiet" :=
    Words.last?_exchange_both
  have spellings (words : Words) : askedVerbose words =
      ((words.last? ["--verbose", "--quiet"]).map (·.spelling)).map (· == "--verbose") := by
    rw [askedVerbose, Option.map_map]
    rfl
  rw [spellings, flags, spellings, Option.map_map, Option.map_map, Option.map_map]
  rfl

theorem asked_of_has (given : words.has "--verbose" = true) :
    ∃ verbose, askedVerbose words = some verbose := by
  have occurs : (words.last? ["--verbose", "--quiet"]).isSome = true :=
    Words.isSome_last? (.head _) given
  obtain ⟨last, found⟩ := Option.isSome_iff_exists.mp occurs
  exact ⟨_, by rw [askedVerbose, found, Option.map_some]⟩

section

variable (world words)

theorem project_hushed : world.project (hushed words) = world.project words := by
  rw [World.project, World.project, value?_hushed (by decide)]

theorem hasProject_hushed : world.hasProject (hushed words) = world.hasProject words := by
  rw [World.hasProject, World.hasProject, value?_hushed (by decide)]

theorem loaded_hushed : loaded world (hushed words) = loaded world words := by
  rw [loaded, loaded, hasProject_hushed, project_hushed, value?_hushed (by decide)]

theorem readMessage_hushed (spec : CommandSpec) :
    readMessage world spec ((hushed words).value? "--edit") (hushed words).arguments.head? =
      readMessage world spec (words.value? "--edit") words.arguments.head? := by
  rw [value?_hushed (by decide), hushed, Words.arguments_exchange]

theorem outcome_hushed [CharacterNames] (message : String) :
    outcome world (hushed words) message =
      if world.hasProject words then
        Project.lint world.tree (.ofText (world.project words)) (words.value? "--config") message
          ((askedVerbose words).map fun _ => false)
      else .quiet (.error (.file (.unnamed .notFound))) := by
  rw [outcome, hasProject_hushed, project_hushed, value?_hushed (by decide), askedVerbose_hushed]

/-- What the library finds does not depend on the flag, but for remarks. -/
theorem outcome_hushed_withoutRemarks [CharacterNames] (message : String) :
    (outcome world (hushed words) message).withoutRemarks =
      (outcome world words message).withoutRemarks := by
  rw [outcome_hushed, outcome]
  split
  · rw [Project.lint_withoutRemarks, Project.lint_withoutRemarks]
  · rfl

end

/-! ## The command where nothing is linted -/

theorem readFile_withoutRemarks {file : String} {run : Run}
    (refused : readFile world file = .error run) : run.withoutRemarks = run := by
  unfold readFile at refused
  dsimp only at refused
  cases found : world.tree.read (.ofText file) (Path.ofText file).text with
  | error fault =>
      rw [found] at refused
      cases fault <;> (cases refused; rfl)
  | ok content =>
      rw [found] at refused
      dsimp only at refused
      cases decoded : FileTree.textOf content.toBytes with
      | error failure =>
          rw [decoded] at refused
          cases refused
          rfl
      | ok text =>
          rw [decoded] at refused
          cases refused

theorem readMessage_withoutRemarks {spec : CommandSpec} {edit file : Option String} {run : Run}
    (refused : readMessage world spec edit file = .error run) : run.withoutRemarks = run := by
  unfold readMessage at refused
  split at refused
  · exact readFile_withoutRemarks refused
  · exact readFile_withoutRemarks refused
  · split at refused
    · cases refused
      rfl
    · cases refused

theorem refuseConfig_withoutRemarks {events : List Event}
    (terse : ∀ event ∈ events, event.isRemark = false) (failure : Failure) :
    (refuseConfig world events failure).withoutRemarks = refuseConfig world events failure := by
  apply Run.withoutRemarks_eq
  have logged : ∀ emission ∈ logs events, emission.isRemark = false := by
    intro emission said
    obtain ⟨event, told, rfl⟩ := List.mem_map.mp said
    exact terse event told
  cases failure with
  | config fault => exact List.forall_mem_append.mpr ⟨logged, List.forall_mem_singleton.mpr rfl⟩
  | _ => exact logged

theorem loaded_isTerse (world : World) (words : Words) :
    ∀ event ∈ (loaded world words).events, event.isRemark = false := by
  rw [loaded]
  split
  · exact Config.load_isTerse world.tree _ _
  · exact fun _ told => absurd told List.not_mem_nil

/-! ## The command with either flag -/

section

variable [CharacterNames]

/-- Either no message is linted, and the flag does not matter, or the outcome of the library is
reported. -/
theorem lint_hushed_cases (world : World) (words : Words) :
    (∃ run, run.withoutRemarks = run ∧ lint world words = run ∧ lint world (hushed words) = run) ∨
      ∃ (config : Config) (message : String),
        lint world words = report world (words.has "--json")
          (config.effectiveVerbose (askedVerbose words)) (outcome world words message) ∧
        lint world (hushed words) = report world (words.has "--json")
          (config.effectiveVerbose ((askedVerbose words).map fun _ => false))
          (outcome world (hushed words) message) := by
  have given' := readMessage_hushed world words Catalogue.lint
  cases given : readMessage world Catalogue.lint (words.value? "--edit") words.arguments.head? with
  | error run =>
      rw [given] at given'
      have there' := hasProject_hushed world words
      cases there : world.hasProject words with
      | false =>
          refine .inl ⟨_, rfl, World.inProject_of_not_hasProject there _, ?_⟩
          exact World.inProject_of_not_hasProject (there'.trans there) _
      | true =>
          refine .inl ⟨run, readMessage_withoutRemarks given, ?_, ?_⟩
          · rw [lint, World.inProject_of_hasProject there, lintInProject, given]
          · rw [lint, World.inProject_of_hasProject (there'.trans there), lintInProject, given']
  | ok message =>
      rw [given] at given'
      have found' := loaded_hushed world words
      cases found : (loaded world words).value with
      | error failure =>
          refine .inl ⟨_, refuseConfig_withoutRemarks (loaded_isTerse world words) failure,
            lint_of_unloaded given found, ?_⟩
          rw [← found'] at found
          exact (lint_of_unloaded given' found).trans (by rw [found'])
      | ok config =>
          refine .inr ⟨config, message, lint_of_loaded given found, ?_⟩
          rw [← found'] at found
          rw [← askedVerbose_hushed, ← has_hushed (by decide)]
          exact lint_of_loaded given' found

theorem lint_hushed (world : World) (words : Words) :
    let loud := lint world words
    let quiet := lint world (hushed words)
    loud.Quiets quiet ∧ (words.has "--json" = true → quiet.stdout = loud.stdout) ∧
      (words.has "--verbose" = true → quiet.withoutRemarks = quiet) := by
  intro loud quiet
  rcases lint_hushed_cases world words with ⟨run, terse, loudly, quietly⟩ |
    ⟨config, message, loudly, quietly⟩
  · rw [show loud = run from loudly, show quiet = run from quietly]
    exact ⟨.refl run, fun _ => rfl, fun _ => terse⟩
  · cases asked : askedVerbose words with
    | none =>
        have same : quiet = loud := by
          have outcomes : outcome world (hushed words) message = outcome world words message := by
            rw [outcome_hushed, outcome, asked, Option.map_none]
          simp only [loud, quiet, loudly, quietly, outcomes, asked, Option.map_none]
        rw [same]
        refine ⟨.refl loud, fun _ => rfl, fun has => ?_⟩
        obtain ⟨verbose, present⟩ := asked_of_has has
        cases asked.symm.trans present
    | some verbose =>
        obtain ⟨quiets, document⟩ := report_quiets world (words.has "--json")
          (config.effectiveVerbose (some verbose))
          (outcome_hushed_withoutRemarks world words message)
        rw [asked] at loudly quietly
        simp only [loud, quiet, loudly, quietly]
        refine ⟨quiets, document, fun _ => ?_⟩
        rw [report_withoutRemarks, outcome_hushed, asked, Option.map_some]
        split
        · rw [Project.lint_withoutRemarks]
        · rfl

end

end Command

/-! ## The whole program -/

namespace Program

theorem isFlag_verbose : Catalogue.lint.IsFlag "--verbose" :=
  ⟨by decide, by decide, by decide, _, rfl, rfl⟩

theorem isFlag_quiet : Catalogue.lint.IsFlag "--quiet" :=
  ⟨by decide, by decide, by decide, _, rfl, rfl⟩

section

variable [CharacterNames]

theorem runCommand_lint {world : World} {rest : List String} {words : Words}
    (split : Catalogue.lint.split rest = .ok words) :
    runCommand world Catalogue.lint Command.lint rest =
      if words.has "--help" then showPage world Catalogue.lint []
      else Command.lint world words := by
  rw [runCommand, split]
  rfl

theorem runCommand_hushed (world : World) (rest : List String) :
    let loud := runCommand world Catalogue.lint Command.lint rest
    let quiet := runCommand world Catalogue.lint Command.lint
      (Catalogue.lint.exchange "--verbose" "--quiet" rest)
    loud.Quiets quiet ∧ ∀ words, Catalogue.lint.split rest = .ok words →
      (words.has "--json" = true → quiet.stdout = loud.stdout) ∧
        (words.has "--verbose" = true → quiet.withoutRemarks = quiet) := by
  intro loud quiet
  have split' : Catalogue.lint.split (Catalogue.lint.exchange "--verbose" "--quiet" rest) =
      (Catalogue.lint.split rest).map Command.hushed :=
    CommandSpec.split_exchange isFlag_verbose isFlag_quiet rfl rest
  cases split : Catalogue.lint.split rest with
  | error fault =>
      rw [split] at split'
      have loudly : loud = refuse world Catalogue.lint fault := by
        simp only [loud, runCommand, split]
      have quietly : quiet = refuse world Catalogue.lint fault := by
        simp only [quiet, runCommand, split', Except.map]
      rw [loudly, quietly]
      exact ⟨.refl _, fun words understood => by cases understood⟩
  | ok words =>
      rw [split] at split'
      have loudly : loud = _ := runCommand_lint split
      have quietly : quiet = _ := runCommand_lint split'
      rw [Command.has_hushed (by decide)] at quietly
      rw [loudly, quietly]
      split
      · refine ⟨.refl _, ?_⟩
        rintro _ ⟨⟩
        exact ⟨fun _ => rfl, fun _ => rfl⟩
      · obtain ⟨quiets, document, terse⟩ := Command.lint_hushed world words
        refine ⟨quiets, ?_⟩
        rintro _ ⟨⟩
        exact ⟨document, terse⟩

/--
Verbosity does not change a verdict. Linting finds the same, or fails alike,
however much is asked for, and quietly it logs the same but for remarks. On a
command line, the quiet flag in the place of the verbose one leaves the
status, the files, the warnings, the errors and the rest of the log as they
are; the first channel can only lack the line of success, and not where a
document is asked for.
-/
theorem run_lint_quietly :
    (∀ config rules message asked, lint config rules message (some false) =
      (lint config rules message asked).withoutRemarks) ∧
    ∀ world level rest spoken hushed, Calls Catalogue.lint rest spoken →
      Calls Catalogue.lint (Catalogue.lint.exchange "--verbose" "--quiet" rest) hushed →
      let loud := run world level spoken
      let quiet := run world level hushed
      loud.Quiets quiet ∧ ∀ words, Catalogue.lint.split rest = .ok words →
        (words.has "--json" = true → quiet.stdout = loud.stdout) ∧
          (words.has "--verbose" = true → quiet.withoutRemarks = quiet) := by
  refine ⟨fun config rules message asked => (lint_withoutRemarks config rules message asked).symm,
    ?_⟩
  intro world level rest spoken hushed calls calls' loud quiet
  have listed : (Catalogue.lint, Command.lint) ∈ Command.all := .head _
  have loudly : loud = _ := run_of_calls listed calls
  have quietly : quiet = _ := run_of_calls listed calls'
  cases threshold : LogLevel.threshold level with
  | error failure =>
      rw [threshold] at loudly quietly
      have same : quiet = loud := quietly.trans loudly.symm
      rw [same]
      refine ⟨.refl loud, fun words _ => ⟨fun _ => rfl, fun _ => ?_⟩⟩
      rw [show loud = world.fail [] failure from loudly]
      rfl
  | ok weight =>
      rw [threshold] at loudly quietly
      simp only [loud, quiet, loudly, quietly]
      exact runCommand_hushed world rest

end

open CharacterNames in
/-- A message that is left alone is remarked on, and told of as one that passes; quietly it is not,
and passes all the same. -/
theorem run_lint_quietly_ignored :
    let loud := run (piped "Merge branch") none ["lint", "--verbose"]
    let quiet := run (piped "Merge branch") none ["lint", "--quiet"]
    loud.ending = .ok 0 ∧ quiet.ending = .ok 0 ∧ loud.emissions.any (·.isRemark) = true ∧
      ∀ weight, quiet.stderr weight = loud.withoutRemarks.stderr weight := by
  intro loud quiet
  have split : Catalogue.lint.split ["--verbose"] = .ok ⟨[⟨"--verbose", none⟩], []⟩ := by
    decide +kernel
  obtain ⟨quiets, said⟩ := run_lint_quietly.2 (piped "Merge branch") none ["--verbose"]
    ["lint", "--verbose"] ["lint", "--quiet"] .direct .direct
  have terse : quiet.withoutRemarks = quiet := (said _ split).2 (by decide)
  have passed : loud.ending = .ok 0 := by decide +kernel
  refine ⟨passed, quiets.ending.trans passed, by decide +kernel, fun weight => ?_⟩
  rw [← quiets.stderr weight]
  exact congrArg (·.stderr weight) terse.symm

end Program

end CommitLint
