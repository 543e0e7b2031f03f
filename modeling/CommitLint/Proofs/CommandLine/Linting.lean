import CommitLint.Proofs.CommandLine.Calls
import CommitLint.Proofs.CommandLine.Output
import CommitLint.Proofs.Config.Loading
import CommitLint.Proofs.FileTree.Texts

/-!
# The command for linting

The command says what the library finds: its status, its two channels and its
document are those of the diagnostics that the project has for the message,
whichever way the message is given and however its lines end.
-/

namespace CommitLint

theorem FileTree.read_eq_ok_iff {tree : FileTree} {path : Path} {content : Content}
    {named : String} : tree.read path named = .ok content ↔ tree.Holds path content := by
  refine ⟨fun taken => ?_, fun held => read_of_holds held named⟩
  rw [read] at taken
  split at taken
  · cases taken
  · next whole =>
      rw [Bool.not_eq_true] at whole
      cases entry : tree.entryAt path with
      | error error =>
          rw [entry] at taken
          cases taken
      | ok found =>
          rw [entry] at taken
          cases found with
          | directory => cases taken
          | file other mode =>
              cases taken
              exact ⟨whole, mode, entry⟩

namespace Command

variable {world : World} {words : Words} {other : List Char} {message : String}

/-! ## The message -/

/-- The file that a message is read from, unless it is read from the input. -/
def messageFile? (words : Words) : Option String :=
  match Surroundings.answer? (words.value? "--edit") with
  | some file => some file
  | none => words.arguments.head?

/-- The message that a command is given: the text of a file, with line feeds for all line ends, or
the text that is read from the input. -/
inductive Supplied (world : World) (words : Words) : String → Prop where
  | file {file : String} {content : Content} {text : List Char}
      (named : messageFile? words = some file)
      (held : world.tree.Holds (.ofText file) content)
      (decoded : Text.Utf8.decode content.toBytes = .ok text) :
      Supplied world words (String.ofList (Text.unifyNewlines text))
  | input (unnamed : messageFile? words = none) (piped : world.terminal = false) :
      Supplied world words (String.ofList world.input.text)

theorem readFile_eq_ok_iff {file : String} :
    readFile world file = .ok message ↔
      ∃ content text, world.tree.Holds (.ofText file) content ∧
        Text.Utf8.decode content.toBytes = .ok text ∧
          message = String.ofList (Text.unifyNewlines text) := by
  constructor
  · intro taken
    unfold readFile at taken
    dsimp only at taken
    cases found : world.tree.read (.ofText file) (Path.ofText file).text with
    | error fault =>
        rw [found] at taken
        cases fault <;> cases taken
    | ok content =>
        rw [found] at taken
        dsimp only at taken
        unfold FileTree.textOf at taken
        cases decoded : Text.Utf8.decode content.toBytes with
        | error fault =>
            rw [decoded] at taken
            cases taken
        | ok text =>
            rw [decoded] at taken
            cases taken
            exact ⟨content, text, FileTree.read_eq_ok_iff.mp found, decoded, rfl⟩
  · rintro ⟨content, text, held, decoded, rfl⟩
    simp only [readFile, FileTree.read_of_holds held, FileTree.textOf, decoded]

/-- A message can be read exactly when it is supplied. -/
theorem readMessage_eq_ok_iff (spec : CommandSpec) :
    readMessage world spec (words.value? "--edit") words.arguments.head? = .ok message ↔
      Supplied world words message := by
  have same : readMessage world spec (words.value? "--edit") words.arguments.head? =
      match messageFile? words with
      | some file => readFile world file
      | none =>
          if world.terminal then .error (world.finish [.err (spec.page [])] 1)
          else .ok (String.ofList world.input.text) := by
    unfold readMessage messageFile?
    cases Surroundings.answer? (words.value? "--edit") with
    | some file => rfl
    | none => cases words.arguments.head? <;> rfl
  rw [same]
  cases named : messageFile? words with
  | some file =>
      dsimp only
      rw [readFile_eq_ok_iff]
      constructor
      · rintro ⟨content, text, held, decoded, rfl⟩
        exact .file named held decoded
      · intro supplied
        cases supplied with
        | file named' held decoded =>
            cases named.symm.trans named'
            exact ⟨_, _, held, decoded, rfl⟩
        | input unnamed => cases named.symm.trans unnamed
  | none =>
      dsimp only
      constructor
      · intro taken
        split at taken
        · cases taken
        · next piped =>
            cases taken
            exact .input named (by simpa using piped)
      · intro supplied
        cases supplied with
        | file named' _ _ => cases named.symm.trans named'
        | input _ piped => rw [piped, if_neg (by decide)]

/-! ## The command on a message -/

section

variable [CharacterNames]

/-- What the library finds for a message in the project of the words; a current directory that is
gone is none. -/
def outcome (world : World) (words : Words) (message : String) :
    Logged (Except Failure Diagnostics) :=
  if world.hasProject words then
    Project.lint world.tree (.ofText (world.project words)) (words.value? "--config") message
      (askedVerbose words)
  else .quiet (.error (.file (.unnamed .notFound)))

theorem lintWith_effective (tree : FileTree) (project : Path) (config : Config) (message : String)
    (asked : Option Bool) :
    Project.lintWith tree project config message (some (config.effectiveVerbose asked)) =
      Project.lintWith tree project config message asked :=
  rfl

theorem outcome_eq (there : world.hasProject words = true) (message : String) :
    outcome world words message =
      Project.andThen (loaded world words) fun config =>
        Project.lintWith world.tree (.ofText (world.project words)) config message
          (askedVerbose words) := by
  rw [outcome, loaded_of_hasProject there, if_pos there]
  rfl

omit [CharacterNames] in
theorem hasProject_of_loaded {config : Config}
    (found : (loaded world words).value = .ok config) : world.hasProject words = true := by
  rw [loaded] at found
  split at found
  · assumption
  · cases found

theorem outcome_of_loaded {config : Config} (found : (loaded world words).value = .ok config) :
    let judged := Project.lintWith world.tree (.ofText (world.project words)) config message
      (askedVerbose words)
    outcome world words message = ⟨judged.value, (loaded world words).events ++ judged.events⟩ := by
  simp only [outcome_eq (hasProject_of_loaded found), Project.andThen, Logged.bind, found]

/-- A configuration that cannot be loaded is the outcome of the library as well. -/
theorem outcome_of_unloaded {failure : Failure}
    (failed : (loaded world words).value = .error failure) :
    outcome world words message = ⟨.error failure, (loaded world words).events⟩ := by
  by_cases there : world.hasProject words = true
  · simp only [outcome_eq there, Project.andThen, Logged.bind, Logged.quiet, failed,
      List.append_nil]
  · rw [loaded, if_neg there] at failed ⊢
    cases failed
    exact if_neg there

section

variable (given : readMessage world Catalogue.lint (words.value? "--edit") words.arguments.head? =
  .ok message)

include given

/-- The command says what the library finds, once the configuration is loaded. -/
theorem lint_of_loaded {config : Config} (found : (loaded world words).value = .ok config) :
    lint world words =
      match (outcome world words message).value with
      | .error failure => world.fail (logs (outcome world words message).events) failure
      | .ok diagnostics =>
          world.finish
            (logs (outcome world words message).events ++
              present diagnostics (config.effectiveVerbose (askedVerbose words))
                (words.has "--json"))
            diagnostics.exitCode := by
  rw [outcome_of_loaded found, lint_of_message given, found]
  dsimp only
  rw [lintMessage, lintWith_effective]
  cases (Project.lintWith world.tree (.ofText (world.project words)) config message
    (askedVerbose words)).value with
  | error failure => simp only [Run.after, World.fail, logs, List.map_append]
  | ok diagnostics => simp only [Run.after, World.finish, logs, List.map_append, List.append_assoc]

theorem lint_of_diagnostics {diagnostics : Diagnostics}
    (judged : (outcome world words message).value = .ok diagnostics) :
    ∃ config, (loaded world words).value = .ok config ∧
      lint world words =
        world.finish
          (logs (outcome world words message).events ++
            present diagnostics (config.effectiveVerbose (askedVerbose words))
              (words.has "--json"))
          diagnostics.exitCode := by
  cases found : (loaded world words).value with
  | error failure =>
      rw [outcome_of_unloaded found] at judged
      cases judged
  | ok config =>
      refine ⟨config, rfl, ?_⟩
      rw [lint_of_loaded given found, judged]

/-- A failure that is not of the configuration ends the command. -/
theorem lint_of_failure {failure : Failure}
    (failed : (outcome world words message).value = .error failure)
    (grave : ∀ fault, failure ≠ .config fault) :
    (lint world words).ending = .error failure := by
  cases found : (loaded world words).value with
  | error other =>
      rw [outcome_of_unloaded found] at failed
      cases failed
      rw [lint_of_unloaded given found]
      cases failure with
      | config fault => exact absurd rfl (grave fault)
      | _ => rfl
  | ok config =>
      rw [lint_of_loaded given found, failed]
      rfl

end

end

/-! ## What is said -/

/-- The lines of the log from a weight on. -/
def logText (weight : Nat) (events : List Event) : String :=
  String.join (events.map fun event => Emission.onErr weight (.log event))

/-- The lines of the diagnostics for a terminal, one for each text, behind a mark. -/
def markedLines (mark : String) (texts : List String) : String :=
  String.join (texts.map fun text => mark ++ Terminal.shown text ++ "\n")

theorem join_silent {α : Type} (items : List α) : String.join (items.map fun _ => "") = "" := by
  induction items with
  | nil => rfl
  | cons item rest ih => rw [List.map_cons, String.join_cons, ih, String.empty_append]

theorem stdout_finish (world : World) (events : List Event) (emissions : List Emission)
    (status : Nat) :
    (world.finish (logs events ++ emissions) status).stdout =
      String.join (emissions.map (·.onOut)) := by
  have silent : (logs events).map (·.onOut) = events.map fun _ => "" := by
    simp only [logs, List.map_map, Function.comp_def, Emission.onOut]
  rw [Run.stdout, World.finish, List.map_append, String.join_append, silent, join_silent,
    String.empty_append]

theorem stderr_finish (world : World) (events : List Event) (emissions : List Emission)
    (status weight : Nat) :
    (world.finish (logs events ++ emissions) status).stderr weight =
      logText weight events ++ String.join (emissions.map (·.onErr weight)) := by
  rw [Run.stderr, World.finish, List.map_append, String.join_append, logs, List.map_map, logText]
  rfl

/-- Texts that are said where errors go are not seen elsewhere. -/
theorem stdout_errs (texts : List String) :
    String.join ((texts.map Emission.err).map (·.onOut)) = "" := by
  rw [List.map_map]
  exact join_silent texts

theorem stderr_errs (weight : Nat) (texts : List String) :
    String.join ((texts.map Emission.err).map (·.onErr weight)) =
      String.join (texts.map Emission.line) := by
  rw [List.map_map]
  rfl

theorem stdout_outs (texts : List String) :
    String.join ((texts.map Emission.out).map (·.onOut)) =
      String.join (texts.map Emission.line) := by
  rw [List.map_map]
  rfl

theorem stderr_outs (weight : Nat) (texts : List String) :
    String.join ((texts.map Emission.out).map (·.onErr weight)) = "" := by
  rw [List.map_map]
  exact join_silent texts

theorem line_marked (mark : String) (free : '\x1B' ∉ mark.toList) (texts : List String) :
    String.join ((texts.map (mark ++ ·)).map Emission.line) = markedLines mark texts := by
  simp only [List.map_map, Function.comp_def, markedLines, Emission.line_eq,
    Terminal.shown_append_of_no_code free]

theorem join_warningBlock (diagnostics : Diagnostics) :
    String.join (diagnostics.warningBlock.toList.map Emission.line) =
      markedLines "! " diagnostics.warnings := by
  have lines := line_marked "! " (by decide) diagnostics.warnings
  unfold Diagnostics.warningBlock
  cases warnings : diagnostics.warnings with
  | nil => rfl
  | cons first rest =>
      rw [warnings, List.map_cons, ← Emission.line_intercalate] at lines
      simpa using lines

theorem join_errorBlock (diagnostics : Diagnostics) :
    String.join (diagnostics.errorBlock.toList.map Emission.line) =
      if diagnostics.errors = [] then ""
      else "Commit message validation failed:\n" ++ markedLines "- " diagnostics.errors := by
  have lines := line_marked "- " (by decide) diagnostics.errors
  have title : Emission.line "Commit message validation failed:" =
      "Commit message validation failed:\n" := by
    decide +kernel
  unfold Diagnostics.errorBlock Diagnostics.isValid
  cases errors : diagnostics.errors with
  | nil => rfl
  | cons first rest =>
      rw [errors] at lines
      have whole : Emission.line ("\n".intercalate
          ("Commit message validation failed:" :: (first :: rest).map ("- " ++ ·))) =
            "Commit message validation failed:\n" ++ markedLines "- " (first :: rest) := by
        rw [Emission.line_intercalate, List.map_cons, String.join_cons, title, lines]
      simpa using whole

theorem join_successLine (diagnostics : Diagnostics) (verbose : Bool) :
    String.join ((diagnostics.successLine verbose).toList.map Emission.line) =
      if diagnostics.errors = [] ∧ verbose = true then "Commit message validation passed!\n"
      else "" := by
  have line : Emission.line "Commit message validation passed!" =
      "Commit message validation passed!\n" := by
    decide +kernel
  unfold Diagnostics.successLine Diagnostics.isValid
  by_cases passed : diagnostics.errors = [] ∧ verbose = true
  · simp [passed, line]
  · rw [if_neg passed, if_neg (by simpa using passed)]
    rfl

/-- What a command for linting says of diagnostics that it found. -/
structure Shows (world : World) (asJson verbose : Bool) (weight : Nat) (events : List Event)
    (diagnostics : Diagnostics) (run : Run) : Prop where
  ending : run.ending = .ok (if diagnostics.errors = [] then 0 else 1)
  tree : run.tree = world.tree
  document : asJson = true →
    run.stdout = diagnostics.json ++ "\n" ∧ run.stderr weight = logText weight events
  success : asJson = false → run.stdout =
    if diagnostics.errors = [] ∧ verbose = true then "Commit message validation passed!\n" else ""
  blocks : asJson = false → run.stderr weight =
    logText weight events ++ markedLines "! " diagnostics.warnings ++
      if diagnostics.errors = [] then ""
      else "Commit message validation failed:\n" ++ markedLines "- " diagnostics.errors

theorem finish_shows (world : World) (asJson verbose : Bool) (weight : Nat) (events : List Event)
    (diagnostics : Diagnostics) :
    Shows world asJson verbose weight events diagnostics
      (world.finish (logs events ++ present diagnostics verbose asJson) diagnostics.exitCode) := by
  refine ⟨?_, rfl, ?_, ?_, ?_⟩
  · simp [World.finish, Diagnostics.exitCode, Diagnostics.isValid]
  · rintro rfl
    rw [stdout_finish, stderr_finish]
    have said : present diagnostics verbose true = [diagnostics.json].map Emission.out := rfl
    rw [said, stdout_outs, stderr_outs, String.append_empty]
    exact ⟨by simp [Diagnostics.line_json], rfl⟩
  · rintro rfl
    rw [stdout_finish, ← join_successLine]
    simp only [present, Bool.false_eq_true, if_false, List.map_append, String.join_append,
      stdout_errs, stdout_outs, String.empty_append]
  · rintro rfl
    rw [stderr_finish, ← join_errorBlock, ← join_warningBlock]
    simp only [present, Bool.false_eq_true, if_false, List.map_append, String.join_append,
      stderr_errs, stderr_outs, String.append_empty, String.append_assoc]

/-! ## Other line ends -/

/-- Another text stands where the text for the message is taken from. An input hands it over with
line feeds for all line ends. -/
inductive Resupplied (words : Words) (other : List Char) : World → World → Prop where
  | file {world : World} {file : String} {place : Location} {first second : List UInt8} {mode : Nat}
      (named : messageFile? words = some file)
      (located : world.tree.locate (.ofText file) = .ok place)
      (held : world.tree.get? place = some (.file (.bytes first) mode))
      (decoded : Text.Utf8.decode second = .ok other) :
      Resupplied words other world
        { world with tree := world.tree.rewrite place (.bytes second) }
  | input {world : World} (unnamed : messageFile? words = none)
      (unifies : world.input.unifies = true) :
      Resupplied words other world { world with input := ⟨String.ofList other, true⟩ }

theorem Resupplied.sameTexts {next : World} (resupplied : Resupplied words other world next)
    (supplied : Supplied world words message)
    (same : String.ofList (Text.unifyNewlines other) = message) :
    FileTree.SameTexts world.tree next.tree ∧ Supplied next words message := by
  cases resupplied with
  | @file file place first second mode named located held decoded =>
      cases supplied with
      | @file file' content text named' there decoded' =>
          cases named.symm.trans named'
          obtain ⟨whole, mode', entry⟩ := there
          simp only [FileTree.entryAt, located, bind, Except.bind, held] at entry
          cases entry
          have alike := String.ofList_inj.mp same
          have sameTexts := FileTree.sameTexts_rewrite held (.bytes decoded' decoded alike.symm)
          have there' : (world.tree.rewrite place (.bytes second)).Holds (.ofText file)
              (.bytes second) := by
            refine ⟨whole, mode, ?_⟩
            simp [FileTree.entryAt, sameTexts.sameShape.locate_eq, located, bind, Except.bind,
              FileTree.get?_rewrite, held, FileTree.withContent]
          exact ⟨sameTexts, same ▸ .file named there' decoded⟩
      | input unnamed => cases named.symm.trans unnamed
  | input unnamed unifies =>
      cases supplied with
      | file named _ _ => cases unnamed.symm.trans named
      | input _ piped =>
          have read : Supplied { world with input := ⟨String.ofList other, true⟩ } words _ :=
            .input unnamed piped
          rw [InputStream.text, if_pos rfl, String.toList_ofList, same] at read
          exact ⟨.refl _, read⟩

theorem lintMessage_congr [CharacterNames] {next : World}
    (same : FileTree.SameTexts world.tree next.tree)
    (project : next.project words = world.project words) (config : Config) (message : String) :
    lintMessage next words config message =
      { lintMessage world words config message with tree := next.tree } := by
  simp only [lintMessage, project, Project.lintWith_eq same]
  cases (Project.lintWith world.tree (.ofText (world.project words)) config message
    (some (config.effectiveVerbose (askedVerbose words)))).value <;> rfl

/-- The command cannot tell worlds apart that give it the same message and the same texts. -/
theorem lint_congr [CharacterNames] {next : World} (same : FileTree.SameTexts world.tree next.tree)
    (given : readMessage world Catalogue.lint (words.value? "--edit") words.arguments.head? =
      .ok message)
    (given' : readMessage next Catalogue.lint (words.value? "--edit") words.arguments.head? =
      .ok message) :
    lint next words = { lint world words with tree := next.tree } := by
  have project : next.project words = world.project words := by
    simp only [World.project, World.here, same.current]
  have there : next.hasProject words = world.hasProject words := by
    simp only [World.hasProject, same.sameShape.hasCurrent_eq]
  have found : loaded next words = loaded world words := by
    simp only [loaded, there, project, Config.load_eq same]
  rw [lint_of_message given, lint_of_message given', found]
  cases (loaded world words).value with
  | error failure => cases failure <;> rfl
  | ok config =>
      dsimp only
      rw [lintMessage_congr same project]
      rfl

end Command

/-! ## The whole program -/

namespace Program

section

variable [CharacterNames] {world : World} {level : Option String} {weight : Nat}
  {rest : List String} {words : Words}

/-- A command line that starts with the name of the command runs it on the words behind it. -/
theorem run_lint (threshold : LogLevel.threshold level = .ok weight)
    (split : Catalogue.lint.split rest = .ok words) (plain : words.has "--help" = false) :
    run world level ("lint" :: rest) = Command.lint world words :=
  run_of_starts (.head _) ⟨⟨weight, threshold⟩, ⟨rest, .direct, split⟩, plain, rfl⟩

end

/-- A world without files, where a text is waiting at an input that unifies line ends. -/
def piped (input : String) : World where
  tree := ⟨[], []⟩
  input := ⟨input, true⟩
  terminal := false
  surroundings := ⟨none, some "", none, ""⟩
  repository := .failed
  refusals := {}

end Program

end CommitLint
