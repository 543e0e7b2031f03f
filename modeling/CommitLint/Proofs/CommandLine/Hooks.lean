import CommitLint.Proofs.CommandLine.Linting
import CommitLint.Proofs.FileTree.PlainPaths
import CommitLint.Proofs.Hook.Directory
import CommitLint.Proofs.Hook.Calls

/-!
# The command for the hook

The command ends with status zero or one, unless it needs a working directory
that is gone or a home that nobody knows, or the answer of the repository is
no text: these failures are not caught. With status one it has said why, and
has changed nothing, unless the system has refused to fill the hook once it was
open. With zero the hook is as it was asked for, and nothing else has changed.
-/

namespace CommitLint

namespace World

variable {world : World} {words : Words} {directory : Path}

/-- What the repository of the project says about the directory of the hooks. -/
def hooksAnswer (world : World) (words : Words) : Logged (Except Failure (Option Path)) :=
  Hook.directory world.tree world.repository (.ofText (world.project words))

/-- No path that leads to the hooks has a null byte. -/
structure HasWholePaths (world : World) (words : Words) : Prop where
  current : (Path.mk "/" world.tree.current).hasNull = false
  project : (Path.ofText (world.project words)).hasNull = false
  answer : ∀ path, world.repository.path? = some path → path.hasNull = false

theorem isPlain_hook (found : (world.hooksAnswer words).value = .ok (some directory)) :
    (directory.child Hook.name).IsPlain := by
  obtain ⟨path, -, -, rfl⟩ := Hook.directory_eq_some_iff.mp found
  exact (FileTree.resolve_isPlain _ _).child (by decide)

theorem HasWholePaths.hook (whole : world.HasWholePaths words)
    (found : (world.hooksAnswer words).value = .ok (some directory)) :
    (directory.child Hook.name).hasNull = false := by
  obtain ⟨path, answered, -, rfl⟩ := Hook.directory_eq_some_iff.mp found
  have above := FileTree.hasNull_resolve whole.current
    (Path.hasNull_join whole.project (whole.answer path answered))
  rw [Path.hasNull_eq_false_iff] at above ⊢
  intro part among
  rcases List.mem_append.mp among with before | last
  · exact above part before
  · rw [List.mem_singleton.mp last]
    decide

end World

namespace Command

variable {world : World} {words : Words} {text : String} {directory : Path}

/-- What the words ask to do with the hook; the last one counts. -/
def askedAction (words : Words) : Option String :=
  (words.last? ["--install", "--uninstall"]).map (·.spelling)

theorem askedAction_cases {action : String} (asked : askedAction words = some action) :
    action = "--install" ∨ action = "--uninstall" := by
  obtain ⟨occurrence, found, rfl⟩ := Option.map_eq_some_iff.mp asked
  simpa using List.find?_some found

/-! ## Refusals -/

/-- What the command says when it ends with status one. -/
inductive HookRefusal : String → Prop where
  | unasked : HookRefusal "Please specify --install or --uninstall"
  | noRepository : HookRefusal "Not a git repository"
  | hook (fault : HookFault) : HookRefusal fault.message
  | system (error : SystemError) (path : String) :
      HookRefusal ("Failed to manage git hooks: " ++ (FileFault.system error path).message)
  | unnamed (error : SystemError) :
      HookRefusal ("Failed to manage git hooks: " ++ (FileFault.unnamed error).message)

/-- A refusal is seen, whatever is taken out of the path that it names. -/
theorem HookRefusal.shown_ne (reason : HookRefusal text) : Terminal.shown text ≠ "" := by
  have behind : ∀ mark rest : String, '\x1B' ∉ mark.toList → mark ≠ "" →
      Terminal.shown (mark ++ rest) ≠ "" := by
    intro mark rest free seen none
    rw [Terminal.shown_append_of_no_code free, String.append_eq_empty_iff] at none
    exact seen none.1
  have plain : ∀ text : String, '\x1B' ∉ text.toList → text ≠ "" → Terminal.shown text ≠ "" := by
    intro text free seen
    rwa [Terminal.shown_of_no_code free]
  cases reason with
  | unasked => exact plain _ (by decide) (by decide)
  | noRepository => exact plain _ (by decide) (by decide)
  | system error path => exact behind _ _ (by decide) (by decide)
  | unnamed error => exact behind _ _ (by decide) (by decide)
  | hook fault =>
      cases fault with
      | noDirectory path => exact behind _ _ (by decide) (by decide)
      | present => exact plain _ (by decide) (by decide)
      | foreign => exact plain _ (by decide) (by decide)

/-! ## Failures that are not caught -/

/-- What the command does not catch: there is no project, or no answer to where its hooks are, or
the command of the hook must be looked for and nobody knows the home. -/
inductive HookEscape (world : World) (words : Words) : Failure → Prop where
  | nowhere (asked : askedAction words ≠ none) (gone : world.hasProject words = false) :
      HookEscape world words (.file (.unnamed .notFound))
  | unanswered {failure : Failure} (asked : askedAction words ≠ none)
      (there : world.hasProject words = true)
      (failed : (world.hooksAnswer words).value = .error failure) : HookEscape world words failure
  | homeless {directory : Path} {taken : Bool} (asked : askedAction words = some "--install")
      (there : world.hasProject words = true)
      (found : (world.hooksAnswer words).value = .ok (some directory))
      (within : world.tree.isDirectory directory = .ok true)
      (present : world.tree.isThere (directory.child Hook.name) = .ok taken)
      (free : words.has "--force" = true ∨ taken = false)
      (lost : world.surroundings.IsLost) : HookEscape world words (.file .noHome)

/-- The command looks for the directory, once an action is asked for in a project. -/
theorem hooks_of_asked {action : String} (asked : askedAction words = some action)
    (there : world.hasProject words = true) :
    hooks world words = manageHook world words action := by
  obtain ⟨occurrence, found, rfl⟩ := Option.map_eq_some_iff.mp asked
  rw [hooks, found]
  exact World.inProject_of_hasProject there _

theorem manageHook_of_failed {failure : Failure} (action : String)
    (failed : (world.hooksAnswer words).value = .error failure) :
    manageHook world words action =
      world.fail (logs (world.hooksAnswer words).events) failure := by
  rw [World.hooksAnswer] at failed ⊢
  rw [manageHook, failed]

theorem manageHook_of_none (action : String)
    (found : (world.hooksAnswer words).value = .ok none) :
    manageHook world words action =
      world.finish (logs (world.hooksAnswer words).events ++ [.err "Not a git repository"]) 1 := by
  rw [World.hooksAnswer] at found ⊢
  rw [manageHook, found]

theorem manageHook_of_some (action : String)
    (found : (world.hooksAnswer words).value = .ok (some directory)) :
    manageHook world words action =
      if action == "--install" then
        installHook world (logs (world.hooksAnswer words).events) directory (words.has "--force")
      else uninstallHook world (logs (world.hooksAnswer words).events) directory := by
  rw [World.hooksAnswer] at found ⊢
  rw [manageHook, found]

theorem hooks_of_escape {failure : Failure} (escape : HookEscape world words failure) :
    ∃ events, hooks world words = world.fail (logs events) failure := by
  cases escape with
  | nowhere asked gone =>
      obtain ⟨action, asked⟩ := Option.ne_none_iff_exists'.mp asked
      obtain ⟨occurrence, found, -⟩ := Option.map_eq_some_iff.mp asked
      refine ⟨[], ?_⟩
      rw [hooks, found]
      exact World.inProject_of_not_hasProject gone _
  | unanswered asked there failed =>
      obtain ⟨action, asked⟩ := Option.ne_none_iff_exists'.mp asked
      exact ⟨_, (hooks_of_asked asked there).trans (manageHook_of_failed action failed)⟩
  | homeless asked there found within present free lost =>
      refine ⟨(world.hooksAnswer words).events, ?_⟩
      rw [hooks_of_asked asked there, manageHook_of_some _ found, if_pos (by decide), installHook,
        Hook.install_on_of_isLost lost within present free]
      rfl

/-! ## What the command does -/

/-- The place of the hook in a directory. -/
def hookPlace (directory : Path) : Location :=
  directory.parts ++ [Hook.name]

/-- The command fails, or refuses, or breaks off at the hook, or installs it, or finds none, or
removes it. -/
inductive HooksEffect (world : World) (words : Words) : Run → Prop where
  | escaped {events : List Event} {failure : Failure} (escape : HookEscape world words failure) :
      HooksEffect world words (world.fail (logs events) failure)
  | refused {events : List Event} {text : String} (reason : HookRefusal text) :
      HooksEffect world words (world.finish (logs events ++ [.err text]) 1)
  | broken {directory : Path} {events : List Event} {text : String} {left : List UInt8}
      {mode : Nat} (asked : askedAction words = some "--install")
      (found : (world.hooksAnswer words).value = .ok (some directory))
      (stopped : world.refusals.writing ≠ none ∨ world.refusals.marking ≠ none)
      (remnant : Hook.IsRemnant left) (reason : HookRefusal text) :
      HooksEffect world words
        ⟨logs events ++ [.err text], .ok 1,
          world.tree.insert (hookPlace directory) (.file (.bytes left) mode)⟩
  | installed {directory : Path} {command : String} {emissions : List Emission}
      (asked : askedAction words = some "--install")
      (found : (world.hooksAnswer words).value = .ok (some directory))
      (chosen : world.surroundings.command world.tree = .ok command)
      (flat : world.tree.get? (hookPlace directory) ≠ some .directory) :
      HooksEffect world words
        ⟨emissions, .ok 0, Hook.installed world.tree (hookPlace directory) command⟩
  | absent {directory : Path} {emissions : List Emission}
      (asked : askedAction words = some "--uninstall")
      (found : (world.hooksAnswer words).value = .ok (some directory))
      (free : world.tree.get? (hookPlace directory) = none) :
      HooksEffect world words ⟨emissions, .ok 0, world.tree⟩
  | removed {directory : Path} {emissions : List Emission}
      (asked : askedAction words = some "--uninstall")
      (found : (world.hooksAnswer words).value = .ok (some directory))
      (flat : world.tree.get? (hookPlace directory) ≠ some .directory) :
      HooksEffect world words ⟨emissions, .ok 0, world.tree.erase (hookPlace directory)⟩

/-- A failure that is reported is refused, whatever is in the files. -/
theorem refuseHook_of_isReported {failure : Failure} (reported : failure.IsReported)
    (world : World) (tree : FileTree) (emissions : List Emission) :
    ∃ text, HookRefusal text ∧ refuseHook { world with tree } emissions failure =
      ⟨emissions ++ [.err text], .ok 1, tree⟩ := by
  cases reported with
  | hook fault => exact ⟨_, .hook fault, rfl⟩
  | system error path => exact ⟨_, .system error path, rfl⟩
  | unnamed error => exact ⟨_, .unnamed error, rfl⟩

theorem refuseHook_effect {failure : Failure} (reported : failure.IsReported)
    (events : List Event) : HooksEffect world words (refuseHook world (logs events) failure) := by
  obtain ⟨text, reason, said⟩ := refuseHook_of_isReported reported world world.tree (logs events)
  exact said ▸ .refused reason

/-- Where no program can be looked for, installing is refused before that, or fails. -/
theorem installHook_effect_of_isLost (asked : askedAction words = some "--install")
    (there : world.hasProject words = true)
    (found : (world.hooksAnswer words).value = .ok (some directory))
    (events : List Event) (lost : world.surroundings.IsLost) :
    HooksEffect world words
      (installHook world (logs events) directory (words.has "--force")) := by
  rcases Hook.install_reaches_command world.tree world.refusals world.surroundings directory none
    (words.has "--force") with ⟨failure, reported, failed⟩ | ⟨taken, within, present, free⟩
  · rw [installHook, failed]
    exact refuseHook_effect reported events
  · rw [installHook, Hook.install_on_of_isLost lost within present free]
    exact .escaped (.homeless asked there found within present free lost)

section

variable (whole : world.HasWholePaths words)
  (found : (world.hooksAnswer words).value = .ok (some directory)) (events : List Event)

include whole found

/-- Where a program can be looked for, installing is refused or breaks off or comes to its end. -/
theorem installHook_effect (asked : askedAction words = some "--install")
    (known : ¬ world.surroundings.IsLost) :
    HooksEffect world words
      (installHook world (logs events) directory (words.has "--force")) := by
  have reported : FileAction.FailsWith Failure.IsReported
      (Hook.install world.refusals world.surroundings directory none (words.has "--force")) :=
    Hook.install_failsWith (whole.hook found) (by simp) known
  rcases Hook.install_cases world.tree world.refusals world.surroundings directory none
    (words.has "--force") with ⟨failure, failed⟩ | ⟨place, text, openable⟩
  · rw [installHook, failed]
    exact refuseHook_effect (reported _ _ _ failed) events
  · have same : place = hookPlace directory :=
      FileTree.locate_of_isPlain (World.isPlain_hook found) openable.located
    subst same
    rcases openable.cases with
      ⟨command, installable⟩ | ⟨incomplete, failure, left, mode, remnant, failed⟩
    · rw [installHook, Hook.install_on_of_installable installable]
      exact .installed asked found (Hook.command_of_commandText installable.chosen)
        installable.flat
    · have stopped : world.refusals.writing ≠ none ∨ world.refusals.marking ≠ none := by
        by_contra granted
        obtain ⟨writable, markable⟩ := not_or.mp granted
        exact incomplete ⟨by simp, not_not.mp writable, not_not.mp markable⟩
      obtain ⟨text, reason, said⟩ := refuseHook_of_isReported (reported _ _ _ failed) world
        (world.tree.insert (hookPlace directory) (.file (.bytes left) mode)) (logs events)
      rw [installHook, failed]
      dsimp only
      rw [said]
      exact .broken asked found stopped remnant reason

theorem uninstallHook_effect (closed : world.tree.IsClosed)
    (asked : askedAction words = some "--uninstall") :
    HooksEffect world words (uninstallHook world (logs events) directory) := by
  rcases Hook.uninstall_cases world.tree world.refusals directory with
    ⟨failure, failed⟩ | ⟨free, done⟩ | ⟨granted, place, removable⟩
  · rw [uninstallHook, failed]
    exact refuseHook_effect (Hook.uninstall_failsWith (whole.hook found) _ _ _ failed) events
  · rw [uninstallHook, done]
    exact .absent asked found
      (FileTree.free_of_isPlain closed (World.isPlain_hook found) (whole.hook found) free)
  · cases FileTree.locate_of_isPlain (World.isPlain_hook found) removable.located
    rw [uninstallHook, Hook.uninstall_on_of_removable removable, granted]
    exact .removed asked found removable.flat

end

theorem hooks_effect (closed : world.tree.IsClosed) (whole : world.HasWholePaths words) :
    HooksEffect world words (hooks world words) := by
  cases asked : askedAction words with
  | none =>
      rw [hooks, Option.map_eq_none_iff.mp asked]
      exact @HooksEffect.refused world words [] _ .unasked
  | some action =>
      have given : askedAction words ≠ none := by simp [asked]
      cases there : world.hasProject words with
      | false =>
          obtain ⟨events, failed⟩ := hooks_of_escape (.nowhere given there)
          exact failed ▸ .escaped (.nowhere given there)
      | true =>
          rw [hooks_of_asked asked there]
          cases found : (world.hooksAnswer words).value with
          | error failure =>
              rw [manageHook_of_failed action found]
              exact .escaped (.unanswered given there found)
          | ok directory? =>
              cases directory? with
              | none =>
                  rw [manageHook_of_none action found]
                  exact .refused .noRepository
              | some directory =>
                  rw [manageHook_of_some action found]
                  rcases askedAction_cases asked with rfl | rfl
                  · rw [if_pos (by decide)]
                    by_cases lost : world.surroundings.IsLost
                    · exact installHook_effect_of_isLost asked there found _ lost
                    · exact installHook_effect whole found _ asked lost
                  · rw [if_neg (by decide)]
                    exact uninstallHook_effect whole found _ closed asked

/-! ## What is seen of it -/

theorem stderr_refused (tree : FileTree) (events : List Event) (text : String) (weight : Nat) :
    (Run.mk (logs events ++ [.err text]) (.ok 1) tree).stderr weight =
      logText weight events ++ Terminal.shown text ++ "\n" := by
  have said : [Emission.err text] = [text].map Emission.err := rfl
  rw [Run.stderr, List.map_append, String.join_append, said, stderr_errs]
  simp [logs, logText, Emission.line_eq, String.append_assoc, Function.comp_def]

end Command

namespace Program

section

variable [CharacterNames] {world : World} {level : Option String} {words : Words}
  {arguments : List String}

end

/-- A repository with a directory for hooks. -/
def repository : World where
  tree := FileTree.initial ["repository", "hooks"]
  input := ⟨"", true⟩
  terminal := true
  surroundings := ⟨some "gitmsglint", some "", none, ""⟩
  repository := .status 0 "hooks\n"
  refusals := {}

end Program

end CommitLint
