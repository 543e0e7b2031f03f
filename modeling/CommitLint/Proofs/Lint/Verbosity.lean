import CommitLint.Project
import CommitLint.Proofs.Lint.Patterns
import CommitLint.Proofs.Lint.Rounds
import CommitLint.Proofs.Rule.Directory

/-!
# Verbosity

Some events are remarks: they are logged only where more than the verdict is
asked for. What is found does not depend on them. A quiet run comes to the
result of a verbose one, and its log is that log without the remarks.
-/

namespace CommitLint

/-- A message that is left alone and a rule that is unknown are remarked on. -/
def Event.isRemark : Event → Bool
  | .ignored => true
  | .ruleNotFound _ => true
  | _ => false

/-- Nothing is taken out of what has no remarks. -/
theorem filter_of_terse {α : Type} {isRemark : α → Bool} {items : List α}
    (terse : ∀ item ∈ items, isRemark item = false) :
    items.filter (fun item => !isRemark item) = items := by
  rw [List.filter_eq_self]
  intro item among
  rw [terse item among, Bool.not_false]

namespace Logged

variable {α β : Type}

/-- A result with the remarks taken out of its log. -/
def withoutRemarks (result : Logged α) : Logged α :=
  ⟨result.value, result.events.filter fun event => !event.isRemark⟩

/-- A result whose log has no remarks. -/
def IsTerse (result : Logged α) : Prop :=
  ∀ event ∈ result.events, event.isRemark = false

theorem withoutRemarks_bind (result : Logged α) (next : α → Logged β) :
    (result.bind next).withoutRemarks =
      result.withoutRemarks.bind fun value => (next value).withoutRemarks := by
  simp only [withoutRemarks, bind, List.filter_append]

theorem withoutRemarks_map (change : α → β) (result : Logged α) :
    (result.map change).withoutRemarks = result.withoutRemarks.map change :=
  rfl

theorem IsTerse.quiet (value : α) : (Logged.quiet value).IsTerse := by
  intro event told
  cases told

theorem IsTerse.map {result : Logged α} (terse : result.IsTerse) (change : α → β) :
    (result.map change).IsTerse :=
  terse

theorem IsTerse.after {result : Logged α} {event : Event} (plain : event.isRemark = false)
    (terse : result.IsTerse) : (Logged.after event result).IsTerse :=
  List.forall_mem_cons.mpr ⟨plain, terse⟩

theorem IsTerse.withoutRemarks_eq {result : Logged α} (terse : result.IsTerse) :
    result.withoutRemarks = result := by
  rw [withoutRemarks, filter_of_terse terse]

end Logged

namespace Lint

variable {rules : List Rule} {message : String}

theorem isIgnored_isTerse [CharacterNames] (text : List Char) (patterns : List Value) :
    (isIgnored text patterns).IsTerse := by
  intro event told
  rw [isIgnored_events] at told
  obtain ⟨pattern, -, rfl⟩ := List.mem_map.mp told
  rfl

theorem added_withoutRemarks (verbose : Bool) (key : Value) (setting : RuleEntry) :
    (added rules message verbose key setting).withoutRemarks =
      added rules message false key setting := by
  unfold added round
  cases lookup rules key with
  | none => cases verbose <;> rfl
  | some rule =>
      have judged : ∀ severity verdict,
          (judge (.quiet .clean) rule severity verdict).withoutRemarks =
            judge (.quiet .clean) rule severity verdict := by
        intro severity verdict
        cases verdict <;> rfl
      dsimp only
      cases setting.level.toSeverity? with
      | none => rfl
      | some severity =>
          cases severity with
          | off => rfl
          | warning => exact judged _ _
          | error => exact judged _ _

/-- Remarks are not what rules reach others by, so the entries read the same without them. -/
theorem evaluate_withoutRemarks (verbose : Bool) (entries : Entries) :
    (evaluate rules message verbose entries).withoutRemarks =
      evaluate rules message false entries := by
  rw [evaluate_eq_total, evaluate_eq_total]
  generalize settings rules message .nothing entries = settings
  induction settings with
  | nil => rfl
  | cons setting rest ih =>
      rw [total_cons, total_cons, ← ih, ← added_withoutRemarks verbose]
      simp only [joined, Logged.withoutRemarks, List.filter_append]

end Lint

/-- What linting does once the patterns have been searched for. -/
def Lint.afterSearch (config : Config) (rules : List Rule) (message : String) (verbose : Bool) :
    Except LintFault Bool → Logged (Except LintFault Diagnostics)
  | .error fault => .quiet (.error fault)
  | .ok true => ⟨.ok .clean, if verbose then [.ignored] else []⟩
  | .ok false => (Lint.evaluate rules message verbose config.rules).map .ok

theorem lint_eq_bind [CharacterNames] (config : Config) (rules : List Rule) (message : String)
    (asked : Option Bool) :
    lint config rules message asked =
      (Lint.isIgnored message.toList config.allIgnores).bind
        (Lint.afterSearch config rules message (config.effectiveVerbose asked)) := by
  rw [lint, Logged.bind]
  cases (Lint.isIgnored message.toList config.allIgnores).value with
  | error fault => simp only [Lint.afterSearch, Logged.quiet, List.append_nil]
  | ok ignored => cases ignored <;> rfl

/-- However much is asked for, linting finds the same, and logs the same but for remarks. -/
theorem lint_withoutRemarks [CharacterNames] (config : Config) (rules : List Rule)
    (message : String) (asked : Option Bool) :
    (lint config rules message asked).withoutRemarks = lint config rules message (some false) := by
  rw [lint_eq_bind, lint_eq_bind, Logged.withoutRemarks_bind,
    (Lint.isIgnored_isTerse message.toList config.allIgnores).withoutRemarks_eq]
  congr 1
  funext answer
  rcases answer with fault | _ | _
  · rfl
  · rw [Lint.afterSearch, Logged.withoutRemarks_map, Lint.evaluate_withoutRemarks]
    rfl
  · rw [Lint.afterSearch]
    cases config.effectiveVerbose asked <;> rfl

namespace Config

variable {tree : FileTree} {project path : Path}

theorem patternList_isTerse (raw : Entries) (key : String) (below : List Value) :
    (patternList raw key below).IsTerse := by
  unfold patternList
  split
  · exact .quiet _
  · exact .quiet _
  · exact .quiet _
  · exact List.forall_mem_singleton.mpr rfl

theorem overlay_isTerse {raw : Value} {base : Config} {config : Logged Config}
    (accepted : overlay raw base = .ok config) : config.IsTerse := by
  unfold overlay at accepted
  split at accepted
  case h_2 => cases accepted
  case h_1 entries =>
    cases rules : overlayRules entries with
    | error fault =>
        rw [rules] at accepted
        cases accepted
    | ok replaced =>
        rw [rules] at accepted
        cases accepted
        exact List.forall_mem_append.mpr
          ⟨patternList_isTerse _ _ _, patternList_isTerse _ _ _⟩

theorem readFile_isTerse (tree : FileTree) (path : Path) : (readFile tree path).IsTerse := by
  unfold readFile
  cases tree.read path path.text with
  | error fault => exact List.forall_mem_singleton.mpr rfl
  | ok content =>
      simp only [Except.mapError, bind, Except.bind]
      cases FileTree.textOf content.toBytes with
      | error failure => exact List.forall_mem_singleton.mpr rfl
      | ok text =>
          dsimp only
          cases readText path text with
          | error failure => exact List.forall_mem_singleton.mpr rfl
          | ok raw =>
              dsimp only
              cases accepted : overlay raw default with
              | error fault => exact List.forall_mem_singleton.mpr rfl
              | ok config => exact .after rfl (overlay_isTerse accepted)

theorem load_isTerse (tree : FileTree) (project : Path) (file : Option String) :
    (load tree project file).IsTerse := by
  unfold load
  split
  · exact .quiet _
  · exact .quiet _
  · exact readFile_isTerse tree _

end Config

namespace RuleDirectory

theorem loadFiles_isTerse (tree : FileTree) (directory : Path) (names : List String) :
    (loadFiles tree directory names).IsTerse := by
  rw [loadFiles_eq_flatMap]
  intro event told
  obtain ⟨name, -, rfl⟩ := List.mem_map.mp told
  rfl

theorem loadNamed_isTerse (tree : FileTree) (project : Path) (name : Value) :
    (loadNamed tree project name).IsTerse := by
  unfold loadNamed
  split
  · unfold load
    split
    · exact .quiet _
    · exact .quiet _
    · exact (loadFiles_isTerse tree _ _).map _
  · exact .quiet _

end RuleDirectory

namespace Project

theorem rules_isTerse (tree : FileTree) (project : Path) (config : Config) :
    (rules tree project config).IsTerse := by
  unfold rules
  split
  · exact (RuleDirectory.loadNamed_isTerse tree project _).map _
  · exact .quiet _

/-- Going on from a result without remarks does not add any. -/
theorem andThen_withoutRemarks {α β : Type} {result : Logged (Except Failure α)}
    (terse : result.IsTerse) (next : α → Logged (Except Failure β)) :
    (andThen result next).withoutRemarks =
      andThen result fun value => (next value).withoutRemarks := by
  rw [andThen, andThen, Logged.withoutRemarks_bind, terse.withoutRemarks_eq]
  congr 1
  funext found
  cases found <;> rfl

/-- The rules of a project are loaded alike, so its verdict does not depend on remarks either. -/
theorem lintWith_withoutRemarks [CharacterNames] (tree : FileTree) (project : Path)
    (config : Config) (message : String) (asked : Option Bool) :
    (lintWith tree project config message asked).withoutRemarks =
      lintWith tree project config message (some false) := by
  rw [lintWith, lintWith, andThen_withoutRemarks (rules_isTerse tree project config)]
  congr 1
  funext rules
  rw [Logged.withoutRemarks_map, lint_withoutRemarks]

theorem lint_withoutRemarks [CharacterNames] (tree : FileTree) (project : Path)
    (file : Option String) (message : String) (asked : Option Bool) :
    (lint tree project file message asked).withoutRemarks =
      lint tree project file message (some false) := by
  rw [lint, lint, andThen_withoutRemarks (Config.load_isTerse tree project file)]
  congr 1
  funext config
  rw [lintWith_withoutRemarks]

end Project

end CommitLint
