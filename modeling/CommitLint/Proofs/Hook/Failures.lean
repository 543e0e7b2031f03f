import CommitLint.Hook.Basic

/-!
# What keeps the hook from being managed

Installing and removing the hook fails for a reason of their own, or because
the system refuses something. Both are reported. A path with a null byte, a
home that nobody knows and a command that cannot be encoded are not.
-/

namespace CommitLint

/-- The failures that are reported. -/
inductive Failure.IsReported : Failure → Prop where
  | hook (fault : HookFault) : IsReported (.hook fault)
  | system (error : SystemError) (path : String) : IsReported (.file (.system error path))
  | unnamed (error : SystemError) : IsReported (.file (.unnamed error))

namespace FileAction

variable {α β : Type} {p : Failure → Prop}

/-- Whatever keeps an action from its answer satisfies a condition. -/
def FailsWith (p : Failure → Prop) (action : FileAction α) : Prop :=
  ∀ tree failure next, action.on tree = (.error failure, next) → p failure

theorem failsWith_pure (answer : α) : FailsWith p (pure answer : FileAction α) := by
  intro tree failure next failed
  cases failed

theorem FailsWith.bind {action : FileAction α} {next : α → FileAction β}
    (first : FailsWith p action) (second : ∀ answer, FailsWith p (next answer)) :
    FailsWith p (action >>= next) := by
  intro tree failure last failed
  rw [on_bind] at failed
  cases ran : action.on tree with
  | mk outcome changed =>
      rw [ran] at failed
      cases outcome with
      | error earlier =>
          cases failed
          exact first tree failure last ran
      | ok answer => exact second answer changed failure last failed

/-- What follows a question needs to be looked at for its answers alone. -/
theorem FailsWith.ask_bind {question : FileTree → Except FileFault α} {next : α → FileAction β}
    (faults : ∀ tree fault, question tree = .error fault → p (.file fault))
    (second : ∀ tree answer, question tree = .ok answer → FailsWith p (next answer)) :
    FailsWith p (ask question >>= next) := by
  intro tree failure last failed
  rw [on_ask_bind] at failed
  cases asked : question tree with
  | error fault =>
      rw [asked] at failed
      cases failed
      exact faults tree fault asked
  | ok answer =>
      rw [asked] at failed
      exact second tree answer asked tree failure last failed

theorem failsWith_check (met : Bool) {failure : Failure} (possible : p failure) :
    FailsWith p (check met failure) := by
  intro tree other next failed
  cases met <;> cases failed
  exact possible

theorem failsWith_demand {result : Except Failure α}
    (failures : ∀ failure, result = .error failure → p failure) :
    FailsWith p (demand result) := by
  intro tree failure next failed
  cases result <;> cases failed
  exact failures failure rfl

theorem failsWith_change {step : FileTree → Except FileFault FileTree}
    (faults : ∀ tree fault, step tree = .error fault → p (.file fault)) :
    FailsWith p (change step) := by
  intro tree failure next failed
  cases made : step tree with
  | error fault =>
      simp only [on, ExceptT.run, change, made] at failed
      cases failed
      exact faults tree fault made
  | ok changed =>
      simp only [on, ExceptT.run, change, made] at failed
      cases failed

end FileAction

/-! ## Asking and storing -/

namespace FileTree

variable {tree next : FileTree} {path : Path} {fault : FileFault}

/-- A question about a path is refused by the system alone. -/
theorem isReported_of_test {p : Entry → Bool} (failed : tree.test path p = .error fault) :
    Failure.IsReported (.file fault) := by
  unfold test at failed
  split at failed
  · cases failed
  · split at failed
    · cases failed
    · cases failed
      exact .system _ _
    · cases failed

theorem read_ne_nullByte (whole : path.hasNull = false) (shown : String) :
    tree.read path shown ≠ .error .nullByte := by
  rw [read, if_neg (by simp [whole])]
  split <;> simp

theorem isReported_of_write (whole : path.hasNull = false) {shown : String} {content : Content}
    (failed : tree.write path shown content = .error fault) :
    Failure.IsReported (.file fault) := by
  rw [write, if_neg (by simp [whole])] at failed
  split at failed
  · cases failed
    exact .system _ _
  · split at failed <;> cases failed
    exact .system _ _

end FileTree

/-! ## The hook -/

section

variable {tree : FileTree} {refusals : Hook.Refusals} {surroundings : Surroundings}
  {command : Option Text.LooseText} {directory path : Path} {force : Bool} {fault : FileFault}

theorem Surroundings.isReported_of_firstFile? {paths : List Path}
    (failed : firstFile? tree paths = .error fault) : Failure.IsReported (.file fault) := by
  induction paths with
  | nil => cases failed
  | cons path rest ih =>
      rw [firstFile?] at failed
      cases asked : tree.isFile path with
      | error other =>
          rw [asked] at failed
          cases failed
          exact FileTree.isReported_of_test asked
      | ok found =>
          rw [asked] at failed
          cases found with
          | true => cases failed
          | false => exact ih failed

/-- The program cannot be looked for: none is found, and nobody knows the home. -/
def Surroundings.IsLost (surroundings : Surroundings) : Prop :=
  answer? surroundings.found = none ∧ surroundings.home = none

theorem Surroundings.command_of_isLost (lost : surroundings.IsLost) (tree : FileTree) :
    surroundings.command tree = .error .noHome := by
  rw [command, program?, lost.1, lost.2]
  rfl

namespace Hook

/-- The bytes of the script for a command that is a text of characters alone. -/
def bytes (command : String) : List UInt8 :=
  Text.Utf8.encode (script command).toList

/-- Only for such a command there are bytes. -/
theorem encodedScript_eq_ok_iff {command : Text.LooseText} {encoded : List UInt8} :
    encodedScript command = .ok encoded ↔
      ∃ text, command = .ofString text ∧ encoded = bytes text := by
  constructor
  · intro done
    obtain ⟨whole, cut, rfl⟩ := Text.LooseText.encode_eq_ok_iff.mp done
    obtain ⟨front, back, named, before, -⟩ := List.map_eq_append_iff.mp cut.symm
    obtain ⟨first, middle, -, -, written⟩ := List.map_eq_append_iff.mp before
    have text : command = .ofString (String.ofList middle) := by
      simp [Text.LooseText.ofString, written]
    have same : whole = script (String.ofList middle) := by
      rw [text, ← Text.LooseText.ofString_append, ← Text.LooseText.ofString_append] at cut
      have chars := congrArg (Text.LooseText.charsFrom 0) cut
      simp only [Text.LooseText.ofString, Text.LooseText.charsFrom_map_char, Except.ok.injEq,
        String.toList_inj] at chars
      exact chars.symm
    exact ⟨_, text, by rw [same, bytes]⟩
  · rintro ⟨text, rfl, rfl⟩
    rw [encodedScript, ← Text.LooseText.ofString_append, ← Text.LooseText.ofString_append,
      Text.LooseText.encode_ofString]
    rfl

theorem isWhole_of_commandText {text : Text.LooseText} (whole : ∀ given ∈ command, given.IsWhole)
    (chosen : commandText tree surroundings command = .ok text) : text.IsWhole := by
  unfold commandText at chosen
  split at chosen
  · cases chosen
    exact whole _ rfl
  · cases found : surroundings.command tree with
    | error fault =>
        rw [found] at chosen
        cases chosen
    | ok program =>
        rw [found] at chosen
        cases chosen
        exact ⟨program, rfl⟩

theorem isReported_of_commandText (known : ¬ surroundings.IsLost)
    (failed : commandText tree surroundings command = .error fault) :
    Failure.IsReported (.file fault) := by
  unfold commandText at failed
  split at failed
  · cases failed
  · unfold Surroundings.command Surroundings.program? at failed
    split at failed
    · cases failed
    · next unfound homeless => exact absurd ⟨unfound, homeless⟩ known
    · next home _ _ =>
        cases looked : Surroundings.firstFile? tree (surroundings.places home) with
        | error other =>
            rw [looked] at failed
            cases failed
            exact Surroundings.isReported_of_firstFile? looked
        | ok program =>
            rw [looked] at failed
            cases program <;> cases failed

/-- The search for the marker passes on the null byte only; of any other fault it says no. -/
theorem isReported_of_isOurs (whole : path.hasNull = false)
    (failed : isOurs tree path = .error fault) : Failure.IsReported (.file fault) := by
  unfold isOurs at failed
  split at failed
  · cases failed
  · next null => exact absurd null (FileTree.read_ne_nullByte whole _)
  · cases failed

theorem grant_failsWith {refusal : Option SystemError} {fault : SystemError → FileFault}
    (reported : ∀ error, Failure.IsReported (.file (fault error))) :
    FileAction.FailsWith Failure.IsReported (grant refusal fault) := by
  refine FileAction.failsWith_demand fun failure refused => ?_
  cases refusal with
  | none => cases refused
  | some error =>
      cases refused
      exact reported error

theorem install_failsWith (whole : (directory.child name).hasNull = false)
    (encodable : ∀ given ∈ command, given.IsWhole) (known : ¬ surroundings.IsLost) :
    FileAction.FailsWith Failure.IsReported
      (install refusals surroundings directory command force) := by
  unfold install
  refine .ask_bind (fun _ _ => FileTree.isReported_of_test) fun _ _ _ => ?_
  refine .bind (FileAction.failsWith_check _ (.hook _)) fun _ => ?_
  refine .ask_bind (fun _ _ => FileTree.isReported_of_test) fun _ _ _ => ?_
  refine .bind (FileAction.failsWith_check _ (.hook _)) fun _ => ?_
  refine .ask_bind (fun _ _ => isReported_of_commandText known) fun _ text chosen => ?_
  refine .bind (grant_failsWith (.system · _)) fun _ => ?_
  refine .bind (FileAction.failsWith_change fun _ _ => FileTree.isReported_of_write whole)
    fun _ => ?_
  obtain ⟨spoken, rfl⟩ := isWhole_of_commandText encodable chosen
  rw [encodedScript_eq_ok_iff.mpr ⟨spoken, rfl, rfl⟩]
  refine .bind (FileAction.failsWith_demand nofun) fun _ => ?_
  refine .bind (grant_failsWith .unnamed) fun _ => ?_
  refine .bind (FileAction.failsWith_change fun _ _ => FileTree.isReported_of_write whole)
    fun _ => ?_
  refine .bind (grant_failsWith (.system · _)) fun _ => ?_
  exact .bind (FileAction.failsWith_change nofun) fun _ => FileAction.failsWith_pure _

/-- Installing comes to the command, unless it fails before that and is reported. -/
theorem install_reaches_command (tree : FileTree) (refusals : Refusals)
    (surroundings : Surroundings) (directory : Path) (command : Option Text.LooseText)
    (force : Bool) :
    (∃ failure : Failure, failure.IsReported ∧
      (install refusals surroundings directory command force).on tree =
        (.error failure, tree)) ∨
    ∃ taken, tree.isDirectory directory = .ok true ∧
      tree.isThere (directory.child name) = .ok taken ∧ (force = true ∨ taken = false) := by
  cases there : tree.isDirectory directory with
  | error fault => exact .inl ⟨_, FileTree.isReported_of_test there, by simp [install, there]⟩
  | ok isDirectory =>
      cases isDirectory with
      | false => exact .inl ⟨_, .hook (.noDirectory directory.text), by simp [install, there]⟩
      | true =>
          cases taken : tree.isThere (directory.child name) with
          | error fault =>
              exact .inl ⟨_, FileTree.isReported_of_test taken, by simp [install, there, taken]⟩
          | ok isThere =>
              by_cases free : force = true ∨ isThere = false
              · exact .inr ⟨isThere, rfl, rfl, free⟩
              · rw [or_comm] at free
                exact .inl ⟨_, .hook .present, by simp [install, there, taken, free]⟩

/-- Without a command that is given, the one that is found is written. -/
theorem command_of_commandText {text : String}
    (chosen : commandText tree surroundings none = .ok (.ofString text)) :
    surroundings.command tree = .ok text := by
  unfold commandText at chosen
  cases found : surroundings.command tree with
  | error fault =>
      rw [found] at chosen
      cases chosen
  | ok other =>
      rw [found] at chosen
      exact congrArg Except.ok (Text.LooseText.ofString_injective (Except.ok.inj chosen))

/-- Where nobody knows the home, the search for a command fails. -/
theorem install_on_of_isLost (lost : surroundings.IsLost) {taken : Bool}
    (within : tree.isDirectory directory = .ok true)
    (there : tree.isThere (directory.child name) = .ok taken)
    (free : force = true ∨ taken = false) :
    (install refusals surroundings directory none force).on tree =
      (.error (.file .noHome), tree) := by
  have chosen : commandText tree surroundings none = .error .noHome := by
    simp only [commandText, surroundings.command_of_isLost lost, Except.map]
  rw [or_comm] at free
  simp [install, within, there, free, chosen]

theorem uninstall_failsWith (whole : (directory.child name).hasNull = false) :
    FileAction.FailsWith Failure.IsReported (uninstall refusals directory) := by
  unfold uninstall
  refine .ask_bind (fun _ _ => FileTree.isReported_of_test) fun _ taken _ => ?_
  cases taken with
  | false => exact FileAction.failsWith_pure false
  | true =>
      refine .ask_bind (fun _ _ => isReported_of_isOurs whole) fun _ _ _ => ?_
      refine .bind (FileAction.failsWith_check _ (.hook _)) fun _ => ?_
      refine .bind (grant_failsWith (.system · _)) fun _ => ?_
      exact .bind (FileAction.failsWith_change nofun) fun _ => FileAction.failsWith_pure true

end Hook

end

end CommitLint
