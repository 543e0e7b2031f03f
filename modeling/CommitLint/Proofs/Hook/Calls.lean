import CommitLint.Proofs.FileTree.Places
import CommitLint.Proofs.Hook.Failures
import CommitLint.Proofs.Text.Shown

/-!
# Calls that install and remove the hook

A call that fails changes nothing, and no call changes anything but the hook
itself. A hook of others stays until it is overwritten by force. A hook that
was installed is what it should be, is recognised, and can be removed without
a trace. All of this holds after any number of calls. There are no links, so
that the hook is one file at one place.
-/

namespace CommitLint.Hook

variable {tree : FileTree} {directory path : Path} {place : Location} {content : Content}
  {mode : Nat}

/-! ## The marker -/

/-- A content has the bytes of the marker in one piece. -/
def IsMarked (content : Content) : Prop :=
  Text.Utf8.encode marker.toList <:+: content.toBytes

theorem marker_plain : ∀ c ∈ marker.toList, Text.Utf8.IsBasic c ∧ Text.IsInline c := by
  have plain : marker.toList.all fun c => c.toNat < 0x80 && c != '\r' && c != '\n' := by decide
  intro c among
  have each := List.all_eq_true.mp plain c among
  simpa [Text.Utf8.IsBasic, Text.IsInline, and_assoc] using each

theorem isMarked_bytes (command : String) : IsMarked (.bytes (bytes command)) := by
  simp only [IsMarked, Content.toBytes, bytes, script, scriptHead, String.toList_append,
    Text.Utf8.encode_append, List.append_assoc]
  exact List.infix_append' _ _ _

/-- Whether the hook is ours is whether its file is marked. -/
theorem isOurs_of_file (whole : path.hasNull = false) (located : tree.locate path = .ok place)
    (held : tree.get? place = some (.file content mode)) :
    ∃ ours, isOurs tree path = .ok ours ∧ (ours = true ↔ IsMarked content) := by
  rw [isOurs, FileTree.read_of_file whole located held]
  refine ⟨_, rfl, ?_⟩
  rw [Text.occurs_iff, Text.infix_textOf_iff marker_plain]
  rfl

theorem isOurs_of_directory (whole : path.hasNull = false) (located : tree.locate path = .ok place)
    (held : tree.get? place = some .directory) : isOurs tree path = .ok false := by
  simp [isOurs, FileTree.read, FileTree.entryAt, whole, located, held, bind, Except.bind]

/-! ## One call -/

section

variable {refusals : Refusals} {surroundings : Surroundings} {command : Option Text.LooseText}
  {force : Bool} {text : Text.LooseText}

/-- The file of the hook can be opened at a place, to hold a command. -/
structure Openable (tree : FileTree) (directory : Path) (refusals : Refusals)
    (surroundings : Surroundings) (command : Option Text.LooseText) (force : Bool)
    (place : Location) (text : Text.LooseText) : Prop where
  within : tree.isDirectory directory = .ok true
  whole : (directory.child name).hasNull = false
  located : tree.locate (directory.child name) = .ok place
  flat : tree.get? place ≠ some .directory
  free : force = true ∨ tree.get? place = none
  chosen : commandText tree surroundings command = .ok text
  granted : refusals.opening = none

/-- The hook can be installed at a place with a command. -/
structure Installable (tree : FileTree) (directory : Path) (refusals : Refusals)
    (surroundings : Surroundings) (command : Option Text.LooseText) (force : Bool)
    (place : Location) (text : String) : Prop
    extends Openable tree directory refusals surroundings command force place
      (.ofString text) where
  writable : refusals.writing = none
  markable : refusals.marking = none

/-- Nothing comes in the way of filling the file once it is open. -/
structure Completes (refusals : Refusals) (command : Option Text.LooseText) : Prop where
  whole : ∀ given ∈ command, given.IsWhole
  writable : refusals.writing = none
  markable : refusals.marking = none

/-- The hook with a command, at a place. -/
def installed (tree : FileTree) (place : Location) (text : String) : FileTree :=
  tree.insert place (.file (.bytes (bytes text)) 0o755)

/-- Behind the opening of the file there is the encoding, the writing and the mode, each of which
can fail and leaves what was done before it. -/
theorem install_on_of_openable
    (openable : Openable tree directory refusals surroundings command force place text) :
    ∃ mode, (install refusals surroundings directory command force).on tree =
      match encodedScript text, refusals.writing, refusals.marking with
      | .error fault, _, _ =>
          (.error (.encoding fault), tree.insert place (.file (.bytes []) mode))
      | .ok _, some error, _ =>
          (.error (.file (.unnamed error)), tree.insert place (.file (.bytes []) mode))
      | .ok script, none, some error =>
          (.error (.file (.system error (directory.child name).text)),
            tree.insert place (.file (.bytes script) mode))
      | .ok script, none, none =>
          (.ok (directory.child name), tree.insert place (.file (.bytes script) 0o755)) := by
  obtain ⟨there, whole, located, flat, free, chosen, granted⟩ := openable
  obtain ⟨mode, opened⟩ := FileTree.write_of_flat whole located flat (directory.child name).text
    (.bytes [])
  have allowed : (!(tree.get? place).isSome || force) = true := by
    rcases free with rfl | free
    · simp
    · simp [free]
  refine ⟨mode, ?_⟩
  simp only [install, grant, FileAction.on_ask_bind, FileAction.on_check_bind,
    FileAction.on_change_bind, FileAction.on_demand_bind, there,
    FileTree.isThere_of_locate whole located, allowed, chosen, granted, opened, if_true]
  cases encodedScript text with
  | error fault => rfl
  | ok script =>
      cases refusals.writing with
      | some error => rfl
      | none =>
          have encoded : (Except.ok script).mapError Failure.encoding = .ok script := rfl
          simp only [encoded, FileTree.write_insert whole located flat]
          cases refusals.marking with
          | some error => rfl
          | none => simp only [FileTree.setMode_insert located flat, FileAction.on_pure]

theorem install_on_of_installable {text : String}
    (installable : Installable tree directory refusals surroundings command force place text) :
    (install refusals surroundings directory command force).on tree =
      (.ok (directory.child name), installed tree place text) := by
  obtain ⟨openable, writable, markable⟩ := installable
  obtain ⟨mode, done⟩ := install_on_of_openable openable
  rw [done, encodedScript_eq_ok_iff.mpr ⟨text, rfl, rfl⟩, writable, markable]
  rfl

/-- What is left of a hook that was opened and not finished: nothing, or a script without its
mode. -/
def IsRemnant (left : List UInt8) : Prop :=
  left = [] ∨ ∃ text, left = bytes text

/-- A file that can be opened becomes the hook, or something comes in the way. -/
theorem Openable.cases
    (openable : Openable tree directory refusals surroundings command force place text) :
    (∃ text, Installable tree directory refusals surroundings command force place text) ∨
      ¬ Completes refusals command ∧ ∃ failure left mode, IsRemnant left ∧
        (install refusals surroundings directory command force).on tree =
          (.error failure, tree.insert place (.file (.bytes left) mode)) := by
  obtain ⟨mode, done⟩ := install_on_of_openable openable
  cases encoded : encodedScript text with
  | error fault =>
      rw [encoded] at done
      refine .inr ⟨fun completes => ?_, _, _, _, .inl rfl, done⟩
      obtain ⟨whole, rfl⟩ := isWhole_of_commandText completes.whole openable.chosen
      cases encoded.symm.trans (encodedScript_eq_ok_iff.mpr ⟨whole, rfl, rfl⟩)
  | ok script =>
      obtain ⟨whole, rfl, rfl⟩ := encodedScript_eq_ok_iff.mp encoded
      rw [encoded] at done
      cases writing : refusals.writing with
      | some error =>
          rw [writing] at done
          refine .inr ⟨fun completes => ?_, _, _, _, .inl rfl, done⟩
          cases writing.symm.trans completes.writable
      | none =>
          cases marking : refusals.marking with
          | some error =>
              rw [writing, marking] at done
              refine .inr ⟨fun completes => ?_, _, _, _, .inr ⟨whole, rfl⟩, done⟩
              cases marking.symm.trans completes.markable
          | none => exact .inl ⟨whole, openable, writing, marking⟩

theorem install_cases (tree : FileTree) (refusals : Refusals) (surroundings : Surroundings)
    (directory : Path) (command : Option Text.LooseText) (force : Bool) :
    (∃ failure,
      (install refusals surroundings directory command force).on tree = (.error failure, tree)) ∨
      ∃ place text, Openable tree directory refusals surroundings command force place text := by
  rcases install_reaches_command tree refusals surroundings directory command force with
    ⟨failure, -, failed⟩ | ⟨isThere, within, taken, free⟩
  · exact .inl ⟨failure, failed⟩
  rw [or_comm] at free
  cases chosen : commandText tree surroundings command with
  | error fault => exact .inl ⟨.file fault, by simp [install, within, taken, free, chosen]⟩
  | ok text =>
      cases granted : refusals.opening with
      | some error =>
          exact .inl ⟨.file (.system error (directory.child name).text),
            by simp [install, grant, within, taken, free, chosen, granted]⟩
      | none =>
          cases opened : tree.write (directory.child name) (directory.child name).text
              (.bytes []) with
          | error fault =>
              exact .inl ⟨.file fault,
                by simp [install, grant, within, taken, free, chosen, granted, opened]⟩
          | ok written =>
              obtain ⟨whole, place, mode, located, flat, -⟩ := FileTree.write_cases opened
              rw [FileTree.isThere_of_locate whole located] at taken
              cases taken
              rw [Option.isSome_eq_false_iff, Option.isNone_iff_eq_none, or_comm] at free
              exact .inr ⟨place, text, within, whole, located, flat, free, chosen, granted⟩

end

/-- There is a hook of ours. -/
structure Removable (tree : FileTree) (directory : Path) (place : Location) : Prop where
  whole : (directory.child name).hasNull = false
  located : tree.locate (directory.child name) = .ok place
  marked : ∃ content mode, tree.get? place = some (.file content mode) ∧ IsMarked content

theorem Removable.flat (removable : Removable tree directory place) :
    tree.get? place ≠ some .directory := by
  obtain ⟨content, mode, held, -⟩ := removable.marked
  simp [held]

/-- A hook of ours is removed, unless the system refuses to. -/
theorem uninstall_on_of_removable (removable : Removable tree directory place)
    (refusals : Refusals) :
    (uninstall refusals directory).on tree =
      match refusals.removing with
      | some error => (.error (.file (.system error (directory.child name).text)), tree)
      | none => (.ok true, tree.erase place) := by
  obtain ⟨whole, located, content, mode, held, marked⟩ := removable
  obtain ⟨ours, answered, meaning⟩ := isOurs_of_file whole located held
  rw [meaning.mpr marked] at answered
  simp only [uninstall, grant, FileAction.on_ask_bind, FileAction.on_check_bind,
    FileAction.on_demand_bind, FileAction.on_change_bind, FileAction.on_pure,
    FileTree.isThere_of_locate whole located, held, answered, if_true, Option.isSome_some,
    FileTree.remove, located]
  cases refusals.removing <;> rfl

theorem uninstall_cases (tree : FileTree) (refusals : Refusals) (directory : Path) :
    (∃ failure, (uninstall refusals directory).on tree = (.error failure, tree)) ∨
      tree.isThere (directory.child name) = .ok false ∧
          (uninstall refusals directory).on tree = (.ok false, tree) ∨
        refusals.removing = none ∧ ∃ place, Removable tree directory place := by
  cases there : tree.isThere (directory.child name) with
  | error fault => exact .inl ⟨.file fault, by simp [uninstall, there]⟩
  | ok isThere =>
      cases isThere with
      | false => exact .inr (.inl ⟨rfl, by simp [uninstall, there]⟩)
      | true =>
          obtain ⟨whole, place, entry, located, held⟩ := FileTree.isThere_eq_true_iff.mp there
          cases entry with
          | directory =>
              have foreign := isOurs_of_directory whole located held
              exact .inl ⟨.hook .foreign, by simp [uninstall, there, foreign]⟩
          | file content mode =>
              obtain ⟨ours, answered, meaning⟩ := isOurs_of_file whole located held
              cases ours with
              | false => exact .inl ⟨.hook .foreign, by simp [uninstall, there, answered]⟩
              | true =>
                  have removable : Removable tree directory place :=
                    ⟨whole, located, content, mode, held, meaning.mp rfl⟩
                  cases granted : refusals.removing with
                  | none => exact .inr (.inr ⟨rfl, place, removable⟩)
                  | some error =>
                      have done := uninstall_on_of_removable removable refusals
                      rw [granted] at done
                      exact .inl ⟨_, done⟩

/-! ## After an installation -/

section

variable {refusals : Refusals} {surroundings : Surroundings} {command : Option Text.LooseText}
  {force : Bool} {text : String}
  (installable : Installable tree directory refusals surroundings command force place text)

include installable

theorem Installable.locate_after :
    (installed tree place text).locate (directory.child name) = .ok place :=
  (FileTree.sameDirectories_insert_file installable.flat _ _).locate_eq_ok_iff.mpr
    installable.located

theorem Installable.held_after :
    (installed tree place text).get? place = some (.file (.bytes (bytes text)) 0o755) :=
  FileTree.get?_insert_of_flat installable.flat _

theorem Installable.isOurs_after :
    isOurs (installed tree place text) (directory.child name) = .ok true := by
  obtain ⟨ours, answered, meaning⟩ :=
    isOurs_of_file installable.whole installable.locate_after installable.held_after
  rw [answered, meaning.mpr (isMarked_bytes text)]

theorem Installable.removable_after : Removable (installed tree place text) directory place :=
  ⟨installable.whole, installable.locate_after, _, _, installable.held_after, isMarked_bytes text⟩

end

/-- What is left when a hook has been removed. -/
theorem Removable.free_after (closed : tree.IsClosed) (removable : Removable tree directory place) :
    (tree.erase place).get? place = none ∧
      (tree.erase place).isThere (directory.child name) = .ok false := by
  have free : (tree.erase place).get? place = none := by
    rw [FileTree.get?_erase_of_flat closed removable.flat, if_pos rfl]
  have located : (tree.erase place).locate (directory.child name) = .ok place :=
    (FileTree.sameDirectories_erase_file closed removable.flat).locate_eq_ok_iff.mpr
      removable.located
  exact ⟨free, by rw [FileTree.isThere_of_locate removable.whole located, free, Option.isSome_none]⟩

/-! ## Calls in a row -/

inductive Call where
  | install (refusals : Refusals) (surroundings : Surroundings) (command : Option Text.LooseText)
      (force : Bool)
  | uninstall (refusals : Refusals)

/-- Nothing comes in the way of a call once it has begun to change the file. -/
def Call.Completes : Call → Prop
  | .install refusals _ command _ => Hook.Completes refusals command
  | .uninstall _ => True

inductive Answer where
  | installed (path : Path)
  | uninstalled (found : Bool)

/-- Make a call for a directory. -/
def Call.perform (directory : Path) : Call → FileAction Answer
  | .install refusals surroundings command force => do
      return .installed (← Hook.install refusals surroundings directory command force)
  | .uninstall refusals => return .uninstalled (← Hook.uninstall refusals directory)

/-- The tree that some calls leave, whether they fail or not. -/
def run (directory : Path) (tree : FileTree) (calls : List Call) : FileTree :=
  calls.foldl (fun tree call => ((call.perform directory).on tree).2) tree

/-- What a call does: it fails, or finds no hook, or installs one, or removes one, or leaves one
behind that it has not finished. -/
inductive Effect (directory : Path) (tree : FileTree) :
    Call → Except Failure Answer × FileTree → Prop where
  | failed {call : Call} {failure : Failure} : Effect directory tree call (.error failure, tree)
  | absent {refusals : Refusals} (free : tree.isThere (directory.child name) = .ok false) :
      Effect directory tree (.uninstall refusals) (.ok (.uninstalled false), tree)
  | written {refusals : Refusals} {surroundings : Surroundings} {command : Option Text.LooseText}
      {force : Bool} {place : Location} {text : String}
      (installable : Installable tree directory refusals surroundings command force place text) :
      Effect directory tree (.install refusals surroundings command force)
        (.ok (.installed (directory.child name)), installed tree place text)
  | removed {refusals : Refusals} {place : Location} (granted : refusals.removing = none)
      (removable : Removable tree directory place) :
      Effect directory tree (.uninstall refusals) (.ok (.uninstalled true), tree.erase place)
  | broken {refusals : Refusals} {surroundings : Surroundings} {command : Option Text.LooseText}
      {force : Bool} {place : Location} {text : Text.LooseText} {failure : Failure}
      {left : List UInt8} {mode : Nat}
      (openable : Openable tree directory refusals surroundings command force place text)
      (incomplete : ¬ Completes refusals command) (remnant : IsRemnant left) :
      Effect directory tree (.install refusals surroundings command force)
        (.error failure, tree.insert place (.file (.bytes left) mode))

theorem perform_effect (directory : Path) (tree : FileTree) (call : Call) :
    Effect directory tree call ((call.perform directory).on tree) := by
  cases call with
  | install refusals surroundings command force =>
      rw [Call.perform, FileAction.on_bind]
      rcases install_cases tree refusals surroundings directory command force with
        ⟨failure, failed⟩ | ⟨place, text, openable⟩
      · rw [failed]
        exact .failed
      · rcases openable.cases with
          ⟨whole, installable⟩ | ⟨incomplete, failure, left, mode, remnant, failed⟩
        · rw [install_on_of_installable installable]
          exact .written installable
        · rw [failed]
          exact .broken openable incomplete remnant
  | uninstall refusals =>
      rw [Call.perform, FileAction.on_bind]
      rcases uninstall_cases tree refusals directory with
        ⟨failure, failed⟩ | ⟨free, absent⟩ | ⟨granted, place, removable⟩
      · rw [failed]
        exact .failed
      · rw [absent]
        exact .absent free
      · rw [uninstall_on_of_removable removable, granted]
        exact .removed granted removable

/-- A tree that came from another one by changes of the hook alone. -/
structure Spares (directory : Path) (tree next : FileTree) : Prop where
  closed : next.IsClosed
  directories : FileTree.SameDirectories tree next
  elsewhere : ∀ location, tree.locate (directory.child name) ≠ .ok location →
    next.get? location = tree.get? location

theorem Spares.refl (closed : tree.IsClosed) (directory : Path) : Spares directory tree tree :=
  ⟨closed, .refl tree, fun _ _ => rfl⟩

theorem Spares.trans {next last : FileTree} (first : Spares directory tree next)
    (second : Spares directory next last) : Spares directory tree last := by
  refine ⟨second.closed, first.directories.trans second.directories, fun location apart => ?_⟩
  have apart' : next.locate (directory.child name) ≠ .ok location :=
    fun located => apart (first.directories.locate_eq_ok_iff.mp located)
  rw [second.elsewhere location apart', first.elsewhere location apart]

/-- Whatever is stored as the hook is stored nowhere else. -/
theorem Openable.spares {refusals : Refusals} {surroundings : Surroundings}
    {command : Option Text.LooseText} {force : Bool} {text : Text.LooseText}
    (openable : Openable tree directory refusals surroundings command force place text)
    (closed : tree.IsClosed) (content : Content) (mode : Nat) :
    Spares directory tree (tree.insert place (.file content mode)) := by
  have down : name ≠ ".." := by decide
  obtain ⟨above, stands, rfl⟩ := FileTree.locate_child_eq_ok down openable.located
  refine ⟨closed.insert stands openable.flat _,
    FileTree.sameDirectories_insert_file openable.flat _ _, fun location apart => ?_⟩
  have off : location ≠ above ++ [name] := by
    rintro rfl
    exact apart openable.located
  exact FileTree.get?_insert_of_ne tree _ off

theorem Effect.spares (closed : tree.IsClosed) {call : Call}
    {outcome : Except Failure Answer × FileTree} (effect : Effect directory tree call outcome) :
    Spares directory tree outcome.2 := by
  cases effect with
  | failed => exact .refl closed directory
  | absent free => exact .refl closed directory
  | written installable => exact installable.spares closed _ _
  | broken openable => exact openable.spares closed _ _
  | @removed refusals place granted removable =>
      refine ⟨closed.erase removable.flat,
        FileTree.sameDirectories_erase_file closed removable.flat, fun location apart => ?_⟩
      have off : location ≠ place := by
        rintro rfl
        exact apart removable.located
      rw [FileTree.get?_erase_of_flat closed removable.flat, if_neg off]

theorem run_spares (closed : tree.IsClosed) (directory : Path) (calls : List Call) :
    Spares directory tree (run directory tree calls) := by
  induction calls generalizing tree with
  | nil => exact .refl closed directory
  | cons call rest ih =>
      have first := (perform_effect directory tree call).spares closed
      exact first.trans (ih first.closed)

/-- One of the calls installs the hook by force. -/
def Forces (directory : Path) (tree : FileTree) (calls : List Call) : Prop :=
  ∃ before refusals surroundings command after path next,
    calls = before ++ .install refusals surroundings command true :: after ∧
      (Call.perform directory (.install refusals surroundings command true)).on
        (run directory tree before) = (.ok (.installed path), next)

/-- A hook of others is in the way of everything but force. -/
theorem Effect.of_foreign {call : Call} {outcome : Except Failure Answer × FileTree}
    (effect : Effect directory tree call outcome) (completes : call.Completes)
    (located : tree.locate (directory.child name) = .ok place)
    (held : tree.get? place = some (.file content mode)) (foreign : ¬ IsMarked content) :
    outcome.2 = tree ∨ ∃ refusals surroundings command,
      call = .install refusals surroundings command true ∧
        ∃ path next, outcome = (.ok (.installed path), next) := by
  cases effect with
  | failed => exact .inl rfl
  | absent free => exact .inl rfl
  | written installable =>
      cases installable.located.symm.trans located
      rcases installable.free with rfl | free
      · exact .inr ⟨_, _, _, rfl, _, _, rfl⟩
      · rw [held] at free
        cases free
  | removed granted removable =>
      cases removable.located.symm.trans located
      obtain ⟨content', mode', held', marked⟩ := removable.marked
      cases held.symm.trans held'
      exact absurd marked foreign
  | broken openable incomplete remnant => exact absurd completes incomplete

theorem run_of_foreign (located : tree.locate (directory.child name) = .ok place)
    (held : tree.get? place = some (.file content mode)) (foreign : ¬ IsMarked content)
    (calls : List Call) (complete : ∀ call ∈ calls, call.Completes)
    (unforced : ¬ Forces directory tree calls) : run directory tree calls = tree := by
  induction calls with
  | nil => rfl
  | cons call rest ih =>
      obtain ⟨completes, others⟩ := List.forall_mem_cons.mp complete
      rcases (perform_effect directory tree call).of_foreign completes located held foreign with
        same | ⟨refusals, surroundings, command, rfl, path, next, done⟩
      · have later : ¬ Forces directory tree rest := by
          rintro ⟨before, refusals, surroundings, command, after, path, next, rfl, done⟩
          refine unforced
            ⟨call :: before, refusals, surroundings, command, after, path, next, rfl, ?_⟩
          rw [run, List.foldl_cons, same]
          exact done
        rw [run, List.foldl_cons, same]
        exact ih others later
      · exact absurd ⟨[], refusals, surroundings, command, rest, path, next, rfl, done⟩ unforced

/-- A call installs the hook exactly when the hook is installable. -/
theorem perform_install_iff {refusals : Refusals} {surroundings : Surroundings}
    {command : Option Text.LooseText} {force : Bool} {next : FileTree} :
    (Call.perform directory (.install refusals surroundings command force)).on tree =
        (.ok (.installed path), next) ↔
      path = directory.child name ∧
        ∃ place text, Installable tree directory refusals surroundings command force place text ∧
          next = installed tree place text := by
  constructor
  · intro done
    have effect := perform_effect directory tree (.install refusals surroundings command force)
    rw [done] at effect
    cases effect with
    | written installable => exact ⟨rfl, _, _, installable, rfl⟩
  · rintro ⟨rfl, place, text, installable, rfl⟩
    rw [Call.perform, FileAction.on_bind, install_on_of_installable installable]
    rfl

theorem perform_uninstall_of_removable (removable : Removable tree directory place)
    {refusals : Refusals} (granted : refusals.removing = none) :
    (Call.perform directory (.uninstall refusals)).on tree =
      (.ok (.uninstalled true), tree.erase place) := by
  rw [Call.perform, FileAction.on_bind, uninstall_on_of_removable removable, granted]
  rfl

/-- A call that fails has changed nothing, or left a hook behind that it has not finished. -/
theorem perform_failed {call : Call} {failure : Failure} {next : FileTree}
    (failed : (call.perform directory).on tree = (.error failure, next)) :
    next = tree ∨ ¬ call.Completes ∧ ∃ place left mode,
      tree.locate (directory.child name) = .ok place ∧ IsRemnant left ∧
        next = tree.insert place (.file (.bytes left) mode) := by
  have effect := perform_effect directory tree call
  rw [failed] at effect
  cases effect with
  | failed => exact .inl rfl
  | broken openable incomplete remnant =>
      exact .inr ⟨incomplete, _, _, _, openable.located, remnant, rfl⟩

/-- The working directory is the directory of the hooks, where a hook of others is. -/
def occupied : FileTree :=
  (FileTree.initial ["hooks"]).insert ["hooks", name] (.file (.bytes [0x23, 0x21]) 0o644)

theorem occupied_isClosed : occupied.IsClosed := by
  have free : (FileTree.initial ["hooks"]).get? ["hooks", name] = none := rfl
  have flat : (FileTree.initial ["hooks"]).get? (["hooks"] ++ [name]) ≠ some .directory := by
    rw [List.singleton_append, free]
    exact nofun
  exact (FileTree.initial_isClosed ["hooks"]).insert rfl flat (.file (.bytes [0x23, 0x21]) 0o644)

end CommitLint.Hook
