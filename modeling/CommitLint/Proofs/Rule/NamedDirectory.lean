import CommitLint.Proofs.Config.Loading
import CommitLint.Proofs.Rule.Directory

/-!
# Directories that configurations name

The rules of a project are those of the directory that its configuration
names. Where there is no directory there are none, and a file that fails is
told of and passed over. But the name is any value that a configuration can
hold: one that is no text fails, and so does one that is too long a path.
-/

namespace CommitLint

namespace FileTree

variable {tree : FileTree} {path : Path}

/-- There is a directory at a path. -/
def HoldsDirectory (tree : FileTree) (path : Path) : Prop :=
  path.hasNull = false ∧ tree.entryAt path = .ok .directory

/-- A path that can be followed leads to a directory or to none. -/
theorem isDirectory_of_not_refuses (unrefused : ¬ tree.Refuses path) :
    ∃ there, tree.isDirectory path = .ok there ∧ (there = true ↔ tree.HoldsDirectory path) := by
  unfold isDirectory test HoldsDirectory
  cases whole : path.hasNull with
  | true => exact ⟨false, rfl, by simp⟩
  | false =>
      cases entry : tree.entryAt path with
      | ok found => cases found <;> simp
      | error error =>
          cases error with
          | nameTooLong => exact absurd ⟨whole, entry⟩ unrefused
          | _ => exact ⟨false, rfl, by simp⟩

theorem read_eq_ok_iff_holds {content : Content} {shown : String} :
    tree.read path shown = .ok content ↔ tree.Holds path content := by
  refine ⟨fun done => ?_, fun held => read_of_holds held shown⟩
  unfold read at done
  split at done
  · cases done
  · next whole =>
      split at done
      · next mode entry =>
          cases done
          exact ⟨by simpa using whole, mode, entry⟩
      · cases done
      · cases done

end FileTree

namespace RuleDirectory

variable {tree : FileTree} {project directory path : Path} {name : Value}

/-- The description of rules that a content is. -/
def describedBy : Content → RuleModule
  | .rules file => file
  | .bytes content => ofBytes content

/-- What a file brings: its rules, and whether it failed. What cannot be read brings none. -/
inductive Brings (tree : FileTree) (path : Path) : List CustomRule → Bool → Prop where
  | read {content : Content} {rules : List CustomRule} {failed : Bool}
      (held : tree.Holds path content) (loads : (describedBy content).Loads rules failed) :
      Brings tree path rules failed
  | unread (unheld : ∀ content, ¬ tree.Holds path content) : Brings tree path [] true

/-- What files bring together, and that each one that fails is told of in its turn. -/
inductive Collects (tree : FileTree) (directory : Path) :
    List String → List CustomRule → List Event → Prop where
  | nothing : Collects tree directory [] [] []
  | whole {file : String} {rest : List String} {own others : List CustomRule} {events : List Event}
      (brings : Brings tree (directory.child file) own false)
      (collects : Collects tree directory rest others events) :
      Collects tree directory (file :: rest) (own ++ others) events
  | failing {file : String} {rest : List String} {own others : List CustomRule}
      {events : List Event} (brings : Brings tree (directory.child file) own true)
      (collects : Collects tree directory rest others events) :
      Collects tree directory (file :: rest) (own ++ others)
        (.ruleFileFailed (directory.child file).text :: events)

/-- Why rules cannot be looked for: the name is no text, or a path that is too long. -/
inductive Misnamed (tree : FileTree) (project : Path) : Value → Failure → Prop where
  | noText {name : Value} (other : ∀ text, name ≠ .text text) :
      Misnamed tree project name (.rulesDirectory name.kindName)
  | tooLong {text : String} (refused : tree.Refuses (project.join (.ofText text))) :
      Misnamed tree project (.text text)
        (.file (.system .nameTooLong (project.join (.ofText text)).text))

/-- The rules that there are under a name, seen from the project, and what is told of them. -/
inductive Gathers (tree : FileTree) (project : Path) :
    Value → List CustomRule → List Event → Prop where
  | absent {text : String} (unheld : ¬ tree.HoldsDirectory (project.join (.ofText text))) :
      Gathers tree project (.text text) [] []
  | present {text : String} {rules : List CustomRule} {events : List Event}
      (held : tree.HoldsDirectory (project.join (.ofText text)))
      (collects : Collects tree (project.join (.ofText text))
        ((tree.list (project.join (.ofText text))).filter isRuleFile) rules events) :
      Gathers tree project (.text text) rules events

theorem loadFile_of_holds {content : Content} (held : tree.Holds path content) :
    loadFile tree path = (describedBy content).load := by
  rw [loadFile, FileTree.read_of_holds held path.text]
  cases content <;> rfl

theorem loadFile_brings (tree : FileTree) (path : Path) :
    Brings tree path (loadFile tree path).1 (loadFile tree path).2 := by
  cases answer : tree.read path path.text with
  | ok content =>
      have held := FileTree.read_eq_ok_iff_holds.mp answer
      rw [loadFile_of_holds held]
      exact .read held (describedBy content).load_loads
  | error fault =>
      rw [loadFile, answer]
      refine .unread fun content held => ?_
      cases answer.symm.trans (FileTree.read_of_holds held path.text)

theorem loadFiles_collects (tree : FileTree) (directory : Path) (files : List String) :
    Collects tree directory files (loadFiles tree directory files).value
      (loadFiles tree directory files).events := by
  induction files with
  | nil => exact .nothing
  | cons file rest ih =>
      have brings := loadFile_brings tree (directory.child file)
      rw [loadFiles]
      generalize loadFile tree (directory.child file) = result at brings
      obtain ⟨own, failed⟩ := result
      cases failed with
      | true => exact .failing brings ih
      | false => exact .whole brings ih

theorem loadNamed_of_misnamed {failure : Failure} (misnamed : Misnamed tree project name failure) :
    loadNamed tree project name = .quiet (.error failure) := by
  cases misnamed with
  | noText other =>
      cases name with
      | text text => exact absurd rfl (other text)
      | _ => rfl
  | tooLong refused => rw [loadNamed, load, FileTree.isDirectory, FileTree.test_of_refuses refused]

/-- A name that is no hindrance is that of a directory, or there are no rules. -/
theorem loadNamed_of_not_misnamed (named : ∀ failure, ¬ Misnamed tree project name failure) :
    ∃ rules events, loadNamed tree project name = ⟨.ok rules, events⟩ ∧
      Gathers tree project name rules events := by
  cases name with
  | text text =>
      have unrefused : ¬ tree.Refuses (project.join (.ofText text)) := fun refused =>
        named _ (.tooLong refused)
      obtain ⟨there, answer, holds⟩ := FileTree.isDirectory_of_not_refuses unrefused
      rw [loadNamed, load, answer]
      cases there with
      | true => exact ⟨_, _, rfl, .present (holds.mp rfl) (loadFiles_collects tree _ _)⟩
      | false =>
          exact ⟨[], [], rfl, .absent fun held => Bool.false_ne_true (holds.mpr held)⟩
  | _ => exact absurd (.noText fun text same => by cases same) (named _)

/--
A configuration can name any value. Looking for the rules under the name
fails exactly if it is no text or too long a path, and then nothing is told.
In all other cases there are rules: none where there is no directory, and
else those of its files in turn, of which each one that fails is told of and
keeps nothing from the others.
-/
theorem loadNamed_outcome (tree : FileTree) (project : Path) (name : Value) :
    (∃ config, Config.overlay (.map [(.text "custom_rules_dir", name)]) .default = .ok config ∧
      config.value.customRulesDir = name) ∧
    (∀ failure, loadNamed tree project name = .quiet (.error failure) ↔
      Misnamed tree project name failure) ∧
    ((∃ rules events, loadNamed tree project name = ⟨.ok rules, events⟩) ↔
      ∀ failure, ¬ Misnamed tree project name failure) ∧
    ∀ rules events, loadNamed tree project name = ⟨.ok rules, events⟩ →
      Gathers tree project name rules events := by
  refine ⟨⟨_, rfl, rfl⟩, ?_⟩
  by_cases misnamed : ∃ failure, Misnamed tree project name failure
  · obtain ⟨failure, misnamed⟩ := misnamed
    rw [loadNamed_of_misnamed misnamed]
    refine ⟨fun other => ⟨fun same => ?_, fun misnamed' => ?_⟩, ?_, nofun⟩
    · cases same
      exact misnamed
    · exact (loadNamed_of_misnamed misnamed).symm.trans (loadNamed_of_misnamed misnamed')
    · exact iff_of_false nofun fun named => named failure misnamed
  · have named := not_exists.mp misnamed
    obtain ⟨rules, events, done, gathers⟩ := loadNamed_of_not_misnamed named
    rw [done]
    refine ⟨fun failure => iff_of_false nofun (named failure), ?_, ?_⟩
    · exact iff_of_true ⟨rules, events, rfl⟩ named
    · rintro _ _ ⟨⟩
      exact gathers

/-- A number is accepted as the name of the directory, and then looking for the rules fails. -/
theorem loadNamed_number :
    ∃ config, Config.overlay (.map [(.text "custom_rules_dir", .int 5)]) .default = .ok config ∧
      config.value.customRulesDir.isTrue = true ∧
      (loadNamed (.initial []) (.ofText ".") config.value.customRulesDir).value =
        .error (.rulesDirectory "int") :=
  ⟨_, rfl, rfl, rfl⟩

end RuleDirectory

end CommitLint
