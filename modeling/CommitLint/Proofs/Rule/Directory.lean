import CommitLint.Proofs.FileTree.Places
import CommitLint.Proofs.FileTree.Texts
import CommitLint.Proofs.Lint.Entries
import CommitLint.Proofs.Rule.Module

/-!
# Files of rules apart from each other

The rules of a directory are those of its files, one file after the other.
Another content of one file changes what that file brings, and nothing else:
the other files bring the same rules in the same order, and an entry of the
configuration that names no rule of that file is judged as before.
-/

namespace CommitLint

/-! ## What the other files hold -/

namespace FileTree

variable {tree : FileTree} {directory : Path} {place : Location} {name other : String}

/-- Different names in a directory lead to different places. -/
theorem locate_child_ne {place' : Location}
    (located : tree.locate (directory.child name) = .ok place)
    (located' : tree.locate (directory.child other) = .ok place') (apart : other ≠ name) :
    place' ≠ place := by
  obtain ⟨-, above, reached, stepped⟩ := locate_child_eq_ok_iff.mp located
  obtain ⟨-, above', reached', stepped'⟩ := locate_child_eq_ok_iff.mp located'
  cases reached.symm.trans reached'
  obtain ⟨-, down⟩ := step_eq_ok_iff.mp stepped
  obtain ⟨-, down'⟩ := step_eq_ok_iff.mp stepped'
  have shorter : ∀ part, above.dropLast ≠ above ++ [part] := by
    intro part same
    have lengths := congrArg List.length same
    rw [List.length_dropLast, List.length_append, List.length_singleton] at lengths
    omega
  by_cases up : name = ".."
  · rw [if_pos up] at down
    rw [if_neg fun up' => apart (up'.trans up.symm)] at down'
    rw [down, down'.2]
    exact (shorter other).symm
  · rw [if_neg up] at down
    rw [down.2]
    split at down'
    · rw [down']
      exact shorter name
    · rw [down'.2]
      intro same
      exact apart (List.singleton_inj.mp (List.append_cancel_left same))

/-- Another content of one file is not read from under another name. -/
theorem read_rewrite_of_ne (located : tree.locate (directory.child name) = .ok place)
    (apart : other ≠ name) (content : Content) (shown : String) :
    (tree.rewrite place content).read (directory.child other) shown =
      tree.read (directory.child other) shown := by
  have entry : (tree.rewrite place content).entryAt (directory.child other) =
      tree.entryAt (directory.child other) := by
    simp only [entryAt, (sameShape_rewrite tree _ content).locate_eq, bind, Except.bind]
    cases located' : tree.locate (directory.child other) with
    | error error => rfl
    | ok place' =>
        simp only [get?_rewrite, if_neg (locate_child_ne located located' apart), Option.map_id']
  rw [read, read, entry]

/-- One entry for each place makes one name for each entry of a directory. -/
theorem nodup_names (single : (tree.entries.map (·.1)).Nodup) (place : Location) :
    (tree.names place).Nodup := by
  have below : tree.entries.filterMap (fun stored =>
      if stored.1.dropLast == place then stored.1.getLast? else none) =
        (tree.entries.map (·.1)).filterMap fun stored =>
          if stored.dropLast == place then stored.getLast? else none := by
    rw [List.filterMap_map]
    rfl
  have named {stored : Location} {name : String}
      (shown : (if stored.dropLast == place then stored.getLast? else none) = some name) :
      stored = place ++ [name] := by
    split at shown
    · next same =>
        rw [← List.dropLast_append_getLast? name shown, eq_of_beq same]
    · cases shown
  rw [names, (List.mergeSort_perm _ _).nodup_iff, below]
  refine List.Pairwise.filterMap _ ?_ single
  intro stored stored' apart name shown name' shown' same
  apply apart
  rw [named shown, named shown', same]

theorem nodup_list (single : (tree.entries.map (·.1)).Nodup) (path : Path) :
    (tree.list path).Nodup := by
  rw [list]
  split
  · exact List.nodup_nil
  · exact nodup_names single _

end FileTree

namespace RuleDirectory

variable {tree : FileTree} {directory : Path} {place : Location} {name other : String}

/-! ## The files of a directory -/

theorem isRuleFile_iff {file : String} :
    isRuleFile file = true ↔ (∃ stem, file = stem ++ ".py") ∧ ∀ rest, file ≠ "_" ++ rest := by
  rw [isRuleFile, Bool.and_eq_true, List.isSuffixOf_iff_suffix, bne_iff_ne]
  refine and_congr ⟨?_, ?_⟩ ⟨?_, ?_⟩
  · rintro ⟨stem, cut⟩
    refine ⟨String.ofList stem, ?_⟩
    rw [← String.toList_inj, String.toList_append, String.toList_ofList, cut]
  · rintro ⟨stem, rfl⟩
    exact ⟨stem.toList, String.toList_append.symm⟩
  · rintro first rest rfl
    apply first
    rw [String.toList_append]
    rfl
  · intro apart first
    obtain ⟨rest, cut⟩ := List.head?_eq_some_iff.mp first
    apply apart (String.ofList rest)
    simp [← String.toList_inj, String.toList_append, cut]

theorem loadFiles_eq_flatMap (tree : FileTree) (directory : Path) (files : List String) :
    loadFiles tree directory files =
      ⟨files.flatMap fun file => (loadFile tree (directory.child file)).1,
        (files.filter fun file => (loadFile tree (directory.child file)).2).map fun file =>
          .ruleFileFailed (directory.child file).text⟩ := by
  induction files with
  | nil => rfl
  | cons file rest ih =>
      cases failed : (loadFile tree (directory.child file)).2 <;>
        simp [loadFiles, ih, failed]

/-- A file that can be read as a description of rules brings what the description loads. -/
theorem loadFile_loads {path : Path} {file : RuleModule}
    (described : tree.read path path.text = .ok (.rules file)) :
    file.Loads (loadFile tree path).1 (loadFile tree path).2 := by
  rw [loadFile, described]
  exact file.load_loads

theorem loadFile_rewrite_of_ne (located : tree.locate (directory.child name) = .ok place)
    (apart : other ≠ name) (content : Content) :
    loadFile (tree.rewrite place content) (directory.child other) =
      loadFile tree (directory.child other) := by
  rw [loadFile, loadFile, FileTree.read_rewrite_of_ne located apart]

theorem loadFiles_congr {next : FileTree} {files : List String}
    (alike : ∀ file ∈ files,
      loadFile next (directory.child file) = loadFile tree (directory.child file)) :
    loadFiles next directory files = loadFiles tree directory files := by
  induction files with
  | nil => rfl
  | cons file rest ih =>
      obtain ⟨here, later⟩ := List.forall_mem_cons.mp alike
      rw [loadFiles, loadFiles, here, ih later]

theorem load_of_isDirectory (there : tree.isDirectory directory = .ok true) :
    load tree directory =
      (loadFiles tree directory ((tree.list directory).filter isRuleFile)).map .ok := by
  rw [load, there]

theorem map_loadFiles (tree : FileTree) (directory : Path) (files : List String) :
    (loadFiles tree directory files).map (Except.ok (ε := Failure)) =
      ⟨.ok (files.flatMap fun file => (loadFile tree (directory.child file)).1),
        (files.filter fun file => (loadFile tree (directory.child file)).2).map fun file =>
          .ruleFileFailed (directory.child file).text⟩ := by
  rw [loadFiles_eq_flatMap, Logged.map]

end RuleDirectory

namespace Project

variable {tree : FileTree} {project : Path} {config : Config} {message : String}
  {asked : Option Bool}

theorem lintWith_value [CharacterNames] {found : List Rule}
    (loaded : (rules tree project config).value = .ok found) :
    (lintWith tree project config message asked).value =
      (CommitLint.lint config found message asked).value.mapError .lint := by
  rw [lintWith, andThen, Logged.bind, loaded]
  rfl

/-- The rules that files bring, behind those that are always there, if they are looked for. -/
def withBuiltin (text : String) (custom : List CustomRule) : List Rule :=
  if text.isEmpty then Rule.builtin else Rule.builtin ++ custom.map (·.rule)

theorem rules_value {text : String} {custom : List CustomRule}
    (named : config.customRulesDir = .text text)
    (loaded : (RuleDirectory.load tree (project.join (.ofText text))).value = .ok custom) :
    (rules tree project config).value = .ok (withBuiltin text custom) := by
  rw [rules, named, Value.isTrue, withBuiltin]
  cases text.isEmpty with
  | true => rfl
  | false =>
      change ((RuleDirectory.load tree (project.join (.ofText text))).value.map _) = _
      rw [loaded]
      rfl

/-- Files that bring other rules, but none that a key names, leave what the key names. -/
theorem lookup_withBuiltin {text : String} {files : List String}
    {own own' : String → List CustomRule} {key : Value}
    (alike : ∀ file ∈ files, own' file = own file ∨
      ∀ rule ∈ own file ++ own' file, key ≠ .text rule.rule.name) :
    Lint.lookup (withBuiltin text (files.flatMap own')) key =
      Lint.lookup (withBuiltin text (files.flatMap own)) key := by
  have custom : Lint.lookup (files.flatMap fun file => (own' file).map (·.rule)) key =
      Lint.lookup (files.flatMap fun file => (own file).map (·.rule)) key := by
    apply Lint.lookup_flatMap_congr
    intro file member
    rcases alike file member with same | apart
    · rw [same]
    · obtain ⟨before, after⟩ := List.forall_mem_append.mp apart
      rw [Lint.lookup_eq_none_iff.mpr (List.forall_mem_map.mpr after),
        Lint.lookup_eq_none_iff.mpr (List.forall_mem_map.mpr before)]
  rw [withBuiltin, withBuiltin]
  split
  · rfl
  · rw [Lint.lookup_append, Lint.lookup_append, List.map_flatMap, List.map_flatMap, custom]

/--
Another content of one file of a directory of rules leaves the rules of the
other files as they are, in the same order, and with them what linting finds
for every entry that names no rule of the file, before or after. The files
are those whose name ends in `.py` and starts with no low line; each one that
fails is told of once, and keeps the rules of the classes that were visited
before its failure.
-/
theorem lint_isolated [CharacterNames] {text name : String} {place : Location} (content : Content)
    (there : tree.isDirectory (project.join (.ofText text)) = .ok true)
    (located : tree.locate ((project.join (.ofText text)).child name) = .ok place) :
    let directory := project.join (.ofText text)
    let next := tree.rewrite place content
    let files := (tree.list directory).filter RuleDirectory.isRuleFile
    let brought (tree : FileTree) (file : String) :=
      RuleDirectory.loadFile tree (directory.child file)
    let loaded (tree : FileTree) : Logged (Except Failure (List CustomRule)) :=
      ⟨.ok (files.flatMap fun file => (brought tree file).1),
        (files.filter fun file => (brought tree file).2).map fun file =>
          .ruleFileFailed (directory.child file).text⟩
    let untouched (entry : Value × Value) : Prop :=
      ∀ rule ∈ (brought tree name).1 ++ (brought next name).1, entry.1 ≠ .text rule.rule.name
    RuleDirectory.load tree directory = loaded tree ∧
      RuleDirectory.load next directory = loaded next ∧
      (∀ other, other ≠ name → brought next other = brought tree other) ∧
      (∀ file, file ∈ files ↔ file ∈ tree.list directory ∧
        (∃ stem, file = stem ++ ".py") ∧ ∀ rest, file ≠ "_" ++ rest) ∧
      ((tree.entries.map (·.1)).Nodup → files.Nodup) ∧
      (name ∉ files → RuleDirectory.load next directory = RuleDirectory.load tree directory) ∧
      (∀ (tree : FileTree) (path : Path) (file : RuleModule),
        tree.read path path.text = .ok (.rules file) →
          file.Loads (RuleDirectory.loadFile tree path).1 (RuleDirectory.loadFile tree path).2) ∧
      ∀ config : Config, config.customRulesDir = .text text →
        ∃ found found', (rules tree project config).value = .ok found ∧
          (rules next project config).value = .ok found' ∧
          (∀ entry message verbose, untouched entry →
            Lint.contribution found' message verbose entry =
              Lint.contribution found message verbose entry) ∧
          ∀ message asked, (∀ entry ∈ config.rules, untouched entry) →
            (lintWith next project config message asked).value =
              (lintWith tree project config message asked).value := by
  intro directory next files brought loaded untouched
  have shape : FileTree.SameShape tree next := FileTree.sameShape_rewrite tree place content
  have first : RuleDirectory.load tree directory =
      (RuleDirectory.loadFiles tree directory files).map .ok :=
    RuleDirectory.load_of_isDirectory there
  have second : RuleDirectory.load next directory =
      (RuleDirectory.loadFiles next directory files).map .ok := by
    have again : next.isDirectory directory = .ok true := (shape.isDirectory_eq _).trans there
    rw [RuleDirectory.load_of_isDirectory again, shape.list_eq]
  have others : ∀ other, other ≠ name → brought next other = brought tree other := by
    intro other apart
    exact RuleDirectory.loadFile_rewrite_of_ne located apart content
  refine ⟨?before, ?after, others, ?members, ?single, ?hidden, ?describes, ?verdicts⟩
  case before => exact first.trans (RuleDirectory.map_loadFiles tree directory files)
  case after => exact second.trans (RuleDirectory.map_loadFiles next directory files)
  case members =>
    intro file
    rw [List.mem_filter, RuleDirectory.isRuleFile_iff]
  case single => exact fun single => (FileTree.nodup_list single directory).filter _
  case hidden =>
    intro absent
    rw [first, second, RuleDirectory.loadFiles_congr]
    exact fun file member => others file fun same => absent (same ▸ member)
  case describes =>
    intro tree path file described
    exact RuleDirectory.loadFile_loads described
  case verdicts =>
    intro config named
    rw [RuleDirectory.map_loadFiles] at first second
    have found := rules_value named (congrArg Logged.value first)
    have found' := rules_value named (congrArg Logged.value second)
    have consulted : ∀ entry, untouched entry →
        Lint.lookup (withBuiltin text (files.flatMap fun file => (brought next file).1)) entry.1 =
          Lint.lookup (withBuiltin text (files.flatMap fun file => (brought tree file).1))
            entry.1 := by
      intro entry apart
      apply lookup_withBuiltin
      intro file _
      by_cases same : file = name
      · rw [same]
        exact .inr apart
      · rw [others file same]
        exact .inl rfl
    refine ⟨_, _, found, found', ?_, ?_⟩
    · intro entry message verbose apart
      refine Lint.evaluate_of_lookup (List.forall_mem_singleton.mpr ?_)
      exact consulted entry apart
    · intro message asked apart
      rw [lintWith_value found', lintWith_value found,
        lint_congr fun entry member => consulted entry (apart entry member)]

/-- A file with one class, whose rule always fails. -/
def failing (title name : String) : RuleModule :=
  { RuleModule.empty with classes := [⟨title, .rule, some name, some (.fail none), false⟩] }

theorem load_failing {title : String} (name : String) (front : title < "_Rule") :
    (failing title name).load.1.map (·.rule.name) = [name] := by
  let own : RuleModule.Defined :=
    RuleModule.derive RuleModule.ruleClass ⟨title, .rule, some name, some (.fail none), false⟩
  have bound : (failing title name).bindings? =
      some [(title, own), ("_Rule", RuleModule.ruleClass)] := by
    change some (RuleModule.bind [("_Rule", RuleModule.ruleClass)] title own) = _
    simp [RuleModule.bind, front.ne']
  have ordered : List.Pairwise (fun first second : String × RuleModule.Defined =>
      decide (first.1 ≤ second.1) = true) [(title, own), ("_Rule", RuleModule.ruleClass)] := by
    simp [front.le]
  rw [RuleModule.load, bound]
  simp only [RuleModule.candidates, List.mergeSort_of_pairwise ordered]
  rfl

def twoFiles : FileTree :=
  ⟨[(["rules"], .directory), (["rules", "a.py"], .file (.rules (failing "First" "first")) 0o644),
    (["rules", "b.py"], .file (.rules (failing "Second" "second")) 0o644)], []⟩

open CharacterNames in
/-- Once one file holds no text any more, the other one still brings its rule, and no message is
judged otherwise by it. -/
theorem lint_isolated_undecodable :
    let directory := (Path.ofText "/").join (.ofText "rules")
    let config : Config :=
      { Config.default with rules := [(.text "first", .int 2)], customRulesDir := .text "rules" }
    let next := twoFiles.rewrite ["rules", "b.py"] (.bytes [0xFF])
    twoFiles.isDirectory directory = .ok true ∧
      twoFiles.locate (directory.child "b.py") = .ok ["rules", "b.py"] ∧
      (RuleDirectory.loadFile next (directory.child "a.py")).1.map (·.rule.name) = ["first"] ∧
      RuleDirectory.loadFile next (directory.child "b.py") = ([], true) ∧
      ∀ message, (lintWith next (.ofText "/") config message none).value =
        (lintWith twoFiles (.ofText "/") config message none).value := by
  intro directory config next
  have there : twoFiles.isDirectory directory = .ok true := by decide +kernel
  have located : twoFiles.locate (directory.child "b.py") = .ok ["rules", "b.py"] := by
    decide +kernel
  have first : (failing "First" "first").load.1.map (·.rule.name) = ["first"] :=
    load_failing "first" (by decide)
  have second : (failing "Second" "second").load.1.map (·.rule.name) = ["second"] :=
    load_failing "second" (by decide)
  have loadA : RuleDirectory.loadFile twoFiles (directory.child "a.py") =
      (failing "First" "first").load := by
    have located' : twoFiles.locate (directory.child "a.py") = .ok ["rules", "a.py"] := by
      decide +kernel
    rw [RuleDirectory.loadFile, FileTree.read_of_file (by decide +kernel) located' rfl]
  have loadB : RuleDirectory.loadFile twoFiles (directory.child "b.py") =
      (failing "Second" "second").load := by
    rw [RuleDirectory.loadFile, FileTree.read_of_file (by decide +kernel) located rfl]
  have broken : RuleDirectory.loadFile next (directory.child "b.py") = ([], true) := by
    have located' : next.locate (directory.child "b.py") = .ok ["rules", "b.py"] :=
      ((FileTree.sameShape_rewrite twoFiles _ _).locate_eq _).trans located
    rw [RuleDirectory.loadFile, FileTree.read_of_file (by decide +kernel) located' rfl]
    exact RuleModule.load_of_malformed (by decide +kernel)
  obtain ⟨-, -, others, -, -, -, -, verdicts⟩ := lint_isolated (.bytes [0xFF]) there located
  obtain ⟨-, -, -, -, -, same⟩ := verdicts config rfl
  refine ⟨there, located, ?_, broken, fun message => same message none ?_⟩
  · have alike : RuleDirectory.loadFile next (directory.child "a.py") =
        RuleDirectory.loadFile twoFiles (directory.child "a.py") := others "a.py" (by decide)
    rw [alike, loadA, first]
  · intro entry member rule brought
    cases List.mem_singleton.mp member
    have named : rule.rule.name = "second" := by
      have among : rule ∈ (failing "Second" "second").load.1 := by
        rcases List.mem_append.mp brought with before | after
        · exact loadB ▸ before
        · have none : rule ∈ (RuleDirectory.loadFile next (directory.child "b.py")).1 := after
          rw [broken] at none
          cases none
      have listed := List.mem_map_of_mem (f := fun rule : CustomRule => rule.rule.name) among
      rw [second] at listed
      exact List.mem_singleton.mp listed
    rw [named]
    simp

end Project

end CommitLint
