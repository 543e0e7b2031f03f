import CommitLint.CommandLine.Commands
import CommitLint.Proofs.Config.Rejection
import CommitLint.Proofs.FileTree.Searching
import CommitLint.Proofs.Yaml.Reading

/-!
# Loading configurations

The file of a configuration is looked for, read as text, read as a document
and laid over the default. A document of the wrong form or shape is told of
as an unusable configuration. Three things are not: a path that is too long,
bytes that are no text, and a document with a scalar or an escape that has no
value; these escape from the loading as they are.
-/

namespace CommitLint

namespace Config

/-- Where a configuration is looked for: the file that was asked for, or the names that the file
of a project can have. -/
def places (project : Path) (file : Option String) : List Path :=
  match file with
  | some name => [.ofText name]
  | none => fileNames.map project.child

section

variable (tree : FileTree) (project : Path) (file : Option String)

/-- The file of the configuration is at this path and has this content. -/
structure Finds (path : Path) (content : Content) : Prop where
  reached : tree.Reaches (places project file) path
  held : tree.Holds path content

/-- The file of the configuration is at this path and has this text. -/
def Reads (path : Path) (text : List Char) : Prop :=
  ∃ content, Finds tree project file path content ∧ FileTree.textOf content.toBytes = .ok text

/-- The configuration that there is: the default, or a map laid over it. -/
inductive Usable : Config → Prop where
  | absent (asked : file = none) (missed : ∀ path ∈ places project none, tree.Misses path) :
      Usable default
  | blank {path : Path} {text : List Char} (reads : Reads tree project file path text)
      (meant : Yaml.read text = .ok .null) : Usable default
  | laid {path : Path} {text : List Char} {entries : Entries} {config : Logged Config}
      (reads : Reads tree project file path text) (meant : Yaml.read text = .ok (.map entries))
      (accepted : overlay (.map entries) default = .ok config) : Usable config.value

/-- What escapes from the loading. -/
inductive Escapes : Failure → Prop where
  | length {path : Path} (reached : tree.Reaches (places project file) path)
      (refused : tree.Refuses path) : Escapes (.file (.system .nameTooLong path.text))
  | decoding {path : Path} {content : Content} {fault : Text.Utf8.Fault}
      (finds : Finds tree project file path content)
      (undecodable : Text.Utf8.decode content.toBytes = .error fault) : Escapes (.decoding fault)
  | scalar {path : Path} {text : List Char} {fault : Yaml.Fault}
      (reads : Reads tree project file path text) (failed : Yaml.read text = .error fault)
      (grave : fault ≠ .malformed) : Escapes (.scalar fault)

/-- The document that is read has no value that cannot be expressed here. -/
def IsWithin : Prop :=
  ∀ path text fault, Reads tree project file path text → Yaml.read text = .error fault →
    fault.isBeyond = false

/-- Why the configuration is told to be unusable. -/
inductive Unusable : ConfigFault → Prop where
  | missing {name : String} (asked : file = some name) (missed : tree.Misses (.ofText name)) :
      Unusable (.fileNotFound name)
  | malformed {path : Path} {text : List Char} (reads : Reads tree project file path text)
      (failed : Yaml.read text = .error .malformed) : Unusable (.invalidYaml path.text)
  | shape {path : Path} {text : List Char} {value : Value}
      (reads : Reads tree project file path text) (meant : Yaml.read text = .ok value)
      (present : value ≠ .null) (flat : ∀ entries, value ≠ .map entries) : Unusable .notMapping
  | rules {path : Path} {text : List Char} {entries : Entries} {rules : Value}
      (reads : Reads tree project file path text) (meant : Yaml.read text = .ok (.map entries))
      (named : entries.named? "rules" = some rules) (present : rules.isTrue = true)
      (flat : ∀ others, rules ≠ .map others) : Unusable .rulesNotMapping

end

variable {tree : FileTree} {project path : Path} {file : Option String}

/-- What is told of a path that a search comes to is the outcome, unless it is no file. -/
theorem findNamed_of_reaches {names : List String}
    (reached : tree.Reaches (names.map project.child) path) (told : tree.isFile path ≠ .ok false) :
    findNamed tree project names = (tree.isFile path).map fun _ => some path := by
  induction names with
  | nil => cases reached
  | cons name rest ih =>
      rw [findNamed]
      cases reached with
      | here =>
          cases answer : tree.isFile (project.child name) with
          | error fault => rfl
          | ok isFile =>
              cases isFile with
              | true => rfl
              | false => exact absurd answer told
      | later missed further =>
          rw [FileTree.isFile_of_misses missed]
          exact ih further

theorem findNamed_of_misses {names : List String}
    (missed : ∀ other ∈ names.map project.child, tree.Misses other) :
    findNamed tree project names = .ok none := by
  induction names with
  | nil => rfl
  | cons name rest ih =>
      obtain ⟨first, others⟩ := List.forall_mem_cons.mp missed
      rw [findNamed, FileTree.isFile_of_misses first]
      exact ih others

theorem choose_of_reaches (reached : tree.Reaches (places project file) path)
    (told : tree.isFile path ≠ .ok false) :
    choose tree project file = ((tree.isFile path).map fun _ => some path).mapError .file := by
  cases file with
  | none => rw [choose, find, findNamed_of_reaches reached told]
  | some name =>
      cases reached with
      | later missed further => cases further
      | here =>
          rw [choose]
          cases answer : tree.isFile (.ofText name) with
          | error fault => rfl
          | ok isFile =>
              cases isFile with
              | true => rfl
              | false => exact absurd answer told

theorem choose_of_finds {content : Content} (finds : Finds tree project file path content) :
    choose tree project file = .ok (some path) := by
  have answer := FileTree.isFile_of_holds finds.held
  rw [choose_of_reaches finds.reached (by rw [answer]; nofun), answer]
  rfl

theorem choose_of_refuses (reached : tree.Reaches (places project file) path)
    (refused : tree.Refuses path) :
    choose tree project file = .error (.file (.system .nameTooLong path.text)) := by
  have answer := FileTree.isFile_of_refuses refused
  rw [choose_of_reaches reached (by rw [answer]; nofun), answer]
  rfl

/-- What the value of a document makes of the default. -/
def overlaid (raw : Value) : Except Failure Config :=
  ((overlay raw default).mapError .config).map (·.value)

theorem readFile_of_holds {content : Content} (held : tree.Holds path content) :
    (readFile tree path).value =
      (FileTree.textOf content.toBytes >>= readText path) >>= overlaid := by
  simp only [readFile, FileTree.read_of_holds held, bind, Except.bind, Except.mapError]
  cases FileTree.textOf content.toBytes with
  | error failure => rfl
  | ok text =>
      dsimp only
      cases readText path text with
      | error failure => rfl
      | ok raw =>
          simp only [overlaid]
          cases overlay raw default with
          | error fault => rfl
          | ok config => rfl

section

variable {text : List Char}

theorem load_of_finds {content : Content} (finds : Finds tree project file path content) :
    (load tree project file).value =
      (FileTree.textOf content.toBytes >>= readText path) >>= overlaid := by
  rw [load, choose_of_finds finds]
  exact readFile_of_holds finds.held

theorem load_of_reads (reads : Reads tree project file path text) :
    (load tree project file).value = readText path text >>= overlaid := by
  obtain ⟨content, finds, decoded⟩ := reads
  rw [load_of_finds finds, decoded]
  rfl

/-- One file is read, with one text. -/
theorem Reads.unique {path' : Path} {text' : List Char} (reads : Reads tree project file path text)
    (other : Reads tree project file path' text') : path' = path ∧ text' = text := by
  obtain ⟨content, finds, decoded⟩ := reads
  obtain ⟨content', finds', decoded'⟩ := other
  cases (choose_of_finds finds).symm.trans (choose_of_finds finds')
  cases (FileTree.read_of_holds finds.held path.text).symm.trans
    (FileTree.read_of_holds finds'.held path.text)
  cases decoded.symm.trans decoded'
  exact ⟨rfl, rfl⟩

theorem isWithin_of_reads {fault : Yaml.Fault} (reads : Reads tree project file path text)
    (failed : Yaml.read text = .error fault) (expressed : fault.isBeyond = false) :
    IsWithin tree project file := by
  intro path' text' fault' reads' failed'
  obtain ⟨-, rfl⟩ := reads.unique reads'
  cases failed.symm.trans failed'
  exact expressed

theorem readText_of_fault {fault : Yaml.Fault} (failed : Yaml.read text = .error fault)
    (grave : fault ≠ .malformed) : readText path text = .error (.scalar fault) := by
  unfold readText
  rw [failed]
  cases fault with
  | malformed => exact absurd rfl grave
  | _ => rfl

theorem readText_of_value {value : Value} (meant : Yaml.read text = .ok value)
    (present : value ≠ .null) : readText path text = .ok value := by
  unfold readText
  rw [meant]
  cases value with
  | null => exact absurd rfl present
  | _ => rfl

/-- What escapes is the outcome. -/
theorem load_of_escapes {failure : Failure} (escapes : Escapes tree project file failure) :
    (load tree project file).value = .error failure := by
  cases escapes with
  | length reached refused =>
      rw [load, choose_of_refuses reached refused]
      rfl
  | decoding finds undecodable =>
      rw [load_of_finds finds, FileTree.textOf, undecodable]
      rfl
  | scalar reads failed grave =>
      rw [load_of_reads reads, readText_of_fault failed grave]
      rfl

theorem overlaid_of_rejected {value : Value} {fault : ConfigFault}
    (rejected : Rejected value fault) : overlaid value = .error (.config fault) := by
  rw [overlaid, overlay_of_rejected rejected]
  rfl

theorem load_of_unusable {fault : ConfigFault} (unusable : Unusable tree project file fault) :
    (load tree project file).value = .error (.config fault) := by
  cases unusable with
  | missing asked missed =>
      subst asked
      simp only [load, choose, FileTree.isFile_of_misses missed]
      rfl
  | malformed reads failed =>
      rw [load_of_reads reads, readText, failed]
      rfl
  | shape reads meant present flat =>
      rw [load_of_reads reads, readText_of_value meant present]
      exact overlaid_of_rejected (.shape flat)
  | rules reads meant named present flat =>
      rw [load_of_reads reads, readText_of_value meant nofun]
      exact overlaid_of_rejected (.rules named present flat)

/-- A map that is read and accepted is told of, and then what laying it over the default tells. -/
theorem load_of_laid {entries : Entries} {config : Logged Config}
    (reads : Reads tree project file path text) (meant : Yaml.read text = .ok (.map entries))
    (accepted : overlay (.map entries) default = .ok config) :
    load tree project file =
      ⟨.ok config.value, .loadingConfig path.text :: config.events⟩ := by
  obtain ⟨content, finds, decoded⟩ := reads
  rw [load, choose_of_finds finds]
  simp only [readFile, FileTree.read_of_holds finds.held, Except.mapError, bind, Except.bind,
    decoded, readText_of_value meant nofun, accepted]
  rfl

theorem load_of_misses (missed : ∀ other ∈ places project none, tree.Misses other) :
    load tree project none = .quiet (.ok default) := by
  have found : find tree project = .ok none := findNamed_of_misses missed
  rw [load, choose, found]
  rfl

theorem load_of_usable {config : Config} (usable : Usable tree project file config) :
    (load tree project file).value = .ok config := by
  cases usable with
  | absent asked missed =>
      subst asked
      rw [load_of_misses missed]
      rfl
  | blank reads meant =>
      rw [load_of_reads reads, readText, meant]
      rfl
  | laid reads meant accepted => rw [load_of_laid reads meant accepted]

theorem cases_of_value {value : Value} (reads : Reads tree project file path text)
    (meant : Yaml.read text = .ok value) :
    (∃ config, Usable tree project file config) ∨ ∃ fault, Unusable tree project file fault := by
  by_cases absent : value = .null
  · subst absent
    exact .inl ⟨_, .blank reads meant⟩
  · rcases overlay_cases value default with ⟨config, accepted⟩ | ⟨fault, rejected⟩
    · obtain ⟨entries, rfl⟩ := overlay_eq_ok accepted
      exact .inl ⟨_, .laid reads meant accepted⟩
    · cases rejected with
      | shape flat => exact .inr ⟨_, .shape reads meant absent flat⟩
      | rules named present flat => exact .inr ⟨_, .rules reads meant named present flat⟩

/-- A loading gives a configuration, tells that there is none to be used, or lets something
escape. -/
theorem load_cases (tree : FileTree) (project : Path) (file : Option String) :
    (∃ config, Usable tree project file config) ∨
      (∃ fault, Unusable tree project file fault) ∨
        ∃ failure, Escapes tree project file failure := by
  rcases tree.search_cases (places project file) with
    ⟨path, content, reached, held⟩ | ⟨path, reached, refused⟩ | missed
  · have finds : Finds tree project file path content := ⟨reached, held⟩
    cases decoded : Text.Utf8.decode content.toBytes with
    | error fault => exact .inr (.inr ⟨_, .decoding finds decoded⟩)
    | ok characters =>
        have reads : Reads tree project file path (Text.unifyNewlines characters) :=
          ⟨content, finds, by rw [FileTree.textOf, decoded]⟩
        cases meant : Yaml.read (Text.unifyNewlines characters) with
        | error fault =>
            by_cases form : fault = .malformed
            · subst form
              exact .inr (.inl ⟨_, .malformed reads meant⟩)
            · exact .inr (.inr ⟨_, .scalar reads meant form⟩)
        | ok value => exact (cases_of_value reads meant).imp_right .inl
  · exact .inr (.inr ⟨_, .length reached refused⟩)
  · cases file with
    | none => exact .inl ⟨_, .absent rfl missed⟩
    | some name =>
        have missed : tree.Misses (.ofText name) := missed _ List.mem_cons_self
        exact .inr (.inl ⟨_, .missing rfl missed⟩)

end

end Config

/-! ## What the command for linting answers -/

namespace Command

/-- The configuration that the library loads for the project of the words; a current directory that
is gone is none. -/
def loaded (world : World) (words : Words) : Logged (Except Failure Config) :=
  if world.hasProject words then
    Config.load world.tree (.ofText (world.project words)) (words.value? "--config")
  else .quiet (.error (.file (.unnamed .notFound)))

theorem loaded_of_hasProject {world : World} {words : Words}
    (there : world.hasProject words = true) :
    loaded world words =
      Config.load world.tree (.ofText (world.project words)) (words.value? "--config") :=
  if_pos there

/-- How the command ends where the configuration cannot be loaded. -/
def refuseConfig (world : World) (events : List Event) : Failure → Run
  | .config fault =>
      world.finish (logs events ++ [.err ("Invalid configuration: " ++ fault.message)]) 1
  | failure => world.fail (logs events) failure

section

variable [CharacterNames] {world : World} {words : Words} {message : String}
  (given : readMessage world Catalogue.lint (words.value? "--edit") words.arguments.head? =
    .ok message)

include given

/-- A message that is there is linted under the configuration, if that is there as well. -/
theorem lint_of_message :
    lint world words =
      match (loaded world words).value with
      | .error failure => refuseConfig world (loaded world words).events failure
      | .ok config =>
          (lintMessage world words config message).after (logs (loaded world words).events) := by
  cases there : world.hasProject words with
  | false =>
      rw [lint, World.inProject_of_not_hasProject there, loaded, if_neg (by simp [there])]
      rfl
  | true =>
      rw [lint, World.inProject_of_hasProject there, lintInProject, given,
        loaded_of_hasProject there]
      dsimp only
      cases (Config.load world.tree (.ofText (world.project words))
        (words.value? "--config")).value with
      | error failure => cases failure <;> rfl
      | ok config => rfl

theorem lint_of_unloaded {failure : Failure}
    (failed : (loaded world words).value = .error failure) :
    lint world words = refuseConfig world (loaded world words).events failure := by
  rw [lint_of_message given, failed]

end

end Command

namespace Config

/-- A tree with a configuration file of these bytes at its root. -/
def rooted (bytes : List UInt8) : FileTree :=
  ⟨[(["gitmsglint.yml"], .file (.bytes bytes) 0o644)], []⟩

theorem rooted_finds (bytes : List UInt8) :
    Finds (rooted bytes) (.ofText "/") none (.ofText "/gitmsglint.yml") (.bytes bytes) :=
  ⟨.here, by decide +kernel, 0o644, rfl⟩

theorem rooted_reads {text : String}
    (decoded : FileTree.textOf (Text.Utf8.encode text.toList) = .ok text.toList) :
    Reads (rooted (Text.Utf8.encode text.toList)) (.ofText "/") none (.ofText "/gitmsglint.yml")
      text.toList :=
  ⟨_, rooted_finds _, decoded⟩

/-- A message at the input, in a tree whose root is the working directory. -/
def offered (tree : FileTree) (message : String) : World :=
  ⟨tree, ⟨message, true⟩, false, ⟨none, some "/", none, ""⟩, .failed, {}⟩

end Config

end CommitLint
