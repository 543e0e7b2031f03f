import CommitLint.Proofs.CommandLine.Linting
import CommitLint.Proofs.FileTree.PathSizes
import CommitLint.Proofs.FileTree.Places

/-!
# What starting a project leaves

Where the project is a directory, the command that starts it either makes the
starter file, and changes nothing else, or says that something is there, and
changes nothing at all. Where it is none, or the current directory is meant
and gone, the file cannot be opened: nothing is changed and nothing said, but
the fault is not caught.
-/

namespace CommitLint

/-! ## Names in a directory -/

namespace FileTree

variable {tree : FileTree} {path : Path} {name : String} {above place : Location}

/-- A name leads into the directory that its path leads to. -/
theorem locate_child (down : name ≠ "..") (short : name.utf8ByteSize ≤ nameLimit)
    (fits : (path.child name).text.utf8ByteSize ≤ pathLimit)
    (located : tree.locate path = .ok above) (directory : tree.get? above = some .directory) :
    tree.locate (path.child name) = .ok (above ++ [name]) := by
  obtain ⟨-, walked⟩ := locate_eq_ok_iff.mp located
  refine locate_child_eq_ok_iff.mpr ⟨fits, above, walked, step_eq_ok_iff.mpr ⟨directory, ?_⟩⟩
  rw [if_neg down]
  exact ⟨short, rfl⟩

/-- Only in a directory a name leads to a place. -/
theorem locate_of_locate_child (named : name ≠ "")
    (located : tree.locate (path.child name) = .ok place) :
    ∃ above, tree.locate path = .ok above ∧ tree.get? above = some .directory := by
  obtain ⟨fits, above, walked, stepped⟩ := locate_child_eq_ok_iff.mp located
  obtain ⟨directory, -⟩ := step_eq_ok_iff.mp stepped
  have short := (Path.utf8ByteSize_le_child named path).trans fits
  exact ⟨above, locate_eq_ok_iff.mpr ⟨short, walked⟩, directory⟩

end FileTree

/-! ## The starter file -/

theorem Surroundings.answer?_ne_empty {answer : Option String} {text : String}
    (found : answer? answer = some text) : text ≠ "" := by
  unfold answer? at found
  split at found
  · cases found
  · next present =>
      rintro rfl
      exact present found

theorem World.project_ne_empty (world : World) (words : Words) : world.project words ≠ "" := by
  rw [World.project]
  cases found : Surroundings.answer? (words.value? "--project-dir") with
  | some given => exact Surroundings.answer?_ne_empty found
  | none => simp [World.here, Path.text]

namespace Command

variable {world : World} {words : Words} {above : Location} {tree : FileTree} {name : String}
  {fault : FileFault}

theorem ofText_nameIn {directory : String} (given : directory ≠ "")
    (flat : '/' ∉ name.toList) (named : Path.isPart name.toList = true) :
    Path.ofText (nameIn directory name) = (Path.ofText directory).child name := by
  rw [nameIn]
  cases ends : directory.endsWith "/" with
  | true => exact Path.ofText_append given flat named ends
  | false => exact Path.ofText_append_slash given flat named ends

/-- Where the starter file of a project is. -/
def starterPath (world : World) (words : Words) : Path :=
  (Path.ofText (world.project words)).child "gitmsglint.yml"

/-- The name that the command has for it. -/
def starterName (world : World) (words : Words) : String :=
  nameIn (world.project words) "gitmsglint.yml"

def starterContent : Content :=
  .bytes (Text.Utf8.encode Config.template.toList)

theorem ofText_starterName (world : World) (words : Words) :
    Path.ofText (starterName world words) = starterPath world words :=
  ofText_nameIn (world.project_ne_empty words) (by decide) (by decide)

theorem starterName_ne_empty (world : World) (words : Words) : starterName world words ≠ "" := by
  rw [starterName, nameIn]
  split <;> simp [String.append_eq_empty_iff]

theorem hasNull_starterPath (world : World) (words : Words) :
    (starterPath world words).hasNull = (Path.ofText (world.project words)).hasNull := by
  have plain : ["gitmsglint.yml"].any (fun part => part.toList.contains '\x00') = false := by
    decide
  rw [starterPath, Path.hasNull, Path.child, List.any_append, plain, Bool.or_false, Path.hasNull]

/-- The project is a directory at a place, and the name of its starter file is not too long. -/
structure HasRoom (world : World) (words : Words) (above : Location) : Prop where
  there : world.hasProject words = true
  whole : (Path.ofText (world.project words)).hasNull = false
  located : world.tree.locate (.ofText (world.project words)) = .ok above
  directory : world.tree.get? above = some .directory
  fitting : fits (starterName world words) = true

/-- Why no file can be opened under a name: no system takes it, or it leads nowhere. -/
inductive Misplaced (tree : FileTree) (name : String) : FileFault → Prop where
  | broken (null : (Path.ofText name).hasNull = true) : Misplaced tree name .nullByte
  | overlong (whole : (Path.ofText name).hasNull = false) (long : fits name = false) :
      Misplaced tree name (.system .nameTooLong name)
  | lost {error : SystemError} (whole : (Path.ofText name).hasNull = false)
      (fitting : fits name = true) (refused : tree.locate (.ofText name) = .error error) :
      Misplaced tree name (.system error name)

/-- Why the starter file cannot be opened: the current directory is gone, or the name of the file
is none to open a file under. -/
inductive Roomless (world : World) (words : Words) : FileFault → Prop where
  | gone (nowhere : world.hasProject words = false) : Roomless world words (.unnamed .notFound)
  | misplaced {fault : FileFault} (there : world.hasProject words = true)
      (misplaced : Misplaced world.tree (starterName world words) fault) :
      Roomless world words fault

theorem HasRoom.locate (room : HasRoom world words above) :
    world.tree.locate (starterPath world words) = .ok (above ++ ["gitmsglint.yml"]) := by
  have fits : (starterPath world words).text.utf8ByteSize ≤ FileTree.pathLimit := by
    have name := Path.utf8ByteSize_ofText_le (starterName_ne_empty world words)
    rw [ofText_starterName] at name
    exact name.trans (of_decide_eq_true room.fitting)
  exact FileTree.locate_child (by decide) (by decide) fits room.located room.directory

theorem exists_hasRoom {place : Location} (there : world.hasProject words = true)
    (whole : (starterPath world words).hasNull = false)
    (fitting : fits (starterName world words) = true)
    (located : world.tree.locate (starterPath world words) = .ok place) :
    ∃ above, HasRoom world words above := by
  obtain ⟨above, found, directory⟩ := FileTree.locate_of_locate_child (by decide) located
  exact ⟨above, there, (hasNull_starterPath world words).symm.trans whole, found, directory,
    fitting⟩

/-! ## What the command does -/

/-- The command finds something at the place of the starter file, or makes it, or has no place. -/
inductive InitEffect (world : World) (words : Words) : Run → Prop where
  | present {above : Location} {entry : Entry} (room : HasRoom world words above)
      (held : world.tree.get? (above ++ ["gitmsglint.yml"]) = some entry) :
      InitEffect world words
        (world.finish [.err (starterName world words ++ " already exists")] 1)
  | created {above : Location} (room : HasRoom world words above)
      (free : world.tree.get? (above ++ ["gitmsglint.yml"]) = none) :
      InitEffect world words
        ⟨[.out ("Created " ++ starterName world words)], .ok 0,
          world.tree.insert (above ++ ["gitmsglint.yml"]) (.file starterContent 0o644)⟩
  | failed {fault : FileFault} (none : ∀ above, ¬ HasRoom world words above)
      (roomless : Roomless world words fault) :
      InitEffect world words (world.fail [] (.file fault))

theorem isTaken_of_hasRoom (room : HasRoom world words above) :
    isTaken world.tree (starterName world words) =
      (world.tree.get? (above ++ ["gitmsglint.yml"])).isSome := by
  have whole := (hasNull_starterPath world words).trans room.whole
  rw [isTaken, ofText_starterName, FileTree.isThere_of_locate whole room.locate, room.fitting]
  exact Bool.true_and _

theorem writeAt_of_hasRoom (room : HasRoom world words above)
    (free : world.tree.get? (above ++ ["gitmsglint.yml"]) = none) (content : Content) :
    writeAt world.tree (starterName world words) content =
      .ok (world.tree.insert (above ++ ["gitmsglint.yml"]) (.file content 0o644)) := by
  have whole := (hasNull_starterPath world words).trans room.whole
  rw [writeAt, room.fitting, ofText_starterName]
  simp [FileTree.write, whole, room.locate, free]

/-- Nothing is found under a name that leads nowhere. -/
theorem Misplaced.isTaken_eq (misplaced : Misplaced tree name fault) :
    isTaken tree name = false := by
  cases misplaced with
  | broken null => simp [isTaken, FileTree.isThere, FileTree.test, null]
  | overlong whole long =>
      rw [isTaken, long]
      split <;> rfl
  | @lost error whole fitting refused =>
      have nowhere : tree.entryAt (.ofText name) = .error error := by
        rw [FileTree.entryAt, refused]
        rfl
      rw [isTaken, FileTree.isThere, FileTree.test, whole, nowhere]
      cases error <;> simp

theorem Misplaced.writeAt_eq (misplaced : Misplaced tree name fault) (content : Content) :
    writeAt tree name content = .error fault := by
  cases misplaced with
  | broken null => simp [writeAt, FileTree.write, null]
  | overlong whole long => simp [writeAt, whole, long]
  | lost whole fitting refused => simp [writeAt, FileTree.write, whole, fitting, refused]

theorem exists_misplaced (there : world.hasProject words = true)
    (roomless : ∀ above, ¬ HasRoom world words above) :
    ∃ fault, Misplaced world.tree (starterName world words) fault := by
  have path := ofText_starterName world words
  cases null : (Path.ofText (starterName world words)).hasNull with
  | true => exact ⟨_, .broken null⟩
  | false =>
      cases fitting : fits (starterName world words) with
      | false => exact ⟨_, .overlong null fitting⟩
      | true =>
          cases located : world.tree.locate (.ofText (starterName world words)) with
          | error error => exact ⟨_, .lost null fitting located⟩
          | ok place =>
              obtain ⟨above, room⟩ := exists_hasRoom there (path ▸ null) fitting (path ▸ located)
              exact absurd room (roomless above)

theorem init_effect (world : World) (words : Words) :
    InitEffect world words (init world words) := by
  rw [init]
  cases there : world.hasProject words with
  | false =>
      rw [World.inProject_of_not_hasProject there]
      exact .failed (fun _ room => Bool.false_ne_true (there.symm.trans room.there)) (.gone there)
  | true =>
      rw [World.inProject_of_hasProject there, createConfig, ← starterName, ← starterContent]
      by_cases room : ∃ above, HasRoom world words above
      · obtain ⟨above, room⟩ := room
        rw [isTaken_of_hasRoom room]
        cases held : world.tree.get? (above ++ ["gitmsglint.yml"]) with
        | some entry => exact .present room held
        | none =>
            rw [writeAt_of_hasRoom room held]
            exact .created room held
      · have none := not_exists.mp room
        obtain ⟨fault, misplaced⟩ := exists_misplaced there none
        rw [misplaced.isTaken_eq, misplaced.writeAt_eq]
        exact .failed none (.misplaced there misplaced)

/-! ## What is there afterwards -/

theorem HasRoom.unique {other : Location} (room : HasRoom world words above)
    (again : HasRoom world words other) : other = above :=
  Except.ok.inj (again.located.symm.trans room.located)

/-- The same directories leave the same room. -/
theorem HasRoom.of_sameDirectories (same : FileTree.SameDirectories world.tree tree)
    (room : HasRoom world words above) :
    HasRoom { world with tree } words above := by
  have project : World.project { world with tree } words = world.project words := by
    simp only [World.project, World.here, same.current]
  have there : World.hasProject { world with tree } words = world.hasProject words := by
    simp only [World.hasProject, same.hasCurrent_eq]
  refine ⟨there.trans room.there, project ▸ room.whole, ?_,
    (same.directories above).mpr room.directory, ?_⟩
  · exact project ▸ same.locate_eq_ok_iff.mpr room.located
  · rw [starterName, project]
    exact room.fitting

theorem init_of_held {entry : Entry} (room : HasRoom world words above)
    (held : world.tree.get? (above ++ ["gitmsglint.yml"]) = some entry) :
    init world words = world.finish [.err (starterName world words ++ " already exists")] 1 := by
  have taken : isTaken world.tree (starterName world words) = true := by
    rw [isTaken_of_hasRoom room, held, Option.isSome_some]
  rw [init, World.inProject_of_hasProject room.there, createConfig, ← starterName, if_pos taken]

/-- Whatever the command did, it keeps all that was there, and the directories. -/
theorem InitEffect.keeps {run : Run} (effect : InitEffect world words run) :
    FileTree.SameDirectories world.tree run.tree ∧
      ∀ place entry, world.tree.get? place = some entry → run.tree.get? place = some entry := by
  cases effect with
  | present room held => exact ⟨.refl world.tree, fun _ _ there => there⟩
  | failed none roomless => exact ⟨.refl world.tree, fun _ _ there => there⟩
  | created room free =>
      refine ⟨FileTree.sameDirectories_insert_file (FileTree.flat_of_free free) _ _, ?_⟩
      intro place entry there
      rw [FileTree.get?_insert_of_ne world.tree _ fun same => ?_, there]
      rw [same, free] at there
      cases there

/-- With room there is something at the place of the starter file afterwards. -/
theorem InitEffect.holds {run : Run} (effect : InitEffect world words run)
    (room : HasRoom world words above) :
    ∃ entry, run.tree.get? (above ++ ["gitmsglint.yml"]) = some entry := by
  cases effect with
  | present room' held =>
      cases room.unique room'
      exact ⟨_, held⟩
  | created room' free =>
      cases room.unique room'
      exact ⟨_, FileTree.get?_insert_of_flat (FileTree.flat_of_free free) _⟩
  | failed none roomless => exact absurd room (none above)

/-- The words that name the same directory, in whatever way, find it taken afterwards. -/
theorem InitEffect.init_again {run : Run} {words' : Words} (effect : InitEffect world words run)
    (room : HasRoom world words above) (room' : HasRoom world words' above) :
    init { world with tree := run.tree } words' =
      ⟨[.err (starterName { world with tree := run.tree } words' ++ " already exists")], .ok 1,
        run.tree⟩ := by
  obtain ⟨same, -⟩ := effect.keeps
  obtain ⟨entry, held⟩ := effect.holds room
  exact init_of_held (room'.of_sameDirectories same) held

/-- The refusal is shown behind the name, whatever is taken out of the name. -/
theorem stderr_present (world : World) (name : String) (weight : Nat) :
    (world.finish [.err (name ++ " already exists")] 1).stderr weight =
      Terminal.shown name ++ " already exists\n" := by
  have said : (world.finish [.err (name ++ " already exists")] 1).stderr weight =
      Emission.line (name ++ " already exists") := by
    simp [Run.stderr, World.finish, Emission.onErr]
  have plain : Terminal.shown " already exists" = " already exists" :=
    Terminal.shown_of_no_code (by decide)
  rw [said, Emission.line_eq, Terminal.shown_append_of_break Terminal.isBreak_space rfl, plain,
    String.append_assoc]
  rfl

end Command

namespace Program

section

variable [CharacterNames] {world : World} {level : Option String} {words : Words}
  {arguments : List String}

/--
The command ends with status zero or one exactly where the project is a
directory and the name of its starter file is not too long. With zero nothing
was at the place of the starter file, which is there now, with the template,
and is all that has changed. With one something was there, which is said, and
nothing has changed. Either way the command, called again for the same
directory, ends with one and changes nothing. Everywhere else it fails, since
the file cannot be opened, and says and changes nothing. What was there before
is never altered.
-/
theorem run_init_outcome (starts : Starts level Catalogue.init words arguments) :
    let said := run world level arguments
    let name := Command.starterName world words
    ((said.ending = .ok 0 ∨ said.ending = .ok 1) ↔
      ∃ above, Command.HasRoom world words above) ∧
    (∀ above, Command.HasRoom world words above →
      let place := above ++ ["gitmsglint.yml"]
      (said.ending = .ok 0 → world.tree.get? place = none ∧
        said.tree.get? place =
          some (.file (.bytes (Text.Utf8.encode Config.template.toList)) 0o644) ∧
        said.tree.current = world.tree.current ∧
        ∀ other, other ≠ place → said.tree.get? other = world.tree.get? other) ∧
      (said.ending = .ok 1 → (∃ entry, world.tree.get? place = some entry) ∧
        said.tree = world.tree ∧
        ∀ weight, said.stderr weight = Terminal.shown name ++ " already exists\n") ∧
      ∀ level' words' arguments', Starts level' Catalogue.init words' arguments' →
        Command.HasRoom world words' above →
        let again := run { world with tree := said.tree } level' arguments'
        again.ending = .ok 1 ∧ again.tree = said.tree) ∧
    ((∀ above, ¬ Command.HasRoom world words above) →
      ∃ fault, Command.Roomless world words fault ∧ said = world.fail [] (.file fault)) ∧
    ∀ place entry, world.tree.get? place = some entry → said.tree.get? place = some entry := by
  intro said name
  have listed : (Catalogue.init, Command.init) ∈ Command.all := by simp [Command.all]
  have effect : Command.InitEffect world words said := by
    have ran : said = Command.init world words := run_of_starts listed starts
    exact ran ▸ Command.init_effect world words
  refine ⟨?status, fun above room => ⟨?zero, ?one, ?again⟩, ?roomless, effect.keeps.2⟩
  case again =>
    intro level' words' arguments' starts' room'
    dsimp only
    rw [run_of_starts listed starts', effect.init_again room room']
    exact ⟨rfl, rfl⟩
  all_goals clear_value said
  case status =>
    cases effect with
    | present room held => exact iff_of_true (.inr rfl) ⟨_, room⟩
    | created room free => exact iff_of_true (.inl rfl) ⟨_, room⟩
    | failed none roomless =>
        refine iff_of_false ?_ (not_exists.mpr none)
        rintro (ended | ended) <;> cases ended
  case zero =>
    intro ended
    cases effect with
    | present room' held => cases ended
    | failed none roomless => cases ended
    | created room' free =>
        cases room.unique room'
        exact ⟨free, FileTree.get?_insert_of_flat (FileTree.flat_of_free free) _, rfl,
          fun _ apart => FileTree.get?_insert_of_ne world.tree _ apart⟩
  case one =>
    intro ended
    cases effect with
    | created room' free => cases ended
    | failed none roomless => cases ended
    | present room' held =>
        cases room.unique room'
        exact ⟨⟨_, held⟩, rfl, Command.stderr_present world name⟩
  case roomless =>
    intro none
    cases effect with
    | present room held => exact absurd room (none _)
    | created room free => exact absurd room (none _)
    | failed _ roomless => exact ⟨_, roomless, rfl⟩

end

open CharacterNames in
/-- The file is made, and then it is there, even if the directory is named in another way. -/
theorem run_init_outcome_twice :
    let world := piped ""
    let said := run world none ["init"]
    let again := run { world with tree := said.tree } none ["init", "--project-dir", "./"]
    said.ending = .ok 0 ∧
      said.tree.get? ["gitmsglint.yml"] =
        some (.file (.bytes (Text.Utf8.encode Config.template.toList)) 0o644) ∧
      (∀ other, other ≠ ["gitmsglint.yml"] → said.tree.get? other = world.tree.get? other) ∧
      again.ending = .ok 1 ∧ again.tree = said.tree := by
  intro world said again
  have starts : Starts none Catalogue.init ⟨[], []⟩ ["init"] :=
    ⟨⟨_, rfl⟩, ⟨_, .direct, rfl⟩, by decide, rfl⟩
  have starts' : Starts none Catalogue.init ⟨[⟨"--project-dir", some "./"⟩], []⟩
      ["init", "--project-dir", "./"] :=
    ⟨⟨_, rfl⟩, ⟨_, .direct, by decide +kernel⟩, by decide, rfl⟩
  have room : Command.HasRoom world ⟨[], []⟩ [] :=
    ⟨rfl, by decide +kernel, by decide +kernel, rfl, by decide +kernel⟩
  have room' : Command.HasRoom world ⟨[⟨"--project-dir", some "./"⟩], []⟩ [] :=
    ⟨rfl, by decide +kernel, by decide +kernel, rfl, by decide +kernel⟩
  have ended : said.ending = .ok 0 := by decide +kernel
  obtain ⟨-, there, -, -⟩ := @run_init_outcome _ world _ _ _ starts
  obtain ⟨made, -, twice⟩ := there [] room
  obtain ⟨-, held, -, spared⟩ := made ended
  obtain ⟨refused, same⟩ := twice none _ _ starts' room'
  exact ⟨ended, held, spared, refused, same⟩

open CharacterNames in
/-- Without the directory the file cannot be opened, which the command does not expect. -/
theorem run_init_missing :
    let arguments := ["init", "--project-dir", "missing"]
    (run (piped "") none arguments).ending =
      .error (.file (.system .notFound "missing/gitmsglint.yml")) := by
  decide +kernel

end Program

end CommitLint
