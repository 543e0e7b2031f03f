import CommitLint.Project
import CommitLint.Proofs.FileTree.Shape
import CommitLint.Proofs.Text.LineEnds

/-!
# Trees with the same texts

Trees that differ only in how the lines of their texts end. A program that
reads files as texts cannot tell them apart: it finds the same configuration
in them, the same rules, and comes to the same result.
-/

namespace CommitLint

/-! ## The same texts -/

/-- Two contents are the same, or the bytes of texts that differ in their line ends alone. -/
inductive Content.SameText : Content → Content → Prop where
  | refl (content : Content) : SameText content content
  | bytes {first second : List UInt8} {text other : List Char}
      (decoded : Text.Utf8.decode first = .ok text) (decoded' : Text.Utf8.decode second = .ok other)
      (same : Text.unifyNewlines text = Text.unifyNewlines other) :
      SameText (.bytes first) (.bytes second)

inductive Entry.SameText : Entry → Entry → Prop where
  | directory : SameText .directory .directory
  | file {first second : Content} {mode : Nat} (same : first.SameText second) :
      SameText (.file first mode) (.file second mode)

theorem Entry.SameText.refl : ∀ entry : Entry, entry.SameText entry
  | .directory => .directory
  | .file content _ => .file (.refl content)

namespace FileTree

structure SameTexts (tree other : FileTree) : Prop where
  current : other.current = tree.current
  names : ∀ location, other.names location = tree.names location
  entries : ∀ location, Option.Rel Entry.SameText (tree.get? location) (other.get? location)

variable {tree other : FileTree}

namespace SameTexts

theorem sameShape (same : SameTexts tree other) : SameShape tree other := by
  refine ⟨same.current, same.names, fun location => ?_⟩
  have related := same.entries location
  generalize tree.get? location = held, other.get? location = held' at related ⊢
  cases related with
  | none => rfl
  | some related => cases related <;> rfl

/-- What is at a path, or why nothing is. -/
theorem entryAt_cases (same : SameTexts tree other) (path : Path) :
    (∃ error, tree.entryAt path = .error error ∧ other.entryAt path = .error error) ∨
      ∃ first second, first.SameText second ∧ tree.entryAt path = .ok first ∧
        other.entryAt path = .ok second := by
  simp only [entryAt, same.sameShape.locate_eq, bind, Except.bind]
  cases tree.locate path with
  | error error => exact .inl ⟨error, rfl, rfl⟩
  | ok location =>
      have related := same.entries location
      dsimp only
      generalize tree.get? location = held, other.get? location = held' at related ⊢
      cases related with
      | none => exact .inl ⟨.notFound, rfl, rfl⟩
      | some related => exact .inr ⟨_, _, related, rfl, rfl⟩

/-- A file is read as the same text from both, or cannot be read for the same reason. -/
theorem read_cases (same : SameTexts tree other) (path : Path) (named : String) :
    (∃ fault, tree.read path named = .error fault ∧ other.read path named = .error fault) ∨
      ∃ first second, first.SameText second ∧ tree.read path named = .ok first ∧
        other.read path named = .ok second := by
  unfold read
  split
  · exact .inl ⟨.nullByte, rfl, rfl⟩
  · rcases same.entryAt_cases path with
      ⟨error, first, second⟩ | ⟨entry, entry', related, first, second⟩
    · rw [first, second]
      exact .inl ⟨_, rfl, rfl⟩
    · rw [first, second]
      cases related with
      | directory => exact .inl ⟨_, rfl, rfl⟩
      | file related => exact .inr ⟨_, _, related, rfl, rfl⟩

end SameTexts

/-! ## Another content in a place -/

def withContent (content : Content) : Entry → Entry
  | .directory => .directory
  | .file _ mode => .file content mode

/-- The tree with another content of the file at a place. -/
def rewrite (tree : FileTree) (place : Location) (content : Content) : FileTree :=
  { tree with
    entries := tree.entries.map fun stored =>
      (stored.1, if stored.1 = place then withContent content stored.2 else stored.2) }

theorem get?_rewrite (tree : FileTree) (place : Location) (content : Content)
    (location : Location) :
    (tree.rewrite place content).get? location =
      (tree.get? location).map fun entry =>
        if location = place then withContent content entry else entry := by
  cases location with
  | nil =>
      change some Entry.directory = some (if [] = place then .directory else .directory)
      rw [ite_self]
  | cons part rest =>
      simp only [get?, rewrite]
      induction tree.entries with
      | nil => rfl
      | cons stored others ih =>
          obtain ⟨spot, entry⟩ := stored
          by_cases found : part :: rest = spot
          · simp [found]
          · have unequal : ((part :: rest) == spot) = false := by simp [found]
            simp only [List.map_cons, List.lookup_cons, unequal, ih]

theorem names_rewrite (tree : FileTree) (place : Location) (content : Content)
    (location : Location) : (tree.rewrite place content).names location = tree.names location := by
  simp only [names, rewrite, List.filterMap_map, Function.comp_def]

theorem isDirectory_withContent (content : Content) (entry : Entry) :
    (withContent content entry).isDirectory = entry.isDirectory := by
  cases entry <;> rfl

/-- Another content of a file leaves all files and directories where they are. -/
theorem sameShape_rewrite (tree : FileTree) (place : Location) (content : Content) :
    SameShape tree (tree.rewrite place content) := by
  refine ⟨rfl, names_rewrite tree place content, fun location => ?_⟩
  rw [get?_rewrite]
  cases tree.get? location with
  | none => rfl
  | some entry =>
      simp only [Option.map_some]
      split
      · rw [isDirectory_withContent]
      · rfl

theorem SameTexts.refl (tree : FileTree) : SameTexts tree tree := by
  refine ⟨rfl, fun _ => rfl, fun location => ?_⟩
  cases tree.get? location with
  | none => exact .none
  | some entry => exact .some (.refl entry)

/-- Another spelling of the text in one file makes a tree with the same texts. -/
theorem sameTexts_rewrite {place : Location} {content other : Content} {mode : Nat}
    (held : tree.get? place = some (.file content mode)) (same : content.SameText other) :
    SameTexts tree (tree.rewrite place other) := by
  refine ⟨rfl, names_rewrite tree place other, fun location => ?_⟩
  rw [get?_rewrite]
  by_cases on : location = place
  · subst on
    rw [held, Option.map_some, if_pos rfl]
    exact .some (.file same)
  · cases tree.get? location with
    | none => exact .none
    | some entry => simpa [on] using Entry.SameText.refl entry

/-! ## The same text is read -/

theorem textOf_eq {first second : Content} (same : first.SameText second) :
    textOf second.toBytes = textOf first.toBytes := by
  cases same with
  | refl => rfl
  | bytes decoded decoded' same => simp only [textOf, Content.toBytes, decoded, decoded', same]

end FileTree

/-! ## The same configuration -/

namespace Config

variable {tree other : FileTree}

theorem findNamed_eq (same : FileTree.SameTexts tree other) (project : Path)
    (names : List String) : findNamed other project names = findNamed tree project names := by
  induction names with
  | nil => rfl
  | cons name rest ih => simp only [findNamed, same.sameShape.isFile_eq, ih]

theorem choose_eq (same : FileTree.SameTexts tree other) (project : Path) (file : Option String) :
    choose other project file = choose tree project file := by
  cases file with
  | none => simp only [choose, find, findNamed_eq same]
  | some name => simp only [choose, same.sameShape.isFile_eq]

theorem readFile_eq (same : FileTree.SameTexts tree other) (path : Path) :
    readFile other path = readFile tree path := by
  unfold readFile
  rcases same.read_cases path path.text with
    ⟨fault, first, second⟩ | ⟨content, content', related, first, second⟩
  · rw [first, second]
  · rw [first, second]
    have passed (found : Content) : (Except.ok found).mapError Failure.file = .ok found := rfl
    simp only [passed, bind, Except.bind, FileTree.textOf_eq related]

theorem load_eq (same : FileTree.SameTexts tree other) (project : Path) (file : Option String) :
    load other project file = load tree project file := by
  simp only [load, choose_eq same, readFile_eq same]

end Config

/-! ## The same rules -/

namespace RuleDirectory

variable {tree other : FileTree}

theorem isEmptyText_congr {text again : List Char}
    (same : Text.unifyNewlines text = Text.unifyNewlines again) :
    isEmptyText again = isEmptyText text := by
  simp only [isEmptyText, same]

theorem contains_congr {c : Char} (inline : Text.IsInline c) {text again : List Char}
    (same : Text.unifyNewlines text = Text.unifyNewlines again) :
    again.contains c = text.contains c := by
  rw [Bool.eq_iff_iff, List.contains_iff_mem, List.contains_iff_mem,
    ← Text.mem_unifyNewlines_iff inline, ← same, Text.mem_unifyNewlines_iff inline]

/-- Whether the text of a file of rules is well formed, as far as it is looked at. -/
def isBlank (text : List Char) : Bool :=
  !text.contains '\x00' && isEmptyText text

theorem isBlank_congr {text again : List Char}
    (same : Text.unifyNewlines text = Text.unifyNewlines again) :
    isBlank again = isBlank text := by
  rw [isBlank, isBlank, isEmptyText_congr same, contains_congr ⟨by decide, by decide⟩ same]

/-- A text without the byte order mark in front. -/
def withoutMark : List Char → List Char
  | '\uFEFF' :: rest => rest
  | text => text

theorem unifyNewlines_withoutMark (text : List Char) :
    Text.unifyNewlines (withoutMark text) = withoutMark (Text.unifyNewlines text) := by
  have bare : ∀ {c rest}, c ≠ '\uFEFF' → withoutMark (c :: rest) = c :: rest :=
    fun apart => withoutMark.eq_2 _ fun _ same => apart (List.cons.inj same).1
  fun_cases Text.unifyNewlines text with
  | case1 => rfl
  | case2 rest => rw [bare (by decide), bare (by decide), Text.unifyNewlines]
  | case3 rest alone =>
      rw [bare (by decide), bare (by decide), Text.unifyNewlines]
      exact alone
  | case4 first rest =>
      by_cases marked : first = '\uFEFF'
      · subst marked
        rfl
      · rw [bare marked, bare marked, Text.unifyNewlines] <;> assumption

theorem ofBytes_of_decode {bytes : List UInt8} {text : List Char}
    (decoded : Text.Utf8.decode bytes = .ok text) :
    ofBytes bytes = { RuleModule.empty with wellFormed := isBlank (withoutMark text) } := by
  fun_cases withoutMark text with
  | case1 rest => simp only [ofBytes, decoded, isBlank]
  | case2 text bare =>
      unfold ofBytes
      rw [decoded]
      dsimp only
      split
      · next rest same => exact absurd (Except.ok.inj same) (bare rest)
      · next other _ same =>
          cases same
          rfl
      · next fault same => cases same

theorem ofBytes_eq {first second : List UInt8} {text again : List Char}
    (decoded : Text.Utf8.decode first = .ok text) (decoded' : Text.Utf8.decode second = .ok again)
    (same : Text.unifyNewlines text = Text.unifyNewlines again) :
    ofBytes second = ofBytes first := by
  have bare : Text.unifyNewlines (withoutMark text) = Text.unifyNewlines (withoutMark again) := by
    rw [unifyNewlines_withoutMark, same, unifyNewlines_withoutMark]
  rw [ofBytes_of_decode decoded, ofBytes_of_decode decoded', isBlank_congr bare]

theorem loadFile_eq (same : FileTree.SameTexts tree other) (path : Path) :
    loadFile other path = loadFile tree path := by
  unfold loadFile
  rcases same.read_cases path path.text with
    ⟨fault, first, second⟩ | ⟨content, content', related, first, second⟩
  · rw [first, second]
  · rw [first, second]
    cases related with
    | refl => rfl
    | bytes decoded decoded' same => simp only [ofBytes_eq decoded decoded' same]

theorem loadFiles_eq (same : FileTree.SameTexts tree other) (directory : Path)
    (names : List String) : loadFiles other directory names = loadFiles tree directory names := by
  induction names with
  | nil => rfl
  | cons name rest ih => simp only [loadFiles, loadFile_eq same, ih]

theorem loadNamed_eq (same : FileTree.SameTexts tree other) (project : Path) (name : Value) :
    loadNamed other project name = loadNamed tree project name := by
  unfold loadNamed
  split
  · simp only [load, same.sameShape.isDirectory_eq, same.sameShape.list_eq, loadFiles_eq same]
  · rfl

end RuleDirectory

/-! ## The same result -/

namespace Project

variable {tree other : FileTree}

theorem lintWith_eq [CharacterNames] (same : FileTree.SameTexts tree other) (project : Path)
    (config : Config) (message : String) (asked : Option Bool) :
    lintWith other project config message asked = lintWith tree project config message asked := by
  simp only [lintWith, rules, RuleDirectory.loadNamed_eq same]

end Project

end CommitLint
