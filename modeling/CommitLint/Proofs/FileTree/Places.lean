import CommitLint.FileTree.Access

/-!
# Places in a tree

Everything in a tree that is closed stands in a directory, so nothing is
below a file or below a free place. Storing or erasing one file keeps a tree
closed and changes nothing elsewhere. What a path leads to depends on the
directories alone.
-/

namespace CommitLint.FileTree

/-- Whatever is in the tree stands in a directory. -/
def IsClosed (tree : FileTree) : Prop :=
  ∀ location part, tree.get? (location ++ [part]) ≠ none → tree.get? location = some .directory

variable {tree other : FileTree} {location place : Location}

theorem IsClosed.above (closed : tree.IsClosed) {part : String} {rest : List String}
    (there : tree.get? (location ++ part :: rest) ≠ none) :
    tree.get? location = some .directory := by
  induction rest generalizing location part with
  | nil => exact closed location part there
  | cons next rest ih =>
      have directory : tree.get? (location ++ [part]) = some .directory := by
        apply ih
        rwa [List.append_assoc, List.singleton_append]
      exact closed location part (by simp [directory])

/-- Nothing is below a place without a directory. -/
theorem IsClosed.nothing_below (closed : tree.IsClosed)
    (flat : tree.get? location ≠ some .directory) (below : location <+: place)
    (apart : place ≠ location) : tree.get? place = none := by
  obtain ⟨rest, rfl⟩ := below
  cases rest with
  | nil => exact absurd (List.append_nil location) apart
  | cons part rest =>
      exact Classical.byContradiction fun there => flat (closed.above there)

/-! ## Storing and erasing a file -/

theorem insert_insert (tree : FileTree) (location : Location) (first second : Entry) :
    (tree.insert location first).insert location second = tree.insert location second := by
  simp [insert, List.filter_filter]

theorem get?_erase_of_flat (closed : tree.IsClosed)
    (flat : tree.get? location ≠ some .directory) (place : Location) :
    (tree.erase location).get? place = if place = location then none else tree.get? place := by
  cases place with
  | nil =>
      have apart : [] ≠ location := by
        rintro rfl
        exact flat rfl
      rw [if_neg apart]
      rfl
  | cons part rest =>
      rw [get?_erase tree location (List.cons_ne_nil part rest)]
      by_cases same : part :: rest = location
      · simp [same]
      · rw [if_neg same]
        split
        · next below =>
            exact (closed.nothing_below flat (List.isPrefixOf_iff_prefix.mp below) same).symm
        · rfl

/-- Where an entry is stored, something is seen. -/
theorem get?_ne_none_of_mem {stored : Location × Entry} (among : stored ∈ tree.entries) :
    tree.get? stored.1 ≠ none := by
  obtain ⟨place, entry⟩ := stored
  cases place with
  | nil => exact Option.some_ne_none _
  | cons part rest =>
      intro free
      have unequal := List.lookup_eq_none_iff.mp free _ among
      simp at unequal

/-- Erasing what was stored at a free place leaves the tree as it was. -/
theorem erase_insert_of_free (closed : tree.IsClosed) (free : tree.get? location = none)
    (entry : Entry) : (tree.insert location entry).erase location = tree := by
  have apart : ∀ stored ∈ tree.entries, ¬ location <+: stored.1 := by
    intro stored among below
    apply get?_ne_none_of_mem among
    by_cases same : stored.1 = location
    · rw [same, free]
    · exact closed.nothing_below (by simp [free]) below same
  have kept : tree.entries.filter (fun stored => !location.isPrefixOf stored.1) = tree.entries :=
    List.filter_eq_self.mpr fun stored among => by
      simpa [List.isPrefixOf_iff_prefix, ← Bool.not_eq_true] using apart stored among
  have others : tree.entries.filter (fun stored => stored.1 != location) = tree.entries :=
    List.filter_eq_self.mpr fun stored among => by
      have unequal : stored.1 ≠ location :=
        fun same => apart stored among (same ▸ List.prefix_refl _)
      simpa using unequal
  have own : location.isPrefixOf location = true :=
    List.isPrefixOf_iff_prefix.mpr (List.prefix_refl location)
  simp [erase, insert, others, kept, own]

/-- A tree stays closed when an entry is stored in a directory, but not over one. -/
theorem IsClosed.insert (closed : tree.IsClosed) {above : Location} {part : String}
    (directory : tree.get? above = some .directory)
    (flat : tree.get? (above ++ [part]) ≠ some .directory) (entry : Entry) :
    (tree.insert (above ++ [part]) entry).IsClosed := by
  intro location name there
  have overPlace : above ≠ above ++ [part] := by simp
  by_cases same : location ++ [name] = above ++ [part]
  · obtain ⟨rfl, -⟩ := List.append_inj' same rfl
    rw [get?_insert_of_ne tree _ overPlace, directory]
  · rw [get?_insert_of_ne tree _ same] at there
    have stands := closed location name there
    by_cases on : location = above ++ [part]
    · exact absurd (on ▸ stands) flat
    · rw [get?_insert_of_ne tree _ on, stands]

theorem IsClosed.erase (closed : tree.IsClosed)
    (flat : tree.get? location ≠ some .directory) : (tree.erase location).IsClosed := by
  intro place part there
  rw [get?_erase_of_flat closed flat] at there ⊢
  split at there
  · exact absurd rfl there
  · have stands := closed place part there
    by_cases on : place = location
    · exact absurd (on ▸ stands) flat
    · rw [if_neg on, stands]

theorem IsClosed.makeDirectoriesFrom (closed : tree.IsClosed) {above : Location}
    (directory : tree.get? above = some .directory) (names : List String) :
    (tree.makeDirectoriesFrom above names).IsClosed := by
  induction names generalizing tree above with
  | nil => exact closed
  | cons name rest ih =>
      rw [FileTree.makeDirectoriesFrom]
      by_cases there : tree.get? (above ++ [name]) = some .directory
      · rw [if_pos (by simp [isDirectoryAt, there])]
        exact ih closed there
      · have below : above ++ [name] ≠ [] := by simp
        have made : ¬ tree.isDirectoryAt (above ++ [name]) = true := by simp [isDirectoryAt]
        rw [if_neg made]
        exact ih (closed.insert directory there .directory)
          (get?_insert_self tree .directory below)

theorem initial_isClosed (current : Location) : (initial current).IsClosed := by
  have empty : (FileTree.mk [] current).IsClosed := by
    intro location part there
    have below : location ++ [part] ≠ [] := by simp
    obtain ⟨first, rest, named⟩ := List.exists_cons_of_ne_nil below
    rw [named] at there
    exact absurd rfl there
  exact empty.makeDirectoriesFrom rfl current

/-! ## Paths -/

/-- Two trees have the same directories and the same working directory. -/
structure SameDirectories (tree other : FileTree) : Prop where
  current : other.current = tree.current
  directories : ∀ location, other.get? location = some .directory ↔
    tree.get? location = some .directory

theorem SameDirectories.refl (tree : FileTree) : SameDirectories tree tree :=
  ⟨rfl, fun _ => Iff.rfl⟩

theorem SameDirectories.trans {last : FileTree} (first : SameDirectories tree other)
    (second : SameDirectories other last) : SameDirectories tree last :=
  ⟨second.current.trans first.current, fun location =>
    (second.directories location).trans (first.directories location)⟩

theorem SameDirectories.hasCurrent_eq (same : SameDirectories tree other) :
    other.hasCurrent = tree.hasCurrent := by
  rw [Bool.eq_iff_iff, hasCurrent_iff, hasCurrent_iff, same.current, same.directories]

theorem step_eq_ok_iff {part : String} :
    tree.step location part = .ok place ↔
      tree.get? location = some .directory ∧
        (if part = ".." then place = location.dropLast
          else part.utf8ByteSize ≤ nameLimit ∧ place = location ++ [part]) := by
  unfold step
  cases tree.get? location with
  | none => simp
  | some entry =>
      cases entry with
      | file content mode => simp
      | directory =>
          by_cases up : part = ".."
          · simp [up, @eq_comm _ place]
          · rw [← Nat.not_lt]
            by_cases long : nameLimit < part.utf8ByteSize
            · simp [up, long]
            · simp [up, long, @eq_comm _ place]

theorem SameDirectories.step_eq_ok_iff (same : SameDirectories tree other) {part : String} :
    other.step location part = .ok place ↔ tree.step location part = .ok place := by
  rw [FileTree.step_eq_ok_iff, FileTree.step_eq_ok_iff, same.directories]

theorem walk_cons_eq_ok_iff {part : String} {rest : List String} :
    tree.walk location (part :: rest) = .ok place ↔
      ∃ next, tree.step location part = .ok next ∧ tree.walk next rest = .ok place := by
  rw [walk]
  cases tree.step location part with
  | error error => simp [bind, Except.bind]
  | ok next => simp [bind, Except.bind]

theorem walk_append_eq_ok_iff {first second : List String} :
    tree.walk location (first ++ second) = .ok place ↔
      ∃ next, tree.walk location first = .ok next ∧ tree.walk next second = .ok place := by
  induction first generalizing location with
  | nil => simp [walk]
  | cons part first ih =>
      simp only [List.cons_append, walk_cons_eq_ok_iff, ih]
      constructor
      · rintro ⟨next, stepped, middle, walked, rest⟩
        exact ⟨middle, ⟨next, stepped, walked⟩, rest⟩
      · rintro ⟨middle, ⟨next, stepped, walked⟩, rest⟩
        exact ⟨next, stepped, middle, walked, rest⟩

theorem SameDirectories.walk_eq_ok_iff (same : SameDirectories tree other) {parts : List String} :
    other.walk location parts = .ok place ↔ tree.walk location parts = .ok place := by
  induction parts generalizing location with
  | nil => rfl
  | cons part rest ih => simp only [walk_cons_eq_ok_iff, same.step_eq_ok_iff, ih]

theorem locate_eq_ok_iff {path : Path} :
    tree.locate path = .ok place ↔ path.text.utf8ByteSize ≤ pathLimit ∧
      tree.walk (if path.isAbsolute then [] else tree.current) path.parts = .ok place := by
  rw [locate]
  split
  · next long => simp [Nat.not_le.mpr long]
  · next short => simp [Nat.le_of_not_lt short]

/-- What a path leads to depends on the directories alone. -/
theorem SameDirectories.locate_eq_ok_iff (same : SameDirectories tree other) {path : Path} :
    other.locate path = .ok place ↔ tree.locate path = .ok place := by
  rw [FileTree.locate_eq_ok_iff, FileTree.locate_eq_ok_iff, same.current, same.walk_eq_ok_iff]

theorem locate_child_eq_ok_iff {path : Path} {name : String} :
    tree.locate (path.child name) = .ok place ↔
      (path.child name).text.utf8ByteSize ≤ pathLimit ∧
        ∃ above, tree.walk (if path.isAbsolute then [] else tree.current) path.parts =
          .ok above ∧ tree.step above name = .ok place := by
  have last : ∀ above, tree.walk above [name] = tree.step above name := by
    intro above
    rw [walk]
    cases tree.step above name <;> rfl
  rw [locate_eq_ok_iff]
  refine and_congr_right fun _ => ?_
  change tree.walk _ (path.parts ++ [name]) = _ ↔ _
  simp only [walk_append_eq_ok_iff, last]
  rfl

/-- A path that ends with a name leads to a place of that name in a directory. -/
theorem locate_child_eq_ok {path : Path} {part : String} (down : part ≠ "..")
    (located : tree.locate (path.child part) = .ok place) :
    ∃ above, tree.get? above = some .directory ∧ place = above ++ [part] := by
  obtain ⟨-, above, -, stepped⟩ := locate_child_eq_ok_iff.mp located
  rw [step_eq_ok_iff, if_neg down] at stepped
  exact ⟨above, stepped.1, stepped.2.2⟩

/-- A place that is no directory is not the root. -/
theorem ne_nil_of_flat (flat : tree.get? place ≠ some .directory) : place ≠ [] := by
  rintro rfl
  exact flat rfl

theorem flat_of_free (free : tree.get? place = none) : tree.get? place ≠ some .directory := by
  simp [free]

theorem get?_insert_of_flat (flat : tree.get? place ≠ some .directory) (entry : Entry) :
    (tree.insert place entry).get? place = some entry :=
  get?_insert_self tree entry (ne_nil_of_flat flat)

theorem sameDirectories_insert_file (flat : tree.get? place ≠ some .directory) (content : Content)
    (mode : Nat) : SameDirectories tree (tree.insert place (.file content mode)) := by
  refine ⟨rfl, fun location => ?_⟩
  by_cases on : location = place
  · simp [on, get?_insert_of_flat flat, flat]
  · rw [get?_insert_of_ne tree _ on]

theorem sameDirectories_erase_file (closed : tree.IsClosed)
    (flat : tree.get? place ≠ some .directory) : SameDirectories tree (tree.erase place) := by
  refine ⟨rfl, fun location => ?_⟩
  rw [get?_erase_of_flat closed flat]
  by_cases on : location = place
  · simp [on, flat]
  · rw [if_neg on]

/-! ## Access by path -/

variable {path : Path} {content : Content} {mode : Nat}

theorem isThere_of_locate (whole : path.hasNull = false) (located : tree.locate path = .ok place) :
    tree.isThere path = .ok (tree.get? place).isSome := by
  cases held : tree.get? place with
  | none => simp [isThere, test, entryAt, whole, located, held, bind, Except.bind]
  | some entry => simp [isThere, test, entryAt, whole, located, held, bind, Except.bind]

theorem isThere_eq_true_iff :
    tree.isThere path = .ok true ↔
      path.hasNull = false ∧
        ∃ place entry, tree.locate path = .ok place ∧ tree.get? place = some entry := by
  constructor
  · intro there
    have whole : path.hasNull = false := by
      cases null : path.hasNull with
      | false => rfl
      | true => simp [isThere, test, null] at there
    refine ⟨whole, ?_⟩
    cases located : tree.locate path with
    | error error =>
        simp only [isThere, test, entryAt, whole, located, bind, Except.bind] at there
        cases error <;> cases there
    | ok place =>
        rw [isThere_of_locate whole located] at there
        obtain ⟨entry, held⟩ := Option.isSome_iff_exists.mp (Except.ok.inj there)
        exact ⟨place, entry, rfl, held⟩
  · rintro ⟨whole, place, entry, located, held⟩
    rw [isThere_of_locate whole located, held, Option.isSome_some]

theorem read_of_file (whole : path.hasNull = false) (located : tree.locate path = .ok place)
    (held : tree.get? place = some (.file content mode)) (shown : String) :
    tree.read path shown = .ok content := by
  simp [read, entryAt, whole, located, held, bind, Except.bind]

theorem write_of_flat (whole : path.hasNull = false) (located : tree.locate path = .ok place)
    (flat : tree.get? place ≠ some .directory) (shown : String) (content : Content) :
    ∃ mode, tree.write path shown content = .ok (tree.insert place (.file content mode)) := by
  cases held : tree.get? place with
  | none => exact ⟨0o644, by simp [write, whole, located, held]⟩
  | some entry =>
      cases entry with
      | directory => exact absurd held flat
      | file _ mode => exact ⟨mode, by simp [write, whole, located, held]⟩

/-- A file that has just been stored is stored again with its mode. -/
theorem write_insert (whole : path.hasNull = false) (located : tree.locate path = .ok place)
    (flat : tree.get? place ≠ some .directory) (shown : String) (first second : Content)
    (mode : Nat) :
    (tree.insert place (.file first mode)).write path shown second =
      .ok (tree.insert place (.file second mode)) := by
  have there := (sameDirectories_insert_file flat first mode).locate_eq_ok_iff.mpr located
  simp [write, whole, there, get?_insert_of_flat flat, insert_insert]

theorem write_cases {shown : String} {next : FileTree}
    (written : tree.write path shown content = .ok next) :
    path.hasNull = false ∧ ∃ place mode, tree.locate path = .ok place ∧
      tree.get? place ≠ some .directory ∧ next = tree.insert place (.file content mode) := by
  rw [write] at written
  split at written
  · cases written
  · next whole =>
      refine ⟨by simpa using whole, ?_⟩
      split at written
      · cases written
      · next place located =>
          split at written
          · cases written
          · next mode held => exact ⟨place, mode, located, by simp [held], by cases written; rfl⟩
          · next held => exact ⟨place, 0o644, located, by simp [held], by cases written; rfl⟩

theorem setMode_insert (located : tree.locate path = .ok place)
    (flat : tree.get? place ≠ some .directory) (content : Content) (first second : Nat) :
    (tree.insert place (.file content first)).setMode path second =
      tree.insert place (.file content second) := by
  have there := (sameDirectories_insert_file flat content first).locate_eq_ok_iff.mpr located
  simp only [setMode, there, get?_insert_of_flat flat, insert_insert]

end CommitLint.FileTree
