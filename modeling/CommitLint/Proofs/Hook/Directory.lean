import CommitLint.Hook.Directory
import CommitLint.Proofs.FileTree.Destinations
import CommitLint.Proofs.Text.Trim

/-!
# The directory that the repository names

The answer of the repository is taken without the blanks around it, and its
path is seen from the project. What comes out is the normal form of the text
that is left, so it is that of the text itself whenever the text neither
begins nor ends with a blank. Nothing comes out where nothing was said, and no
answer at all where what was said is no text, or where a relative path starts
from a working directory that is gone.
-/

namespace CommitLint

namespace Path

variable {tree : FileTree} {project text : String} {path : Path}

/-- A text as it is seen from a project: itself if it begins with a slash, else behind the project
and a slash. -/
def seenFrom (project text : List Char) : List Char :=
  if text.head? = some '/' ∨ project = [] then text else project ++ '/' :: text

/-- Where a path starts is there: the root, or the working directory. -/
def Starts (tree : FileTree) (path : Path) : Prop :=
  path.isAbsolute = true ∨ tree.hasCurrent = true

/-- A path is the normal form of what a text means in a project: a root and names, which the text
leads to and the path too, wherever it is read. The system finds the same place for both, for the
text from within the project, if it gets there. -/
structure Means (tree : FileTree) (project text : String) (path : Path) : Prop where
  absolute : path.root = "/"
  named : ∀ name ∈ path.parts, IsName name
  leads : path.parts = Location.reach tree.current (seenFrom project.toList text.toList)
  shown : ∀ place, Location.reach place path.text.toList = path.parts
  walked : ∀ here place, tree.locate (ofText project) = .ok here →
    ({ tree with current := here } : FileTree).locate (ofText text) = .ok place →
    place = path.parts
  found : ∀ place, tree.locate path = .ok place → place = path.parts

/-- Seen from a project, a text leads on from where the project is. -/
theorem reach_seenFrom (place : Location) (project text : List Char) :
    Location.reach place (seenFrom project text) =
      Location.reach (Location.reach place project) text := by
  rw [seenFrom]
  by_cases rooted : text.head? = some '/'
  · rw [if_pos (.inl rooted), Location.reach, Location.reach, if_pos rooted, if_pos rooted]
  · by_cases bare : project = []
    · rw [if_pos (.inr bare), bare]
      rfl
    · rw [if_neg (not_or.mpr ⟨rooted, bare⟩), Location.reach_append_slash bare place rooted]

/-- For a root and names it is enough that the text leads to them. -/
theorem means_iff (absolute : path.root = "/") (named : ∀ name ∈ path.parts, IsName name) :
    path.Means tree project text ↔
      path.parts = Location.reach tree.current (seenFrom project.toList text.toList) := by
  refine ⟨Means.leads, fun leads => ⟨absolute, named, leads, ?shown, ?walked, ?found⟩⟩
  case shown => exact Location.reach_text absolute named
  case walked =>
    intro here place stands located
    rw [leads, reach_seenFrom, ← Location.reach_of_locate stands]
    exact Location.reach_of_locate located
  case found =>
    have rooted : path.isAbsolute = true := by
      rw [isAbsolute, absolute]
      decide
    have plain : path.IsPlain := ⟨rooted, fun among => (named ".." among).down.2 rfl⟩
    exact fun place located => FileTree.locate_of_isPlain plain located

/-- A text means one path only. -/
theorem Means.eq (means : path.Means tree project text) :
    path = ⟨"/", Location.reach tree.current (seenFrom project.toList text.toList)⟩ := by
  rw [← means.leads, ← means.absolute]

/-- Resolving finds the normal form. -/
theorem resolve_means (working : ∀ name ∈ tree.current, IsName name)
    (wholeProject : '\x00' ∉ project.toList) (whole : '\x00' ∉ text.toList) :
    (tree.resolve ((ofText project).join (ofText text))).Means tree project text := by
  have down : ".." ∉ tree.current := fun among => (working ".." among).down.2 rfl
  have parts := Location.parts_resolve_join down project text
  refine (means_iff rfl ?named).mpr (parts.trans (reach_seenFrom _ _ _).symm)
  case named =>
    rw [parts]
    exact Location.reach_named (Location.reach_named working wholeProject) whole

end Path

namespace RepositoryAnswer

variable {output kept : String}

/-- No directory is named: the repository could not be asked, or refused, or said nothing. -/
inductive IsSilent : RepositoryAnswer → Prop where
  | failed : IsSilent .failed
  | refused {code : Int} (output : String) (refuses : code ≠ 0) : IsSilent (.status code output)
  | blank {output : String} (code : Int) (nothing : Text.allBlank output.toList = true) :
      IsSilent (.status code output)

/-- An answer without a path is silent or no text. -/
theorem path?_eq_none_iff (answer : RepositoryAnswer) :
    answer.path? = none ↔ answer.IsSilent ∨ ∃ fault, answer = .unreadable fault := by
  cases answer with
  | failed => exact ⟨fun _ => .inl .failed, fun _ => rfl⟩
  | unreadable fault => exact ⟨fun _ => .inr ⟨fault, rfl⟩, fun _ => rfl⟩
  | status code output =>
      rw [path?]
      by_cases agrees : code = 0
      · subst agrees
        constructor
        · intro nothing
          refine .inl (.blank 0 (Text.trim_eq_nil_iff.mp ?_))
          cases left : Text.trim output.toList with
          | nil => rfl
          | cons first rest => simp [left] at nothing
        · rintro ((_ | ⟨_, refuses⟩ | ⟨_, nothing⟩) | ⟨fault, same⟩)
          · exact absurd rfl refuses
          · rw [Text.trim_eq_nil_iff.mpr nothing]
            rfl
          · cases same
      · rw [if_pos (by simpa using agrees)]
        exact ⟨fun _ => .inl (.refused output agrees), fun _ => rfl⟩

/-- The path is the text that is left without the blanks around it. -/
theorem path?_of_isTrimmed (trimmed : Text.IsTrimmed output.toList kept.toList)
    (given : kept ≠ "") : (status 0 output).path? = some (Path.ofText kept) := by
  obtain ⟨first, rest, cut⟩ := List.exists_cons_of_ne_nil (String.toList_eq_nil_iff.not.mpr given)
  have left := Text.isTrimmed_iff.mp trimmed
  rw [cut] at left
  have written : String.ofList (first :: rest) = kept := by rw [← cut, String.ofList_toList]
  rw [path?, if_neg (by decide), left, ← written]

end RepositoryAnswer

namespace Hook

variable {tree : FileTree} {project text kept : String}

/-- The line feed behind a text goes with the blanks at its end. -/
theorem isTrimmed_line (trimmed : Text.IsTrimmed text.toList kept.toList) :
    Text.IsTrimmed (text ++ "\n").toList kept.toList := by
  rw [String.toList_append]
  exact trimmed.append_blank rfl

theorem resolved_eq_ok_iff {path found : Path} :
    resolved tree path = .ok found ↔ path.Starts tree ∧ found = tree.resolve path := by
  rw [resolved, Path.Starts, ← Bool.or_eq_true]
  cases path.isAbsolute || tree.hasCurrent <;> simp [eq_comm]

theorem resolved_eq_error_iff {path : Path} {failure : Failure} :
    resolved tree path = .error failure ↔
      ¬ path.Starts tree ∧ failure = .file (.unnamed .notFound) := by
  rw [resolved, Path.Starts, ← Bool.or_eq_true]
  cases path.isAbsolute || tree.hasCurrent <;> simp [eq_comm]

/-- An answer that names a path leads to where the path is. -/
theorem directory_of_path? {answer : RepositoryAnswer} {path : Path}
    (named : answer.path? = some path) (project : Path) :
    directory tree answer project = .quiet ((resolved tree (project.join path)).map some) := by
  cases answer with
  | failed => cases named
  | unreadable fault => cases named
  | status code output => rw [directory, named]

theorem directory_of_isTrimmed (trimmed : Text.IsTrimmed text.toList kept.toList)
    (given : kept ≠ "") :
    directory tree (.status 0 (text ++ "\n")) (.ofText project) =
      .quiet ((resolved tree ((Path.ofText project).join (Path.ofText kept))).map some) :=
  directory_of_path? (RepositoryAnswer.path?_of_isTrimmed (isTrimmed_line trimmed) given) _

/-- An answer that names no path is refused if it is no text, and else there is no directory. -/
theorem directory_of_no_path {answer : RepositoryAnswer} (unnamed : answer.path? = none)
    (tree : FileTree) (project : Path) :
    (answer.IsSilent ∧ (directory tree answer project).value = .ok none) ∨
      ∃ fault, answer = .unreadable fault ∧
        (directory tree answer project).value = .error (.decoding fault) := by
  rcases answer.path?_eq_none_iff.mp unnamed with silent | ⟨fault, rfl⟩
  · refine .inl ⟨silent, ?_⟩
    cases silent with
    | failed => rfl
    | _ => rw [directory, unnamed]; rfl
  · exact .inr ⟨fault, rfl, rfl⟩

theorem directory_eq_none_iff {answer : RepositoryAnswer} {project : Path} :
    (directory tree answer project).value = .ok none ↔ answer.IsSilent := by
  cases named : answer.path? with
  | none =>
      rcases directory_of_no_path named tree project with ⟨silent, found⟩ | ⟨fault, rfl, found⟩
      · exact iff_of_true found silent
      · refine iff_of_false (by simp [found]) nofun
  | some path =>
      rw [directory_of_path? named]
      refine iff_of_false ?_ fun silent => ?_
      · cases found : resolved tree (project.join path) <;> simp [Logged.quiet, Except.map]
      · rw [answer.path?_eq_none_iff.mpr (.inl silent)] at named
        cases named

/-- What keeps the directory from being found: an answer that is no text, or a path that starts
nowhere. -/
theorem directory_eq_error_iff {answer : RepositoryAnswer} {project : Path} {failure : Failure} :
    (directory tree answer project).value = .error failure ↔
      (∃ fault, answer = .unreadable fault ∧ failure = .decoding fault) ∨
        ∃ path, answer.path? = some path ∧ ¬ (project.join path).Starts tree ∧
          failure = .file (.unnamed .notFound) := by
  cases named : answer.path? with
  | none =>
      rcases directory_of_no_path named tree project with ⟨silent, found⟩ | ⟨fault, rfl, found⟩
      · have readable : ∀ fault, answer ≠ .unreadable fault := by
          rintro fault rfl
          cases silent
        simp [found, readable]
      · simp [found, eq_comm]
  | some path =>
      have readable : ∀ fault, answer ≠ .unreadable fault := by
        rintro fault rfl
        cases named
      rw [directory_of_path? named]
      simp only [readable, false_and, exists_false, false_or, Option.some.injEq, exists_eq_left',
        ← resolved_eq_error_iff]
      cases found : resolved tree (project.join path) <;> simp [Logged.quiet, Except.map]

/-- A directory that is found is where the path of the answer leads. -/
theorem directory_eq_some_iff {answer : RepositoryAnswer} {project found : Path} :
    (directory tree answer project).value = .ok (some found) ↔
      ∃ path, answer.path? = some path ∧ (project.join path).Starts tree ∧
        found = tree.resolve (project.join path) := by
  cases named : answer.path? with
  | none =>
      rcases directory_of_no_path named tree project with ⟨-, nowhere⟩ | ⟨fault, -, failed⟩
      · simp [nowhere]
      · simp [failed]
  | some path =>
      rw [directory_of_path? named]
      simp only [Option.some.injEq, exists_eq_left', ← resolved_eq_ok_iff]
      cases placed : resolved tree (project.join path) <;> simp [Logged.quiet, Except.map]

/--
No directory is found exactly where the repository is silent. The search fails
exactly if the answer is no text, or names a relative path for a project that
is given by one while the working directory is gone. For a text on a line the
directory is the normal form of what is left of the text without the blanks at
its ends, and it is the normal form of the text itself exactly if both lead to
one place. A text that neither begins nor ends with a blank is found as it is.
-/
theorem directory_means (tree : FileTree) (project : String)
    (working : ∀ name ∈ tree.current, Path.IsName name) (whole : '\x00' ∉ project.toList) :
    (∀ answer, (directory tree answer (.ofText project)).value = .ok none ↔ answer.IsSilent) ∧
    (∀ answer failure, (directory tree answer (.ofText project)).value = .error failure ↔
      (∃ fault, answer = .unreadable fault ∧ failure = .decoding fault) ∨
        ∃ path, answer.path? = some path ∧ ¬ ((Path.ofText project).join path).Starts tree ∧
          failure = .file (.unnamed .notFound)) ∧
    (∀ text path, '\x00' ∉ text.toList →
      (directory tree (.status 0 (text ++ "\n")) (.ofText project)).value = .ok (some path) →
      ∃ kept, Text.IsTrimmed text.toList kept.toList ∧ path.Means tree project kept ∧
        (path.Means tree project text ↔
          Location.reach tree.current (Path.seenFrom project.toList kept.toList) =
            Location.reach tree.current (Path.seenFrom project.toList text.toList))) ∧
    (∀ text, '\x00' ∉ text.toList → text ≠ "" →
      Text.Stops Text.isBlank text.toList → ¬ Text.EndsBlank text.toList →
      ((Path.ofText project).join (Path.ofText text)).Starts tree →
      ∃ path, directory tree (.status 0 (text ++ "\n")) (.ofText project) =
        .quiet (.ok (some path)) ∧ path.Means tree project text) := by
  refine ⟨fun _ => directory_eq_none_iff, fun _ _ => directory_eq_error_iff, ?trimmed, ?plain⟩
  case trimmed =>
    intro text path wholeText found
    obtain ⟨kept, cut⟩ : ∃ kept : String, kept.toList = Text.trim text.toList :=
      ⟨String.ofList (Text.trim text.toList), String.toList_ofList⟩
    have trimmed : Text.IsTrimmed text.toList kept.toList := cut ▸ Text.trim_isTrimmed text.toList
    have given : kept ≠ "" := by
      rintro rfl
      have blank : (RepositoryAnswer.status 0 (text ++ "\n")).IsSilent := by
        refine .blank 0 (Text.trim_eq_nil_iff.mp ?_)
        exact Text.isTrimmed_iff.mp (isTrimmed_line trimmed)
      rw [directory_eq_none_iff.mpr blank] at found
      cases found
    have wholeKept : '\x00' ∉ kept.toList := by
      obtain ⟨before, after, whole, -, -⟩ := trimmed.cut
      intro among
      apply wholeText
      rw [whole]
      exact List.mem_append_left after (List.mem_append_right before among)
    have answered := RepositoryAnswer.path?_of_isTrimmed (isTrimmed_line trimmed) given
    have means : path.Means tree project kept := by
      obtain ⟨named, answered', -, rfl⟩ := directory_eq_some_iff.mp found
      cases answered.symm.trans answered'
      exact Path.resolve_means working whole wholeKept
    refine ⟨kept, trimmed, means, ?_⟩
    rw [Path.means_iff means.absolute means.named, means.leads]
  case plain =>
    intro text wholeText given front back starts
    have trimmed : Text.IsTrimmed text.toList text.toList :=
      Text.isTrimmed_iff.mpr (Text.trim_eq_self front back)
    refine ⟨_, ?_, Path.resolve_means working whole wholeText⟩
    rw [directory_of_isTrimmed trimmed given, resolved_eq_ok_iff.mpr ⟨starts, rfl⟩]
    rfl

/-- A step up and the blank inside a name are kept; the blank at the end of a name is not. -/
theorem directory_means_spaced :
    let tree := FileTree.initial ["work"]
    (∃ path, directory tree (.status 0 ("../my hooks//./on" ++ "\n")) (.ofText "repo") =
        .quiet (.ok (some path)) ∧ path.Means tree "repo" "../my hooks//./on" ∧
      path = ⟨"/", ["work", "my hooks", "on"]⟩) ∧
    (∃ path,
      (directory tree (.status 0 ("hooks " ++ "\n")) (.ofText "repo")).value = .ok (some path) ∧
      path.Means tree "repo" "hooks" ∧ path = ⟨"/", ["work", "repo", "hooks"]⟩) ∧
    (directory tree (.status 0 " \n") (.ofText "repo")).value = .ok none := by
  intro tree
  have working : ∀ name ∈ tree.current, Path.IsName name := by
    intro name among
    cases List.mem_singleton.mp among
    exact ⟨by decide, by decide, by decide +kernel, by decide +kernel⟩
  obtain ⟨silent, -, trimmed, plain⟩ :=
    directory_means tree "repo" working (by decide +kernel)
  refine ⟨?stepped, ?shortened, (silent _).mpr (.blank 0 (by decide +kernel))⟩
  case stepped =>
    have front : Text.Stops Text.isBlank "../my hooks//./on".toList := by
      intro c first
      cases first
      decide
    have back : ¬ Text.EndsBlank "../my hooks//./on".toList := by
      rintro ⟨c, last, blank⟩
      cases last
      cases blank
    obtain ⟨path, found, means⟩ :=
      plain "../my hooks//./on" (by decide +kernel) (by decide) front back (.inr rfl)
    exact ⟨path, found, means, means.eq.trans (by decide +kernel)⟩
  case shortened =>
    have found : (directory tree (.status 0 ("hooks " ++ "\n")) (.ofText "repo")).value =
        .ok (some ⟨"/", ["work", "repo", "hooks"]⟩) := by
      decide +kernel
    obtain ⟨kept, cut, means, -⟩ := trimmed "hooks " _ (by decide +kernel) found
    have short : Text.trim "hooks ".toList = "hooks".toList := by decide +kernel
    have same : kept = "hooks" :=
      String.toList_inj.mp ((Text.isTrimmed_iff.mp cut).symm.trans short)
    exact ⟨_, found, same ▸ means, rfl⟩

/-- The blank at the end of a name is lost, so that another directory is found. -/
theorem directory_loses_blank :
    let tree := FileTree.initial ["work"]
    ∃ path,
      (directory tree (.status 0 ("hooks " ++ "\n")) (.ofText ".")).value = .ok (some path) ∧
      ¬ path.Means tree "." "hooks " := by
  refine ⟨⟨"/", ["work", "hooks"]⟩, by decide +kernel, fun means => ?_⟩
  exact absurd means.leads (by decide +kernel)

end Hook

end CommitLint
