import CommitLint.Hook.Basic
import CommitLint.Proofs.FileTree.PathSizes
import CommitLint.Proofs.FileTree.PlainPaths
import CommitLint.Proofs.FileTree.Searching
import CommitLint.Proofs.Shell.Words

/-!
# The program that the hook runs

A shell reads the command of the hook as the program that was found, or as
the interpreter with the module, and nothing in the path of it is expanded.
Looking for the program fails at a path that is too long. And a path that
needs no quotation can begin like a value that is given to a variable: then it
is read as it is, but it is no program to the shell. Where the program must be
looked for, the home is needed, and it can be that nobody knows it.
-/

namespace CommitLint

namespace Surroundings

/-- Where the program is in a home. -/
def homePlace (home : String) : Path :=
  (((Path.ofText home).child ".local").child "bin").child "gitmsglint"

variable (surroundings : Surroundings)

/-- Where the program is among the scripts, if there is a directory of those. -/
def scriptsPlace? : Option Path :=
  (answer? surroundings.scripts).map fun scripts => (Path.ofText scripts).child "gitmsglint"

/-- The words that the hook is to run: the program found, or the first one that is at a place, or
else the interpreter with the module. -/
inductive Resolves (tree : FileTree) : List String → Prop where
  | found {program : String} (answered : answer? surroundings.found = some program) :
      Resolves tree [program]
  | home {home : String} {content : Content} (unfound : answer? surroundings.found = none)
      (known : surroundings.home = some home) (held : tree.Holds (homePlace home) content) :
      Resolves tree [(homePlace home).text]
  | scripts {home : String} {path : Path} {content : Content}
      (unfound : answer? surroundings.found = none) (known : surroundings.home = some home)
      (missed : tree.Misses (homePlace home)) (given : surroundings.scriptsPlace? = some path)
      (held : tree.Holds path content) : Resolves tree [path.text]
  | interpreter {home : String} (unfound : answer? surroundings.found = none)
      (known : surroundings.home = some home) (missed : tree.Misses (homePlace home))
      (none : ∀ path ∈ surroundings.scriptsPlace?, tree.Misses path) :
      Resolves tree [surroundings.interpreter, "-m", "gitmsglint"]

/-- What keeps the program from being looked for, where nothing was found before it: nobody knows
the home, or a place is too long a path. -/
inductive Obstructed (tree : FileTree) : FileFault → Prop where
  | homeless (unfound : answer? surroundings.found = none)
      (unknown : surroundings.home = none) : Obstructed tree .noHome
  | home {home : String} (unfound : answer? surroundings.found = none)
      (known : surroundings.home = some home) (refused : tree.Refuses (homePlace home)) :
      Obstructed tree (.system .nameTooLong (homePlace home).text)
  | scripts {home : String} {path : Path} (unfound : answer? surroundings.found = none)
      (known : surroundings.home = some home) (missed : tree.Misses (homePlace home))
      (given : surroundings.scriptsPlace? = some path) (refused : tree.Refuses path) :
      Obstructed tree (.system .nameTooLong path.text)

variable {surroundings} {tree : FileTree} {words : List String} {fault : FileFault}

theorem places_eq (home : String) :
    surroundings.places home = homePlace home :: surroundings.scriptsPlace?.toList := by
  unfold places scriptsPlace? homePlace
  cases answer? surroundings.scripts <;> rfl

theorem command_of_found {program : String} (answered : answer? surroundings.found = some program) :
    surroundings.command tree = .ok (String.ofList (Shell.quote program.toList)) := by
  rw [command, program?, answered]
  rfl

theorem command_of_firstFile? {home : String} {reached : Except FileFault (Option Path)}
    (unfound : answer? surroundings.found = none) (known : surroundings.home = some home)
    (looked : firstFile? tree (homePlace home :: surroundings.scriptsPlace?.toList) = reached) :
    surroundings.command tree = reached.map fun place? =>
      match place? with
      | some place => String.ofList (Shell.quote place.text.toList)
      | none =>
          String.ofList (Shell.quote surroundings.interpreter.toList) ++ " -m gitmsglint" := by
  rw [command, program?, unfound, known]
  dsimp only
  rw [places_eq, looked]
  cases reached with
  | error fault => rfl
  | ok place? => cases place? <;> rfl

section

variable {path : Path} {rest : List Path} {content : Content}

theorem firstFile?_of_holds (held : tree.Holds path content) :
    firstFile? tree (path :: rest) = .ok (some path) := by
  rw [firstFile?, FileTree.isFile_of_holds held]
  rfl

theorem firstFile?_of_refuses (refused : tree.Refuses path) :
    firstFile? tree (path :: rest) = .error (.system .nameTooLong path.text) := by
  rw [firstFile?, FileTree.isFile_of_refuses refused]
  rfl

theorem firstFile?_of_misses (missed : tree.Misses path) :
    firstFile? tree (path :: rest) = firstFile? tree rest := by
  rw [firstFile?, FileTree.isFile_of_misses missed]
  rfl

end

/-- The command as it is written for some words: the first one quoted. -/
def written : List String → String
  | [] => ""
  | first :: rest =>
      String.ofList (Shell.quote first.toList ++ rest.flatMap fun word => ' ' :: word.toList)

theorem command_of_resolves (resolves : surroundings.Resolves tree words) :
    surroundings.command tree = .ok (written words) := by
  cases resolves with
  | found answered => simp [command_of_found answered, written]
  | home unfound known held =>
      rw [command_of_firstFile? unfound known (firstFile?_of_holds held)]
      simp [written, Except.map]
  | scripts unfound known missed given held =>
      rw [command_of_firstFile? unfound known (firstFile?_of_misses missed), given,
        Option.toList_some, firstFile?_of_holds held]
      simp [written, Except.map]
  | interpreter unfound known missed none =>
      have nowhere : firstFile? tree surroundings.scriptsPlace?.toList = .ok .none := by
        cases given : surroundings.scriptsPlace? with
        | none => rfl
        | some path => exact firstFile?_of_misses (none path given)
      rw [command_of_firstFile? unfound known (firstFile?_of_misses missed), nowhere]
      simp [written, Except.map, String.ofList_append]

theorem command_of_obstructed (obstructed : surroundings.Obstructed tree fault) :
    surroundings.command tree = .error fault := by
  cases obstructed with
  | homeless unfound unknown =>
      rw [command, program?, unfound, unknown]
      rfl
  | home unfound known refused =>
      rw [command_of_firstFile? unfound known (firstFile?_of_refuses refused)]
      rfl
  | scripts unfound known missed given refused =>
      rw [command_of_firstFile? unfound known (firstFile?_of_misses missed), given,
        Option.toList_some, firstFile?_of_refuses refused]
      rfl

/-- Looking for the program comes to an end, one way or the other. -/
theorem resolves_or_obstructed (surroundings : Surroundings) (tree : FileTree) :
    (∃ words, surroundings.Resolves tree words) ∨ ∃ fault, surroundings.Obstructed tree fault := by
  cases answered : answer? surroundings.found with
  | some program => exact .inl ⟨_, .found answered⟩
  | none =>
      cases known : surroundings.home with
      | none => exact .inr ⟨_, .homeless answered known⟩
      | some home =>
          rcases tree.holds_or_refuses_or_misses (homePlace home) with
            ⟨content, held⟩ | refused | missed
          · exact .inl ⟨_, .home answered known held⟩
          · exact .inr ⟨_, .home answered known refused⟩
          · cases given : surroundings.scriptsPlace? with
            | none => exact .inl ⟨_, .interpreter answered known missed (by simp [given])⟩
            | some path =>
                rcases tree.holds_or_refuses_or_misses path with
                  ⟨content, held⟩ | refused | missed'
                · exact .inl ⟨_, .scripts answered known missed given held⟩
                · exact .inr ⟨_, .scripts answered known missed given refused⟩
                · exact .inl ⟨_, .interpreter answered known missed (by simp [given, missed'])⟩

end Surroundings

namespace Hook

open Shell

/-! ## The script as a shell reads it -/

/-- What stands in the script before the command: comments only. -/
def preamble : String :=
  "#!/bin/sh\n" ++ marker ++ "\n" ++
    "# Installed by gitmsglint; remove with \x60gitmsglint hooks --uninstall\x60.\n\n"

/-- The words behind the command: the call to lint the message of the first argument. -/
def ending : List Word :=
  ["lint".toList.map .bare, "--edit".toList.map .bare, [.argument 1]]

theorem endCommand_of_word (mode : Mode) (word : Word) (words : List Word)
    (commands : List (List Word)) :
    (Reader.mk mode (some word) words commands).endCommand =
      ⟨mode, none, [], commands ++ [words ++ [word]]⟩ := by
  simp [Reader.endCommand, Reader.endWord]

section

variable {command : String} {front : List Word} {last : Word}

theorem commands?_of_run
    (ran : Shell.run .start command.toList = some ⟨.plain, some last, front, []⟩) :
    commands? command.toList = some [front ++ [last]] := by
  rw [commands?, ran]
  simp [endCommand_of_word]

/-- The script is one command: the one that was written into it, with the ending behind. -/
theorem commands?_script_of_run
    (ran : Shell.run .start command.toList = some ⟨.plain, some last, front, []⟩) :
    commands? (script command).toList = some [front ++ [last] ++ ending] := by
  have comments : Shell.run .start preamble.toList = some .start := by decide +kernel
  have behind : Shell.run ⟨.plain, some last, front, []⟩ " lint --edit \"$1\"\n".toList =
      some (Reader.mk .plain (some [.argument 1])
        (front ++ [last] ++ ["lint".toList.map .bare] ++ ["--edit".toList.map .bare])
        []).endCommand := rfl
  have cut : script command = preamble ++ command ++ " lint --edit \"$1\"\n" := rfl
  rw [commands?, cut, String.toList_append, String.toList_append, List.append_assoc,
    run_append_of_eq comments, run_append_of_eq ran, behind, endCommand_of_word]
  simp [ending, Reader.endCommand, Reader.endWord]

end

/-- The words of a command that was written for some words, as they are read. -/
def shown : List String → List Word
  | [] => []
  | first :: rest => protect first.toList :: rest.map fun word => word.toList.map .bare

/-- The command is read as its words are shown; the last one goes on with what follows. -/
theorem run_written {surroundings : Surroundings} {tree : FileTree} {words : List String}
    (resolves : surroundings.Resolves tree words) :
    ∃ front last, front ++ [last] = shown words ∧
      Shell.run .start (Surroundings.written words).toList =
        some ⟨.plain, some last, front, []⟩ := by
  have single (program : String) : ∃ front last, front ++ [last] = shown [program] ∧
      Shell.run .start (Surroundings.written [program]).toList =
        some ⟨.plain, some last, front, []⟩ := by
    refine ⟨[], protect program.toList, rfl, ?_⟩
    rw [Surroundings.written, String.toList_ofList, List.flatMap_nil, List.append_nil]
    exact run_quote program.toList [] []
  cases resolves with
  | found answered => exact single _
  | home unfound known held => exact single _
  | scripts unfound known missed given held => exact single _
  | interpreter unfound known missed none =>
      refine ⟨[protect surroundings.interpreter.toList, "-m".toList.map .bare],
        "gitmsglint".toList.map .bare, rfl, ?_⟩
      have quoted : Shell.run .start (quote surroundings.interpreter.toList) =
          some ⟨.plain, some (protect surroundings.interpreter.toList), [], []⟩ :=
        run_quote surroundings.interpreter.toList [] []
      rw [Surroundings.written, String.toList_ofList, run_append_of_eq quoted]
      rfl

theorem texts?_shown {words : List String} (arguments : List (List Char))
    (plain : ∀ word ∈ words.tail, word.toList.any isPatternSign = false) :
    texts? arguments (shown words) = some (words.map String.toList) := by
  cases words with
  | nil => rfl
  | cons first rest =>
      rw [List.tail_cons] at plain
      rw [shown, texts?_cons, text?_protect, texts?_map_bare plain]
      rfl

theorem texts?_ending (message : List Char) (others : List (List Char)) :
    texts? (message :: others) ending = some ["lint".toList, "--edit".toList, message] := by
  simp [texts?, ending, Word.text?, Part.text?, isPatternSign]

theorem resolves_plain {surroundings : Surroundings} {tree : FileTree} {words : List String}
    (resolves : surroundings.Resolves tree words) :
    ∀ word ∈ words.tail, word.toList.any isPatternSign = false := by
  cases resolves with
  | interpreter unfound known missed none =>
      rw [List.tail_cons]
      decide
  | _ => simp

/-- Only the first word decides whether a line calls a program. -/
theorem call?_shown {words : List String} {line : List Word} (arguments : List (List Char))
    (begins : shown words <+: line) (given : words ≠ []) :
    ((∃ program ∈ words.head?, IsMisread program.toList) → call? arguments line = none) ∧
    ((∀ program ∈ words.head?, ¬ IsMisread program.toList) →
      call? arguments line = texts? arguments line) := by
  obtain ⟨first, rest, rfl⟩ := List.exists_cons_of_ne_nil given
  obtain ⟨behind, rfl⟩ := begins
  rw [shown, List.cons_append, call?]
  simp only [List.head?_cons, Option.mem_def, Option.some.injEq, exists_eq_left', forall_eq',
    ← misread_iff]
  constructor
  · intro misread
    rw [if_pos misread]
  · intro named
    rw [if_neg named]

/--
Looking for the program fails exactly at a place that is too long a path, or
where it needs a home and nobody knows one. In all other cases a shell reads
the command as the words that it resolves to, and the script as the one command
of these words, `lint`, `--edit` and the first argument of the script, whatever
characters there are in the paths. The command calls the program, unless the
path of it stays bare and is read as the value of a variable or as a word of
the shell's own language.
-/
theorem script_reads_resolved (surroundings : Surroundings) (tree : FileTree) :
    (∀ fault, surroundings.command tree = .error fault ↔ surroundings.Obstructed tree fault) ∧
    ((∃ words, surroundings.Resolves tree words) ↔
      ∀ fault, ¬ surroundings.Obstructed tree fault) ∧
    ∀ words, surroundings.Resolves tree words →
      ∃ command own line, surroundings.command tree = .ok command ∧
        commands? command.toList = some [own] ∧ commands? (script command).toList = some [line] ∧
        (∀ arguments, texts? arguments own = some (words.map String.toList)) ∧
        ∀ message others,
          let read := words.map String.toList ++ ["lint".toList, "--edit".toList, message]
          texts? (message :: others) line = some read ∧
          ((∃ program ∈ words.head?, IsMisread program.toList) →
            call? (message :: others) line = none) ∧
          ((∀ program ∈ words.head?, ¬ IsMisread program.toList) →
            call? (message :: others) line = some read) := by
  refine ⟨fun fault => ⟨fun failed => ?_, Surroundings.command_of_obstructed⟩,
    ⟨?_, fun free => ?_⟩, ?_⟩
  · rcases surroundings.resolves_or_obstructed tree with ⟨words, resolves⟩ | ⟨other, obstructed⟩
    · cases failed.symm.trans (Surroundings.command_of_resolves resolves)
    · cases failed.symm.trans (Surroundings.command_of_obstructed obstructed)
      exact obstructed
  · rintro ⟨words, resolves⟩ fault obstructed
    cases (Surroundings.command_of_resolves resolves).symm.trans
      (Surroundings.command_of_obstructed obstructed)
  · rcases surroundings.resolves_or_obstructed tree with resolves | ⟨fault, obstructed⟩
    · exact resolves
    · exact absurd obstructed (free fault)
  · intro words resolves
    obtain ⟨front, last, same, ran⟩ := run_written resolves
    have given : words ≠ [] := by
      cases resolves <;> exact List.cons_ne_nil _ _
    refine ⟨_, _, _, Surroundings.command_of_resolves resolves, commands?_of_run ran,
      commands?_script_of_run ran, fun arguments => ?_, fun message others => ?_⟩
    · rw [same]
      exact texts?_shown arguments (resolves_plain resolves)
    · have read := texts?_append_of_eq (texts?_shown (message :: others) (resolves_plain resolves))
        (texts?_ending message others)
      obtain ⟨misread, called⟩ := call?_shown (message :: others)
        (List.prefix_append (shown words) ending) given
      rw [same]
      exact ⟨read, misread, fun named => (called named).trans read⟩

/-- A path with a quote, a blank, a dollar, a line feed and a star is run as it is. -/
theorem script_reads_resolved_quoted :
    let path := "/it's/a $x\n*/gitmsglint"
    let surroundings : Surroundings := ⟨some path, some "/home", none, "/bin/python"⟩
    ∃ command line, surroundings.command (.initial []) = .ok command ∧
      commands? (script command).toList = some [line] ∧
      call? ["message".toList] line =
        some [path.toList, "lint".toList, "--edit".toList, "message".toList] := by
  intro path surroundings
  obtain ⟨-, -, reads⟩ := script_reads_resolved surroundings (.initial [])
  obtain ⟨command, own, line, found, -, inScript, -, called⟩ := reads [path] (.found rfl)
  obtain ⟨-, -, named⟩ := called "message".toList []
  refine ⟨command, line, found, inScript, named ?_⟩
  rintro program ⟨⟩ ⟨safe, -⟩
  exact absurd (safe '\'' (by decide)) (by decide)

/-- A path that begins like the value of a variable: the shell reads it, but does not run it. -/
example :
    let surroundings : Surroundings := ⟨some "A=b/gitmsglint", some "/home", none, "/bin/python"⟩
    (surroundings.command (.initial [])).toOption = some "A=b/gitmsglint" ∧
      (commands? "A=b/gitmsglint lint".toList).map (·.map (call? [])) = some [none] := by
  decide +kernel

/-- Where nothing is found and the path of the home is too long, there is no command at all. -/
theorem command_overlong :
    let home := String.ofList ('/' :: List.replicate 256 'a')
    let surroundings : Surroundings := ⟨none, some home, none, "/usr/bin/python3"⟩
    (∀ path ∈ surroundings.places home, ∀ content, ¬ (FileTree.initial []).Holds path content) ∧
      ∀ command, surroundings.command (.initial []) ≠ .ok command := by
  intro home surroundings
  let name := List.replicate 256 'a'
  have apart {c : Char} (other : c ≠ 'a') : c ∉ name :=
    fun among => other (List.eq_of_mem_replicate among)
  have parts : Path.partsOf ('/' :: name) = [String.ofList name] := by
    rw [← List.nil_append ('/' :: name), Path.partsOf_append,
      Path.partsOf_of_isPart (apart (by decide)) (by decide)]
    rfl
  have place : Surroundings.homePlace home =
      ⟨"/", [String.ofList name, ".local", "bin", "gitmsglint"]⟩ := by
    have read : Path.ofText (String.ofList ('/' :: name)) = ⟨"/", [String.ofList name]⟩ := by
      rw [← parts, Path.ofText, String.toList_ofList]
      rfl
    rw [Surroundings.homePlace, read]
    rfl
  have refused : (FileTree.initial []).Refuses (Surroundings.homePlace home) := by
    rw [place]
    refine FileTree.refuses_of_overlong rfl rfl ?_ ?_
    · rw [Path.hasNull_eq_false_iff, List.forall_mem_cons, String.toList_ofList]
      exact ⟨apart (by decide), by decide⟩
    · rw [← String.utf8Len_toList, String.toList_ofList]
      decide +kernel
  refine ⟨fun path among content => ?_, fun command => ?_⟩
  · rw [List.mem_singleton.mp among]
    exact refused.not_holds
  · rw [Surroundings.command_of_obstructed (.home rfl rfl refused)]
    simp only [ne_eq, reduceCtorEq, not_false_eq_true]

end Hook

end CommitLint
