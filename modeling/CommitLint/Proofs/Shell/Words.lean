import CommitLint.Hook.Command
import CommitLint.Proofs.Text.Runs

/-!
# How a shell reads words

A shell reads a text character by character. Blanks end a word and line feeds
a command; quotations protect the characters in them from meaning anything,
but for the parameters between double quotes. Texts with operators, or with
expansions other than those, are not read. A word that was quoted comes back
as it is, character by character.
-/

namespace CommitLint.Shell

/-- A part of a word: a character in a quotation or outside of any, or the argument of a number
between double quotes. -/
inductive Part where
  | quoted (c : Char)
  | bare (c : Char)
  | argument (number : Nat)
deriving DecidableEq, Repr

abbrev Word := List Part

/-- As what the next character is read. -/
inductive Mode where
  | plain
  | escaped
  | single
  | double
  | doubleEscaped
  | parameter
  | comment
deriving DecidableEq, Repr

structure Reader where
  mode : Mode
  /-- The word that has begun, if one has. -/
  word : Option Word
  /-- The words of the command that has begun. -/
  words : List Word
  commands : List (List Word)
deriving DecidableEq, Repr

namespace Reader

def start : Reader :=
  ⟨.plain, none, [], []⟩

def turn (reader : Reader) (mode : Mode) : Reader :=
  { reader with mode := mode }

/-- Begin a word, or go on with the one that has begun. -/
def enter (reader : Reader) (mode : Mode) : Reader :=
  { reader with mode := mode, word := some (reader.word.getD []) }

def add (reader : Reader) (part : Part) : Reader :=
  { reader with word := some (reader.word.getD [] ++ [part]) }

def endWord (reader : Reader) : Reader :=
  match reader.word with
  | none => reader
  | some word => { reader with word := none, words := reader.words ++ [word] }

/-- A command without words is none. -/
def endCommand (reader : Reader) : Reader :=
  let ended := reader.endWord
  if ended.words.isEmpty then ended
  else { ended with words := [], commands := ended.commands ++ [ended.words] }

end Reader

/-- The characters that mean something outside of quotations. -/
def isSign (c : Char) : Bool :=
  "\n \t'\"\\#$\x60|&;<>()".toList.contains c

/-- The characters that a backslash protects between double quotes. -/
def isProtectable (c : Char) : Bool :=
  "$\x60\"\\".toList.contains c

/-- Read a character outside of quotations. Operators and expansions are not read. -/
def stepPlain (reader : Reader) (c : Char) : Option Reader :=
  if isSign c then
    match c with
    | '\n' => some reader.endCommand
    | ' ' => some reader.endWord
    | '\t' => some reader.endWord
    | '\'' => some (reader.enter .single)
    | '"' => some (reader.enter .double)
    | '\\' => some (reader.turn .escaped)
    | '#' => some (if reader.word.isNone then reader.turn .comment else reader.add (.bare '#'))
    | _ => none
  else some (reader.add (.bare c))

def stepDouble (reader : Reader) (c : Char) : Option Reader :=
  match c with
  | '"' => some (reader.turn .plain)
  | '\\' => some (reader.turn .doubleEscaped)
  | '$' => some (reader.turn .parameter)
  | '\x60' => none
  | _ => some (reader.add (.quoted c))

/-- Read one more character; a line feed behind a backslash is passed over. -/
def step (reader : Reader) (c : Char) : Option Reader :=
  match reader.mode with
  | .plain => stepPlain reader c
  | .escaped =>
      let reader := reader.turn .plain
      some (if c == '\n' then reader else reader.add (.quoted c))
  | .single => some (if c == '\'' then reader.turn .plain else reader.add (.quoted c))
  | .double => stepDouble reader c
  | .doubleEscaped =>
      let reader := reader.turn .double
      if c == '\n' then some reader
      else if isProtectable c then some (reader.add (.quoted c))
      else some ((reader.add (.quoted '\\')).add (.quoted c))
  | .parameter =>
      if Text.isAsciiDigit c && c != '0' then
        some ((reader.turn .double).add (.argument (c.toNat - '0'.toNat)))
      else none
  | .comment => some (if c == '\n' then (reader.turn .plain).endCommand else reader)

def run (reader : Reader) (text : List Char) : Option Reader :=
  text.foldlM step reader

/-- The commands of a text, each as its words; none if a quotation is not ended. -/
def commands? (text : List Char) : Option (List (List Word)) :=
  match run .start text with
  | none => none
  | some reader =>
      if reader.mode == .plain || reader.mode == .comment then some reader.endCommand.commands
      else none

/-! ## What words stand for -/

/-- The characters that make a bare word a pattern for the names of files, or a home. -/
def isPatternSign (c : Char) : Bool :=
  "*?[~".toList.contains c

/-- What a part of a word stands for, under the arguments of the script. -/
def Part.text? (arguments : List (List Char)) : Part → Option (List Char)
  | .quoted c => some [c]
  | .bare c => if isPatternSign c then none else some [c]
  | .argument number => some (arguments.getD (number - 1) [])

/-- The one text that a word stands for; none if it is a pattern. -/
def Word.text? (arguments : List (List Char)) (word : Word) : Option (List Char) :=
  (word.mapM (Part.text? arguments)).map List.flatten

def texts? (arguments : List (List Char)) (words : List Word) : Option (List (List Char)) :=
  words.mapM (Word.text? arguments)

def isNamePart : Part → Bool
  | .bare c => Text.isAsciiWord c
  | _ => false

/-- Whether a word gives a value to a variable where a command is expected. -/
def assigns (word : Word) : Bool :=
  match word.span isNamePart with
  | (.bare first :: _, .bare '=' :: _) => !Text.isAsciiDigit first
  | _ => false

/-- The words of the shell's own language. -/
def reservedWords : List String :=
  ["!", "\x7b", "\x7d", "case", "do", "done", "elif", "else", "esac", "fi", "for", "if", "in",
    "then", "until", "while"]

def isReserved (word : Word) : Bool :=
  reservedWords.any fun text => word == text.toList.map .bare

/-- The program that a command calls, with the arguments it is given; none if the first word does
not name a program. -/
def call? (arguments : List (List Char)) (words : List Word) : Option (List (List Char)) :=
  match words with
  | [] => none
  | first :: _ => if assigns first || isReserved first then none else texts? arguments words

/-! ## Reading on -/

section

variable {reader : Reader} {c : Char}

theorem run_append (reader : Reader) (first second : List Char) :
    run reader (first ++ second) = (run reader first).bind (run · second) := by
  simp only [run, List.foldlM_append]
  rfl

theorem run_append_of_eq {first second : List Char} {reached : Reader}
    (ran : run reader first = some reached) :
    run reader (first ++ second) = run reached second := by
  rw [run_append, ran, Option.bind_some]

theorem run_cons_of_eq {rest : List Char} {reached : Reader}
    (stepped : step reader c = some reached) : run reader (c :: rest) = run reached rest := by
  simp only [run, List.foldlM_cons, stepped]
  rfl

/-- A safe character is none of some signs that are not. -/
theorem contains_eq_false_of_isSafe {signs : List Char} (risky : signs.any isSafe = false)
    (safe : isSafe c = true) : signs.contains c = false := by
  by_contra sign
  rw [Bool.not_eq_false, List.contains_iff_mem] at sign
  exact List.any_eq_false.mp risky c sign safe

theorem step_of_isSafe (plain : reader.mode = .plain) (safe : isSafe c = true) :
    step reader c = some (reader.add (.bare c)) := by
  have sign : isSign c = false := contains_eq_false_of_isSafe (by decide) safe
  simp [step, stepPlain, plain, sign]

end

/-! ## Words that were quoted -/

/-- The word that a text is quoted as: bare, if nothing in it needs a quotation. -/
def protect (text : List Char) : Word :=
  if !text.isEmpty && text.all isSafe then text.map .bare else text.map .quoted

section

variable {word : Word} {words : List Word} {commands : List (List Word)} {text : List Char}

theorem run_quoteChar (c : Char) :
    run ⟨.single, some word, words, commands⟩ (quoteChar c) =
      some ⟨.single, some (word ++ [.quoted c]), words, commands⟩ := by
  unfold quoteChar
  split
  next same =>
    rw [eq_of_beq same]
    rfl
  next apart =>
    rw [Bool.not_eq_true] at apart
    simp [run, step, Reader.add, apart]

theorem run_flatMap_quoteChar (text : List Char) :
    run ⟨.single, some word, words, commands⟩ (text.flatMap quoteChar) =
      some ⟨.single, some (word ++ text.map .quoted), words, commands⟩ := by
  induction text generalizing word with
  | nil => simp [run]
  | cons first rest ih =>
      rw [List.flatMap_cons, run_append_of_eq (run_quoteChar first), ih, List.map_cons,
        List.append_assoc, List.singleton_append]

theorem run_of_isSafe (safe : ∀ c ∈ text, isSafe c = true) :
    run ⟨.plain, some word, words, commands⟩ text =
      some ⟨.plain, some (word ++ text.map .bare), words, commands⟩ := by
  induction text generalizing word with
  | nil => simp [run]
  | cons first rest ih =>
      obtain ⟨safeFirst, safeRest⟩ := List.forall_mem_cons.mp safe
      rw [run_cons_of_eq (step_of_isSafe rfl safeFirst), Reader.add, Option.getD_some, ih safeRest,
        List.map_cons, List.append_assoc, List.singleton_append]

/-- What was quoted is read as one word, which has not ended. -/
theorem run_quote (text : List Char) (words : List Word) (commands : List (List Word)) :
    run ⟨.plain, none, words, commands⟩ (quote text) =
      some ⟨.plain, some (protect text), words, commands⟩ := by
  unfold quote protect
  split
  next bare =>
    rw [Bool.and_eq_true, Bool.not_eq_true', List.all_eq_true] at bare
    obtain ⟨present, safe⟩ := bare
    cases text with
    | nil => cases present
    | cons first rest =>
        obtain ⟨safeFirst, safeRest⟩ := List.forall_mem_cons.mp safe
        exact (run_cons_of_eq (step_of_isSafe rfl safeFirst)).trans (run_of_isSafe safeRest)
  next =>
    have opened : step ⟨.plain, none, words, commands⟩ '\'' =
        some ⟨.single, some [], words, commands⟩ := rfl
    rw [List.cons_append, run_cons_of_eq opened, run_append_of_eq (run_flatMap_quoteChar text)]
    rfl

end

section

variable {arguments : List (List Char)} {text : List Char}

theorem text?_cons (arguments : List (List Char)) (part : Part) (word : Word) :
    Word.text? arguments (part :: word) =
      (part.text? arguments).bind fun front => (Word.text? arguments word).map (front ++ ·) := by
  simp only [Word.text?, List.mapM_cons]
  cases part.text? arguments with
  | none => rfl
  | some front => cases word.mapM (Part.text? arguments) <;> rfl

/-- Parts that stand for their characters make a word that stands for its text. -/
theorem text?_map {part : Char → Part} (stands : ∀ c ∈ text, (part c).text? arguments = some [c]) :
    Word.text? arguments (text.map part) = some text := by
  induction text with
  | nil => rfl
  | cons first rest ih =>
      obtain ⟨standsFirst, standsRest⟩ := List.forall_mem_cons.mp stands
      rw [List.map_cons, text?_cons, standsFirst, ih standsRest]
      rfl

/-- A word that was quoted stands for its text, whatever the arguments are. -/
theorem text?_protect (arguments : List (List Char)) (text : List Char) :
    Word.text? arguments (protect text) = some text := by
  unfold protect
  split
  next bare =>
    rw [Bool.and_eq_true, List.all_eq_true] at bare
    refine text?_map fun c among => ?_
    have sign : isPatternSign c = false :=
      contains_eq_false_of_isSafe (by decide) (bare.2 c among)
    simp [Part.text?, sign]
  next => exact text?_map fun c among => rfl

theorem texts?_cons (arguments : List (List Char)) (word : Word) (words : List Word) :
    texts? arguments (word :: words) =
      (word.text? arguments).bind fun front => (texts? arguments words).map (front :: ·) := by
  simp only [texts?, List.mapM_cons]
  cases word.text? arguments with
  | none => rfl
  | some front => cases words.mapM (Word.text? arguments) <;> rfl

theorem texts?_append_of_eq {first second : List Word} {front back : List (List Char)}
    (read : texts? arguments first = some front) (readBack : texts? arguments second = some back) :
    texts? arguments (first ++ second) = some (front ++ back) := by
  induction first generalizing front with
  | nil =>
      cases read
      exact readBack
  | cons word rest ih =>
      rw [texts?_cons] at read
      obtain ⟨own, readOwn, others⟩ := Option.bind_eq_some_iff.mp read
      obtain ⟨tail, readTail, rfl⟩ := Option.map_eq_some_iff.mp others
      rw [List.cons_append, texts?_cons, readOwn, ih readTail]
      rfl

/-- Words without signs of patterns stand for themselves. -/
theorem texts?_map_bare {words : List String}
    (plain : ∀ word ∈ words, word.toList.any isPatternSign = false) :
    texts? arguments (words.map fun word => word.toList.map .bare) =
      some (words.map String.toList) := by
  induction words with
  | nil => rfl
  | cons first rest ih =>
      obtain ⟨plainFirst, plainRest⟩ := List.forall_mem_cons.mp plain
      have own : Word.text? arguments (first.toList.map .bare) = some first.toList :=
        text?_map fun c among => by simp [Part.text?, List.any_eq_false.mp plainFirst c among]
      rw [List.map_cons, texts?_cons, own, ih plainRest]
      rfl

end

/-! ## First words that name no program -/

def IsName (name : List Char) : Prop :=
  (∀ c ∈ name, Text.isAsciiWord c = true) ∧ ∃ first ∈ name.head?, Text.isAsciiDigit first = false

/-- A text that stays bare when it is quoted, and then gives a value to a variable or is a word of
the shell's own language. -/
def IsMisread (text : List Char) : Prop :=
  (∀ c ∈ text, isSafe c = true) ∧
    ((∃ name value, IsName name ∧ text = name ++ '=' :: value) ∨
      ∃ reserved ∈ reservedWords, text = reserved.toList)

theorem span_map_bare (text : List Char) :
    (text.map Part.bare).span isNamePart =
      ((text.takeWhile Text.isAsciiWord).map .bare,
        (text.dropWhile Text.isAsciiWord).map .bare) := by
  rw [List.span_eq_takeWhile_dropWhile, List.takeWhile_map, List.dropWhile_map]
  rfl

theorem assigns_map_bare_iff {text : List Char} :
    assigns (text.map .bare) = true ↔ ∃ name value, IsName name ∧ text = name ++ '=' :: value := by
  have ends : Text.isAsciiWord '=' = false := by decide
  constructor
  · intro given
    obtain ⟨cut, inside, -⟩ := Text.longest_run Text.isAsciiWord text
    rw [assigns, span_map_bare] at given
    generalize text.takeWhile Text.isAsciiWord = name,
      text.dropWhile Text.isAsciiWord = rest at given cut inside
    split at given
    next first more value same =>
      simp only [Prod.mk.injEq] at same
      obtain ⟨named, valued⟩ := same
      obtain ⟨first', more', rfl, headed, -⟩ := List.map_eq_cons_iff.mp named
      obtain ⟨sign, value', rfl, equals, -⟩ := List.map_eq_cons_iff.mp valued
      cases headed
      cases equals
      exact ⟨first :: more', value', ⟨inside, first, rfl, by simpa using given⟩, cut⟩
    next => cases given
  · rintro ⟨name, value, ⟨inside, first, front, digit⟩, rfl⟩
    obtain ⟨more, rfl⟩ := List.head?_eq_some_iff.mp front
    have stops : Text.Stops Text.isAsciiWord ('=' :: value) := Text.stops_cons ends
    have cut := Text.span_append inside stops
    rw [List.span_eq_takeWhile_dropWhile, Prod.mk.injEq] at cut
    rw [assigns, span_map_bare, cut.1, cut.2]
    simp [digit]

theorem isReserved_map_bare_iff {text : List Char} :
    isReserved (text.map .bare) = true ↔ ∃ reserved ∈ reservedWords, text = reserved.toList := by
  simp only [isReserved, List.any_eq_true, beq_iff_eq,
    List.map_inj_right fun _ _ => Part.bare.inj]

/-- A word in quotations names a program. -/
theorem names_map_quoted (text : List Char) :
    assigns (text.map .quoted) = false ∧ isReserved (text.map .quoted) = false := by
  cases text with
  | nil => decide
  | cons first rest =>
      refine ⟨rfl, ?_⟩
      rw [isReserved, List.any_eq_false]
      intro reserved among same
      obtain ⟨head, tail, -, bare, -⟩ := List.map_eq_cons_iff.mp (eq_of_beq same).symm
      cases bare

theorem misread_iff (text : List Char) :
    (assigns (protect text) || isReserved (protect text)) = true ↔ IsMisread text := by
  rw [protect, IsMisread]
  split
  next bare =>
    rw [Bool.and_eq_true, List.all_eq_true] at bare
    rw [Bool.or_eq_true, assigns_map_bare_iff, isReserved_map_bare_iff, and_iff_right bare.2]
  next risky =>
    obtain ⟨unassigned, unreserved⟩ := names_map_quoted text
    rw [unassigned, unreserved]
    refine iff_of_false Bool.false_ne_true ?_
    rintro ⟨safe, meant⟩
    refine risky (Bool.and_eq_true_iff.mpr ⟨?_, List.all_eq_true.mpr safe⟩)
    rcases meant with ⟨name, value, -, rfl⟩ | ⟨reserved, among, rfl⟩
    · simp
    · have present : ∀ reserved ∈ reservedWords, (!reserved.toList.isEmpty) = true := by decide
      exact present reserved among

end CommitLint.Shell
