import CommitLint.CommandLine.Options
import CommitLint.Proofs.Text.Runs

/-!
# One flag in the place of another

A flag can be exchanged for another one wherever it stands as an option: not
behind the mark that ends the options, and not as the value of an option.
The command line is then refused as before, or understood as before but for
that flag.
-/

namespace CommitLint

/-- Another flag in the place of one. -/
def Occurrence.exchange (flag other : String) (occurrence : Occurrence) : Occurrence :=
  if occurrence.spelling = flag then { occurrence with spelling := other } else occurrence

/-- Words with another flag in the place of one. -/
def Words.exchange (flag other : String) (words : Words) : Words :=
  { words with options := words.options.map (·.exchange flag other) }

namespace Occurrence

variable {occurrence : Occurrence} {flag other : String}

theorem exchange_of_eq (same : occurrence.spelling = flag) :
    occurrence.exchange flag other = { occurrence with spelling := other } :=
  if_pos same

theorem exchange_of_ne (apart : occurrence.spelling ≠ flag) :
    occurrence.exchange flag other = occurrence :=
  if_neg apart

end Occurrence

namespace Words

variable {words : Words} {flag other : String} {spellings : List String}

@[simp] theorem arguments_exchange : (words.exchange flag other).arguments = words.arguments :=
  rfl

theorem last?_exchange
    (alike : ∀ occurrence : Occurrence,
      (occurrence.exchange flag other).spelling ∈ spellings ↔ occurrence.spelling ∈ spellings) :
    (words.exchange flag other).last? spellings =
      (words.last? spellings).map (·.exchange flag other) := by
  have same : ((fun occurrence : Occurrence => spellings.contains occurrence.spelling) ∘
      Occurrence.exchange flag other) =
        fun occurrence => spellings.contains occurrence.spelling := by
    funext occurrence
    rw [Function.comp_apply, Bool.eq_iff_iff, List.contains_iff_mem, List.contains_iff_mem]
    exact alike occurrence
  rw [last?, last?, exchange, ← List.map_reverse, List.find?_map, same]

theorem isSome_last? {spelling : String} (listed : spelling ∈ spellings)
    (given : words.has spelling = true) : (words.last? spellings).isSome = true := by
  rw [has, last?, List.find?_isSome] at given
  obtain ⟨occurrence, among, spelled⟩ := given
  rw [List.contains_iff_mem, List.mem_singleton] at spelled
  rw [last?, List.find?_isSome]
  refine ⟨occurrence, among, ?_⟩
  rw [List.contains_iff_mem, spelled]
  exact listed

/-- Other options occur as before. -/
theorem last?_exchange_of_not_mem (apart : flag ∉ spellings) (apart' : other ∉ spellings) :
    (words.exchange flag other).last? spellings = words.last? spellings := by
  rw [last?_exchange]
  · cases found : words.last? spellings with
    | none => rfl
    | some occurrence =>
        have among : occurrence.spelling ∈ spellings := by
          simpa using List.find?_some found
        rw [Option.map_some, Occurrence.exchange_of_ne]
        rintro rfl
        exact apart among
  · intro occurrence
    by_cases same : occurrence.spelling = flag
    · simp [Occurrence.exchange_of_eq same, same, apart, apart']
    · rw [Occurrence.exchange_of_ne same]

theorem value?_exchange {spelling : String} (apart : flag ≠ spelling) (apart' : other ≠ spelling) :
    (words.exchange flag other).value? spelling = words.value? spelling := by
  rw [value?, value?, last?_exchange_of_not_mem (by simpa using apart) (by simpa using apart')]

theorem has_exchange {spelling : String} (apart : flag ≠ spelling) (apart' : other ≠ spelling) :
    (words.exchange flag other).has spelling = words.has spelling := by
  rw [has, has, last?_exchange_of_not_mem (by simpa using apart) (by simpa using apart')]

/-- If one of both flags occurs, it is the other one now. -/
theorem last?_exchange_both :
    ((words.exchange flag other).last? [flag, other]).map (·.spelling) =
      (words.last? [flag, other]).map fun _ => other := by
  rw [last?_exchange]
  · cases found : words.last? [flag, other] with
    | none => rfl
    | some occurrence =>
        have among : occurrence.spelling ∈ [flag, other] := by
          simpa using List.find?_some found
        by_cases same : occurrence.spelling = flag
        · simp [Occurrence.exchange_of_eq same]
        · simpa [Occurrence.exchange_of_ne same, same] using among
  · intro occurrence
    by_cases same : occurrence.spelling = flag
    · simp [Occurrence.exchange_of_eq same, same]
    · rw [Occurrence.exchange_of_ne same]

end Words

namespace CommandSpec

variable {spec : CommandSpec} {word flag other spelling : String} {option : OptionSpec}
  {value : Option String}

/-- Whether a word is an option whose value is the next word. -/
def takesNext (spec : CommandSpec) (word : String) : Bool :=
  isOption word &&
    match spec.readOption word with
    | .ok (option, _, none) => option.value.isSome
    | _ => false

/-- A command line with another flag in the place of one. -/
def exchange (spec : CommandSpec) (flag other : String) : List String → List String
  | [] => []
  | word :: rest =>
      if word = "--" then word :: rest
      else if spec.takesNext word then
        match rest with
        | [] => [word]
        | value :: later => word :: value :: spec.exchange flag other later
      else (if word = flag then other else word) :: spec.exchange flag other rest

/-- A spelling of an option that takes no value. -/
structure IsFlag (spec : CommandSpec) (flag : String) : Prop where
  isOption : isOption flag = true
  unmarked : flag ≠ "--"
  bare : splitValue flag.toList = (flag.toList, none)
  listed : ∃ option,
    (spec.allOptions.find? fun option => option.spellings.contains flag) = some option ∧
      option.value = none

theorem eq_of_splitValue {word name : List Char} (bare : splitValue word = (name, none)) :
    name = word := by
  rw [splitValue] at bare
  split at bare
  · cases bare
  · next before cut =>
      cases bare
      obtain ⟨whole, -, -⟩ := Text.span_eq_iff.mp cut
      rw [whole, List.append_nil]

theorem readOption_eq_ok_iff :
    spec.readOption word = .ok (option, spelling, value) ↔
      (spec.allOptions.find? fun option => option.spellings.contains spelling) = some option ∧
        ∃ name text, splitValue word.toList = (name, text) ∧ spelling = String.ofList name ∧
          value = text.map String.ofList := by
  obtain ⟨⟨name, text⟩, cut⟩ : ∃ parts, splitValue word.toList = parts := ⟨_, rfl⟩
  rw [readOption, cut]
  dsimp only
  constructor
  · intro read
    split at read
    · next found =>
        cases read
        exact ⟨found, name, text, rfl, rfl, rfl⟩
    · repeat' split at read
      all_goals cases read
  · rintro ⟨found, _, _, same, rfl, rfl⟩
    cases same
    rw [found]

theorem IsFlag.readOption (isFlag : spec.IsFlag flag) :
    ∃ option, spec.readOption flag = .ok (option, flag, none) ∧ option.value = none := by
  obtain ⟨option, found, flat⟩ := isFlag.listed
  exact ⟨option, readOption_eq_ok_iff.mpr ⟨found, _, _, isFlag.bare, by simp, rfl⟩, flat⟩

/-- An option that is spelled like a flag takes no value, and is the flag if it is given none. -/
theorem IsFlag.eq_of_readOption (isFlag : spec.IsFlag flag)
    (read : spec.readOption word = .ok (option, flag, value)) :
    option.value = none ∧ (value = none → word = flag) := by
  obtain ⟨option', found', flat⟩ := isFlag.listed
  obtain ⟨found, name, text, cut, named, given⟩ := readOption_eq_ok_iff.mp read
  cases found'.symm.trans found
  refine ⟨flat, ?_⟩
  rintro rfl
  cases text with
  | some _ => cases given
  | none => rw [named, eq_of_splitValue cut, String.ofList_toList]

theorem IsFlag.split (isFlag : spec.IsFlag flag) (rest : List String) :
    spec.split (flag :: rest) = (spec.split rest).map (·.addOption ⟨flag, none⟩) := by
  obtain ⟨option, read, flat⟩ := isFlag.readOption
  rw [CommandSpec.split, if_neg (by simpa using isFlag.unmarked), if_pos isFlag.isOption, read]
  simp only [flat]

/-- What a word that takes the next one does with it. -/
theorem split_of_takesNext (unmarked : word ≠ "--") (takes : spec.takesNext word = true) :
    ∃ spelling, (∀ flag, spec.IsFlag flag → spelling ≠ flag) ∧
      spec.split [word] = .error (.needsArgument spelling) ∧
      ∀ value rest, spec.split (word :: value :: rest) =
        (spec.split rest).map (·.addOption ⟨spelling, some value⟩) := by
  rw [takesNext, Bool.and_eq_true] at takes
  obtain ⟨dashed, takes⟩ := takes
  split at takes
  · next option spelling read =>
      obtain ⟨called, named⟩ := Option.isSome_iff_exists.mp takes
      refine ⟨spelling, ?_, ?_, ?_⟩
      · rintro flag isFlag rfl
        cases named.symm.trans (isFlag.eq_of_readOption read).1
      · rw [split, if_neg (by simpa using unmarked), if_pos dashed, read]
        simp only [named]
      · intro value rest
        rw [split, if_neg (by simpa using unmarked), if_pos dashed, read]
        simp only [named]
  · cases takes

/-- What any other word does, whatever is behind it. -/
theorem split_cons_cases (mixed : spec.mixed = true) (unmarked : word ≠ "--")
    (alone : spec.takesNext word = false) :
    (∃ fault, ∀ rest, spec.split (word :: rest) = .error fault) ∨
      (∃ occurrence : Occurrence,
        (∀ flag, spec.IsFlag flag → occurrence.spelling = flag → word = flag) ∧
        ∀ rest, spec.split (word :: rest) = (spec.split rest).map (·.addOption occurrence)) ∨
      ∀ rest, spec.split (word :: rest) = (spec.split rest).map (·.addArgument word) := by
  have step (rest : List String) := split.eq_2 spec word rest
  simp only [beq_iff_eq, if_neg unmarked] at step
  by_cases dashed : isOption word = true
  · simp only [if_pos dashed] at step
    cases read : spec.readOption word with
    | error fault =>
        simp only [read] at step
        exact .inl ⟨fault, step⟩
    | ok found =>
        obtain ⟨option, spelling, value⟩ := found
        simp only [read] at step
        cases called : option.value with
        | none =>
            simp only [called] at step
            cases value with
            | some given => exact .inl ⟨_, step⟩
            | none =>
                refine .inr (.inl ⟨_, ?_, step⟩)
                rintro flag isFlag rfl
                exact (isFlag.eq_of_readOption read).2 rfl
        | some name =>
            simp only [called] at step
            cases value with
            | none => simp [takesNext, dashed, read, called] at alone
            | some given =>
                refine .inr (.inl ⟨_, ?_, step⟩)
                rintro flag isFlag rfl
                cases called.symm.trans (isFlag.eq_of_readOption read).1
  · simp only [if_neg dashed, if_pos mixed] at step
    exact .inr (.inr step)

theorem map_addOption_exchange (result : Except UsageFault Words) (occurrence : Occurrence) :
    (result.map (·.addOption occurrence)).map (·.exchange flag other) =
      (result.map (·.exchange flag other)).map (·.addOption (occurrence.exchange flag other)) := by
  cases result <;> rfl

theorem map_addArgument_exchange (result : Except UsageFault Words) (argument : String) :
    (result.map (·.addArgument argument)).map (·.exchange flag other) =
      (result.map (·.exchange flag other)).map (·.addArgument argument) := by
  cases result <;> rfl

/-- A command line is understood alike with another flag in the place of one. -/
theorem split_exchange (isFlag : spec.IsFlag flag) (isFlag' : spec.IsFlag other)
    (mixed : spec.mixed = true) (line : List String) :
    spec.split (spec.exchange flag other line) = (spec.split line).map (·.exchange flag other) := by
  fun_induction spec.exchange flag other line with
  | case1 => rfl
  | case2 rest =>
      rw [split]
      rfl
  | case3 word unmarked takes =>
      obtain ⟨spelling, -, lacks, -⟩ := split_of_takesNext unmarked takes
      rw [lacks]
      rfl
  | case4 word unmarked takes value later ih =>
      obtain ⟨spelling, apart, -, step⟩ := split_of_takesNext unmarked takes
      rw [step, step, ih, map_addOption_exchange, Occurrence.exchange_of_ne (apart flag isFlag)]
  | case5 word rest unmarked alone ih =>
      by_cases same : word = flag
      · have exchanged : (Occurrence.mk flag none).exchange flag other = ⟨other, none⟩ :=
          Occurrence.exchange_of_eq rfl
        rw [if_pos same, same, isFlag.split, isFlag'.split, ih, map_addOption_exchange, exchanged]
      · rw [if_neg same]
        rcases split_cons_cases mixed unmarked (eq_false_of_ne_true alone) with
          ⟨fault, step⟩ | ⟨occurrence, named, step⟩ | step
        · rw [step, step]
          rfl
        · rw [step, step, ih, map_addOption_exchange, Occurrence.exchange_of_ne]
          exact fun hit => same (named flag isFlag hit)
        · rw [step, step, ih, map_addArgument_exchange]

end CommandSpec

end CommitLint
