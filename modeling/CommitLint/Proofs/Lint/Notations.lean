import CommitLint.Proofs.Lint.Rounds

/-!
# Entries in other notations

A severity can be written as a number or a word, and options can stand in a
pair or in a map. Entries that differ in how they are written contribute the
same to every message, and so do configurations made of them.
-/

namespace CommitLint

theorem Value.same_text_iff {value : Value} {name : String} :
    value.same (.text name) = true ↔ value = .text name := by
  cases value <;> simp [Value.same, Value.whole?]

/-! ## The notations of an entry -/

namespace RuleEntry

/-- The ways to write a level with options: as the first two members of a sequence, or in one map,
where the level stands anywhere among the options. -/
inductive WritesBoth (level : Value) (options : Entries) : Value → Prop where
  | list (more : List Value) : WritesBoth level options (.list (level :: .map options :: more))
  | tuple (more : List Value) : WritesBoth level options (.tuple (level :: .map options :: more))
  | map {before after : Entries} (cut : options = before ++ after) :
      WritesBoth level options (.map (before ++ (.text "severity", level) :: after))

/-- The ways to write a level without options: bare, unless it is of a kind that is taken apart,
in a sequence, in front of something that is no map, or in a map of its own. -/
inductive WritesLevel (level : Value) : Value → Prop where
  | bare (noList : ∀ items, level ≠ .list items) (noTuple : ∀ items, level ≠ .tuple items)
      (noMap : ∀ entries, level ≠ .map entries) : WritesLevel level level
  | list : WritesLevel level (.list [level])
  | tuple : WritesLevel level (.tuple [level])
  | listBeside {beside : Value} (flat : ∀ entries, beside ≠ .map entries) :
      WritesLevel level (.list [level, beside])
  | tupleBeside {beside : Value} (flat : ∀ entries, beside ≠ .map entries) :
      WritesLevel level (.tuple [level, beside])
  | map : WritesLevel level (.map [(.text "severity", level)])

/-- One entry in two notations. -/
inductive Respells : Value → Value → Prop where
  | refl (entry : Value) : Respells entry entry
  | both {level entry other : Value} {options : Entries} (present : options ≠ [])
      (free : ∀ option ∈ options, option.1 ≠ .text "severity")
      (written : WritesBoth level options entry) (written' : WritesBoth level options other) :
      Respells entry other
  | level {level entry other : Value} (written : WritesLevel level entry)
      (written' : WritesLevel level other) : Respells entry other

variable {level entry other : Value} {options before after : Entries}

theorem ofItems_beside (flat : ∀ entries, other ≠ .map entries) :
    ofItems [level, other] = ⟨level, none⟩ := by
  cases other with
  | map entries => exact absurd rfl (flat entries)
  | _ => rfl

theorem named?_inserted (free : ∀ option ∈ before, option.1 ≠ .text "severity") :
    Entries.named? (before ++ (.text "severity", level) :: after) "severity" = some level := by
  have unnamed : before.find? (fun option => option.1.same (.text "severity")) = none :=
    List.find?_eq_none.mpr fun option member => mt Value.same_text_iff.mp (free option member)
  rw [Entries.named?, Entries.get?, List.find?_append, unnamed]
  simp [Value.same_text]

theorem without_of_free (free : ∀ option ∈ options, option.1 ≠ .text "severity") :
    options.without "severity" = options := by
  refine List.filter_eq_self.mpr fun option member => ?_
  rw [Bool.not_eq_true', Bool.eq_false_iff]
  exact mt Value.same_text_iff.mp (free option member)

theorem without_inserted (free : ∀ option ∈ before ++ after, option.1 ≠ .text "severity") :
    Entries.without (before ++ (.text "severity", level) :: after) "severity" =
      before ++ after := by
  obtain ⟨front, back⟩ := List.forall_mem_append.mp free
  rw [Entries.without, List.filter_append, List.filter_cons_of_neg (by simp [Value.same_text])]
  exact congrArg₂ _ (without_of_free front) (without_of_free back)

/-- A map is read as the level under its key, and as options without it, if any are left. -/
theorem ofMap_inserted (free : ∀ option ∈ before ++ after, option.1 ≠ .text "severity") :
    ofMap (before ++ (.text "severity", level) :: after) =
      ⟨level, if (before ++ after).isEmpty then none else some (before ++ after)⟩ := by
  rw [ofMap, named?_inserted (List.forall_mem_append.mp free).1, without_inserted free]
  rfl

theorem ofValue_of_writesBoth (written : WritesBoth level options entry) (present : options ≠ [])
    (free : ∀ option ∈ options, option.1 ≠ .text "severity") :
    ofValue entry = ⟨level, some options⟩ := by
  cases written with
  | list more => rfl
  | tuple more => rfl
  | map cut =>
      subst cut
      rw [ofValue, ofMap_inserted free, if_neg (by simpa using present)]

theorem ofValue_of_writesLevel (written : WritesLevel level entry) :
    ofValue entry = ⟨level, none⟩ := by
  cases written with
  | bare noList noTuple noMap =>
      cases level with
      | list items => exact absurd rfl (noList items)
      | tuple items => exact absurd rfl (noTuple items)
      | map entries => exact absurd rfl (noMap entries)
      | _ => rfl
  | list => rfl
  | tuple => rfl
  | listBeside flat => exact ofItems_beside flat
  | tupleBeside flat => exact ofItems_beside flat
  | map =>
      have free : ∀ option ∈ ([] ++ [] : Entries), option.1 ≠ .text "severity" := nofun
      exact ofMap_inserted free

/-- The notation of an entry is not seen in what is read from it. -/
theorem Respells.ofValue_eq (respelled : Respells entry other) :
    ofValue other = ofValue entry := by
  cases respelled with
  | refl => rfl
  | both present free written written' =>
      rw [ofValue_of_writesBoth written present free, ofValue_of_writesBoth written' present free]
  | level written written' =>
      rw [ofValue_of_writesLevel written, ofValue_of_writesLevel written']

end RuleEntry

namespace Lint

/-- Two entries for one rule whose levels stand for one severity, and whose options are the
same. -/
structure SetAlike (entry other : Value × Value) : Prop where
  key : other.1 = entry.1
  ranked : ∃ severity, (RuleEntry.ofValue entry.2).level.toSeverity? = some severity ∧
    (RuleEntry.ofValue other.2).level.toSeverity? = some severity
  options : (RuleEntry.ofValue other.2).options = (RuleEntry.ofValue entry.2).options

variable {rules : List Rule} {message : String} {verbose : Bool}

/-- The rounds of two entries that are set alike do the same, changed or unchanged. -/
theorem SetAlike.round_eq {entry other : Value × Value} (alike : SetAlike entry other)
    (change : Option RuleEntry) (gathered : Logged Diagnostics) :
    round rules message verbose gathered entry.1 (change.getD (.ofValue other.2)) =
      round rules message verbose gathered entry.1 (change.getD (.ofValue entry.2)) := by
  cases change with
  | some setting => rfl
  | none =>
      obtain ⟨-, ⟨severity, ranked, ranked'⟩, options⟩ := alike
      rw [Option.getD_none, Option.getD_none, round, round]
      simp only [ranked, ranked', options]
      cases severity <;> rfl

theorem evaluate_eq_of_setAlike {entries others : Entries}
    (alike : List.Forall₂ SetAlike entries others) :
    evaluate rules message verbose others = evaluate rules message verbose entries :=
  evaluate_congr (alike.imp fun _ _ same => ⟨same.key, same.round_eq⟩)

end Lint

/-- Two configurations that say the same of the rules and the patterns, and tell as much. -/
structure Config.SaysTheSame (config other : Config) : Prop where
  verbose : other.verbose.isTrue = config.verbose.isTrue
  rules : List.Forall₂ Lint.SetAlike config.rules other.rules
  patterns : other.allIgnores = config.allIgnores

theorem Config.SaysTheSame.effectiveVerbose_eq {config other : Config}
    (same : config.SaysTheSame other) (asked : Option Bool) :
    other.effectiveVerbose asked = config.effectiveVerbose asked := by
  rw [effectiveVerbose, effectiveVerbose, same.verbose]

/-- Configurations that say the same lint every message alike, with any rules. -/
theorem lint_eq_of_saysTheSame [CharacterNames] {config other : Config}
    (same : config.SaysTheSame other) (rules : List Rule) (message : String) (asked : Option Bool) :
    lint other rules message asked = lint config rules message asked := by
  simp only [lint, same.effectiveVerbose_eq, same.patterns,
    Lint.evaluate_eq_of_setAlike same.rules]

/--
The notations of an entry are interchangeable, for one entry of a
configuration or for several: whatever the rules do with their options, every
message has the same errors and warnings, and the same is logged.
-/
theorem lint_eq_of_respells [CharacterNames] {entries others : Entries}
    (respelled : List.Forall₂ (fun entry other =>
      other.1 = entry.1 ∧ RuleEntry.Respells entry.2 other.2) entries others)
    (config : Config) (rules : List Rule) (message : String) (asked : Option Bool) :
    lint { config with rules := others } rules message asked =
      lint { config with rules := entries } rules message asked := by
  have evaluated : ∀ verbose, Lint.evaluate rules message verbose others =
      Lint.evaluate rules message verbose entries := by
    intro verbose
    refine Lint.evaluate_congr (respelled.imp fun entry other written => ?_)
    exact ⟨written.1, fun change gathered => by rw [written.2.ofValue_eq]⟩
  simp only [lint, evaluated]
  rfl

open CharacterNames in
/-- A rule that counts its options and marks them is set by a pair that goes on and by a map with
the level in the middle, and one without options by a word and by a word beside a number. -/
theorem lint_eq_of_respells_marked :
    let options : Entries := [(.text "from", .int 1), (.text "to", .int 2)]
    let entries : Entries :=
      [(.text "marking", .list [.int 2, .map options, .null]), (.text "plain", .text "warning")]
    let others : Entries :=
      [(.text "marking", .map [(.text "from", .int 1), (.text "severity", .int 2),
        (.text "to", .int 2)]), (.text "plain", .tuple [.text "warning", .int 5])]
    let marking : Rule :=
      .ofVerdict "marking" "Custom" fun _ options =>
        .invalid (if (options.map Behaviour.marked).map List.length = some 3 then some "two"
          else none)
    let rules : List Rule := [marking, (Behaviour.fail none).toRule "plain"]
    List.Forall₂ (fun entry other : Value × Value =>
        other.1 = entry.1 ∧ RuleEntry.Respells entry.2 other.2) entries others ∧
      lint { Config.default with rules := others } rules "fix: x" none =
        lint { Config.default with rules := entries } rules "fix: x" none ∧
      (lint { Config.default with rules := entries } rules "fix: x" none).value =
        .ok ⟨["two"], ["Rule \"plain\" failed validation"]⟩ := by
  intro options entries others marking rules
  have respelled : List.Forall₂ (fun entry other : Value × Value =>
      other.1 = entry.1 ∧ RuleEntry.Respells entry.2 other.2) entries others := by
    refine .cons ⟨rfl, ?marking⟩ (.cons ⟨rfl, ?plain⟩ .nil)
    case marking =>
      have free : ∀ option ∈ options, option.1 ≠ .text "severity" := by simp [options]
      have cut : options = [(.text "from", .int 1)] ++ [(.text "to", .int 2)] := rfl
      exact .both (List.cons_ne_nil _ _) free (.list [.null]) (.map cut)
    case plain => exact .level (.bare nofun nofun nofun) (.tupleBeside nofun)
  refine ⟨respelled, lint_eq_of_respells respelled Config.default rules "fix: x" none, ?_⟩
  simp only [entries, options, rules, marking]
  decide +kernel

end CommitLint
