import CommitLint.Lint
import CommitLint.Rule.Builtin
import CommitLint.Rule.Declared
import Mathlib.Data.List.Forall2

/-!
# Rounds of linting

What a round adds is put behind what was gathered before it, and does not
depend on it. It depends on how the entry reads in that round, and on the rule
under its name. An entry reads as it is written, unless a rule before has
changed it; rules that keep to the options that they are handed never do.
-/

namespace CommitLint

/-- The rule leaves alone all but the options that it is handed. -/
def Rule.StaysInside (rule : Rule) : Prop :=
  ∀ message options, (rule.validate message options).reach = .nothing

theorem Rule.staysInside_ofVerdict (name description : String)
    (verdict : String → Option Entries → Verdict) :
    (ofVerdict name description verdict).StaysInside :=
  fun _ _ => rfl

theorem Behaviour.staysInside_toRule (behaviour : Behaviour) (name : String) :
    (behaviour.toRule name).StaysInside :=
  fun _ _ => rfl

theorem Rule.staysInside_builtin : ∀ rule ∈ Rule.builtin, rule.StaysInside := by
  intro rule member
  simp only [builtin, List.mem_cons, List.not_mem_nil, or_false] at member
  rcases member with rfl | rfl | rfl | rfl | rfl <;> exact staysInside_ofVerdict _ _ _

/-- An event tells of an entry or of its rule. -/
def Event.isOfRound : Event → Bool
  | .ruleNotFound _ => true
  | .invalidSeverity _ _ => true
  | .ruleRaised _ => true
  | _ => false

@[simp] theorem Reach.nothing_andThen (reach : Reach) : Reach.nothing.andThen reach = reach := by
  funext key
  exact Option.or_none

@[simp] theorem Reach.andThen_nothing (reach : Reach) : reach.andThen .nothing = reach :=
  rfl

namespace Lint

/-- What is gathered second behind what was gathered first. -/
def joined (first second : Logged Diagnostics) : Logged Diagnostics :=
  ⟨first.value.append second.value, first.events ++ second.events⟩

@[simp] theorem clean_joined (result : Logged Diagnostics) :
    joined (.quiet .clean) result = result :=
  rfl

@[simp] theorem joined_clean (result : Logged Diagnostics) :
    joined result (.quiet .clean) = result := by
  simp [joined, Logged.quiet]

theorem joined_assoc (first second third : Logged Diagnostics) :
    joined (joined first second) third = joined first (joined second third) := by
  simp only [joined, Diagnostics.append_assoc, List.append_assoc]

/-! ## The rule under a key -/

/-- A rule is the last one that is registered under a key. -/
structure IsConsulted (rules : List Rule) (key : Value) (rule : Rule) : Prop where
  key_eq : key = .text rule.name
  last : ∃ earlier later, rules = earlier ++ rule :: later ∧
    ∀ other ∈ later, other.name ≠ rule.name

section Lookup

variable {rules : List Rule} {name : String} {key : Value} {rule : Rule}

theorem find?_eq_some_iff : Rule.find? rules name = some rule ↔
    rule.name = name ∧ ∃ earlier later, rules = earlier ++ rule :: later ∧
      ∀ other ∈ later, other.name ≠ name := by
  rw [Rule.find?, List.find?_eq_some_iff_append, beq_iff_eq]
  refine and_congr_right fun _ => ?_
  constructor
  · rintro ⟨later, earlier, cut, others⟩
    refine ⟨earlier.reverse, later.reverse, ?_, ?_⟩
    · rw [← List.reverse_reverse rules, cut]
      simp
    · intro other member
      simpa using others other (List.mem_reverse.mp member)
  · rintro ⟨earlier, later, rfl, others⟩
    refine ⟨later.reverse, earlier.reverse, by simp, ?_⟩
    intro other member
    simpa using others other (List.mem_reverse.mp member)

theorem find?_eq_none_iff : Rule.find? rules name = none ↔ ∀ rule ∈ rules, rule.name ≠ name := by
  simp [Rule.find?]

theorem lookup_eq_some_iff : lookup rules key = some rule ↔ IsConsulted rules key rule := by
  cases key with
  | text name =>
      rw [lookup, find?_eq_some_iff]
      constructor
      · rintro ⟨rfl, last⟩
        exact ⟨rfl, last⟩
      · rintro ⟨same, last⟩
        cases same
        exact ⟨rfl, last⟩
  | _ =>
      constructor
      · intro impossible
        cases impossible
      · rintro ⟨impossible, -⟩
        cases impossible

theorem IsConsulted.mem (consulted : IsConsulted rules key rule) : rule ∈ rules := by
  obtain ⟨earlier, later, rfl, -⟩ := consulted.last
  simp

theorem lookup_eq_none_iff : lookup rules key = none ↔ ∀ rule ∈ rules, key ≠ .text rule.name := by
  cases key with
  | text name =>
      rw [lookup, find?_eq_none_iff]
      refine forall₂_congr fun rule _ => not_congr ?_
      rw [Value.text.injEq, eq_comm]
  | _ => simp [lookup]

/-- Of two lists of rules the second one is asked first. -/
theorem lookup_append (earlier later : List Rule) :
    lookup (earlier ++ later) key = (lookup later key).or (lookup earlier key) := by
  cases key with
  | text name =>
      rw [lookup, lookup, lookup, Rule.find?, List.reverse_append, List.find?_append]
      rfl
  | _ => rfl

theorem lookup_flatMap_congr {α : Type} {sources : List α} {own own' : α → List Rule}
    (alike : ∀ source ∈ sources, lookup (own' source) key = lookup (own source) key) :
    lookup (sources.flatMap own') key = lookup (sources.flatMap own) key := by
  induction sources with
  | nil => rfl
  | cons source rest ih =>
      obtain ⟨here, later⟩ := List.forall_mem_cons.mp alike
      rw [List.flatMap_cons, List.flatMap_cons, lookup_append, lookup_append, here, ih later]

end Lookup

/-! ## One round -/

variable {rules : List Rule} {message : String} {verbose : Bool}

theorem log_eq_joined (gathered : Logged Diagnostics) (event : Event) :
    gathered.log event = joined gathered (Logged.log (.quiet .clean) event) := by
  simp [Logged.log, joined, Logged.quiet]

theorem judge_eq_joined (gathered : Logged Diagnostics) (rule : Rule) (severity : Severity)
    (verdict : Verdict) :
    judge gathered rule severity verdict =
      joined gathered (judge (.quiet .clean) rule severity verdict) := by
  cases verdict with
  | valid => exact (joined_clean gathered).symm
  | raised => exact log_eq_joined gathered _
  | invalid text =>
      cases blocking : severity.isBlocking <;>
        simp [judge, Logged.map, Diagnostics.report, blocking, joined, Logged.quiet,
          Diagnostics.append, Diagnostics.clean]

/-- What a round adds, when nothing was gathered before. -/
def added (rules : List Rule) (message : String) (verbose : Bool) (key : Value)
    (setting : RuleEntry) : Logged Diagnostics :=
  (round rules message verbose (.quiet .clean) key setting).1

/-- What the rule of a round does to the entries to come. -/
def further (rules : List Rule) (message : String) (key : Value) (setting : RuleEntry) : Reach :=
  (round rules message false (.quiet .clean) key setting).2

/-- A round puts what it adds behind what was gathered, and neither depends on the other. -/
theorem round_eq (gathered : Logged Diagnostics) (key : Value) (setting : RuleEntry) :
    round rules message verbose gathered key setting =
      (joined gathered (added rules message verbose key setting),
        further rules message key setting) := by
  unfold added further round
  cases lookup rules key with
  | none => cases verbose <;> simp [← log_eq_joined]
  | some rule =>
      dsimp only
      cases setting.level.toSeverity? with
      | none => simp [← log_eq_joined]
      | some severity =>
          cases severity with
          | off => simp
          | warning => simp [← judge_eq_joined]
          | error => simp [← judge_eq_joined]

theorem further_of_staysInside (inside : ∀ rule ∈ rules, rule.StaysInside) (key : Value)
    (setting : RuleEntry) : further rules message key setting = .nothing := by
  unfold further round
  cases known : lookup rules key with
  | none => rfl
  | some rule =>
      have among : rule ∈ rules := (lookup_eq_some_iff.mp known).mem
      dsimp only
      cases setting.level.toSeverity? with
      | none => rfl
      | some severity => cases severity <;> first | rfl | exact inside rule among _ _

/-! ## All rounds -/

/-- How the entries read, each in its round, by their keys. -/
def settings (rules : List Rule) (message : String) : Reach → Entries → List (Value × RuleEntry)
  | _, [] => []
  | reach, (key, content) :: rest =>
      let setting := (reach key).getD (RuleEntry.ofValue content)
      (key, setting) ::
        settings rules message (reach.andThen (further rules message key setting)) rest

/-- What some rounds add, one after the other. -/
def total (rules : List Rule) (message : String) (verbose : Bool)
    (settings : List (Value × RuleEntry)) : Logged Diagnostics :=
  let part (setting : Value × RuleEntry) := added rules message verbose setting.1 setting.2
  ⟨⟨settings.flatMap fun setting => (part setting).value.errors,
      settings.flatMap fun setting => (part setting).value.warnings⟩,
    settings.flatMap fun setting => (part setting).events⟩

theorem total_cons (setting : Value × RuleEntry) (rest : List (Value × RuleEntry)) :
    total rules message verbose (setting :: rest) =
      joined (added rules message verbose setting.1 setting.2)
        (total rules message verbose rest) := by
  simp only [total, List.flatMap_cons, joined, Diagnostics.append]

/-- All rounds put what they add behind what was gathered before them. -/
theorem rounds_eq_total (gathered : Logged Diagnostics) (reach : Reach) (entries : Entries) :
    rounds rules message verbose gathered reach entries =
      joined gathered (total rules message verbose (settings rules message reach entries)) := by
  induction entries generalizing gathered reach with
  | nil => exact (joined_clean gathered).symm
  | cons entry rest ih =>
      rw [rounds, round_eq]
      dsimp only
      rw [ih, settings, total_cons, joined_assoc]

theorem evaluate_eq_total (entries : Entries) :
    evaluate rules message verbose entries =
      total rules message verbose (settings rules message .nothing entries) := by
  rw [evaluate, rounds_eq_total, clean_joined]

/-- Entries keep their keys and their order, however they read. -/
theorem map_fst_settings (reach : Reach) (entries : Entries) :
    (settings rules message reach entries).map Prod.fst = entries.map Prod.fst := by
  induction entries generalizing reach with
  | nil => rfl
  | cons entry rest ih => rw [settings, List.map_cons, List.map_cons, ih]

/-- Rules that stay inside leave every entry as it is written. -/
theorem settings_of_staysInside (inside : ∀ rule ∈ rules, rule.StaysInside) (entries : Entries) :
    settings rules message .nothing entries =
      entries.map fun entry => (entry.1, .ofValue entry.2) := by
  induction entries with
  | nil => rfl
  | cons entry rest ih =>
      rw [settings, further_of_staysInside inside, Reach.nothing_andThen, ih, List.map_cons]
      rfl

/-- What an entry gives when it is alone. -/
def contribution (rules : List Rule) (message : String) (verbose : Bool)
    (entry : Value × Value) : Logged Diagnostics :=
  evaluate rules message verbose [entry]

theorem contribution_eq (entry : Value × Value) :
    contribution rules message verbose entry =
      added rules message verbose entry.1 (.ofValue entry.2) := by
  rw [contribution, evaluate_eq_total, settings, settings, total_cons]
  exact joined_clean _

/-! ## What a round can add -/

/-- What a round adds: in five ways nothing is reported, in two one thing is. -/
inductive Adds (rules : List Rule) (message : String) (verbose : Bool) (key : Value)
    (setting : RuleEntry) : Logged Diagnostics → Prop where
  | unknown (unregistered : ∀ rule ∈ rules, key ≠ .text rule.name) :
      Adds rules message verbose key setting
        ⟨.clean, if verbose then [.ruleNotFound key] else []⟩
  | unranked {rule : Rule} (consulted : IsConsulted rules key rule)
      (level : setting.level.toSeverity? = none) :
      Adds rules message verbose key setting ⟨.clean, [.invalidSeverity key setting.level]⟩
  | off {rule : Rule} (consulted : IsConsulted rules key rule)
      (level : setting.level.toSeverity? = some .off) :
      Adds rules message verbose key setting ⟨.clean, []⟩
  | raised {rule : Rule} {severity : Severity} (consulted : IsConsulted rules key rule)
      (level : setting.level.toSeverity? = some severity) (on : severity ≠ .off)
      (verdict : (rule.validate message setting.options).verdict = .raised) :
      Adds rules message verbose key setting ⟨.clean, [.ruleRaised rule.name]⟩
  | valid {rule : Rule} {severity : Severity} (consulted : IsConsulted rules key rule)
      (level : setting.level.toSeverity? = some severity) (on : severity ≠ .off)
      (verdict : (rule.validate message setting.options).verdict = .valid) :
      Adds rules message verbose key setting ⟨.clean, []⟩
  | warning {rule : Rule} {text : Option String} (consulted : IsConsulted rules key rule)
      (level : setting.level.toSeverity? = some .warning)
      (verdict : (rule.validate message setting.options).verdict = .invalid text) :
      Adds rules message verbose key setting ⟨⟨[], [reason rule.name text]⟩, []⟩
  | error {rule : Rule} {text : Option String} (consulted : IsConsulted rules key rule)
      (level : setting.level.toSeverity? = some .error)
      (verdict : (rule.validate message setting.options).verdict = .invalid text) :
      Adds rules message verbose key setting ⟨⟨[reason rule.name text], []⟩, []⟩

/-- A round adds in one of the ways. -/
theorem added_adds (rules : List Rule) (message : String) (verbose : Bool) (key : Value)
    (setting : RuleEntry) :
    Adds rules message verbose key setting (added rules message verbose key setting) := by
  unfold added round
  cases known : lookup rules key with
  | none =>
      have unregistered := lookup_eq_none_iff.mp known
      cases verbose with
      | false => exact .unknown unregistered
      | true => exact .unknown unregistered
  | some rule =>
      have consulted := lookup_eq_some_iff.mp known
      dsimp only
      cases level : setting.level.toSeverity? with
      | none => exact .unranked consulted level
      | some severity =>
          have judged : severity ≠ .off → Adds rules message verbose key setting
              (judge (.quiet .clean) rule severity
                (rule.validate message setting.options).verdict) := by
            intro on
            cases verdict : (rule.validate message setting.options).verdict with
            | raised => exact .raised consulted level on verdict
            | valid => exact .valid consulted level on verdict
            | invalid text =>
                cases severity with
                | off => exact absurd rfl on
                | warning => exact .warning consulted level verdict
                | error => exact .error consulted level verdict
          cases severity with
          | off => exact .off consulted level
          | warning => exact judged (by decide)
          | error => exact judged (by decide)

section

variable {key : Value} {setting : RuleEntry} {part : Logged Diagnostics}
  (adds : Adds rules message verbose key setting part)

include adds

/-- A round reports at most once. -/
theorem Adds.count_le_one : part.value.errors.length + part.value.warnings.length ≤ 1 := by
  cases adds <;> simp [Diagnostics.clean]

/-- What a round reports is an error at the level of errors, and a warning at that of warnings. -/
theorem Adds.placed {text : String}
    (reported : text ∈ part.value.errors ∨ text ∈ part.value.warnings) :
    (text ∈ part.value.errors ↔ setting.level.toSeverity? = some .error) ∧
    (text ∈ part.value.warnings ↔ setting.level.toSeverity? = some .warning) := by
  cases adds with
  | unknown | unranked | off | raised | valid =>
      simp [Diagnostics.clean] at reported
  | warning consulted level verdict =>
      simp only [List.not_mem_nil, false_or] at reported
      simp [level, reported]
  | error consulted level verdict =>
      simp only [List.not_mem_nil, or_false] at reported
      simp [level, reported]

theorem Adds.isOfRound {event : Event} (told : event ∈ part.events) : event.isOfRound = true := by
  cases adds with
  | unknown =>
      cases verbose with
      | false => cases told
      | true => exact List.mem_singleton.mp told ▸ rfl
  | unranked | raised => exact List.mem_singleton.mp told ▸ rfl
  | off | valid | warning | error => cases told

end

theorem evaluate_events {event : Event} {entries : Entries}
    (told : event ∈ (evaluate rules message verbose entries).events) :
    event.isOfRound = true := by
  rw [evaluate_eq_total] at told
  obtain ⟨setting, -, among⟩ := List.mem_flatMap.mp told
  exact (added_adds rules message verbose setting.1 setting.2).isOfRound among

/-! ## Rounds that do the same -/

/-- Rounds that are alike one by one are alike together. -/
theorem evaluate_congr {others : List Rule} {entries entries' : Entries}
    (alike : List.Forall₂ (fun entry entry' => entry'.1 = entry.1 ∧
      ∀ change : Option RuleEntry, ∀ gathered,
        round others message verbose gathered entry.1 (change.getD (.ofValue entry'.2)) =
          round rules message verbose gathered entry.1 (change.getD (.ofValue entry.2)))
      entries entries') :
    evaluate others message verbose entries' = evaluate rules message verbose entries := by
  unfold evaluate
  generalize Logged.quiet Diagnostics.clean = gathered, Reach.nothing = reach
  induction alike generalizing gathered reach with
  | nil => rfl
  | cons first _ ih =>
      obtain ⟨key, same⟩ := first
      rw [rounds, rounds, key, same]
      exact ih _ _

theorem round_congr {others : List Rule} {key : Value}
    (alike : lookup others key = lookup rules key) (gathered : Logged Diagnostics)
    (setting : RuleEntry) :
    round others message verbose gathered key setting =
      round rules message verbose gathered key setting := by
  rw [round, round, alike]

/-- All that an entry needs of the rules is the one that is registered under its name. -/
theorem evaluate_of_lookup {others : List Rule} {entries : Entries}
    (alike : ∀ entry ∈ entries, lookup others entry.1 = lookup rules entry.1) :
    evaluate others message verbose entries = evaluate rules message verbose entries := by
  refine evaluate_congr (List.forall₂_same.mpr fun entry member => ⟨rfl, fun change gathered => ?_⟩)
  exact round_congr (alike entry member) gathered _

end Lint

end CommitLint
