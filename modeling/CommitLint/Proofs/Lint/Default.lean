import CommitLint.Config.Basic
import CommitLint.Proofs.Lint.Rounds
import CommitLint.Proofs.Pattern.Word
import CommitLint.Proofs.Rule.ConventionalPattern
import CommitLint.Proofs.Rule.Verdicts

/-!
# Linting by default

With nothing configured, a message that begins with one of a few words is
left alone. For every other message each of the five built-in rules stands
for one condition on its lines and reports once if the condition is violated,
in the order of the configuration; only blanks at the ends of lines are a
warning.
-/

namespace CommitLint

/-- The beginnings of messages that are written by tools. -/
def exemptWords : List String :=
  ["Merge branch", "Merge pull request", "Merged PR", "Revert ", "Release "]

/-- A message that begins so is left alone. -/
def IsExempt (message : String) : Prop :=
  ∃ word ∈ exemptWords, word.toList <+: message.toList

instance (message : String) : Decidable (IsExempt message) :=
  inferInstanceAs (Decidable (∃ word ∈ exemptWords, word.toList <+: message.toList))

/-- What a condition adds to a report: its complaint if it is violated. -/
def complaintUnless (holds : Prop) [Decidable holds] (complaint : String) : List String :=
  if holds then [] else [complaint]

theorem complaintUnless_eq_nil_iff {holds : Prop} [Decidable holds] {complaint : String} :
    complaintUnless holds complaint = [] ↔ holds := by
  rw [complaintUnless]
  split
  case isTrue so => exact ⟨fun _ => so, fun _ => rfl⟩
  case isFalse so => exact ⟨(absurd · (List.cons_ne_nil _ _)), (absurd · so)⟩

theorem length_complaintUnless_le_one {holds : Prop} [Decidable holds] {complaint : String} :
    (complaintUnless holds complaint).length ≤ 1 := by
  rw [complaintUnless]
  split
  · exact Nat.zero_le 1
  · exact Nat.le_refl 1

namespace Lint

variable {message : String} {words : List String}

/-- Words without signs behind carets leave alone the messages that begin with one of them. -/
theorem isIgnored_carets [CharacterNames] (plain : ∀ word ∈ words, Pattern.IsPlain word.toList) :
    isIgnored message.toList (words.map fun word => .text ("^" ++ word)) =
      .quiet (.ok (decide (∃ word ∈ words, word.toList <+: message.toList))) := by
  induction words with
  | nil => rfl
  | cons word rest ih =>
      obtain ⟨here, later⟩ := List.forall_mem_cons.mp plain
      have searched : search (.text ("^" ++ word)) message.toList =
          .ok (some (decide (word.toList <+: message.toList))) := by
        have caret : ("^" ++ word).toList = '^' :: word.toList := by
          rw [String.toList_append]
          rfl
        rw [search, caret, Pattern.search_caret here]
      rw [List.map_cons, isIgnored, searched]
      by_cases front : word.toList <+: message.toList
      · simp [front]
      · simp [front, ih later]

theorem reason_some {rule text : String} (told : text ≠ "") : reason rule (some text) = text := by
  unfold reason
  split
  · rename_i impossible
    cases impossible
  · rename_i empty
    cases empty
    exact absurd rfl told
  · rename_i other same
    cases same
    rfl

/-- A rule with one condition reports its complaint at the severity of its entry. -/
theorem judge_given {rule : Rule} {holds : Prop} [Decidable holds] {complaint : String}
    (told : complaint ≠ "") (severity : Severity) :
    (judge (.quiet .clean) rule severity (.given holds complaint)).value =
      if severity.isBlocking then ⟨complaintUnless holds complaint, []⟩
      else ⟨[], complaintUnless holds complaint⟩ := by
  rw [Verdict.given, complaintUnless]
  by_cases so : holds
  · simp only [if_pos so, judge, Logged.quiet, Diagnostics.clean, ite_self]
  · simp only [if_neg so, judge, Logged.map, Logged.quiet, reason_some told, Diagnostics.report,
      Diagnostics.clean, List.nil_append]

/-- The entries of the default, each with its rule, its severity and its options. -/
theorem evaluate_default (message : String) (verbose : Bool) :
    let said (rule : Rule) (severity : Severity) (options : Option Entries) : Diagnostics :=
      (judge (.quiet .clean) rule severity (rule.validate message options).verdict).value
    (evaluate Rule.builtin message verbose Config.default.rules).value =
      (said Conventional.rule .error none).append
      ((said HeaderLength.rule .error (some [(.text "maxLength", .int 72)])).append
      ((said BodyLength.rule .error (some [(.text "maxLength", .int 100)])).append
      ((said LeadingBlank.rule .error none).append
      ((said TrailingBlank.rule .warning none).append .clean)))) := by
  intro said
  rw [evaluate_eq_total, settings_of_staysInside Rule.staysInside_builtin]
  rfl

end Lint

theorem append_ne_empty {last : String} (told : last ≠ "") (front : String) :
    front ++ last ≠ "" :=
  fun nothing => told (String.append_eq_empty_iff.mp nothing).2

/-- The lines from the third one on fit a limit as far as they are not blank. -/
def BodyFits (limit : Nat) (rest : List (List Char)) : Prop :=
  ∀ line ∈ rest.drop 1, Text.allBlank line = true ∨ line.length ≤ limit

/-- The second line is blank, if there is one. -/
def LeadsBlank (rest : List (List Char)) : Prop :=
  ∀ second ∈ rest.head?, Text.allBlank second = true

instance (limit : Nat) (rest : List (List Char)) : Decidable (BodyFits limit rest) :=
  inferInstanceAs (Decidable (∀ line ∈ rest.drop 1, _))

instance (rest : List (List Char)) : Decidable (LeadsBlank rest) :=
  inferInstanceAs (Decidable (∀ second ∈ rest.head?, _))

/-- What the default reports about a message that is not left alone. -/
def defaultDiagnostics (first : List Char) (rest : List (List Char)) : Diagnostics where
  errors :=
    complaintUnless (Conventional.IsConventional (dropQuotationMarks first))
        Conventional.complaint ++
      complaintUnless (first.length ≤ 72) (HeaderLength.complaint 72 first.length) ++
      complaintUnless (BodyFits 100 rest) (BodyLength.complaint 100) ++
      complaintUnless (LeadsBlank rest) LeadingBlank.complaint
  warnings :=
    complaintUnless (∀ line ∈ first :: rest, ¬ Text.EndsBlank line)
      (TrailingBlank.complaint ((((first :: rest).zipIdx 1).filter fun numbered =>
        Text.EndsBlank numbered.1).map (·.2)))

theorem evaluate_default_of_lines {message : String} {first : List Char}
    {rest : List (List Char)} (lines : Text.lines message.toList = first :: rest)
    (verbose : Bool) :
    (Lint.evaluate Rule.builtin message verbose Config.default.rules).value =
      defaultDiagnostics first rest := by
  have conventional : (Conventional.rule.validate message none).verdict =
      .given (Conventional.IsConventional (dropQuotationMarks first)) Conventional.complaint :=
    Conventional.verdict_of_lines none lines
  have header : (HeaderLength.rule.validate message (some [(.text "maxLength", .int 72)])).verdict =
      .given (first.length ≤ 72) (HeaderLength.complaint 72 first.length) :=
    (HeaderLength.verdict_of_lines _ lines).trans (Verdict.given_congr Int.ofNat_le)
  have body : (BodyLength.rule.validate message (some [(.text "maxLength", .int 100)])).verdict =
      .given (BodyFits 100 rest) (BodyLength.complaint 100) := by
    refine (BodyLength.verdict_of_lines _ lines).trans (Verdict.given_congr ?_)
    exact forall₂_congr fun line _ => or_congr_right Int.ofNat_le
  have leading : (LeadingBlank.rule.validate message none).verdict =
      .given (LeadsBlank rest) LeadingBlank.complaint :=
    LeadingBlank.verdict_of_lines none lines
  have trailing : (TrailingBlank.rule.validate message none).verdict =
      .given (∀ line ∈ first :: rest, ¬ Text.EndsBlank line)
        (TrailingBlank.complaint ((((first :: rest).zipIdx 1).filter fun numbered =>
          Text.EndsBlank numbered.1).map (·.2))) :=
    TrailingBlank.verdict_of_lines none lines
  have close (front : String) : front ++ ")" ≠ "" := append_ne_empty (by decide) front
  have unit (front : String) : front ++ " characters" ≠ "" := append_ne_empty (by decide) front
  have headerTold : HeaderLength.complaint 72 first.length ≠ "" := close _
  have bodyTold : BodyLength.complaint 100 ≠ "" := unit _
  have trailingTold (numbers : List Nat) : TrailingBlank.complaint numbers ≠ "" := close _
  rw [Lint.evaluate_default]
  dsimp only
  rw [conventional, header, body, leading, trailing, Lint.judge_given (by decide),
    Lint.judge_given headerTold, Lint.judge_given bodyTold, Lint.judge_given (by decide),
    Lint.judge_given (trailingTold _)]
  simp [defaultDiagnostics, Diagnostics.append, Diagnostics.clean, Severity.isBlocking]

theorem isIgnored_default [CharacterNames] (message : String) :
    (Lint.isIgnored message.toList Config.default.allIgnores).value =
      .ok (decide (IsExempt message)) := by
  have plain : ∀ word ∈ exemptWords, Pattern.IsPlain word.toList := by decide +kernel
  have patterns : Config.default.allIgnores = exemptWords.map fun word => .text ("^" ++ word) := rfl
  rw [patterns, Lint.isIgnored_carets plain]
  rfl

/--
Linting by default reports nothing about an exempt message. About any other
one it reports an error for each violated condition on its lines, in the order
of the rules, and one warning if some line ends with a blank. The headers of
the first condition are those that the pattern of the rule is found in.
-/
theorem lint_default [CharacterNames] (message : String) (asked : Option Bool) :
    ∃ (first : List Char) (rest : List (List Char)) (diagnostics : Diagnostics),
      Text.lines message.toList = first :: rest ∧
      Pattern.search Conventional.patternText (dropQuotationMarks first) =
        .ok (decide (Conventional.IsConventional (dropQuotationMarks first))) ∧
      (lint Config.default Rule.builtin message asked).value = .ok diagnostics ∧
      (IsExempt message → diagnostics.errors = [] ∧ diagnostics.warnings = []) ∧
      (¬ IsExempt message →
        diagnostics = defaultDiagnostics first rest ∧
        (diagnostics.errors = [] ↔
          Conventional.IsConventional (dropQuotationMarks first) ∧ first.length ≤ 72 ∧
            LeadsBlank rest ∧ BodyFits 100 rest) ∧
        (diagnostics.warnings = [] ↔ ∀ line ∈ first :: rest, ¬ Text.EndsBlank line) ∧
        diagnostics.warnings.length ≤ 1) := by
  obtain ⟨first, rest, lines⟩ :=
    List.exists_cons_of_ne_nil (Text.splitOn_ne_nil '\n' message.toList)
  refine ⟨first, rest, if IsExempt message then .clean else defaultDiagnostics first rest, lines,
    ?_, ?_, ?_, ?_⟩
  · have flat : '\n' ∉ first := firstLine_of_lines lines ▸ Text.firstLine_flat message.toList
    rw [Conventional.search_patternText (dropQuotationMarks_flat flat)]
    refine congrArg Except.ok (Bool.eq_iff_iff.mpr ?_)
    rw [Conventional.accepts_iff, decide_eq_true_eq]
  · rw [lint]
    dsimp only
    rw [isIgnored_default]
    by_cases exempt : IsExempt message
    · rw [if_pos exempt, decide_eq_true exempt]
    · rw [if_neg exempt, decide_eq_false exempt]
      exact congrArg Except.ok (evaluate_default_of_lines lines _)
  · intro exempt
    rw [if_pos exempt]
    exact ⟨rfl, rfl⟩
  · intro ordinary
    rw [if_neg ordinary]
    refine ⟨rfl, ?_, complaintUnless_eq_nil_iff, ?_⟩
    · simp only [defaultDiagnostics, List.append_eq_nil_iff, complaintUnless_eq_nil_iff]
      exact ⟨fun ⟨⟨⟨a, b⟩, d⟩, c⟩ => ⟨a, b, c, d⟩, fun ⟨a, b, c, d⟩ => ⟨⟨⟨a, b⟩, d⟩, c⟩⟩
    · exact length_complaintUnless_le_one

end CommitLint
