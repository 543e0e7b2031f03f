import CommitLint.Proofs.Rule.Conventional
import CommitLint.Proofs.Text.Lines
import CommitLint.Proofs.Text.Trim
import CommitLint.Rule.Builtin

/-!
# Verdicts

Every built-in rule has one condition on the lines of a message and one
complaint about its violation. The limits of lengths are conditions on the
options as well.
-/

namespace CommitLint

/-- The verdict of a rule with one condition and one complaint. -/
def Verdict.given (holds : Prop) [Decidable holds] (complaint : String) : Verdict :=
  if holds then .valid else .invalid (some complaint)

namespace Verdict

variable {holds : Prop} [Decidable holds] {complaint : String}

theorem given_congr {other : Prop} [Decidable other] (agrees : holds ↔ other) :
    Verdict.given holds complaint = .given other complaint := by
  rw [given, given, if_congr agrees rfl rfl]

theorem given_eq_valid_iff : Verdict.given holds complaint = .valid ↔ holds := by
  by_cases so : holds <;> simp [given, so]

theorem given_eq_invalid_iff :
    Verdict.given holds complaint = .invalid (some complaint) ↔ ¬ holds := by
  by_cases so : holds <;> simp [given, so]

theorem eq_given_of_iff {test : Bool} (agrees : test = true ↔ holds) :
    (if test then valid else invalid (some complaint)) = Verdict.given holds complaint := by
  by_cases so : holds
  · rw [given, if_pos so, if_pos (agrees.mpr so)]
  · rw [given, if_neg so, if_neg fun passed => so (agrees.mp passed)]

theorem eq_given_of_not_iff {test : Prop} [Decidable test] (agrees : test ↔ ¬ holds) :
    (if test then invalid (some complaint) else valid) = Verdict.given holds complaint := by
  by_cases so : holds
  · rw [given, if_pos so, if_neg fun failed => agrees.mp failed so]
  · rw [given, if_neg so, if_pos (agrees.mpr so)]

end Verdict

variable {message : String} {first : List Char} {rest : List (List Char)} (options : Option Entries)

theorem firstLine_of_lines (lines : Text.lines message.toList = first :: rest) :
    Text.firstLine message.toList = first :=
  Text.firstLine_of_lines_eq lines

namespace Conventional

/-- The one complaint about headers that are not conventional. -/
def complaint : String :=
  "Commit message header does not follow conventional commit format: " ++
    "<type>[(scope)]: <description>"

theorem verdict_of_lines (lines : Text.lines message.toList = first :: rest) :
    verdict message options =
      .given (IsConventional (dropQuotationMarks first)) complaint := by
  rw [verdict, firstLine_of_lines lines]
  exact Verdict.eq_given_of_iff accepts_iff

end Conventional

namespace HeaderLength

def complaint (limit : Int) (length : Nat) : String :=
  "Commit message header exceeds maximum length of " ++ toString limit ++ " characters (" ++
    toString length ++ ")"

theorem verdict_of_lines (lines : Text.lines message.toList = first :: rest) :
    verdict message options =
      .given (first.length ≤ maxLength options fallback)
        (complaint (maxLength options fallback) first.length) := by
  rw [verdict, firstLine_of_lines lines]
  exact Verdict.eq_given_of_not_iff Int.not_le.symm

end HeaderLength

namespace BodyLength

def complaint (limit : Int) : String :=
  "Commit message body contains lines exceeding maximum length of " ++ toString limit ++
    " characters"

theorem verdict_of_lines (lines : Text.lines message.toList = first :: rest) :
    verdict message options =
      .given (∀ line ∈ rest.drop 1, Text.allBlank line = true ∨
          line.length ≤ maxLength options fallback)
        (complaint (maxLength options fallback)) := by
  rw [verdict, measured, lines]
  refine Verdict.eq_given_of_not_iff ?_
  simp only [List.any_eq_true, List.mem_filter, List.drop_succ_cons, Bool.not_eq_true',
    decide_eq_true_eq]
  constructor
  · rintro ⟨line, ⟨member, solid⟩, long⟩ short
    rcases short line member with blank | fits
    · rw [blank] at solid
      cases solid
    · exact absurd fits (Int.not_le.mpr long)
  · intro exceeded
    simp only [not_forall, not_or] at exceeded
    obtain ⟨line, member, solid, long⟩ := exceeded
    exact ⟨line, ⟨member, Bool.of_not_eq_true solid⟩, Int.not_le.mp long⟩

end BodyLength

namespace LeadingBlank

def complaint : String :=
  "Commit message must have a blank line between header and body"

theorem verdict_of_lines (lines : Text.lines message.toList = first :: rest) :
    verdict message options =
      .given (∀ second ∈ rest.head?, Text.allBlank second = true) complaint := by
  rw [verdict, lines]
  cases rest with
  | nil => rfl
  | cons second others =>
      refine Verdict.eq_given_of_iff ?_
      simp

end LeadingBlank

namespace TrailingBlank

/-- The numbers of the lines that end with a blank, as they are told. -/
def complaint (numbers : List Nat) : String :=
  "Commit message contains lines with trailing whitespace (lines: " ++
    ", ".intercalate (numbers.map toString) ++ ")"

instance (line : List Char) : Decidable (Text.EndsBlank line) :=
  decidable_of_iff (Text.trimRight line ≠ line)
    (Iff.not_left (Text.trimRight_eq_self_iff line))

theorem offendingFrom_eq (number : Nat) (lines : List (List Char)) :
    offendingFrom number lines =
      ((lines.zipIdx number).filter fun numbered => Text.EndsBlank numbered.1).map (·.2) := by
  induction lines generalizing number with
  | nil => rfl
  | cons line rest ih =>
      rw [offendingFrom, List.zipIdx_cons, ih]
      by_cases blank : Text.EndsBlank line
      · rw [if_neg (mt (Text.trimRight_eq_self_iff line).mp (not_not_intro blank)),
          List.filter_cons_of_pos (by simpa using blank), List.map_cons]
      · rw [if_pos ((Text.trimRight_eq_self_iff line).mpr blank),
          List.filter_cons_of_neg (by simpa using blank)]

theorem offendingFrom_eq_nil_iff {number : Nat} {lines : List (List Char)} :
    offendingFrom number lines = [] ↔ ∀ line ∈ lines, ¬ Text.EndsBlank line := by
  induction lines generalizing number with
  | nil => simp [offendingFrom]
  | cons line rest ih =>
      rw [offendingFrom, List.forall_mem_cons, ← Text.trimRight_eq_self_iff, ← ih]
      split
      case isTrue solid => exact ⟨fun others => ⟨solid, others⟩, And.right⟩
      case isFalse blank => exact ⟨(absurd · (List.cons_ne_nil _ _)), (absurd ·.1 blank)⟩

theorem verdict_of_lines (lines : Text.lines message.toList = first :: rest) :
    verdict message options =
      .given (∀ line ∈ first :: rest, ¬ Text.EndsBlank line)
        (complaint ((((first :: rest).zipIdx 1).filter fun numbered =>
          Text.EndsBlank numbered.1).map (·.2))) := by
  rw [verdict, lines, ← offendingFrom_eq]
  split
  case h_1 none => rw [Verdict.given, if_pos (offendingFrom_eq_nil_iff.mp none)]
  case h_2 some =>
    rw [Verdict.given, if_neg fun solid => some (offendingFrom_eq_nil_iff.mpr solid)]
    rfl

end TrailingBlank

end CommitLint
