import CommitLint.Proofs.Rule.Verdicts
import CommitLint.Proofs.Text.Numbers
import Mathlib.Data.List.Forall2

/-!
# Blanks at the ends of lines

The complaint of the rule tells the lines that end with a blank and no others:
its numbers are read back, they rise, and they count the lines from one on.
The blanks at the ends of the lines are also all that has to go. Without them
every message is accepted, and only a rejected one is changed.
-/

namespace CommitLint

namespace Text

variable {text line : List Char}

/-- The line of this number, counted from one on, ends with a blank. -/
def EndsBlankAt (text : List Char) (number : Nat) : Prop :=
  ∃ index line, number = index + 1 ∧ (lines text)[index]? = some line ∧ EndsBlank line

/-- What is left of a line when the blanks at its end are gone. -/
structure IsTrimmedRight (line kept : List Char) : Prop where
  cut : ∃ after, line = kept ++ after ∧ allBlank after = true
  back : ¬ EndsBlank kept

/-- The text without the blanks at the ends of its lines. -/
def trimLines (text : List Char) : List Char :=
  unlines ((lines text).map trimRight)

theorem trimRight_isTrimmedRight (line : List Char) : IsTrimmedRight line (trimRight line) :=
  ⟨trimRight_append line, not_endsBlank_iff.mpr (trimRight_back line)⟩

theorem trimRight_flat (flat : '\n' ∉ line) : '\n' ∉ trimRight line := by
  obtain ⟨after, cut, -⟩ := trimRight_append line
  intro among
  apply flat
  rw [cut]
  exact List.mem_append_left after among

/-- Trimming makes no line and loses none. -/
theorem lines_trimLines (text : List Char) :
    lines (trimLines text) = (lines text).map trimRight := by
  apply splitOn_joinWith
  · exact List.map_eq_nil_iff.not.mpr (splitOn_ne_nil '\n' text)
  · intro kept among
    obtain ⟨line, stands, rfl⟩ := List.mem_map.mp among
    exact trimRight_flat (splitOn_flat '\n' text line stands)

theorem trimLines_solid (text : List Char) : ∀ line ∈ lines (trimLines text), ¬ EndsBlank line := by
  rw [lines_trimLines]
  intro kept among
  obtain ⟨line, -, rfl⟩ := List.mem_map.mp among
  exact (trimRight_isTrimmedRight line).back

/-- A text is changed exactly if one of its lines is. -/
theorem trimLines_eq_self_iff : trimLines text = text ↔ ∀ line ∈ lines text, ¬ EndsBlank line := by
  constructor
  · intro same
    rw [← same]
    exact trimLines_solid text
  · intro solid
    have kept : (lines text).map trimRight = (lines text).map id :=
      List.map_congr_left fun line among => (trimRight_eq_self_iff line).mpr (solid line among)
    rw [trimLines, kept, List.map_id, unlines, lines, joinWith_splitOn]

/-- No line ends with a blank exactly if no number is that of such a line. -/
theorem solid_iff_forall_number :
    (∀ line ∈ lines text, ¬ EndsBlank line) ↔ ∀ number, ¬ EndsBlankAt text number := by
  constructor
  · rintro solid number ⟨index, line, -, stands, blank⟩
    exact solid line (List.mem_of_getElem? stands) blank
  · intro free line among blank
    obtain ⟨index, stands⟩ := List.mem_iff_getElem?.mp among
    exact free (index + 1) ⟨index, line, rfl, stands, blank⟩

end Text

namespace TrailingBlank

variable {message : String} {text : List Char} {number : Nat}

/-! ## The numbers of the lines -/

/-- The numbers are taken in their order from those of all lines. -/
theorem offendingFrom_sublist (number : Nat) (lines : List (List Char)) :
    (offendingFrom number lines).Sublist (List.range' number lines.length) := by
  rw [offendingFrom_eq, ← List.zipIdx_map_snd number lines]
  exact List.filter_sublist.map Prod.snd

theorem offendingFrom_pairwise (number : Nat) (lines : List (List Char)) :
    (offendingFrom number lines).Pairwise (· < ·) :=
  List.Pairwise.sublist (offendingFrom_sublist number lines) List.pairwise_lt_range'

theorem mem_offendingFrom_iff :
    number ∈ offendingFrom 1 (Text.lines text) ↔ Text.EndsBlankAt text number := by
  rw [offendingFrom_eq]
  simp only [List.mem_map, List.mem_filter, Prod.exists, decide_eq_true_eq, exists_eq_right,
    List.mk_mem_zipIdx_iff_le_and_getElem?_sub]
  constructor
  · rintro ⟨line, ⟨positive, stands⟩, blank⟩
    exact ⟨number - 1, line, (Nat.sub_add_cancel positive).symm, stands, blank⟩
  · rintro ⟨index, line, rfl, stands, blank⟩
    exact ⟨line, ⟨Nat.le_add_left 1 index, stands⟩, blank⟩

/-- The numbers in a complaint are those that it was made for. -/
theorem numbersIn_complaint (numbers : List Nat) :
    Text.numbersIn (complaint numbers).toList = numbers := by
  have none : "Commit message contains lines with trailing whitespace (lines: ".toList.any
      Char.isDigit = false := by
    decide +kernel
  have wordless : ∀ c ∈ "Commit message contains lines with trailing whitespace (lines: ".toList,
      c.isDigit = false :=
    fun c among => Bool.eq_false_iff.mpr (List.any_eq_false.mp none c among)
  have bracket : ")".toList = [')'] := rfl
  have closing : Char.isDigit ')' = false := by decide
  have nothing : Text.numbersIn [] = [] := rfl
  unfold complaint
  rw [String.toList_append, String.toList_append, List.append_assoc, bracket,
    Text.numbersIn_append_of_no_digit wordless, Text.numbersIn_intercalate numbers closing,
    nothing, List.append_nil]

/-! ## The verdict -/

/-- A message is accepted if no line ends with a blank. Otherwise the numbers of the lines that do
are told in rising order. -/
inductive Judges (message : String) : Verdict → Prop where
  | clean (solid : ∀ number, ¬ Text.EndsBlankAt message.toList number) : Judges message .valid
  | told {numbers : List Nat} (present : numbers ≠ [])
      (exact : ∀ number, number ∈ numbers ↔ Text.EndsBlankAt message.toList number)
      (rising : numbers.Pairwise (· < ·))
      (readBack : Text.numbersIn (complaint numbers).toList = numbers) :
      Judges message (.invalid (some (complaint numbers)))

theorem rule_judges (message : String) (options : Option Entries) :
    Judges message (rule.validate message options).verdict := by
  change Judges message (verdict message options)
  rw [verdict]
  split
  case h_1 none =>
    exact .clean (Text.solid_iff_forall_number.mp (offendingFrom_eq_nil_iff.mp none))
  case h_2 some =>
    exact .told some (fun number => mem_offendingFrom_iff) (offendingFrom_pairwise _ _)
      (numbersIn_complaint _)

theorem Judges.valid_iff {verdict : Verdict} (judges : Judges message verdict) :
    verdict = .valid ↔ ∀ line ∈ Text.lines message.toList, ¬ Text.EndsBlank line := by
  rw [Text.solid_iff_forall_number]
  cases judges with
  | clean solid => exact ⟨fun _ => solid, fun _ => rfl⟩
  | told present exact rising readBack =>
      obtain ⟨number, among⟩ := List.exists_mem_of_ne_nil _ present
      constructor
      · intro impossible
        cases impossible
      · intro solid
        exact absurd ((exact number).mp among) (solid number)

/-- The message without the blanks at the ends of its lines. -/
def mend (message : String) : String :=
  String.ofList (Text.trimLines message.toList)

theorem mend_eq_self_iff :
    mend message = message ↔ ∀ line ∈ Text.lines message.toList, ¬ Text.EndsBlank line := by
  rw [← Text.trimLines_eq_self_iff, mend, ← String.toList_inj, String.toList_ofList]

/--
The rule accepts the messages without a blank at the end of a line, and tells
the lines of the others by their numbers. Taking the blanks away, line by line
and nothing else, gives a message that it accepts under any options, and
changes exactly the messages that it rejects.
-/
theorem rule_tells_and_mends (message : String) (options : Option Entries) :
    Judges message (rule.validate message options).verdict ∧
    List.Forall₂ Text.IsTrimmedRight (Text.lines message.toList)
      (Text.lines (mend message).toList) ∧
    (rule.validate (mend message) options).verdict = .valid ∧
    (mend message ≠ message ↔ (rule.validate message options).verdict ≠ .valid) := by
  refine ⟨rule_judges message options, ?trimmed, ?accepted, ?changed⟩
  case trimmed =>
    rw [mend, String.toList_ofList, Text.lines_trimLines, List.forall₂_map_right_iff,
      List.forall₂_same]
    exact fun line _ => Text.trimRight_isTrimmedRight line
  case accepted =>
    refine (rule_judges (mend message) options).valid_iff.mpr ?_
    rw [mend, String.toList_ofList]
    exact Text.trimLines_solid message.toList
  case changed =>
    exact (mend_eq_self_iff.trans (rule_judges message options).valid_iff.symm).not

example : (verdict "feat: h \n\nbody\t\nok\r" none) =
    .invalid (some "Commit message contains lines with trailing whitespace (lines: 1, 3, 4)") := by
  decide +kernel

end TrailingBlank

end CommitLint
