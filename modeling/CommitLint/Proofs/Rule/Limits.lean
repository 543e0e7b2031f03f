import CommitLint.Proofs.Rule.Verdicts
import Mathlib.Order.Bounds.Basic

/-!
# Limits of lengths

The rules for lengths accept up to a limit and not beyond. The limit is the
one that the options set, and one rule measures the first line, the other one
the lines from the third on that are not blank. So each rule has a least
limit that it accepts a message under, and what stands in other lines does
not matter to it.
-/

namespace CommitLint

/-- The limit that some options set: a positive whole number, or else the one to fall back to. -/
inductive SetsLimit (options : Option Entries) (fallback : Int) : Int → Prop where
  | number {entries : Entries} {limit : Int} (given : options = some entries)
      (named : entries.named? "maxLength" = some (.int limit)) (positive : 0 < limit) :
      SetsLimit options fallback limit
  | fallback (unset : ∀ entries limit, options = some entries →
      entries.named? "maxLength" = some (.int limit) → ¬ 0 < limit) :
      SetsLimit options fallback fallback

/-- Options that set a limit and nothing else. -/
def limitedTo (limit : Int) : Option Entries :=
  some [(.text "maxLength", .int limit)]

section

variable {options : Option Entries} {entries : Entries} {fallback limit : Int}

theorem maxLength_of_named (named : entries.named? "maxLength" = some (.int limit))
    (positive : 0 < limit) : maxLength (some entries) fallback = limit := by
  simp [maxLength, named, positive]

theorem maxLength_of_unset (unset : ∀ entries limit, options = some entries →
    entries.named? "maxLength" = some (.int limit) → ¬ 0 < limit) :
    maxLength options fallback = fallback := by
  unfold maxLength
  split
  next limit found =>
    obtain ⟨entries, given, named⟩ := Option.bind_eq_some_iff.mp found
    rw [if_neg (unset entries limit given named)]
  next => rfl

theorem maxLength_setsLimit (options : Option Entries) (fallback : Int) :
    SetsLimit options fallback (maxLength options fallback) := by
  by_cases set : ∃ entries limit, options = some entries ∧
      entries.named? "maxLength" = some (.int limit) ∧ 0 < limit
  · obtain ⟨entries, limit, given, named, positive⟩ := set
    have found : maxLength options fallback = limit := by
      rw [given, maxLength_of_named named positive]
    rw [found]
    exact .number given named positive
  · have unset : ∀ entries limit, options = some entries →
        entries.named? "maxLength" = some (.int limit) → ¬ 0 < limit :=
      fun entries limit given named positive => set ⟨entries, limit, given, named, positive⟩
    rw [maxLength_of_unset unset]
    exact .fallback unset

/-- Options set one limit, whatever they are. -/
theorem maxLength_eq_iff :
    maxLength options fallback = limit ↔ SetsLimit options fallback limit := by
  constructor
  · rintro rfl
    exact maxLength_setsLimit options fallback
  · intro sets
    cases sets with
    | number given named positive => rw [given, maxLength_of_named named positive]
    | fallback unset => exact maxLength_of_unset unset

theorem maxLength_limitedTo (positive : 0 < limit) :
    maxLength (limitedTo limit) fallback = limit :=
  maxLength_of_named (by simp [Entries.named?, Entries.get?, Value.same_text]) positive

end

/-! ## What is measured -/

namespace HeaderLength

/-- The lines of a message that the rule measures. -/
def Measures (lines : List (List Char)) (line : List Char) : Prop :=
  lines[0]? = some line

theorem valid_iff (message : String) (options : Option Entries) :
    verdict message options = .valid ↔
      ∀ line, Measures (Text.lines message.toList) line →
        line.length ≤ maxLength options fallback := by
  obtain ⟨first, rest, lines⟩ :=
    List.exists_cons_of_ne_nil (Text.splitOn_ne_nil '\n' message.toList)
  rw [verdict_of_lines options lines, Verdict.given_eq_valid_iff, Text.lines, lines]
  simp [Measures]

theorem verdict_congr {message other : String} (options : Option Entries)
    (same : (Text.lines other.toList)[0]? = (Text.lines message.toList)[0]?) :
    verdict other options = verdict message options := by
  rw [← List.head?_eq_getElem?, ← List.head?_eq_getElem?, Text.head?_lines, Text.head?_lines,
    Option.some_inj] at same
  rw [verdict, verdict, same]

end HeaderLength

namespace BodyLength

/-- The lines of a message that the rule measures. -/
def Measures (lines : List (List Char)) (line : List Char) : Prop :=
  ∃ index, 2 ≤ index ∧ lines[index]? = some line ∧ Text.allBlank line = false

theorem measures_iff {lines : List (List Char)} {line : List Char} :
    Measures lines line ↔ line ∈ lines.drop 2 ∧ Text.allBlank line = false := by
  rw [List.mem_iff_getElem?]
  simp only [List.getElem?_drop]
  constructor
  · rintro ⟨index, behind, stands, solid⟩
    exact ⟨⟨index - 2, by rwa [Nat.add_sub_cancel' behind]⟩, solid⟩
  · rintro ⟨⟨index, stands⟩, solid⟩
    exact ⟨2 + index, Nat.le_add_right 2 index, stands, solid⟩

theorem valid_iff (message : String) (options : Option Entries) :
    verdict message options = .valid ↔
      ∀ line, Measures (Text.lines message.toList) line →
        line.length ≤ maxLength options fallback := by
  obtain ⟨first, rest, lines⟩ :=
    List.exists_cons_of_ne_nil (Text.splitOn_ne_nil '\n' message.toList)
  rw [verdict_of_lines options lines, Verdict.given_eq_valid_iff, Text.lines, lines]
  simp only [measures_iff, List.drop_succ_cons, and_imp, or_iff_not_imp_left, Bool.not_eq_true]

theorem verdict_congr {message other : String} (options : Option Entries)
    (same : ∀ index, 2 ≤ index →
      (Text.lines other.toList)[index]? = (Text.lines message.toList)[index]?) :
    verdict other options = verdict message options := by
  have behind : (Text.lines other.toList).drop 2 = (Text.lines message.toList).drop 2 := by
    apply List.ext_getElem?
    intro index
    rw [List.getElem?_drop, List.getElem?_drop, same _ (Nat.le_add_right 2 index)]
  rw [verdict, verdict, measured, measured, behind]

end BodyLength

/-! ## The least limit -/

/-- The length of the longest one of some lines. -/
def longest (lines : List (List Char)) : Nat :=
  (lines.map List.length).foldr max 0

theorem longest_le_iff {lines : List (List Char)} {limit : Nat} :
    longest lines ≤ limit ↔ ∀ line ∈ lines, line.length ≤ limit := by
  induction lines with
  | nil => simp [longest]
  | cons first rest ih =>
      rw [List.forall_mem_cons, ← ih]
      exact Nat.max_le

/-- A rule that accepts up to a limit accepts a message under the longest line that is measured,
and under no positive limit below it. -/
theorem isLeast_of_threshold {accepts : Int → Prop} {lines : List (List Char)}
    (threshold : ∀ limit, 0 < limit →
      (accepts limit ↔ ∀ line ∈ lines, line.length ≤ limit)) :
    IsLeast {limit : Int | 0 < limit ∧ accepts limit} (max 1 (longest lines : Int)) := by
  have lower : ∀ limit : Int, 0 < limit →
      (accepts limit ↔ (longest lines : Int) ≤ limit) := by
    intro limit positive
    obtain ⟨count, rfl⟩ := Int.eq_ofNat_of_zero_le positive.le
    rw [threshold _ positive, Int.ofNat_le, longest_le_iff]
    exact forall₂_congr fun line _ => Int.ofNat_le
  have positive : 0 < max 1 (longest lines : Int) := by omega
  refine ⟨⟨positive, (lower _ positive).mpr (le_max_right _ _)⟩, ?_⟩
  rintro limit ⟨positive, accepted⟩
  exact max_le positive ((lower limit positive).mp accepted)

/-- A rule measures some lines of a message and accepts them up to the limit of the options. -/
structure LimitsLength (rule : Rule) (fallback : Int)
    (Measures : List (List Char) → List Char → Prop) (message : String) : Prop where
  threshold : ∀ options, (rule.validate message options).verdict = .valid ↔
    ∀ line, Measures (Text.lines message.toList) line →
      line.length ≤ maxLength options fallback
  monotone : ∀ options wider, maxLength options fallback ≤ maxLength wider fallback →
    (rule.validate message options).verdict = .valid →
    (rule.validate message wider).verdict = .valid
  least : ∃ measured, (∀ line, line ∈ measured ↔ Measures (Text.lines message.toList) line) ∧
    IsLeast {limit : Int | 0 < limit ∧
      (rule.validate message (limitedTo limit)).verdict = .valid} (max 1 (longest measured : Int))

theorem limitsLength_of_threshold {rule : Rule} {fallback : Int}
    {Measures : List (List Char) → List Char → Prop} {message : String}
    {measured : List (List Char)}
    (threshold : ∀ options, (rule.validate message options).verdict = .valid ↔
      ∀ line, Measures (Text.lines message.toList) line →
        line.length ≤ maxLength options fallback)
    (lists : ∀ line, line ∈ measured ↔ Measures (Text.lines message.toList) line) :
    LimitsLength rule fallback Measures message := by
  refine ⟨threshold, ?monotone, measured, lists, isLeast_of_threshold ?least⟩
  case monotone =>
    intro options wider below accepted
    rw [threshold] at accepted ⊢
    exact fun line among => (accepted line among).trans below
  case least =>
    intro limit positive
    simp only [threshold, maxLength_limitedTo positive, lists]

theorem HeaderLength.limitsLength (message : String) :
    LimitsLength HeaderLength.rule HeaderLength.fallback HeaderLength.Measures message := by
  have lists : ∀ line, line ∈ [Text.firstLine message.toList] ↔
      Measures (Text.lines message.toList) line := by
    intro line
    rw [List.mem_singleton, Measures, ← List.head?_eq_getElem?, Text.head?_lines, Option.some_inj,
      eq_comm]
  exact limitsLength_of_threshold (HeaderLength.valid_iff message) lists

theorem BodyLength.limitsLength (message : String) :
    LimitsLength BodyLength.rule BodyLength.fallback BodyLength.Measures message := by
  have lists : ∀ line, line ∈ measured message ↔ Measures (Text.lines message.toList) line := by
    intro line
    rw [measures_iff, measured, List.mem_filter, Bool.not_eq_true']
  exact limitsLength_of_threshold (BodyLength.valid_iff message) lists

/--
One rule measures the first line and falls back to 72, the other one the
lines from the third on that are not blank, and falls back to 100. Each
accepts exactly the lines that fit the limit of the options, so a wider limit
accepts no less, and the least limit that accepts a message is that of its
longest line. What neither rule measures has no part in its verdict: another
second line, another first line for the one, other later lines for the other.
-/
theorem lengthRules_limit (message : String) :
    (∀ options fallback limit, maxLength options fallback = limit ↔
      SetsLimit options fallback limit) ∧
    LimitsLength HeaderLength.rule 72 HeaderLength.Measures message ∧
    LimitsLength BodyLength.rule 100 BodyLength.Measures message ∧
    ∀ other options,
      let lines := Text.lines message.toList
      let edited := Text.lines other.toList
      ((∀ index, index ≠ 1 → edited[index]? = lines[index]?) →
        (HeaderLength.rule.validate other options).verdict =
            (HeaderLength.rule.validate message options).verdict ∧
          (BodyLength.rule.validate other options).verdict =
            (BodyLength.rule.validate message options).verdict) ∧
      ((∀ index, index ≠ 0 → edited[index]? = lines[index]?) →
        (BodyLength.rule.validate other options).verdict =
          (BodyLength.rule.validate message options).verdict) ∧
      (edited[0]? = lines[0]? →
        (HeaderLength.rule.validate other options).verdict =
          (HeaderLength.rule.validate message options).verdict) := by
  refine ⟨fun options fallback limit => maxLength_eq_iff, HeaderLength.limitsLength message,
    BodyLength.limitsLength message, ?_⟩
  intro other options lines edited
  refine ⟨fun same => ⟨?_, ?_⟩, fun same => ?_, HeaderLength.verdict_congr options⟩
  · exact HeaderLength.verdict_congr options (same 0 (by decide))
  · exact BodyLength.verdict_congr options fun index behind => same index (by omega)
  · exact BodyLength.verdict_congr options fun index behind => same index (by omega)

/-- The third line has four characters and fits four but not three; neither the longer second line
nor the blank fourth one is measured. -/
theorem lengthRules_limit_four :
    let message := "ab\nsecond line\ncdef\n          "
    let other := "ab\n\ncdef\n          "
    (BodyLength.rule.validate message (limitedTo 4)).verdict = .valid ∧
      (BodyLength.rule.validate message (limitedTo 3)).verdict ≠ .valid ∧
      (BodyLength.rule.validate other (limitedTo 4)).verdict = .valid ∧
      (HeaderLength.rule.validate other (limitedTo 1)).verdict ≠ .valid := by
  intro message other
  have lines : Text.lines message.toList =
      ["ab".toList, "second line".toList, "cdef".toList, "          ".toList] := by
    decide +kernel
  have edited : Text.lines other.toList =
      ["ab".toList, [], "cdef".toList, "          ".toList] := by
    decide +kernel
  obtain ⟨limits, header, body, edits⟩ := lengthRules_limit message
  have alike : ∀ index, index ≠ 1 →
      (Text.lines other.toList)[index]? = (Text.lines message.toList)[index]? := by
    intro index apart
    rw [lines, edited]
    match index with
    | 0 => rfl
    | 1 => exact absurd rfl apart
    | index + 2 => rfl
  have four : (BodyLength.rule.validate message (limitedTo 4)).verdict = .valid := by
    rw [body.threshold, maxLength_limitedTo (by decide), lines]
    simp only [BodyLength.measures_iff, and_imp]
    decide +kernel
  refine ⟨four, ?_, ((edits other (limitedTo 4)).1 alike).2.trans four, ?_⟩
  · rw [ne_eq, body.threshold, maxLength_limitedTo (by decide), lines]
    intro fits
    exact absurd (fits "cdef".toList ⟨2, by decide, rfl, by decide +kernel⟩) (by decide +kernel)
  · rw [((edits other (limitedTo 1)).1 alike).1, ne_eq, header.threshold,
      maxLength_limitedTo (by decide), lines]
    intro fits
    exact absurd (fits "ab".toList rfl) (by decide +kernel)

end CommitLint
