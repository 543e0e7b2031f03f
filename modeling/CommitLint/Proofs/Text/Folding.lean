import CommitLint.Text.Blank
import CommitLint.Text.Folding
import CommitLint.Text.Word

/-!
# Lower case in the basic alphabet

Only the capitals of the basic alphabet have another lower case in it, and
that is a letter. So lower case changes neither which characters are blanks,
digits and words, nor any character that is no letter.
-/

namespace CommitLint.Text

/-- A capital of the basic alphabet. -/
def IsCapital (c : Char) : Prop :=
  65 ≤ c.toNat ∧ c.toNat ≤ 90

/-- A letter of the basic alphabet. -/
def IsLetter (c : Char) : Prop :=
  IsCapital c ∨ (97 ≤ c.toNat ∧ c.toNat ≤ 122)

theorem toAsciiLower_of_not_isCapital {c : Char} (small : ¬ IsCapital c) : toAsciiLower c = c := by
  rw [toAsciiLower, if_neg]
  rw [Bool.and_eq_true, decide_eq_true_eq, decide_eq_true_eq]
  exact small

theorem toNat_toAsciiLower_of_isCapital {c : Char} (capital : IsCapital c) :
    (toAsciiLower c).toNat = c.toNat + 32 := by
  have letter : ('A' ≤ c && c ≤ 'Z') = true := by
    rw [Bool.and_eq_true, decide_eq_true_eq, decide_eq_true_eq]
    exact capital
  have valid : (c.toNat + 32).isValidChar := .inl (by have := capital.2; omega)
  rw [toAsciiLower, if_pos letter, Char.ofNat, dif_pos valid]
  rfl

theorem not_isCapital_toAsciiLower (c : Char) : ¬ IsCapital (toAsciiLower c) := by
  by_cases capital : IsCapital c
  · rintro ⟨-, high⟩
    have low := capital.1
    rw [toNat_toAsciiLower_of_isCapital capital] at high
    omega
  · rwa [toAsciiLower_of_not_isCapital capital]

/-- A property of all letters, or of none of them, does not depend on the case. -/
theorem toAsciiLower_congr {holds : Char → Bool} {value : Bool}
    (letters : ∀ c, IsLetter c → holds c = value) (c : Char) :
    holds (toAsciiLower c) = holds c := by
  by_cases capital : IsCapital c
  · have lower := toNat_toAsciiLower_of_isCapital capital
    have small : 97 ≤ (toAsciiLower c).toNat ∧ (toAsciiLower c).toNat ≤ 122 := by
      rw [lower]
      exact ⟨Nat.add_le_add_right capital.1 32, Nat.add_le_add_right capital.2 32⟩
    rw [letters c (.inl capital), letters _ (.inr small)]
  · rw [toAsciiLower_of_not_isCapital capital]

@[simp] theorem isAsciiBlank_toAsciiLower (c : Char) :
    isAsciiBlank (toAsciiLower c) = isAsciiBlank c := by
  have letters : ∀ c, IsLetter c → isAsciiBlank c = false := by
    intro c letter
    simp only [IsLetter, IsCapital] at letter
    simp only [isAsciiBlank, Bool.or_eq_false_iff, Bool.and_eq_false_iff, decide_eq_false_iff_not,
      beq_eq_false_iff_ne]
    omega
  exact toAsciiLower_congr letters c

@[simp] theorem isAsciiDigit_toAsciiLower (c : Char) :
    isAsciiDigit (toAsciiLower c) = isAsciiDigit c := by
  have letters : ∀ c, IsLetter c → isAsciiDigit c = false := by
    intro c letter
    simp only [IsLetter, IsCapital] at letter
    rw [isAsciiDigit, Bool.and_eq_false_iff, decide_eq_false_iff_not, decide_eq_false_iff_not]
    have high : ¬ c.toNat ≤ 57 := by omega
    exact .inr high
  exact toAsciiLower_congr letters c

@[simp] theorem isAsciiWord_toAsciiLower (c : Char) :
    isAsciiWord (toAsciiLower c) = isAsciiWord c := by
  have letters : ∀ c, IsLetter c → isAsciiWord c = true := by
    intro c letter
    simp only [isAsciiWord, isAsciiAlphanumeric, Bool.or_eq_true, Bool.and_eq_true,
      decide_eq_true_eq]
    rcases letter with capital | small
    · exact .inl (.inl (.inr capital))
    · exact .inl (.inl (.inl small))
  exact toAsciiLower_congr letters c

/-- A sign in front of the letters is the lower case of itself alone. -/
theorem toAsciiLower_eq_iff {c sign : Char} (unlettered : sign.toNat < 65) :
    toAsciiLower c = sign ↔ c = sign := by
  constructor
  · intro lower
    by_cases capital : IsCapital c
    · have low := capital.1
      have large := toNat_toAsciiLower_of_isCapital capital
      rw [lower] at large
      omega
    · rwa [toAsciiLower_of_not_isCapital capital] at lower
  · rintro rfl
    exact toAsciiLower_of_not_isCapital fun capital => absurd capital.1 (Nat.not_le.mpr unlettered)

end CommitLint.Text
