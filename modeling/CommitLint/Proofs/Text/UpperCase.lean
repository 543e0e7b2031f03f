import CommitLint.Proofs.Text.Folding

/-!
# Words in capitals

The texts whose upper case is a word of capitals. It does not depend on the
case of the letters, and letter by letter a text without capitals has the
small letter there, or else one from outside the basic alphabet whose upper
case are some capitals of the word.
-/

namespace CommitLint.Text

/-- Whether a character is a capital that begins no upper case but its own. -/
def isUnshared (letter : Char) : Bool :=
  ('A' ≤ letter && letter ≤ 'Z') && asciiUpperTable.all fun entry => entry.2.head? != some letter

theorem isUnshared_iff {letter : Char} :
    isUnshared letter = true ↔
      IsCapital letter ∧ ∀ entry ∈ asciiUpperTable, entry.2.head? ≠ some letter := by
  simp only [isUnshared, Bool.and_eq_true, decide_eq_true_eq, List.all_eq_true, bne_iff_ne]
  rfl

/-- No letter of the table is one of the basic alphabet. -/
theorem lookup_asciiUpperTable_of_lt {code : Nat} (basic : code < 128) :
    asciiUpperTable.lookup code = none := by
  have outside : ∀ entry ∈ asciiUpperTable, 128 ≤ entry.1 := by decide
  rw [List.lookup_eq_none_iff]
  intro entry member
  have := outside entry member
  rw [bne_iff_ne]
  omega

theorem mem_asciiUpperTable_of_lookup {code : Nat} {letters : List Char}
    (found : asciiUpperTable.lookup code = some letters) : (code, letters) ∈ asciiUpperTable := by
  obtain ⟨before, after, listed, -⟩ := List.lookup_eq_some_iff.mp found
  rw [listed]
  exact List.mem_append_right before List.mem_cons_self

variable {c letter : Char} {text word more : List Char}

theorem toAsciiUpper_of_small (low : 97 ≤ c.toNat) (high : c.toNat ≤ 122) :
    ∃ capital, toAsciiUpper c = [capital] ∧ capital.toNat + 32 = c.toNat := by
  have branch : ('a' ≤ c && c ≤ 'z') = true := by
    rw [Bool.and_eq_true, decide_eq_true_eq, decide_eq_true_eq]
    exact ⟨low, high⟩
  have valid : (c.toNat - 32).isValidChar := .inl (by omega)
  have raised : (Char.ofNat (c.toNat - 32)).toNat = c.toNat - 32 := by
    rw [Char.ofNat, dif_pos valid]
    rfl
  exact ⟨_, if_pos branch, by omega⟩

theorem toAsciiUpper_of_not_small (other : ¬ (97 ≤ c.toNat ∧ c.toNat ≤ 122)) :
    toAsciiUpper c = (asciiUpperTable.lookup c.toNat).getD [c] := by
  have branch : ¬ ('a' ≤ c && c ≤ 'z') = true := by
    rw [Bool.and_eq_true, decide_eq_true_eq, decide_eq_true_eq]
    exact other
  rw [toAsciiUpper, if_neg branch]
  cases asciiUpperTable.lookup c.toNat <;> rfl

@[simp] theorem toAsciiUpper_toAsciiLower (c : Char) :
    toAsciiUpper (toAsciiLower c) = toAsciiUpper c := by
  by_cases capital : IsCapital c
  · have lower := toNat_toAsciiLower_of_isCapital capital
    obtain ⟨low, high⟩ := capital
    obtain ⟨again, upper, raised⟩ :=
      toAsciiUpper_of_small (c := toAsciiLower c) (by omega) (by omega)
    have same : again = c := Char.toNat_inj.mp (by omega)
    rw [upper, same, toAsciiUpper_of_not_small (by omega),
      lookup_asciiUpperTable_of_lt (by omega)]
    rfl
  · rw [toAsciiLower_of_not_isCapital capital]

/-- Upper case does not depend on the case. -/
theorem upperAscii_map_toAsciiLower (text : List Char) :
    upperAscii (text.map toAsciiLower) = upperAscii text := by
  rw [upperAscii, List.flatMap_map]
  simp only [toAsciiUpper_toAsciiLower]
  rfl

/-- The upper case begins with a capital for the small letter and for letters of the table. -/
theorem toAsciiUpper_eq_cons (small : ¬ IsCapital c) (capital : IsCapital letter)
    (upper : toAsciiUpper c = letter :: more) :
    (c = toAsciiLower letter ∧ more = []) ∨ (c.toNat, letter :: more) ∈ asciiUpperTable := by
  by_cases basic : 97 ≤ c.toNat ∧ c.toNat ≤ 122
  · obtain ⟨raised, written, distance⟩ := toAsciiUpper_of_small basic.1 basic.2
    obtain ⟨rfl, rfl⟩ := List.cons.inj (written.symm.trans upper)
    have lower := toNat_toAsciiLower_of_isCapital capital
    exact .inl ⟨Char.toNat_inj.mp (by omega), rfl⟩
  · rw [toAsciiUpper_of_not_small basic] at upper
    cases found : asciiUpperTable.lookup c.toNat with
    | some letters =>
        rw [found] at upper
        cases upper
        exact .inr (mem_asciiUpperTable_of_lookup found)
    | none =>
        rw [found] at upper
        cases upper
        exact absurd capital small

theorem toAsciiUpper_ne_nil (c : Char) : toAsciiUpper c ≠ [] := by
  have written : ∀ entry ∈ asciiUpperTable, entry.2 ≠ [] := by decide
  rw [toAsciiUpper]
  split
  · exact List.cons_ne_nil _ _
  · cases found : asciiUpperTable.lookup c.toNat with
    | some letters => exact written _ (mem_asciiUpperTable_of_lookup found)
    | none => exact List.cons_ne_nil _ _

theorem upperAscii_eq_nil (upper : upperAscii text = []) : text = [] := by
  cases text with
  | nil => rfl
  | cons c rest =>
      rw [upperAscii, List.flatMap_cons, List.append_eq_nil_iff] at upper
      exact absurd upper.1 (toAsciiUpper_ne_nil c)

/-- The first letter of a text without capitals, by its upper case. -/
theorem upperAscii_eq_cons (small : ∀ c ∈ text, ¬ IsCapital c) (capital : IsCapital letter)
    (upper : upperAscii text = letter :: word) :
    ∃ c rest, text = c :: rest ∧
      ((c = toAsciiLower letter ∧ upperAscii rest = word) ∨
        ∃ more, (c.toNat, letter :: more) ∈ asciiUpperTable ∧ more ++ upperAscii rest = word) := by
  cases text with
  | nil => cases upper
  | cons c rest =>
      refine ⟨c, rest, rfl, ?_⟩
      rw [upperAscii, List.flatMap_cons, List.append_eq_cons_iff] at upper
      rcases upper with ⟨none, -⟩ | ⟨more, written, rfl⟩
      · exact absurd none (toAsciiUpper_ne_nil c)
      · rcases toAsciiUpper_eq_cons (small c List.mem_cons_self) capital written with
          ⟨same, rfl⟩ | listed
        · exact .inl ⟨same, rfl⟩
        · exact .inr ⟨more, listed, rfl⟩

/-- Unshared capitals in front of a word come from their small letters alone. -/
theorem upperAscii_eq_append {front : List Char} (unshared : front.all isUnshared = true)
    (small : ∀ c ∈ text, ¬ IsCapital c) (upper : upperAscii text = front ++ word) :
    ∃ rest, text = front.map toAsciiLower ++ rest ∧ upperAscii rest = word := by
  induction front generalizing text with
  | nil => exact ⟨text, rfl, upper⟩
  | cons letter front ih =>
      rw [List.all_cons, Bool.and_eq_true, isUnshared_iff] at unshared
      obtain ⟨⟨capital, alone⟩, others⟩ := unshared
      obtain ⟨c, rest, rfl, ⟨rfl, behind⟩ | ⟨more, listed, -⟩⟩ :=
        upperAscii_eq_cons small capital upper
      · obtain ⟨rest, rfl, last⟩ := ih others (List.forall_mem_cons.mp small).2 behind
        exact ⟨rest, rfl, last⟩
      · exact absurd rfl (alone _ listed)

theorem upperAscii_eq (unshared : word.all isUnshared = true)
    (small : ∀ c ∈ text, ¬ IsCapital c) (upper : upperAscii text = word) :
    text = word.map toAsciiLower := by
  rw [← List.append_nil word] at upper
  obtain ⟨rest, rfl, last⟩ := upperAscii_eq_append unshared small upper
  rw [upperAscii_eq_nil last, List.append_nil]

end CommitLint.Text
