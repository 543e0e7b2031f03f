/-!
# Numbers in texts

The numbers in a text are its longest runs of digits. Numbers that are
written with commas between them stand in the text as they were, whatever
is around them, so that a text which tells numbers determines them.
-/

namespace CommitLint.Text

variable {front rest run : List Char} {c : Char}

/-- The longest runs of digits, each read as a decimal number. -/
def numbersIn (text : List Char) : List Nat :=
  ((text.splitOnP fun c => !c.isDigit).filter (· ≠ [])).map (Nat.ofDigitChars 10 · 0)

theorem numbersIn_cons_of_not_isDigit (apart : c.isDigit = false) (rest : List Char) :
    numbersIn (c :: rest) = numbersIn rest := by
  rw [numbersIn, List.splitOnP_cons_eq_if_modifyHead, apart, Bool.not_false, if_pos rfl,
    List.filter_cons_of_neg (by simp)]
  rfl

/-- A front without digits adds no number. -/
theorem numbersIn_append_of_no_digit (apart : ∀ c ∈ front, c.isDigit = false) :
    numbersIn (front ++ rest) = numbersIn rest := by
  induction front with
  | nil => rfl
  | cons first front ih =>
      obtain ⟨apartFirst, apartFront⟩ := List.forall_mem_cons.mp apart
      rw [List.cons_append, numbersIn_cons_of_not_isDigit apartFirst, ih apartFront]

/-- A run of digits is one number if something else ends it. -/
theorem numbersIn_run (present : run ≠ []) (digits : ∀ c ∈ run, c.isDigit = true)
    (ends : c.isDigit = false) :
    numbersIn (run ++ c :: rest) = Nat.ofDigitChars 10 run 0 :: numbersIn rest := by
  have kept : ∀ c ∈ run, (!c.isDigit) = false := by
    intro c among
    rw [digits c among, Bool.not_true]
  rw [numbersIn, List.splitOnP_append_cons_of_forall_mem kept c (by rw [ends, Bool.not_false]),
    List.filter_cons_of_pos (by simpa using present), List.map_cons]
  rfl

/-- A number that is written out is read back. -/
theorem numbersIn_toString (number : Nat) (ends : c.isDigit = false) :
    numbersIn ((toString number).toList ++ c :: rest) = number :: numbersIn rest := by
  rw [Nat.toString_eq_repr, Nat.toList_repr, numbersIn_run Nat.toDigits_ne_nil ?digits ends,
    Nat.ofDigitChars_ten_toDigits]
  case digits => exact fun c => Nat.isDigit_of_mem_toDigits (by decide) (by decide)

/-- So are numbers with commas between them, if something else ends the last one. -/
theorem numbersIn_intercalate (numbers : List Nat) (ends : c.isDigit = false) :
    numbersIn ((", ".intercalate (numbers.map toString)).toList ++ c :: rest) =
      numbers ++ numbersIn rest := by
  rw [String.toList_intercalate, List.map_map]
  induction numbers with
  | nil => exact numbersIn_cons_of_not_isDigit ends rest
  | cons number others ih =>
      cases others with
      | nil => simpa using numbersIn_toString number ends
      | cons next others =>
          have comma : Char.isDigit ',' = false := by decide
          have space : Char.isDigit ' ' = false := by decide
          have cut : (", ".toList.intercalate ((number :: next :: others).map
                (String.toList ∘ toString))) ++ c :: rest =
              (toString number).toList ++ ',' :: ' ' ::
                (", ".toList.intercalate ((next :: others).map (String.toList ∘ toString)) ++
                  c :: rest) := by
            rw [List.map_cons, List.map_cons, List.intercalate_cons_cons]
            simp
          rw [cut, numbersIn_toString number comma, numbersIn_cons_of_not_isDigit space, ih]
          rfl

example : numbersIn "(lines: 1, 30)".toList = [1, 30] := by decide +kernel

end CommitLint.Text
