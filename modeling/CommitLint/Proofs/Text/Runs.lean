import CommitLint.Text.Folding
import Mathlib.Data.List.TakeDrop
import Mathlib.Data.List.TakeWhile

/-!
# Runs

The longest run of a class of characters at the front of a text is the one
piece of it that lies in the class and is followed by nothing of the class.
Readers that take such runs in turn therefore find the only way in which a
text can be cut.
-/

namespace CommitLint.Text

/-- No character of the class stands at the front of a text. -/
def Stops (holds : Char → Bool) (text : List Char) : Prop :=
  ∀ c ∈ text.head?, holds c = false

theorem stops_nil (holds : Char → Bool) : Stops holds [] := by
  intro c front
  cases front

theorem stops_cons {holds : Char → Bool} {first : Char} {rest : List Char}
    (outside : holds first = false) : Stops holds (first :: rest) := by
  intro c front
  cases front
  exact outside

theorem stops_append {holds : Char → Bool} {run : List Char} (nonempty : run ≠ [])
    (outside : ∀ c ∈ run, holds c = false) (rest : List Char) : Stops holds (run ++ rest) := by
  obtain ⟨first, tail, rfl⟩ := List.exists_cons_of_ne_nil nonempty
  exact stops_cons (outside first List.mem_cons_self)

theorem span_append {holds : Char → Bool} {run rest : List Char}
    (inside : ∀ c ∈ run, holds c = true) (stops : Stops holds rest) :
    (run ++ rest).span holds = (run, rest) := by
  rw [List.span_eq_takeWhile_dropWhile, List.takeWhile_append_of_pos inside,
    List.dropWhile_append_of_pos inside]
  cases rest with
  | nil => simp
  | cons first tail => simp [stops first rfl]

/-- The characters of a class at the front of a text, and what is left behind them. -/
theorem longest_run (holds : Char → Bool) (text : List Char) :
    text = text.takeWhile holds ++ text.dropWhile holds ∧
      (∀ c ∈ text.takeWhile holds, holds c = true) ∧ Stops holds (text.dropWhile holds) := by
  refine ⟨List.takeWhile_append_dropWhile.symm, fun c => List.mem_takeWhile_imp, ?_⟩
  intro c front
  have outside := List.head?_dropWhile_not holds text
  rw [Option.mem_def.mp front] at outside
  simpa using outside

/-- A cut behind the longest run is the only cut behind a run of the class. -/
theorem span_eq_iff {holds : Char → Bool} {text run rest : List Char} :
    text.span holds = (run, rest) ↔
      text = run ++ rest ∧ (∀ c ∈ run, holds c = true) ∧ Stops holds rest := by
  constructor
  · intro cut
    rw [List.span_eq_takeWhile_dropWhile, Prod.mk.injEq] at cut
    obtain ⟨rfl, rfl⟩ := cut
    exact longest_run holds text
  · rintro ⟨rfl, inside, stops⟩
    exact span_append inside stops

theorem run_unique {holds : Char → Bool} {run other rest tail : List Char}
    (same : run ++ rest = other ++ tail)
    (inside : ∀ c ∈ run, holds c = true) (stops : Stops holds rest)
    (insideOther : ∀ c ∈ other, holds c = true) (stopsTail : Stops holds tail) :
    run = other ∧ rest = tail := by
  have first := span_append inside stops
  rw [same, span_append insideOther stopsTail, Prod.mk.injEq] at first
  exact ⟨first.1.symm, first.2.symm⟩

/-- A word is taken off the front of a text if its letters stand there in any case. -/
theorem dropWord?_eq_some_iff {word text rest : List Char} :
    dropWord? word text = some rest ↔
      ∃ written, text = written ++ rest ∧ written.map toAsciiLower = word := by
  induction word generalizing text with
  | nil => simp [dropWord?, eq_comm]
  | cons letter word ih =>
      cases text with
      | nil => simp [dropWord?]
      | cons first text =>
          by_cases same : toAsciiLower first = letter
          · rw [dropWord?, if_pos same, ih]
            constructor
            · rintro ⟨written, rfl, rfl⟩
              exact ⟨first :: written, rfl, by rw [List.map_cons, same]⟩
            · rintro ⟨written, cut, lower⟩
              cases written with
              | nil => cases lower
              | cons head written =>
                  rw [List.map_cons, List.cons.injEq] at lower
                  rw [List.cons_append, List.cons.injEq] at cut
                  exact ⟨written, cut.2, lower.2⟩
          · rw [dropWord?, if_neg same]
            constructor
            · intro impossible
              cases impossible
            · rintro ⟨written, cut, lower⟩
              cases written with
              | nil => cases lower
              | cons head written =>
                  rw [List.map_cons, List.cons.injEq] at lower
                  rw [List.cons_append, List.cons.injEq] at cut
                  exact absurd (cut.1 ▸ lower.1) same

end CommitLint.Text
