import CommitLint.Proofs.Text.Shown

/-!
# Line ends

A line can end with a line feed, a carriage return, or both, and a text reads
the same however its lines end.
-/

namespace CommitLint.Text

/-- A text without carriage returns, and the same text with each of its line feeds replaced by a
carriage return, with or without a line feed behind it. -/
inductive Respelled : List Char → List Char → Prop where
  | nil : Respelled [] []
  | inline {c : Char} {text other : List Char} (inline : IsInline c)
      (rest : Respelled text other) : Respelled (c :: text) (c :: other)
  | both {text other : List Char} (rest : Respelled text other) :
      Respelled ('\n' :: text) ('\r' :: '\n' :: other)
  | bare {text other : List Char} (rest : Respelled text other) :
      Respelled ('\n' :: text) ('\r' :: other)

theorem unifyNewlines_cons {c : Char} (apart : c ≠ '\r') (text : List Char) :
    unifyNewlines (c :: text) = c :: unifyNewlines text := by
  rw [unifyNewlines]
  · exact fun rest starts => absurd starts apart
  · exact fun starts => absurd starts apart

theorem unifyNewlines_bare {text : List Char} (alone : ∀ rest, text ≠ '\n' :: rest) :
    unifyNewlines ('\r' :: text) = '\n' :: unifyNewlines text := by
  rw [unifyNewlines]
  exact alone

namespace Respelled

variable {text other : List Char}

/-- No line feed is left in front, where it would join a carriage return. -/
theorem starts_without_feed (respelled : Respelled text other) (rest : List Char) :
    other ≠ '\n' :: rest := by
  cases respelled with
  | nil => nofun
  | inline inline _ => exact fun same => inline.2 (List.cons.inj same).1
  | both _ => exact fun same => absurd (List.cons.inj same).1 (by decide)
  | bare _ => exact fun same => absurd (List.cons.inj same).1 (by decide)

theorem unifyNewlines_eq (respelled : Respelled text other) : unifyNewlines other = text := by
  induction respelled with
  | nil => rfl
  | inline inline rest ih => rw [unifyNewlines_cons inline.1, ih]
  | both rest ih => rw [unifyNewlines, ih]
  | bare rest ih => rw [unifyNewlines_bare rest.starts_without_feed, ih]

/-- What ends no line is spelled as it is. -/
theorem append_inline {line : List Char} (inline : ∀ c ∈ line, IsInline c)
    (respelled : Respelled text other) : Respelled (line ++ text) (line ++ other) := by
  induction line with
  | nil => exact respelled
  | cons first rest ih =>
      obtain ⟨inlineFirst, inlineRest⟩ := List.forall_mem_cons.mp inline
      exact .inline inlineFirst (ih inlineRest)

end Respelled

theorem mem_unifyNewlines_iff {c : Char} (inline : IsInline c) (text : List Char) :
    c ∈ unifyNewlines text ↔ c ∈ text := by
  fun_induction unifyNewlines text with
  | case1 => rfl
  | case2 rest ih => simp [ih, inline.1, inline.2]
  | case3 rest _ ih => simp [ih, inline.1, inline.2]
  | case4 first rest _ _ ih => simp [ih]

end CommitLint.Text
