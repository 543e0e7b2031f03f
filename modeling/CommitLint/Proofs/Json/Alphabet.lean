import CommitLint.Json

/-!
# The alphabet of documents

A document is written without controls, but for the line feeds of its
layout, and within the basic alphabet if that is asked for. Every text in it
may hold any character.
-/

namespace CommitLint

theorem Text.mem_hexDigits {width value : Nat} {c : Char} (among : c ∈ hexDigits width value) :
    0x20 ≤ c.toNat ∧ c.toNat < 0x7F := by
  have digits : ∀ digit < 16, 0x20 ≤ (hexDigit digit).toNat ∧ (hexDigit digit).toNat < 0x7F := by
    decide
  induction width generalizing value with
  | zero => cases among
  | succ width ih =>
      rw [hexDigits, List.mem_append, List.mem_singleton] at among
      rcases among with front | rfl
      · exact ih front
      · exact digits _ (Nat.mod_lt value (by decide))

namespace Json

/-- A character to write documents with: a line feed, or no control, and within the basic alphabet
where that is asked for. -/
def IsWritten (ascii : Bool) (c : Char) : Prop :=
  c = '\n' ∨ 0x20 ≤ c.toNat ∧ (ascii = true → c.toNat < 0x7F)

def AllWritten (ascii : Bool) (text : List Char) : Prop :=
  ∀ c ∈ text, IsWritten ascii c

variable {ascii : Bool} {c : Char} {first second text : List Char}

@[simp] theorem allWritten_nil : AllWritten ascii [] := by
  intro c among
  cases among

@[simp] theorem allWritten_cons :
    AllWritten ascii (c :: text) ↔ IsWritten ascii c ∧ AllWritten ascii text :=
  List.forall_mem_cons

@[simp] theorem allWritten_append :
    AllWritten ascii (first ++ second) ↔ AllWritten ascii first ∧ AllWritten ascii second :=
  List.forall_mem_append

theorem isWritten_of_print (printed : 0x20 ≤ c.toNat ∧ c.toNat < 0x7F) : IsWritten ascii c :=
  .inr ⟨printed.1, fun _ => printed.2⟩

@[simp] theorem allWritten_escapeUnit (code : Nat) : AllWritten ascii (escapeUnit code) := by
  refine allWritten_cons.mpr ⟨isWritten_of_print (by decide), ?_⟩
  refine allWritten_cons.mpr ⟨isWritten_of_print (by decide), ?_⟩
  exact fun c among => isWritten_of_print (Text.mem_hexDigits among)

@[simp] theorem allWritten_escapeChar (c : Char) : AllWritten ascii (escapeChar ascii c) := by
  unfold escapeChar
  simp only [Bool.or_eq_true, decide_eq_true_eq]
  split
  case isTrue quoted => rcases quoted with rfl | rfl <;> simp [IsWritten]
  case isFalse bare =>
    split
    case isTrue => simp [IsWritten]
    split
    case isTrue => simp [IsWritten]
    split
    case isTrue => simp [IsWritten]
    split
    case isTrue => simp [IsWritten]
    split
    case isTrue => simp [IsWritten]
    split
    case isTrue => exact allWritten_escapeUnit c.toNat
    split
    case isTrue plain =>
      refine allWritten_cons.mpr ⟨.inr ⟨by omega, ?_⟩, allWritten_nil⟩
      rintro rfl
      simpa using plain
    split
    case isTrue => exact allWritten_escapeUnit c.toNat
    case isFalse =>
      exact allWritten_append.mpr ⟨allWritten_escapeUnit _, allWritten_escapeUnit _⟩

@[simp] theorem allWritten_quotedText (content : String) :
    AllWritten ascii (quotedText ascii content) := by
  have escaped : AllWritten ascii (content.toList.flatMap (escapeChar ascii)) := by
    intro c among
    obtain ⟨source, -, written⟩ := List.mem_flatMap.mp among
    exact allWritten_escapeChar source c written
  simpa [quotedText, IsWritten] using escaped

@[simp] theorem allWritten_newLine (level : Nat) : AllWritten ascii (newLine level) := by
  refine allWritten_cons.mpr ⟨.inl rfl, fun c among => ?_⟩
  rw [List.eq_of_mem_replicate among]
  exact isWritten_of_print (by decide)

mutual

theorem allWritten_write (level : Nat) :
    ∀ document : Json, AllWritten ascii (write ascii level document)
  | .null => by simp [write, IsWritten]
  | .bool truth => by cases truth <;> simp [write, IsWritten]
  | .text content => by simp [write]
  | .array [] => by simp [write, IsWritten]
  | .array (item :: rest) => by
      simpa [write, IsWritten] using allWritten_writeItems (level + 1) (item :: rest)
  | .object [] => by simp [write, IsWritten]
  | .object (field :: rest) => by
      simpa [write, IsWritten] using allWritten_writeFields (level + 1) (field :: rest)

theorem allWritten_writeItems (level : Nat) :
    ∀ items : List Json, AllWritten ascii (writeItems ascii level items)
  | [] => by simp [writeItems]
  | [item] => by simpa [writeItems] using allWritten_write level item
  | item :: next :: rest => by
      simpa [writeItems, IsWritten, allWritten_write level item] using
        allWritten_writeItems level (next :: rest)

theorem allWritten_writeFields (level : Nat) :
    ∀ fields : List (String × Json), AllWritten ascii (writeFields ascii level fields)
  | [] => by simp [writeFields]
  | [(name, item)] => by simpa [writeFields, IsWritten] using allWritten_write level item
  | (name, item) :: next :: rest => by
      simpa [writeFields, IsWritten, allWritten_write level item] using
        allWritten_writeFields level (next :: rest)

end

theorem allWritten_render (ascii : Bool) (document : Json) :
    AllWritten ascii (document.render ascii).toList := by
  rw [render, String.toList_ofList]
  exact allWritten_write 0 document

/-- No code for a terminal starts in a document. -/
theorem not_mem_render (ascii : Bool) (document : Json) :
    '\x1B' ∉ (document.render ascii).toList := by
  intro among
  rcases allWritten_render ascii document _ among with feed | ⟨printed, -⟩
  · cases feed
  · exact absurd printed (by decide)

end Json

end CommitLint
