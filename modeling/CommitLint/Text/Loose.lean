import CommitLint.Text.Utf8

/-!
# Texts with halves of pairs

What is handed over as text can hold halves of surrogate pairs, which are no
characters. A text with one of them cannot be encoded.
-/

namespace CommitLint.Text

/-- A character, or half of a pair by its place among all halves. -/
inductive CodePoint where
  | char (c : Char)
  | half (place : Fin 2048)
deriving DecidableEq, Repr

abbrev LooseText := List CodePoint

/-- The halves that stand together first in a text, and where they begin. -/
structure EncodingFault where
  position : Nat
  halves : List (Fin 2048)
deriving DecidableEq, Repr

namespace LooseText

def ofString (text : String) : LooseText :=
  text.toList.map .char

def leadingHalves : LooseText → List (Fin 2048)
  | .half place :: rest => place :: leadingHalves rest
  | _ => []

/-- The characters of what stands behind `position` others. -/
def charsFrom (position : Nat) : LooseText → Except EncodingFault (List Char)
  | [] => .ok []
  | .char c :: rest => (charsFrom (position + 1) rest).map (c :: ·)
  | .half place :: rest => .error ⟨position, place :: leadingHalves rest⟩

def encode (text : LooseText) : Except EncodingFault (List UInt8) :=
  (charsFrom 0 text).map Utf8.encode

/-- A text of characters alone. -/
def IsWhole (text : LooseText) : Prop :=
  ∃ whole : String, text = ofString whole

theorem ofString_injective {first second : String} (same : ofString first = ofString second) :
    first = second := by
  have spelled : ∀ c d, CodePoint.char c = .char d → c = d := fun _ _ => CodePoint.char.inj
  exact String.toList_inj.mp ((List.map_inj_right spelled).mp same)

theorem ofString_append (first second : String) :
    ofString (first ++ second) = ofString first ++ ofString second := by
  simp only [ofString, String.toList_append, List.map_append]

theorem charsFrom_map_char (position : Nat) (chars : List Char) :
    charsFrom position (chars.map .char) = .ok chars := by
  induction chars generalizing position with
  | nil => rfl
  | cons c rest ih => rw [List.map_cons, charsFrom, ih]; rfl

theorem charsFrom_eq_ok {position : Nat} {text : LooseText} {chars : List Char}
    (read : charsFrom position text = .ok chars) : text = chars.map .char := by
  induction text generalizing position chars with
  | nil => cases read; rfl
  | cons point rest ih =>
      cases point with
      | half place => cases read
      | char c =>
          rw [charsFrom] at read
          cases further : charsFrom (position + 1) rest with
          | error fault => rw [further] at read; cases read
          | ok others =>
              rw [further] at read
              cases read
              rw [ih further, List.map_cons]

theorem encode_ofString (text : String) :
    encode (ofString text) = .ok (Utf8.encode text.toList) := by
  rw [encode, ofString, charsFrom_map_char]
  rfl

/-- Only texts of characters alone can be encoded. -/
theorem encode_eq_ok_iff {text : LooseText} {bytes : List UInt8} :
    encode text = .ok bytes ↔
      ∃ whole, text = ofString whole ∧ bytes = Utf8.encode whole.toList := by
  constructor
  · intro encoded
    rw [encode] at encoded
    cases read : charsFrom 0 text with
    | error fault => rw [read] at encoded; cases encoded
    | ok chars =>
        rw [read] at encoded
        cases encoded
        exact ⟨String.ofList chars, by simpa [ofString] using charsFrom_eq_ok read, by simp⟩
  · rintro ⟨whole, rfl, rfl⟩
    exact encode_ofString whole

end LooseText

end CommitLint.Text
