import CommitLint.Proofs.Json.Grammar
import Mathlib.Algebra.Group.Nat.Defs

/-!
# Writing and reading back

What a document is written as denotes that document and no other, in both
alphabets. The only control among the characters is the line feed in front
of each line, and within the basic alphabet none lies beyond it.
-/

namespace CommitLint

namespace Text

/-! ## Hexadecimal digits -/

theorem hexDigitValue?_hexDigit : ∀ digit < 16, hexDigitValue? (hexDigit digit) = some digit := by
  decide

/-- The digits of a number, read from the left, come to what they can hold of it. -/
theorem hexNumber?_hexDigits (width value : Nat) (rest : List Char) :
    hexNumber? width (hexDigits width value ++ rest) = some (value % 16 ^ width) := by
  have front : (hexDigits width value ++ rest).take width = hexDigits width value :=
    List.take_left' (length_hexDigits width value)
  rw [hexNumber?, front, length_hexDigits, if_neg (Nat.lt_irrefl width)]
  clear front
  induction width generalizing value with
  | zero => rw [Nat.pow_zero, Nat.mod_one]; rfl
  | succ width ih =>
      have last := hexDigitValue?_hexDigit (value % 16) (Nat.mod_lt value (by decide))
      rw [hexDigits, List.foldl_append, ih, List.foldl_cons, List.foldl_nil, Option.bind_some, last,
        Option.map_some, Nat.pow_succ', Nat.mod_mul]
      congr 1
      omega

theorem drop_hexDigits (width value : Nat) (rest : List Char) :
    (hexDigits width value ++ rest).drop width = rest :=
  List.drop_left' (length_hexDigits width value)

end Text

namespace Json

variable {rest : List Char} (ascii : Bool)

/-! ## Characters -/

theorem hexNumber?_unit {code : Nat} (small : code < 0x10000) (rest : List Char) :
    Text.hexNumber? 4 (Text.hexDigits 4 code ++ rest) = some code := by
  have held : code < 16 ^ 4 := Nat.lt_of_lt_of_le small (by decide)
  rw [Text.hexNumber?_hexDigits, Nat.mod_eq_of_lt held]

/-- A code of four digits is read as the character that it is of. -/
theorem readsChar_escapeUnit {c : Char} (low : c.toNat < 0x10000) :
    ReadsChar (escapeUnit c.toNat ++ rest) c rest := by
  have reads := ReadsChar.unit (hexNumber?_unit low rest)
  rwa [Text.drop_hexDigits] at reads

/-- Beyond the basic plane two codes are read as one character. -/
theorem readsChar_surrogates {c : Char} (high : 0x10000 ≤ c.toNat) :
    ReadsChar (escapeUnit (surrogates c.toNat).1 ++ escapeUnit (surrogates c.toNat).2 ++ rest)
      c rest := by
  have valid : c.toNat < 0x110000 := by
    have valid := c.valid
    change c.val.toNat < 0x110000
    simp only [UInt32.isValidChar, Nat.isValidChar] at valid
    omega
  have first : 0xD800 ≤ (surrogates c.toNat).1 ∧ (surrogates c.toNat).1 < 0xDC00 := by
    simp only [surrogates]
    omega
  have second : 0xDC00 ≤ (surrogates c.toNat).2 ∧ (surrogates c.toNat).2 < 0xE000 := by
    simp only [surrogates]
    omega
  have code : c.toNat = 0x10000 + ((surrogates c.toNat).1 - 0xD800) * 0x400 +
      ((surrogates c.toNat).2 - 0xDC00) := by
    simp only [surrogates]
    omega
  have small : (surrogates c.toNat).1 < 0x10000 := by omega
  have small' : (surrogates c.toNat).2 < 0x10000 := by omega
  have firstRead := hexNumber?_unit small (escapeUnit (surrogates c.toNat).2 ++ rest)
  have secondRead := hexNumber?_unit small' rest
  have reads := ReadsChar.pair firstRead (Text.drop_hexDigits 4 _ _) secondRead first second code
  have left := Text.drop_hexDigits 4 (surrogates c.toNat).2 rest
  change ReadsChar _ c (List.drop 4 (Text.hexDigits 4 (surrogates c.toNat).2 ++ rest)) at reads
  rw [left] at reads
  simpa [escapeUnit] using reads

theorem readsChar_escapeChar (c : Char) (rest : List Char) :
    ReadsChar (escapeChar ascii c ++ rest) c rest := by
  unfold escapeChar
  simp only [Bool.or_eq_true, decide_eq_true_eq]
  split
  case isTrue quoted =>
    refine .letter ?_
    rcases quoted with rfl | rfl <;> rfl
  case isFalse bare =>
    split
    case isTrue feed => exact .letter (feed ▸ rfl)
    split
    case isTrue back => exact .letter (back ▸ rfl)
    split
    case isTrue tab => exact .letter (tab ▸ rfl)
    split
    case isTrue code => exact .letter (congrArg some (Char.toNat_inj.mp code.symm))
    split
    case isTrue code => exact .letter (congrArg some (Char.toNat_inj.mp code.symm))
    split
    case isTrue control => exact readsChar_escapeUnit (by omega)
    split
    case isTrue => exact .plain (not_or.mp bare) (by omega)
    split
    case isTrue low => exact readsChar_escapeUnit low
    case isFalse high => exact readsChar_surrogates (by omega)

theorem readsText_escaped (content rest : List Char) :
    ReadsText (content.flatMap (escapeChar ascii) ++ '"' :: rest) content rest := by
  induction content with
  | nil => exact .close
  | cons c content ih =>
      rw [List.flatMap_cons, List.append_assoc]
      exact .char (readsChar_escapeChar ascii c _) ih

theorem reads_quotedText (content : String) (rest : List Char) :
    Reads (quotedText ascii content ++ rest) (.value (.text content)) rest := by
  have reads : Reads _ _ rest := .text (readsText_escaped ascii content.toList rest)
  simpa [quotedText] using reads

/-! ## Layout -/

theorem skips_blanks (count : Nat) (rest : List Char) :
    Skips (List.replicate count ' ' ++ rest) rest := by
  induction count with
  | zero => exact .stay rest
  | succ count ih =>
      rw [List.replicate_succ, List.cons_append]
      exact .blank (by decide) ih

theorem skips_newLine (level : Nat) (rest : List Char) : Skips (newLine level ++ rest) rest :=
  .blank (by decide) (skips_blanks (2 * level) rest)

theorem Reads.skip {text next : List Char} {document : Json} (skips : Skips text next)
    (reads : Reads next (.value document) rest) : Reads text (.value document) rest := by
  induction skips with
  | stay => exact reads
  | blank blank _ ih => exact .blank blank (ih reads)

/-! ## Documents -/

mutual

/-- What a document is written as is read as the document, whatever stands behind it. -/
theorem reads_write (level : Nat) : ∀ (document : Json) (rest : List Char),
    Reads (write ascii level document ++ rest) (.value document) rest
  | .null, rest => .null
  | .bool true, rest => .true
  | .bool false, rest => .false
  | .text content, rest => reads_quotedText ascii content rest
  | .array [], rest => .noItems (.stay _)
  | .array (item :: items), rest => by
      have reads := reads_writeItems (level + 1) (item :: items) (List.cons_ne_nil _ _)
        (skips_newLine level (']' :: rest))
      simpa [write] using Reads.array reads
  | .object [], rest => .noFields (.stay _)
  | .object (field :: fields), rest => by
      have reads := reads_writeFields (level + 1) (field :: fields) (List.cons_ne_nil _ _)
        (skips_newLine level ('\x7d' :: rest))
      simpa [write] using Reads.object reads

theorem reads_writeItems (level : Nat) : ∀ items : List Json, items ≠ [] →
    ∀ {tail rest : List Char}, Skips tail (']' :: rest) →
      Reads (writeItems ascii level items ++ tail) (.items items) rest
  | [], filled, _, _, _ => absurd rfl filled
  | [item], _, tail, rest, closes => by
      have reads := (reads_write level item tail).skip (skips_newLine level _)
      simpa [writeItems] using Reads.lastItem reads closes
  | item :: next :: items, _, tail, rest, closes => by
      have more := reads_writeItems level (next :: items) (List.cons_ne_nil _ _) closes
      have reads := (reads_write level item
        (',' :: (writeItems ascii level (next :: items) ++ tail))).skip (skips_newLine level _)
      simpa [writeItems] using Reads.item reads (.stay _) more

theorem reads_writeFields (level : Nat) : ∀ fields : List (String × Json), fields ≠ [] →
    ∀ {tail rest : List Char}, Skips tail ('\x7d' :: rest) →
      Reads (writeFields ascii level fields ++ tail) (.fields fields) rest
  | [], filled, _, _, _ => absurd rfl filled
  | [(name, item)], _, tail, rest, closes => by
      have names := (reads_quotedText ascii name
        (':' :: ' ' :: (write ascii level item ++ tail))).skip (skips_newLine level _)
      have reads := (reads_write level item tail).skip (skips_blanks 1 _)
      simpa [writeFields] using Reads.lastField names (.stay _) reads closes
  | (name, item) :: next :: fields, _, tail, rest, closes => by
      have more := reads_writeFields level (next :: fields) (List.cons_ne_nil _ _) closes
      have names := (reads_quotedText ascii name (':' :: ' ' :: (write ascii level item ++
        ',' :: (writeFields ascii level (next :: fields) ++ tail)))).skip (skips_newLine level _)
      have reads := (reads_write level item
        (',' :: (writeFields ascii level (next :: fields) ++ tail))).skip (skips_blanks 1 _)
      simpa [writeFields] using Reads.field names (.stay _) reads (.stay _) more

end

/-- What a document is written as denotes this document only. -/
theorem denotes_render_iff (document other : Json) :
    Denotes (document.render ascii) other ↔ other = document := by
  have denotes : Denotes (document.render ascii) document := by
    have reads := reads_write ascii 0 document []
    rw [List.append_nil] at reads
    refine ⟨[], ?_, .stay []⟩
    rwa [render, String.toList_ofList]
  constructor
  · intro denotes'
    exact denotes'.unique denotes
  · rintro rfl
    exact denotes

end Json

end CommitLint
