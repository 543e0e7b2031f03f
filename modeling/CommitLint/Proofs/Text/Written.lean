import CommitLint.Failure
import CommitLint.Proofs.Text.LineEnds

/-!
# Texts that are written

The bytes that a text is written by are read as that text again, whatever
characters it has. Read from a file, it also keeps its lines, unless it has
a carriage return.
-/

namespace CommitLint

namespace Text

namespace Utf8

variable {lead second third fourth : UInt8}

/-! ## The fronts of two, three and four bytes -/

theorem front_of_two (least : 0xC2 ≤ lead.toNat) (most : lead.toNat < 0xE0)
    (follows : isContinuation second = true) (rest : Bytes) :
    front lead (second :: rest) =
      .char (Char.ofNat ((lead.toNat - 0xC0) * 64 + low second)) 2 := by
  simp only [front, UInt8.lt_iff_toNat_lt, UInt8.reduceToNat]
  rw [if_neg (by omega), if_neg (by omega), if_pos most, if_pos follows]

theorem front_of_three (least : 0xE0 ≤ lead.toNat) (most : lead.toNat < 0xF0)
    (follows : mayFollow lead second = true) (follows' : isContinuation third = true)
    (rest : Bytes) :
    front lead (second :: third :: rest) =
      .char (Char.ofNat ((lead.toNat - 0xE0) * 4096 + low second * 64 + low third)) 3 := by
  simp only [front, UInt8.lt_iff_toNat_lt, UInt8.reduceToNat]
  rw [if_neg (by omega), if_neg (by omega), if_neg (by omega), if_pos most]
  simp [follows, follows']

theorem front_of_four (least : 0xF0 ≤ lead.toNat) (most : lead.toNat < 0xF5)
    (follows : mayFollow lead second = true) (follows' : isContinuation third = true)
    (follows'' : isContinuation fourth = true) (rest : Bytes) :
    front lead (second :: third :: fourth :: rest) =
      .char (Char.ofNat ((lead.toNat - 0xF0) * 262144 + low second * 4096 + low third * 64 +
        low fourth)) 4 := by
  simp only [front, UInt8.lt_iff_toNat_lt, UInt8.reduceToNat]
  rw [if_neg (by omega), if_neg (by omega), if_neg (by omega), if_neg (by omega), if_pos most]
  simp [follows, follows', follows'']

/-! ## Characters -/

/-- A byte that continues a character, with six bits of its code. -/
def continuation (code : Nat) : UInt8 :=
  (0x80 + code % 64).toUInt8

theorem toNat_continuation (code : Nat) : (continuation code).toNat = 0x80 + code % 64 :=
  toNat_toUInt8 (by omega)

theorem isContinuation_continuation (code : Nat) : isContinuation (continuation code) = true := by
  rw [isContinuation_iff, toNat_continuation]
  omega

theorem low_continuation (code : Nat) : low (continuation code) = code % 64 := by
  rw [low, toNat_continuation]
  omega

/-- Behind the first byte of a character are others, and all of them together show it. -/
theorem front_encodeChar (c : Char) (rest : Bytes) :
    ∃ lead others, encodeChar c = lead :: others ∧
      front lead (others ++ rest) = .char c (others.length + 1) := by
  have valid : c.toNat < 0xD800 ∨ 0xDFFF < c.toNat ∧ c.toNat < 0x110000 := c.valid
  have shown : ∀ code, code = c.toNat → Char.ofNat code = c := by
    rintro code rfl
    exact Char.ofNat_toNat c
  unfold encodeChar
  dsimp only
  split
  case isTrue basic =>
    have lead := toNat_toUInt8 (Nat.lt_trans basic (by decide))
    refine ⟨_, [], rfl, ?_⟩
    rw [front_of_low (by rw [lead]; exact basic), shown _ lead]
    rfl
  split
  case isTrue small =>
    have lead : (0xC0 + c.toNat / 64).toUInt8.toNat = 0xC0 + c.toNat / 64 :=
      toNat_toUInt8 (by omega)
    refine ⟨_, [continuation c.toNat], rfl, ?_⟩
    refine (front_of_two (by omega) (by omega) (isContinuation_continuation _) rest).trans ?_
    rw [shown _ (by rw [lead, low_continuation]; omega)]
    rfl
  split
  case isTrue medium =>
    have lead : (0xE0 + c.toNat / 4096).toUInt8.toNat = 0xE0 + c.toNat / 4096 :=
      toNat_toUInt8 (by omega)
    have follows : mayFollow (0xE0 + c.toNat / 4096).toUInt8 (continuation (c.toNat / 64)) =
        true := by
      rw [mayFollow_iff, lead, toNat_continuation]
      omega
    refine ⟨_, [continuation (c.toNat / 64), continuation c.toNat], rfl, ?_⟩
    refine (front_of_three (by omega) (by omega) follows (isContinuation_continuation _) rest).trans
      ?_
    rw [shown _ (by rw [lead, low_continuation, low_continuation]; omega)]
    rfl
  case isFalse large =>
    have lead : (0xF0 + c.toNat / 262144).toUInt8.toNat = 0xF0 + c.toNat / 262144 :=
      toNat_toUInt8 (by omega)
    have follows : mayFollow (0xF0 + c.toNat / 262144).toUInt8 (continuation (c.toNat / 4096)) =
        true := by
      rw [mayFollow_iff, lead, toNat_continuation]
      omega
    refine ⟨_, [continuation (c.toNat / 4096), continuation (c.toNat / 64), continuation c.toNat],
      rfl, ?_⟩
    refine (front_of_four (by omega) (by omega) follows (isContinuation_continuation _)
      (isContinuation_continuation _) rest).trans ?_
    rw [shown _ (by rw [lead, low_continuation, low_continuation, low_continuation]; omega)]
    rfl

/-! ## Texts -/

theorem decodeFrom_encode (position : Nat) (text : List Char) :
    decodeFrom position (encode text) = .ok text := by
  induction text generalizing position with
  | nil => rw [encode, List.flatMap_nil, decodeFrom]
  | cons c rest ih =>
      obtain ⟨lead, others, written, read⟩ := front_encodeChar c (encode rest)
      have cut : encode (c :: rest) = lead :: (others ++ encode rest) := by
        rw [encode, List.flatMap_cons, written]
        rfl
      rw [cut, decodeFrom, read]
      dsimp only
      rw [Nat.add_sub_cancel, List.drop_left, ih]
      rfl

/-- What a text is written by is read as that text. -/
theorem decode_encode (text : List Char) : decode (encode text) = .ok text :=
  decodeFrom_encode 0 text

end Utf8

theorem unifyNewlines_of_not_mem {text : List Char} (plain : '\r' ∉ text) :
    unifyNewlines text = text := by
  induction text with
  | nil => rfl
  | cons c rest ih =>
      obtain ⟨apart, plainRest⟩ := List.ne_and_not_mem_of_not_mem_cons plain
      rw [unifyNewlines_cons apart.symm, ih plainRest]

end Text

/-- A file that a text without carriage returns was written to has that text. -/
theorem FileTree.textOf_encode {text : List Char} (plain : '\r' ∉ text) :
    textOf (Text.Utf8.encode text) = .ok text := by
  rw [textOf, Text.Utf8.decode_encode]
  exact congrArg Except.ok (Text.unifyNewlines_of_not_mem plain)

end CommitLint
