import CommitLint.Text.Lines
import CommitLint.Text.Utf8

/-!
# Parts that a reading keeps

A reading keeps some elements one by one, and shows what stands between them
by elements that are not kept. A part of kept elements then stands in what
is shown exactly when it stands in what was read. Lenient decoding keeps the
bytes of the basic alphabet, and unifying line ends keeps all other characters.
-/

namespace CommitLint.Text

section

variable {α β : Type}

/-- A sequence shows another one: a kept element its source, any other element one or more sources
of none. -/
inductive Shows (IsKept : β → Prop) (source : β → α) : List α → List β → Prop where
  | nil : Shows IsKept source [] []
  | kept {element : β} {sources : List α} {shown : List β} (keeps : IsKept element)
      (rest : Shows IsKept source sources shown) :
      Shows IsKept source (source element :: sources) (element :: shown)
  | other {element : β} {first : α} {passed sources : List α} {shown : List β}
      (drops : ¬ IsKept element)
      (foreign : ∀ passedBy ∈ first :: passed, ∀ kept, IsKept kept → source kept ≠ passedBy)
      (rest : Shows IsKept source sources shown) :
      Shows IsKept source (first :: passed ++ sources) (element :: shown)

namespace Shows

variable {IsKept : β → Prop} {source : β → α} {sources : List α} {shown part : List β}

theorem prefix_iff (shows : Shows IsKept source sources shown)
    (injective : ∀ first second, IsKept first → IsKept second → source first = source second →
      first = second)
    (keeps : ∀ element ∈ part, IsKept element) :
    part <+: shown ↔ part.map source <+: sources := by
  induction shows generalizing part with
  | nil => simp
  | @kept element sources shown kept rest ih =>
      cases part with
      | nil => simp
      | cons first others =>
          obtain ⟨keepsFirst, keepsOthers⟩ := List.forall_mem_cons.mp keeps
          have same : first = element ↔ source first = source element :=
            ⟨congrArg source, injective first element keepsFirst kept⟩
          rw [List.map_cons, List.cons_prefix_cons, List.cons_prefix_cons, same, ih keepsOthers]
  | @other element first passed sources shown drops foreign rest ih =>
      cases part with
      | nil => simp
      | cons head others =>
          have keepsHead : IsKept head := keeps head List.mem_cons_self
          have unshown : head ≠ element := fun same => drops (same ▸ keepsHead)
          have unread : source head ≠ first := foreign first List.mem_cons_self head keepsHead
          simp [unshown, unread]

/-- What kept elements are read from does not begin among what shows none. -/
theorem infix_append_iff {head : β} {others passed : List α} (keeps : IsKept head)
    (foreign : ∀ passedBy ∈ passed, ∀ kept, IsKept kept → source kept ≠ passedBy) :
    source head :: others <:+: passed ++ sources ↔ source head :: others <:+: sources := by
  induction passed with
  | nil => exact Iff.rfl
  | cons passedBy passed ih =>
      obtain ⟨foreignFirst, foreignOthers⟩ := List.forall_mem_cons.mp foreign
      have unread : source head ≠ passedBy := foreignFirst head keeps
      rw [List.cons_append, List.infix_cons_iff, ih foreignOthers]
      simp [unread]

/-- A part of kept elements stands in what is shown exactly when it stands in what was read. -/
theorem infix_iff (shows : Shows IsKept source sources shown)
    (injective : ∀ first second, IsKept first → IsKept second → source first = source second →
      first = second)
    (keeps : ∀ element ∈ part, IsKept element) :
    part <:+: shown ↔ part.map source <:+: sources := by
  induction shows with
  | nil => simp
  | kept kept rest ih =>
      rw [List.infix_cons_iff, List.infix_cons_iff,
        (Shows.kept kept rest).prefix_iff injective keeps, ih]
  | @other element first passed sources shown drops foreign rest ih =>
      cases part with
      | nil => simp
      | cons head others =>
          have keepsHead : IsKept head := keeps head List.mem_cons_self
          have unshown : head ≠ element := fun same => drops (same ▸ keepsHead)
          rw [List.infix_cons_iff, ih, List.map_cons, infix_append_iff keepsHead foreign]
          simp [unshown]

end Shows

end

/-! ## Lenient decoding -/

namespace Utf8

/-- A character of the basic alphabet, which is written by the byte of its code. -/
def IsBasic (c : Char) : Prop :=
  c.toNat < 0x80

def basicByte (c : Char) : UInt8 :=
  c.toNat.toUInt8

theorem toNat_toUInt8 {code : Nat} (fits : code < 0x100) : code.toUInt8.toNat = code := by
  simp [Nat.mod_eq_of_lt fits]

theorem toNat_basicByte {c : Char} (basic : IsBasic c) : (basicByte c).toNat = c.toNat :=
  toNat_toUInt8 (Nat.lt_trans basic (by decide))

theorem basicByte_injective (first second : Char) (basic : IsBasic first)
    (basic' : IsBasic second) (same : basicByte first = basicByte second) : first = second := by
  apply Char.toNat_inj.mp
  rw [← toNat_basicByte basic, ← toNat_basicByte basic', same]

theorem encode_of_basic {text : List Char} (basic : ∀ c ∈ text, IsBasic c) :
    encode text = text.map basicByte := by
  induction text with
  | nil => rfl
  | cons first rest ih =>
      obtain ⟨basicFirst, basicRest⟩ := List.forall_mem_cons.mp basic
      have written : encodeChar first = [basicByte first] := if_pos basicFirst
      rw [← List.singleton_append, encode_append, ih basicRest]
      simp [encode, written]

theorem toNat_ofNat {code : Nat} (valid : code.isValidChar) : (Char.ofNat code).toNat = code := by
  rw [Char.ofNat, dif_pos valid]
  rfl

theorem isContinuation_iff {byte : UInt8} :
    isContinuation byte = true ↔ 0x80 ≤ byte.toNat ∧ byte.toNat < 0xC0 := by
  simp [isContinuation, UInt8.le_iff_toNat_le, UInt8.lt_iff_toNat_lt]

theorem mayFollow_iff {lead second : UInt8} :
    mayFollow lead second = true ↔
      (0x80 ≤ second.toNat ∧ second.toNat < 0xC0) ∧
        (lead.toNat = 0xE0 → 0xA0 ≤ second.toNat) ∧ (lead.toNat = 0xED → second.toNat < 0xA0) ∧
          (lead.toNat = 0xF0 → 0x90 ≤ second.toNat) ∧
            (lead.toNat = 0xF4 → second.toNat < 0x90) := by
  simp [mayFollow, isContinuation_iff, UInt8.le_iff_toNat_le, UInt8.lt_iff_toNat_lt,
    ← UInt8.toNat_inj, and_assoc, Decidable.imp_iff_not_or]

/-- What is read at a front beyond the basic alphabet: no character of it, and from no byte of
it. -/
def Front.IsHigh (rest : Bytes) : Front → Prop
  | .char c width => ¬ IsBasic c ∧ ∀ byte ∈ rest.take (width - 1), 0x80 ≤ byte.toNat
  | .fault _ width => ∀ byte ∈ rest.take (width - 1), 0x80 ≤ byte.toNat

theorem not_isBasic_ofNat {code : Nat} (high : 0x80 ≤ code) (valid : code.isValidChar) :
    ¬ IsBasic (Char.ofNat code) := by
  rw [IsBasic, toNat_ofNat valid]
  exact Nat.not_lt.mpr high

theorem front_isHigh {lead : UInt8} (high : 0x80 ≤ lead.toNat) (rest : Bytes) :
    (front lead rest).IsHigh rest := by
  fun_cases front lead rest <;>
    simp_all [Front.IsHigh, mayFollow_iff, isContinuation_iff, UInt8.lt_iff_toNat_lt, low]
  case case1 => omega
  case case4 => exact not_isBasic_ofNat (by omega) (by simp only [Nat.isValidChar]; omega)
  case case11 => exact not_isBasic_ofNat (by omega) (by simp only [Nat.isValidChar]; omega)
  case case21 => exact not_isBasic_ofNat (by omega) (by simp only [Nat.isValidChar]; omega)

theorem front_of_low {lead : UInt8} (low : lead.toNat < 0x80) (rest : Bytes) :
    front lead rest = .char (Char.ofNat lead.toNat) 1 :=
  if_pos (UInt8.lt_iff_toNat_lt.mpr low)

theorem shows_of_high {lead : UInt8} {rest : Bytes} {shown : List Char} {c : Char} {count : Nat}
    (high : 0x80 ≤ lead.toNat) (highRest : ∀ byte ∈ rest.take count, 0x80 ≤ byte.toNat)
    (beyond : ¬ IsBasic c) (shows : Shows IsBasic basicByte (rest.drop count) shown) :
    Shows IsBasic basicByte (lead :: rest) (c :: shown) := by
  have foreign : ∀ byte ∈ lead :: rest.take count, ∀ kept, IsBasic kept →
      basicByte kept ≠ byte := by
    intro byte among kept basic same
    have highByte : 0x80 ≤ byte.toNat := by
      rcases List.mem_cons.mp among with rfl | among
      · exact high
      · exact highRest byte among
    rw [← same, toNat_basicByte basic] at highByte
    exact absurd basic (Nat.not_lt.mpr highByte)
  rw [← List.take_append_drop count rest, ← List.cons_append]
  exact .other beyond foreign shows

/-- Lenient decoding keeps the bytes of the basic alphabet. -/
theorem decodeLossy_shows (bytes : Bytes) :
    Shows IsBasic basicByte bytes (decodeLossy bytes) := by
  fun_induction decodeLossy bytes with
  | case1 => exact .nil
  | case2 lead rest c width read ih =>
      rcases Nat.lt_or_ge lead.toNat 0x80 with low | high
      · rw [front_of_low low rest] at read
        cases read
        have valid : lead.toNat.isValidChar := .inl (Nat.lt_trans low (by decide))
        have basic : IsBasic (Char.ofNat lead.toNat) := by rwa [IsBasic, toNat_ofNat valid]
        have source : basicByte (Char.ofNat lead.toNat) = lead :=
          UInt8.toNat_inj.mp (by rw [toNat_basicByte basic, toNat_ofNat valid])
        have kept := Shows.kept basic ih
        rwa [source] at kept
      · have isHigh := front_isHigh high rest
        rw [read] at isHigh
        exact shows_of_high high isHigh.2 isHigh.1 ih
  | case3 lead rest reason width read ih =>
      rcases Nat.lt_or_ge lead.toNat 0x80 with low | high
      · rw [front_of_low low rest] at read
        cases read
      · have isHigh := front_isHigh high rest
        rw [read] at isHigh
        exact shows_of_high high isHigh (not_isBasic_ofNat (by decide) (by decide)) ih

end Utf8

/-! ## Line ends -/

/-- A character that ends no line. -/
def IsInline (c : Char) : Prop :=
  c ≠ '\r' ∧ c ≠ '\n'

theorem isInline_foreign {passed : List Char} (ends : ∀ c ∈ passed, ¬ IsInline c) :
    ∀ c ∈ passed, ∀ kept, IsInline kept → id kept ≠ c := by
  rintro c among kept keeps rfl
  exact ends kept among keeps

/-- Unifying line ends keeps all other characters. -/
theorem unifyNewlines_shows (text : List Char) :
    Shows IsInline id text (unifyNewlines text) := by
  have feed : ¬ IsInline '\n' := fun keeps => keeps.2 rfl
  fun_induction unifyNewlines text with
  | case1 => exact .nil
  | case2 rest ih =>
      have ends : ∀ c ∈ ['\r', '\n'], ¬ IsInline c := by simp [IsInline]
      exact .other feed (isInline_foreign ends) ih
  | case3 rest alone ih =>
      have ends : ∀ c ∈ ['\r'], ¬ IsInline c := by simp [IsInline]
      exact .other feed (isInline_foreign ends) ih
  | case4 first rest _ _ ih =>
      by_cases keeps : IsInline first
      · exact .kept keeps ih
      · exact .other keeps (isInline_foreign (List.forall_mem_singleton.mpr keeps)) ih

/-- A part within the basic alphabet and without line ends stands in the text of some bytes
exactly when its own bytes stand in them. -/
theorem infix_textOf_iff {part : List Char}
    (plain : ∀ c ∈ part, Utf8.IsBasic c ∧ IsInline c) (bytes : Utf8.Bytes) :
    part <:+: unifyNewlines (Utf8.decodeLossy bytes) ↔ Utf8.encode part <:+: bytes := by
  have basic : ∀ c ∈ part, Utf8.IsBasic c := fun c among => (plain c among).1
  have inline : ∀ c ∈ part, IsInline c := fun c among => (plain c among).2
  rw [(unifyNewlines_shows _).infix_iff (fun _ _ _ _ same => same) inline, List.map_id,
    (Utf8.decodeLossy_shows bytes).infix_iff Utf8.basicByte_injective basic,
    Utf8.encode_of_basic basic]

end CommitLint.Text
