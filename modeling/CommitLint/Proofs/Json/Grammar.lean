import CommitLint.Json
import CommitLint.Text.Hex

/-!
# What a JSON text denotes

The grammar of JSON as a relation between a text, what its front is read as,
and what is left of it. A text denotes a document when nothing but blanks is
left. Numbers are left out, since no document has one. No text denotes two
documents: whatever reads it by the grammar comes to the same.
-/

namespace CommitLint.Json

def IsBlank (c : Char) : Prop :=
  c = ' ' ∨ c = '\t' ∨ c = '\n' ∨ c = '\r'

instance (c : Char) : Decidable (IsBlank c) :=
  inferInstanceAs (Decidable (c = ' ' ∨ c = '\t' ∨ c = '\n' ∨ c = '\r'))

/-- What is left behind some of the blanks in front. -/
inductive Skips : List Char → List Char → Prop where
  | stay (text : List Char) : Skips text text
  | blank {c : Char} {text rest : List Char} (blank : IsBlank c) (skips : Skips text rest) :
      Skips (c :: text) rest

/-- What a letter behind a backslash stands for. -/
def escaped? : Char → Option Char
  | '"' => some '"'
  | '\\' => some '\\'
  | '/' => some '/'
  | 'b' => some '\x08'
  | 'f' => some '\x0C'
  | 'n' => some '\n'
  | 'r' => some '\r'
  | 't' => some '\t'
  | _ => none

/-- One character inside quotation marks. -/
inductive ReadsChar : List Char → Char → List Char → Prop where
  | plain {c : Char} {rest : List Char} (bare : c ≠ '"' ∧ c ≠ '\\') (printed : 0x20 ≤ c.toNat) :
      ReadsChar (c :: rest) c rest
  | letter {letter c : Char} {rest : List Char} (named : escaped? letter = some c) :
      ReadsChar ('\\' :: letter :: rest) c rest
  | unit {c : Char} {text : List Char} (written : Text.hexNumber? 4 text = some c.toNat) :
      ReadsChar ('\\' :: 'u' :: text) c (text.drop 4)
  /-- Two codes for a character beyond the basic plane. -/
  | pair {c : Char} {high low : Nat} {text others : List Char}
      (first : Text.hexNumber? 4 text = some high) (again : text.drop 4 = '\\' :: 'u' :: others)
      (second : Text.hexNumber? 4 others = some low) (isHigh : 0xD800 ≤ high ∧ high < 0xDC00)
      (isLow : 0xDC00 ≤ low ∧ low < 0xE000)
      (code : c.toNat = 0x10000 + (high - 0xD800) * 0x400 + (low - 0xDC00)) :
      ReadsChar ('\\' :: 'u' :: text) c (others.drop 4)

/-- The characters up to the closing quotation mark. -/
inductive ReadsText : List Char → List Char → List Char → Prop where
  | close {rest : List Char} : ReadsText ('"' :: rest) [] rest
  | char {c : Char} {text next content rest : List Char} (first : ReadsChar text c next)
      (others : ReadsText next content rest) : ReadsText text (c :: content) rest

/-- What the grammar reads: a value, or what stands between brackets, of which there is some. -/
inductive Piece where
  | value (document : Json)
  | items (items : List Json)
  | fields (fields : List (String × Json))

inductive Reads : List Char → Piece → List Char → Prop where
  | blank {c : Char} {text rest : List Char} {document : Json} (blank : IsBlank c)
      (reads : Reads text (.value document) rest) : Reads (c :: text) (.value document) rest
  | null {rest : List Char} : Reads ('n' :: 'u' :: 'l' :: 'l' :: rest) (.value .null) rest
  | true {rest : List Char} : Reads ('t' :: 'r' :: 'u' :: 'e' :: rest) (.value (.bool true)) rest
  | false {rest : List Char} :
      Reads ('f' :: 'a' :: 'l' :: 's' :: 'e' :: rest) (.value (.bool false)) rest
  | text {text content rest : List Char} (reads : ReadsText text content rest) :
      Reads ('"' :: text) (.value (.text (String.ofList content))) rest
  | noItems {text rest : List Char} (closes : Skips text (']' :: rest)) :
      Reads ('[' :: text) (.value (.array [])) rest
  | array {text rest : List Char} {items : List Json} (reads : Reads text (.items items) rest) :
      Reads ('[' :: text) (.value (.array items)) rest
  | lastItem {text next rest : List Char} {item : Json} (reads : Reads text (.value item) next)
      (closes : Skips next (']' :: rest)) : Reads text (.items [item]) rest
  | item {text next others rest : List Char} {item : Json} {items : List Json}
      (reads : Reads text (.value item) next) (goesOn : Skips next (',' :: others))
      (more : Reads others (.items items) rest) : Reads text (.items (item :: items)) rest
  | noFields {text rest : List Char} (closes : Skips text ('\x7d' :: rest)) :
      Reads ('\x7b' :: text) (.value (.object [])) rest
  | object {text rest : List Char} {fields : List (String × Json)}
      (reads : Reads text (.fields fields) rest) :
      Reads ('\x7b' :: text) (.value (.object fields)) rest
  | lastField {text next after last rest : List Char} {name : String} {item : Json}
      (names : Reads text (.value (.text name)) next) (colon : Skips next (':' :: after))
      (reads : Reads after (.value item) last) (closes : Skips last ('\x7d' :: rest)) :
      Reads text (.fields [(name, item)]) rest
  | field {text next after last others rest : List Char} {name : String} {item : Json}
      {fields : List (String × Json)} (names : Reads text (.value (.text name)) next)
      (colon : Skips next (':' :: after)) (reads : Reads after (.value item) last)
      (goesOn : Skips last (',' :: others)) (more : Reads others (.fields fields) rest) :
      Reads text (.fields ((name, item) :: fields)) rest

/-- A text that is read as a document, with nothing but blanks behind it. -/
def Denotes (text : String) (document : Json) : Prop :=
  ∃ rest, Reads text.toList (.value document) rest ∧ Skips rest []

/-! ## A text denotes one document at most -/

variable {text rest rest' : List Char}

theorem Skips.unique {c c' : Char} (skips : Skips text (c :: rest))
    (skips' : Skips text (c' :: rest')) (inked : ¬ IsBlank c := by decide)
    (inked' : ¬ IsBlank c' := by decide) :
    c = c' ∧ rest = rest' := by
  generalize ends : c :: rest = front at skips
  induction skips with
  | stay text =>
      subst ends
      cases skips' with
      | stay => exact ⟨rfl, rfl⟩
      | blank blank _ => exact absurd blank inked
  | blank blank _ ih =>
      cases skips' with
      | stay => exact absurd blank inked'
      | blank _ skips' => exact ih skips' ends

/-- What a character inside quotation marks is written as decides it. -/
theorem ReadsChar.unique {c c' : Char} (reads : ReadsChar text c rest)
    (reads' : ReadsChar text c' rest') : c = c' ∧ rest = rest' := by
  have scalar (c : Char) : ¬ (0xD800 ≤ c.toNat ∧ c.toNat < 0xE000) := by
    have valid := c.valid
    change ¬ (0xD800 ≤ c.val.toNat ∧ c.val.toNat < 0xE000)
    simp only [UInt32.isValidChar, Nat.isValidChar] at valid
    omega
  cases reads with
  | plain bare printed =>
      cases reads' with
      | plain => exact ⟨rfl, rfl⟩
      | letter => exact absurd rfl bare.2
      | unit => exact absurd rfl bare.2
      | pair => exact absurd rfl bare.2
  | letter named =>
      cases reads' with
      | plain bare => exact absurd rfl bare.2
      | letter named' =>
          cases named.symm.trans named'
          exact ⟨rfl, rfl⟩
      | unit => cases named
      | pair => cases named
  | unit written =>
      cases reads' with
      | plain bare => exact absurd rfl bare.2
      | letter named => cases named
      | unit written' =>
          refine ⟨Char.toNat_inj.mp ?_, rfl⟩
          exact Option.some.inj (written.symm.trans written')
      | pair first _ _ isHigh =>
          cases written.symm.trans first
          exact absurd ⟨isHigh.1, by omega⟩ (scalar c)
  | pair first again second isHigh isLow code =>
      cases reads' with
      | plain bare => exact absurd rfl bare.2
      | letter named => cases named
      | unit written =>
          cases written.symm.trans first
          exact absurd ⟨isHigh.1, by omega⟩ (scalar c')
      | pair first' again' second' _ _ code' =>
          cases first.symm.trans first'
          cases again.symm.trans again'
          cases second.symm.trans second'
          exact ⟨Char.toNat_inj.mp (code.trans code'.symm), rfl⟩

theorem ReadsText.unique {content content' : List Char} (reads : ReadsText text content rest)
    (reads' : ReadsText text content' rest') : content = content' ∧ rest = rest' := by
  have open_ {c : Char} {text rest : List Char} : ¬ ReadsChar ('"' :: text) c rest := by
    intro reads
    cases reads with
    | plain bare => exact bare.1 rfl
  induction reads generalizing content' with
  | close =>
      cases reads' with
      | close => exact ⟨rfl, rfl⟩
      | char first => exact absurd first open_
  | char first _ ih =>
      cases reads' with
      | close => exact absurd first open_
      | char first' others' =>
          obtain ⟨rfl, rfl⟩ := first.unique first'
          obtain ⟨rfl, rfl⟩ := ih others'
          exact ⟨rfl, rfl⟩

def Piece.kind : Piece → Nat
  | .value _ => 0
  | .items _ => 1
  | .fields _ => 2

theorem not_skips_of_ink {c closing : Char} (inked : ¬ IsBlank c) (apart : c ≠ closing) :
    ¬ Skips (c :: text) (closing :: rest) := by
  rintro (_ | ⟨blank, _⟩)
  · exact apart rfl
  · exact inked blank

theorem Reads.not_closes {piece : Piece} {closing : Char} (reads : Reads text piece rest)
    (closes : closing = ']' ∨ closing = '\x7d') : ¬ Skips text (closing :: rest') := by
  induction reads with
  | blank blank _ ih =>
     rintro (_ | ⟨_, skips⟩)
     · rcases closes with rfl | rfl <;> simp [IsBlank] at blank
     · exact ih skips
  | lastItem _ _ ih => exact ih
  | item _ _ _ ih => exact ih
  | lastField _ _ _ _ ih => exact ih
  | field _ _ _ _ _ ih => exact ih
  | _ =>
      apply not_skips_of_ink
      · simp [IsBlank]
      · rintro rfl
        rcases closes with same | same <;> cases same

/-- By the grammar a front of a text is read in one way. -/
theorem Reads.unique {piece piece' : Piece} (reads : Reads text piece rest)
    (reads' : Reads text piece' rest') (kind : piece.kind = piece'.kind) :
    piece = piece' ∧ rest = rest' := by
  induction reads generalizing piece' rest' with
  | blank blank _ ih =>
      cases reads' with
      | blank _ reads' => exact ih reads' rfl
      | lastItem => cases kind
      | item => cases kind
      | lastField => cases kind
      | field => cases kind
      | _ => simp [IsBlank] at blank
  | null =>
      cases reads' with
      | blank blank => exact absurd blank (by decide)
      | null => exact ⟨rfl, rfl⟩
      | _ => cases kind
  | true =>
      cases reads' with
      | blank blank => exact absurd blank (by decide)
      | true => exact ⟨rfl, rfl⟩
      | _ => cases kind
  | false =>
      cases reads' with
      | blank blank => exact absurd blank (by decide)
      | false => exact ⟨rfl, rfl⟩
      | _ => cases kind
  | text reads =>
      cases reads' with
      | blank blank => exact absurd blank (by decide)
      | text reads' =>
          obtain ⟨rfl, rfl⟩ := reads.unique reads'
          exact ⟨rfl, rfl⟩
      | _ => cases kind
  | noItems closes =>
      cases reads' with
      | blank blank => exact absurd blank (by decide)
      | noItems closes' =>
          obtain ⟨-, rfl⟩ := closes.unique closes'
          exact ⟨rfl, rfl⟩
      | array reads' => exact absurd closes (reads'.not_closes (.inl rfl))
      | _ => cases kind
  | array reads ih =>
      cases reads' with
      | blank blank => exact absurd blank (by decide)
      | noItems closes => exact absurd closes (reads.not_closes (.inl rfl))
      | array reads' =>
          obtain ⟨same, rfl⟩ := ih reads' rfl
          cases same
          exact ⟨rfl, rfl⟩
      | _ => cases kind
  | lastItem _ closes ih =>
      cases reads' with
      | lastItem reads' closes' =>
          obtain ⟨same, rfl⟩ := ih reads' rfl
          cases same
          obtain ⟨-, rfl⟩ := closes.unique closes'
          exact ⟨rfl, rfl⟩
      | item reads' goesOn =>
          obtain ⟨-, rfl⟩ := ih reads' rfl
          cases (closes.unique goesOn).1
      | _ => cases kind
  | item _ goesOn _ ih ihMore =>
      cases reads' with
      | lastItem reads' closes =>
          obtain ⟨-, rfl⟩ := ih reads' rfl
          cases (closes.unique goesOn).1
      | item reads' goesOn' more' =>
          obtain ⟨same, rfl⟩ := ih reads' rfl
          cases same
          obtain ⟨-, rfl⟩ := goesOn.unique goesOn'
          obtain ⟨same, rfl⟩ := ihMore more' rfl
          cases same
          exact ⟨rfl, rfl⟩
      | _ => cases kind
  | noFields closes =>
      cases reads' with
      | blank blank => exact absurd blank (by decide)
      | noFields closes' =>
          obtain ⟨-, rfl⟩ := closes.unique closes'
          exact ⟨rfl, rfl⟩
      | object reads' => exact absurd closes (reads'.not_closes (.inr rfl))
      | _ => cases kind
  | object reads ih =>
      cases reads' with
      | blank blank => exact absurd blank (by decide)
      | noFields closes => exact absurd closes (reads.not_closes (.inr rfl))
      | object reads' =>
          obtain ⟨same, rfl⟩ := ih reads' rfl
          cases same
          exact ⟨rfl, rfl⟩
      | _ => cases kind
  | lastField _ colon _ closes ihName ih =>
      cases reads' with
      | lastField names' colon' reads' closes' =>
          obtain ⟨same, rfl⟩ := ihName names' rfl
          cases same
          obtain ⟨-, rfl⟩ := colon.unique colon'
          obtain ⟨same, rfl⟩ := ih reads' rfl
          cases same
          obtain ⟨-, rfl⟩ := closes.unique closes'
          exact ⟨rfl, rfl⟩
      | field names' colon' reads' goesOn =>
          obtain ⟨-, rfl⟩ := ihName names' rfl
          obtain ⟨-, rfl⟩ := colon.unique colon'
          obtain ⟨-, rfl⟩ := ih reads' rfl
          cases (closes.unique goesOn).1
      | _ => cases kind
  | field _ colon _ goesOn _ ihName ih ihMore =>
      cases reads' with
      | lastField names' colon' reads' closes =>
          obtain ⟨-, rfl⟩ := ihName names' rfl
          obtain ⟨-, rfl⟩ := colon.unique colon'
          obtain ⟨-, rfl⟩ := ih reads' rfl
          cases (closes.unique goesOn).1
      | field names' colon' reads' goesOn' more' =>
          obtain ⟨same, rfl⟩ := ihName names' rfl
          cases same
          obtain ⟨-, rfl⟩ := colon.unique colon'
          obtain ⟨same, rfl⟩ := ih reads' rfl
          cases same
          obtain ⟨-, rfl⟩ := goesOn.unique goesOn'
          obtain ⟨same, rfl⟩ := ihMore more' rfl
          cases same
          exact ⟨rfl, rfl⟩
      | _ => cases kind

/-- A text denotes one document at most. -/
theorem Denotes.unique {text : String} {document other : Json} (denotes : Denotes text document)
    (denotes' : Denotes text other) : document = other := by
  obtain ⟨rest, reads, -⟩ := denotes
  obtain ⟨rest', reads', -⟩ := denotes'
  cases (reads.unique reads' rfl).1
  rfl

end CommitLint.Json
