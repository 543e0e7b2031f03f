import CommitLint.Message.Parsed
import CommitLint.Proofs.Message.Mentions
import CommitLint.Proofs.Message.Tokens
import CommitLint.Proofs.Text.Lines

/-!
# Texts on both sides of a separator

A reference is spelled with few characters, and a handle with fewer. Any
other character keeps what is read before it apart from what is read behind
it, so the references and the mentions of a text can be read piece by piece.
-/

namespace CommitLint

namespace Text

variable {separator : Char} {word front rest : List Char}

/-- A word without the separator does not reach over it. -/
theorem prefix_of_prefix_append_cons (free : separator ∉ word)
    (begins : word <+: front ++ separator :: rest) : word <+: front := by
  rcases List.prefix_or_prefix_of_prefix begins (List.prefix_append front _) with within | beyond
  · exact within
  · obtain ⟨tail, rfl⟩ := beyond
    have behind : tail <+: separator :: rest := (List.prefix_append_right_inj front).mp begins
    cases tail with
    | nil => exact (List.append_nil front).symm ▸ List.prefix_rfl
    | cons first tail =>
        obtain ⟨rfl, -⟩ := List.cons_prefix_cons.mp behind
        exact absurd (List.mem_append_right front List.mem_cons_self) free

theorem takeWhile_append_cons {holds : Char → Bool} (outside : holds separator = false)
    (front rest : List Char) :
    (front ++ separator :: rest).takeWhile holds = front.takeWhile holds := by
  induction front with
  | nil => simp [outside]
  | cons first front ih => cases inside : holds first <;> simp [inside, ih]

/-- What is read on both sides of a separator is read in all the pieces between separators. -/
theorem read_joinWith {α : Type} {read : List Char → List α} (nothing : read [] = [])
    (apart : ∀ front rest, read (front ++ separator :: rest) = read front ++ read rest)
    (pieces : List (List Char)) : read (joinWith separator pieces) = pieces.flatMap read := by
  induction pieces with
  | nil => exact nothing
  | cons piece pieces ih =>
      cases pieces with
      | nil => simp [joinWith]
      | cons next others => rw [joinWith, apart, ih, ← List.flatMap_cons]

end Text

/-! ## References -/

namespace Reference

variable {separator : Char}

/-- The characters that references are spelled with. -/
def isSign (c : Char) : Bool :=
  isNameChar c || c == '/' || c == '#' || Text.isAsciiBlank c

theorem isNameChar_toAsciiLower (c : Char) : isNameChar (Text.toAsciiLower c) = isNameChar c := by
  have dash : Text.toAsciiLower c = '-' ↔ c = '-' := Text.toAsciiLower_eq_iff (by decide)
  rw [Bool.eq_iff_iff]
  simp [isNameChar, dash]

/-- A verb is written with letters only, in whatever case. -/
theorem verb_named {verb : List Char} (known : verb.map Text.toAsciiLower ∈ verbs) :
    ∀ c ∈ verb, isNameChar c = true := by
  have named : (verbs.all fun word => word.all isNameChar) = true := by
    decide +kernel
  intro c member
  have lower := List.all_eq_true.mp (List.all_eq_true.mp named _ known) _
    (List.mem_map_of_mem member)
  rwa [isNameChar_toAsciiLower] at lower

theorem isSign_of_isNameChar {c : Char} (name : isNameChar c = true) : isSign c = true := by
  simp [isSign, name]

theorem isSign_of_isAsciiDigit {c : Char} (digit : Text.isAsciiDigit c = true) :
    isSign c = true := by
  rw [Text.isAsciiDigit] at digit
  simp [isSign, isNameChar, Text.isAsciiWord, Text.isAsciiAlphanumeric, digit]

theorem isSign_of_mem_placeText {place : Option (List Char × List Char)}
    (named : ∀ pair ∈ place, IsPlace pair) : ∀ c ∈ placeText place, isSign c = true := by
  intro c member
  cases place with
  | none => cases member
  | some pair =>
      obtain ⟨-, ownerName, -, repositoryName⟩ := named pair rfl
      rcases List.mem_append.mp member with owner | behind
      · exact isSign_of_isNameChar (ownerName c owner)
      · rcases List.mem_cons.mp behind with rfl | repository
        · rfl
        · exact isSign_of_isNameChar (repositoryName c repository)

theorem Spelling.isSign_of_mem_raw (spelling : Spelling) :
    ∀ c ∈ spelling.raw, isSign c = true := by
  intro c member
  simp only [raw, List.mem_append, List.mem_cons] at member
  rcases member with verb | blank | place | rfl | digit
  · exact isSign_of_isNameChar (verb_named spelling.verbKnown c verb)
  · simp [isSign, spelling.blanksBlank c blank]
  · exact isSign_of_mem_placeText spelling.placeNamed c place
  · rfl
  · exact isSign_of_isAsciiDigit (spelling.issueDigits c digit)

variable (outside : isSign separator = false)

include outside

theorem Spelling.free_of_outside (spelling : Spelling) : separator ∉ spelling.raw := by
  intro member
  rw [spelling.isSign_of_mem_raw separator member] at outside
  cases outside

/-- Where a reference begins before the separator, it ends before it. -/
theorem starts_append_iff {front : List Char} (rest : List Char) :
    Starts (front ++ separator :: rest) ↔ Starts front := by
  constructor
  · rintro ⟨spelling, begins⟩
    exact ⟨spelling, Text.prefix_of_prefix_append_cons (spelling.free_of_outside outside) begins⟩
  · rintro ⟨spelling, begins⟩
    exact ⟨spelling, begins.trans (List.prefix_append front _)⟩

theorem IsLongest.append {spelling : Spelling} {front : List Char}
    (longest : IsLongest spelling front) (rest : List Char) :
    IsLongest spelling (front ++ separator :: rest) where
  front := longest.front.trans (List.prefix_append front _)
  longest := fun other begins => longest.longest other
    (Text.prefix_of_prefix_append_cons (other.free_of_outside outside) begins)

theorem extract_cons_of_outside (rest : List Char) :
    extract (separator :: rest) = extract rest := by
  refine extract_of_not_starts ?_
  rw [← List.nil_append (separator :: rest), starts_append_iff outside]
  rintro ⟨spelling, begins⟩
  exact spelling.raw_ne_nil (List.prefix_nil.mp begins)

/-- The tokens of a text stay what they are in front of a separator. -/
theorem extract_append_of_tokens {front : List Char} {spellings : List Spelling}
    (tokens : Tokens front spellings) (rest : List Char) :
    extract (front ++ separator :: rest) = spellings.map Spelling.reference ++ extract rest := by
  induction tokens with
  | last unstarted =>
      have skips : ∀ suffix, suffix <:+ _ → suffix ≠ [] → ¬ Starts (suffix ++ separator :: rest) :=
        fun suffix behind _ => mt (starts_append_iff outside rest).mp (unstarted suffix behind)
      rw [extract_append_of_not_starts skips, extract_cons_of_outside outside, List.map_nil,
        List.nil_append]
  | @next skipped tail spelling spellings unstarted longest later ih =>
      have skips : ∀ suffix, suffix <:+ skipped → suffix ≠ [] →
          ¬ Starts (suffix ++ (spelling.raw ++ (tail ++ separator :: rest))) := by
        intro suffix behind nonempty
        rw [← List.append_assoc spelling.raw, ← List.append_assoc, starts_append_iff outside]
        exact unstarted suffix behind nonempty
      have same : IsLongest spelling (spelling.raw ++ (tail ++ separator :: rest)) := by
        rw [← List.append_assoc]
        exact longest.append outside rest
      rw [List.append_assoc, List.append_assoc, extract_append_of_not_starts skips,
        extract_of_readAt? (readAt?_of_isLongest same), ih]
      rfl

theorem extract_append_cons (front rest : List Char) :
    extract (front ++ separator :: rest) = extract front ++ extract rest := by
  obtain ⟨spellings, tokens⟩ := exists_tokens front
  rw [extract_append_of_tokens outside tokens, extract_of_tokens tokens]

end Reference

/-! ## Mentions -/

namespace Mention

variable {separator : Char} (unnamed : isNameChar separator = false) (unsigned : separator ≠ '@')

include unnamed unsigned

theorem extract_append_cons (front rest : List Char) :
    extract (front ++ separator :: rest) = extract front ++ extract rest := by
  induction front with
  | nil =>
      have unbegun : ¬ BeginsAt (separator :: rest) 0 := fun begins =>
        unsigned (beginsAt_zero_iff.mp begins).1
      rw [List.nil_append, extract_of_not_begins unbegun, extract, List.nil_append]
  | cons first front ih =>
      have run := Text.takeWhile_append_cons unnamed front rest
      have same : BeginsAt (first :: (front ++ separator :: rest)) 0 ↔
          BeginsAt (first :: front) 0 := by
        rw [beginsAt_zero_iff, beginsAt_zero_iff, run]
      rw [List.cons_append]
      by_cases begins : BeginsAt (first :: front) 0
      · rw [extract_of_begins (same.mpr begins), extract_of_begins begins, run, ih]
        rfl
      · rw [extract_of_not_begins (mt same.mp begins), extract_of_not_begins begins, ih]

end Mention

theorem mentions_eq (message : String) :
    (parse message).mentions =
      (Text.lines message.toList).flatMap fun line => (parse (String.ofList line)).mentions := by
  have apart : ∀ front rest, Mention.extract (front ++ '\n' :: rest) =
      Mention.extract front ++ Mention.extract rest :=
    Mention.extract_append_cons (by decide) (by decide)
  have pieces := Text.read_joinWith rfl apart (Text.lines message.toList)
  rw [Text.lines, Text.joinWith_splitOn] at pieces
  simp only [parse]
  rw [pieces, List.map_flatMap]
  simp only [Text.lines, String.toList_ofList]

/--
A character that no reference is spelled with keeps the references before it
and behind it apart, and one that is neither part of a name nor an at sign
keeps the mentions apart. A line feed is such a character for mentions, so
the mentions of a message are those of its lines.
-/
theorem extract_separated (separator : Char) (front rest : List Char) :
    (Reference.isSign separator = false →
      Reference.extract (front ++ separator :: rest) =
        Reference.extract front ++ Reference.extract rest) ∧
    (isNameChar separator = false → separator ≠ '@' →
      Mention.extract (front ++ separator :: rest) =
        Mention.extract front ++ Mention.extract rest) ∧
    ∀ message, (parse message).mentions =
      (Text.lines message.toList).flatMap fun line => (parse (String.ofList line)).mentions :=
  ⟨fun outside => Reference.extract_append_cons outside front rest,
    fun unnamed unsigned => Mention.extract_append_cons unnamed unsigned front rest, mentions_eq⟩

/-- A letter whose upper case lies in the basic alphabet is no letter of a verb or a handle. -/
theorem extract_separated_long_s :
    (Reference.isSign 'ſ' = false ∧ isNameChar 'ſ' = false ∧ 'ſ' ≠ '@') ∧
    Reference.extract ("close #1 fixe".toList ++ 'ſ' :: " #2 fix a/b#3".toList) =
      Reference.extract "close #1 fixe".toList ++ Reference.extract " #2 fix a/b#3".toList ∧
    Mention.extract ("@a".toList ++ 'ſ' :: "@b".toList) = ["a".toList, "b".toList] := by
  have outside : Reference.isSign 'ſ' = false ∧ isNameChar 'ſ' = false ∧ 'ſ' ≠ '@' := by decide
  refine ⟨outside, (extract_separated 'ſ' _ _).1 outside.1, ?_⟩
  rw [(extract_separated 'ſ' _ _).2.1 outside.2.1 outside.2.2]
  rfl

end CommitLint
