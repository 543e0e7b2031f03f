import CommitLint.Proofs.Message.Spelling

/-!
# References as tokens

The references of a text are its tokens from left to right: the next token
begins at the first place, not before the end of the last one, where some
spelling begins, and it is the longest spelling that begins there.
-/

namespace CommitLint.Reference

/-- Some spelling of a reference begins at the front of a text. -/
def Starts (text : List Char) : Prop :=
  ∃ spelling : Spelling, spelling.raw <+: text

/-- The longest of the spellings that begin at the front of a text. -/
structure IsLongest (spelling : Spelling) (text : List Char) : Prop where
  front : spelling.raw <+: text
  longest : ∀ other : Spelling, other.raw <+: text → other.raw.length ≤ spelling.raw.length

/-- The spellings that a text is cut at: no spelling begins in what is skipped. -/
inductive Tokens : List Char → List Spelling → Prop where
  | last {text : List Char} (unstarted : ∀ suffix, suffix <:+ text → ¬ Starts suffix) :
      Tokens text []
  | next {skipped rest : List Char} {spelling : Spelling} {spellings : List Spelling}
      (unstarted : ∀ suffix, suffix <:+ skipped → suffix ≠ [] →
        ¬ Starts (suffix ++ (spelling.raw ++ rest)))
      (longest : IsLongest spelling (spelling.raw ++ rest)) (later : Tokens rest spellings) :
      Tokens (skipped ++ (spelling.raw ++ rest)) (spelling :: spellings)

/-- The spelling with more digits behind its issue. -/
def Spelling.lengthen (spelling : Spelling) (more : List Char)
    (digits : ∀ c ∈ more, Text.isAsciiDigit c = true) : Spelling :=
  { spelling with
    issue := spelling.issue ++ more
    issueNonempty := List.append_ne_nil_of_left_ne_nil spelling.issueNonempty more
    issueDigits := by
      intro c member
      rcases List.mem_append.mp member with old | new
      · exact spelling.issueDigits c old
      · exact digits c new }

theorem Spelling.raw_lengthen (spelling : Spelling) {more : List Char}
    (digits : ∀ c ∈ more, Text.isAsciiDigit c = true) :
    (spelling.lengthen more digits).raw = spelling.raw ++ more := by
  simp only [raw, lengthen, List.append_assoc, List.cons_append]

theorem Spelling.raw_ne_nil (spelling : Spelling) : spelling.raw ≠ [] := by
  intro nothing
  exact spelling.blanksNonempty
    (List.append_eq_nil_iff.mp (List.append_eq_nil_iff.mp nothing).2).1

/-- Where a spelling begins, the reader finds it with all the digits that follow. -/
theorem readAt?_of_front {spelling : Spelling} {text : List Char} (front : spelling.raw <+: text) :
    ∃ (more : List Char) (digits : ∀ c ∈ more, Text.isAsciiDigit c = true),
      (spelling.lengthen more digits).raw <+: text ∧
        readAt? text = some (spelling.lengthen more digits).reference := by
  obtain ⟨tail, rfl⟩ := front
  obtain ⟨whole, digits, stops⟩ := Text.longest_run Text.isAsciiDigit tail
  have cut : spelling.raw ++ tail =
      (spelling.lengthen (tail.takeWhile Text.isAsciiDigit) digits).raw ++
        tail.dropWhile Text.isAsciiDigit := by
    rw [Spelling.raw_lengthen, List.append_assoc, ← whole]
  exact ⟨_, digits, ⟨_, cut.symm⟩, readAt?_eq_some_iff.mpr ⟨_, _, cut, stops, rfl⟩⟩

theorem readAt?_eq_none_iff {text : List Char} : readAt? text = none ↔ ¬ Starts text := by
  constructor
  · rintro nothing ⟨spelling, front⟩
    obtain ⟨more, digits, -, read⟩ := readAt?_of_front front
    rw [nothing] at read
    cases read
  · intro unstarted
    cases read : readAt? text with
    | none => rfl
    | some reference =>
        obtain ⟨spelling, rest, rfl, -⟩ := readAt?_eq_some_iff.mp read
        exact absurd ⟨spelling, List.prefix_append _ _⟩ unstarted

theorem readAt?_of_isLongest {spelling : Spelling} {text : List Char}
    (longest : IsLongest spelling text) : readAt? text = some spelling.reference := by
  obtain ⟨more, digits, front, read⟩ := readAt?_of_front longest.front
  have bound := longest.longest _ front
  rw [Spelling.raw_lengthen, List.length_append] at bound
  obtain rfl : more = [] := List.eq_nil_of_length_eq_zero (by omega)
  have same : spelling.lengthen [] digits = spelling := by
    simp only [Spelling.lengthen, List.append_nil]
  rwa [same] at read

/-- What the reader finds is the longest spelling. -/
theorem isLongest_of_readAt? {text : List Char} {reference : Reference}
    (read : readAt? text = some reference) :
    ∃ (spelling : Spelling) (rest : List Char), text = spelling.raw ++ rest ∧
      reference = spelling.reference ∧ IsLongest spelling text := by
  obtain ⟨spelling, rest, cut, -, same⟩ := readAt?_eq_some_iff.mp read
  refine ⟨spelling, rest, cut, same, cut ▸ List.prefix_append _ _, ?_⟩
  intro other front
  obtain ⟨more, digits, -, readOther⟩ := readAt?_of_front front
  rw [read, same] at readOther
  have raw : spelling.raw = (other.lengthen more digits).raw :=
    congrArg Reference.raw (Option.some.inj readOther)
  rw [raw, Spelling.raw_lengthen, List.length_append]
  exact Nat.le_add_right _ _

theorem extract_of_not_starts {first : Char} {rest : List Char}
    (unstarted : ¬ Starts (first :: rest)) : extract (first :: rest) = extract rest := by
  rw [extract, readAt?_eq_none_iff.mpr unstarted]

/-- Behind a reference the reading goes on where it ended. -/
theorem extract_of_readAt? {spelling : Spelling} {rest : List Char}
    (read : readAt? (spelling.raw ++ rest) = some spelling.reference) :
    extract (spelling.raw ++ rest) = spelling.reference :: extract rest := by
  obtain ⟨first, others, shape⟩ := List.exists_cons_of_ne_nil spelling.raw_ne_nil
  have length : spelling.reference.raw.length - 1 = others.length := by
    rw [Spelling.reference, shape, List.length_cons, Nat.add_sub_cancel]
  rw [shape, List.cons_append] at read ⊢
  rw [extract, read]
  dsimp only
  rw [length, List.drop_left]

/-- What is skipped in front of a text adds no token to it. -/
theorem extract_append_of_not_starts {skipped text : List Char}
    (unstarted : ∀ suffix, suffix <:+ skipped → suffix ≠ [] → ¬ Starts (suffix ++ text)) :
    extract (skipped ++ text) = extract text := by
  induction skipped with
  | nil => rfl
  | cons first skipped ih =>
      have here := unstarted _ List.suffix_rfl (List.cons_ne_nil first skipped)
      rw [List.cons_append] at here
      rw [List.cons_append, extract_of_not_starts here]
      exact ih fun suffix behind => unstarted suffix (behind.trans (List.suffix_cons first skipped))

theorem extract_of_tokens {text : List Char} {spellings : List Spelling}
    (tokens : Tokens text spellings) : extract text = spellings.map Spelling.reference := by
  induction tokens with
  | @last text unstarted =>
      have skips : ∀ suffix, suffix <:+ text → suffix ≠ [] → ¬ Starts (suffix ++ []) := by
        intro suffix behind _
        rw [List.append_nil]
        exact unstarted suffix behind
      have skipped := extract_append_of_not_starts skips
      rw [List.append_nil] at skipped
      rw [skipped, extract, List.map_nil]
  | next unstarted longest later ih =>
      rw [extract_append_of_not_starts unstarted, extract_of_readAt? (readAt?_of_isLongest longest),
        ih, List.map_cons]

/-- A character at which no spelling begins can be skipped. -/
theorem Tokens.skip {first : Char} {rest : List Char} {spellings : List Spelling}
    (unstarted : ¬ Starts (first :: rest)) (tokens : Tokens rest spellings) :
    Tokens (first :: rest) spellings := by
  cases tokens with
  | last none =>
      refine .last fun suffix behind => ?_
      rcases List.suffix_cons_iff.mp behind with rfl | later
      · exact unstarted
      · exact none suffix later
  | @next skipped tail spelling spellings none longest later =>
      have skips : ∀ suffix, suffix <:+ first :: skipped → suffix ≠ [] →
          ¬ Starts (suffix ++ (spelling.raw ++ tail)) := by
        intro suffix behind nonempty
        rcases List.suffix_cons_iff.mp behind with rfl | further
        · exact unstarted
        · exact none suffix further nonempty
      exact .next skips longest later

theorem exists_tokens (text : List Char) : ∃ spellings, Tokens text spellings := by
  induction text using extract.induct with
  | case1 =>
      refine ⟨[], .last ?_⟩
      rintro suffix behind ⟨spelling, front⟩
      rw [List.suffix_nil.mp behind, List.prefix_nil] at front
      exact spelling.raw_ne_nil front
  | case2 first rest reference read ih =>
      obtain ⟨spelling, tail, cut, same, longest⟩ := isLongest_of_readAt? read
      obtain ⟨spellings, later⟩ := ih
      have behind : rest.drop (reference.raw.length - 1) = tail := by
        have raw : reference.raw = spelling.raw := congrArg Reference.raw same
        obtain ⟨head, others, shape⟩ := List.exists_cons_of_ne_nil spelling.raw_ne_nil
        rw [shape, List.cons_append, List.cons.injEq] at cut
        rw [raw, shape, List.length_cons, Nat.add_sub_cancel, cut.2, List.drop_left]
      rw [behind] at later
      rw [cut] at longest ⊢
      have none : ∀ suffix, suffix <:+ [] → suffix ≠ [] →
          ¬ Starts (suffix ++ (spelling.raw ++ tail)) :=
        fun suffix nothing nonempty => absurd (List.suffix_nil.mp nothing) nonempty
      exact ⟨spelling :: spellings, .next none longest later⟩
  | case3 first rest unread ih =>
      obtain ⟨spellings, later⟩ := ih
      exact ⟨spellings, later.skip (readAt?_eq_none_iff.mp unread)⟩

/-- The references of a text are those that its tokens spell. -/
theorem extract_eq_iff {text : List Char} {references : List Reference} :
    extract text = references ↔
      ∃ spellings, Tokens text spellings ∧ references = spellings.map Spelling.reference := by
  constructor
  · rintro rfl
    obtain ⟨spellings, tokens⟩ := exists_tokens text
    exact ⟨spellings, tokens, extract_of_tokens tokens⟩
  · rintro ⟨spellings, tokens, rfl⟩
    exact extract_of_tokens tokens

end CommitLint.Reference
