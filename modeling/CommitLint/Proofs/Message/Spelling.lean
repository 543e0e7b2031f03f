import CommitLint.Message.Reference
import CommitLint.Proofs.Text.Folding
import CommitLint.Proofs.Text.Runs

/-!
# The spelling of references

A reference is spelled as a closing verb in any letter case, blanks, a place
or none, the number sign and digits. No verb holds a blank and no name a
slash or a number sign, so that up to the digits a text can be taken for a
spelling in one way only, and the reader takes all the digits there are.
-/

namespace CommitLint.Reference

/-- What stands in front of the number sign to name a place. -/
def placeText : Option (List Char × List Char) → List Char
  | none => []
  | some (owner, repository) => owner ++ '/' :: repository

/-- An owner and a repository, both nonempty names. -/
structure IsPlace (place : List Char × List Char) : Prop where
  ownerNonempty : place.1 ≠ []
  ownerName : ∀ c ∈ place.1, isNameChar c = true
  repositoryNonempty : place.2 ≠ []
  repositoryName : ∀ c ∈ place.2, isNameChar c = true

/-- The parts of a reference as they stand in a text. -/
structure Spelling where
  verb : List Char
  blanks : List Char
  place : Option (List Char × List Char)
  issue : List Char
  verbKnown : verb.map Text.toAsciiLower ∈ verbs
  blanksNonempty : blanks ≠ []
  blanksBlank : ∀ c ∈ blanks, Text.isAsciiBlank c = true
  placeNamed : ∀ pair ∈ place, IsPlace pair
  issueNonempty : issue ≠ []
  issueDigits : ∀ c ∈ issue, Text.isAsciiDigit c = true

namespace Spelling

/-- The text that is spelled so. -/
def raw (spelling : Spelling) : List Char :=
  spelling.verb ++ (spelling.blanks ++ (placeText spelling.place ++ '#' :: spelling.issue))

/-- The reference that carries the parts, the verb in lower case. -/
def reference (spelling : Spelling) : Reference :=
  ⟨spelling.verb.map Text.toAsciiLower, spelling.place.map (·.1), spelling.place.map (·.2),
    spelling.issue, spelling.raw⟩

end Spelling

theorem placeText_some (owner repository rest : List Char) :
    placeText (some (owner, repository)) ++ rest = owner ++ '/' :: (repository ++ rest) := by
  rw [placeText, List.append_assoc, List.cons_append]

theorem Spelling.raw_append (spelling : Spelling) (rest : List Char) :
    spelling.raw ++ rest = spelling.verb ++
      (spelling.blanks ++ (placeText spelling.place ++ '#' :: (spelling.issue ++ rest))) := by
  simp only [raw, List.append_assoc, List.cons_append]

theorem toNat_le_of_isAsciiBlank {c : Char} (blank : Text.isAsciiBlank c = true) :
    c.toNat ≤ 32 := by
  simp only [Text.isAsciiBlank, Bool.or_eq_true, Bool.and_eq_true, decide_eq_true_eq,
    beq_iff_eq] at blank
  omega

theorem lt_toNat_of_isNameChar {c : Char} (name : isNameChar c = true) : 32 < c.toNat := by
  have above : ∀ {letter : Char}, 32 < letter.toNat → letter ≤ c → 32 < c.toNat :=
    fun large below => Nat.lt_of_lt_of_le large below
  simp only [isNameChar, Text.isAsciiWord, Text.isAsciiAlphanumeric, Bool.or_eq_true,
    Bool.and_eq_true, decide_eq_true_eq, beq_iff_eq] at name
  rcases name with (((⟨low, -⟩ | ⟨low, -⟩) | ⟨low, -⟩) | rfl) | rfl
  · exact above (by decide) low
  · exact above (by decide) low
  · exact above (by decide) low
  · decide
  · decide

theorem not_blank_of_isNameChar {c : Char} (name : isNameChar c = true) :
    Text.isAsciiBlank c = false := by
  by_contra blank
  exact absurd (toNat_le_of_isAsciiBlank (Bool.of_not_eq_false blank))
    (Nat.not_le.mpr (lt_toNat_of_isNameChar name))

/-- No verb holds a blank, in whatever case it is written. -/
theorem verb_solid {verb : List Char} (known : verb.map Text.toAsciiLower ∈ verbs) :
    ∀ c ∈ verb, (!Text.isAsciiBlank c) = true := by
  have solid : (verbs.all fun word => word.all fun c => !Text.isAsciiBlank c) = true := by
    decide +kernel
  intro c member
  have lower := List.all_eq_true.mp (List.all_eq_true.mp solid _ known) _
    (List.mem_map_of_mem member)
  rwa [Text.isAsciiBlank_toAsciiLower] at lower

theorem readVerb?_eq_some_iff {text verb action rest : List Char} :
    readVerb? text verb = some (action, rest) ↔
      action = verb ∧ ∃ written blanks, text = written ++ (blanks ++ rest) ∧
        written.map Text.toAsciiLower = verb ∧ blanks ≠ [] ∧
        (∀ c ∈ blanks, Text.isAsciiBlank c = true) ∧ Text.Stops Text.isAsciiBlank rest := by
  constructor
  · intro read
    unfold readVerb? at read
    split at read
    case h_1 c tail dropped =>
      obtain ⟨written, cut, lower⟩ := Text.dropWord?_eq_some_iff.mp dropped
      split at read
      case isTrue blank =>
        obtain ⟨whole, inside, stops⟩ := Text.longest_run Text.isAsciiBlank tail
        cases read
        refine ⟨rfl, written, c :: tail.takeWhile Text.isAsciiBlank, ?_, lower,
          List.cons_ne_nil _ _, List.forall_mem_cons.mpr ⟨blank, inside⟩, stops⟩
        rw [cut, List.cons_append, ← whole]
      case isFalse => cases read
    case h_2 => cases read
  · rintro ⟨rfl, written, blanks, rfl, lower, nonempty, inside, stops⟩
    obtain ⟨c, tail, rfl⟩ := List.exists_cons_of_ne_nil nonempty
    obtain ⟨blank, others⟩ := List.forall_mem_cons.mp inside
    have dropped : Text.dropWord? action (written ++ (c :: tail ++ rest)) =
        some (c :: (tail ++ rest)) :=
      Text.dropWord?_eq_some_iff.mpr ⟨written, rfl, lower⟩
    have span := Text.span_append others stops
    rw [List.span_eq_takeWhile_dropWhile, Prod.mk.injEq] at span
    simp only [readVerb?, dropped, if_pos blank, span.2]

/-- At most one verb stands at the front of a text, since a blank must follow it. -/
theorem findSome?_readVerb?_eq_some_iff {text action rest : List Char} :
    verbs.findSome? (readVerb? text) = some (action, rest) ↔
      ∃ written blanks, text = written ++ (blanks ++ rest) ∧
        written.map Text.toAsciiLower = action ∧ action ∈ verbs ∧ blanks ≠ [] ∧
        (∀ c ∈ blanks, Text.isAsciiBlank c = true) ∧ Text.Stops Text.isAsciiBlank rest := by
  constructor
  · intro found
    obtain ⟨verb, known, read⟩ := List.exists_of_findSome?_eq_some found
    obtain ⟨rfl, written, blanks, cut, lower, others⟩ := readVerb?_eq_some_iff.mp read
    exact ⟨written, blanks, cut, lower, known, others⟩
  · rintro ⟨written, blanks, cut, lower, known, nonempty, inside, stops⟩
    have read : readVerb? text action = some (action, rest) :=
      readVerb?_eq_some_iff.mpr ⟨rfl, written, blanks, cut, lower, nonempty, inside, stops⟩
    have some : (verbs.findSome? (readVerb? text)).isSome = true :=
      List.findSome?_isSome_iff.mpr ⟨action, known, by rw [read]; rfl⟩
    obtain ⟨⟨verb, tail⟩, found⟩ := Option.isSome_iff_exists.mp some
    obtain ⟨other, knownOther, readOther⟩ := List.exists_of_findSome?_eq_some found
    obtain ⟨rfl, writtenOther, blanksOther, cutOther, lowerOther, nonemptyOther, insideOther,
      stopsOther⟩ := readVerb?_eq_some_iff.mp readOther
    have ended : Text.Stops (fun c => !Text.isAsciiBlank c) (blanks ++ rest) :=
      Text.stops_append nonempty (fun c member => by rw [inside c member]; rfl) rest
    have endedOther : Text.Stops (fun c => !Text.isAsciiBlank c) (blanksOther ++ tail) :=
      Text.stops_append nonemptyOther (fun c member => by rw [insideOther c member]; rfl) tail
    obtain ⟨sameVerb, sameRest⟩ := Text.run_unique (cut.symm.trans cutOther)
      (verb_solid (lower.symm ▸ known)) ended (verb_solid (lowerOther.symm ▸ knownOther)) endedOther
    obtain ⟨-, sameTail⟩ := Text.run_unique sameRest inside stops insideOther stopsOther
    rw [found, ← lowerOther, ← sameVerb, lower, sameTail]

/-- What stands between the blanks and the issue begins with no blank. -/
theorem stops_placeText {place : Option (List Char × List Char)}
    (named : ∀ pair ∈ place, IsPlace pair) (rest : List Char) :
    Text.Stops Text.isAsciiBlank (placeText place ++ '#' :: rest) := by
  cases place with
  | none => exact Text.stops_cons (by decide)
  | some pair =>
      obtain ⟨nonempty, name, -⟩ := named pair rfl
      rw [placeText, List.append_assoc]
      refine Text.stops_append nonempty (fun c member => ?_) _
      exact not_blank_of_isNameChar (name c member)

theorem readRepository?_eq_some_iff {text owner repository tail : List Char} :
    readRepository? text = some (owner, repository, tail) ↔
      text = placeText (some (owner, repository)) ++ '#' :: tail ∧
        IsPlace (owner, repository) := by
  constructor
  · intro read
    unfold readRepository? at read
    split at read
    case h_1 first others rest cut =>
      obtain ⟨whole, inside, -⟩ := Text.span_eq_iff.mp cut
      split at read
      case h_1 next more behind cutBehind =>
        obtain ⟨wholeBehind, insideBehind, -⟩ := Text.span_eq_iff.mp cutBehind
        cases read
        refine ⟨?_, List.cons_ne_nil _ _, inside, List.cons_ne_nil _ _, insideBehind⟩
        rw [placeText_some, ← wholeBehind, ← whole]
      case h_2 => cases read
    case h_2 => cases read
  · rintro ⟨rfl, nonempty, name, nonemptyBehind, nameBehind⟩
    have slash : Text.Stops isNameChar ('/' :: (repository ++ '#' :: tail)) :=
      Text.stops_cons (by decide)
    have mark : Text.Stops isNameChar ('#' :: tail) := Text.stops_cons (by decide)
    have cut : (owner ++ '/' :: (repository ++ '#' :: tail)).span isNameChar =
      (owner, '/' :: (repository ++ '#' :: tail)) := Text.span_append name slash
    have cutBehind : (repository ++ '#' :: tail).span isNameChar = (repository, '#' :: tail) :=
      Text.span_append nameBehind mark
    obtain ⟨first, others, rfl⟩ := List.exists_cons_of_ne_nil nonempty
    obtain ⟨next, more, rfl⟩ := List.exists_cons_of_ne_nil nonemptyBehind
    simp only [placeText_some, readRepository?, cut, cutBehind]

theorem placeText_some_ne_mark {pair : List Char × List Char} (named : IsPlace pair)
    (rest digits : List Char) : placeText (some pair) ++ rest ≠ '#' :: digits := by
  obtain ⟨owner, repository⟩ := pair
  obtain ⟨nonempty, name, -⟩ := named
  obtain ⟨first, others, rfl⟩ := List.exists_cons_of_ne_nil nonempty
  intro same
  rw [placeText_some, List.cons_append, List.cons.injEq] at same
  have outside : isNameChar '#' = true := same.1 ▸ name first List.mem_cons_self
  cases outside

theorem readIssue?_eq_some_iff {start rest action : List Char}
    {place : Option (List Char × List Char)} {reference : Reference} :
    readIssue? start rest action place = some reference ↔
      ∃ digits tail, rest = digits ++ tail ∧ digits ≠ [] ∧
        (∀ c ∈ digits, Text.isAsciiDigit c = true) ∧ Text.Stops Text.isAsciiDigit tail ∧
        reference = ⟨action, place.map (·.1), place.map (·.2), digits,
          start.take (start.length - tail.length)⟩ := by
  constructor
  · intro read
    unfold readIssue? at read
    split at read
    case h_1 => cases read
    case h_2 digits tail nonempty cut =>
      obtain ⟨whole, inside, stops⟩ := Text.span_eq_iff.mp cut
      cases read
      exact ⟨digits, tail, whole, fun none => nonempty none, inside, stops, rfl⟩
  · rintro ⟨digits, tail, rfl, nonempty, inside, stops, rfl⟩
    rw [readIssue?, Text.span_append inside stops]
    obtain ⟨first, others, rfl⟩ := List.exists_cons_of_ne_nil nonempty
    rfl

theorem take_front (front rest : List Char) :
    (front ++ rest).take ((front ++ rest).length - rest.length) = front := by
  rw [List.length_append, Nat.add_sub_cancel, List.take_left]

/-- Behind a verb, blanks and a place, reading the issue completes a spelling. -/
theorem spelling_of_readIssue? {verb blanks rest : List Char}
    {place : Option (List Char × List Char)} {reference : Reference}
    (known : verb.map Text.toAsciiLower ∈ verbs) (nonempty : blanks ≠ [])
    (inside : ∀ c ∈ blanks, Text.isAsciiBlank c = true) (named : ∀ pair ∈ place, IsPlace pair)
    (read : readIssue? (verb ++ (blanks ++ (placeText place ++ '#' :: rest))) rest
      (verb.map Text.toAsciiLower) place = some reference) :
    ∃ (spelling : Spelling) (tail : List Char),
      verb ++ (blanks ++ (placeText place ++ '#' :: rest)) = spelling.raw ++ tail ∧
        Text.Stops Text.isAsciiDigit tail ∧ reference = spelling.reference := by
  obtain ⟨digits, tail, rfl, digitsNonempty, digitsInside, stops, rfl⟩ :=
    readIssue?_eq_some_iff.mp read
  let spelling : Spelling :=
    ⟨verb, blanks, place, digits, known, nonempty, inside, named, digitsNonempty, digitsInside⟩
  have cut := (spelling.raw_append tail).symm
  refine ⟨spelling, tail, cut, stops, ?_⟩
  rw [cut, take_front]
  rfl

theorem readIssue?_of_spelling (spelling : Spelling) {rest : List Char}
    (stops : Text.Stops Text.isAsciiDigit rest) :
    readIssue? (spelling.raw ++ rest) (spelling.issue ++ rest)
      (spelling.verb.map Text.toAsciiLower) spelling.place = some spelling.reference := by
  refine readIssue?_eq_some_iff.mpr
    ⟨spelling.issue, rest, rfl, spelling.issueNonempty, spelling.issueDigits, stops, ?_⟩
  rw [take_front]
  rfl

/-- The reader finds the spelling whose digits go as far as there are digits. -/
theorem readAt?_eq_some_iff {text : List Char} {reference : Reference} :
    readAt? text = some reference ↔
      ∃ (spelling : Spelling) (rest : List Char), text = spelling.raw ++ rest ∧
        Text.Stops Text.isAsciiDigit rest ∧ reference = spelling.reference := by
  constructor
  · intro read
    obtain ⟨⟨action, behind⟩, found, later⟩ := Option.bind_eq_some_iff.mp read
    obtain ⟨verb, blanks, rfl, rfl, known, nonempty, inside, -⟩ :=
      findSome?_readVerb?_eq_some_iff.mp found
    dsimp only at later
    split at later
    case h_1 digits =>
      have none : ∀ pair ∈ (none : Option (List Char × List Char)), IsPlace pair :=
        fun pair member => absurd member (Option.not_mem_none pair)
      exact spelling_of_readIssue? known nonempty inside none later
    case h_2 =>
      obtain ⟨⟨owner, repository, digits⟩, place, rest⟩ := Option.bind_eq_some_iff.mp later
      obtain ⟨rfl, named⟩ := readRepository?_eq_some_iff.mp place
      have some : ∀ pair ∈ some (owner, repository), IsPlace pair := by
        rintro pair ⟨⟩
        exact named
      exact spelling_of_readIssue? known nonempty inside some rest
  · rintro ⟨spelling, rest, rfl, stops, rfl⟩
    have read := readIssue?_of_spelling spelling stops
    have cut := spelling.raw_append rest
    have found := findSome?_readVerb?_eq_some_iff.mpr ⟨spelling.verb, spelling.blanks, cut, rfl,
      spelling.verbKnown, spelling.blanksNonempty, spelling.blanksBlank,
      stops_placeText spelling.placeNamed _⟩
    refine Option.bind_eq_some_iff.mpr ⟨_, found, ?_⟩
    dsimp only
    split
    case h_1 digits same =>
      cases place : spelling.place with
      | none =>
          rw [place] at same read
          cases same
          exact read
      | some pair =>
          rw [place] at same
          exact absurd same (placeText_some_ne_mark (spelling.placeNamed pair place) _ digits)
    case h_2 unmarked =>
      cases place : spelling.place with
      | none =>
          rw [place] at unmarked
          exact absurd rfl (unmarked _)
      | some pair =>
          rw [place] at read
          exact Option.bind_eq_some_iff.mpr ⟨(pair.1, pair.2, spelling.issue ++ rest),
            readRepository?_eq_some_iff.mpr ⟨rfl, spelling.placeNamed pair place⟩, read⟩

end CommitLint.Reference
