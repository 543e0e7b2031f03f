import CommitLint.Proofs.Message.Spelling
import CommitLint.Proofs.Pattern.AnyCase
import Mathlib

/-!
# The pattern of references

References can also be found by a search pattern with a group for each of
the parts. Where it matches, the text begins with a spelling up to the last
digit, whatever the search has tried before; so a search that goes on behind
every match finds the references that reading finds.
-/

namespace CommitLint.Reference

open Pattern

/-- The pattern text: it keeps to the basic alphabet and ignores case. -/
def patternText : List Char :=
  ("(?ai)(?P<action>close[sd]?|fix(?:e[sd])?|resolve[sd]?)\\s+" ++
    "(?:(?P<owner>[\\w-]+)/(?P<repository>[\\w-]+))?#(?P<issue>\\d+)").toList

/-- An ending of a verb that may be left out. -/
def endingNode : Node :=
  .iterate .greedy 0 (some 1) (.char (.anyOf ['s', 'd']))

def verbNode : Node :=
  .either (wordThen "close".toList endingNode)
    (.either
      (wordThen "fix".toList (.iterate .greedy 0 (some 1)
        (.seq (.char (.anyOf ['e'])) (.char (.anyOf ['s', 'd'])))))
      (wordThen "resolve".toList endingNode))

def blankSet : CharSet :=
  ⟨⟨true, true⟩, false, [.category .blank false]⟩

def nameSet : CharSet :=
  ⟨⟨true, true⟩, false, [.category .word false, .code '-'.toNat]⟩

def digitSet : CharSet :=
  ⟨⟨true, true⟩, false, [.category .digit false]⟩

def nameRun : Node :=
  .iterate .greedy 1 none (.char nameSet)

def placeNode : Node :=
  .iterate .greedy 0 (some 1)
    (.seq (.group 2 nameRun) (.seq (.char (.anyOf ['/'])) (.group 3 nameRun)))

def issueNode : Node :=
  .group 4 (.iterate .greedy 1 none (.char digitSet))

def node : Node :=
  .seq (.group 1 verbNode)
    (.seq (.iterate .greedy 1 none (.char blankSet))
      (.seq placeNode (.seq (.char (.anyOf ['#'])) issueNode)))

set_option maxRecDepth 8000 in
theorem read_patternText [CharacterNames] : Pattern.read patternText = .ok node := by
  cbv

@[simp] theorem blankSet_admits (c : Char) : blankSet.admits c = Text.isAsciiBlank c := by
  simp [blankSet, CharSet.admits, Member.admits, Category.holds, Comparison.fold]

@[simp] theorem digitSet_admits (c : Char) : digitSet.admits c = Text.isAsciiDigit c := by
  simp [digitSet, CharSet.admits, Member.admits, Category.holds, Comparison.fold]

@[simp] theorem nameSet_admits (c : Char) : nameSet.admits c = isNameChar c := by
  have dash : '-' = Text.toAsciiLower c ↔ c = '-' :=
    eq_comm.trans (Text.toAsciiLower_eq_iff (by decide))
  have small : Text.toAsciiLower '-' = '-' := rfl
  rw [Bool.eq_iff_iff]
  simp [nameSet, CharSet.admits, Member.admits, Category.holds, Comparison.fold,
    Comparison.equals, isNameChar, small, dash]

/-- The alternatives and endings of the pattern spell the closing verbs and nothing else. -/
theorem spells_verbNode : verbNode.Spells verbs := by
  have letters : (Node.char (.anyOf ['s', 'd'])).Spells [['s'], ['d']] := .char rfl
  have ending : endingNode.Spells [[], ['s'], ['d']] := letters.optional
  have vowel : (Node.char (.anyOf ['e'])).Spells [['e']] := .char rfl
  exact (spells_wordThen ending rfl).either
    ((spells_wordThen (vowel.seq letters).optional rfl).either (spells_wordThen ending rfl))

variable {text : List Char} {position : Nat} {spot next : Spot}

/-- What stands in front of the number sign, and what the groups of the place hold then. -/
theorem placeText_of_matches (matched : placeNode.Matches text.toArray spot next)
    (unowned : spot.captured text 2 = none) (unnamed : spot.captured text 3 = none) :
    ∃ place, spot.ahead text = placeText place ++ next.ahead text ∧
      (∀ pair ∈ place, IsPlace pair) ∧ next.captured text 1 = spot.captured text 1 ∧
      next.captured text 2 = place.map (·.1) ∧ next.captured text 3 = place.map (·.2) := by
  rcases rounds_optional_iff.mp matched with rfl | ⟨owned, holding, slashed, slash, naming⟩
  · exact ⟨none, rfl, fun pair member => absurd member (Option.not_mem_none pair), rfl, unowned,
      unnamed⟩
  · obtain ⟨owner, rest, ahead, ownerNonempty, ownerName, rfl⟩ := groupRun_iff.mp holding
    obtain ⟨tail, behind, rfl⟩ := (CharSet.sign_way_iff (by decide)).mp slash
    obtain ⟨repository, others, last, nonempty, name, rfl⟩ := groupRun_iff.mp naming
    simp only [nameSet_admits] at ownerName name
    have first := (Spot.ahead_capture 2 spot.position).trans (Spot.ahead_forward ahead)
    have second := Spot.ahead_forward_one behind
    have third := Spot.ahead_forward last
    refine ⟨some (owner, repository), ?_, ?_, ?_, ?_, ?_⟩
    · rw [Spot.ahead_capture, third, placeText_some, ahead, ← first, behind, ← second, last]
    · rintro pair ⟨⟩
      exact ⟨ownerNonempty, ownerName, nonempty, name⟩
    · rw [Spot.captured_capture_of_ne (by decide)]
      exact Spot.captured_capture_of_ne (by decide)
    · rw [Spot.captured_capture_of_ne (by decide)]
      exact Spot.captured_run ahead
    · exact Spot.captured_run last

theorem placeNode_matches {place : Option (List Char × List Char)} {rest : List Char}
    (named : ∀ pair ∈ place, IsPlace pair) (ahead : spot.ahead text = placeText place ++ rest) :
    ∃ next, placeNode.Matches text.toArray spot next ∧ next.ahead text = rest := by
  cases place with
  | none => exact ⟨spot, rounds_optional_iff.mpr (.inl rfl), ahead⟩
  | some pair =>
      obtain ⟨owner, repository⟩ := pair
      obtain ⟨ownerNonempty, ownerName, nonempty, name⟩ := named _ rfl
      rw [placeText_some] at ahead
      have first := (Spot.ahead_capture 2 spot.position).trans (Spot.ahead_forward ahead)
      have second := Spot.ahead_forward_one first
      have holding : (Node.group 2 nameRun).Matches text.toArray spot _ := groupRun_iff.mpr
        ⟨owner, _, ahead, ownerNonempty,
          fun c member => (nameSet_admits c).trans (ownerName c member), rfl⟩
      have slash := (CharSet.sign_way_iff (by decide)).mpr ⟨_, first, rfl⟩
      have naming : (Node.group 3 nameRun).Matches text.toArray _ _ := groupRun_iff.mpr
        ⟨repository, rest, second, nonempty,
          fun c member => (nameSet_admits c).trans (name c member), rfl⟩
      exact ⟨_, rounds_optional_iff.mpr (.inr ⟨_, holding, _, slash, naming⟩),
        Spot.ahead_forward second⟩

theorem matches_of_spelling {spelling : Spelling} (front : spelling.raw <+: text.drop position) :
    ∃ next, node.Matches text.toArray ⟨position, []⟩ next := by
  obtain ⟨rest, cut⟩ := front
  rw [spelling.raw_append] at cut
  have ahead : (⟨position, []⟩ : Spot).ahead text = _ := cut.symm
  have first := (Spot.ahead_capture 1 position).trans (Spot.ahead_forward ahead)
  have second := Spot.ahead_forward first
  obtain ⟨placed, matched, third⟩ := placeNode_matches spelling.placeNamed second
  have fourth := Spot.ahead_forward_one third
  refine ⟨_, _, (Node.Takes.group spells_verbNode).mpr ⟨_, _, ahead, spelling.verbKnown, rfl⟩,
    _, (Node.Takes.charRun blankSet _ _ _).mpr ⟨_, _, first, ⟨spelling.blanksNonempty, ?_⟩, rfl⟩,
    placed, matched, _, (CharSet.sign_way_iff (by decide)).mpr ⟨_, third, rfl⟩,
    groupRun_iff.mpr ⟨_, _, fourth, spelling.issueNonempty, ?_, rfl⟩⟩
  · exact fun c member => (blankSet_admits c).trans (spelling.blanksBlank c member)
  · exact fun c member => (digitSet_admits c).trans (spelling.issueDigits c member)

theorem node_ordered : node.Ordered := by
  simp [node, verbNode, endingNode, wordThen, inFront, placeNode, nameRun, issueNode, Node.Ordered]

/-- The reference that the groups hold behind a match that began at `start`. -/
def ofSpot (text : List Char) (start : Nat) (spot : Spot) : Reference :=
  ⟨((spot.captured text 1).getD []).map Text.toAsciiLower, spot.captured text 2,
    spot.captured text 3, (spot.captured text 4).getD [],
    (text.drop start).take (spot.position - start)⟩

/-- The groups hold the parts of a spelling. -/
structure Holds (text : List Char) (spot : Spot) (spelling : Spelling) : Prop where
  verb : spot.captured text 1 = some spelling.verb
  owner : spot.captured text 2 = spelling.place.map (·.1)
  repository : spot.captured text 3 = spelling.place.map (·.2)
  issue : spot.captured text 4 = some spelling.issue

theorem Holds.ofSpot_eq {spelling : Spelling} (held : Holds text next spelling)
    (front : spelling.raw <+: text.drop position)
    (reached : next.position = position + spelling.raw.length) :
    ofSpot text position next = spelling.reference := by
  obtain ⟨rest, cut⟩ := front
  have raw : (text.drop position).take (next.position - position) = spelling.raw := by
    rw [reached, Nat.add_sub_cancel_left, ← cut, List.take_left]
  simp only [ofSpot, held.verb, held.owner, held.repository, held.issue, Option.getD_some, raw]
  rfl

/-- Behind the text there is no first letter of a verb. -/
theorem within_of_run (ran : node.run text.toArray ⟨position, []⟩ some = some next) :
    position ≤ text.length := by
  refine Nat.le_of_not_lt fun beyond => ?_
  have nothing : text[position]? = none := List.getElem?_eq_none (Nat.le_of_lt beyond)
  simp [node, verbNode, endingNode, wordThen, inFront, Node.run, nothing] at ran

/-- Where the search ends, it has taken a spelling up to the last digit. -/
theorem spelling_of_run (ran : node.run text.toArray ⟨position, []⟩ some = some next) :
    ∃ (spelling : Spelling) (rest : List Char), text.drop position = spelling.raw ++ rest ∧
      Text.Stops Text.isAsciiDigit rest ∧ next.position = position + spelling.raw.length ∧
      Holds text next spelling := by
  have within := within_of_run ran
  obtain ⟨-, ordered⟩ := node_ordered
  obtain ⟨_, verbed, inside, ran⟩ := Node.seq_run_sound node_ordered.1 within ran
  obtain ⟨verb, rest, ahead, known, rfl⟩ := (Node.Takes.group spells_verbNode).mp verbed
  obtain ⟨_, blanked, inside, ran⟩ := Node.seq_run_sound ordered.1 inside ran
  obtain ⟨blanks, tail, behind, ⟨blanksNonempty, blank⟩, rfl⟩ :=
    (Node.Takes.charRun blankSet _ _ _).mp blanked
  obtain ⟨placed, matched, inside, ran⟩ := Node.seq_run_sound ordered.2.1 inside ran
  obtain ⟨place, cut, named, verbKept, owner, repository⟩ := placeText_of_matches matched rfl rfl
  obtain ⟨_, marked, inside, ran⟩ := Node.seq_run_sound ordered.2.2.1 inside ran
  obtain ⟨others, mark, rfl⟩ := (CharSet.sign_way_iff (by decide)).mp marked
  obtain ⟨digits, final, last, nonempty, digit, stops, rfl⟩ := groupRun_last inside ran
  simp only [blankSet_admits, digitSet_admits, Text.Stops] at blank digit stops
  let spelling : Spelling :=
    ⟨verb, blanks, place, digits, known, blanksNonempty, blank, named, nonempty, digit⟩
  have whole : (⟨position, []⟩ : Spot).ahead text = spelling.raw ++ final := by
    have first := (Spot.ahead_forward ahead).symm.trans behind
    have second := (Spot.ahead_forward behind).symm.trans cut
    have third := (Spot.ahead_forward_one mark).symm.trans last
    rw [spelling.raw_append, ahead, first, second, mark, third]
  have left := Spot.ahead_forward last
  refine ⟨spelling, final, whole, stops, ?_, ?_, ?_, ?_, Spot.captured_run last⟩
  · exact Spot.position_eq (whole.trans (congrArg _ left.symm)) within
      (Spot.forward_within last inside)
  · rw [Spot.captured_capture_of_ne (by decide)]
    exact verbKept.trans (Spot.captured_run ahead)
  · rw [Spot.captured_capture_of_ne (by decide)]
    exact owner
  · rw [Spot.captured_capture_of_ne (by decide)]
    exact repository

/-- Reading at a place is searching at that place and looking at the groups. -/
theorem readAt?_drop (text : List Char) (position : Nat) :
    readAt? (text.drop position) =
      (node.run text.toArray ⟨position, []⟩ some).map (ofSpot text position) := by
  cases ran : node.run text.toArray ⟨position, []⟩ some with
  | some next =>
      obtain ⟨spelling, rest, cut, stops, reached, held⟩ := spelling_of_run ran
      have same := held.ofSpot_eq (cut ▸ List.prefix_append _ rest) reached
      exact readAt?_eq_some_iff.mpr ⟨spelling, rest, cut, stops, same⟩
  | none =>
      cases read : readAt? (text.drop position) with
      | none => rfl
      | some reference =>
          have within : position ≤ text.length := by
            refine Nat.le_of_not_lt fun beyond => ?_
            rw [List.drop_of_length_le (Nat.le_of_lt beyond)] at read
            cases read
          obtain ⟨spelling, rest, cut, -⟩ := readAt?_eq_some_iff.mp read
          obtain ⟨next, matched⟩ := matches_of_spelling (cut ▸ List.prefix_append _ rest)
          have matching := (node.run_last_iff node_ordered within).mpr ⟨next, matched⟩
          rw [ran] at matching
          cases matching

end CommitLint.Reference
