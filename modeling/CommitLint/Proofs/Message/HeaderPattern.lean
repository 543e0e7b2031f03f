import CommitLint.Proofs.Message.Header
import CommitLint.Proofs.Pattern.Language
import Mathlib

/-!
# The pattern of headers

Headers can also be found by a search pattern with a group for each of the
parts. Its optional gap behind the colon and its repetitions leave choices
to the search; but whatever way it goes through a line, its groups hold the
parts of the only header that the line is written as.
-/

namespace CommitLint.Header

open Pattern

/-- The pattern text: it keeps to the basic alphabet and matches whole lines. -/
def patternText : List Char :=
  "(?a)^(?P<type>\\w+)(?:\\((?P<scope>[^)]+)\\))?: ?(?P<subject>.+)$".toList

def typeNode : Node :=
  .group 1 (.iterate .greedy 1 none (.char .asciiWord))

def scopeNode : Node :=
  .iterate .greedy 0 (some 1)
    (.seq (.char (.only true '('))
      (.seq (.group 2 (.iterate .greedy 1 none (.char (.allBut true ')'))))
        (.char (.only true ')'))))

def subjectNode : Node :=
  .seq (.char (.only true ':'))
    (.seq (.iterate .greedy 0 (some 1) (.char (.only true ' ')))
      (.seq (.group 3 (.iterate .greedy 1 none (.char (.allBut false '\n'))))
        (.anchor .lastLineEnd)))

def node : Node :=
  .seq (.anchor .textStart) (.seq typeNode (.seq scopeNode subjectNode))

set_option maxRecDepth 8000 in
theorem read_patternText [CharacterNames] : Pattern.read patternText = .ok node := by
  cbv

theorem node_ordered : node.Ordered := by
  simp [node, typeNode, scopeNode, subjectNode, Node.Ordered]

variable {line : List Char} {spot next : Spot}

theorem scopeNode_matches_iff :
    scopeNode.Matches line.toArray spot next ↔
      next = spot ∨
        ∃ scope rest, spot.ahead line = '(' :: (scope ++ ')' :: rest) ∧ scope ≠ [] ∧ ')' ∉ scope ∧
          next = (((spot.forward 1).forward scope.length).capture 2
            (spot.forward 1).position).forward 1 := by
  refine rounds_optional_iff.trans (or_congr_right ?_)
  constructor
  · rintro ⟨opened, opening, filled, inner, closing⟩
    obtain ⟨rest, ahead, rfl⟩ := CharSet.only_way_iff.mp opening
    obtain ⟨scope, tail, cut, nonempty, inside, rfl⟩ := groupRun_iff.mp inner
    obtain ⟨others, behind, rfl⟩ := CharSet.only_way_iff.mp closing
    have first := Spot.ahead_forward_one ahead
    have second := Spot.ahead_forward cut
    rw [Spot.ahead_capture, second] at behind
    refine ⟨scope, others, ?_, nonempty, ?_, rfl⟩
    · rw [ahead, ← first, cut, behind]
    · intro closed
      exact (CharSet.allBut_admits true ')' ')').mp (inside ')' closed) rfl
  · rintro ⟨scope, rest, ahead, nonempty, closed, rfl⟩
    have first := Spot.ahead_forward_one ahead
    have second := Spot.ahead_forward first
    refine ⟨_, CharSet.only_way_iff.mpr ⟨_, ahead, rfl⟩, _,
      groupRun_iff.mpr ⟨scope, _, first, nonempty, ?_, rfl⟩,
      CharSet.only_way_iff.mpr ⟨rest, second, rfl⟩⟩
    intro c member
    exact (CharSet.allBut_admits true ')' c).mpr fun same => closed (same ▸ member)

/-- The colon, at most one space as a gap, and the rest of the line as the subject. -/
theorem subjectNode_matches_iff (flat : '\n' ∉ line) :
    subjectNode.Matches line.toArray spot next ↔
      ∃ gap subject, spot.ahead line = ':' :: (gap ++ subject) ∧ (gap = [] ∨ gap = [' ']) ∧
        subject ≠ [] ∧
        next = (((spot.forward 1).forward gap.length).forward subject.length).capture 3
          ((spot.forward 1).forward gap.length).position := by
  constructor
  · rintro ⟨behind, colon, started, spaced, stopped, taken, ended, rfl⟩
    obtain ⟨rest, ahead, rfl⟩ := CharSet.only_way_iff.mp colon
    obtain ⟨subject, tail, cut, nonempty, -, rfl⟩ := groupRun_iff.mp taken
    have atEnd := (lastLineEnd_iff flat).mp ended
    have nothing : tail = [] := by
      rw [← Spot.ahead_forward cut]
      exact List.drop_of_length_le (Nat.le_of_eq atEnd.symm)
    rw [nothing, List.append_nil] at cut
    have first := Spot.ahead_forward_one ahead
    rcases rounds_optional_iff.mp spaced with rfl | space
    · exact ⟨[], subject, by rw [ahead, ← first, cut, List.nil_append], .inl rfl, nonempty, rfl⟩
    · obtain ⟨others, gap, rfl⟩ := CharSet.only_way_iff.mp space
      have second := Spot.ahead_forward_one gap
      refine ⟨[' '], subject, ?_, .inr rfl, nonempty, rfl⟩
      rw [ahead, ← first, gap, ← second, cut]
      rfl
  · rintro ⟨gap, subject, ahead, few, nonempty, rfl⟩
    have first := Spot.ahead_forward_one ahead
    have second := Spot.ahead_forward first
    have atEnd := Spot.forward_eq_length second nonempty
    have inside : ∀ c ∈ subject, (CharSet.allBut false '\n').admits c = true := by
      intro c member
      refine (CharSet.allBut_admits false '\n' c).mpr fun same => flat ?_
      have whole : c ∈ spot.ahead line :=
        ahead ▸ List.mem_cons_of_mem _ (List.mem_append_right gap member)
      exact same ▸ List.mem_of_mem_drop whole
    refine ⟨_, CharSet.only_way_iff.mpr ⟨_, ahead, rfl⟩, (spot.forward 1).forward gap.length, ?_, _,
      groupRun_iff.mpr ⟨subject, [], by rw [second, List.append_nil], nonempty, inside, rfl⟩,
      (lastLineEnd_iff flat).mpr atEnd, rfl⟩
    refine rounds_optional_iff.mpr ?_
    rcases few with rfl | rfl
    · exact .inl rfl
    · exact .inr (CharSet.only_way_iff.mpr ⟨subject, first, rfl⟩)

/-- What stands between the type and the colon, and what the group of the scope holds then. -/
theorem scopeText_of_matches (matched : scopeNode.Matches line.toArray spot next)
    (before : spot.captured line 2 = none) :
    ∃ scope : Option (List Char), spot.ahead line = scopeText scope ++ next.ahead line ∧
      (∀ inner ∈ scope, inner ≠ [] ∧ ')' ∉ inner) ∧ next.captured line 2 = scope ∧
      next.captured line 1 = spot.captured line 1 := by
  rcases scopeNode_matches_iff.mp matched with rfl | ⟨scope, rest, ahead, nonempty, closed, rfl⟩
  · exact ⟨none, rfl, fun inner member => absurd member (Option.not_mem_none inner), before, rfl⟩
  · have first := Spot.ahead_forward_one ahead
    have second := Spot.ahead_forward first
    have held := (Spot.ahead_capture 2 (spot.forward 1).position).trans second
    have third := Spot.ahead_forward_one held
    refine ⟨some scope, ?_, ?_, Spot.captured_run first, ?_⟩
    · rw [ahead, third]
      simp [scopeText]
    · rintro inner ⟨⟩
      exact ⟨nonempty, closed⟩
    · exact Spot.captured_capture_of_ne (by decide)

/-- A way through a line finds the line written as a header, whose parts its groups hold. -/
theorem isWritten_of_matches (flat : '\n' ∉ line)
    (matched : node.Matches line.toArray ⟨0, []⟩ next) :
    ∃ (header : Header) (gap subject : List Char), header.IsWritten line ∧
      next.captured line 1 = some header.type ∧ next.captured line 2 = header.scope ∧
      next.captured line 3 = some subject ∧
      header.description = gap ++ subject ∧ (gap = [] ∨ gap = [' ']) := by
  obtain ⟨started, ⟨-, rfl⟩, typed, first, bounded, second, third⟩ := matched
  obtain ⟨type, rest, whole, typeNonempty, word, rfl⟩ := groupRun_iff.mp first
  obtain ⟨scope, between, closed, scopeHeld, typeKept⟩ := scopeText_of_matches second rfl
  obtain ⟨gap, subject, colon, few, nonempty, rfl⟩ := (subjectNode_matches_iff flat).mp third
  have cut : line = type ++ (scopeText scope ++ ':' :: (gap ++ subject)) := by
    rw [← colon, ← between, Spot.ahead_capture, Spot.ahead_forward whole]
    exact whole
  have described : gap ++ subject ≠ [] := fun nothing =>
    nonempty (List.append_eq_nil_iff.mp nothing).2
  have ahead := Spot.ahead_forward (Spot.ahead_forward_one colon)
  rw [← List.append_nil subject] at ahead
  refine ⟨⟨type, scope, gap ++ subject⟩, gap, subject, ⟨typeNonempty, ?_, closed, described, ?_⟩,
    ?_, ?_, Spot.captured_run ahead, rfl, few⟩
  · intro c member
    exact (CharSet.asciiWord_admits c).symm.trans (word c member)
  · rw [render_eq]
    exact cut.symm
  · rw [Spot.captured_capture_of_ne (by decide)]
    exact typeKept.trans (Spot.captured_run whole)
  · rw [Spot.captured_capture_of_ne (by decide)]
    exact scopeHeld

theorem matches_of_isWritten (flat : '\n' ∉ line) {header : Header}
    (written : header.IsWritten line) : ∃ next, node.Matches line.toArray ⟨0, []⟩ next := by
  obtain ⟨type, scope, description⟩ := header
  obtain ⟨typeNonempty, word, closed, described, cut⟩ := written
  rw [render_eq] at cut
  have whole : (⟨0, []⟩ : Spot).ahead line =
      type ++ (scopeText scope ++ ':' :: description) := cut.symm
  have behind := Spot.ahead_forward whole
  have typed : typeNode.Matches line.toArray ⟨0, []⟩ _ := groupRun_iff.mpr
    ⟨type, _, whole, typeNonempty,
      fun c member => (CharSet.asciiWord_admits c).trans (word c member), rfl⟩
  have ended : ∀ {spot : Spot}, spot.ahead line = ':' :: description →
      subjectNode.Matches line.toArray spot _ := fun ahead =>
    (subjectNode_matches_iff flat).mpr ⟨[], description, ahead, .inl rfl, described, rfl⟩
  cases scope with
  | none =>
      exact ⟨_, _, ⟨rfl, rfl⟩, _, typed, _, scopeNode_matches_iff.mpr (.inl rfl), ended behind⟩
  | some inner =>
      obtain ⟨innerNonempty, innerClosed⟩ := closed inner rfl
      simp only [scopeText, List.cons_append, List.append_assoc, List.nil_append] at behind
      have opened := Spot.ahead_forward_one behind
      have filled := Spot.ahead_forward opened
      refine ⟨_, _, ⟨rfl, rfl⟩, _, typed, _, scopeNode_matches_iff.mpr (.inr
        ⟨inner, _, behind, innerNonempty, innerClosed, rfl⟩), ended ?_⟩
      exact Spot.ahead_forward_one filled

/-- The pattern matches the lines that are written as a header, and no others. -/
theorem run_node_isSome_iff (flat : '\n' ∉ line) :
    (node.run line.toArray ⟨0, []⟩ some).isSome = true ↔
      ∃ header : Header, header.IsWritten line := by
  rw [node.run_last_iff node_ordered (Nat.zero_le _)]
  constructor
  · rintro ⟨next, matched⟩
    obtain ⟨header, -, -, written, -⟩ := isWritten_of_matches flat matched
    exact ⟨header, written⟩
  · rintro ⟨header, written⟩
    exact matches_of_isWritten flat written

end CommitLint.Header
