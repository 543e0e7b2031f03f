import CommitLint.Proofs.Pattern.CharRun

/-!
# Matching

What it means that a part of a pattern matches between two spots of a text,
said part by part and without the search. The search finds a match from a
place exactly if there is one, for every pattern whose repetitions have
their bounds in order.
-/

namespace CommitLint.Pattern

/-- Every repetition allows as many rounds as it asks for. -/
def Node.Ordered : Node → Prop
  | .seq first second => Ordered first ∧ Ordered second
  | .either first second => Ordered first ∧ Ordered second
  | .group _ body => Ordered body
  | .iterate _ least most body => (∀ limit ∈ most, least ≤ limit) ∧ Ordered body
  | .look _ _ _ body => Ordered body
  | .atomic body => Ordered body
  | .whether _ present absent => Ordered present ∧ Ordered absent
  | _ => True

/-- Look at the `width` characters before a spot. -/
def Node.runBehind (text : Array Char) (width : Nat) (body : Node) (spot : Spot) : Option Spot :=
  if spot.position < width then none
  else body.run text (spot.moved (spot.position - width)) some

/--
The way of a pattern. Parts that are never taken up again once they have
matched, namely possessive repetitions, atomic parts and what is looked
for, go the first way that the search tries.
-/
def Node.Matches (text : Array Char) : Node → Way
  | .empty, spot, next => next = spot
  | .char set, spot, next => set.way text spot next
  | .anchor place, spot, next => place.holds text spot.position = true ∧ next = spot
  | .seq first second, spot, next =>
      ∃ middle, Matches text first spot middle ∧ Matches text second middle next
  | .either first second, spot, next => Matches text first spot next ∨ Matches text second spot next
  | .group index body, spot, next =>
      ∃ inner, Matches text body spot inner ∧ next = inner.capture index spot.position
  | .iterate .possessive least most body, spot, next =>
      possessiveRounds (body.run text) least most (roundLimit text least) 0 none spot = some next
  | .iterate _ least most body, spot, next => Rounds (Matches text body) least most 0 none spot next
  | .again index comparison, spot, next =>
      ∃ start stop, spot.captures.lookup index = some (start, stop) ∧
        repeatsAt text comparison start spot.position (stop - start) = true ∧
        next = spot.forward (stop - start)
  | .look .ahead false _ body, spot, next =>
      (body.run text spot some).map (·.moved spot.position) = some next
  | .look .ahead true _ body, spot, next =>
      (∀ found, ¬ Matches text body spot found) ∧ next = spot
  | .look .behind false width body, spot, next =>
      (body.runBehind text width spot).map (·.moved spot.position) = some next
  | .look .behind true width body, spot, next =>
      (width ≤ spot.position →
        ∀ found, ¬ Matches text body (spot.moved (spot.position - width)) found) ∧ next = spot
  | .atomic body, spot, next => body.run text spot some = some next
  | .whether index present absent, spot, next =>
      if (spot.captures.lookup index).isSome then Matches text present spot next
      else Matches text absent spot next

variable {text : Array Char}

theorem repeatsAt_within {comparison : Comparison} {start position count : Nat}
    (repeats : repeatsAt text comparison start position count = true)
    (inside : position ≤ text.size) : position + count ≤ text.size := by
  induction count generalizing start position with
  | zero => exact inside
  | succ count ih =>
      rw [repeatsAt] at repeats
      split at repeats
      case h_1 first second _ found =>
        have later := ih ((Bool.and_eq_true _ _).mp repeats).2
          (Array.getElem?_eq_some_iff.mp found).1
        omega
      case h_2 => cases repeats

theorem possessiveRounds_onward {body : Step} {way : Way} (realized : Realizes text body way)
    {least fuel count : Nat} {most last : Option Nat} {spot next : Spot}
    (within : spot.position ≤ text.size)
    (ran : possessiveRounds body least most fuel count last spot = some next) :
    spot.position ≤ next.position ∧ next.position ≤ text.size := by
  induction fuel generalizing count last spot with
  | zero => cases ran
  | succ fuel ih =>
      have round : ∀ {middle : Spot}, body spot some = some middle →
          spot.position ≤ middle.position ∧ middle.position ≤ text.size := by
        intro middle tried
        obtain ⟨reached, way, same⟩ := realized.sound within tried
        cases same
        exact realized.onward within way
      have through : ∀ {middle : Spot} {count last}, body spot some = some middle →
          possessiveRounds body least most fuel count last middle = some next →
          spot.position ≤ next.position ∧ next.position ≤ text.size := by
        intro middle count last tried later
        have near := round tried
        have far := ih near.2 later
        exact ⟨Nat.le_trans near.1 far.1, far.2⟩
      rw [possessiveRounds] at ran
      split at ran
      case isTrue =>
        obtain ⟨middle, tried, later⟩ := Option.bind_eq_some_iff.mp ran
        exact through tried later
      case isFalse =>
        split at ran
        case isTrue =>
          split at ran
          case h_1 middle tried => exact through tried ran
          case h_2 =>
            cases ran
            exact ⟨Nat.le_refl _, within⟩
        case isFalse =>
          cases ran
          exact ⟨Nat.le_refl _, within⟩

namespace Realizes

variable {body : Node} (inner : Realizes text (body.run text) (body.Matches text))

/-- A back reference repeats what its group has captured. -/
theorem again (text : Array Char) (index : Nat) (comparison : Comparison) :
    Realizes text ((Node.again index comparison).run text)
      ((Node.again index comparison).Matches text) where
  sound {spot done rest} within ran := by
    rw [Node.run] at ran
    split at ran
    case h_1 start stop captured =>
      split at ran
      case isTrue repeats => exact ⟨_, ⟨start, stop, captured, repeats, rfl⟩, ran⟩
      case isFalse => cases ran
    case h_2 => cases ran
  complete {spot next rest} within reached goes := by
    obtain ⟨start, stop, captured, repeats, rfl⟩ := reached
    rw [Node.run, captured]
    dsimp only
    rw [if_pos repeats]
    exact goes
  onward {spot next} within reached := by
    obtain ⟨start, stop, captured, repeats, rfl⟩ := reached
    exact ⟨Nat.le_add_right _ _, repeatsAt_within repeats within⟩

theorem moved_onward {found : Option Spot} {spot next : Spot} (within : spot.position ≤ text.size)
    (reached : found.map (·.moved spot.position) = some next) :
    spot.position ≤ next.position ∧ next.position ≤ text.size := by
  obtain ⟨other, -, rfl⟩ := Option.map_eq_some_iff.mp reached
  exact ⟨Nat.le_refl _, within⟩

theorem run_lookBehind (negated : Bool) (width : Nat) (body : Node) (spot : Spot) (rest : Rest) :
    (Node.look .behind negated width body).run text spot rest =
      match body.runBehind text width spot with
      | some found => if negated then none else rest (found.moved spot.position)
      | none => if negated then rest spot else none :=
  rfl

theorem lookAhead (width : Nat) :
    Realizes text ((Node.look .ahead false width body).run text)
      ((Node.look .ahead false width body).Matches text) := by
  refine (committed moved_onward).of_eq ?_
  intro spot rest
  rw [Node.run]
  cases body.run text spot some <;> rfl

theorem lookBehind (width : Nat) :
    Realizes text ((Node.look .behind false width body).run text)
      ((Node.look .behind false width body).Matches text) := by
  refine (committed moved_onward).of_eq ?_
  intro spot rest
  rw [run_lookBehind]
  cases body.runBehind text width spot <;> rfl

include inner

theorem refuseAhead (width : Nat) :
    Realizes text ((Node.look .ahead true width body).run text)
      ((Node.look .ahead true width body).Matches text) := by
  have agrees : ∀ {spot : Spot}, spot.position ≤ text.size →
      ((body.run text spot some).isNone = true ↔ ∀ found, ¬ body.Matches text spot found) := by
    intro spot within
    rw [Option.isNone_iff_eq_none]
    exact inner.last_eq_none_iff within
  refine (standing agrees).of_eq ?_
  intro spot rest
  rw [Node.run]
  cases body.run text spot some <;> rfl

theorem refuseBehind (width : Nat) :
    Realizes text ((Node.look .behind true width body).run text)
      ((Node.look .behind true width body).Matches text) := by
  have agrees : ∀ {spot : Spot}, spot.position ≤ text.size →
      ((body.runBehind text width spot).isNone = true ↔
        (width ≤ spot.position →
          ∀ found, ¬ body.Matches text (spot.moved (spot.position - width)) found)) := by
    intro spot within
    rw [Option.isNone_iff_eq_none, Node.runBehind]
    by_cases short : spot.position < width
    · rw [if_pos short]
      exact ⟨fun _ long => absurd short (Nat.not_lt.mpr long), fun _ => rfl⟩
    · have before : (spot.moved (spot.position - width)).position ≤ text.size :=
        Nat.le_trans (Nat.sub_le _ _) within
      rw [if_neg short, inner.last_eq_none_iff before]
      exact ⟨fun refused _ => refused, fun refused => refused (Nat.le_of_not_lt short)⟩
  refine (standing agrees).of_eq ?_
  intro spot rest
  rw [run_lookBehind]
  cases body.runBehind text width spot <;> rfl

theorem once : Realizes text ((Node.atomic body).run text) ((Node.atomic body).Matches text) := by
  refine committed ?_
  intro spot next within ran
  obtain ⟨found, reached, same⟩ := inner.sound within ran
  cases same
  exact inner.onward within reached

end Realizes

/-- The search through a pattern goes exactly the way of the pattern. -/
theorem Node.run_realizes (node : Node) (ordered : node.Ordered) :
    Realizes text (node.run text) (node.Matches text) := by
  induction node with
  | empty => exact Realizes.stay
  | char set => exact Realizes.charSet text set
  | anchor place => exact Realizes.standing fun _ => Iff.rfl
  | seq first second before after => exact (before ordered.1).seq (after ordered.2)
  | either first second before after => exact (before ordered.1).either (after ordered.2)
  | group index body inner => exact (inner ordered).group index
  | iterate greed least most body inner =>
      have realized := inner ordered.2
      cases greed with
      | greedy =>
          cases body with
          | char set => exact Realizes.charRun text set ordered.1
          | _ => exact realized.greedyRepetition least most
      | «lazy» => exact realized.lazyRepetition least most
      | possessive =>
          exact Realizes.committed fun within ran => possessiveRounds_onward realized within ran
  | again index comparison => exact Realizes.again text index comparison
  | look direction negated width body inner =>
      cases direction <;> cases negated
      · exact Realizes.lookAhead width
      · exact (inner ordered).refuseAhead width
      · exact Realizes.lookBehind width
      · exact (inner ordered).refuseBehind width
  | atomic body inner => exact (inner ordered).once
  | whether index present absent before after =>
      exact (before ordered.1).whether (after ordered.2) fun spot =>
        (spot.captures.lookup index).isSome

theorem Node.run_last_iff (node : Node) (ordered : node.Ordered) {spot : Spot}
    (within : spot.position ≤ text.size) :
    (node.run text spot some).isSome = true ↔ ∃ next, node.Matches text spot next := by
  have none := (node.run_realizes ordered).last_eq_none_iff within
  constructor
  · intro found
    refine Classical.byContradiction fun unreached => ?_
    rw [none.mpr fun next reached => unreached ⟨next, reached⟩] at found
    cases found
  · rintro ⟨next, reached⟩
    exact (node.run_realizes ordered).complete within reached rfl

/-- Where a sequence is done, its first part has led to where the second is done. -/
theorem Node.seq_run_sound {first second : Node} (ordered : first.Ordered) {spot done : Spot}
    {rest : Rest} (within : spot.position ≤ text.size)
    (ran : (Node.seq first second).run text spot rest = some done) :
    ∃ middle, first.Matches text spot middle ∧ middle.position ≤ text.size ∧
      second.run text middle rest = some done := by
  have realized : Realizes text (first.run text) (first.Matches text) := first.run_realizes ordered
  obtain ⟨middle, reached, continued⟩ := realized.sound within ran
  exact ⟨middle, reached, (realized.onward within reached).2, continued⟩

theorem Node.foundFrom_eq_true_iff (node : Node) (ordered : node.Ordered) {more position : Nat}
    (within : position + more ≤ text.size) :
    foundFrom text node more position = true ↔
      ∃ start next, position ≤ start ∧ start ≤ position + more ∧
        node.Matches text ⟨start, []⟩ next := by
  induction more generalizing position with
  | zero =>
      rw [foundFrom, node.run_last_iff ordered within]
      constructor
      · rintro ⟨next, reached⟩
        exact ⟨position, next, Nat.le_refl _, Nat.le_refl _, reached⟩
      · rintro ⟨start, next, low, high, reached⟩
        obtain rfl := Nat.le_antisymm low high
        exact ⟨next, reached⟩
  | succ more ih =>
      have here : (⟨position, []⟩ : Spot).position ≤ text.size :=
        Nat.le_trans (Nat.le_add_right _ _) within
      have later : position + 1 + more ≤ text.size := by omega
      rw [foundFrom, Bool.or_eq_true, node.run_last_iff ordered here, ih later]
      constructor
      · rintro (⟨next, reached⟩ | ⟨start, next, low, high, reached⟩)
        · exact ⟨position, next, Nat.le_refl _, Nat.le_add_right _ _, reached⟩
        · exact ⟨start, next, by omega, by omega, reached⟩
      · rintro ⟨start, next, low, high, reached⟩
        rcases Nat.eq_or_lt_of_le low with rfl | after
        · exact .inl ⟨next, reached⟩
        · exact .inr ⟨start, next, after, by omega, reached⟩

/-- A pattern is found in a text exactly if it matches from some place of it. -/
theorem Node.found_eq_true_iff (node : Node) (ordered : node.Ordered) (text : List Char) :
    node.found text = true ↔
      ∃ start next, start ≤ text.length ∧ node.Matches text.toArray ⟨start, []⟩ next := by
  have within : 0 + text.length ≤ text.toArray.size := by simp
  rw [found, node.foundFrom_eq_true_iff ordered within]
  simp only [Nat.zero_le, true_and, Nat.zero_add]

end CommitLint.Pattern
