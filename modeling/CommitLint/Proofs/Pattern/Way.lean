import CommitLint.Pattern.Search

/-!
# Ways through a text

A way says which spots can be reached from a spot. A step of the search
realizes a way if it hands only such spots to the rest of the pattern, and
fails only if the rest refuses all of them. A way never leads backwards and
never out of the text.
-/

namespace CommitLint.Pattern

/-- The spots that can be reached from a spot. -/
abbrev Way := Spot → Spot → Prop

/-- The spot `count` characters further on. -/
def Spot.forward (spot : Spot) (count : Nat) : Spot :=
  { spot with position := spot.position + count }

/-- The spot behind a group, with what the group has captured from `start` on. -/
def Spot.capture (spot : Spot) (index start : Nat) : Spot :=
  { spot with captures := (index, start, spot.position) :: spot.captures }

/-- The spot with its captures at another place. -/
def Spot.moved (spot : Spot) (position : Nat) : Spot :=
  { spot with position }

/-- A step of the search follows a way, and leaves no part of it out. -/
structure Realizes (text : Array Char) (step : Step) (way : Way) : Prop where
  sound {spot done : Spot} {rest : Rest} (within : spot.position ≤ text.size)
    (ran : step spot rest = some done) : ∃ next, way spot next ∧ rest next = some done
  complete {spot next : Spot} {rest : Rest} (within : spot.position ≤ text.size)
    (reached : way spot next) (goes : (rest next).isSome = true) : (step spot rest).isSome = true
  onward {spot next : Spot} (within : spot.position ≤ text.size) (reached : way spot next) :
    spot.position ≤ next.position ∧ next.position ≤ text.size

namespace Realizes

variable {text : Array Char} {first second : Step} {one other : Way}

/-- Where a step is the last one, it ends at a spot of its way, or there is none. -/
theorem last_eq_none_iff (realized : Realizes text first one) {spot : Spot}
    (within : spot.position ≤ text.size) :
    first spot some = none ↔ ∀ next, ¬ one spot next := by
  constructor
  · intro nothing next reached
    have found : (first spot some).isSome = true := realized.complete within reached rfl
    rw [nothing] at found
    cases found
  · intro unreached
    cases ran : first spot some with
    | none => rfl
    | some done =>
        obtain ⟨next, reached, -⟩ := realized.sound within ran
        exact absurd reached (unreached next)

theorem of_eq (realized : Realizes text first one)
    (same : ∀ spot rest, second spot rest = first spot rest) : Realizes text second one where
  sound within ran := realized.sound within ((same _ _).symm.trans ran)
  complete within reached goes := by
    rw [same]
    exact realized.complete within reached goes
  onward within reached := realized.onward within reached

theorem stay : Realizes text (fun spot rest => rest spot) (fun spot next => next = spot) where
  sound _ ran := ⟨_, rfl, ran⟩
  complete _ reached goes := by
    rw [← reached]
    exact goes
  onward within reached := by
    rw [reached]
    exact ⟨Nat.le_refl _, within⟩

/-- A choice that is made once and then kept. -/
theorem committed {choice : Spot → Option Spot}
    (onward : ∀ {spot next : Spot}, spot.position ≤ text.size → choice spot = some next →
      spot.position ≤ next.position ∧ next.position ≤ text.size) :
    Realizes text (fun spot rest => (choice spot).bind rest)
      (fun spot next => choice spot = some next) where
  sound _ ran := Option.bind_eq_some_iff.mp ran
  complete _ chosen goes := by
    rw [chosen]
    exact goes
  onward within chosen := onward within chosen

theorem seq (before : Realizes text first one) (after : Realizes text second other) :
    Realizes text (fun spot rest => first spot fun next => second next rest)
      (fun spot next => ∃ middle, one spot middle ∧ other middle next) where
  sound within ran := by
    obtain ⟨middle, reached, continued⟩ := before.sound within ran
    obtain ⟨next, arrived, done⟩ := after.sound (before.onward within reached).2 continued
    exact ⟨next, ⟨middle, reached, arrived⟩, done⟩
  complete within reached goes := by
    obtain ⟨middle, started, arrived⟩ := reached
    exact before.complete within started
      (after.complete (before.onward within started).2 arrived goes)
  onward within reached := by
    obtain ⟨middle, started, arrived⟩ := reached
    have near := before.onward within started
    have far := after.onward near.2 arrived
    exact ⟨Nat.le_trans near.1 far.1, far.2⟩

theorem either (before : Realizes text first one) (after : Realizes text second other) :
    Realizes text
      (fun spot rest =>
        match first spot rest with
        | some done => some done
        | none => second spot rest)
      (fun spot next => one spot next ∨ other spot next) where
  sound {spot done rest} within ran := by
    cases tried : first spot rest with
    | some found =>
        simp only [tried, Option.some.injEq] at ran
        obtain ⟨next, reached, finished⟩ := before.sound within tried
        exact ⟨next, .inl reached, by rw [finished, ran]⟩
    | none =>
        simp only [tried] at ran
        obtain ⟨next, reached, finished⟩ := after.sound within ran
        exact ⟨next, .inr reached, finished⟩
  complete {spot next rest} within reached goes := by
    cases tried : first spot rest with
    | some found => rfl
    | none =>
        rcases reached with reached | reached
        · have found := before.complete within reached goes
          rw [tried] at found
          cases found
        · exact after.complete within reached goes
  onward within reached := by
    rcases reached with reached | reached
    · exact before.onward within reached
    · exact after.onward within reached

/-- A group goes the way of its body and remembers where that began. -/
theorem group (inner : Realizes text first one) (index : Nat) :
    Realizes text
      (fun spot rest => first spot fun next => rest (next.capture index spot.position))
      (fun spot next => ∃ found, one spot found ∧ next = found.capture index spot.position) where
  sound within ran := by
    obtain ⟨found, reached, finished⟩ := inner.sound within ran
    exact ⟨_, ⟨found, reached, rfl⟩, finished⟩
  complete within reached goes := by
    obtain ⟨found, started, rfl⟩ := reached
    exact inner.complete within started goes
  onward within reached := by
    obtain ⟨found, started, rfl⟩ := reached
    have inside := inner.onward within started
    exact inside

/-- A condition on the spot, after which the search goes on from where it stands. -/
theorem standing {condition : Spot → Prop} {test : Spot → Bool}
    (agrees : ∀ {spot : Spot}, spot.position ≤ text.size → (test spot = true ↔ condition spot)) :
    Realizes text (fun spot rest => if test spot then rest spot else none)
      (fun spot next => condition spot ∧ next = spot) where
  sound {spot done rest} within ran := by
    by_cases holds : test spot = true
    · rw [if_pos holds] at ran
      exact ⟨spot, ⟨(agrees within).mp holds, rfl⟩, ran⟩
    · rw [if_neg holds] at ran
      cases ran
  complete within reached goes := by
    obtain ⟨holds, rfl⟩ := reached
    rw [if_pos ((agrees within).mpr holds)]
    exact goes
  onward within reached := by
    obtain ⟨-, rfl⟩ := reached
    exact ⟨Nat.le_refl _, within⟩

theorem whether (before : Realizes text first one) (after : Realizes text second other)
    (test : Spot → Bool) :
    Realizes text (fun spot rest => if test spot then first spot rest else second spot rest)
      (fun spot next => if test spot then one spot next else other spot next) where
  sound {spot done rest} within ran := by
    by_cases holds : test spot = true
    · simp only [if_pos holds] at ran ⊢
      exact before.sound within ran
    · simp only [if_neg holds] at ran ⊢
      exact after.sound within ran
  complete {spot next rest} within reached goes := by
    by_cases holds : test spot = true
    · simp only [if_pos holds] at reached ⊢
      exact before.complete within reached goes
    · simp only [if_neg holds] at reached ⊢
      exact after.complete within reached goes
  onward {spot next} within reached := by
    by_cases holds : test spot = true
    · rw [if_pos holds] at reached
      exact before.onward within reached
    · rw [if_neg holds] at reached
      exact after.onward within reached

end Realizes

end CommitLint.Pattern
