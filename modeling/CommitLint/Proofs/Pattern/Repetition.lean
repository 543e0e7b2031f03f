import CommitLint.Proofs.Pattern.Way

/-!
# Repetition

The rounds of a repetition are owed until the least count is reached, and
free after that; a free round is not begun where the one before it began.
So the free rounds, one at most excepted, use up the text, and the limit
that the search puts on its rounds is never what stops it.
-/

namespace CommitLint.Pattern

/-- The way of a repetition when `count` rounds are done and the last free one began at `last`. -/
inductive Rounds (body : Way) (least : Nat) (most : Option Nat) : Nat → Option Nat → Way where
  | done {count : Nat} {last : Option Nat} {spot : Spot} (enough : least ≤ count) :
      Rounds body least most count last spot spot
  | owed {count : Nat} {last : Option Nat} {spot middle next : Spot} (owing : count < least)
      (round : body spot middle) (later : Rounds body least most (count + 1) last middle next) :
      Rounds body least most count last spot next
  | free {count : Nat} {last : Option Nat} {spot middle next : Spot} (enough : least ≤ count)
      (allowed : below count most = true) (fresh : last ≠ some spot.position)
      (round : body spot middle)
      (later : Rounds body least most (count + 1) (some spot.position) middle next) :
      Rounds body least most count last spot next

/-- The rounds that can still be needed: the owed ones, one for every character to come, and one
or two to find the end. -/
def roundsNeeded (text : Array Char) (least count : Nat) (last : Option Nat) (position : Nat) :
    Nat :=
  (least - count) + (text.size - position) + if last = some position then 1 else 2

variable {text : Array Char} {body : Step} {way : Way} {least : Nat} {most : Option Nat}

theorem roundsNeeded_start_le (position : Nat) :
    roundsNeeded text least 0 none position ≤ roundLimit text least := by
  rw [roundsNeeded, if_neg (Option.some_ne_none position).symm, roundLimit]
  omega

theorem roundsNeeded_pos (count : Nat) (last : Option Nat) (position : Nat) :
    0 < roundsNeeded text least count last position := by
  rw [roundsNeeded]
  split <;> omega

theorem roundsNeeded_owed {count : Nat} {last : Option Nat} {position next : Nat}
    (owing : count < least) (onward : position ≤ next) (within : next ≤ text.size) :
    roundsNeeded text least (count + 1) last next <
      roundsNeeded text least count last position := by
  unfold roundsNeeded
  by_cases same : next = position
  · rw [same]
    omega
  · split <;> split <;> omega

theorem roundsNeeded_free {count : Nat} {last : Option Nat} {position next : Nat}
    (enough : least ≤ count) (fresh : last ≠ some position)
    (onward : position ≤ next) (within : next ≤ text.size) :
    roundsNeeded text least (count + 1) (some position) next <
      roundsNeeded text least count last position := by
  unfold roundsNeeded
  rw [if_neg fresh]
  by_cases same : position = next
  · rw [if_pos (congrArg some same), same]
    omega
  · rw [if_neg fun equal => same (Option.some.inj equal)]
    omega

theorem Rounds.onward (realized : Realizes text body way) {count : Nat} {last : Option Nat}
    {spot next : Spot} (rounds : Rounds way least most count last spot next) :
    spot.position ≤ text.size → spot.position ≤ next.position ∧ next.position ≤ text.size := by
  induction rounds with
  | done enough =>
      intro within
      exact ⟨Nat.le_refl _, within⟩
  | owed owing round later ih =>
      intro within
      have near := realized.onward within round
      have far := ih near.2
      exact ⟨Nat.le_trans near.1 far.1, far.2⟩
  | free enough allowed fresh round later ih =>
      intro within
      have near := realized.onward within round
      have far := ih near.2
      exact ⟨Nat.le_trans near.1 far.1, far.2⟩

theorem greedyRounds_sound (realized : Realizes text body way) {fuel count : Nat}
    {last : Option Nat} {spot done : Spot} {rest : Rest} (within : spot.position ≤ text.size)
    (ran : greedyRounds body least most fuel count last spot rest = some done) :
    ∃ next, Rounds way least most count last spot next ∧ rest next = some done := by
  induction fuel generalizing count last spot with
  | zero => cases ran
  | succ fuel ih =>
      rw [greedyRounds] at ran
      split at ran
      case isTrue owing =>
        obtain ⟨middle, round, continued⟩ := realized.sound within ran
        obtain ⟨next, later, finished⟩ := ih (realized.onward within round).2 continued
        exact ⟨next, .owed owing round later, finished⟩
      case isFalse free =>
        have enough := Nat.le_of_not_lt free
        split at ran
        case isTrue opened =>
          obtain ⟨allowed, fresh⟩ := (Bool.and_eq_true _ _).mp opened
          split at ran
          case h_1 found tried =>
            obtain ⟨middle, round, continued⟩ := realized.sound within tried
            obtain ⟨next, later, finished⟩ :=
              ih (realized.onward within round).2 (continued.trans ran)
            exact ⟨next, .free enough allowed (bne_iff_ne.mp fresh) round later, finished⟩
          case h_2 => exact ⟨spot, .done enough, ran⟩
        case isFalse => exact ⟨spot, .done enough, ran⟩

theorem lazyRounds_sound (realized : Realizes text body way) {fuel count : Nat}
    {last : Option Nat} {spot done : Spot} {rest : Rest} (within : spot.position ≤ text.size)
    (ran : lazyRounds body least most fuel count last spot rest = some done) :
    ∃ next, Rounds way least most count last spot next ∧ rest next = some done := by
  induction fuel generalizing count last spot with
  | zero => cases ran
  | succ fuel ih =>
      rw [lazyRounds] at ran
      split at ran
      case isTrue owing =>
        obtain ⟨middle, round, continued⟩ := realized.sound within ran
        obtain ⟨next, later, finished⟩ := ih (realized.onward within round).2 continued
        exact ⟨next, .owed owing round later, finished⟩
      case isFalse free =>
        have enough := Nat.le_of_not_lt free
        split at ran
        case h_1 found stopped => exact ⟨spot, .done enough, stopped.trans ran⟩
        case h_2 =>
          split at ran
          case isTrue opened =>
            obtain ⟨allowed, fresh⟩ := (Bool.and_eq_true _ _).mp opened
            obtain ⟨middle, round, continued⟩ := realized.sound within ran
            obtain ⟨next, later, finished⟩ := ih (realized.onward within round).2 continued
            exact ⟨next, .free enough allowed (bne_iff_ne.mp fresh) round later, finished⟩
          case isFalse => cases ran

theorem greedyRounds_complete (realized : Realizes text body way) {rest : Rest} {count : Nat}
    {last : Option Nat} {spot next : Spot} (rounds : Rounds way least most count last spot next)
    (goes : (rest next).isSome = true) : ∀ {fuel : Nat}, spot.position ≤ text.size →
      roundsNeeded text least count last spot.position ≤ fuel →
      (greedyRounds body least most fuel count last spot rest).isSome = true := by
  induction rounds with
  | @done count last spot enough =>
      intro fuel within fueled
      cases fuel with
      | zero => exact absurd fueled (Nat.not_le.mpr (roundsNeeded_pos count last spot.position))
      | succ fuel =>
          rw [greedyRounds, if_neg (Nat.not_lt.mpr enough)]
          split
          · split
            · rfl
            · exact goes
          · exact goes
  | @owed count last spot middle next owing round later ih =>
      intro fuel within fueled
      have inside := realized.onward within round
      have less : roundsNeeded text least (count + 1) last middle.position <
          roundsNeeded text least count last spot.position :=
        roundsNeeded_owed owing inside.1 inside.2
      cases fuel with
      | zero => exact absurd fueled (Nat.not_le.mpr (Nat.zero_lt_of_lt less))
      | succ fuel =>
          rw [greedyRounds, if_pos owing]
          exact realized.complete within round (ih goes inside.2 (by omega))
  | @free count last spot middle next enough allowed fresh round later ih =>
      intro fuel within fueled
      have inside := realized.onward within round
      have less := roundsNeeded_free enough fresh inside.1 inside.2
      cases fuel with
      | zero => exact absurd fueled (Nat.not_le.mpr (Nat.zero_lt_of_lt less))
      | succ fuel =>
          rw [greedyRounds, if_neg (Nat.not_lt.mpr enough),
            if_pos ((Bool.and_eq_true _ _).mpr ⟨allowed, bne_iff_ne.mpr fresh⟩)]
          have tried : (body spot fun next =>
              greedyRounds body least most fuel (count + 1) (some spot.position) next
                rest).isSome = true :=
            realized.complete within round (ih goes inside.2 (by omega))
          split
          · rfl
          case h_2 failed =>
            rw [failed] at tried
            cases tried

theorem lazyRounds_complete (realized : Realizes text body way) {rest : Rest} {count : Nat}
    {last : Option Nat} {spot next : Spot} (rounds : Rounds way least most count last spot next)
    (goes : (rest next).isSome = true) : ∀ {fuel : Nat}, spot.position ≤ text.size →
      roundsNeeded text least count last spot.position ≤ fuel →
      (lazyRounds body least most fuel count last spot rest).isSome = true := by
  induction rounds with
  | @done count last spot enough =>
      intro fuel within fueled
      cases fuel with
      | zero => exact absurd fueled (Nat.not_le.mpr (roundsNeeded_pos count last spot.position))
      | succ fuel =>
          rw [lazyRounds, if_neg (Nat.not_lt.mpr enough)]
          split
          · rfl
          case h_2 failed =>
            rw [failed] at goes
            cases goes
  | @owed count last spot middle next owing round later ih =>
      intro fuel within fueled
      have inside := realized.onward within round
      have less : roundsNeeded text least (count + 1) last middle.position <
          roundsNeeded text least count last spot.position :=
        roundsNeeded_owed owing inside.1 inside.2
      cases fuel with
      | zero => exact absurd fueled (Nat.not_le.mpr (Nat.zero_lt_of_lt less))
      | succ fuel =>
          rw [lazyRounds, if_pos owing]
          exact realized.complete within round (ih goes inside.2 (by omega))
  | @free count last spot middle next enough allowed fresh round later ih =>
      intro fuel within fueled
      have inside := realized.onward within round
      have less := roundsNeeded_free enough fresh inside.1 inside.2
      cases fuel with
      | zero => exact absurd fueled (Nat.not_le.mpr (Nat.zero_lt_of_lt less))
      | succ fuel =>
          rw [lazyRounds, if_neg (Nat.not_lt.mpr enough)]
          split
          · rfl
          · rw [if_pos ((Bool.and_eq_true _ _).mpr ⟨allowed, bne_iff_ne.mpr fresh⟩)]
            exact realized.complete within round (ih goes inside.2 (by omega))

namespace Realizes

theorem greedyRepetition (realized : Realizes text body way) (least : Nat) (most : Option Nat) :
    Realizes text (fun spot rest =>
      greedyRounds body least most (roundLimit text least) 0 none spot rest)
      (Rounds way least most 0 none) where
  sound within ran := greedyRounds_sound realized within ran
  complete within rounds goes :=
    greedyRounds_complete realized rounds goes within (roundsNeeded_start_le _)
  onward within rounds := rounds.onward realized within

theorem lazyRepetition (realized : Realizes text body way) (least : Nat) (most : Option Nat) :
    Realizes text (fun spot rest =>
      lazyRounds body least most (roundLimit text least) 0 none spot rest)
      (Rounds way least most 0 none) where
  sound within ran := lazyRounds_sound realized within ran
  complete within rounds goes :=
    lazyRounds_complete realized rounds goes within (roundsNeeded_start_le _)
  onward within rounds := rounds.onward realized within

end Realizes

end CommitLint.Pattern
