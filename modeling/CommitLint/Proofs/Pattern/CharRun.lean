import CommitLint.Proofs.Pattern.Repetition

/-!
# Runs of single characters

A repeated set of characters takes a run of them without trying its rounds
one by one: it looks how far the run goes, and gives characters back. The
ends that it tries are those that single rounds would reach.
-/

namespace CommitLint.Pattern

/-- The way of one character of a set. -/
def CharSet.way (text : Array Char) (set : CharSet) : Way := fun spot next =>
  ∃ c, text[spot.position]? = some c ∧ set.admits c = true ∧ next = spot.forward 1

/-- The next `count` characters belong to a set. -/
def CharSet.Covers (text : Array Char) (set : CharSet) (position count : Nat) : Prop :=
  ∀ offset < count, ∃ c, text[position + offset]? = some c ∧ set.admits c = true

variable {text : Array Char} {set : CharSet}

theorem CharSet.covers_zero (position : Nat) : set.Covers text position 0 := by
  intro offset below
  cases below

theorem CharSet.covers_succ_iff {position count : Nat} :
    set.Covers text position (count + 1) ↔
      (∃ c, text[position]? = some c ∧ set.admits c = true) ∧
        set.Covers text (position + 1) count := by
  constructor
  · intro covers
    refine ⟨covers 0 (Nat.zero_lt_succ count), ?_⟩
    intro offset below
    rw [Nat.add_assoc, Nat.add_comm 1 offset]
    exact covers (offset + 1) (Nat.succ_lt_succ below)
  · rintro ⟨first, later⟩ offset below
    cases offset with
    | zero => exact first
    | succ offset =>
        rw [Nat.add_comm offset 1, ← Nat.add_assoc]
        exact later offset (Nat.lt_of_succ_lt_succ below)

theorem CharSet.Covers.within {position count : Nat} (covers : set.Covers text position count)
    (inside : position ≤ text.size) : position + count ≤ text.size := by
  cases count with
  | zero => exact inside
  | succ count =>
      obtain ⟨c, found, -⟩ := covers count (Nat.lt_succ_self count)
      exact (Array.getElem?_eq_some_iff.mp found).1

theorem le_runLength_iff {bound position count : Nat} :
    count ≤ runLength text set bound position ↔
      count ≤ bound ∧ set.Covers text position count := by
  induction bound generalizing position count with
  | zero =>
      rw [runLength]
      constructor
      · intro none
        obtain rfl := Nat.le_zero.mp none
        exact ⟨none, CharSet.covers_zero position⟩
      · exact And.left
  | succ bound ih =>
      cases count with
      | zero => exact ⟨fun _ => ⟨Nat.zero_le _, CharSet.covers_zero position⟩,
          fun _ => Nat.zero_le _⟩
      | succ count =>
          rw [CharSet.covers_succ_iff, runLength]
          constructor
          · intro long
            split at long
            case h_1 c found =>
              split at long
              case isTrue admitted =>
                obtain ⟨less, covers⟩ := ih.mp (Nat.le_of_succ_le_succ long)
                exact ⟨Nat.succ_le_succ less, ⟨c, found, admitted⟩, covers⟩
              case isFalse => cases long
            case h_2 => cases long
          · rintro ⟨less, ⟨c, found, admitted⟩, covers⟩
            rw [found]
            dsimp only
            rw [if_pos admitted]
            exact Nat.succ_le_succ (ih.mpr ⟨Nat.le_of_succ_le_succ less, covers⟩)

theorem backOff_sound {least count : Nat} {spot done : Spot} {rest : Rest}
    (ran : backOff least spot rest count = some done) :
    ∃ taken, least ≤ taken ∧ taken ≤ count ∧ rest (spot.forward taken) = some done := by
  induction count with
  | zero =>
      rw [backOff] at ran
      split at ran
      case isTrue none => exact ⟨0, Nat.le_of_eq none, Nat.le_refl 0, ran⟩
      case isFalse => cases ran
  | succ count ih =>
      rw [backOff] at ran
      split at ran
      case isTrue => cases ran
      case isFalse enough =>
        split at ran
        case h_1 found tried =>
          exact ⟨count + 1, Nat.le_of_not_lt enough, Nat.le_refl _, tried.trans ran⟩
        case h_2 =>
          obtain ⟨taken, low, high, continued⟩ := ih ran
          exact ⟨taken, low, Nat.le_succ_of_le high, continued⟩

theorem backOff_complete {least taken count : Nat} {spot : Spot} {rest : Rest}
    (low : least ≤ taken) (high : taken ≤ count)
    (goes : (rest (spot.forward taken)).isSome = true) :
    (backOff least spot rest count).isSome = true := by
  induction count with
  | zero =>
      obtain rfl := Nat.le_zero.mp high
      rw [backOff, if_pos (Nat.le_zero.mp low)]
      exact goes
  | succ count ih =>
      rw [backOff, if_neg (Nat.not_lt.mpr (Nat.le_trans low high))]
      split
      · rfl
      case h_2 failed =>
        rcases Nat.lt_or_eq_of_le high with less | same
        · exact ih (Nat.le_of_lt_succ less)
        · subst same
          rw [Spot.forward, failed] at goes
          cases goes

/-- A rest that refuses nothing is given the whole run. -/
theorem backOff_of_willing {rest : Rest} (willing : ∀ next, (rest next).isSome = true)
    (least count : Nat) (spot : Spot) :
    backOff least spot rest count =
      if count < least then none else rest (spot.forward count) := by
  cases count with
  | zero =>
      rw [backOff]
      by_cases none : least = 0
      · rw [if_pos none, if_neg (Nat.not_lt.mpr (Nat.le_of_eq none))]
        rfl
      · rw [if_neg none, if_pos (Nat.pos_of_ne_zero none)]
  | succ count =>
      rw [backOff]
      split
      · rfl
      · obtain ⟨done, found⟩ := Option.isSome_iff_exists.mp (willing (spot.forward (count + 1)))
        rw [Spot.forward] at found ⊢
        rw [found]

theorem Spot.forward_forward (spot : Spot) (first second : Nat) :
    (spot.forward first).forward second = spot.forward (first + second) := by
  simp only [Spot.forward, Nat.add_assoc]

theorem covers_of_rounds {least count : Nat} {most last : Option Nat} {spot next : Spot}
    (ordered : ∀ limit ∈ most, least ≤ limit)
    (rounds : Rounds (set.way text) least most count last spot next) :
    (∀ limit ∈ most, count ≤ limit) →
      ∃ taken, least ≤ count + taken ∧ (∀ limit ∈ most, count + taken ≤ limit) ∧
        set.Covers text spot.position taken ∧ next = spot.forward taken := by
  induction rounds with
  | done enough =>
      intro few
      exact ⟨0, enough, few, CharSet.covers_zero _, rfl⟩
  | @owed count last spot middle next owing round later ih =>
      intro few
      obtain ⟨c, found, admitted, rfl⟩ := round
      obtain ⟨taken, low, high, covers, rfl⟩ :=
        ih fun limit bounded => Nat.lt_of_lt_of_le owing (ordered limit bounded)
      refine ⟨1 + taken, by omega, fun limit bounded => ?_, ?_, Spot.forward_forward _ _ _⟩
      · have := high limit bounded
        omega
      · rw [Nat.add_comm]
        exact CharSet.covers_succ_iff.mpr ⟨⟨c, found, admitted⟩, covers⟩
  | @free count last spot middle next enough allowed fresh round later ih =>
      intro few
      obtain ⟨c, found, admitted, rfl⟩ := round
      have fewer : ∀ limit ∈ most, count + 1 ≤ limit := by
        rintro limit rfl
        exact Nat.succ_le_of_lt (by simpa [below] using allowed)
      obtain ⟨taken, low, high, covers, rfl⟩ := ih fewer
      refine ⟨1 + taken, by omega, fun limit bounded => ?_, ?_, Spot.forward_forward _ _ _⟩
      · have := high limit bounded
        omega
      · rw [Nat.add_comm]
        exact CharSet.covers_succ_iff.mpr ⟨⟨c, found, admitted⟩, covers⟩

theorem rounds_of_covers {least taken count : Nat} {most last : Option Nat} {spot : Spot}
    (low : least ≤ count + taken) (high : ∀ limit ∈ most, count + taken ≤ limit)
    (earlier : ∀ start ∈ last, start < spot.position)
    (covers : set.Covers text spot.position taken) :
    Rounds (set.way text) least most count last spot (spot.forward taken) := by
  induction taken generalizing count last spot with
  | zero => exact .done low
  | succ taken ih =>
      obtain ⟨⟨c, found, admitted⟩, later⟩ := CharSet.covers_succ_iff.mp covers
      have round : set.way text spot (spot.forward 1) := ⟨c, found, admitted, rfl⟩
      have fewer : ∀ limit ∈ most, count + 1 + taken ≤ limit := by
        intro limit bounded
        have := high limit bounded
        omega
      rw [Nat.add_comm taken 1, ← Spot.forward_forward]
      by_cases owing : count < least
      · refine .owed owing round (ih (by omega) fewer ?_ later)
        intro start begun
        exact Nat.lt_succ_of_lt (earlier start begun)
      · refine .free (Nat.le_of_not_lt owing) ?_ ?_ round (ih (by omega) fewer ?_ later)
        · cases most with
          | none => rfl
          | some limit =>
              have := high limit rfl
              simp only [below, decide_eq_true_eq]
              omega
        · intro same
          exact Nat.lt_irrefl _ (earlier spot.position same)
        · rintro start ⟨⟩
          exact Nat.lt_succ_self _

/-- Single rounds of a set reach the ends of its runs, as far as they are counted. -/
theorem rounds_charSet_iff {least : Nat} {most : Option Nat}
    (ordered : ∀ limit ∈ most, least ≤ limit) {spot next : Spot} :
    Rounds (set.way text) least most 0 none spot next ↔
      ∃ taken, least ≤ taken ∧ (∀ limit ∈ most, taken ≤ limit) ∧
        set.Covers text spot.position taken ∧ next = spot.forward taken := by
  constructor
  · intro rounds
    have covered := covers_of_rounds ordered rounds fun limit _ => Nat.zero_le limit
    simpa only [Nat.zero_add] using covered
  · rintro ⟨taken, low, high, covers, rfl⟩
    refine rounds_of_covers ?_ ?_ ?_ covers
    · rwa [Nat.zero_add]
    · simpa only [Nat.zero_add] using high
    · intro start begun
      cases begun

/-- A run that goes as far as the text does leaves no covered character out. -/
theorem le_fullRun_iff {position count : Nat} (inside : position ≤ text.size) :
    count ≤ runLength text set (text.size - position) position ↔
      set.Covers text position count := by
  rw [le_runLength_iff]
  refine ⟨And.right, fun covers => ⟨?_, covers⟩⟩
  have fits := covers.within inside
  omega

/-- The bound that the search puts on a run leaves no covered character out. -/
theorem le_boundedRun_iff {most : Option Nat} {position count : Nat}
    (inside : position ≤ text.size) :
    count ≤ runLength text set ((most.map (min (text.size - position))).getD
        (text.size - position)) position ↔
      (∀ limit ∈ most, count ≤ limit) ∧ set.Covers text position count := by
  rw [le_runLength_iff]
  constructor
  · rintro ⟨less, covers⟩
    refine ⟨?_, covers⟩
    rintro limit rfl
    exact Nat.le_trans less (Nat.min_le_right _ _)
  · rintro ⟨high, covers⟩
    have fits := covers.within inside
    refine ⟨?_, covers⟩
    cases most with
    | none =>
        simp only [Option.map_none, Option.getD_none]
        omega
    | some limit =>
        have := high limit rfl
        simp only [Option.map_some, Option.getD_some]
        omega

namespace Realizes

theorem charSet (text : Array Char) (set : CharSet) :
    Realizes text
      (fun spot rest =>
        match text[spot.position]? with
        | some c => if set.admits c then rest (spot.forward 1) else none
        | none => none)
      (set.way text) where
  sound {spot done rest} within ran := by
    split at ran
    case h_1 c found =>
      split at ran
      case isTrue admitted => exact ⟨_, ⟨c, found, admitted, rfl⟩, ran⟩
      case isFalse => cases ran
    case h_2 => cases ran
  complete within reached goes := by
    obtain ⟨c, found, admitted, rfl⟩ := reached
    rw [found]
    dsimp only
    rw [if_pos admitted]
    exact goes
  onward within reached := by
    obtain ⟨c, found, admitted, rfl⟩ := reached
    exact ⟨Nat.le_succ _, (Array.getElem?_eq_some_iff.mp found).1⟩

/-- Taking a run and giving characters back goes the way of single rounds. -/
theorem charRun (text : Array Char) (set : CharSet) {least : Nat} {most : Option Nat}
    (ordered : ∀ limit ∈ most, least ≤ limit) :
    Realizes text
      (fun spot rest =>
        backOff least spot rest
          (runLength text set ((most.map (min (text.size - spot.position))).getD
            (text.size - spot.position)) spot.position))
      (Rounds (set.way text) least most 0 none) where
  sound within ran := by
    obtain ⟨taken, low, high, continued⟩ := backOff_sound ran
    obtain ⟨few, covers⟩ := (le_boundedRun_iff within).mp high
    exact ⟨_, (rounds_charSet_iff ordered).mpr ⟨taken, low, few, covers, rfl⟩, continued⟩
  complete within rounds goes := by
    obtain ⟨taken, low, few, covers, rfl⟩ := (rounds_charSet_iff ordered).mp rounds
    exact backOff_complete low ((le_boundedRun_iff within).mpr ⟨few, covers⟩) goes
  onward within rounds := rounds.onward (charSet text set) within

end Realizes

end CommitLint.Pattern
