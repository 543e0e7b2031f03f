import CommitLint.Value.Basic
import Mathlib.Data.Int.Order.Basic

/-!
# Keys

Two values are one key if they have one normal form: whole numbers, truth
values and binary numbers are counted in one unit, moments in universal time,
and tuples member by member. Values that can change have no normal form. So
being one key is symmetric and transitive, and every value that can be a key
is one key with itself.
-/

namespace CommitLint

/-- What numbers are compared by. -/
inductive Magnitude where
  | finite (units : Int)
  | infinite (negative : Bool)
  | noNumber (payload : Nat)

namespace Magnitude

/-- A whole number, counted in the unit of binary numbers. -/
def whole (count : Int) : Magnitude :=
  .finite (count * Nat.pow 2 1074)

def ofReal : Binary64 → Magnitude
  | .noNumber payload => .noNumber payload
  | .infinite negative => .infinite negative
  | .finite negative mantissa exponent => .finite (Binary64.units negative mantissa exponent)

theorem mul_pow_inj (exponent : Nat) {first second : Int} :
    first * Nat.pow 2 exponent = second * Nat.pow 2 exponent ↔ first = second :=
  Int.mul_eq_mul_right_iff (Int.natCast_ne_zero.mpr (Nat.ne_of_gt (Nat.two_pow_pos exponent)))

theorem whole_inj {first second : Int} : whole first = whole second ↔ first = second := by
  simp only [whole, finite.injEq, mul_pow_inj]

theorem ofReal_eq_iff {first second : Binary64} :
    first.sameValue second = true ↔ ofReal first = ofReal second := by
  cases first <;> cases second <;> simp [Binary64.sameValue, ofReal]

theorem ofReal_eq_whole_iff {number : Binary64} {count : Int} :
    number.equalsInt count = true ↔ ofReal number = whole count := by
  cases number <;> simp only [Binary64.equalsInt, beq_iff_eq, ofReal, whole, finite.injEq,
    Bool.false_eq_true, reduceCtorEq]

end Magnitude

theorem Moment.sameInstant_iff {first second : Moment} :
    first.sameInstant second = true ↔
      first.offset.isSome = second.offset.isSome ∧ first.instant = second.instant := by
  simp [sameInstant]

/-- What keys are compared by. -/
inductive Key where
  | null
  | number (size : Magnitude)
  | text (content : String)
  | bytes (content : List UInt8)
  | severity (level : Severity)
  | date (day : Date)
  | moment (placed : Bool) (instant : Int)
  | tuple (members : List Key)

namespace Value

mutual

/-- The normal form of a value that can be a key. -/
def key? : Value → Option Key
  | .null => some .null
  | .bool truth => some (.number (.whole (if truth then 1 else 0)))
  | .int number => some (.number (.whole number))
  | .real number => some (.number (.ofReal number))
  | .text content => some (.text content)
  | .bytes content => some (.bytes content)
  | .severity level => some (.severity level)
  | .date day => some (.date day)
  | .moment time => some (.moment time.offset.isSome time.instant)
  | .tuple items => (keys? items).map .tuple
  | .list _ => none
  | .map _ => none
  | .set _ => none

def keys? : List Value → Option (List Key)
  | [] => some []
  | item :: rest =>
      match key? item, keys? rest with
      | some key, some others => some (key :: others)
      | _, _ => none

end

theorem keys?_cons_eq_some_iff {item : Value} {rest : List Value} {keys : List Key} :
    keys? (item :: rest) = some keys ↔
      ∃ key others, key? item = some key ∧ keys? rest = some others ∧ keys = key :: others := by
  rw [keys?]
  cases key? item <;> cases keys? rest <;> simp [eq_comm]

mutual

/-- The values that can be keys are those that have a normal form. -/
theorem key?_isSome_iff : ∀ value : Value, value.key?.isSome = true ↔ value.keyFault? = none
  | .null | .bool _ | .int _ | .real _ | .text _ | .bytes _ | .severity _ | .date _
  | .moment _ => by simp [key?, keyFault?]
  | .list _ | .map _ | .set _ => by simp [key?, keyFault?]
  | .tuple items => by simpa [key?, keyFault?] using keys?_isSome_iff items

theorem keys?_isSome_iff : ∀ items : List Value,
    (keys? items).isSome = true ↔ keyFaultIn? items = none
  | [] => by simp [keys?, keyFaultIn?]
  | item :: rest => by
      have first := key?_isSome_iff item
      have others := keys?_isSome_iff rest
      cases key : key? item <;> cases keys : keys? rest <;>
        cases fault : keyFault? item <;> simp_all [keys?, keyFaultIn?]

end

theorem keys?_cons_ne_nil {item : Value} {rest : List Value} : keys? (item :: rest) ≠ some [] := by
  rw [Ne, keys?_cons_eq_some_iff]
  simp

mutual

/-- Two values are one key exactly if they have the same normal form. -/
theorem same_iff : ∀ first second : Value,
    same first second = true ↔ ∃ key, first.key? = some key ∧ second.key? = some key := by
  intro first second
  refine Iff.trans ?_ (exists_congr fun key => and_comm)
  cases first with
  | tuple items =>
      cases second with
      | tuple others =>
          rw [same, sameList_iff items others, key?, key?]
          cases keys? items <;> cases keys? others <;> simp [eq_comm]
      | _ => simp [same, key?]
  | _ =>
      cases second <;>
        simp [same, key?, whole?, Magnitude.ofReal_eq_iff, Magnitude.ofReal_eq_whole_iff,
          Magnitude.whole_inj, Moment.sameInstant_iff]
      all_goals exact eq_comm

theorem sameList_iff : ∀ first second : List Value,
    sameList first second = true ↔ ∃ keys, keys? first = some keys ∧ keys? second = some keys
  | [], [] => by simp [sameList, keys?]
  | [], _ :: _ => by simp [sameList, keys?_cons_ne_nil, show keys? [] = some [] from rfl]
  | _ :: _, [] => by simp [sameList, keys?_cons_ne_nil, show keys? [] = some [] from rfl]
  | item :: rest, other :: tail => by
      rw [sameList, Bool.and_eq_true, same_iff item other, sameList_iff rest tail]
      simp only [keys?_cons_eq_some_iff]
      constructor
      · rintro ⟨⟨key, first, second⟩, keys, others, same⟩
        exact ⟨key :: keys, ⟨key, keys, first, others, rfl⟩, key, keys, second, same, rfl⟩
      · rintro ⟨_, ⟨key, keys, first, others, rfl⟩, _, _, second, same, whole⟩
        cases whole
        exact ⟨⟨key, first, second⟩, keys, others, same⟩

end

variable {first second third : Value}

theorem same_comm : same first second = same second first := by
  rw [Bool.eq_iff_iff, same_iff, same_iff]
  exact exists_congr fun key => and_comm

theorem same_trans (one : same first second = true) (other : same second third = true) :
    same first third = true := by
  obtain ⟨key, known, middle⟩ := (same_iff first second).mp one
  obtain ⟨last, again, reached⟩ := (same_iff second third).mp other
  cases middle.symm.trans again
  exact (same_iff first third).mpr ⟨key, known, reached⟩

/-- What is one key with one of two values that are one key is one key with the other. -/
theorem same_congr (one : same first second = true) : same first third = same second third := by
  rw [Bool.eq_iff_iff]
  exact ⟨same_trans (same_comm.trans one), same_trans one⟩

/-- A value that can be a key is one key with itself. -/
theorem same_self (hashable : first.keyFault? = none) : same first first = true := by
  obtain ⟨key, known⟩ := Option.isSome_iff_exists.mp ((key?_isSome_iff first).mpr hashable)
  exact (same_iff first first).mpr ⟨key, known, known⟩

end Value

end CommitLint
