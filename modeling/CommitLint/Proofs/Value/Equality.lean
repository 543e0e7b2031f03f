import CommitLint.Value.Basic

/-!
# Equality of values

Whether two values are the very same, of one kind and member by member,
which can be computed. Keys are compared more loosely.
-/

namespace CommitLint.Value

mutual

def isExactly : Value → Value → Bool
  | .null, .null => true
  | .bool first, .bool second => first == second
  | .int first, .int second => first == second
  | .real first, .real second => first == second
  | .text first, .text second => first == second
  | .list first, .list second => areExactly first second
  | .tuple first, .tuple second => areExactly first second
  | .map first, .map second => haveExactly first second
  | .set first, .set second => areExactly first second
  | .bytes first, .bytes second => first == second
  | .severity first, .severity second => first == second
  | .date first, .date second => first == second
  | .moment first, .moment second => first == second
  | _, _ => false

def areExactly : List Value → List Value → Bool
  | [], [] => true
  | first :: rest, second :: tail => isExactly first second && areExactly rest tail
  | _, _ => false

def haveExactly : List (Value × Value) → List (Value × Value) → Bool
  | [], [] => true
  | (key, content) :: rest, (key', content') :: tail =>
      isExactly key key' && isExactly content content' && haveExactly rest tail
  | _, _ => false

end

mutual

theorem isExactly_iff : ∀ first second : Value, first.isExactly second = true ↔ first = second
  | .null, second => by cases second <;> simp [isExactly]
  | .bool _, second => by cases second <;> simp [isExactly]
  | .int _, second => by cases second <;> simp [isExactly]
  | .real _, second => by cases second <;> simp [isExactly]
  | .text _, second => by cases second <;> simp [isExactly]
  | .list items, second => by cases second <;> simp [isExactly, areExactly_iff items]
  | .tuple items, second => by cases second <;> simp [isExactly, areExactly_iff items]
  | .map entries, second => by cases second <;> simp [isExactly, haveExactly_iff entries]
  | .set members, second => by cases second <;> simp [isExactly, areExactly_iff members]
  | .bytes _, second => by cases second <;> simp [isExactly]
  | .severity _, second => by cases second <;> simp [isExactly]
  | .date _, second => by cases second <;> simp [isExactly]
  | .moment _, second => by cases second <;> simp [isExactly]

theorem areExactly_iff : ∀ first second : List Value,
    areExactly first second = true ↔ first = second
  | [], second => by cases second <;> simp [areExactly]
  | item :: rest, second => by
      cases second <;> simp [areExactly, isExactly_iff item, areExactly_iff rest]

theorem haveExactly_iff : ∀ first second : List (Value × Value),
    haveExactly first second = true ↔ first = second
  | [], second => by cases second <;> simp [haveExactly]
  | (key, content) :: rest, second => by
      cases second <;>
        simp [haveExactly, isExactly_iff key, isExactly_iff content, haveExactly_iff rest,
          Prod.ext_iff]

end

instance : DecidableEq Value :=
  fun first second => decidable_of_iff _ (isExactly_iff first second)

end CommitLint.Value
