import CommitLint.Proofs.Pattern.AnyCase
import CommitLint.Proofs.Rule.Conventional
import Mathlib

/-!
# The pattern of conventional headers

Conventional headers can also be searched for by a pattern that is held at
both ends of the line. It is found in exactly the headers that the rule
accepts, since each of its parts takes what the grammar says.
-/

namespace CommitLint.Conventional

open Pattern

/-- The pattern text: it keeps to the basic alphabet and ignores case. -/
def patternText : List Char :=
  ("(?ai)^(?:" ++ "|".intercalate types ++ ")(?:\\([a-z0-9-]+\\))?: [^\\r]+$").toList

def typeNode : Node :=
  anyWord (types.map (·.toList))

def scopeSet : CharSet :=
  ⟨⟨true, true⟩, false, [.range 'a'.toNat 'z'.toNat, .range '0'.toNat '9'.toNat, .code '-'.toNat]⟩

def scopeNode : Node :=
  .iterate .greedy 0 (some 1)
    (.seq (.char (.anyOf ['(']))
      (.seq (.iterate .greedy 1 none (.char scopeSet)) (.char (.anyOf [')']))))

def lineSet : CharSet :=
  ⟨⟨true, true⟩, true, [.code '\r'.toNat]⟩

def descriptionNode : Node :=
  .seq (.char (.anyOf [':']))
    (.seq (.char (.anyOf [' ']))
      (.seq (.iterate .greedy 1 none (.char lineSet)) (.anchor .lastLineEnd)))

def node : Node :=
  .seq (.anchor .textStart) (.seq typeNode (.seq scopeNode descriptionNode))

set_option maxRecDepth 8000 in
theorem read_patternText [CharacterNames] : Pattern.read patternText = .ok node := by
  cbv

theorem isScopeChar_of_isLetter {c : Char} (letter : Text.IsLetter c) : isScopeChar c = true := by
  simp only [isScopeChar, Text.isAsciiAlphanumeric, Bool.or_eq_true, Bool.and_eq_true,
    decide_eq_true_eq]
  rcases letter with capital | small
  · exact .inl (.inl (.inr capital))
  · exact .inl (.inl (.inl small))

/-- Apart from the letters there are the digits and the hyphen. -/
theorem isScopeChar_iff_of_not_isLetter {c : Char} (letter : ¬ Text.IsLetter c) :
    isScopeChar c = true ↔ (48 ≤ c.toNat ∧ c.toNat ≤ 57) ∨ c = '-' := by
  have capital : ¬ ('A' ≤ c ∧ c ≤ 'Z') := fun between => letter (.inl between)
  have small : ¬ ('a' ≤ c ∧ c ≤ 'z') := fun between => letter (.inr between)
  simp only [isScopeChar, Text.isAsciiAlphanumeric, Bool.or_eq_true, Bool.and_eq_true,
    decide_eq_true_eq, beq_iff_eq, capital, small, false_or]
  rfl

@[simp] theorem scopeSet_admits (c : Char) : scopeSet.admits c = isScopeChar c := by
  rw [← Text.toAsciiLower_congr (fun c => isScopeChar_of_isLetter) c, Bool.eq_iff_iff]
  have dash : Text.toAsciiLower '-' = '-' := rfl
  by_cases small : 'a' ≤ Text.toAsciiLower c ∧ Text.toAsciiLower c ≤ 'z'
  · have low : 97 ≤ (Text.toAsciiLower c).toNat := small.1
    have high : (Text.toAsciiLower c).toNat ≤ 122 := small.2
    rw [isScopeChar_of_isLetter (.inr small)]
    simp [scopeSet, CharSet.admits, Member.admits, Comparison.fold, Comparison.equals,
      Comparison.sources, small, low, high]
  · have letter : ¬ Text.IsLetter (Text.toAsciiLower c) :=
      not_or.mpr ⟨Text.not_isCapital_toAsciiLower c, small⟩
    have apart : ¬ (97 ≤ (Text.toAsciiLower c).toNat ∧ (Text.toAsciiLower c).toNat ≤ 122) := small
    rw [isScopeChar_iff_of_not_isLetter letter, @eq_comm _ (Text.toAsciiLower c)]
    simp [scopeSet, CharSet.admits, Member.admits, Comparison.fold, Comparison.equals,
      Comparison.sources, small, apart, dash]

theorem lineSet_admits (c : Char) : lineSet.admits c = true ↔ c ≠ '\r' := by
  have feed : '\r' = Text.toAsciiLower c ↔ c = '\r' :=
    eq_comm.trans (Text.toAsciiLower_eq_iff (by decide))
  have small : Text.toAsciiLower '\r' = '\r' := rfl
  simp [lineSet, CharSet.admits, Member.admits, Comparison.fold, Comparison.equals, small, feed]

theorem typeNode_spells : typeNode.Spells (types.map (·.toList)) :=
  spells_anyWord (by decide) (by decide)

theorem scopeNode_takes : scopeNode.Takes fun run => ∃ scope, run = Header.scopeText scope ∧
    ∀ inner ∈ scope, inner ≠ [] ∧ ∀ c ∈ inner, isScopeChar c = true := by
  have opening : (Node.char (.anyOf ['('])).Takes _ := .sign (by decide)
  have closing : (Node.char (.anyOf [')'])).Takes _ := .sign (by decide)
  have filling := Node.Takes.charRun scopeSet
  refine (opening.seq (filling.seq closing)).optional.congr fun run => ?_
  simp only [scopeSet_admits]
  constructor
  · rintro (rfl | ⟨_, _, rfl, rfl, inner, _, rfl, named, rfl⟩)
    · exact ⟨none, rfl, fun inner member => absurd member (Option.not_mem_none inner)⟩
    · refine ⟨some inner, rfl, ?_⟩
      rintro _ ⟨⟩
      exact named
  · rintro ⟨scope, rfl, named⟩
    cases scope with
    | none => exact .inl rfl
    | some inner => exact .inr ⟨['('], _, rfl, rfl, inner, [')'], rfl, named inner rfl, rfl⟩

variable {header : List Char}

theorem descriptionNode_finishes (flat : '\n' ∉ header) :
    descriptionNode.Finishes header fun rest =>
      ∃ description, rest = ':' :: ' ' :: description ∧ description ≠ [] ∧
        '\r' ∉ description := by
  have colon : (Node.char (.anyOf [':'])).Takes _ := .sign (by decide)
  have space : (Node.char (.anyOf [' '])).Takes _ := .sign (by decide)
  have ended := (Node.Takes.charRun lineSet).seqEnd flat
  refine Node.Finishes.congr (.seq colon (.seq space ended)) fun rest => ?_
  simp only [lineSet_admits]
  constructor
  · rintro ⟨_, _, rfl, rfl, _, description, rfl, rfl, nonempty, line⟩
    exact ⟨description, rfl, nonempty, fun member => line '\r' member rfl⟩
  · rintro ⟨description, rfl, nonempty, line⟩
    exact ⟨[':'], _, rfl, rfl, [' '], description, rfl, rfl, nonempty,
      fun c member same => line (same ▸ member)⟩

theorem node_finishes (flat : '\n' ∉ header) :
    (Node.seq typeNode (.seq scopeNode descriptionNode)).Finishes header IsConventional := by
  refine Node.Finishes.congr
    (.seq typeNode_spells (.seq scopeNode_takes (descriptionNode_finishes flat))) fun rest => ?_
  constructor
  · rintro ⟨type, _, rfl, known, _, _, rfl, ⟨scope, rfl, named⟩, description, rfl, described⟩
    exact ⟨type, scope, description, rfl, known, named, described⟩
  · rintro ⟨type, scope, description, rfl, known, named, described⟩
    exact ⟨type, _, rfl, known, _, _, rfl, ⟨scope, rfl, named⟩, description, rfl, described⟩

theorem node_ordered : node.Ordered := by
  simp [node, typeNode, types, anyWord, wordThen, inFront, scopeNode, descriptionNode,
    Node.Ordered]

/-- The pattern is found in the headers that the rule accepts, and in no others. -/
theorem search_patternText [CharacterNames] (flat : '\n' ∉ header) :
    Pattern.search patternText header = .ok (accepts header) := by
  rw [Pattern.search, read_patternText]
  refine congrArg Except.ok (Bool.eq_iff_iff.mpr ?_)
  rw [node.found_eq_true_iff node_ordered, accepts_iff]
  constructor
  · rintro ⟨start, next, within, _, ⟨first, rfl⟩, matched⟩
    obtain rfl : start = 0 := beq_iff_eq.mp first
    exact ((node_finishes flat _ _ within).mp matched).1
  · intro conventional
    have matched := (node_finishes flat ⟨0, []⟩ _ (Nat.zero_le _)).mpr ⟨conventional, rfl⟩
    exact ⟨0, _, Nat.zero_le _, _, ⟨rfl, rfl⟩, matched⟩

end CommitLint.Conventional
