import CommitLint.Proofs.Pattern.Language
import CommitLint.Proofs.Text.Folding

/-!
# Words in any case

Where case is ignored, the language of a part is a list of words in lower
case, each of which stands for all its spellings. Signs have no case.
-/

namespace CommitLint.Pattern

variable {text : List Char} {spot next : Spot}

/-- Any of the given characters, in any case. -/
def CharSet.anyOf (members : List Char) : CharSet :=
  ⟨⟨true, true⟩, false, members.map fun c => .code c.toNat⟩

theorem CharSet.anyOf_admits (members : List Char) (c : Char) :
    (anyOf members).admits c = true ↔ Text.toAsciiLower c ∈ members.map Text.toAsciiLower := by
  have valid : ∀ named : Char, named.toNat.isValidChar := fun named => named.valid
  simp [anyOf, admits, Member.admits, Comparison.equals, Comparison.fold, valid]

/-- A sign has one case. -/
theorem CharSet.sign_way_iff {sign : Char} (unlettered : sign.toNat < 65) :
    (anyOf [sign]).way text.toArray spot next ↔
      ∃ rest, spot.ahead text = sign :: rest ∧ next = spot.forward 1 := by
  have admitted : ∀ c, (anyOf [sign]).admits c = true ↔ c = sign := by
    intro c
    have same : Text.toAsciiLower sign = sign := (Text.toAsciiLower_eq_iff unlettered).mpr rfl
    rw [anyOf_admits, List.map_singleton, List.mem_singleton, same]
    exact Text.toAsciiLower_eq_iff unlettered
  simp only [CharSet.way_iff_ahead, admitted]
  constructor
  · rintro ⟨c, rest, ahead, rfl, same⟩
    exact ⟨rest, ahead, same⟩
  · rintro ⟨rest, ahead, same⟩
    exact ⟨sign, rest, ahead, rfl, same⟩

theorem Node.Takes.sign {sign : Char} (unlettered : sign.toNat < 65) :
    (Node.char (.anyOf [sign])).Takes fun run => run = [sign] := by
  intro text spot next
  refine (CharSet.sign_way_iff unlettered).trans ?_
  constructor
  · rintro ⟨rest, ahead, same⟩
    exact ⟨[sign], rest, ahead, rfl, same⟩
  · rintro ⟨_, rest, ahead, rfl, same⟩
    exact ⟨rest, ahead, same⟩

/-- What a branch becomes with a piece in front of it. -/
def inFront (node branch : Node) : Node :=
  match branch with
  | .empty => node
  | branch => .seq node branch

theorem inFront_matches_iff {text : Array Char} {node branch : Node} {spot next : Spot} :
    (inFront node branch).Matches text spot next ↔
      ∃ middle, node.Matches text spot middle ∧ branch.Matches text middle next := by
  cases branch with
  | empty =>
      constructor
      · intro matched
        exact ⟨next, matched, rfl⟩
      · rintro ⟨middle, matched, rfl⟩
        exact matched
  | _ => exact Iff.rfl

/-- A part takes the words of a list, each in any case. -/
def Node.Spells (node : Node) (words : List (List Char)) : Prop :=
  node.Takes fun run => run.map Text.toAsciiLower ∈ words

namespace Node.Spells

variable {first second body : Node} {one other words : List (List Char)}

theorem char {letters : List Char} (small : letters.map Text.toAsciiLower = letters) :
    (Node.char (.anyOf letters)).Spells (letters.map fun c => [c]) := by
  refine (Takes.char _).congr fun run => ?_
  simp only [CharSet.anyOf_admits, small]
  constructor
  · rintro ⟨c, rfl, known⟩
    exact List.mem_map_of_mem known
  · intro known
    obtain ⟨letter, member, spelled⟩ := List.mem_map.mp known
    obtain ⟨c, rfl, rfl⟩ := List.map_eq_singleton_iff.mp spelled.symm
    exact ⟨c, rfl, member⟩

theorem seq (before : first.Spells one) (after : second.Spells other) :
    (Node.seq first second).Spells (one.flatMap fun front => other.map (front ++ ·)) := by
  refine (Takes.seq before after).congr fun run => ?_
  rw [List.mem_flatMap]
  constructor
  · rintro ⟨front, back, rfl, known, knownBack⟩
    rw [List.map_append]
    exact ⟨_, known, List.mem_map_of_mem knownBack⟩
  · rintro ⟨front, known, member⟩
    obtain ⟨back, knownBack, spelled⟩ := List.mem_map.mp member
    obtain ⟨head, tail, rfl, rfl, rfl⟩ := List.map_eq_append_iff.mp spelled.symm
    exact ⟨head, tail, rfl, known, knownBack⟩

theorem inFront (before : first.Spells one) (after : second.Spells other) :
    (inFront first second).Spells (one.flatMap fun front => other.map (front ++ ·)) := by
  intro text spot next
  rw [inFront_matches_iff]
  exact before.seq after text spot next

theorem either (before : first.Spells one) (after : second.Spells other) :
    (Node.either first second).Spells (one ++ other) :=
  (Takes.either before after).congr fun _ => List.mem_append.symm

theorem optional (spells : body.Spells words) :
    (Node.iterate .greedy 0 (some 1) body).Spells ([] :: words) := by
  refine (Takes.optional spells).congr fun run => ?_
  rw [List.mem_cons, List.map_eq_nil_iff]

theorem empty : Node.empty.Spells [[]] := by
  intro text spot next
  simp only [List.mem_singleton, List.map_eq_nil_iff]
  constructor
  · intro same
    exact ⟨[], spot.ahead text, rfl, rfl, same⟩
  · rintro ⟨_, rest, -, rfl, same⟩
    exact same

end Node.Spells

/-- The letters of a word in their order, each in any case, and a part behind them. -/
def wordThen (word : List Char) (last : Node) : Node :=
  word.foldr (fun letter rest => inFront (.char (.anyOf [letter])) rest) last

theorem spells_wordThen {last : Node} {words : List (List Char)} (spells : last.Spells words)
    {word : List Char} (small : word.map Text.toAsciiLower = word) :
    (wordThen word last).Spells (words.map (word ++ ·)) := by
  induction word with
  | nil => simpa [wordThen] using spells
  | cons letter word ih =>
      rw [List.map_cons, List.cons.injEq] at small
      have first : (Node.char (.anyOf [letter])).Spells [[letter]] :=
        .char (by rw [List.map_cons, small.1, List.map_nil])
      have whole := first.inFront (ih small.2)
      simpa [wordThen, List.map_map, Function.comp_def] using whole

/-- One of the given words, in any case. -/
def anyWord : List (List Char) → Node
  | [] => .empty
  | [word] => wordThen word .empty
  | word :: others => .either (wordThen word .empty) (anyWord others)

theorem spells_anyWord {words : List (List Char)} (nonempty : words ≠ [])
    (small : ∀ word ∈ words, word.map Text.toAsciiLower = word) : (anyWord words).Spells words := by
  induction words with
  | nil => exact absurd rfl nonempty
  | cons word others ih =>
      obtain ⟨here, later⟩ := List.forall_mem_cons.mp small
      have alone := spells_wordThen Node.Spells.empty here
      cases others with
      | nil => simpa [anyWord] using alone
      | cons next rest =>
          have either := alone.either (ih (List.cons_ne_nil next rest) later)
          simpa [anyWord] using either

end CommitLint.Pattern
