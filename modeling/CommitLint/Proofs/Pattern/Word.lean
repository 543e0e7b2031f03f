import CommitLint.Proofs.Pattern.AnyCase

/-!
# Anchored words

A word of characters that are no signs, behind a caret, is the pattern that
is found in the texts that begin with the word and in no others.
-/

namespace CommitLint.Pattern

/-- The characters that a pattern can have another meaning for outside a set. -/
def signs : List Char :=
  ['\\', '|', ')', '(', '[', '*', '+', '?', '\x7b', '^', '$', '.']

/-- A word without signs. -/
def IsPlain (word : List Char) : Prop :=
  ∀ c ∈ word, c ∉ signs

instance (word : List Char) : Decidable (IsPlain word) :=
  List.decidableBAll (fun c => c ∉ signs) word

/-- The node of a character that stands for itself. -/
def literal (c : Char) : Node :=
  .char ⟨⟨false, false⟩, false, [.code c.toNat]⟩

/-- The characters of a word in their order. -/
def wordNode (word : List Char) : Node :=
  word.foldr (fun c branch => inFront (literal c) branch) .empty

/-- The pattern of the texts that begin with a word. -/
def prefixNode (word : List Char) : Node :=
  inFront (.anchor .textStart) (wordNode word)

theorem bind_run {α β : Type} {step : Reader α} {next : α → Reader β} {source later : Source}
    {value : α} (ran : step source = .ok (value, later)) :
    (step >>= next) source = next value later := by
  change Except.bind (step source) _ = _
  rw [ran]
  rfl

theorem peek_run (source : Source) : Reader.peek source = .ok (source.rest.head?, source) :=
  rfl

theorem skip_run {source : Source} {mark : Mark} {rest : List Mark}
    (solid : rest.head? ≠ some .dangling) :
    Reader.skip { source with rest := mark :: rest } = .ok ((), { source with rest := rest }) := by
  have got : (get : Reader Source) { source with rest := mark :: rest } =
      .ok ({ source with rest := mark :: rest }, { source with rest := mark :: rest }) := rfl
  rw [Reader.skip, bind_run got]
  simp only [List.drop_succ_cons, List.drop_zero, if_neg solid]
  rfl

theorem readSimple_run {c : Char} (plain : c ∉ signs) (source : Source) :
    readSimple {} c source = .ok (.single (literal c), source) := by
  simp only [signs, List.mem_cons, not_or] at plain
  obtain ⟨-, -, -, -, bracket, -, -, -, -, caret, dollar, dot, -⟩ := plain
  unfold readSimple
  split
  · exact absurd rfl caret
  · exact absurd rfl dollar
  · exact absurd rfl dot
  · exact absurd rfl bracket
  · rfl

/-- A mark that a single piece is read from is passed with that piece. -/
theorem readBranch_run_simple {c : Char} {piece : Piece} {rest : List Mark}
    (bar : c ≠ '|') (close : c ≠ ')') (opening : c ≠ '(') (once : isRepetitionSign c = false)
    (simple : ∀ source, readSimple {} c source = .ok (piece, source))
    (solid : rest.head? ≠ some .dangling) (budget : Nat) (first : Bool) (pieces : List Piece)
    (source : Source) :
    readBranch (budget + 1) {} first pieces { source with rest := .plain c :: rest } =
      readBranch budget {} first (piece :: pieces) { source with rest := rest } := by
  rw [readBranch, bind_run (peek_run _)]
  dsimp only [List.head?_cons]
  rw [if_neg (by simp [bar, close])]
  rw [bind_run (skip_run solid)]
  simp only [once, opening, bind_run (simple _), Bool.false_and, Bool.false_eq_true, if_false]

theorem head?_plain_ne_dangling (word : List Char) :
    (word.map Mark.plain).head? ≠ some .dangling := by
  cases word with
  | nil => exact (Option.some_ne_none _).symm
  | cons first rest => simp

theorem readBranch_run_word {word : List Char} (plain : IsPlain word) {budget : Nat}
    (enough : word.length < budget) (first : Bool) (pieces : List Piece) (source : Source) :
    readBranch budget {} first pieces { source with rest := word.map .plain } =
      .ok (branchOf ((word.map fun c => Piece.single (literal c)).reverse ++ pieces),
        { source with rest := [] }) := by
  induction word generalizing budget pieces with
  | nil =>
      obtain ⟨budget, rfl⟩ := Nat.exists_eq_add_one_of_ne_zero (Nat.ne_of_gt enough)
      rfl
  | cons c word ih =>
      obtain ⟨budget, rfl⟩ :=
        Nat.exists_eq_add_one_of_ne_zero (Nat.ne_of_gt (Nat.zero_lt_of_lt enough))
      obtain ⟨here, later⟩ := List.forall_mem_cons.mp plain
      have simple := readSimple_run here
      simp only [signs, List.mem_cons, not_or] at here
      have once : isRepetitionSign c = false := by
        simp [isRepetitionSign, here]
      rw [List.map_cons, readBranch_run_simple here.2.1 here.2.2.1 here.2.2.2.1 once
        simple (head?_plain_ne_dangling word), ih later (Nat.lt_of_succ_lt_succ enough)]
      simp

theorem marks_plain {word : List Char} (plain : IsPlain word) : marks word = word.map .plain := by
  induction word with
  | nil => rfl
  | cons c word ih =>
      obtain ⟨here, later⟩ := List.forall_mem_cons.mp plain
      have unescaped : c ≠ '\\' := fun same => here (same ▸ List.mem_cons_self)
      simp [marks, unescaped, ih later]

theorem branchOf_word (word : List Char) :
    branchOf ((word.map fun c => Piece.single (literal c)).reverse ++
      [⟨.anchor .textStart, true, false⟩]) = prefixNode word := by
  change List.foldl (fun (branch : Node) (piece : Piece) => inFront piece.node branch) _ _ = _
  rw [List.foldl_append, List.foldl_reverse, List.foldr_map]
  rfl

theorem looksFixed_prefixNode (groups : Array (Option Width)) (word : List Char) :
    looksFixed groups (prefixNode word) = true := by
  have front : ∀ {node branch : Node}, looksFixed groups node = true →
      looksFixed groups branch = true → looksFixed groups (inFront node branch) = true := by
    intro node branch ofNode ofBranch
    cases branch <;> simp_all [inFront, looksFixed]
  have fixed : looksFixed groups (wordNode word) = true := by
    induction word with
    | nil => rfl
    | cons c word ih => exact front rfl ih
  exact front rfl fixed

section

variable [CharacterNames]

/-- What is left to read of a pattern in which no group is opened. -/
def Source.of (rest : List Mark) : Source :=
  ⟨rest, #[none], [], none, [], {}, CharacterNames.named?⟩

theorem readAlternation_run_caret {word : List Char} (plain : IsPlain word) {budget : Nat}
    (enough : word.length < budget) :
    readAlternation (budget + 2) {} true true (.of (.plain '^' :: word.map .plain)) =
      .ok (prefixNode word, .of []) := by
  have caret : ∀ source, readSimple {} '^' source =
      .ok (⟨.anchor .textStart, true, false⟩, source) := fun source => rfl
  have branch : readBranch (budget + 1) {} true [] (.of (.plain '^' :: word.map .plain)) =
      .ok (prefixNode word, .of []) := by
    have step := readBranch_run_simple (by decide) (by decide) (by decide) rfl caret
      (head?_plain_ne_dangling word) budget true [] (.of [])
    have rest := readBranch_run_word plain enough true [⟨.anchor .textStart, true, false⟩]
      (.of (word.map .plain))
    rw [branchOf_word] at rest
    exact step.trans rest
  rw [readAlternation, Bool.and_self, bind_run branch]
  rfl

/-- A word without signs behind a caret is read as the pattern of its prefix. -/
theorem read_caret {word : List Char} (plain : IsPlain word) :
    read ('^' :: word) = .ok (prefixNode word) := by
  have marked : marks ('^' :: word) = .plain '^' :: word.map .plain := by
    simp [marks, marks_plain plain]
  have enough : word.length < 3 * word.length + 4 := by omega
  have alternation : readAlternation (3 * word.length + 6) {} true true
      (.of (.plain '^' :: word.map .plain)) = .ok (prefixNode word, .of []) :=
    readAlternation_run_caret plain enough
  have whole : readWhole (3 * word.length + 6) (.of (.plain '^' :: word.map .plain)) =
      .ok (prefixNode word, .of []) := by
    have got : (get : Reader Source) (.of []) = .ok (.of [], .of []) := rfl
    have started : (Source.of (.plain '^' :: word.map .plain)).rest.head? ≠ some .dangling := by
      simp [Source.of]
    have fixed := looksFixed_prefixNode #[none] word
    rw [readWhole, bind_run (peek_run _), if_neg started]
    refine (bind_run alternation).trans ((bind_run got).trans ?_)
    simp [Source.of, fixed]
    rfl
  have length : 3 * (Mark.plain '^' :: word.map .plain).length + 3 = 3 * word.length + 6 := by
    simp only [List.length_cons, List.length_map]
    omega
  rw [read, marked, length]
  change (readWhole _ (.of _)).map _ = _
  rw [whole]
  rfl

end

theorem prefixNode_ordered (word : List Char) : (prefixNode word).Ordered := by
  have front : ∀ {node branch : Node}, node.Ordered → branch.Ordered →
      (inFront node branch).Ordered := by
    intro node branch ofNode ofBranch
    cases branch <;> simp_all [inFront, Node.Ordered]
  have ordered : (wordNode word).Ordered := by
    induction word with
    | nil => trivial
    | cons c word ih => exact front trivial ih
  exact front trivial ordered

theorem wordNode_matches_iff {word text : List Char} {spot next : Spot} :
    (wordNode word).Matches text.toArray spot next ↔
      word <+: spot.ahead text ∧ next = spot.forward word.length := by
  induction word generalizing spot with
  | nil => exact ⟨fun same => ⟨List.nil_prefix, same⟩, And.right⟩
  | cons c word ih =>
      rw [wordNode, List.foldr_cons, inFront_matches_iff]
      constructor
      · rintro ⟨middle, taken, later⟩
        obtain ⟨rest, ahead, rfl⟩ := CharSet.only_way_iff.mp taken
        obtain ⟨front, rfl⟩ := ih.mp later
        rw [Spot.ahead_forward_one ahead] at front
        rw [ahead, List.length_cons, Spot.forward_forward, Nat.add_comm]
        exact ⟨(List.prefix_cons_inj c).mpr front, rfl⟩
      · rintro ⟨⟨rest, front⟩, rfl⟩
        have ahead : spot.ahead text = c :: (word ++ rest) := front.symm
        refine ⟨_, CharSet.only_way_iff.mpr ⟨_, ahead, rfl⟩, ih.mpr ⟨?_, ?_⟩⟩
        · rw [Spot.ahead_forward_one ahead]
          exact List.prefix_append word rest
        · rw [List.length_cons, Spot.forward_forward, Nat.add_comm]

theorem prefixNode_found_iff {word text : List Char} :
    (prefixNode word).found text = true ↔ word <+: text := by
  rw [Node.found_eq_true_iff _ (prefixNode_ordered word)]
  simp only [prefixNode, inFront_matches_iff, wordNode_matches_iff]
  constructor
  · rintro ⟨start, next, -, middle, ⟨first, rfl⟩, front, -⟩
    obtain rfl : start = 0 := beq_iff_eq.mp first
    exact front
  · intro front
    exact ⟨0, _, Nat.zero_le _, _, ⟨rfl, rfl⟩, front, rfl⟩

/-- The pattern is found in a text exactly if the text begins with the word. -/
theorem search_caret [CharacterNames] {word : List Char} (plain : IsPlain word) (text : List Char) :
    search ('^' :: word) text = .ok (decide (word <+: text)) := by
  rw [search, read_caret plain]
  refine congrArg Except.ok (Bool.eq_iff_iff.mpr ?_)
  rw [prefixNode_found_iff, decide_eq_true_eq]

end CommitLint.Pattern
