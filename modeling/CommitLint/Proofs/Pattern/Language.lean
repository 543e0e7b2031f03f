import CommitLint.Proofs.Pattern.Ahead
import CommitLint.Proofs.Text.Runs

/-!
# Languages

A part of a pattern without groups takes the words of a language off the
text ahead. The language of a part is put together from those of its parts.
A part that goes to the end of the line takes all that is left, if that is a
word of its language.
-/

namespace CommitLint.Pattern

/-- A part takes the words of a language off the text ahead and captures nothing. -/
def Node.Takes (node : Node) (language : List Char → Prop) : Prop :=
  ∀ (text : List Char) (spot next : Spot), node.Matches text.toArray spot next ↔
    ∃ run rest, spot.ahead text = run ++ rest ∧ language run ∧ next = spot.forward run.length

namespace Node.Takes

variable {first second body : Node} {one other language : List Char → Prop}

theorem congr (takes : body.Takes one) (same : ∀ run, one run ↔ other run) : body.Takes other := by
  intro text spot next
  rw [takes text spot next]
  simp only [same]

theorem char (set : CharSet) :
    (Node.char set).Takes fun run => ∃ c, run = [c] ∧ set.admits c = true := by
  intro text spot next
  refine CharSet.way_iff_ahead.trans ?_
  constructor
  · rintro ⟨c, rest, ahead, admitted, same⟩
    exact ⟨[c], rest, ahead, ⟨c, rfl, admitted⟩, same⟩
  · rintro ⟨_, rest, ahead, ⟨c, rfl, admitted⟩, same⟩
    exact ⟨c, rest, ahead, admitted, same⟩

/-- A repeated set takes a nonempty run of its characters. -/
theorem charRun (set : CharSet) :
    (Node.iterate .greedy 1 none (.char set)).Takes fun run =>
      run ≠ [] ∧ ∀ c ∈ run, set.admits c = true := by
  have ordered : ∀ limit ∈ (none : Option Nat), 1 ≤ limit := by
    intro limit bounded
    cases bounded
  intro text spot next
  refine (rounds_iff_ahead ordered).trans ?_
  constructor
  · rintro ⟨run, rest, ahead, inside, low, -, same⟩
    exact ⟨run, rest, ahead, ⟨List.length_pos_iff.mp low, inside⟩, same⟩
  · rintro ⟨run, rest, ahead, ⟨nonempty, inside⟩, same⟩
    exact ⟨run, rest, ahead, inside, List.length_pos_iff.mpr nonempty,
      fun limit bounded => absurd bounded (Option.not_mem_none limit), same⟩

theorem seq (before : first.Takes one) (after : second.Takes other) :
    (Node.seq first second).Takes fun run =>
      ∃ front back, run = front ++ back ∧ one front ∧ other back := by
  intro text spot next
  constructor
  · rintro ⟨middle, started, arrived⟩
    obtain ⟨front, rest, ahead, known, rfl⟩ := (before _ _ _).mp started
    obtain ⟨back, tail, behind, knownBack, rfl⟩ := (after _ _ _).mp arrived
    rw [Spot.ahead_forward ahead] at behind
    refine ⟨front ++ back, tail, ?_, ⟨front, back, rfl, known, knownBack⟩, ?_⟩
    · rw [ahead, behind, List.append_assoc]
    · rw [Spot.forward_forward, List.length_append]
  · rintro ⟨_, tail, ahead, ⟨front, back, rfl, known, knownBack⟩, rfl⟩
    rw [List.append_assoc] at ahead
    refine ⟨_, (before _ _ _).mpr ⟨front, back ++ tail, ahead, known, rfl⟩, ?_⟩
    refine (after _ _ _).mpr ⟨back, tail, Spot.ahead_forward ahead, knownBack, ?_⟩
    rw [Spot.forward_forward, List.length_append]

theorem either (before : first.Takes one) (after : second.Takes other) :
    (Node.either first second).Takes fun run => one run ∨ other run := by
  intro text spot next
  refine (or_congr (before text spot next) (after text spot next)).trans ?_
  constructor
  · rintro (⟨run, rest, ahead, known, same⟩ | ⟨run, rest, ahead, known, same⟩)
    · exact ⟨run, rest, ahead, .inl known, same⟩
    · exact ⟨run, rest, ahead, .inr known, same⟩
  · rintro ⟨run, rest, ahead, known | known, same⟩
    · exact .inl ⟨run, rest, ahead, known, same⟩
    · exact .inr ⟨run, rest, ahead, known, same⟩

/-- A part that may be left out takes the empty word as well. -/
theorem optional (takes : body.Takes language) :
    (Node.iterate .greedy 0 (some 1) body).Takes fun run => run = [] ∨ language run := by
  intro text spot next
  refine (rounds_optional_iff.trans (or_congr_right (takes text spot next))).trans ?_
  constructor
  · rintro (rfl | ⟨run, rest, ahead, known, same⟩)
    · exact ⟨[], next.ahead text, rfl, .inl rfl, rfl⟩
    · exact ⟨run, rest, ahead, .inr known, same⟩
  · rintro ⟨run, rest, ahead, rfl | known, same⟩
    · exact .inl same
    · exact .inr ⟨run, rest, ahead, known, same⟩

/-- A group captures the word that its body takes. -/
theorem group (takes : body.Takes language) {index : Nat} {text : List Char} {spot next : Spot} :
    (Node.group index body).Matches text.toArray spot next ↔
      ∃ run rest, spot.ahead text = run ++ rest ∧ language run ∧
        next = (spot.forward run.length).capture index spot.position := by
  constructor
  · rintro ⟨inner, matched, rfl⟩
    obtain ⟨run, rest, ahead, known, rfl⟩ := (takes _ _ _).mp matched
    exact ⟨run, rest, ahead, known, rfl⟩
  · rintro ⟨run, rest, ahead, known, rfl⟩
    exact ⟨_, (takes _ _ _).mpr ⟨run, rest, ahead, known, rfl⟩, rfl⟩

end Node.Takes

variable {set : CharSet} {index : Nat} {text : List Char} {spot next : Spot}

/-- A group around a repeated set captures a nonempty run of its characters. -/
theorem groupRun_iff :
    (Node.group index (.iterate .greedy 1 none (.char set))).Matches text.toArray spot next ↔
      ∃ run rest, spot.ahead text = run ++ rest ∧ run ≠ [] ∧ (∀ c ∈ run, set.admits c = true) ∧
        next = (spot.forward run.length).capture index spot.position := by
  rw [(Node.Takes.charRun set).group]
  simp only [and_assoc]

/-- At the end of a pattern, a group around a repeated set captures the longest run. -/
theorem groupRun_last (within : spot.position ≤ text.length)
    (ran : (Node.group index (.iterate .greedy 1 none (.char set))).run text.toArray spot some =
      some next) :
    ∃ run rest, spot.ahead text = run ++ rest ∧ run ≠ [] ∧ (∀ c ∈ run, set.admits c = true) ∧
      Text.Stops set.admits rest ∧
      next = (spot.forward run.length).capture index spot.position := by
  let count := runLength text.toArray set (text.toArray.size - spot.position) spot.position
  have bounded : ∀ {taken : Nat}, taken ≤ count ↔ set.Covers text.toArray spot.position taken :=
    le_fullRun_iff within
  change backOff 1 spot (fun inner => some (inner.capture index spot.position)) count =
    some next at ran
  rw [backOff_of_willing fun _ => rfl] at ran
  split at ran
  case isTrue => cases ran
  case isFalse enough =>
    cases ran
    obtain ⟨run, rest, ahead, length, inside⟩ :=
      CharSet.covers_iff_ahead.mp (bounded.mp (Nat.le_refl count))
    rw [← length] at enough bounded ⊢
    refine ⟨run, rest, ahead, ?_, inside, ?_, rfl⟩
    · exact List.length_pos_iff.mp (Nat.pos_of_ne_zero fun none => enough (by omega))
    · intro c front
      obtain ⟨tail, rfl⟩ := List.head?_eq_some_iff.mp front
      by_contra admitted
      have covers : set.Covers text.toArray spot.position (run.length + 1) := by
        refine CharSet.covers_iff_ahead.mpr ⟨run ++ [c], tail, ?_, List.length_append, ?_⟩
        · rw [ahead, List.append_assoc, List.singleton_append]
        · intro other member
          rcases List.mem_append.mp member with taken | last
          · exact inside other taken
          · rw [List.mem_singleton.mp last]
            exact Bool.of_not_eq_false admitted
      exact absurd (bounded.mpr covers) (Nat.not_succ_le_self _)

/-- A part takes the rest of a text, if that is a word of a language. -/
def Node.Finishes (text : List Char) (node : Node) (language : List Char → Prop) : Prop :=
  ∀ spot next : Spot, spot.position ≤ text.length →
    (node.Matches text.toArray spot next ↔
      language (spot.ahead text) ∧ next = spot.forward (spot.ahead text).length)

namespace Node.Finishes

variable {first second body : Node} {one other : List Char → Prop}

theorem congr (finishes : body.Finishes text one) (same : ∀ rest, one rest ↔ other rest) :
    body.Finishes text other := by
  intro spot next within
  rw [finishes spot next within, same]

theorem lastLineEnd (flat : '\n' ∉ text) :
    (Node.anchor .lastLineEnd).Finishes text fun rest => rest = [] := by
  intro spot next within
  refine (and_congr_left' (lastLineEnd_iff flat)).trans ?_
  have ended : spot.position = text.length ↔ spot.ahead text = [] := by
    rw [Spot.ahead, List.drop_eq_nil_iff]
    exact ⟨fun same => Nat.le_of_eq same.symm, Nat.le_antisymm within⟩
  rw [ended]
  refine and_congr_right fun nothing => ?_
  rw [nothing]
  rfl

theorem seq (before : first.Takes one) (after : second.Finishes text other) :
    (Node.seq first second).Finishes text fun rest =>
      ∃ front back, rest = front ++ back ∧ one front ∧ other back := by
  intro spot next within
  constructor
  · rintro ⟨middle, started, arrived⟩
    obtain ⟨front, back, ahead, known, rfl⟩ := (before _ _ _).mp started
    have later := Spot.ahead_forward ahead
    obtain ⟨knownBack, rfl⟩ := (after _ _ (Spot.forward_within ahead within)).mp arrived
    rw [later] at knownBack ⊢
    refine ⟨⟨front, back, ahead, known, knownBack⟩, ?_⟩
    rw [Spot.forward_forward, ahead, List.length_append]
  · rintro ⟨⟨front, back, ahead, known, knownBack⟩, rfl⟩
    have later := Spot.ahead_forward ahead
    refine ⟨_, (before _ _ _).mpr ⟨front, back, ahead, known, rfl⟩, ?_⟩
    refine (after _ _ (Spot.forward_within ahead within)).mpr ?_
    rw [later, Spot.forward_forward, ahead, List.length_append]
    exact ⟨knownBack, rfl⟩

end Node.Finishes

/-- Behind the last part stands the end of the line. -/
theorem Node.Takes.seqEnd {body : Node} {language : List Char → Prop} (takes : body.Takes language)
    (flat : '\n' ∉ text) : (Node.seq body (.anchor .lastLineEnd)).Finishes text language := by
  refine (Node.Finishes.seq takes (.lastLineEnd flat)).congr fun rest => ?_
  constructor
  · rintro ⟨front, _, rfl, known, rfl⟩
    rwa [List.append_nil]
  · intro known
    exact ⟨rest, [], (List.append_nil rest).symm, known, rfl⟩

end CommitLint.Pattern
