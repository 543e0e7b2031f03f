import CommitLint.Proofs.Pattern.Matching

/-!
# What lies ahead

The ways of characters, of their runs and of parts that may be left out, said
by the text that lies ahead of a spot: each of them takes a piece off its
front. What a group has captured is a piece of the text again.
-/

namespace CommitLint.Pattern

/-- The text from a spot on. -/
def Spot.ahead (spot : Spot) (text : List Char) : List Char :=
  text.drop spot.position

/-- The piece of the text that a group has captured, if the group has been closed. -/
def Spot.captured (spot : Spot) (text : List Char) (index : Nat) : Option (List Char) :=
  (spot.captures.lookup index).map fun bounds => (text.drop bounds.1).take (bounds.2 - bounds.1)

namespace CharSet

/-- One character alone. -/
def only (ascii : Bool) (wanted : Char) : CharSet :=
  ⟨⟨false, ascii⟩, false, [.code wanted.toNat]⟩

/-- Every character but one. -/
def allBut (ascii : Bool) (refused : Char) : CharSet :=
  ⟨⟨false, ascii⟩, true, [.code refused.toNat]⟩

/-- The word characters of the basic alphabet. -/
def asciiWord : CharSet :=
  ⟨⟨false, true⟩, false, [.category .word false]⟩

theorem admits_code (ascii negated : Bool) (named c : Char) :
    admits ⟨⟨false, ascii⟩, negated, [.code named.toNat]⟩ c = ((named == c) != negated) := by
  have valid : named.toNat.isValidChar := named.valid
  simp [admits, Member.admits, Comparison.equals, Comparison.fold, valid, Bool.beq_eq_decide_eq]

@[simp] theorem only_admits (ascii : Bool) (wanted c : Char) :
    (only ascii wanted).admits c = true ↔ c = wanted := by
  rw [only, admits_code, Bool.bne_false, beq_iff_eq]
  exact eq_comm

@[simp] theorem allBut_admits (ascii : Bool) (refused c : Char) :
    (allBut ascii refused).admits c = true ↔ c ≠ refused := by
  rw [allBut, admits_code, Bool.bne_true, Bool.not_eq_true', beq_eq_false_iff_ne]
  exact ne_comm

@[simp] theorem asciiWord_admits (c : Char) : asciiWord.admits c = Text.isAsciiWord c := by
  simp [asciiWord, admits, Member.admits, Category.holds, Comparison.fold]

end CharSet

variable {text run rest : List Char} {set : CharSet} {spot next : Spot}

theorem Spot.ahead_forward (ahead : spot.ahead text = run ++ rest) :
    (spot.forward run.length).ahead text = rest := by
  rw [Spot.ahead, Spot.forward, ← List.drop_drop]
  change (spot.ahead text).drop run.length = rest
  rw [ahead, List.drop_left]

theorem Spot.ahead_forward_one {c : Char} (ahead : spot.ahead text = c :: rest) :
    (spot.forward 1).ahead text = rest := by
  have single : spot.ahead text = [c] ++ rest := ahead
  exact Spot.ahead_forward single

theorem Spot.take_ahead (ahead : spot.ahead text = run ++ rest) :
    (text.drop spot.position).take (spot.position + run.length - spot.position) = run := by
  change (spot.ahead text).take (spot.position + run.length - spot.position) = run
  rw [ahead, Nat.add_sub_cancel_left, List.take_left]

@[simp] theorem Spot.ahead_capture (index start : Nat) :
    (spot.capture index start).ahead text = spot.ahead text :=
  rfl

theorem Spot.captured_capture_of_ne {index other start : Nat} (different : other ≠ index) :
    (spot.capture index start).captured text other = spot.captured text other := by
  have later : (other == index) = false := beq_false_of_ne different
  simp only [captured, capture, List.lookup_cons, later]

theorem Spot.captured_run {index : Nat} (ahead : spot.ahead text = run ++ rest) :
    ((spot.forward run.length).capture index spot.position).captured text index = some run := by
  simp only [captured, capture, List.lookup_cons, BEq.rfl, Option.map_some, forward]
  exact congrArg some (take_ahead ahead)

theorem Spot.forward_eq_length (ahead : spot.ahead text = run) (nonempty : run ≠ []) :
    (spot.forward run.length).position = text.length := by
  have length : (text.drop spot.position).length = run.length := congrArg List.length ahead
  have positive : 0 < run.length := List.length_pos_iff.mpr nonempty
  rw [List.length_drop] at length
  change spot.position + run.length = text.length
  omega

theorem Spot.forward_within (ahead : spot.ahead text = run ++ rest)
    (within : spot.position ≤ text.length) : spot.position + run.length ≤ text.length := by
  have length : (text.drop spot.position).length = run.length + rest.length := by
    rw [← List.length_append]
    exact congrArg List.length ahead
  rw [List.length_drop] at length
  omega

/-- How far on a spot is, said by what has been taken off the text ahead. -/
theorem Spot.position_eq (ahead : spot.ahead text = run ++ next.ahead text)
    (before : spot.position ≤ text.length) (within : next.position ≤ text.length) :
    next.position = spot.position + run.length := by
  have length := congrArg List.length ahead
  simp only [Spot.ahead, List.length_append, List.length_drop] at length
  omega

theorem getElem?_eq_some_iff_ahead {c : Char} :
    text.toArray[spot.position]? = some c ↔ ∃ rest, spot.ahead text = c :: rest := by
  rw [List.getElem?_toArray, ← List.head?_drop, List.head?_eq_some_iff]
  rfl

theorem CharSet.way_iff_ahead :
    set.way text.toArray spot next ↔
      ∃ c rest, spot.ahead text = c :: rest ∧ set.admits c = true ∧ next = spot.forward 1 := by
  constructor
  · rintro ⟨c, found, admitted, same⟩
    obtain ⟨rest, ahead⟩ := getElem?_eq_some_iff_ahead.mp found
    exact ⟨c, rest, ahead, admitted, same⟩
  · rintro ⟨c, rest, ahead, admitted, same⟩
    exact ⟨c, getElem?_eq_some_iff_ahead.mpr ⟨rest, ahead⟩, admitted, same⟩

theorem CharSet.only_way_iff {ascii : Bool} {wanted : Char} :
    (only ascii wanted).way text.toArray spot next ↔
      ∃ rest, spot.ahead text = wanted :: rest ∧ next = spot.forward 1 := by
  rw [CharSet.way_iff_ahead]
  constructor
  · rintro ⟨c, rest, ahead, admitted, same⟩
    rw [only_admits] at admitted
    exact ⟨rest, admitted ▸ ahead, same⟩
  · rintro ⟨rest, ahead, same⟩
    exact ⟨wanted, rest, ahead, (only_admits ascii wanted wanted).mpr rfl, same⟩

theorem CharSet.covers_iff_ahead {count : Nat} :
    set.Covers text.toArray spot.position count ↔
      ∃ run rest, spot.ahead text = run ++ rest ∧ run.length = count ∧
        ∀ c ∈ run, set.admits c = true := by
  induction count generalizing spot with
  | zero =>
      constructor
      · intro _
        exact ⟨[], spot.ahead text, rfl, rfl, fun c member => absurd member List.not_mem_nil⟩
      · intro _
        exact CharSet.covers_zero _
  | succ count ih =>
      have later : set.Covers text.toArray (spot.forward 1).position count ↔
          ∃ run rest, (spot.forward 1).ahead text = run ++ rest ∧ run.length = count ∧
            ∀ c ∈ run, set.admits c = true := ih
      rw [CharSet.covers_succ_iff]
      constructor
      · rintro ⟨⟨c, found, admitted⟩, covers⟩
        obtain ⟨tail, ahead⟩ := getElem?_eq_some_iff_ahead.mp found
        obtain ⟨run, rest, cut, length, inside⟩ := later.mp covers
        have step := Spot.ahead_forward_one ahead
        refine ⟨c :: run, rest, ?_, by rw [List.length_cons, length], ?_⟩
        · rw [ahead, ← step, cut, List.cons_append]
        · exact List.forall_mem_cons.mpr ⟨admitted, inside⟩
      · rintro ⟨run, rest, ahead, length, inside⟩
        obtain ⟨c, tail, rfl⟩ := List.exists_cons_of_length_eq_add_one length
        obtain ⟨admitted, others⟩ := List.forall_mem_cons.mp inside
        refine ⟨⟨c, getElem?_eq_some_iff_ahead.mpr ⟨tail ++ rest, ahead⟩, admitted⟩, ?_⟩
        exact later.mpr ⟨tail, rest, Spot.ahead_forward_one ahead, Nat.succ.inj length, others⟩

/-- A repeated set takes a run of its characters off the text ahead. -/
theorem rounds_iff_ahead {least : Nat} {most : Option Nat}
    (ordered : ∀ limit ∈ most, least ≤ limit) :
    Rounds (set.way text.toArray) least most 0 none spot next ↔
      ∃ run rest, spot.ahead text = run ++ rest ∧ (∀ c ∈ run, set.admits c = true) ∧
        least ≤ run.length ∧ (∀ limit ∈ most, run.length ≤ limit) ∧
        next = spot.forward run.length := by
  rw [rounds_charSet_iff ordered]
  constructor
  · rintro ⟨taken, low, high, covers, same⟩
    obtain ⟨run, rest, ahead, rfl, inside⟩ := CharSet.covers_iff_ahead.mp covers
    exact ⟨run, rest, ahead, inside, low, high, same⟩
  · rintro ⟨run, rest, ahead, inside, low, high, same⟩
    exact ⟨run.length, low, high,
      CharSet.covers_iff_ahead.mpr ⟨run, rest, ahead, rfl, inside⟩, same⟩

/-- In a text without line feeds, the end of the last line is the end of the text. -/
theorem lastLineEnd_iff (flat : '\n' ∉ text) :
    Anchor.lastLineEnd.holds text.toArray spot.position = true ↔ spot.position = text.length := by
  have unfed : text[spot.position]? ≠ some '\n' :=
    fun found => flat (List.mem_of_getElem? found)
  simp [Anchor.holds, unfed]

/-- A part that may be left out is left out or taken once. -/
theorem rounds_optional_iff {way : Way} :
    Rounds way 0 (some 1) 0 none spot next ↔ next = spot ∨ way spot next := by
  constructor
  · intro rounds
    cases rounds with
    | done => exact .inl rfl
    | owed owing => cases owing
    | free enough allowed fresh round later =>
        cases later with
        | done => exact .inr round
        | owed owing => cases owing
        | free enough allowed => cases allowed
  · rintro (rfl | round)
    · exact .done (Nat.le_refl 0)
    · exact .free (Nat.le_refl 0) rfl (Option.some_ne_none _).symm round (.done (Nat.zero_le 1))

end CommitLint.Pattern
