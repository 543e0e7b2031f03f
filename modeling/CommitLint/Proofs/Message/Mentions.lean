import CommitLint.Message.Mention
import CommitLint.Proofs.Pattern.Hits
import CommitLint.Proofs.Pattern.Language
import Mathlib

/-!
# The mentions of a text

A mention begins at every at sign with a name character behind it, and its
handle is the longest run of name characters there. A handle holds no at
sign, so a search that goes on behind every mention passes over none.
-/

namespace CommitLint.Mention

open Pattern

/-- An at sign at a place, with a name character behind it. -/
def BeginsAt (text : List Char) (place : Nat) : Prop :=
  text[place]? = some '@' ∧ ∃ c, text[place + 1]? = some c ∧ isNameChar c = true

/-- All the name characters behind the sign at a place, up to the first other character. -/
def IsHandleAt (text : List Char) (place : Nat) (handle : List Char) : Prop :=
  ∃ rest, text.drop (place + 1) = handle ++ rest ∧ handle ≠ [] ∧
    (∀ c ∈ handle, isNameChar c = true) ∧ Text.Stops isNameChar rest

variable {text rest handle : List Char} {first : Char} {place position : Nat}

theorem IsHandleAt.unique {other : List Char} (found : IsHandleAt text place handle)
    (foundOther : IsHandleAt text place other) : handle = other := by
  obtain ⟨rest, cut, -, name, stops⟩ := found
  obtain ⟨tail, cutOther, -, nameOther, stopsOther⟩ := foundOther
  exact (Text.run_unique (cut.symm.trans cutOther) name stops nameOther stopsOther).1

/-! ## Reading the mentions -/

theorem beginsAt_zero_iff :
    BeginsAt (first :: rest) 0 ↔ first = '@' ∧ rest.takeWhile isNameChar ≠ [] := by
  refine and_congr (by simp) ?_
  cases rest with
  | nil => simp
  | cons next others => cases name : isNameChar next <;> simp [name]

theorem isHandleAt_zero (begins : BeginsAt (first :: rest) 0) :
    IsHandleAt (first :: rest) 0 (rest.takeWhile isNameChar) := by
  obtain ⟨whole, name, stops⟩ := Text.longest_run isNameChar rest
  exact ⟨_, whole, (beginsAt_zero_iff.mp begins).2, name, stops⟩

theorem extract_of_begins (begins : BeginsAt (first :: rest) 0) :
    extract (first :: rest) = rest.takeWhile isNameChar :: extract rest := by
  obtain ⟨rfl, nonempty⟩ := beginsAt_zero_iff.mp begins
  obtain ⟨next, others, run⟩ := List.exists_cons_of_ne_nil nonempty
  rw [extract, run]

theorem extract_of_not_begins (unbegun : ¬ BeginsAt (first :: rest) 0) :
    extract (first :: rest) = extract rest := by
  by_cases sign : first = '@'
  · subst sign
    have nothing : rest.takeWhile isNameChar = [] :=
      Classical.byContradiction fun some => unbegun (beginsAt_zero_iff.mpr ⟨rfl, some⟩)
    rw [extract, nothing]
  · rw [extract]
    exact sign

/-- Name characters hold no at sign, so no mention begins at one. -/
theorem extract_append_of_name {run : List Char} (name : ∀ c ∈ run, isNameChar c = true)
    (rest : List Char) : extract (run ++ rest) = extract rest := by
  induction run with
  | nil => rfl
  | cons first run ih =>
      obtain ⟨head, others⟩ := List.forall_mem_cons.mp name
      have unbegun : ¬ BeginsAt (first :: (run ++ rest)) 0 := by
        intro begins
        rw [(beginsAt_zero_iff.mp begins).1] at head
        cases head
      rw [List.cons_append, extract_of_not_begins unbegun, ih others]

/-! ## The places of the mentions -/

/-- Where the mentions begin, from left to right, and what their handles are. -/
structure IsReading (text : List Char) (places : List Nat) (handles : List (List Char)) : Prop where
  rising : places.Pairwise (· < ·)
  exact : ∀ place, place ∈ places ↔ BeginsAt text place
  held : List.Forall₂ (IsHandleAt text) places handles

theorem IsReading.unique {places placesOther : List Nat} {handles other : List (List Char)}
    (reading : IsReading text places handles) (readingOther : IsReading text placesOther other) :
    handles = other := by
  have same : places = placesOther :=
    reading.rising.eq_of_mem_iff readingOther.rising fun place =>
      (reading.exact place).trans (readingOther.exact place).symm
  have unique : Relator.RightUnique (IsHandleAt text) := fun _ _ _ => IsHandleAt.unique
  subst same
  exact List.right_unique_forall₂' unique reading.held readingOther.held

theorem mem_places_succ {places : List Nat} (exact : ∀ place, place ∈ places ↔ BeginsAt rest place)
    (place : Nat) :
    place ∈ places.map (· + 1) ↔ place ≠ 0 ∧ BeginsAt (first :: rest) place := by
  cases place with
  | zero => simp
  | succ place => simp [exact place, BeginsAt]

/-- A character in front moves every place by one, and may begin a mention of its own. -/
theorem exists_reading (text : List Char) : ∃ places, IsReading text places (extract text) := by
  induction text with
  | nil => exact ⟨[], .nil, by simp [BeginsAt], .nil⟩
  | cons first rest ih =>
      obtain ⟨places, rising, exact, held⟩ := ih
      have later : (places.map (· + 1)).Pairwise (· < ·) :=
        List.pairwise_map.mpr (rising.imp Nat.succ_lt_succ)
      have moved : List.Forall₂ (IsHandleAt (first :: rest)) (places.map (· + 1)) (extract rest) :=
        List.forall₂_map_left_iff.mpr held
      have among := @mem_places_succ rest first places exact
      by_cases begins : BeginsAt (first :: rest) 0
      · rw [extract_of_begins begins]
        refine ⟨0 :: places.map (· + 1), ?_, fun place => ?_, .cons (isHandleAt_zero begins) moved⟩
        · refine List.pairwise_cons.mpr ⟨fun place member => ?_, later⟩
          exact Nat.pos_of_ne_zero ((among place).mp member).1
        · rw [List.mem_cons, among]
          by_cases here : place = 0 <;> simp [here, begins]
      · rw [extract_of_not_begins begins]
        refine ⟨places.map (· + 1), later, fun place => ?_, moved⟩
        rw [among]
        by_cases here : place = 0 <;> simp [here, begins]

/-! ## The pattern of mentions -/

/-- The pattern text: it keeps to the basic alphabet. -/
def patternText : List Char :=
  "(?a)@([\\w-]+)".toList

def nameSet : CharSet :=
  ⟨⟨false, true⟩, false, [.category .word false, .code '-'.toNat]⟩

def nameGroup : Node :=
  .group 1 (.iterate .greedy 1 none (.char nameSet))

def node : Node :=
  .seq (.char (.only true '@')) nameGroup

theorem read_patternText [CharacterNames] : Pattern.read patternText = .ok node := by
  cbv

theorem node_ordered : node.Ordered := by
  simp [node, nameGroup, Node.Ordered]

theorem nameSet_admits (c : Char) : nameSet.admits c = isNameChar c := by
  have dash : '-' = c ↔ c = '-' := eq_comm
  rw [Bool.eq_iff_iff]
  simp [nameSet, CharSet.admits, Member.admits, Category.holds, Comparison.fold,
    Comparison.equals, isNameChar, dash]

/-- A hit takes the sign and the whole handle behind it. -/
theorem handle_of_run {found : Spot}
    (ran : node.run text.toArray ⟨position, []⟩ some = some found) :
    ∃ handle rest, text.drop position = '@' :: (handle ++ rest) ∧ handle ≠ [] ∧
      (∀ c ∈ handle, isNameChar c = true) ∧ Text.Stops isNameChar rest ∧
      found.position = position + 1 + handle.length ∧ found.captured text 1 = some handle := by
  have within : position ≤ text.length := by
    refine Nat.le_of_not_lt fun beyond => ?_
    have nothing : text[position]? = none := List.getElem?_eq_none (Nat.le_of_lt beyond)
    simp [node, Node.run, nothing] at ran
  obtain ⟨_, signed, inside, ran⟩ := Node.seq_run_sound node_ordered.1 within ran
  obtain ⟨tail, ahead, rfl⟩ := CharSet.only_way_iff.mp signed
  obtain ⟨handle, rest, behind, nonempty, name, stops, rfl⟩ := groupRun_last inside ran
  simp only [nameSet_admits, Text.Stops] at name stops
  have cut := (Spot.ahead_forward_one ahead).symm.trans behind
  exact ⟨handle, rest, ahead.trans (congrArg _ cut), nonempty, name, stops, rfl,
    Spot.captured_run behind⟩

theorem drop_of_getElem? {c : Char} (found : text[place]? = some c) :
    text.drop place = c :: text.drop (place + 1) := by
  obtain ⟨within, rfl⟩ := List.getElem?_eq_some_iff.mp found
  exact List.drop_eq_getElem_cons within

theorem run_of_begins (begins : BeginsAt text position) :
    (node.run text.toArray ⟨position, []⟩ some).isSome = true := by
  obtain ⟨sign, c, behind, name⟩ := begins
  have within : position < text.length := (List.getElem?_eq_some_iff.mp sign).1
  have ahead : (⟨position, []⟩ : Spot).ahead text = '@' :: text.drop (position + 1) :=
    drop_of_getElem? sign
  have next : text.drop (position + 1) = [c] ++ text.drop (position + 1 + 1) :=
    drop_of_getElem? behind
  refine (node.run_last_iff node_ordered (Nat.le_of_lt within)).mpr ?_
  exact ⟨_, _, CharSet.only_way_iff.mpr ⟨_, ahead, rfl⟩, groupRun_iff.mpr
    ⟨[c], _, (Spot.ahead_forward_one ahead).trans next, List.cons_ne_nil _ _,
      List.forall_mem_singleton.mpr ((nameSet_admits c).trans name), rfl⟩⟩

/-- The text that the group of a hit holds. -/
def held (text : List Char) (found : Spot) : List Char :=
  (found.captured text 1).getD []

theorem followed (text : List Char) :
    node.IsFollowedBy text (fun _ found => held text found) extract where
  nothing := rfl
  hit := by
    intro position found ran
    obtain ⟨handle, rest, ahead, nonempty, name, stops, reached, captured⟩ := handle_of_run ran
    have run : (handle ++ rest).takeWhile isNameChar = handle := by
      have cut := Text.span_append name stops
      rw [List.span_eq_takeWhile_dropWhile, Prod.mk.injEq] at cut
      exact cut.1
    have begins : BeginsAt ('@' :: (handle ++ rest)) 0 :=
      beginsAt_zero_iff.mpr ⟨rfl, run.symm ▸ nonempty⟩
    have left : text.drop found.position = rest := by
      rw [reached, Nat.add_assoc, ← List.drop_drop, ahead, Nat.add_comm, List.drop_succ_cons,
        List.drop_left]
    refine ⟨by omega, ?_⟩
    rw [ahead, extract_of_begins begins, run, extract_append_of_name name, left, held, captured,
      Option.getD_some]
  missed := by
    intro position ran
    have unbegun : ¬ BeginsAt text position := by
      intro begins
      have hit := run_of_begins begins
      rw [ran] at hit
      cases hit
    rw [← List.drop_drop]
    cases ahead : text.drop position with
    | nil => rfl
    | cons first rest =>
        refine extract_of_not_begins fun begins => unbegun ?_
        rw [← ahead] at begins
        simpa [BeginsAt] using begins

/--
The handles of a text are one for each at sign with a name character behind
it, from left to right, and each is the longest run of name characters
there. All the hits of the pattern hold the same handles in their group.
-/
theorem extract_places [CharacterNames] (text : List Char) :
    (∀ handles, extract text = handles ↔ ∃ places, IsReading text places handles) ∧
    Pattern.read patternText = .ok node ∧
    extract text = (node.hits text).map fun hit => held text hit.2 := by
  obtain ⟨places, reading⟩ := exists_reading text
  refine ⟨fun handles => ⟨?_, ?_⟩, read_patternText, (followed text).read_eq⟩
  · rintro rfl
    exact ⟨places, reading⟩
  · rintro ⟨placesOther, other⟩
    exact reading.unique other

/-- Doubled signs, a handle that a letter of another script ends, and two mentions that abut. -/
example : extract "@@a-1é@ @b@c".toList = ["a-1".toList, "b".toList, "c".toList] := by
  decide +kernel

end CommitLint.Mention
