import CommitLint.Proofs.Value.Keys
import Mathlib.Data.List.Basic

/-!
# Entries set again

What maps hold after entries are set in them one after the other. A name
stands where it was set first and has the content that it was set to last;
the names of several sources are their names in order, each kept where it
comes first.
-/

namespace CommitLint

namespace Entries

def names (entries : Entries) : List Value :=
  entries.map (·.1)

theorem names_cons (entry : Value × Value) (rest : Entries) :
    names (entry :: rest) = entry.1 :: names rest :=
  rfl

/-- Entries as a map has them: every name can be a key, and no two are one key. -/
structure IsMap (entries : Entries) : Prop where
  hashable : ∀ entry ∈ entries, entry.1.keyFault? = none
  distinct : entries.names.Pairwise fun first second => first.same second = false

instance (entries : Entries) : Decidable entries.IsMap :=
  decidable_of_iff
    ((∀ entry ∈ entries, entry.1.keyFault?.isNone = true) ∧
      entries.names.Pairwise fun first second => first.same second = false)
    ⟨fun ⟨hashable, distinct⟩ =>
        ⟨fun entry member => Option.isNone_iff_eq_none.mp (hashable entry member), distinct⟩,
      fun mapped => ⟨fun entry member =>
        Option.isNone_iff_eq_none.mpr (mapped.hashable entry member), mapped.distinct⟩⟩

theorem IsMap.tail {entry : Value × Value} {rest : Entries}
    (mapped : IsMap (entry :: rest)) : IsMap rest :=
  ⟨(List.forall_mem_cons.mp mapped.hashable).2, (List.pairwise_cons.mp mapped.distinct).2⟩

section Setting

variable {entries : Entries} {key other value : Value}

theorem get?_cons (entry : Value × Value) (rest : Entries) :
    get? (entry :: rest) key = if entry.1.same key then some entry.2 else get? rest key := by
  rw [get?, get?, List.find?_cons]
  split <;> simp_all

/-- A set key has its new content under every name for it; nothing else changes. -/
theorem get?_insert (entries : Entries) (key value other : Value) :
    (entries.insert key value).get? other =
      if key.same other then some value else entries.get? other := by
  induction entries with
  | nil => rw [insert, get?_cons]
  | cons entry rest ih =>
      obtain ⟨first, content⟩ := entry
      rw [insert]
      by_cases found : first.same key = true
      · rw [if_pos found, get?_cons, get?_cons, Value.same_congr found]
        split <;> rfl
      · rw [if_neg found, get?_cons, get?_cons, ih]
        by_cases asked : key.same other = true
        · have apart : ¬ first.same other = true :=
            fun same => found (Value.same_trans same (Value.same_comm.trans asked))
          rw [if_neg apart, if_pos asked, if_pos asked]
        · rw [if_neg asked, if_neg asked]

theorem IsMap.get?_of_mem {entry : Value × Value} (mapped : entries.IsMap)
    (member : entry ∈ entries) : entries.get? entry.1 = some entry.2 := by
  induction entries with
  | nil => cases member
  | cons first rest ih =>
      rw [get?_cons]
      rcases List.mem_cons.mp member with rfl | later
      · rw [if_pos (Value.same_self (mapped.hashable entry List.mem_cons_self))]
      · have apart : first.1.same entry.1 = false :=
          (List.pairwise_cons.mp mapped.distinct).1 _ (List.mem_map_of_mem later)
        rw [if_neg (by rw [apart]; nofun), ih mapped.tail later]

/-- Setting a key to what it has changes nothing. -/
theorem insert_eq_self (held : entries.get? key = some value) :
    entries.insert key value = entries := by
  induction entries with
  | nil => cases held
  | cons entry rest ih =>
      obtain ⟨first, content⟩ := entry
      rw [get?_cons] at held
      rw [insert]
      by_cases found : first.same key = true
      · rw [if_pos found] at held
        cases held
        rw [if_pos found]
      · rw [if_neg found] at held
        rw [if_neg found, ih held]

/-- A key that stands already keeps its place and its spelling, another one goes to the end. -/
theorem names_insert (entries : Entries) (key value : Value) :
    (entries.insert key value).names =
      if ∃ name ∈ entries.names, name.same key = true then entries.names
      else entries.names ++ [key] := by
  induction entries with
  | nil => rfl
  | cons entry rest ih =>
      obtain ⟨first, content⟩ := entry
      rw [insert]
      by_cases found : first.same key = true
      · rw [if_pos found, if_pos ⟨first, List.mem_cons_self, found⟩]
        rfl
      · have further : (∃ name ∈ names ((first, content) :: rest), name.same key = true) ↔
            ∃ name ∈ names rest, name.same key = true := by
          simp [names, found]
        rw [if_neg found, names_cons, ih]
        simp only [further]
        split <;> rfl

theorem get?_eq_none_iff :
    entries.get? key = none ↔ ∀ name ∈ entries.names, name.same key = false := by
  simp [get?, names]

theorem hashable_insert {entry : Value × Value}
    (hashable : ∀ held ∈ entries, held.1.keyFault? = none)
    (new : key.keyFault? = none) (member : entry ∈ entries.insert key value) :
    entry.1.keyFault? = none := by
  have named : entry.1 ∈ (entries.insert key value).names := List.mem_map_of_mem member
  rw [names_insert] at named
  have old : ∀ name ∈ entries.names, name.keyFault? = none := by
    simpa [names] using fun name content => hashable (name, content)
  split at named
  · exact old _ named
  · rcases List.mem_append.mp named with known | same
    · exact old _ known
    · rw [List.mem_singleton.mp same, new]

theorem IsMap.insert (mapped : entries.IsMap) (new : key.keyFault? = none) :
    (entries.insert key value).IsMap where
  hashable entry := hashable_insert mapped.hashable new
  distinct := by
    rw [names_insert]
    split
    · exact mapped.distinct
    · rename_i unknown
      refine List.pairwise_append.mpr ⟨mapped.distinct, List.pairwise_singleton _ _, ?_⟩
      intro name member last single
      rw [List.mem_singleton.mp single]
      exact Bool.eq_false_iff.mpr fun same => unknown ⟨name, member, same⟩

end Setting

/-! ## Names that come first -/

section Firsts

variable {values more : List Value} {value : Value}

theorem eraseDupsBy_eq_self
    (distinct : values.Pairwise fun first second => first.same second = false) :
    values.eraseDupsBy Value.same = values := by
  induction values with
  | nil => rfl
  | cons first rest ih =>
      obtain ⟨apart, others⟩ := List.pairwise_cons.mp distinct
      have kept : (rest.filter fun other => other.same first = false) = rest :=
        List.filter_eq_self.mpr fun other member => by
          rw [Value.same_comm, apart other member]
          rfl
      rw [List.eraseDupsBy_cons, kept, ih others]

/-- A value that comes again is passed over. -/
theorem eraseDupsBy_again (again : ∃ first ∈ values, first.same value = true) :
    (values ++ value :: more).eraseDupsBy Value.same = (values ++ more).eraseDupsBy Value.same := by
  induction measured : values.length using Nat.strongRecOn generalizing values more with
  | _ count ih =>
      cases values with
      | nil =>
          obtain ⟨first, member, -⟩ := again
          cases member
      | cons first rest =>
          rw [List.cons_append, List.cons_append, List.eraseDupsBy_cons, List.eraseDupsBy_cons,
            List.filter_append, List.filter_append]
          by_cases here : value.same first = true
          · rw [List.filter_cons_of_neg (by simp [here])]
          · rw [List.filter_cons_of_pos (by simp [here])]
            obtain ⟨other, member, same⟩ := again
            have later : other ∈ rest := by
              rcases List.mem_cons.mp member with rfl | later
              · exact absurd (Value.same_comm.trans same) here
              · exact later
            have apart : ¬ other.same first = true :=
              fun found => here (Value.same_trans (Value.same_comm.trans same) found)
            have shorter : (rest.filter fun other => other.same first = false).length < count := by
              rw [← measured, List.length_cons]
              exact Nat.lt_succ_of_le (List.length_filter_le _ _)
            rw [ih _ shorter ⟨other, List.mem_filter.mpr ⟨later, by simp [apart]⟩, same⟩ rfl]

end Firsts

section Updating

variable {entries extra : Entries}

theorem update_cons (entries : Entries) (entry : Value × Value) (rest : Entries) :
    entries.update (entry :: rest) = (entries.insert entry.1 entry.2).update rest :=
  rfl

/-- What a map is set to counts before what was there. -/
theorem get?_update (entries : Entries) (mapped : extra.IsMap) (key : Value) :
    (entries.update extra).get? key = (extra.get? key).or (entries.get? key) := by
  induction extra generalizing entries with
  | nil => rfl
  | cons entry rest ih =>
      rw [update_cons, ih _ mapped.tail, get?_insert, get?_cons]
      by_cases asked : entry.1.same key = true
      · have others : get? rest key = none := by
          rw [get?_eq_none_iff]
          intro name member
          rw [Value.same_comm, ← Value.same_congr asked]
          exact (List.pairwise_cons.mp mapped.distinct).1 name member
        rw [others, if_pos asked, if_pos asked]
        rfl
      · rw [if_neg asked, if_neg asked]

/-- The names of a map and of what it is set to, each where it comes first. -/
theorem names_update (mapped : entries.IsMap)
    (hashable : ∀ entry ∈ extra, entry.1.keyFault? = none) :
    (entries.update extra).IsMap ∧ (entries.update extra).names =
      (entries.names ++ extra.names).eraseDupsBy Value.same := by
  induction extra generalizing entries with
  | nil =>
      refine ⟨mapped, ?_⟩
      exact ((congrArg _ (List.append_nil _)).trans (eraseDupsBy_eq_self mapped.distinct)).symm
  | cons entry rest ih =>
      obtain ⟨first, others⟩ := List.forall_mem_cons.mp hashable
      have set : (entries.insert entry.1 entry.2).IsMap := mapped.insert first
      obtain ⟨still, shown⟩ := ih set others
      refine ⟨still, shown.trans ?_⟩
      rw [names_insert, names_cons]
      split
      · rename_i known
        exact (eraseDupsBy_again known).symm
      · rw [List.append_assoc, List.singleton_append]

/-- Setting entries that are there already changes nothing. -/
theorem update_eq_self (held : ∀ entry ∈ extra, entries.get? entry.1 = some entry.2) :
    entries.update extra = entries := by
  induction extra with
  | nil => rfl
  | cons entry rest ih =>
      obtain ⟨first, others⟩ := List.forall_mem_cons.mp held
      rw [update_cons, insert_eq_self first, ih others]

end Updating

end Entries

end CommitLint
