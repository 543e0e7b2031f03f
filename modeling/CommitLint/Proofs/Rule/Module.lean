import CommitLint.Rule.Module
import Mathlib.Data.String.Basic

/-!
# Loading a file of rules

A file that gets to its end has its classes visited in the order of the names
that they are bound to. Either all of them can be constructed, or exactly
those in front of the first one that cannot stay loaded, and the file failed.
-/

namespace CommitLint.RuleModule

/-- The classes of rules that a file defines, visited by the names that they are bound to. -/
inductive Visits (bindings : Bindings) : List Defined → Prop where
  | inOrder {sorted : Bindings} (same : sorted.Perm bindings)
      (ordered : sorted.Pairwise fun first second => first.1 < second.1) :
      Visits bindings ((sorted.map (·.2)).filter fun content =>
        content.isOwnRule && content.name.isSome)

/-- What loading a file leaves: the rules, and whether the file failed. -/
inductive Loads (file : RuleModule) : List CustomRule → Bool → Prop where
  | unread (unbound : file.bindings? = none) : Loads file [] true
  | whole {bindings : Bindings} {visited : List Defined} {rules : List CustomRule}
      (bound : file.bindings? = some bindings) (visits : Visits bindings visited)
      (constructed : visited.map construct? = rules.map some) : Loads file rules false
  | partly {bindings : Bindings} {earlier later : List Defined} {failing : Defined}
      {rules : List CustomRule} (bound : file.bindings? = some bindings)
      (visits : Visits bindings (earlier ++ failing :: later))
      (constructed : earlier.map construct? = rules.map some)
      (fails : construct? failing = none) : Loads file rules true

/-! ## Names are bound once -/

/-- No name is bound twice. -/
def Distinct (bindings : Bindings) : Prop :=
  bindings.Pairwise fun first second => first.1 ≠ second.1

theorem Distinct.bind {bindings : Bindings} (distinct : Distinct bindings) (name : String)
    (content : Defined) : Distinct (bind bindings name content) := by
  refine List.pairwise_cons.mpr ⟨?_, distinct.filter _⟩
  intro other kept
  exact (bne_iff_ne.mp (List.mem_filter.mp kept).2).symm

theorem Distinct.define {bindings bound : Bindings} {classes : List RuleClass}
    (distinct : Distinct bindings) (defined : define bindings classes = some bound) :
    Distinct bound := by
  induction classes generalizing bindings with
  | nil =>
      cases defined
      exact distinct
  | cons written rest ih =>
      rw [RuleModule.define] at defined
      split at defined
      · cases defined
      · exact ih (distinct.bind _ _) defined

theorem Distinct.addAliases {bindings bound : Bindings} {aliases : List (String × String)}
    (distinct : Distinct bindings) (added : addAliases bindings aliases = some bound) :
    Distinct bound := by
  induction aliases generalizing bindings with
  | nil =>
      cases added
      exact distinct
  | cons other rest ih =>
      rw [RuleModule.addAliases] at added
      split at added
      · cases added
      · exact ih (distinct.bind _ _) added

theorem imported_distinct (file : RuleModule) : Distinct file.imported := by
  unfold imported
  cases file.importsRule <;> cases file.importsHeaderLength <;> simp [Distinct]

theorem bindings_distinct {file : RuleModule} {bindings : Bindings}
    (bound : file.bindings? = some bindings) : Distinct bindings := by
  unfold bindings? at bound
  split at bound
  · cases bound
  · split at bound
    · cases bound
    · next found reached =>
        obtain ⟨defined, classes, aliases⟩ := Option.bind_eq_some_iff.mp reached
        split at bound
        · cases bound
        · cases bound
          exact ((imported_distinct file).define classes).addAliases aliases

/-! ## Visiting the classes -/

theorem candidates_visits {bindings : Bindings} (distinct : Distinct bindings) :
    Visits bindings (candidates bindings) := by
  have same := List.mergeSort_perm bindings fun first second => first.1 ≤ second.1
  have ordered : (bindings.mergeSort fun first second => first.1 ≤ second.1).Pairwise
      fun first second => decide (first.1 ≤ second.1) = true := by
    apply List.pairwise_mergeSort
    · intro first second third below above
      simp only [decide_eq_true_eq] at below above ⊢
      exact String.le_trans below above
    · intro first second
      simp only [Bool.or_eq_true, decide_eq_true_eq]
      exact String.le_total first.1 second.1
  have apart := same.symm.pairwise distinct fun unequal => unequal.symm
  refine .inOrder same ((ordered.and apart).imp fun {first second} both => ?_)
  exact lt_of_le_of_ne (of_decide_eq_true both.1) both.2

/-- Construction goes through, or stops at the first class that cannot be constructed. -/
theorem constructAll_cases (visited : List Defined) :
    (∃ rules, visited.map construct? = rules.map some ∧ constructAll visited = (rules, false)) ∨
      ∃ earlier failing later rules, visited = earlier ++ failing :: later ∧
        earlier.map construct? = rules.map some ∧ construct? failing = none ∧
        constructAll visited = (rules, true) := by
  induction visited with
  | nil => exact .inl ⟨[], rfl, rfl⟩
  | cons content rest ih =>
      cases built : construct? content with
      | none => exact .inr ⟨[], content, rest, [], rfl, rfl, built, by rw [constructAll, built]⟩
      | some rule =>
          have first : constructAll (content :: rest) =
              (rule :: (constructAll rest).1, (constructAll rest).2) := by
            rw [constructAll, built]
          rw [first]
          rcases ih with ⟨rules, constructed, all⟩ |
            ⟨earlier, failing, later, rules, rfl, constructed, fails, all⟩
          · refine .inl ⟨rule :: rules, ?_, by rw [all]⟩
            rw [List.map_cons, List.map_cons, built, constructed]
          · refine .inr ⟨content :: earlier, failing, later, rule :: rules, rfl, ?_, fails, ?_⟩
            · rw [List.map_cons, List.map_cons, built, constructed]
            · rw [all]

theorem load_of_malformed {file : RuleModule} (malformed : file.wellFormed = false) :
    file.load = ([], true) := by
  rw [load, bindings?, malformed]
  rfl

theorem load_loads (file : RuleModule) : file.Loads file.load.1 file.load.2 := by
  rw [load]
  cases bound : file.bindings? with
  | none => exact .unread bound
  | some bindings =>
      have visits := candidates_visits (bindings_distinct bound)
      dsimp only
      rcases constructAll_cases (candidates bindings) with ⟨rules, constructed, all⟩ |
        ⟨earlier, failing, later, rules, cut, constructed, fails, all⟩
      · rw [all]
        exact .whole bound visits constructed
      · rw [all]
        rw [cut] at visits
        exact .partly bound visits constructed fails

end CommitLint.RuleModule
