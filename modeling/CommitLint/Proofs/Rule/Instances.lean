import CommitLint.Proofs.Rule.NamedDirectory
import Mathlib.Data.List.Nodup

/-!
# Classes that several names are bound to

A class is constructed once for each name that it is bound to, so a further
name for a class makes a further instance. The rule that is looked up is that
of the class with the last name among the classes that share a name for their
rules. A further name that comes behind it hands the rule to its own class.
-/

namespace CommitLint

namespace RuleModule

/-- Whether a class is one to construct: a class of rules from the file, with a name. -/
def Defined.isCandidate (content : Defined) : Bool :=
  content.isOwnRule && content.name.isSome

def instance? (binding : String × Defined) : Option CustomRule :=
  if binding.2.isCandidate then construct? binding.2 else none

/-- All the classes to construct can be constructed. -/
def IsConstructible (bindings : Bindings) : Prop :=
  ∀ binding ∈ bindings, binding.2.isCandidate = true → ∃ rule, construct? binding.2 = some rule

/-- An instance for each binding of a class to construct, in the order of the names that the
classes are bound to. -/
inductive Instances (bindings : Bindings) : List CustomRule → Prop where
  | inOrder {sorted : Bindings} (same : sorted.Perm bindings)
      (ordered : sorted.Pairwise fun first second => first.1 < second.1) :
      Instances bindings (sorted.filterMap instance?)

/-- The rule that is looked up under a name: the last one of that name. -/
def winner? (rules : List CustomRule) (name : String) : Option CustomRule :=
  rules.reverse.find? fun rule => rule.rule.name == name

/-- A class is to be constructed, and its rule has a name. -/
structure Defined.Offers (content : Defined) (name : String) : Prop where
  candidate : content.isCandidate = true
  named : content.name = some name

/-- Of the classes that offer a name, the one that is bound last. -/
structure IsLast (bindings : Bindings) (name label : String) (content : Defined) : Prop where
  bound : (label, content) ∈ bindings
  offers : content.Offers name
  last : ∀ other ∈ bindings, other.2.Offers name → other.1 ≤ label

/-- A further name for a class takes the name of a rule from another class. -/
structure TakesOver (bindings : Bindings) (further : String) (content : Defined)
    (name : String) : Prop where
  offers : content.Offers name
  behind : ∃ label other, IsLast bindings name label other ∧ label < further ∧
    other.title ≠ content.title

/-- The file with one more name for a class. -/
def withAlias (file : RuleModule) (further target : String) : RuleModule :=
  { file with aliases := file.aliases ++ [(further, target)] }

/-! ## The classes that are bound -/

section

variable {file : RuleModule} {bindings bound : Bindings} {classes : List RuleClass}
  {aliases : List (String × String)}

theorem Distinct.eq_of_same (distinct : Distinct bindings) {first second : String × Defined}
    (among : first ∈ bindings) (among' : second ∈ bindings) (same : first.1 = second.1) :
    first = second :=
  List.inj_on_of_nodup_map (List.pairwise_map.mpr distinct) among among' same

theorem mem_bind {name : String} {content : Defined} {binding : String × Defined} :
    binding ∈ bind bindings name content ↔
      binding = (name, content) ∨ binding ∈ bindings ∧ binding.1 ≠ name := by
  simp [bind]

/-- A further name binds no further class. -/
theorem contents_of_bind {further target : String} {content : Defined}
    (given : (target, content) ∈ bindings) :
    ∀ binding ∈ bind bindings further content, ∃ source ∈ bindings, source.2 = binding.2 := by
  intro binding among
  rcases mem_bind.mp among with rfl | ⟨kept, -⟩
  · exact ⟨(target, content), given, rfl⟩
  · exact ⟨binding, kept, rfl⟩

/-- A class from the file is what the file says of it, and is bound to its title. -/
def IsWritten (classes : List RuleClass) (binding : String × Defined) : Prop :=
  binding.2.isOwnRule = true → binding.1 = binding.2.title ∧
    ∃ written ∈ classes, ∃ base : Defined, base.isRule = true ∧ binding.2 = derive base written

theorem define_written {earlier : List RuleClass}
    (before : ∀ binding ∈ bindings, IsWritten earlier binding)
    (defined : define bindings classes = some bound) :
    ∀ binding ∈ bound, IsWritten (earlier ++ classes) binding := by
  induction classes generalizing bindings earlier with
  | nil =>
      cases defined
      rwa [List.append_nil]
  | cons written rest ih =>
      rw [define] at defined
      split at defined
      · cases defined
      · next base _ =>
          have onward : ∀ binding ∈ bind bindings written.title (derive base written),
              IsWritten (earlier ++ [written]) binding := by
            intro binding among own
            rcases mem_bind.mp among with rfl | ⟨kept, -⟩
            · exact ⟨rfl, written, by simp, base, own, rfl⟩
            · obtain ⟨titled, source, listed, described⟩ := before binding kept own
              exact ⟨titled, source, List.mem_append_left _ listed, described⟩
          have after := ih onward defined
          rwa [List.append_assoc, List.singleton_append] at after

theorem contents_of_addAliases (added : addAliases bindings aliases = some bound) :
    ∀ binding ∈ bound, ∃ source ∈ bindings, source.2 = binding.2 := by
  induction aliases generalizing bindings with
  | nil =>
      cases added
      exact fun binding among => ⟨binding, among, rfl⟩
  | cons other rest ih =>
      rw [addAliases] at added
      split at added
      · cases added
      · next content found =>
          intro binding among
          obtain ⟨front, back, cut, -⟩ := List.lookup_eq_some_iff.mp found
          have given : (other.2, content) ∈ bindings := by simp [cut]
          obtain ⟨source, listed, same⟩ := ih added binding among
          rw [← same]
          exact contents_of_bind given source listed

theorem addAliases_append (first second : List (String × String)) :
    addAliases bindings (first ++ second) =
      (addAliases bindings first).bind (addAliases · second) := by
  induction first generalizing bindings with
  | nil => rfl
  | cons other rest ih =>
      rw [List.cons_append, addAliases, addAliases]
      split
      · rfl
      · exact ih

theorem bindings?_eq_some_iff : file.bindings? = some bindings ↔
    file.wellFormed = true ∧ file.breaksDown = false ∧
      ∃ defined, define file.imported file.classes = some defined ∧
        addAliases defined file.aliases = some bindings := by
  rw [← Option.bind_eq_some_iff, bindings?]
  cases (define file.imported file.classes).bind (addAliases · file.aliases) <;>
    cases file.wellFormed <;> cases file.breaksDown <;> simp

/-- A class from the file that is bound is bound under its title where the classes are defined. -/
theorem source_of_bound (reached : file.bindings? = some bindings) :
    ∃ defined, Distinct defined ∧ (∀ binding ∈ defined, IsWritten file.classes binding) ∧
      ∀ binding ∈ bindings, ∃ source ∈ defined, source.2 = binding.2 := by
  obtain ⟨-, -, defined, classes, aliases⟩ := bindings?_eq_some_iff.mp reached
  have imported : ∀ binding ∈ file.imported, IsWritten [] binding := by
    intro binding among own
    have foreign : ∀ binding ∈ file.imported, binding.2.isOwnRule = false := by
      unfold RuleModule.imported
      cases file.importsRule <;> cases file.importsHeaderLength <;>
        simp [ruleClass, headerLengthClass]
    rw [foreign binding among] at own
    cases own
  exact ⟨defined, (imported_distinct file).define classes, define_written imported classes,
    contents_of_addAliases aliases⟩

theorem isCandidate_iff (reached : file.bindings? = some bindings) {binding : String × Defined}
    (among : binding ∈ bindings) :
    binding.2.isCandidate = true ↔ ∃ written ∈ file.classes, ∃ base : Defined,
      base.isRule = true ∧ binding.2 = derive base written ∧
        (written.name.isSome = true ∨ base.name.isSome = true) := by
  obtain ⟨defined, -, sources, contents⟩ := source_of_bound reached
  constructor
  · intro candidate
    obtain ⟨own, named⟩ := Bool.and_eq_true_iff.mp candidate
    obtain ⟨source, listed, same⟩ := contents binding among
    obtain ⟨-, written, listed', base, rule, described⟩ := sources source listed (same ▸ own)
    rw [same] at described
    refine ⟨written, listed', base, rule, described, ?_⟩
    rw [described] at named
    simpa [derive] using named
  · rintro ⟨written, -, base, rule, described, named⟩
    simpa [described, Defined.isCandidate, derive, rule] using named

/-- A title tells the classes from the file apart. -/
theorem eq_of_title (reached : file.bindings? = some bindings) {first second : String × Defined}
    (among : first ∈ bindings) (among' : second ∈ bindings)
    (candidate : first.2.isCandidate = true) (candidate' : second.2.isCandidate = true)
    (same : first.2.title = second.2.title) : first.2 = second.2 := by
  obtain ⟨defined, distinct, sources, contents⟩ := source_of_bound reached
  obtain ⟨source, listed, held⟩ := contents first among
  obtain ⟨source', listed', held'⟩ := contents second among'
  have titled := (sources source listed (held ▸ (Bool.and_eq_true_iff.mp candidate).1)).1
  have titled' := (sources source' listed' (held' ▸ (Bool.and_eq_true_iff.mp candidate').1)).1
  have names : source.1 = source'.1 := by rw [titled, titled', held, held', same]
  rw [← held, ← held', distinct.eq_of_same listed listed' names]

/-- One more name is bound at the end, in the place of what the name was bound to. -/
theorem bindings?_withAlias {further target : String} {content : Defined}
    (reached : file.bindings? = some bindings) (given : (target, content) ∈ bindings) :
    (file.withAlias further target).bindings? = some (bind bindings further content) := by
  obtain ⟨whole, lasts, defined, classes, aliases⟩ := bindings?_eq_some_iff.mp reached
  have found : bindings.lookup target = some content := by
    obtain ⟨front, back, rfl⟩ := List.append_of_mem given
    refine List.lookup_eq_some_iff.mpr ⟨front, back, rfl, fun other earlier => ?_⟩
    have apart := (List.pairwise_append.mp (bindings_distinct reached)).2.2 other earlier
    exact bne_iff_ne.mpr (apart (target, content) (by simp)).symm
  refine bindings?_eq_some_iff.mpr ⟨whole, lasts, defined, classes, ?_⟩
  change addAliases defined (file.aliases ++ [(further, target)]) = _
  rw [addAliases_append, aliases, Option.bind_some, addAliases, found]
  rfl

end

/-! ## The instances of a file -/

section

variable {bindings : Bindings} {rules : List CustomRule} {content : Defined} {rule : CustomRule}
  {name label : String}

theorem Visits.mem {visited : List Defined} (visits : Visits bindings visited)
    (among : content ∈ visited) :
    ∃ binding ∈ bindings, binding.2 = content ∧ content.isCandidate = true := by
  obtain ⟨same, ordered⟩ := visits
  obtain ⟨listed, candidate⟩ := List.mem_filter.mp among
  obtain ⟨binding, kept, rfl⟩ := List.mem_map.mp listed
  exact ⟨binding, same.mem_iff.mp kept, rfl, candidate⟩

theorem load_instances {file : RuleModule} (reached : file.bindings? = some bindings)
    (constructible : IsConstructible bindings) :
    ∃ rules, file.load = (rules, false) ∧ Instances bindings rules := by
  have loads := file.load_loads
  generalize file.load = result at loads
  obtain ⟨rules, failed⟩ := result
  refine ⟨rules, ?_⟩
  cases loads with
  | unread unbound => cases reached.symm.trans unbound
  | whole bound visits constructed =>
      cases reached.symm.trans bound
      refine ⟨rfl, ?_⟩
      obtain @⟨sorted, same, ordered⟩ := visits
      have instances : sorted.filterMap instance? = rules := by
        have steps := congrArg (List.filterMap id) constructed
        rw [List.filterMap_map, List.filterMap_map, List.filterMap_filter,
          List.filterMap_map] at steps
        exact steps.trans List.filterMap_some
      rw [← instances]
      exact .inOrder same ordered
  | partly bound visits constructed fails =>
      cases reached.symm.trans bound
      obtain ⟨binding, among, rfl, candidate⟩ := visits.mem (List.mem_append_right _ (.head _))
      obtain ⟨rule, built⟩ := constructible binding among candidate
      cases fails.symm.trans built

theorem instance?_eq_some_iff {binding : String × Defined} :
    instance? binding = some rule ↔
      binding.2.isCandidate = true ∧ construct? binding.2 = some rule := by
  rw [instance?, Option.ite_none_right_eq_some]

/-- What a class is constructed as has the title and the name of the class. -/
theorem construct?_eq_some (built : construct? content = some rule) :
    rule.title = content.title ∧ content.name = some rule.rule.name := by
  unfold construct? at built
  split at built
  · next named valid =>
      obtain ⟨-, made⟩ := Option.ite_none_left_eq_some.mp built
      cases made
      exact ⟨rfl, named⟩
  · cases built

theorem Instances.mem_iff (instances : Instances bindings rules) :
    rule ∈ rules ↔
      ∃ binding ∈ bindings, binding.2.isCandidate = true ∧ construct? binding.2 = some rule := by
  obtain ⟨same, ordered⟩ := instances
  simp only [List.mem_filterMap, instance?_eq_some_iff, same.mem_iff]

/-- There are as many instances of a class as names that it is bound to. -/
theorem Instances.titles (instances : Instances bindings rules)
    (constructible : IsConstructible bindings) :
    (rules.map (·.title)).Perm ((bindings.filter (·.2.isCandidate)).map (·.2.title)) := by
  obtain @⟨sorted, same, ordered⟩ := instances
  have each : sorted.filterMap (fun binding => (instance? binding).map (·.title)) =
      sorted.filterMap fun binding =>
        if binding.2.isCandidate then some binding.2.title else none := by
    refine List.filterMap_congr fun binding among => ?_
    rw [instance?]
    split
    · next candidate =>
        obtain ⟨rule, built⟩ := constructible binding (same.mem_iff.mp among) candidate
        rw [built, Option.map_some, (construct?_eq_some built).1]
    · rfl
  rw [List.map_filterMap, each, ← List.filterMap_filter, List.filterMap_eq_map']
  exact (same.filter _).map _

/-- No class has two instances exactly if none is bound to two names. -/
theorem Instances.nodup_iff (instances : Instances bindings rules)
    (constructible : IsConstructible bindings) (distinct : Distinct bindings) :
    (rules.map (·.title)).Nodup ↔ ∀ first ∈ bindings, ∀ second ∈ bindings,
      first.2.isCandidate = true → second.2.isCandidate = true →
        first.2.title = second.2.title → first.1 = second.1 := by
  have single : bindings.Nodup := distinct.imp fun apart same => apart (congrArg _ same)
  rw [(instances.titles constructible).nodup_iff, List.nodup_map_iff_inj_on (single.filter _)]
  simp only [List.mem_filter, and_imp]
  constructor
  · intro injective first among second among' candidate candidate' titles
    rw [injective first among candidate second among' candidate' titles]
  · intro named first among candidate second among' candidate' titles
    exact distinct.eq_of_same among among'
      (named first among second among' candidate candidate' titles)

/-- In a list that is in order, the last element with a property is the greatest one. -/
theorem find?_reverse_iff {sorted : Bindings} {p : String × Defined → Bool}
    {binding : String × Defined}
    (ordered : sorted.Pairwise fun first second => first.1 < second.1) :
    sorted.reverse.find? p = some binding ↔
      binding ∈ sorted ∧ p binding = true ∧
        ∀ other ∈ sorted, p other = true → other.1 ≤ binding.1 := by
  rw [List.find?_eq_some_iff_append]
  constructor
  · rintro ⟨holds, later, earlier, cut, others⟩
    obtain rfl : sorted = earlier.reverse ++ binding :: later.reverse := by
      rw [← List.reverse_reverse sorted, cut]
      simp
    refine ⟨by simp, holds, fun other among holds' => ?_⟩
    rcases List.mem_append.mp among with front | back
    · exact ((List.pairwise_append.mp ordered).2.2 other front binding (by simp)).le
    · rcases List.mem_cons.mp back with rfl | after
      · exact le_rfl
      · have fails := others other (List.mem_reverse.mp after)
        rw [holds'] at fails
        cases fails
  · rintro ⟨among, holds, greatest⟩
    obtain ⟨earlier, later, rfl⟩ := List.append_of_mem among
    refine ⟨holds, later.reverse, earlier.reverse, by simp, fun other after => ?_⟩
    rw [Bool.not_eq_true', ← Bool.not_eq_true]
    intro holds'
    have behind := (List.pairwise_cons.mp (List.pairwise_append.mp ordered).2.1).1 other
      (List.mem_reverse.mp after)
    exact absurd (greatest other (by simp [List.mem_reverse.mp after]) holds') (not_le.mpr behind)

/-- The rule that is looked up is that of the class that is bound last. -/
theorem Instances.winner?_iff (instances : Instances bindings rules)
    (constructible : IsConstructible bindings) :
    winner? rules name = some rule ↔
      ∃ label content, IsLast bindings name label content ∧ construct? content = some rule := by
  obtain @⟨sorted, same, ordered⟩ := instances
  have offers : ∀ binding ∈ sorted,
      (instance? binding).any (fun rule => rule.rule.name == name) = true ↔
        binding.2.Offers name := by
    intro binding among
    simp only [Option.any_eq_true, instance?_eq_some_iff, beq_iff_eq]
    constructor
    · rintro ⟨rule, ⟨candidate, built⟩, rfl⟩
      exact ⟨candidate, (construct?_eq_some built).2⟩
    · rintro ⟨candidate, named⟩
      obtain ⟨rule, built⟩ := constructible binding (same.mem_iff.mp among) candidate
      have names := named.symm.trans (construct?_eq_some built).2
      exact ⟨rule, ⟨candidate, built⟩, (Option.some.inj names).symm⟩
  rw [winner?, ← List.filterMap_reverse, List.find?_filterMap, Option.bind_eq_some_iff]
  simp only [find?_reverse_iff ordered]
  constructor
  · rintro ⟨⟨label, content⟩, ⟨among, holds, greatest⟩, made⟩
    refine ⟨label, content, ⟨same.mem_iff.mp among, (offers _ among).mp holds, ?_⟩,
      (instance?_eq_some_iff.mp made).2⟩
    intro other listed offered
    have among' := same.mem_iff.mpr listed
    exact greatest other among' ((offers other among').mpr offered)
  · rintro ⟨label, content, ⟨bound, offered, last⟩, built⟩
    have among := same.mem_iff.mpr bound
    refine ⟨(label, content), ⟨among, (offers _ among).mpr offered, ?_⟩,
      instance?_eq_some_iff.mpr ⟨offered.candidate, built⟩⟩
    intro other among' holds
    exact last other (same.mem_iff.mp among') ((offers other among').mp holds)

theorem Instances.title_of_last (instances : Instances bindings rules)
    (constructible : IsConstructible bindings) (last : IsLast bindings name label content) :
    (winner? rules name).map (·.title) = some content.title := by
  obtain ⟨rule, built⟩ := constructible _ last.bound last.offers.candidate
  rw [(instances.winner?_iff constructible).mpr ⟨label, content, last, built⟩, Option.map_some,
    (construct?_eq_some built).1]

end

/-! ## One more name -/

section

variable {file : RuleModule} {bindings : Bindings} {rules rules' : List CustomRule}
  {content : Defined} {name further target : String}

theorem isConstructible_bind (constructible : IsConstructible bindings)
    (given : (target, content) ∈ bindings) : IsConstructible (bind bindings further content) := by
  intro binding among candidate
  obtain ⟨source, listed, same⟩ := contents_of_bind given binding among
  rw [← same] at candidate ⊢
  exact constructible source listed candidate

theorem IsLast.keeps {label : String} {other : Defined} (last : IsLast bindings name label other)
    (fresh : label ≠ further) (front : content.Offers name → further < label) :
    IsLast (bind bindings further content) name label other := by
  refine ⟨mem_bind.mpr (.inr ⟨last.bound, fresh⟩), last.offers, ?_⟩
  intro binding among offered
  rcases mem_bind.mp among with rfl | ⟨kept, -⟩
  · exact (front offered).le
  · exact last.last binding kept offered

theorem IsLast.yields {label : String} {other : Defined} (last : IsLast bindings name label other)
    (offered : content.Offers name) (behind : label < further) :
    IsLast (bind bindings further content) name further content := by
  refine ⟨mem_bind.mpr (.inl rfl), offered, ?_⟩
  intro binding among offered'
  rcases mem_bind.mp among with rfl | ⟨kept, -⟩
  · exact le_rfl
  · exact (last.last binding kept offered').trans behind.le

theorem Instances.winner?_eq_none (instances : Instances bindings rules)
    (constructible : IsConstructible bindings) (none : winner? rules name = none) :
    ∀ binding ∈ bindings, ¬ binding.2.Offers name := by
  intro binding among offered
  obtain ⟨rule, built⟩ := constructible binding among offered.candidate
  have listed := instances.mem_iff.mpr ⟨binding, among, offered.candidate, built⟩
  have names := offered.named.symm.trans (construct?_eq_some built).2
  have unnamed := List.find?_eq_none.mp none rule (List.mem_reverse.mpr listed)
  exact unnamed (beq_iff_eq.mpr (Option.some.inj names).symm)

/-- A rule that is taken over is looked up in the class of the further name. -/
theorem winner?_of_takesOver (constructible : IsConstructible bindings)
    (given : (target, content) ∈ bindings) (instances : Instances bindings rules)
    (instances' : Instances (bind bindings further content) rules')
    (takes : TakesOver bindings further content name) :
    (winner? rules' name).map (·.title) = some content.title ∧
      (winner? rules name).map (·.title) ≠ some content.title := by
  obtain ⟨offered, label, other, last, behind, apart⟩ := takes
  refine ⟨instances'.title_of_last (isConstructible_bind constructible given)
    (last.yields offered behind), fun same => apart ?_⟩
  exact Option.some.inj ((instances.title_of_last constructible last).symm.trans same)

/-- A rule that is not taken over is looked up as before. -/
theorem winner?_of_not_takesOver (reached : file.bindings? = some bindings)
    (constructible : IsConstructible bindings) (given : (target, content) ∈ bindings)
    (fresh : ∀ binding ∈ bindings, binding.1 ≠ further) (instances : Instances bindings rules)
    (instances' : Instances (bind bindings further content) rules')
    (kept : ¬ TakesOver bindings further content name) :
    winner? rules' name = winner? rules name := by
  have found {rule : CustomRule} : winner? rules' name = some rule ↔
      ∃ label other, IsLast (bind bindings further content) name label other ∧
        construct? other = some rule :=
    instances'.winner?_iff (isConstructible_bind constructible given)
  cases before : winner? rules name with
  | none =>
      have unoffered := instances.winner?_eq_none constructible before
      by_contra present
      obtain ⟨rule, after⟩ := Option.ne_none_iff_exists'.mp present
      obtain ⟨label, other, last, -⟩ := found.mp after
      obtain ⟨source, listed, same⟩ := contents_of_bind given _ last.bound
      exact unoffered source listed (same ▸ last.offers)
  | some rule =>
      obtain ⟨label, other, last, built⟩ := (instances.winner?_iff constructible).mp before
      have apart : label ≠ further := fresh _ last.bound
      refine found.mpr ?_
      by_cases stays : content.Offers name → further < label
      · exact ⟨label, other, last.keeps apart stays, built⟩
      · obtain ⟨offered, behind⟩ := Classical.not_imp.mp stays
        have below : label < further := lt_of_le_of_ne (not_lt.mp behind) apart
        have titles : other.title = content.title := by
          by_contra differ
          exact kept ⟨offered, label, other, last, below, differ⟩
        have same : other = content :=
          eq_of_title reached last.bound given last.offers.candidate offered.candidate titles
        exact ⟨further, content, last.yields offered below, same ▸ built⟩

theorem map_winner? (rules : List CustomRule) (name : String) :
    (winner? rules name).map (·.rule) = Rule.find? (rules.map (·.rule)) name := by
  rw [winner?, Rule.find?, ← List.map_reverse, List.find?_map]
  rfl

/-- Between other rules it does not matter which of two lists stands that have the same winners. -/
theorem lookup_between {key : Value} (before after : List Rule)
    (same : ∀ name, key = .text name → winner? rules' name = winner? rules name) :
    Lint.lookup (before ++ rules'.map (·.rule) ++ after) key =
      Lint.lookup (before ++ rules.map (·.rule) ++ after) key := by
  have midst : Lint.lookup (rules'.map (·.rule)) key = Lint.lookup (rules.map (·.rule)) key := by
    cases key with
    | text name => rw [Lint.lookup, Lint.lookup, ← map_winner?, ← map_winner?, same name rfl]
    | _ => rfl
  simp only [Lint.lookup_append, midst]

end

end RuleModule

namespace RuleDirectory

variable {tree : FileTree} {directory : Path} {name : String} {content : Content}

/-- The rules of a file are among those of its directory in one piece. -/
theorem load_around {front back : List String} (there : tree.isDirectory directory = .ok true)
    (cut : (tree.list directory).filter isRuleFile = front ++ name :: back)
    (held : tree.Holds (directory.child name) content) :
    (load tree directory).value =
      .ok ((front.flatMap fun file => (loadFile tree (directory.child file)).1) ++
        (describedBy content).load.1 ++
          back.flatMap fun file => (loadFile tree (directory.child file)).1) := by
  rw [load_of_isDirectory there, map_loadFiles, cut, List.flatMap_append, List.flatMap_cons,
    loadFile_of_holds held, List.append_assoc]

end RuleDirectory

namespace RuleModule

variable {file : RuleModule} {bindings : Bindings}

/--
A file whose classes can all be constructed brings an instance for each name
that a class of rules from the file is bound to, in the order of these names,
if the class has a name for its rule, of its own or from its base; no other
class has an instance. So a class has one instance exactly if it is bound
once. The rule that is looked up is that of the class that is bound last, and
the rules stand in one piece among those of the directory. A further name for
a class changes what is looked up, and what linting finds, exactly where it
comes behind the last name of another class for the same rule.
-/
theorem load_per_binding [CharacterNames] (reached : file.bindings? = some bindings)
    (constructible : IsConstructible bindings) :
    ∃ rules, file.load = (rules, false) ∧ Instances bindings rules ∧
      (∀ binding ∈ bindings, binding.2.isCandidate = true ↔
        ∃ written ∈ file.classes, ∃ base : Defined, base.isRule = true ∧
          binding.2 = derive base written ∧
            (written.name.isSome = true ∨ base.name.isSome = true)) ∧
      (∀ rule, rule ∈ rules ↔ ∃ binding ∈ bindings,
        binding.2.isCandidate = true ∧ construct? binding.2 = some rule) ∧
      (rules.map (·.title)).Perm ((bindings.filter (·.2.isCandidate)).map (·.2.title)) ∧
      (∀ first ∈ bindings, ∀ second ∈ bindings, first.2.isCandidate = true →
        second.2.isCandidate = true → first.2.title = second.2.title → first.2 = second.2) ∧
      ((rules.map (·.title)).Nodup ↔ ∀ first ∈ bindings, ∀ second ∈ bindings,
        first.2.isCandidate = true → second.2.isCandidate = true →
          first.2.title = second.2.title → first.1 = second.1) ∧
      (∀ name rule, winner? rules name = some rule ↔
        ∃ label content, IsLast bindings name label content ∧ construct? content = some rule) ∧
      (∀ (tree : FileTree) (directory : Path) (front back : List String) (name : String)
        (content : Content), RuleDirectory.describedBy content = file →
          tree.isDirectory directory = .ok true →
          (tree.list directory).filter RuleDirectory.isRuleFile = front ++ name :: back →
          tree.Holds (directory.child name) content →
            ∃ before after, (RuleDirectory.load tree directory).value =
                .ok (before ++ rules ++ after) ∧
              before = (front.flatMap fun other =>
                (RuleDirectory.loadFile tree (directory.child other)).1) ∧
              after = back.flatMap fun other =>
                (RuleDirectory.loadFile tree (directory.child other)).1) ∧
      ∀ further target content, (target, content) ∈ bindings →
        ∃ rules', (file.withAlias further target).load = (rules', false) ∧
          Instances (bind bindings further content) rules' ∧
          ((∀ binding ∈ bindings, binding.1 ≠ further) →
            (∀ name, TakesOver bindings further content name →
              (winner? rules' name).map (·.title) = some content.title ∧
                (winner? rules name).map (·.title) ≠ some content.title) ∧
            (∀ name, ¬ TakesOver bindings further content name →
              winner? rules' name = winner? rules name) ∧
            ∀ before after config message asked,
              (∀ entry ∈ config.rules, ∀ name, entry.1 = .text name →
                ¬ TakesOver bindings further content name) →
              lint config (before ++ rules'.map (·.rule) ++ after) message asked =
                lint config (before ++ rules.map (·.rule) ++ after) message asked) := by
  obtain ⟨rules, loaded, instances⟩ := load_instances reached constructible
  refine ⟨rules, loaded, instances, fun binding => isCandidate_iff reached,
    fun rule => instances.mem_iff, instances.titles constructible, ?apart,
    instances.nodup_iff constructible (bindings_distinct reached),
    fun name rule => instances.winner?_iff constructible, ?directory, ?further⟩
  case apart =>
    intro first among second among' candidate candidate'
    exact eq_of_title reached among among' candidate candidate'
  case directory =>
    intro tree directory front back name content described there cut held
    have around := RuleDirectory.load_around there cut held
    rw [described, loaded] at around
    exact ⟨_, _, around, rfl, rfl⟩
  case further =>
    intro further target content given
    obtain ⟨rules', loaded', instances'⟩ := load_instances (bindings?_withAlias reached given)
      (isConstructible_bind constructible given)
    refine ⟨rules', loaded', instances', fun fresh => ⟨fun name takes => ?_, fun name kept => ?_,
      fun before after config message asked free => lint_congr (fun entry among => ?_) asked⟩⟩
    · exact winner?_of_takesOver constructible given instances instances' takes
    · exact winner?_of_not_takesOver reached constructible given fresh instances instances' kept
    · refine lookup_between before after fun name key => ?_
      exact winner?_of_not_takesOver reached constructible given fresh instances instances'
        (free entry among name key)

/-- A class that has the name of its rule from a base that is not from the file. -/
def inheriting : RuleModule :=
  { empty with
    importsHeaderLength := true
    classes := [⟨"Own", .named "HeaderMaxLength", none, none, false⟩,
      ⟨"Helper", .nothing, some "helper", none, false⟩] }

open CharacterNames in
/-- The base and the class that is none of rules have no instances, and one more name for the class
with one leaves what is looked up. -/
theorem load_per_binding_inheriting :
    ∃ rules, inheriting.load = (rules, false) ∧ rules.map (·.title) = ["Own"] ∧
      (∀ rule ∈ rules, rule.rule.name = "header-max-length") ∧
      ∃ rules', (inheriting.withAlias "Also" "Own").load = (rules', false) ∧
        ∀ name, winner? rules' name = winner? rules name := by
  let own := derive headerLengthClass ⟨"Own", .named "HeaderMaxLength", none, none, false⟩
  let helper := derive nothingClass ⟨"Helper", .nothing, some "helper", none, false⟩
  let bindings : Bindings := [("Helper", helper), ("Own", own), ("_Rule", ruleClass),
    ("HeaderMaxLength", headerLengthClass)]
  have reached : inheriting.bindings? = some bindings := by rfl
  have only : ∀ binding ∈ bindings, binding.2.isCandidate = true → binding = ("Own", own) := by
    simp [bindings, own, helper, Defined.isCandidate, derive, nothingClass, ruleClass,
      headerLengthClass]
  have constructible : IsConstructible bindings := by
    intro binding among candidate
    rw [only binding among candidate]
    exact ⟨_, rfl⟩
  obtain ⟨rules, loaded, -, -, members, titles, -, -, -, -, further⟩ :=
    load_per_binding reached constructible
  obtain ⟨rules', loaded', -, compared⟩ := further "Also" "Own" own (by simp [bindings])
  obtain ⟨-, kept, -⟩ := compared (by simp [bindings])
  refine ⟨rules, loaded, List.perm_singleton.mp titles, fun rule among => ?_, rules', loaded',
    fun name => kept name ?_⟩
  · obtain ⟨binding, listed, candidate, built⟩ := (members rule).mp among
    rw [only binding listed candidate] at built
    cases built
    rfl
  · rintro ⟨-, label, other, last, -, apart⟩
    cases only _ last.bound last.offers.candidate
    exact apart rfl

/-- Two classes whose rules have the same name. -/
def rivals : RuleModule :=
  { empty with
    classes := [⟨"A", .rule, some "r", some (.fail (some "one")), false⟩,
      ⟨"B", .rule, some "r", some (.fail (some "two")), false⟩] }

/-- A further name for a class makes a second instance of it, and can take a rule from another
class. -/
theorem load_doubled :
    (∃ bindings, (rivals.withAlias "Z" "A").bindings? = some bindings ∧
        IsConstructible bindings) ∧
      (rivals.load.1.map (·.title)).Perm ["B", "A"] ∧
      ((rivals.withAlias "Z" "A").load.1.map (·.title)).Perm ["A", "B", "A"] ∧
      (winner? rivals.load.1 "r").map (·.title) = some "B" ∧
      (winner? (rivals.withAlias "Z" "A").load.1 "r").map (·.title) = some "A" := by
  let a := derive ruleClass ⟨"A", .rule, some "r", some (.fail (some "one")), false⟩
  let b := derive ruleClass ⟨"B", .rule, some "r", some (.fail (some "two")), false⟩
  let bindings : Bindings := [("B", b), ("A", a), ("_Rule", ruleClass)]
  have reached : rivals.bindings? = some bindings := by rfl
  have given : ("A", a) ∈ bindings := by simp [bindings]
  have reached' : (rivals.withAlias "Z" "A").bindings? = some (bind bindings "Z" a) :=
    bindings?_withAlias reached given
  have constructible : IsConstructible bindings := by
    simp [IsConstructible, bindings, a, b, derive, construct?, ruleClass, Defined.isCandidate]
  have constructible' : IsConstructible (bind bindings "Z" a) :=
    isConstructible_bind constructible given
  obtain ⟨rules, loaded, instances⟩ := load_instances reached constructible
  obtain ⟨rules', loaded', instances'⟩ := load_instances reached' constructible'
  have last : IsLast bindings "r" "B" b := by
    refine ⟨by simp [bindings], ⟨rfl, rfl⟩, fun other among offered => ?_⟩
    simp only [bindings, List.mem_cons, List.not_mem_nil, or_false] at among
    rcases among with rfl | rfl | rfl
    · exact le_rfl
    · exact (show "A" < "B" by decide).le
    · cases offered.candidate
  have takes : TakesOver bindings "Z" a "r" :=
    ⟨⟨rfl, rfl⟩, "B", b, last, by decide, by decide⟩
  rw [loaded, loaded']
  refine ⟨⟨_, reached', constructible'⟩, instances.titles constructible,
    instances'.titles constructible', instances.title_of_last constructible last, ?_⟩
  exact (winner?_of_takesOver constructible given instances instances' takes).1

end RuleModule

end CommitLint
