import CommitLint.Config.Overlay
import CommitLint.Proofs.Value.Entries

/-!
# Chains of overlays

Maps laid over a configuration one after the other. Every setting of the
result comes from the last of them that has something to say about it, each
setting by a rule of its own: rules one by one, patterns only where they are
a list or null, the rest where the key is there. Laying the last map over the
result again changes nothing.
-/

namespace CommitLint

/-- What the last of some sources says, if any says something. -/
def lastOf {α β : Type} (value? : α → Option β) (sources : List α) : Option β :=
  (sources.filterMap value?).getLast?

theorem lastOf_cons {α β : Type} (value? : α → Option β) (first : α) (rest : List α) :
    lastOf value? (first :: rest) = (lastOf value? rest).or (value? first) := by
  rw [lastOf, List.filterMap_cons]
  cases value? first with
  | none => exact Option.or_none.symm
  | some value => rw [List.getLast?_cons, lastOf]; cases (rest.filterMap value?).getLast? <;> rfl

theorem lastOf_map {α β γ : Type} (value? : α → Option β) (change : β → γ) (sources : List α) :
    lastOf (fun source => (value? source).map change) sources =
      (lastOf value? sources).map change := by
  rw [lastOf, lastOf, ← List.getLast?_map, List.map_filterMap]

namespace Entries

/-- What several sources leave of a map: of every name, what the last one says about it. -/
theorem get?_foldl_update {sources : List Entries} (mapped : ∀ source ∈ sources, source.IsMap)
    (entries : Entries) (key : Value) :
    (sources.foldl update entries).get? key =
      (lastOf (·.get? key) sources).or (entries.get? key) := by
  induction sources generalizing entries with
  | nil => rfl
  | cons source rest ih =>
      obtain ⟨first, others⟩ := List.forall_mem_cons.mp mapped
      rw [List.foldl_cons, ih others, get?_update entries first, lastOf_cons, Option.or_assoc]

theorem names_foldl_update {entries : Entries} {sources : List Entries} (based : entries.IsMap)
    (mapped : ∀ source ∈ sources, source.IsMap) :
    (sources.foldl update entries).IsMap ∧ (sources.foldl update entries).names =
      (entries.names ++ sources.flatMap names).eraseDupsBy Value.same := by
  have joined : sources.foldl update entries = entries.update sources.flatten :=
    List.foldl_flatten.symm
  have hashable : ∀ entry ∈ sources.flatten, entry.1.keyFault? = none := by
    intro entry member
    obtain ⟨source, among, inside⟩ := List.mem_flatten.mp member
    exact (mapped source among).hashable entry inside
  have named : names sources.flatten = sources.flatMap names := List.map_flatten
  rw [joined, ← named]
  exact names_update based hashable

end Entries

namespace Config

/-- The rules of a map: what does not name any names none. -/
def ruleEntries (raw : Entries) : Entries :=
  match raw.named? "rules" with
  | some (.map rules) => rules
  | _ => []

/-- The patterns that a map has under a key, if they are a list or null. -/
def patterns? (key : String) (raw : Entries) : Option (List Value) :=
  match raw.named? key with
  | some .null => some []
  | some (.list items) => some (items.map fun item => .text item.display)
  | _ => none

/-- What a map makes of a configuration. -/
def laid (base : Config) (raw : Entries) : Config where
  verbose := .bool ((raw.named? "verbose").getD base.verbose).isTrue
  rules := base.rules.update (ruleEntries raw)
  ignores := (patterns? "ignores" raw).getD base.ignores
  defaultIgnores := (patterns? "default_ignores" raw).getD base.defaultIgnores
  customRulesDir := (raw.named? "custom_rules_dir").getD base.customRulesDir

/-- Lay maps over a configuration in turn. -/
def overlayAll (base : Config) (raws : List Entries) : Except ConfigFault Config :=
  raws.foldlM (fun config raw => (overlay (.map raw) config).map (·.value)) base

theorem patternList_value (raw : Entries) (key : String) (below : List Value) :
    (patternList raw key below).value = (patterns? key raw).getD below := by
  rw [patternList, patterns?]
  cases raw.named? key with
  | none => rfl
  | some value => cases value <;> rfl

theorem overlayRules_of_ok {raw rules : Entries} (accepted : overlayRules raw = .ok rules) :
    rules = ruleEntries raw := by
  rw [overlayRules] at accepted
  rw [ruleEntries]
  cases named : raw.named? "rules" with
  | none =>
      rw [named] at accepted
      cases accepted
      rfl
  | some value =>
      rw [named] at accepted
      cases value with
      | map entries =>
          cases accepted
          rfl
      | _ =>
          dsimp only at accepted
          split at accepted
          · cases accepted
          · cases accepted
            rfl

/-- A map that can be laid over one configuration can be laid over every one. -/
theorem overlay_of_accepted {raw : Entries}
    (accepted : ∃ below config, overlay (.map raw) below = .ok config) (base : Config) :
    ∃ events, overlay (.map raw) base = .ok ⟨laid base raw, events⟩ := by
  obtain ⟨below, config, done⟩ := accepted
  rw [overlay] at done
  cases taken : overlayRules raw with
  | error fault =>
      rw [taken] at done
      cases done
  | ok rules =>
      rw [overlay, taken, overlayRules_of_ok taken, laid, ← patternList_value, ← patternList_value]
      exact ⟨_, rfl⟩

theorem overlayAll_of_accepted {raws : List Entries}
    (accepted : ∀ raw ∈ raws, ∃ below config, overlay (.map raw) below = .ok config)
    (base : Config) : overlayAll base raws = .ok (raws.foldl laid base) := by
  induction raws generalizing base with
  | nil => rfl
  | cons raw rest ih =>
      obtain ⟨first, others⟩ := List.forall_mem_cons.mp accepted
      obtain ⟨events, done⟩ := overlay_of_accepted first base
      rw [overlayAll, List.foldlM_cons, done]
      exact ih others (laid base raw)

section Settings

variable (base : Config) (raws : List Entries)

theorem rules_foldl_laid :
    (raws.foldl laid base).rules = (raws.map ruleEntries).foldl Entries.update base.rules := by
  induction raws generalizing base with
  | nil => rfl
  | cons raw rest ih => exact ih (laid base raw)

/-- A setting that every map replaces or leaves is what the last map replaces it by. -/
theorem setting_foldl_laid {α : Type} (setting : Config → α) (value? : Entries → Option α)
    (replaced : ∀ base raw, setting (laid base raw) = (value? raw).getD (setting base)) :
    setting (raws.foldl laid base) = (lastOf value? raws).getD (setting base) := by
  induction raws generalizing base with
  | nil => rfl
  | cons raw rest ih =>
      rw [List.foldl_cons, ih, replaced, lastOf_cons]
      cases lastOf value? rest <;> rfl

/-- A truth value, as soon as a map is laid over the configuration. -/
theorem verbose_foldl_laid (laidOver : raws ≠ []) :
    (raws.foldl laid base).verbose =
      .bool ((lastOf (·.named? "verbose") raws).getD base.verbose).isTrue := by
  have truth := setting_foldl_laid base raws (fun config => config.verbose.isTrue)
    (fun raw => (raw.named? "verbose").map Value.isTrue)
    fun base raw => (Option.getD_map Value.isTrue _ _).symm
  rw [lastOf_map, Option.getD_map] at truth
  rw [← truth]
  obtain ⟨init, last, rfl⟩ := List.eq_nil_or_concat' raws |>.resolve_left laidOver
  rw [List.foldl_append]
  rfl

end Settings

/-- Laying the same map over a configuration twice is laying it over once. -/
theorem laid_laid {raw : Entries} (mapped : (ruleEntries raw).IsMap) (base : Config) :
    laid (laid base raw) raw = laid base raw := by
  have again : (base.rules.update (ruleEntries raw)).update (ruleEntries raw) =
      base.rules.update (ruleEntries raw) := by
    refine Entries.update_eq_self fun entry member => ?_
    rw [Entries.get?_update _ mapped, mapped.get?_of_mem member]
    rfl
  simp only [laid, again, Config.mk.injEq, true_and]
  refine ⟨?_, ?_, ?_, ?_⟩
  · cases raw.named? "verbose" <;> rfl
  · cases patterns? "ignores" raw <;> rfl
  · cases patterns? "default_ignores" raw <;> rfl
  · cases raw.named? "custom_rules_dir" <;> rfl

/--
Maps that can be laid over a configuration can be laid over it in turn. The
result has the rules of all of them, each name where it came first with the
entry of the last that names it; it is as verbose as the last that says so,
and has the directory and the two lists of patterns of the last that has
one. Laying the last map over it again changes nothing.
-/
theorem overlayAll_lastWriter (base : Config) {raws : List Entries} (laidOver : raws ≠ [])
    (based : base.rules.IsMap) (mapped : ∀ raw ∈ raws, (ruleEntries raw).IsMap)
    (accepted : ∀ raw ∈ raws, ∃ below config, overlay (.map raw) below = .ok config) :
    ∃ config, overlayAll base raws = .ok config ∧
      config.rules.IsMap ∧
      config.rules.names = (base.rules.names ++
        raws.flatMap fun raw => (ruleEntries raw).names).eraseDupsBy Value.same ∧
      (∀ key, config.rules.get? key =
        (lastOf (fun raw => (ruleEntries raw).get? key) raws).or (base.rules.get? key)) ∧
      config.verbose = .bool ((lastOf (·.named? "verbose") raws).getD base.verbose).isTrue ∧
      config.customRulesDir =
        (lastOf (·.named? "custom_rules_dir") raws).getD base.customRulesDir ∧
      config.ignores = (lastOf (patterns? "ignores") raws).getD base.ignores ∧
      config.defaultIgnores =
        (lastOf (patterns? "default_ignores") raws).getD base.defaultIgnores ∧
      ∀ last ∈ raws.getLast?, ∃ events, overlay (.map last) config = .ok ⟨config, events⟩ := by
  have sources : ∀ source ∈ raws.map ruleEntries, source.IsMap := List.forall_mem_map.mpr mapped
  obtain ⟨still, named⟩ := Entries.names_foldl_update based sources
  rw [← rules_foldl_laid] at still named
  refine ⟨raws.foldl laid base, overlayAll_of_accepted accepted base, still, ?_, ?_,
    verbose_foldl_laid base raws laidOver, ?_, ?_, ?_, ?_⟩
  · rw [named, List.flatMap_map]
  · intro key
    rw [rules_foldl_laid, Entries.get?_foldl_update sources, lastOf, lastOf, List.filterMap_map]
    rfl
  · exact setting_foldl_laid base raws (·.customRulesDir) _ fun _ _ => rfl
  · exact setting_foldl_laid base raws (·.ignores) _ fun _ _ => rfl
  · exact setting_foldl_laid base raws (·.defaultIgnores) _ fun _ _ => rfl
  · intro last final
    obtain ⟨init, rfl⟩ := List.getLast?_eq_some_iff.mp final
    have among : last ∈ init ++ [last] := List.mem_append_right _ List.mem_cons_self
    obtain ⟨events, done⟩ :=
      overlay_of_accepted (accepted last among) ((init ++ [last]).foldl laid base)
    refine ⟨events, done.trans ?_⟩
    rw [List.foldl_append, List.foldl_cons, List.foldl_nil, laid_laid (mapped last among)]

/-- A whole number and a truth value are one name, its text is another, and patterns that are no
list are passed over. -/
theorem overlayAll_lastWriter_equal_names :
    let first : Entries :=
      [(.text "rules", .map [(.int 1, .text "error"), (.text "1", .int 2)]),
        (.text "ignores", .list [.int 7]), (.text "verbose", .list [])]
    let second : Entries :=
      [(.text "rules", .map [(.bool true, .int 0)]), (.text "ignores", .text "x")]
    (∀ raw ∈ [first, second], (ruleEntries raw).IsMap) ∧
      (∀ raw ∈ [first, second], ∃ below config, overlay (.map raw) below = .ok config) ∧
      ∃ config, overlayAll default [first, second] = .ok config ∧
        config.rules.names = default.rules.names ++ [.int 1, .text "1"] ∧
        config.rules.get? (.int 1) = some (.int 0) ∧
        config.verbose = .bool false ∧ config.ignores = [.text "7"] := by
  intro first second
  have mapped : ∀ raw ∈ [first, second], (ruleEntries raw).IsMap := by
    simp only [first, second]
    decide +kernel
  have accepted : ∀ raw ∈ [first, second], ∃ below config, overlay (.map raw) below = .ok config :=
    List.forall_mem_cons.mpr ⟨⟨default, _, rfl⟩, List.forall_mem_singleton.mpr ⟨default, _, rfl⟩⟩
  have based : default.rules.IsMap := by decide +kernel
  obtain ⟨config, done, -, names, entries, verbose, -, ignores, -⟩ :=
    overlayAll_lastWriter default (List.cons_ne_nil first [second]) based mapped accepted
  exact ⟨mapped, accepted, config, done, names.trans rfl, (entries _).trans rfl,
    verbose.trans rfl, ignores.trans rfl⟩

end Config

end CommitLint
