import CommitLint.Config.Overlay

/-!
# What cannot be laid over a configuration

A value is refused by every configuration or by none. It is refused when it
is no map, and when the rules that it has are true and yet no map. Rules that
are false count as none, be they null, an empty map or of any other kind.
-/

namespace CommitLint.Config

/-- Why a value is refused. -/
inductive Rejected : Value → ConfigFault → Prop where
  | shape {raw : Value} (flat : ∀ entries, raw ≠ .map entries) : Rejected raw .notMapping
  | rules {entries : Entries} {rules : Value} (named : entries.named? "rules" = some rules)
      (present : rules.isTrue = true) (flat : ∀ others, rules ≠ .map others) :
      Rejected (.map entries) .rulesNotMapping

section

variable {entries : Entries} {rules : Value}

theorem overlayRules_of_flat (named : entries.named? "rules" = some rules)
    (flat : ∀ others, rules ≠ .map others) :
    overlayRules entries = if rules.isTrue then .error .rulesNotMapping else .ok [] := by
  rw [overlayRules, named]
  cases rules with
  | map others => exact absurd rfl (flat others)
  | _ => rfl

/-- What is false counts as no rules, whatever it is. -/
theorem overlayRules_of_false (named : entries.named? "rules" = some rules)
    (blank : rules.isTrue = false) : overlayRules entries = .ok [] := by
  cases rules with
  | map others =>
      rw [overlayRules, named]
      simpa [Value.isTrue] using blank
  | _ =>
      rw [overlayRules_of_flat named nofun, blank]
      rfl

theorem overlay_of_overlayRules {others : Entries} (taken : overlayRules entries = .ok others)
    (base : Config) :
    ∃ config, overlay (.map entries) base = .ok config ∧
      config.value.rules = base.rules.update others := by
  rw [overlay, taken]
  exact ⟨_, rfl, rfl⟩

end

theorem overlay_of_rejected {raw : Value} {fault : ConfigFault} (rejected : Rejected raw fault)
    (base : Config) : overlay raw base = .error fault := by
  cases rejected with
  | shape flat =>
      cases raw with
      | map entries => exact absurd rfl (flat entries)
      | _ => rfl
  | rules named present flat =>
      rw [overlay, overlayRules_of_flat named flat, present]
      rfl

/-- Only a map is accepted. -/
theorem overlay_eq_ok {raw : Value} {base : Config} {config : Logged Config}
    (done : overlay raw base = .ok config) : ∃ entries, raw = .map entries := by
  cases raw with
  | map entries => exact ⟨entries, rfl⟩
  | _ => cases done

/-- What is not refused is accepted. -/
theorem overlay_cases (raw : Value) (base : Config) :
    (∃ config, overlay raw base = .ok config) ∨ ∃ fault, Rejected raw fault := by
  have accepted : ∀ entries others, overlayRules entries = .ok others →
      ∃ config, overlay (.map entries) base = .ok config := by
    intro entries others taken
    obtain ⟨config, done, -⟩ := overlay_of_overlayRules taken base
    exact ⟨config, done⟩
  cases raw with
  | map entries =>
      cases named : Entries.named? entries "rules" with
      | none => exact .inl (accepted entries [] (by rw [overlayRules, named]))
      | some rules =>
          cases present : rules.isTrue with
          | false => exact .inl (accepted entries [] (overlayRules_of_false named present))
          | true =>
              cases rules with
              | map others => exact .inl (accepted entries others (by rw [overlayRules, named]))
              | _ => exact .inr ⟨_, .rules named present nofun⟩
  | _ => exact .inr ⟨_, .shape nofun⟩

/--
A value is laid over a configuration, whichever it is, unless there is a
reason to refuse the value, which is then the fault. Rules that are false are
no reason, and leave the rules of the configuration as they are.
-/
theorem overlay_eq_error_iff_rejected (raw : Value) (base : Config) :
    (∀ fault, overlay raw base = .error fault ↔ Rejected raw fault) ∧
    ((∃ config, overlay raw base = .ok config) ↔ ∀ fault, ¬ Rejected raw fault) ∧
    ∀ (entries : Entries) (rules : Value), raw = .map entries →
      entries.named? "rules" = some rules → rules.isTrue = false →
      ∃ config, overlay raw base = .ok config ∧ config.value.rules = base.rules := by
  refine ⟨fun fault => ⟨fun failed => ?_, (overlay_of_rejected · base)⟩,
    ⟨?_, fun unrejected => ?_⟩, ?_⟩
  · rcases overlay_cases raw base with ⟨config, done⟩ | ⟨other, rejected⟩
    · cases done.symm.trans failed
    · cases (overlay_of_rejected rejected base).symm.trans failed
      exact rejected
  · rintro ⟨config, done⟩ fault rejected
    cases done.symm.trans (overlay_of_rejected rejected base)
  · rcases overlay_cases raw base with accepted | ⟨fault, rejected⟩
    · exact accepted
    · exact absurd rejected (unrejected fault)
  · rintro entries rules rfl named blank
    exact overlay_of_overlayRules (overlayRules_of_false named blank) base

/-- An empty list is no map and not null, and yet it is taken for no rules. -/
theorem overlay_accepts_empty_list :
    let raw : Entries := [(.text "rules", .list [])]
    raw.named? "rules" = some (.list []) ∧ Value.list [] ≠ .null ∧
      (∀ others, Value.list [] ≠ .map others) ∧
      ∃ config, overlay (.map raw) default = .ok config ∧ config.value.rules = default.rules :=
  ⟨rfl, nofun, nofun, _, rfl, rfl⟩

end CommitLint.Config
