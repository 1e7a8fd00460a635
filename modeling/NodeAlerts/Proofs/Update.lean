import NodeAlerts.Alerter.Update
import NodeAlerts.Proofs.Registry
import NodeAlerts.Proofs.Store

/-!
# What a configuration message can do

A configuration message that is accepted either takes a name's configuration out of force or puts a
parsed one in force (`update_cases`); in both cases only the registry and the store change
(`applyConfig_eq`).  `reconfigured` lists the chains whose configuration an accepted message
replaces, removes or brings: nothing is remembered about their nodes afterwards, and all other
chains keep their nodes (`node?_applyConfig`) and their configuration (`configFor?_applyConfig`).
-/

namespace NodeAlerts.Alerter

variable {M : Type}

/-! ## Cases -/

/-- An accepted message removes a configuration or installs the one it carries. -/
theorem update_cases {a a' : Alerter M} {name : String} {payload : List UInt8}
    (h : a.update name payload = .ok a') :
    a' = a.uninstall name ∨
      ∃ document config, ChainConfig.ofDocument document = .ok (some config) ∧
        a.install name config = .ok a' := by
  rw [update] at h
  cases hv : Json.Value.readObject? payload with
  | none => rw [hv] at h; cases h
  | some document =>
      rw [hv] at h
      cases hd : ChainConfig.ofDocument document with
      | error e => simp only [hd] at h; cases h
      | ok parsed =>
          cases parsed with
          | none => simp only [hd] at h; cases h; exact Or.inl rfl
          | some config =>
              simp only [hd] at h
              cases hi : a.install name config with
              | error e => rw [hi] at h; cases h
              | ok a'' => rw [hi] at h; cases h; exact Or.inr ⟨document, config, hd, hi⟩

/-- The store without the chain that a name was configured for before, if that is another one. -/
def forgetPrevious (a : Alerter M) (name parentId : String) : Store M :=
  match a.registry.parentOf? name with
  | some previous => if previous = parentId then a.store else a.store.removeChain previous
  | none => a.store

theorem install_eq_ok {a a' : Alerter M} {name : String} {config : ChainConfig}
    (h : a.install name config = .ok a') :
    ∃ registry, a.registry.install name config = .ok registry ∧
      a' = { a with
        registry
        store := (a.forgetPrevious name config.parentId).resetChain config.parentId } := by
  rw [install] at h
  cases hr : a.registry.install name config with
  | error e => rw [hr] at h; cases h
  | ok registry => rw [hr] at h; cases h; exact ⟨registry, rfl, rfl⟩

/-- Only the registry and the store change. -/
theorem update_eq_ok {a a' : Alerter M} {name : String} {payload : List UInt8}
    (h : a.update name payload = .ok a') :
    a' = { a with registry := a'.registry, store := a'.store } := by
  rcases update_cases h with rfl | ⟨document, config, -, hi⟩
  · rfl
  · obtain ⟨registry, -, rfl⟩ := install_eq_ok hi
    rfl

theorem applyConfig_of_ok {a a' : Alerter M} {name : String} {payload : List UInt8}
    (h : a.update name payload = .ok a') : a.applyConfig name payload = a' := by
  rw [applyConfig, h]

theorem applyConfig_of_error {a : Alerter M} {name : String} {payload : List UInt8}
    {e : ProcessingError} (h : a.update name payload = .error e) :
    a.applyConfig name payload = a := by
  rw [applyConfig, h]

theorem applyConfig_eq (a : Alerter M) (name : String) (payload : List UInt8) :
    a.applyConfig name payload =
      { a with
        registry := (a.applyConfig name payload).registry
        store := (a.applyConfig name payload).store } := by
  cases h : a.update name payload with
  | error e => rw [applyConfig_of_error h]
  | ok a' => rw [applyConfig_of_ok h]; exact update_eq_ok h

/-! ## The chains concerned -/

/-- The chains whose configuration an accepted message changes: the one that the name was configured
for, and the one that it is configured for now. -/
def reconfigured (a : Alerter M) (name : String) (payload : List UInt8) : List String :=
  match a.update name payload with
  | .ok a' => (a.registry.parentOf? name).toList ++ (a'.registry.parentOf? name).toList
  | .error _ => []

theorem node?_forgetPrevious (a : Alerter M) (name parentId p o : String) :
    (a.forgetPrevious name parentId).node? p o =
      if a.registry.parentOf? name = some p ∧ p ≠ parentId then none else a.store.node? p o := by
  rw [forgetPrevious]
  cases hp : a.registry.parentOf? name with
  | none => simp
  | some previous =>
      by_cases hprev : previous = parentId
      · subst hprev
        by_cases h : previous = p <;> simp [h]
      · by_cases h : previous = p
        · subst h
          simp [hprev, Store.node?_removeChain]
        · simp [hprev, Store.node?_removeChain, h, Ne.symm h]

/-- **Changed chains are forgotten, the others untouched.** -/
theorem node?_applyConfig (a : Alerter M) (name : String) (payload : List UInt8) (p o : String) :
    (a.applyConfig name payload).store.node? p o =
      if p ∈ a.reconfigured name payload then none else a.store.node? p o := by
  cases h : a.update name payload with
  | error e => simp [applyConfig_of_error h, reconfigured, h]
  | ok a' =>
      simp only [applyConfig_of_ok h, reconfigured, h]
      rcases update_cases h with rfl | ⟨document, config, -, hi⟩
      · cases hp : a.registry.parentOf? name with
        | none => simp [uninstall, hp, Registry.parentOf?_remove]
        | some q => simp [uninstall, hp, Registry.parentOf?_remove, Store.node?_removeChain]
      · obtain ⟨registry, hr, rfl⟩ := install_eq_ok hi
        rw [Store.node?_resetChain, node?_forgetPrevious, Registry.parentOf?_install hr, if_pos rfl]
        cases hp : a.registry.parentOf? name with
        | none => simp
        | some q => grind

/-- **Other chains keep their configuration.** -/
theorem configFor?_applyConfig {a : Alerter M} (hr : a.registry.Owned) {name : String}
    {payload : List UInt8} {p : String} (hp : p ∉ a.reconfigured name payload) :
    (a.applyConfig name payload).registry.configFor? p = a.registry.configFor? p := by
  cases h : a.update name payload with
  | error e => rw [applyConfig_of_error h]
  | ok a' =>
      rw [applyConfig_of_ok h]
      simp only [reconfigured, h, List.mem_append, Option.mem_toList, not_or] at hp
      obtain ⟨hbefore, hnow⟩ := hp
      rcases update_cases h with rfl | ⟨document, config, -, hi⟩
      · exact (Registry.configFor?_remove hr name p).trans (if_neg hbefore)
      · obtain ⟨registry, hinstall, rfl⟩ := install_eq_ok hi
        rw [Registry.parentOf?_install hinstall, if_pos rfl] at hnow
        have hne : p ≠ config.parentId := fun h => hnow (by rw [h])
        rw [Registry.configFor?_install hr hinstall, if_neg hne, if_neg hbefore]

/-! ## Known chains -/

theorem hasChain_forgetPrevious (a : Alerter M) (name parentId p : String) :
    (a.forgetPrevious name parentId).hasChain p =
      if a.registry.parentOf? name = some p ∧ p ≠ parentId then false else a.store.hasChain p := by
  rw [forgetPrevious]
  cases hp : a.registry.parentOf? name with
  | none => simp
  | some previous =>
      by_cases hprev : previous = parentId
      · subst hprev
        by_cases h : previous = p <;> simp [h]
      · by_cases h : previous = p
        · subst h
          simp [hprev, Store.hasChain_removeChain]
        · simp [hprev, Store.hasChain_removeChain, h, Ne.symm h]

end NodeAlerts.Alerter
