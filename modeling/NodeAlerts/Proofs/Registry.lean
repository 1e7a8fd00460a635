import NodeAlerts.Config.Registry

/-!
# The registry as a map with one owner per chain

The registry has two tables, the configurations of the chain names and the owners of the chains, and
every change touches both.  `Registry.Owned` says that they fit: a chain belongs to a name if and
only if the name is configured for it.  This holds of the registry without configurations and is
kept by installing and removing.  Under it no chain is configured under two names (`Owned.unique`),
and the configuration in force for a chain is the one that names it (`configFor?_eq_some_iff`), as
it is changed by `configFor?_install` and `configFor?_remove`.
-/

namespace NodeAlerts.Registry

/-- A chain belongs to the name that is configured for it, and to no other. -/
def Owned (r : Registry) : Prop :=
  ∀ name parentId, r.ownerOf? parentId = some name ↔ r.parentOf? name = some parentId

/-! ## Owners -/

theorem parentOf?_eq_some_iff {r : Registry} {name parentId : String} :
    r.parentOf? name = some parentId ↔
      ∃ config, r.config? name = some config ∧ config.parentId = parentId :=
  Option.map_eq_some_iff

theorem ownerOf?_eq_some_iff {r : Registry} (hr : r.Owned) {name parentId : String} :
    r.ownerOf? parentId = some name ↔ r.parentOf? name = some parentId :=
  hr name parentId

/-- No chain is configured under two names. -/
theorem Owned.unique {r : Registry} (hr : r.Owned) {name name' parentId : String}
    (h : r.parentOf? name = some parentId) (h' : r.parentOf? name' = some parentId) :
    name = name' :=
  Option.some.inj (((hr name parentId).2 h).symm.trans ((hr name' parentId).2 h'))

/-- A chain without an owner is configured under no name. -/
theorem ownerOf?_eq_none_iff {r : Registry} (hr : r.Owned) {parentId : String} :
    r.ownerOf? parentId = none ↔ ∀ name, r.parentOf? name ≠ some parentId := by
  simp only [Option.eq_none_iff_forall_ne_some, Ne, ownerOf?_eq_some_iff hr]

theorem configFor?_eq_some_iff {r : Registry} (hr : r.Owned) {parentId : String}
    {config : ChainConfig} :
    r.configFor? parentId = some config ↔
      ∃ name, r.config? name = some config ∧ config.parentId = parentId := by
  constructor
  · intro h
    obtain ⟨name, howner, hconfig⟩ := Option.bind_eq_some_iff.1 h
    obtain ⟨config', hconfig', hparent⟩ :=
      parentOf?_eq_some_iff.1 ((ownerOf?_eq_some_iff hr).1 howner)
    rw [hconfig] at hconfig'
    cases hconfig'
    exact ⟨name, hconfig, hparent⟩
  · rintro ⟨name, hconfig, hparent⟩
    have howner : r.ownerOf? parentId = some name :=
      (ownerOf?_eq_some_iff hr).2 (parentOf?_eq_some_iff.2 ⟨config, hconfig, hparent⟩)
    exact Option.bind_eq_some_iff.2 ⟨name, howner, hconfig⟩

/-! ## Removing -/

@[simp] theorem config?_empty (name : String) : empty.config? name = none := rfl

theorem remove_of_none {r : Registry} {name : String} (h : r.config? name = none) :
    r.remove name = r := by
  rw [remove, h]

theorem remove_of_some {r : Registry} {name : String} {config : ChainConfig}
    (h : r.config? name = some config) :
    r.remove name = ⟨r.configs.erase name, r.owners.erase config.parentId⟩ := by
  rw [remove, h]

theorem config?_remove (r : Registry) (name other : String) :
    (r.remove name).config? other = if other = name then none else r.config? other := by
  cases h : r.config? name with
  | none =>
      rw [remove_of_none h]
      by_cases hn : other = name
      · rw [if_pos hn, hn, h]
      · rw [if_neg hn]
  | some config =>
      rw [remove_of_some h]
      exact Table.get?_erase r.configs name other

theorem parentOf?_remove (r : Registry) (name other : String) :
    (r.remove name).parentOf? other = if other = name then none else r.parentOf? other := by
  rw [parentOf?, config?_remove]
  split <;> rfl

theorem ownerOf?_remove (r : Registry) (name p : String) :
    (r.remove name).ownerOf? p = if r.parentOf? name = some p then none else r.ownerOf? p := by
  cases h : r.config? name with
  | none => rw [remove_of_none h, parentOf?, h, Option.map_none, if_neg (by simp)]
  | some config =>
      rw [remove_of_some h, parentOf?, h, Option.map_some]
      simp only [Option.some.injEq, eq_comm (a := config.parentId)]
      exact Table.get?_erase r.owners config.parentId p

@[simp] theorem remove_remove (r : Registry) (name : String) :
    (r.remove name).remove name = r.remove name :=
  remove_of_none ((config?_remove r name name).trans (if_pos rfl))

/-! ## Installing -/

theorem config?_put (r : Registry) (name : String) (config : ChainConfig) (other : String) :
    (r.put name config).config? other = if other = name then some config else r.config? other := by
  rw [put, config?, Table.get?_insert]
  by_cases hn : other = name
  · rw [if_pos hn, if_pos hn]
  · rw [if_neg hn, if_neg hn]
    exact (config?_remove r name other).trans (if_neg hn)

theorem ownerOf?_put (r : Registry) (name : String) (config : ChainConfig) (p : String) :
    (r.put name config).ownerOf? p =
      if p = config.parentId then some name
      else if r.parentOf? name = some p then none else r.ownerOf? p := by
  rw [put, ownerOf?, Table.get?_insert, ← ownerOf?_remove]
  rfl

/-- To put a configuration in force twice is to do it once. -/
@[simp] theorem put_put (r : Registry) (name : String) (config : ChainConfig) :
    (r.put name config).put name config = r.put name config := by
  have hself : (r.put name config).config? name = some config := by
    rw [config?_put, if_pos rfl]
  rw [put, remove_of_some hself]
  simp only [put, Table.insert_erase_insert]

/-- A configuration is accepted unless another name owns its chain. -/
theorem install_eq_ok {r r' : Registry} {name : String} {config : ChainConfig}
    (h : r.install name config = .ok r') :
    (∀ owner, r.ownerOf? config.parentId = some owner → owner = name) ∧
      r' = r.put name config := by
  rw [install] at h
  cases ho : r.ownerOf? config.parentId with
  | none => rw [ho] at h; cases h; exact ⟨by simp, rfl⟩
  | some owner =>
      rw [ho] at h
      by_cases hn : owner = name
      · simp only [if_pos hn] at h
        cases h
        exact ⟨by simp [hn], rfl⟩
      · simp only [if_neg hn] at h
        cases h

theorem install_of_free {r : Registry} {name : String} {config : ChainConfig}
    (h : ∀ owner, r.ownerOf? config.parentId = some owner → owner = name) :
    r.install name config = .ok (r.put name config) := by
  rw [install]
  cases ho : r.ownerOf? config.parentId with
  | none => rfl
  | some owner => exact if_pos (h owner ho)

theorem install_of_taken {r : Registry} {name owner : String} {config : ChainConfig}
    (ho : r.ownerOf? config.parentId = some owner) (hne : owner ≠ name) :
    r.install name config = .error (.parentTaken config.parentId owner) := by
  rw [install, ho]
  exact if_neg hne

theorem config?_install {r r' : Registry} {name : String} {config : ChainConfig}
    (h : r.install name config = .ok r') (other : String) :
    r'.config? other = if other = name then some config else r.config? other := by
  rw [(install_eq_ok h).2]
  exact config?_put r name config other

theorem parentOf?_install {r r' : Registry} {name : String} {config : ChainConfig}
    (h : r.install name config = .ok r') (other : String) :
    r'.parentOf? other = if other = name then some config.parentId else r.parentOf? other := by
  rw [parentOf?, config?_install h]
  split <;> rfl

/-! ## The tables fit -/

theorem owned_empty : empty.Owned := by
  intro name parentId
  exact iff_of_false (by simp [ownerOf?, empty]) (by simp [parentOf?])

theorem Owned.remove {r : Registry} (hr : r.Owned) (name : String) : (r.remove name).Owned := by
  intro other p
  rw [ownerOf?_remove, parentOf?_remove]
  by_cases hp : r.parentOf? name = some p
  · rw [if_pos hp]
    by_cases hn : other = name
    · rw [if_pos hn]
      exact iff_of_false nofun nofun
    · rw [if_neg hn]
      exact iff_of_false nofun fun h => hn (hr.unique h hp)
  · rw [if_neg hp, hr]
    by_cases hn : other = name
    · rw [if_pos hn, hn]
      exact iff_of_false hp nofun
    · rw [if_neg hn]

theorem Owned.install {r r' : Registry} (hr : r.Owned) {name : String} {config : ChainConfig}
    (h : r.install name config = .ok r') : r'.Owned := by
  obtain ⟨hfree, rfl⟩ := install_eq_ok h
  intro other p
  rw [ownerOf?_put, parentOf?_install h]
  by_cases hp : p = config.parentId
  · rw [if_pos hp, Option.some.injEq]
    by_cases hn : other = name
    · rw [if_pos hn, hp]
      exact iff_of_true hn.symm rfl
    · rw [if_neg hn]
      refine iff_of_false (Ne.symm hn) fun ho => hn (hfree other ?_)
      rw [← hp]
      exact (hr other p).2 ho
  · rw [if_neg hp, ← ownerOf?_remove, hr.remove name, parentOf?_remove]
    by_cases hn : other = name
    · rw [if_pos hn, if_pos hn, Option.some.injEq]
      exact iff_of_false nofun (Ne.symm hp)
    · rw [if_neg hn, if_neg hn]

/-! ## The configuration in force -/

/-- Removing a name takes the configuration of its chain out of force, and no other. -/
theorem configFor?_remove {r : Registry} (hr : r.Owned) (name p : String) :
    (r.remove name).configFor? p = if r.parentOf? name = some p then none else r.configFor? p := by
  ext config
  rw [configFor?_eq_some_iff (hr.remove name)]
  by_cases hp : r.parentOf? name = some p
  · rw [if_pos hp]
    constructor
    · rintro ⟨other, hother, hparent⟩
      rw [config?_remove] at hother
      by_cases hn : other = name
      · rw [if_pos hn] at hother
        cases hother
      · rw [if_neg hn] at hother
        exact absurd (hr.unique (parentOf?_eq_some_iff.2 ⟨config, hother, hparent⟩) hp) hn
    · intro h
      cases h
  · rw [if_neg hp, configFor?_eq_some_iff hr]
    constructor
    · rintro ⟨other, hother, hparent⟩
      rw [config?_remove] at hother
      by_cases hn : other = name
      · rw [if_pos hn] at hother
        cases hother
      · rw [if_neg hn] at hother
        exact ⟨other, hother, hparent⟩
    · rintro ⟨other, hother, hparent⟩
      have hn : other ≠ name := by
        rintro rfl
        exact hp (parentOf?_eq_some_iff.2 ⟨config, hother, hparent⟩)
      exact ⟨other, by rw [config?_remove, if_neg hn, hother], hparent⟩

/-- Installing puts a configuration in force for its chain; the chain that the name had before is
without one, and all others are as before. -/
theorem configFor?_install {r r' : Registry} (hr : r.Owned) {name : String} {config : ChainConfig}
    (h : r.install name config = .ok r') (p : String) :
    r'.configFor? p =
      if p = config.parentId then some config
      else if r.parentOf? name = some p then none else r.configFor? p := by
  ext k
  rw [configFor?_eq_some_iff (hr.install h)]
  have hself : r'.config? name = some config := by rw [config?_install h, if_pos rfl]
  have hother : ∀ other, other ≠ name → r'.config? other = r.config? other := fun other hn => by
    rw [config?_install h, if_neg hn]
  by_cases hp : p = config.parentId
  · rw [if_pos hp]
    constructor
    · rintro ⟨other, hconfig, hparent⟩
      have hn : other = name := (hr.install h).unique
        (parentOf?_eq_some_iff.2 ⟨k, hconfig, hparent⟩)
        (parentOf?_eq_some_iff.2 ⟨config, hself, hp.symm⟩)
      rw [hn, hself] at hconfig
      exact hconfig
    · intro hk
      cases hk
      exact ⟨name, hself, hp.symm⟩
  · rw [if_neg hp, ← configFor?_remove hr, configFor?_eq_some_iff (hr.remove name)]
    refine exists_congr fun other => and_congr_left fun hparent => ?_
    rw [config?_remove]
    by_cases hn : other = name
    · rw [if_pos hn, hn, hself]
      constructor
      · intro hk
        cases hk
        exact absurd hparent.symm hp
      · intro hk
        cases hk
    · rw [if_neg hn, hother other hn]

end NodeAlerts.Registry
