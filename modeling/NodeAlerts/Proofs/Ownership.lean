import Mathlib.Logic.Function.Basic
import NodeAlerts.Proofs.Registry

/-!
# The registry answers like one map

Configurations are looked up in two directions, by chain name and by chain, and the registry keeps a
table for each.  `Registry.Assignment` is what it is meant to be: one map from chain names to the
configurations that were put in force last.  A change of an assignment (`Assignment.Changes`) knows
nothing of owners; a configuration is refused exactly when another name holds its chain.

`Registry.changes_iff` says that one change of the registry is this change of its assignment, with
the same answer, and `Registry.run_iff` says it of any number of changes.  Both rest on the
invariant `Registry.Owned`, that the two tables fit; `registry_answers_like_one_map` draws the
conclusions for every sequence of changes of an empty registry.
-/

namespace NodeAlerts

namespace Registry

/-! ## Changes -/

/-- What can be asked of a registry. -/
inductive Change where
  /-- To put a configuration in force for a chain name. -/
  | install (name : String) (config : ChainConfig)
  /-- To take the configuration of a chain name out of force. -/
  | remove (name : String)

/-- The answer to a change. -/
def answer (r : Registry) : Change → Except ConfigError Registry
  | .install name config => r.install name config
  | .remove name => .ok (r.remove name)

/-- The error of a change that is refused. -/
def refusal (r : Registry) (c : Change) : Option ConfigError :=
  match r.answer c with
  | .ok _ => none
  | .error e => some e

/-- The registry after a change; one that is refused leaves it as it is. -/
def change (r : Registry) (c : Change) : Registry :=
  match r.answer c with
  | .ok changed => changed
  | .error _ => r

/-- The registry after changes, one after another. -/
def replay (r : Registry) (changes : List Change) : Registry := changes.foldl change r

/-- The registry after changes, where no configuration is in force at first. -/
def after (changes : List Change) : Registry := empty.replay changes

/-- The errors of the changes, one after another. -/
def refusals (r : Registry) : List Change → List (Option ConfigError)
  | [] => []
  | c :: rest => r.refusal c :: (r.change c).refusals rest

/-! ## One map -/

/-- The configurations in force as one map from chain names. -/
abbrev Assignment := String → Option ChainConfig

namespace Assignment

/-- No configuration is in force. -/
def empty : Assignment := fun _ => none

/-- A chain name has a configuration for a chain. -/
def Holds (f : Assignment) (name parentId : String) : Prop :=
  ∃ config, f name = some config ∧ config.parentId = parentId

/-- What a change makes of an assignment, with the error of one that is refused. -/
inductive Changes (f : Assignment) : Change → Option ConfigError → Assignment → Prop where
  /-- A configuration for a chain that no other name holds is put in force. -/
  | installed {name : String} {config : ChainConfig}
      (hfree : ∀ other, f.Holds other config.parentId → other = name) :
      Changes f (.install name config) none (Function.update f name (some config))
  /-- A configuration for a chain that another name holds is refused. -/
  | refused {name owner : String} {config : ChainConfig}
      (howner : f.Holds owner config.parentId) (hne : owner ≠ name) :
      Changes f (.install name config) (some (.parentTaken config.parentId owner)) f
  /-- A configuration is taken out of force. -/
  | removed {name : String} : Changes f (.remove name) none (Function.update f name none)

/-- What changes make of an assignment one after another, with the error of each. -/
inductive Run : Assignment → List Change → List (Option ConfigError) → Assignment → Prop where
  /-- Nothing is changed. -/
  | nil {f : Assignment} : Run f [] [] f
  /-- One change comes before the others. -/
  | cons {f g k : Assignment} {c : Change} {rest : List Change} {e : Option ConfigError}
      {errors : List (Option ConfigError)} (hfirst : f.Changes c e g)
      (hrest : Run g rest errors k) : Run f (c :: rest) (e :: errors) k

end Assignment

/-! ## One change -/

variable {r : Registry}

theorem holds_config?_iff {name parentId : String} :
    Assignment.Holds r.config? name parentId ↔ r.parentOf? name = some parentId :=
  parentOf?_eq_some_iff.symm

/-- A change is accepted, or it would give a chain a second owner. -/
theorem answer_cases (c : Change) :
    (∃ changed, r.answer c = .ok changed ∧ r.refusal c = none ∧ r.change c = changed) ∨
    ∃ e, r.answer c = .error e ∧ r.refusal c = some e ∧ r.change c = r := by
  cases h : r.answer c with
  | ok changed => exact Or.inl ⟨changed, rfl, by rw [refusal, h], by rw [change, h]⟩
  | error e => exact Or.inr ⟨e, rfl, by rw [refusal, h], by rw [change, h]⟩

theorem change_of_refusal {c : Change} (h : r.refusal c ≠ none) : r.change c = r := by
  obtain ⟨_, -, hnone, -⟩ | ⟨_, -, -, hsame⟩ := r.answer_cases c
  · exact absurd hnone h
  · exact hsame

theorem Owned.change (hr : r.Owned) (c : Change) : (r.change c).Owned := by
  obtain ⟨changed, hanswer, -, hchanged⟩ | ⟨e, -, -, hsame⟩ := r.answer_cases c
  · rw [hchanged]
    cases c with
    | install name config => exact hr.install hanswer
    | remove name =>
        cases hanswer
        exact hr.remove name
  · rw [hsame]
    exact hr

theorem config?_install_eq_update {r' : Registry} {name : String} {config : ChainConfig}
    (h : r.install name config = .ok r') :
    r'.config? = Function.update r.config? name (some config) := by
  funext other
  rw [config?_install h, Function.update_apply]

theorem config?_remove_eq_update (name : String) :
    (r.remove name).config? = Function.update r.config? name none := by
  funext other
  rw [config?_remove, Function.update_apply]

/-- The registry answers a change as its assignment does. -/
theorem changes_config? (hr : r.Owned) (c : Change) :
    Assignment.Changes r.config? c (r.refusal c) (r.change c).config? := by
  cases c with
  | remove name =>
      have hupdate := r.config?_remove_eq_update name
      exact hupdate ▸ .removed
  | install name config =>
      cases howner : r.ownerOf? config.parentId with
      | none =>
          have hfree : ∀ other, r.ownerOf? config.parentId = some other → other = name := by
            simp [howner]
          have hinstall := install_of_free hfree
          rw [refusal, change, answer, hinstall, config?_install_eq_update hinstall]
          exact .installed fun other h => hfree other ((hr other _).2 (holds_config?_iff.1 h))
      | some owner =>
          by_cases hn : owner = name
          · have hfree : ∀ other, r.ownerOf? config.parentId = some other → other = name := by
              intro other hother
              rw [← hn]
              exact Option.some.inj (hother.symm.trans howner)
            have hinstall := install_of_free hfree
            rw [refusal, change, answer, hinstall, config?_install_eq_update hinstall]
            exact .installed fun other h => hfree other ((hr other _).2 (holds_config?_iff.1 h))
          · rw [refusal, change, answer, install_of_taken howner hn]
            exact .refused (holds_config?_iff.2 ((hr owner _).1 howner)) hn

/-- A change of an assignment in which no chain has two names has one outcome. -/
theorem Assignment.Changes.unique {f g k : Assignment} {c : Change} {e d : Option ConfigError}
    (hf : ∀ name name' p, f.Holds name p → f.Holds name' p → name = name')
    (h : f.Changes c e g) (h' : f.Changes c d k) : e = d ∧ g = k := by
  cases h with
  | installed hfree =>
      cases h' with
      | installed => exact ⟨rfl, rfl⟩
      | refused howner hne => exact absurd (hfree _ howner) hne
  | refused howner hne =>
      cases h' with
      | installed hfree => exact absurd (hfree _ howner) hne
      | refused howner' hne' => exact ⟨by rw [hf _ _ _ howner howner'], rfl⟩
  | removed =>
      cases h' with
      | removed => exact ⟨rfl, rfl⟩

/-- **A change of the registry is a change of one map.** -/
theorem changes_iff (hr : r.Owned) {c : Change} {e : Option ConfigError} {g : Assignment} :
    Assignment.Changes r.config? c e g ↔ e = r.refusal c ∧ g = (r.change c).config? := by
  constructor
  · intro h
    refine h.unique (fun name name' p hname hname' => ?_) (changes_config? hr c)
    exact hr.unique (holds_config?_iff.1 hname) (holds_config?_iff.1 hname')
  · rintro ⟨rfl, rfl⟩
    exact changes_config? hr c

/-! ## Many changes -/

theorem Owned.replay (hr : r.Owned) (changes : List Change) : (r.replay changes).Owned := by
  induction changes generalizing r with
  | nil => exact hr
  | cons c rest ih => exact ih (hr.change c)

/-- **Changes of the registry are changes of one map.** -/
theorem run_iff (hr : r.Owned) {changes : List Change} {errors : List (Option ConfigError)}
    {f : Assignment} :
    Assignment.Run r.config? changes errors f ↔
      errors = r.refusals changes ∧ f = (r.replay changes).config? := by
  induction changes generalizing r errors with
  | nil =>
      constructor
      · intro h
        cases h
        exact ⟨rfl, rfl⟩
      · rintro ⟨rfl, rfl⟩
        exact .nil
  | cons c rest ih =>
      constructor
      · intro h
        cases h with
        | cons hfirst hrest =>
            obtain ⟨rfl, rfl⟩ := (changes_iff hr).1 hfirst
            obtain ⟨rfl, rfl⟩ := (ih (hr.change c)).1 hrest
            exact ⟨rfl, rfl⟩
      · rintro ⟨rfl, rfl⟩
        exact .cons (changes_config? hr c) ((ih (hr.change c)).2 ⟨rfl, rfl⟩)

/-! ## Chains that are left -/

/-- A chain that its name leaves, because it is removed or configured for another chain, belongs to
no name. -/
theorem ownerOf?_change_of_left {name p : String} (hp : r.parentOf? name = some p) {c : Change}
    (hc : c = .remove name ∨
      ∃ config, c = .install name config ∧ config.parentId ≠ p ∧ r.refusal c = none) :
    (r.change c).ownerOf? p = none := by
  obtain rfl | ⟨config, rfl, hne, haccepted⟩ := hc
  · show (r.remove name).ownerOf? p = none
    rw [ownerOf?_remove, if_pos hp]
  · obtain ⟨changed, hanswer, -, hchanged⟩ | ⟨e, -, herror, -⟩ :=
      r.answer_cases (.install name config)
    · rw [hchanged, (install_eq_ok hanswer).2, ownerOf?_put, if_neg (Ne.symm hne), if_pos hp]
    · rw [haccepted] at herror
      cases herror

/-- A chain without an owner may be configured under any name. -/
theorem refusal_of_ownerOf?_eq_none {name : String} {config : ChainConfig}
    (h : r.ownerOf? config.parentId = none) : r.refusal (.install name config) = none := by
  rw [refusal, answer, install_of_free (by simp [h])]

end Registry

/-- **The registry answers like one map.**  Make any changes to an empty registry.

* Its answers and its configurations are those of one map from chain names to the configurations put
  in force last, in which a configuration is refused exactly when another name holds its chain.
* A chain belongs to a name if and only if the name is configured for it, so no two names have one
  chain, and the configuration in force for a chain is the one of its owner, or none.
* A change that is refused changes nothing.
* A chain that its name leaves is free: it has no configuration in force, and every name may be
  configured for it. -/
theorem registry_answers_like_one_map (changes : List Registry.Change) :
    (∀ errors f, Registry.Assignment.Run Registry.Assignment.empty changes errors f ↔
      errors = Registry.empty.refusals changes ∧ f = (Registry.after changes).config?) ∧
    (∀ p name, (Registry.after changes).ownerOf? p = some name ↔
      (Registry.after changes).parentOf? name = some p) ∧
    (∀ name name' p, (Registry.after changes).parentOf? name = some p →
      (Registry.after changes).parentOf? name' = some p → name = name') ∧
    (∀ p config, (Registry.after changes).configFor? p = some config ↔
      ∃ name, (Registry.after changes).config? name = some config ∧ config.parentId = p) ∧
    (∀ c, (Registry.after changes).refusal c ≠ none →
      (Registry.after changes).change c = Registry.after changes) ∧
    ∀ name p c, (Registry.after changes).parentOf? name = some p →
      (c = .remove name ∨ ∃ config, c = .install name config ∧ config.parentId ≠ p ∧
        (Registry.after changes).refusal c = none) →
      ((Registry.after changes).change c).configFor? p = none ∧
        ∀ other config, config.parentId = p →
          ((Registry.after changes).change c).refusal (.install other config) = none := by
  have hr : (Registry.after changes).Owned := Registry.owned_empty.replay changes
  refine ⟨fun _ _ => Registry.run_iff Registry.owned_empty, fun p name => hr name p,
    fun _ _ _ => hr.unique, fun _ _ => Registry.configFor?_eq_some_iff hr,
    fun _ => Registry.change_of_refusal, ?_⟩
  intro name p c hp hc
  have hfree := Registry.ownerOf?_change_of_left hp hc
  refine ⟨by rw [Registry.configFor?, hfree]; rfl, ?_⟩
  rintro other config rfl
  exact Registry.refusal_of_ownerOf?_eq_none hfree

/-- A chain is refused to a second name until the first one is configured for another chain. -/
example :
    Registry.empty.refusals
        [.install "a" (.ofMetrics "hub" []), .install "b" (.ofMetrics "hub" []),
          .install "a" (.ofMetrics "net" []), .install "b" (.ofMetrics "hub" [])] =
      [none, some (.parentTaken "hub" "a"), none, none] := by
  decide +kernel

end NodeAlerts
