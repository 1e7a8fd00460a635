import NodeAlerts.Proofs.Agreement

/-!
# Configuration messages are atomic, local and idempotent

What becomes of a configuration message is decided by what it says and by who owns the chain that it
names (`Alerter.Earns`): it is refused, it puts a configuration in force, or it takes one out of
force.  Each message has exactly one of these verdicts, and what then holds is
`Alerter.Holds`: a message that is refused changes nothing, not even in part.

Beside the configuration of its own chain name and the nodes of that name's old and new chain a
message changes nothing (`Alerter.Local`); it forgets, but never brings anything to be remembered
(`Alerter.Forgets`); and a message that comes twice does what it does once.  All this is
`configuration_atomic_local_idempotent`.  Its proof follows the verdicts: for each, the outcome of
`Alerter.update` is computed once, and every property is read off that outcome.
-/

namespace NodeAlerts

/-- What becomes of a configuration message. -/
inductive Verdict where
  /-- It is refused. -/
  | refused
  /-- It puts a configuration in force. -/
  | installed (config : ChainConfig)
  /-- It takes the configuration of its chain name out of force. -/
  | removed

namespace Alerter

open NodeAlerts.Json

variable {M : Type}

/-- The verdict on a configuration message. -/
inductive Earns (a : Alerter M) (name : String) (payload : List UInt8) : Verdict → Prop where
  /-- A payload that is no object is refused. -/
  | malformed (hread : Value.readObject? payload = none) : Earns a name payload .refused
  /-- An object that is no configuration is refused. -/
  | invalid {document : Object} {e : ConfigError}
      (hread : Value.readObject? payload = some document)
      (hdocument : ChainConfig.ofDocument document = .error e) : Earns a name payload .refused
  /-- A configuration for a chain that belongs to another name is refused. -/
  | taken {document : Object} {config : ChainConfig} {owner : String}
      (hread : Value.readObject? payload = some document)
      (hdocument : ChainConfig.ofDocument document = .ok (some config))
      (howner : a.registry.parentOf? owner = some config.parentId) (hne : owner ≠ name) :
      Earns a name payload .refused
  /-- A configuration for any other chain is put in force. -/
  | free {document : Object} {config : ChainConfig}
      (hread : Value.readObject? payload = some document)
      (hdocument : ChainConfig.ofDocument document = .ok (some config))
      (hfree : ∀ owner, a.registry.parentOf? owner = some config.parentId → owner = name) :
      Earns a name payload (.installed config)
  /-- A document without sections asks for the removal of the configuration. -/
  | empty {document : Object} (hread : Value.readObject? payload = some document)
      (hdocument : ChainConfig.ofDocument document = .ok none) : Earns a name payload .removed

/-- A chain is configured under no name, and nothing is remembered about it. -/
structure Unknown (a : Alerter M) (parentId : String) : Prop where
  /-- No name is configured for it. -/
  owner : a.registry.ownerOf? parentId = none
  /-- It is not known. -/
  chain : a.store.hasChain parentId = false

/-- A configuration is in force for a chain name that was configured for `previous` before. -/
structure Installed (a : Alerter M) (previous : Option String) (name : String)
    (config : ChainConfig) : Prop where
  /-- The name has the configuration. -/
  inForce : a.registry.config? name = some config
  /-- The chain belongs to the name. -/
  owner : a.registry.ownerOf? config.parentId = some name
  /-- Nothing is remembered about the nodes of the chain. -/
  nodes : a.store.nodes config.parentId = ∅
  /-- A chain that the name has left is unknown. -/
  left : ∀ p, previous = some p → p ≠ config.parentId → a.Unknown p

/-- No configuration is in force for a chain name that was configured for `previous` before. -/
structure Removed (a : Alerter M) (previous : Option String) (name : String) : Prop where
  /-- The name has no configuration. -/
  noneInForce : a.registry.config? name = none
  /-- The chain that the name has left is unknown. -/
  left : ∀ p, previous = some p → a.Unknown p

/-- What holds once a message with a verdict is applied. -/
def Holds (a : Alerter M) (name : String) (payload : List UInt8) : Verdict → Prop
  | .refused => (∃ e, a.update name payload = .error e) ∧ a.applyConfig name payload = a
  | .installed config =>
    ∃ a', a.update name payload = .ok a' ∧ a.applyConfig name payload = a' ∧
      a'.Installed (a.registry.parentOf? name) name config
  | .removed =>
    ∃ a', a.update name payload = .ok a' ∧ a.applyConfig name payload = a' ∧
      a'.Removed (a.registry.parentOf? name) name

/-- Between two alerters only what concerns one chain name differs: its configuration, and what is
remembered about the chains that it is configured for before and after. -/
structure Local (a a' : Alerter M) (name : String) : Prop where
  /-- Other names keep their configurations. -/
  config : ∀ other, other ≠ name → a'.registry.config? other = a.registry.config? other
  /-- Other chains keep their owners. -/
  owner : ∀ p, a.registry.parentOf? name ≠ some p → a'.registry.parentOf? name ≠ some p →
    a'.registry.ownerOf? p = a.registry.ownerOf? p
  /-- Other chains stay known or unknown. -/
  chain : ∀ p, a.registry.parentOf? name ≠ some p → a'.registry.parentOf? name ≠ some p →
    a'.store.hasChain p = a.store.hasChain p
  /-- Other chains keep their nodes. -/
  nodes : ∀ p, a.registry.parentOf? name ≠ some p → a'.registry.parentOf? name ≠ some p →
    a'.store.nodes p = a.store.nodes p
  /-- Nothing but the registry and the store changes. -/
  others : a' = { a with registry := a'.registry, store := a'.store }

/-- Everything that an alerter remembers another one remembers too. -/
structure Forgets (a a' : Alerter M) : Prop where
  /-- No chain is new. -/
  chain : ∀ p, a'.store.hasChain p = true → a.store.hasChain p = true
  /-- No node is new, and none is changed. -/
  node : ∀ p o n, a'.store.node? p o = some n → a.store.node? p o = some n

/-! ## Verdicts -/

/-- **Every message has a verdict.** -/
theorem exists_earns (a : Alerter M) (name : String) (payload : List UInt8) :
    ∃ v, a.Earns name payload v := by
  cases hread : Value.readObject? payload with
  | none => exact ⟨_, .malformed hread⟩
  | some document =>
      cases hdocument : ChainConfig.ofDocument document with
      | error e => exact ⟨_, .invalid hread hdocument⟩
      | ok parsed =>
          cases parsed with
          | none => exact ⟨_, .empty hread hdocument⟩
          | some config =>
              by_cases hfree : ∀ owner, a.registry.parentOf? owner = some config.parentId →
                  owner = name
              · exact ⟨_, .free hread hdocument hfree⟩
              · push Not at hfree
                obtain ⟨owner, howner, hne⟩ := hfree
                exact ⟨_, .taken hread hdocument howner hne⟩

/-- **No message has two verdicts.** -/
theorem earns_unique {a : Alerter M} {name : String} {payload : List UInt8} {v w : Verdict}
    (hv : a.Earns name payload v) (hw : a.Earns name payload w) : w = v := by
  cases hv <;> cases hw <;> grind

variable {a : Alerter M} {name : String} {payload : List UInt8}

theorem update_of_refused (hr : a.registry.Owned) (h : a.Earns name payload .refused) :
    ∃ e, a.update name payload = .error e := by
  cases h with
  | malformed hread => exact ⟨_, by rw [update, hread]⟩
  | @invalid _ e hread hdocument => exact ⟨.config e, by simp only [update, hread, hdocument]⟩
  | @taken _ config owner hread hdocument howner hne =>
      have hinstall := Registry.install_of_taken ((Registry.ownerOf?_eq_some_iff hr).2 howner) hne
      refine ⟨.config (.parentTaken config.parentId owner), ?_⟩
      simp only [update, hread, hdocument, install, hinstall]
      rfl

theorem update_of_installed (hr : a.registry.Owned) {config : ChainConfig}
    (h : a.Earns name payload (.installed config)) :
    ∃ a', a.update name payload = .ok a' ∧ a.install name config = .ok a' := by
  cases h with
  | free hread hdocument hfree =>
      have hinstall : ∃ a', a.install name config = .ok a' := by
        rw [install, Registry.install_of_free fun owner howner =>
          hfree owner ((Registry.ownerOf?_eq_some_iff hr).1 howner)]
        exact ⟨_, rfl⟩
      obtain ⟨a', ha'⟩ := hinstall
      exact ⟨a', by simp only [update, hread, hdocument, ha'], ha'⟩

theorem update_of_removed (h : a.Earns name payload .removed) :
    a.update name payload = .ok (a.uninstall name) := by
  cases h with
  | empty hread hdocument => simp only [update, hread, hdocument]

/-! ## What holds afterwards -/

theorem installed_of_install (hr : a.registry.Owned) {a' : Alerter M} {config : ChainConfig}
    (h : a.install name config = .ok a') :
    a'.Installed (a.registry.parentOf? name) name config := by
  obtain ⟨registry, hregistry, rfl⟩ := install_eq_ok h
  have howned : registry.Owned := hr.install hregistry
  have hparent : registry.parentOf? name = some config.parentId := by
    rw [Registry.parentOf?_install hregistry, if_pos rfl]
  refine ⟨?_, (Registry.ownerOf?_eq_some_iff howned).2 hparent, ?_, ?_⟩
  · rw [Registry.config?_install hregistry, if_pos rfl]
  · rw [Store.nodes_resetChain, if_pos rfl]
  · intro p hp hne
    refine ⟨(Registry.ownerOf?_eq_none_iff howned).2 fun other hother => ?_, ?_⟩
    · rw [Registry.parentOf?_install hregistry] at hother
      by_cases hn : other = name
      · rw [if_pos hn] at hother
        exact hne (Option.some.inj hother).symm
      · rw [if_neg hn] at hother
        exact hn (hr.unique hother hp)
    · rw [Store.hasChain_resetChain, hasChain_forgetPrevious, if_pos ⟨hp, hne⟩]

theorem removed_uninstall (hr : a.registry.Owned) (name : String) :
    (a.uninstall name).Removed (a.registry.parentOf? name) name := by
  refine ⟨(Registry.config?_remove a.registry name name).trans (if_pos rfl), fun p hp => ⟨?_, ?_⟩⟩
  · refine (Registry.ownerOf?_eq_none_iff (hr.remove name)).2 fun other hother => ?_
    rw [Registry.parentOf?_remove] at hother
    by_cases hn : other = name
    · rw [if_pos hn] at hother
      cases hother
    · rw [if_neg hn] at hother
      exact hn (hr.unique hother hp)
  · simp [uninstall, hp, Store.hasChain_removeChain]

/-- **The verdict tells what holds.** -/
theorem holds_of_earns (hr : a.registry.Owned) {v : Verdict} (h : a.Earns name payload v) :
    a.Holds name payload v := by
  cases v with
  | refused =>
      obtain ⟨e, he⟩ := update_of_refused hr h
      exact ⟨⟨e, he⟩, applyConfig_of_error he⟩
  | installed config =>
      obtain ⟨a', hupdate, hinstall⟩ := update_of_installed hr h
      exact ⟨a', hupdate, applyConfig_of_ok hupdate, installed_of_install hr hinstall⟩
  | removed =>
      have hupdate := update_of_removed h
      exact ⟨_, hupdate, applyConfig_of_ok hupdate, removed_uninstall hr name⟩

/-! ## What does not change -/

theorem config?_applyConfig (a : Alerter M) (payload : List UInt8) {other : String}
    (hne : other ≠ name) :
    (a.applyConfig name payload).registry.config? other = a.registry.config? other := by
  cases h : a.update name payload with
  | error e => rw [applyConfig_of_error h]
  | ok a' =>
      rw [applyConfig_of_ok h]
      rcases update_cases h with rfl | ⟨document, config, -, hi⟩
      · exact (Registry.config?_remove a.registry name other).trans (if_neg hne)
      · obtain ⟨registry, hregistry, rfl⟩ := install_eq_ok hi
        exact (Registry.config?_install hregistry other).trans (if_neg hne)

theorem owned_applyConfig (hr : a.registry.Owned) (name : String) (payload : List UInt8) :
    (a.applyConfig name payload).registry.Owned := by
  cases h : a.update name payload with
  | error e => rw [applyConfig_of_error h]; exact hr
  | ok a' =>
      rw [applyConfig_of_ok h]
      rcases update_cases h with rfl | ⟨document, config, -, hi⟩
      · exact hr.remove name
      · obtain ⟨registry, hregistry, rfl⟩ := install_eq_ok hi
        exact hr.install hregistry

/-- The chain that the name has left is no longer known; all others stay known or unknown. -/
theorem hasChain_applyConfig (a : Alerter M) (name : String) (payload : List UInt8) (p : String) :
    (a.applyConfig name payload).store.hasChain p =
      if a.registry.parentOf? name = some p ∧
          (a.applyConfig name payload).registry.parentOf? name ≠ some p then false
      else a.store.hasChain p := by
  cases h : a.update name payload with
  | error e =>
      rw [applyConfig_of_error h, if_neg]
      rintro ⟨hp, hne⟩
      exact hne hp
  | ok a' =>
      rw [applyConfig_of_ok h]
      rcases update_cases h with rfl | ⟨document, config, -, hi⟩
      · cases hp : a.registry.parentOf? name with
        | none => simp [uninstall, hp]
        | some q => by_cases hq : q = p <;> simp [uninstall, hp, Registry.parentOf?_remove,
            Store.hasChain_removeChain, hq, Ne.symm]
      · obtain ⟨registry, hregistry, rfl⟩ := install_eq_ok hi
        rw [Store.hasChain_resetChain, hasChain_forgetPrevious,
          Registry.parentOf?_install hregistry, if_pos rfl]
        simp only [ne_eq, Option.some.injEq, eq_comm (a := p)]

/-- The chains concerned are those that the name is configured for before or after. -/
theorem not_mem_reconfigured {p : String} (hbefore : a.registry.parentOf? name ≠ some p)
    (hnow : (a.applyConfig name payload).registry.parentOf? name ≠ some p) :
    p ∉ a.reconfigured name payload := by
  cases h : a.update name payload with
  | error e => simp [reconfigured, h]
  | ok a' =>
      rw [applyConfig_of_ok h] at hnow
      simp [reconfigured, h, hbefore, hnow]

/-- **Messages are local.** -/
theorem local_applyConfig (hr : a.registry.Owned) (name : String) (payload : List UInt8) :
    a.Local (a.applyConfig name payload) name where
  config := fun other hne => config?_applyConfig a payload hne
  owner := by
    intro p hbefore hnow
    have howned := owned_applyConfig hr name payload
    ext other
    rw [Registry.ownerOf?_eq_some_iff howned, Registry.ownerOf?_eq_some_iff hr]
    by_cases hn : other = name
    · rw [hn]
      exact iff_of_false hnow hbefore
    · rw [Registry.parentOf?, Registry.parentOf?, config?_applyConfig a payload hn]
  chain := by
    intro p hbefore hnow
    rw [hasChain_applyConfig, if_neg fun h => hbefore h.1]
  nodes := by
    intro p hbefore hnow
    refine Store.nodes_ext fun o => ?_
    rw [node?_applyConfig, if_neg (not_mem_reconfigured hbefore hnow)]
  others := applyConfig_eq a name payload

/-- **Messages bring nothing to be remembered.** -/
theorem forgets_applyConfig (a : Alerter M) (name : String) (payload : List UInt8) :
    a.Forgets (a.applyConfig name payload) where
  chain := by
    intro p hp
    rw [hasChain_applyConfig] at hp
    split at hp
    · cases hp
    · exact hp
  node := by
    intro p o n hn
    rw [node?_applyConfig] at hn
    split at hn
    · cases hn
    · exact hn

/-! ## Messages that come twice -/

theorem uninstall_uninstall (a : Alerter M) (name : String) :
    (a.uninstall name).uninstall name = a.uninstall name := by
  have hparent : (a.uninstall name).registry.parentOf? name = none :=
    (Registry.parentOf?_remove a.registry name name).trans (if_pos rfl)
  have hregistry : (a.uninstall name).registry.remove name = (a.uninstall name).registry :=
    Registry.remove_remove a.registry name
  rw [uninstall, hparent, hregistry]

/-- To put a configuration in force that was put in force just now changes nothing. -/
theorem install_install {a' : Alerter M} {config : ChainConfig}
    (h : a.install name config = .ok a') (hr : a'.registry.Owned) :
    a'.install name config = .ok a' := by
  obtain ⟨registry, hregistry, rfl⟩ := install_eq_ok h
  have hparent : registry.parentOf? name = some config.parentId := by
    rw [Registry.parentOf?_install hregistry, if_pos rfl]
  have hagain : registry.install name config = .ok registry := by
    have hown := (Registry.ownerOf?_eq_some_iff hr).2 hparent
    rw [Registry.install_of_free fun owner howner => Option.some.inj (howner.symm.trans hown),
      (Registry.install_eq_ok hregistry).2, Registry.put_put]
  simp only [install, hagain, hparent, if_true, Store.resetChain_resetChain]
  rfl

/-- **A message that comes twice does what it does once.** -/
theorem applyConfig_applyConfig (hr : a.registry.Owned) (name : String) (payload : List UInt8) :
    (a.applyConfig name payload).applyConfig name payload = a.applyConfig name payload := by
  obtain ⟨v, hv⟩ := a.exists_earns name payload
  cases v with
  | refused =>
      obtain ⟨e, he⟩ := update_of_refused hr hv
      rw [applyConfig_of_error he, applyConfig_of_error he]
  | installed config =>
      obtain ⟨a', hupdate, hinstall⟩ := update_of_installed hr hv
      have howned : a'.registry.Owned := by
        have := owned_applyConfig hr name payload
        rwa [applyConfig_of_ok hupdate] at this
      have hagain : a'.update name payload = .ok a' := by
        cases hv with
        | free hread hdocument hfree =>
            simp only [update, hread, hdocument, install_install hinstall howned]
      rw [applyConfig_of_ok hupdate, applyConfig_of_ok hagain]
  | removed =>
      have hagain : (a.uninstall name).Earns name payload .removed := by
        cases hv with
        | empty hread hdocument => exact .empty hread hdocument
      rw [applyConfig_of_ok (update_of_removed hv), applyConfig_of_ok (update_of_removed hagain),
        uninstall_uninstall]

end Alerter

variable {M : Type} [DecidableEq M]

/-- **Configuration messages are atomic, local and idempotent.**  Let an alerter have any history,
and let a configuration message come for any chain name.  The message has exactly one verdict:

* it is refused, because it is no object, no configuration, or because its chain belongs to another
  name; then nothing changes;
* its configuration is put in force: the name has it and owns its chain, about whose nodes nothing
  is remembered, and a chain that the name has left is unknown;
* it has no sections: then the name has no configuration, and the chain that it has left is unknown.

In every case nothing changes for other names and for other chains, nothing new is remembered, and
to apply the message once more changes nothing. -/
theorem configuration_atomic_local_idempotent {f : Family M} {settings : Settings}
    {turns : List Turn} {H : History M} (h : (Alerter.new f settings).history turns = .ok H)
    (name : String) (payload : List UInt8) :
    (∃! v, H.alerter.Earns name payload v) ∧
    (∀ v, H.alerter.Earns name payload v → H.alerter.Holds name payload v) ∧
    H.alerter.Local (H.alerter.applyConfig name payload) name ∧
    H.alerter.Forgets (H.alerter.applyConfig name payload) ∧
    (H.alerter.applyConfig name payload).applyConfig name payload =
      H.alerter.applyConfig name payload := by
  have hr : H.alerter.registry.Owned := (Alerter.agrees_history h).registry.owned
  obtain ⟨v, hv⟩ := H.alerter.exists_earns name payload
  exact ⟨⟨v, hv, fun w hw => Alerter.earns_unique hv hw⟩, fun _ hw => Alerter.holds_of_earns hr hw,
    Alerter.local_applyConfig hr name payload, Alerter.forgets_applyConfig _ name payload,
    Alerter.applyConfig_applyConfig hr name payload⟩

/-- After a value of a node of `hub`, the configuration of `hub` comes once more: under its own name
it is put in force anew, and under another name it is refused. -/
theorem configuration_atomic_local_idempotent_hub :
    ∃ H config, (Alerter.new Sample.family Settings.default).history
        [⟨Sample.configuration, .agreeing⟩, ⟨Sample.measurement 8 1, .agreeing⟩] = .ok H ∧
      H.alerter.store.hasChain "hub" = true ∧
      H.alerter.Holds "test hub" Sample.configuration.payload (.installed config) ∧
      H.alerter.Holds "test other" Sample.configuration.payload .refused := by
  have hrun : ((Alerter.new Sample.family Settings.default).history
      [⟨Sample.configuration, .agreeing⟩, ⟨Sample.measurement 8 1, .agreeing⟩]).map
        (fun H => (H.alerter.store.hasChain "hub",
          ((H.alerter.update "test hub" Sample.configuration.payload).toOption.map
            fun a => (a.registry.config? "test hub").isSome),
          (H.alerter.update "test other" Sample.configuration.payload).toOption.isSome)) =
        .ok (true, some true, false) := by decide +kernel
  obtain ⟨H, hH, hvalues⟩ := exists_of_map_eq_ok hrun
  obtain ⟨hchain, hown, hother⟩ : _ ∧ _ ∧ _ := by simpa using hvalues
  have hown' : ∃ config,
      H.alerter.Holds "test hub" Sample.configuration.payload (.installed config) := by
    obtain ⟨⟨v, hv, -⟩, hholds, -⟩ := configuration_atomic_local_idempotent hH "test hub"
      Sample.configuration.payload
    have hv' := hholds v hv
    cases v with
    | refused =>
        obtain ⟨⟨e, he⟩, -⟩ := hv'
        simp [he, Except.toOption] at hown
    | installed config => exact ⟨config, hv'⟩
    | removed =>
        obtain ⟨a', hupdate, -, hremoved⟩ := hv'
        simp [hupdate, hremoved.noneInForce, Except.toOption] at hown
  have hother' : H.alerter.Holds "test other" Sample.configuration.payload .refused := by
    obtain ⟨⟨v, hv, -⟩, hholds, -⟩ := configuration_atomic_local_idempotent hH "test other"
      Sample.configuration.payload
    have hv' := hholds v hv
    cases v with
    | refused => exact hv'
    | installed config =>
        obtain ⟨a', hupdate, -⟩ := hv'
        simp [hupdate, Except.toOption] at hother
    | removed =>
        obtain ⟨a', hupdate, -⟩ := hv'
        simp [hupdate, Except.toOption] at hother
  obtain ⟨config, hconfig⟩ := hown'
  exact ⟨H, config, hH, hchain, hconfig, hother'⟩

end NodeAlerts
