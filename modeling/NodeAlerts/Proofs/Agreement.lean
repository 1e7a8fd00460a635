import Mathlib.Data.List.Basic
import NodeAlerts.Proofs.Families
import NodeAlerts.Proofs.Process
import NodeAlerts.Proofs.Setup
import NodeAlerts.Proofs.Windows

/-!
# The store agrees with the registry

What is remembered about nodes lives apart from the configurations, and both are changed by separate
operations.  `Alerter.Agrees` says that they never drift: only chains that are configured are known,
and every node of a chain has states for exactly the metrics that its configuration has, with the
windows and the interval that are configured.  It holds of a fresh alerter, and every message keeps
it (`Alerter.Agrees.handle`), so it holds at the end of every history (`Alerter.agrees_history`).

The consequence for data is `Family.failure_process_ne`: a message is never given up for the lack of
a state.
-/

namespace NodeAlerts

/-! ## Registries -/

/-- No chain has two names, and no window or interval is negative. -/
structure Registry.Valid (r : Registry) : Prop where
  /-- A chain belongs to the one name that is configured for it. -/
  owned : r.Owned
  /-- No window or interval is negative. -/
  nonNegative : ∀ name k, r.config? name = some k → k.NonNegative

namespace Registry.Valid

theorem empty : Registry.empty.Valid where
  owned := owned_empty
  nonNegative := by
    intro name k h
    cases h

theorem remove {r : Registry} (hr : r.Valid) (name : String) : (r.remove name).Valid where
  owned := hr.owned.remove name
  nonNegative := by
    intro other k h
    rw [config?_remove] at h
    by_cases hn : other = name
    · rw [if_pos hn] at h
      cases h
    · rw [if_neg hn] at h
      exact hr.nonNegative other k h

theorem install {r r' : Registry} (hr : r.Valid) {name : String} {config : ChainConfig}
    (hc : config.NonNegative) (h : r.install name config = .ok r') : r'.Valid where
  owned := hr.owned.install h
  nonNegative := by
    intro other k hk
    rw [config?_install h] at hk
    by_cases hn : other = name
    · rw [if_pos hn] at hk
      cases hk
      exact hc
    · rw [if_neg hn] at hk
      exact hr.nonNegative other k hk

end Registry.Valid

/-! ## Nodes -/

/-- The windows, periods and the interval that a metric is configured with; the window of a level is
also its period. -/
def MetricConfig.lengths (c : MetricConfig) : (Span × Span) × (Span × Span) × Span :=
  ((c.warning.window, c.warning.window), (c.critical.window, c.critical.window), c.repeatInterval)

variable {M : Type} [DecidableEq M]

/-- A node has states for exactly the metrics of the family that are configured, with the windows,
periods and the interval that are configured. -/
def NodeState.Agrees (n : NodeState M) (f : Family M) (k : ChainConfig) : Prop :=
  ∀ m, (n.get? m).map MetricState.lengths =
    if m ∈ f.metrics then (k.metric? (f.metricName m)).map MetricConfig.lengths else none

namespace NodeState

theorem agrees_new (f : Family M) (k : ChainConfig) :
    (new f.metrics f.metricName k).Agrees f k := by
  intro m
  rw [get?_new]
  by_cases hm : m ∈ f.metrics
  · rw [if_pos hm, if_pos hm, Option.map_map]
    rfl
  · rw [if_neg hm, if_neg hm]
    rfl

/-- A state may be replaced by one with the same windows. -/
theorem Agrees.set {n : NodeState M} {f : Family M} {k : ChainConfig} (hn : n.Agrees f k) {m : M}
    {s s' : MetricState} (hs : n.get? m = some s) (hlengths : s'.lengths = s.lengths) :
    (n.set m s').Agrees f k := by
  intro other
  rw [← hn other, get?_set]
  by_cases ho : other = m
  · rw [if_pos ho, ho, hs]
    simp only [Option.map_some, hlengths]
  · rw [if_neg ho]

/-- An enabled metric has a state. -/
theorem Agrees.exists_state {n : NodeState M} {f : Family M} {k : ChainConfig}
    (hn : n.Agrees f k) {m : M} (hm : m ∈ f.metrics) {c : MetricConfig}
    (hc : k.metric? (f.metricName m) = some c) :
    ∃ s, n.get? m = some s ∧ s.lengths = c.lengths := by
  have h := hn m
  rw [if_pos hm, hc, Option.map_some, Option.map_eq_some_iff] at h
  exact h

end NodeState

/-! ## Processing -/

namespace ChainConfig

theorem metric?_of_enabled? {k : ChainConfig} {name : String} {c : MetricConfig}
    (h : k.enabled? name = some c) : k.metric? name = some c :=
  (Option.filter_eq_some_iff.1 h).1

end ChainConfig

namespace Family

variable {f : Family M} {k : ChainConfig} {origin : Origin} {now : Instant}

theorem agrees_classifyOne {node : NodeState M} (hn : node.Agrees f k) {m : M} {r : Reading}
    {b : Batch M} (h : f.classifyOne k origin now node m r = .ok b) : b.node.Agrees f k := by
  rcases classifyOne_cases h with ⟨-, rfl⟩ | ⟨c, -, -, rfl⟩ | ⟨c, s, step, -, hs, hstep, rfl⟩
  · exact hn
  · exact hn
  · exact hn.set hs (Reading.lengths_classify hstep)

theorem agrees_classifyAll {readings : List (M × Reading)} {node : NodeState M}
    (hn : node.Agrees f k) {b : Batch M} (h : f.classifyAll k origin now readings node = .ok b) :
    b.node.Agrees f k :=
  classifyAll_induction (P := fun n _ => n.Agrees f k) readings
    (fun _ _ _ _ _ _ hn hone => agrees_classifyOne hn hone) node [] b hn h

/-- A reading of an enabled metric finds its state. -/
theorem failure_classifyOne {node : NodeState M} (hn : node.Agrees f k) {m : M} {r : Reading}
    (hm : m ∈ f.metrics) {b : Batch M} (h : f.classifyOne k origin now node m r = .ok b) :
    b.failure = none := by
  rcases classifyOne_cases h with ⟨-, rfl⟩ | ⟨c, hc, hs, rfl⟩ | ⟨c, s, step, -, -, -, rfl⟩
  · rfl
  · obtain ⟨s, hs', -⟩ := hn.exists_state hm (ChainConfig.metric?_of_enabled? hc)
    rw [hs] at hs'
    cases hs'
  · rfl

end Family

/-! ## Stores -/

/-- Every node of a configured chain has a property, which may depend on the configuration. -/
def Store.Forall (s : Store M) (r : Registry) (P : ChainConfig → NodeState M → Prop) : Prop :=
  ∀ p o n k, s.node? p o = some n → r.configFor? p = some k → P k n

namespace Store.Forall

omit [DecidableEq M]

variable {r : Registry} {P : ChainConfig → NodeState M → Prop}

theorem empty (r : Registry) (P : ChainConfig → NodeState M → Prop) :
    (Store.empty : Store M).Forall r P := by
  intro p o n k h
  cases h

theorem setNode {s : Store M} (hs : s.Forall r P) {p : String} (o : String) {n : NodeState M}
    {k : ChainConfig} (hk : r.configFor? p = some k) (hn : P k n) :
    (s.setNode p o n).Forall r P := by
  intro q o' n' k' hq hk'
  rw [node?_setNode] at hq
  by_cases hqp : q = p ∧ o' = o
  · rw [if_pos hqp] at hq
    cases hq
    rw [hqp.1, hk] at hk'
    cases hk'
    exact hn
  · rw [if_neg hqp] at hq
    exact hs q o' n' k' hq hk'

/-- What new nodes have too, the node of a report has. -/
theorem nodeState {f : Family M} {s : Store M} (hs : s.Forall r P)
    (hnew : ∀ k, P k (.new f.metrics f.metricName k)) {origin : Origin} {k : ChainConfig}
    (hk : r.configFor? origin.parentId = some k) : P k (f.nodeState k s origin) := by
  rw [Family.nodeState]
  cases hn : s.node? origin.parentId origin.originId with
  | none => exact hnew k
  | some n => exact hs _ _ n k hn hk

/-- A configuration message forgets the nodes whose configuration it changes. -/
theorem applyConfig {a : Alerter M} (hr : a.registry.Owned) (ha : a.store.Forall a.registry P)
    (name : String) (payload : List UInt8) :
    (a.applyConfig name payload).store.Forall (a.applyConfig name payload).registry P := by
  intro p o n k hn hk
  rw [Alerter.node?_applyConfig] at hn
  by_cases hp : p ∈ a.reconfigured name payload
  · rw [if_pos hp] at hn
    cases hn
  · rw [if_neg hp] at hn
    rw [Alerter.configFor?_applyConfig hr hp] at hk
    exact ha p o n k hn hk

end Store.Forall

/-- Only configured chains are known, and each node agrees with the configuration of its chain. -/
structure Store.Agrees (s : Store M) (f : Family M) (r : Registry) : Prop where
  /-- Only configured chains are known. -/
  configured : ∀ p, s.hasChain p = true → ∃ name, r.parentOf? name = some p
  /-- Each node agrees with the configuration of its chain. -/
  nodes : s.Forall r fun k n => n.Agrees f k

namespace Store.Agrees

variable {f : Family M} {r : Registry}

theorem empty (f : Family M) (r : Registry) : (Store.empty : Store M).Agrees f r where
  configured := by
    intro p h
    cases h
  nodes := Store.Forall.empty r _

/-- A node of a known chain is remembered. -/
theorem setNode {s : Store M} (hs : s.Agrees f r) {p o name : String} {n : NodeState M}
    {k : ChainConfig} (hp : r.parentOf? name = some p) (hk : r.configFor? p = some k)
    (hn : n.Agrees f k) : (s.setNode p o n).Agrees f r where
  configured := by
    intro q hq
    rw [hasChain_setNode] at hq
    by_cases hqp : q = p
    · exact ⟨name, hqp ▸ hp⟩
    · simp only [hqp, decide_false, Bool.false_or] at hq
      exact hs.configured q hq
  nodes := hs.nodes.setNode o hk hn

theorem nodeState {s : Store M} (hs : s.Agrees f r) {origin : Origin} {k : ChainConfig}
    (hk : r.configFor? origin.parentId = some k) : (f.nodeState k s origin).Agrees f k :=
  hs.nodes.nodeState (NodeState.agrees_new f) hk

theorem processReport {s : Store M} (hs : s.Agrees f r) (hr : r.Valid) {report : Report M}
    {p : Processed M} (h : f.processReport r s report = .ok p) : p.store.Agrees f r := by
  rcases Family.processReport_cases h with
    ⟨-, rfl⟩ | ⟨e, -, rfl⟩ | ⟨k, now, b, hk, -, hb, rfl⟩
  · exact hs
  · exact hs
  · obtain ⟨name, hname, hparent⟩ := (Registry.configFor?_eq_some_iff hr.owned).1 hk
    exact hs.setNode (Registry.parentOf?_eq_some_iff.2 ⟨k, hname, hparent⟩) hk
      (Family.agrees_classifyAll (hs.nodeState hk) hb)

/-- **Data keeps the agreement.** -/
theorem process {s : Store M} (hs : s.Agrees f r) (hr : r.Valid) {payload : List UInt8}
    {p : Processed M} (h : f.process r s payload = .ok p) : p.store.Agrees f r :=
  Family.process_induction (P := fun s _ => s.Agrees f r) h hs
    fun _ _ _ _ _ _ _ hs hone => hs.processReport hr hone

end Store.Agrees

namespace Family

variable {f : Family M} {r : Registry}

/-- **No state is ever missing.**  A message that is processed while the store agrees with the
registry is not given up for the lack of a state. -/
theorem failure_process_ne (layout : f.Layout) {s : Store M} (hs : s.Agrees f r) (hr : r.Valid)
    {payload : List UInt8} {p : Processed M} (h : f.process r s payload = .ok p)
    (originId metric : String) : p.failure ≠ some (.missingState originId metric) := by
  rcases process_cases h with ⟨-, rfl⟩ | ⟨reports, hreports, hp⟩
  · simp
  refine processReports_failure (P := fun s => s.Agrees f r) reports ?_ s p hs hp
  intro s report one hmem hs hone
  refine ⟨hs.processReport hr hone, ?_⟩
  rcases processReport_cases hone with ⟨-, rfl⟩ | ⟨e, he, rfl⟩ | ⟨k, now, b, hk, -, hb, rfl⟩
  · simp
  · have htime := report.monitoring.timestamp_ne originId metric
    rw [he] at htime
    simpa using htime
  · have hbatch : b.failure ≠ some (.missingState originId metric) := by
      refine classifyAll_failure (P := fun n => n.Agrees f k) report.readings ?_ _ b
        (hs.nodeState hk) hb
      intro node m reading batch _ hn hbatch
      refine ⟨agrees_classifyOne hn hbatch, ?_⟩
      rw [failure_classifyOne hn (layout.mem_metrics m) hbatch]
      simp
    have hdefect := (layout.follows hreports report hmem).defect_ne originId metric
    cases hf : b.failure with
    | none => simpa [hf] using hdefect
    | some e => simpa [hf] using hbatch

end Family

/-! ## Alerters -/

namespace Alerter

/-- The registry is valid and the store agrees with it. -/
structure Agrees (a : Alerter M) : Prop where
  /-- The registry is valid. -/
  registry : a.registry.Valid
  /-- The store agrees with it. -/
  store : a.store.Agrees a.family a.registry

theorem agrees_new (f : Family M) (settings : Settings) : (new f settings).Agrees where
  registry := Registry.Valid.empty
  store := Store.Agrees.empty f Registry.empty

omit [DecidableEq M] in
theorem valid_update {a a' : Alerter M} (ha : a.registry.Valid) {name : String}
    {payload : List UInt8} (h : a.update name payload = .ok a') : a'.registry.Valid := by
  rcases update_cases h with rfl | ⟨document, config, hd, hi⟩
  · exact ha.remove name
  · obtain ⟨registry, hr, rfl⟩ := install_eq_ok hi
    exact ha.install (ChainConfig.nonNegative_ofDocument hd) hr

omit [DecidableEq M] in
/-- A chain that is known after an accepted message has a name then. -/
theorem configured_update {a a' : Alerter M}
    (ha : ∀ p, a.store.hasChain p = true → ∃ name, a.registry.parentOf? name = some p)
    {name : String} {payload : List UInt8} (h : a.update name payload = .ok a') (p : String)
    (hp : a'.store.hasChain p = true) : ∃ name, a'.registry.parentOf? name = some p := by
  rcases update_cases h with rfl | ⟨document, config, -, hi⟩
  · -- the chain of the removed name is forgotten, so a known chain has another name
    have hknown : a.store.hasChain p = true ∧ a.registry.parentOf? name ≠ some p := by
      cases hprev : a.registry.parentOf? name with
      | none => simpa [uninstall, hprev] using hp
      | some q =>
          simp only [uninstall, hprev, Store.hasChain_removeChain, Bool.and_eq_true,
            decide_eq_true_eq] at hp
          exact ⟨hp.2, fun h => hp.1 (Option.some.inj h).symm⟩
    obtain ⟨other, hother⟩ := ha p hknown.1
    have hne : other ≠ name := by
      rintro rfl
      exact hknown.2 hother
    exact ⟨other, (Registry.parentOf?_remove a.registry name other).trans
      ((if_neg hne).trans hother)⟩
  · obtain ⟨registry, hr, rfl⟩ := install_eq_ok hi
    by_cases hpc : p = config.parentId
    · exact ⟨name, (Registry.parentOf?_install hr name).trans ((if_pos rfl).trans (hpc ▸ rfl))⟩
    · rw [Store.hasChain_resetChain, hasChain_forgetPrevious] at hp
      by_cases hprev : a.registry.parentOf? name = some p
      · rw [if_pos ⟨hprev, hpc⟩] at hp
        cases hp
      · rw [if_neg (fun h => hprev h.1)] at hp
        obtain ⟨other, hother⟩ := ha p hp
        have hne : other ≠ name := by
          rintro rfl
          exact hprev hother
        exact ⟨other, (Registry.parentOf?_install hr other).trans
          ((if_neg hne).trans hother)⟩

/-- **A configuration message keeps the agreement.** -/
theorem Agrees.applyConfig {a : Alerter M} (ha : a.Agrees) (name : String)
    (payload : List UInt8) : (a.applyConfig name payload).Agrees := by
  have hfamily : (a.applyConfig name payload).family = a.family := by rw [applyConfig_eq]
  refine ⟨?_, ?_, ?_⟩
  · cases h : a.update name payload with
    | error e => rw [applyConfig_of_error h]; exact ha.registry
    | ok a' => rw [applyConfig_of_ok h]; exact valid_update ha.registry h
  · intro p hp
    cases h : a.update name payload with
    | error e => rw [applyConfig_of_error h] at hp ⊢; exact ha.store.configured p hp
    | ok a' =>
        rw [applyConfig_of_ok h] at hp ⊢
        exact configured_update ha.store.configured h p hp
  · rw [hfamily]
    exact ha.store.nodes.applyConfig ha.registry.owned name payload

/-- **Every message keeps the agreement.** -/
theorem Agrees.handle {a : Alerter M} (ha : a.Agrees) {b : Broker} {m : Message} {h : Handled M}
    (hh : a.handle b m = .ok h) : h.alerter.Agrees := by
  rcases handle_cases hh with ⟨-, hd⟩ | ⟨name, -, rfl⟩ | ⟨-, rfl⟩
  · obtain ⟨p, hp, rfl⟩ := handleData_eq_ok hd
    obtain ⟨n, -, halerter, -⟩ := settle_eq (a.classified p) b m.tag p.failure.isNone
    have hstore : p.store.Agrees a.family a.registry := ha.store.process ha.registry hp
    refine ⟨?_, ?_⟩
    · simp only [halerter]
      exact ha.registry
    · simp only [halerter]
      exact hstore
  · exact ha.applyConfig name m.payload
  · exact ha

theorem agrees_history {f : Family M} {settings : Settings} {turns : List Turn} {H : History M}
    (h : (new f settings).history turns = .ok H) : H.alerter.Agrees :=
  history_induction (P := fun H => H.alerter.Agrees) h (agrees_new f settings)
    fun _ _ _ hK hh => hK.handle hh

end Alerter

/-- What is remembered about a metric has the windows, periods and the interval of a configuration,
none of which is negative. -/
structure MetricState.Fits (s : MetricState) (c : MetricConfig) : Prop where
  /-- The window of warnings. -/
  warningWindow : s.warning.window.window = c.warning.window
  /-- The period of warnings. -/
  warningPeriod : s.warning.occurrences.period = c.warning.window
  /-- The window of critical alerts. -/
  criticalWindow : s.critical.window.window = c.critical.window
  /-- The period of critical alerts. -/
  criticalPeriod : s.critical.occurrences.period = c.critical.window
  /-- The interval of repeats. -/
  interval : s.repeatGate.interval = c.repeatInterval
  /-- None is negative. -/
  nonNegative : c.NonNegative

theorem MetricState.fits_of_lengths_eq {s : MetricState} {c : MetricConfig}
    (h : s.lengths = c.lengths) (hc : c.NonNegative) : s.Fits c := by
  simp only [lengths, MetricConfig.lengths, Alarm.lengths, Prod.mk.injEq] at h
  obtain ⟨⟨hww, hwp⟩, ⟨hcw, hcp⟩, hi⟩ := h
  exact ⟨hww, hwp, hcw, hcp, hi, hc⟩

/-- **What is remembered matches the configuration in force.**  At the end of every history of a
fresh alerter only configured chains are known, and no chain has two names.  Every node that is
remembered belongs to the chain of a configuration in force; it has a state for each metric of the
configuration and for no other, and the state has the configured lengths.  So no data that comes
next is given up for the lack of a state. -/
theorem state_agrees_with_configuration (k : FamilyKind) (settings : Settings) (turns : List Turn)
    {H : History k.Metric} (h : (Alerter.new k.family settings).history turns = .ok H) :
    (∀ p, H.alerter.store.hasChain p = true →
      ∃ name, H.alerter.registry.parentOf? name = some p) ∧
    (∀ name name' p, H.alerter.registry.parentOf? name = some p →
      H.alerter.registry.parentOf? name' = some p → name = name') ∧
    (∀ p o n, H.alerter.store.node? p o = some n →
      ∃ name config, H.alerter.registry.config? name = some config ∧ config.parentId = p ∧
        ∀ m, (config.metric? (k.family.metricName m) = none → n.get? m = none) ∧
          ∀ c, config.metric? (k.family.metricName m) = some c →
            ∃ s, n.get? m = some s ∧ s.Fits c) ∧
    ∀ payload p, k.family.process H.alerter.registry H.alerter.store payload = .ok p →
      ∀ originId metric, p.failure ≠ some (.missingState originId metric) := by
  have hagrees := Alerter.agrees_history h
  have hfamily : H.alerter.family = k.family := (Alerter.sameSetup_history h).family
  have hstore := hagrees.store
  have hvalid := hagrees.registry
  rw [hfamily] at hstore
  refine ⟨hstore.configured, fun _ _ _ => hvalid.owned.unique, ?_, fun payload p hp =>
    Family.failure_process_ne k.layout hstore hvalid hp⟩
  intro p o n hn
  obtain ⟨name, hname⟩ := hstore.configured p (Store.hasChain_of_node? hn)
  obtain ⟨config, hconfig, hparent⟩ := Registry.parentOf?_eq_some_iff.1 hname
  have hforce : H.alerter.registry.configFor? p = some config :=
    (Registry.configFor?_eq_some_iff hvalid.owned).2 ⟨name, hconfig, hparent⟩
  have hnode : n.Agrees k.family config := hstore.nodes p o n config hn hforce
  refine ⟨name, config, hconfig, hparent, fun m => ⟨fun hm => ?_, fun c hc => ?_⟩⟩
  · have hnone := hnode m
    rw [if_pos (k.layout.mem_metrics m), hm, Option.map_none, Option.map_eq_none_iff] at hnone
    exact hnone
  · obtain ⟨s, hs, hlengths⟩ := hnode.exists_state (k.layout.mem_metrics m) hc
    have hnonNegative : c.NonNegative := hvalid.nonNegative name config hconfig _ c hc
    exact ⟨s, hs, MetricState.fits_of_lengths_eq hlengths hnonNegative⟩

/-- After a value of the node `v` its metric `value` is remembered with the configured lengths, and
its metric `counter`, which is not configured, is not remembered. -/
theorem state_agrees_with_configuration_hub :
    ∃ H n s c, (Alerter.new FamilyKind.sample.family Settings.default).history
        [⟨Sample.configuration, .agreeing⟩, ⟨Sample.measurement 8 1, .agreeing⟩] = .ok H ∧
      H.alerter.store.node? "hub" "v" = some n ∧ n.get? Sample.Metric.value = some s ∧
      s.Fits c ∧ n.get? Sample.Metric.counter = none := by
  have hrun : ((Alerter.new FamilyKind.sample.family Settings.default).history
      [⟨Sample.configuration, .agreeing⟩, ⟨Sample.measurement 8 1, .agreeing⟩]).map
        (fun H => (H.alerter.store.node? "hub" "v").map fun n =>
          ((n.get? Sample.Metric.value).isSome, (n.get? Sample.Metric.counter).isSome)) =
        .ok (some (true, false)) := by decide +kernel
  obtain ⟨H, hH, hnode⟩ := exists_of_map_eq_ok hrun
  obtain ⟨n, hn, hsome⟩ := Option.map_eq_some_iff.1 hnode
  obtain ⟨hvalue, hcounter⟩ := Prod.mk.inj hsome
  obtain ⟨-, -, hnodes, -⟩ := state_agrees_with_configuration .sample Settings.default _ hH
  obtain ⟨name, config, -, -, hstates⟩ := hnodes "hub" "v" n hn
  obtain ⟨habsent, hpresent⟩ := hstates Sample.Metric.value
  cases hc : config.metric? (FamilyKind.sample.family.metricName Sample.Metric.value) with
  | none =>
      rw [habsent hc] at hvalue
      cases hvalue
  | some c =>
      obtain ⟨s, hs, hfits⟩ := hpresent c hc
      exact ⟨H, n, s, c, hH, hn, hs, hfits, Option.not_isSome_iff_eq_none.1 (by simp [hcounter])⟩

end NodeAlerts
