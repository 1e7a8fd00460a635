import NodeAlerts.Proofs.Agreement
import NodeAlerts.Proofs.Log

/-!
# No resolution without an open raise

Two facts go along the log of a history: the log is justified so far, and every flag of the store is
backed by what is open (`Backing`).  One reading keeps them by `Reading.sound_classify`, one message
because its readings are about one node at a time, and a configuration because it forgets the nodes
whose raises it closes.
-/

namespace NodeAlerts

variable {M : Type} [DecidableEq M]

/-! ## Backed stores -/

section Processing

variable {f : Family M}

/-- The log is justified, and the flags of the metrics of a node are backed by it. -/
structure NodeBacking (layout : f.Layout) (k : ChainConfig) (parentId originId : String)
    (n : NodeState M) (log : List (LogEntry M)) : Prop where
  /-- The log is justified. -/
  justified : LogJustified log
  /-- The flags are backed. -/
  backed : ∀ m c s, k.metric? (f.metricName m) = some c → n.get? m = some s →
    s.Backed (layout.rule m) c (openRaises ⟨parentId, originId, m⟩ log)

/-- The log is justified, and the flags of all nodes are backed by it. -/
structure Backing (layout : f.Layout) (r : Registry) (s : Store M) (log : List (LogEntry M)) :
    Prop where
  /-- The log is justified. -/
  justified : LogJustified log
  /-- The flags are backed. -/
  nodes : ∀ p o n k, s.node? p o = some n → r.configFor? p = some k → NodeBacking layout k p o n log

variable {layout : f.Layout} {k : ChainConfig} {origin : Origin} {now : Instant}

/-- **One reading.** -/
theorem NodeBacking.classifyOne {node : NodeState M} {log : List (LogEntry M)} {m : M} {r : Reading}
    {b : Batch M} (hnode : NodeBacking layout k origin.parentId origin.originId node log)
    (hr : r.rule = layout.rule m) (h : f.classifyOne k origin now node m r = .ok b) :
    NodeBacking layout k origin.parentId origin.originId b.node
      (log ++ b.findings.map LogEntry.found) := by
  rcases Family.classifyOne_cases h with
    ⟨-, rfl⟩ | ⟨c, -, -, rfl⟩ | ⟨c, s, step, hc, hs, hstep, rfl⟩
  · simpa using hnode
  · simpa using hnode
  · have hmetric := ChainConfig.metric?_of_enabled? hc
    have hbacked := hnode.backed m c s hmetric hs
    rw [← hr] at hbacked
    have hsound := Reading.sound_classify (hr ▸ layout.rule_ne m) hbacked hstep
    refine ⟨hnode.justified.events hsound.justified, fun other c' s' hc' hs' => ?_⟩
    rw [NodeState.get?_set] at hs'
    by_cases ho : other = m
    · -- the metric that was read: the step is sound for it
      rw [if_pos ho, hs, Option.map_some, Option.some.injEq] at hs'
      rw [ho, hmetric] at hc'
      cases hc'
      rw [ho, ← hs', openRaises_events, ← hr]
      exact hsound.backed
    · -- another metric: neither its state nor its raises change
      rw [if_neg ho] at hs'
      have hne : ∀ x ∈ step.events.map (Finding.mk origin now m),
          x.subject ≠ ⟨origin.parentId, origin.originId, other⟩ := by
        intro x hx hsubject
        obtain ⟨e, -, rfl⟩ := List.mem_map.1 hx
        exact ho (congrArg Subject.metric hsubject).symm
      rw [openRaises_found_of_ne _ _ _ hne]
      exact hnode.backed other c' s' hc' hs'

theorem NodeBacking.classifyAll {readings : List (M × Reading)} {node : NodeState M}
    {log : List (LogEntry M)} {b : Batch M}
    (hnode : NodeBacking layout k origin.parentId origin.originId node log)
    (hr : ∀ e ∈ readings, e.2.rule = layout.rule e.1)
    (h : f.classifyAll k origin now readings node = .ok b) :
    NodeBacking layout k origin.parentId origin.originId b.node
      (log ++ b.findings.map LogEntry.found) := by
  refine Family.classifyAll_induction (P := fun n found =>
    NodeBacking layout k origin.parentId origin.originId n (log ++ found.map LogEntry.found))
    readings ?_ node [] b (by simpa using hnode) h
  intro node found m r one hmem hnode hone
  have hnext := hnode.classifyOne (hr (m, r) hmem) hone
  simpa using hnext

/-- A node that is classified for the first time has no flag set. -/
theorem Backing.nodeState {r : Registry} {s : Store M} {log : List (LogEntry M)}
    (hs : Backing layout r s log) (hk : r.configFor? origin.parentId = some k) :
    NodeBacking layout k origin.parentId origin.originId (f.nodeState k s origin) log := by
  rw [Family.nodeState]
  cases hn : s.node? origin.parentId origin.originId with
  | some n => exact hs.nodes _ _ n k hn hk
  | none =>
      refine ⟨hs.justified, fun m c st hc hst => ?_⟩
      rw [Option.getD_none, NodeState.get?_new, if_pos (layout.mem_metrics m), hc] at hst
      cases hst
      exact MetricState.backed_new c _ _

/-- **One report.**  It is about one node; the flags and the raises of all others stay. -/
theorem Backing.processReport {r : Registry} {s : Store M} {log : List (LogEntry M)}
    (hs : Backing layout r s log) {report : Report M} {p : Processed M}
    (hr : ∀ e ∈ report.readings, e.2.rule = layout.rule e.1)
    (h : f.processReport r s report = .ok p) :
    Backing layout r p.store (log ++ p.findings.map LogEntry.found) := by
  rcases Family.processReport_cases h with ⟨-, rfl⟩ | ⟨e, -, rfl⟩ | ⟨k, now, b, hk, -, hb, rfl⟩
  · simpa using hs
  · simpa using hs
  · have hnode := (hs.nodeState hk).classifyAll hr hb
    refine ⟨hnode.justified, fun q o n k' hn hk' => ?_⟩
    rw [Store.node?_setNode] at hn
    by_cases hq : q = report.monitoring.origin.parentId ∧ o = report.monitoring.origin.originId
    · -- the node of the report, classified by the configuration in force
      rw [if_pos hq] at hn
      cases hn
      rw [hq.1, hk] at hk'
      cases hk'
      rw [hq.1, hq.2]
      exact hnode
    · -- another node: no finding of the report is about it
      rw [if_neg hq] at hn
      refine ⟨hnode.justified, fun m c st hc hst => ?_⟩
      have hne : ∀ x ∈ b.findings, x.subject ≠ ⟨q, o, m⟩ := by
        intro x hx hsubject
        have horigin := Family.origin_classifyAll hb x hx
        rw [← horigin] at hq
        exact hq ⟨(congrArg Subject.parentId hsubject).symm,
          (congrArg Subject.originId hsubject).symm⟩
      rw [openRaises_found_of_ne _ _ _ hne]
      exact (hs.nodes q o n k' hn hk').backed m c st hc hst

/-- **One message with data.** -/
theorem Backing.process {r : Registry} {s : Store M} {log : List (LogEntry M)}
    (hs : Backing layout r s log) {payload : List UInt8} {p : Processed M}
    (h : f.process r s payload = .ok p) :
    Backing layout r p.store (log ++ p.findings.map LogEntry.found) := by
  refine Family.process_induction
    (P := fun s found => Backing layout r s (log ++ found.map LogEntry.found)) h
    (by simpa using hs) ?_
  intro reports hreports s found report one hmem hs hone
  have hnext := hs.processReport (layout.follows hreports report hmem).rule_reading hone
  simpa using hnext

end Processing

/-! ## Histories -/

namespace Alerter

/-- The alerter agrees with itself, serves the family, and its flags are backed by the log. -/
structure Ledger (f : Family M) (layout : f.Layout) (a : Alerter M) (log : List (LogEntry M)) :
    Prop where
  /-- The store agrees with the registry. -/
  agrees : a.Agrees
  /-- The family. -/
  family : a.family = f
  /-- The flags are backed. -/
  backing : Backing layout a.registry a.store log

variable {f : Family M} {layout : f.Layout}

theorem ledger_new (settings : Settings) : Ledger f layout (new f settings) [] where
  agrees := agrees_new f settings
  family := rfl
  backing := ⟨logJustified_nil, by intro p o n k h; cases h⟩

/-- A configuration closes the raises of the chains that it makes the store forget. -/
theorem Ledger.applyConfig {a : Alerter M} {log : List (LogEntry M)} (ha : Ledger f layout a log)
    (name : String) (payload : List UInt8) :
    Ledger f layout (a.applyConfig name payload)
      (log ++ (a.reconfigured name payload).map LogEntry.reconfigured) := by
  have hjustified := ha.backing.justified.reconfigured (a.reconfigured name payload)
  refine ⟨ha.agrees.applyConfig name payload, ?_, hjustified, fun p o n k hn hk => ?_⟩
  · rw [applyConfig_eq]
    exact ha.family
  · rw [node?_applyConfig] at hn
    by_cases hp : p ∈ a.reconfigured name payload
    · rw [if_pos hp] at hn
      cases hn
    · rw [if_neg hp] at hn
      rw [configFor?_applyConfig ha.agrees.registry.owned hp] at hk
      refine ⟨hjustified, fun m c s hc hs => ?_⟩
      rw [openRaises_reconfigured _ _ _ hp]
      exact (ha.backing.nodes p o n k hn hk).backed m c s hc hs

/-- **Every message keeps the log justified and the flags backed.** -/
theorem Ledger.handle {a : Alerter M} {log : List (LogEntry M)} (ha : Ledger f layout a log)
    {t : Turn} {h : Handled M} (hh : a.handle t.broker t.message = .ok h) :
    Ledger f layout h.alerter (log ++ Round.entries ⟨a, t, h⟩) := by
  have hagrees := ha.agrees.handle hh
  have hfamily : h.alerter.family = f := (sameSetup_handle hh).family.trans ha.family
  rcases handle_cases hh with ⟨hroute, hd⟩ | ⟨name, hroute, rfl⟩ | ⟨hroute, rfl⟩
  · obtain ⟨p, hp, rfl⟩ := handleData_eq_ok hd
    obtain ⟨n, -, halerter, -⟩ := settle_eq (a.classified p) t.broker t.message.tag p.failure.isNone
    rw [ha.family] at hp
    refine ⟨hagrees, hfamily, ?_⟩
    simp only [Round.entries, hroute, List.nil_append, halerter]
    exact ha.backing.process hp
  · simp only [Round.entries, hroute, findings_acknowledge, List.map_nil, List.append_nil]
    exact ha.applyConfig name t.message.payload
  · simp only [Round.entries, hroute, findings_acknowledge, List.map_nil, List.append_nil]
    exact ha

theorem ledger_history (layout : f.Layout) {settings : Settings} {turns : List Turn}
    {H : History M} (h : (new f settings).history turns = .ok H) :
    Ledger f layout H.alerter H.log := by
  refine history_induction (P := fun H => Ledger f layout H.alerter H.log) h
    (ledger_new settings) fun K t handled hK hh => ?_
  have hnext := hK.handle hh
  simpa [History.log, History.add] using hnext

/-- A message without data is found nothing in, and touches neither the outbox nor its alerts. -/
theorem handle_of_route_ne {a : Alerter M} {b : Broker} {m : Message} {h : Handled M}
    (hh : a.handle b m = .ok h) (hroute : a.routing.route m.routingKey ≠ .data) :
    h.findings = [] ∧ h.alerter.outbox = a.outbox ∧ h.calls.filterMap Call.alert? = [] := by
  rcases handle_cases hh with ⟨hdata, -⟩ | ⟨name, -, rfl⟩ | ⟨-, rfl⟩
  · exact absurd hdata hroute
  · refine ⟨rfl, ?_, by simp [acknowledge]⟩
    rw [alerter_acknowledge, applyConfig_eq]
  · exact ⟨rfl, rfl, by simp [acknowledge]⟩

end Alerter

/-- **No resolution without an open raise.**  In every history of a fresh alerter, whatever was
resolved was open: a raise of the same metric of the same node that the resolution closes was found
before, and since then nothing closed it and the configuration of the chain was neither replaced nor
removed.  Messages without data find nothing, leave the outbox as it is, and publish no alert. -/
theorem resolution_closes_open_raise (k : FamilyKind) (settings : Settings) (turns : List Turn)
    {H : History k.Metric} (h : (Alerter.new k.family settings).history turns = .ok H) :
    (∀ before x after, H.log = before ++ .found x :: after → x.event.isResolution = true →
      ∃ raise ∈ openRaises x.subject before, x.event.closes raise = true ∧
        Unresolved x.subject raise before) ∧
    ∀ r ∈ H.rounds, r.before.routing.route r.turn.message.routingKey ≠ .data →
      r.handled.findings = [] ∧ r.handled.alerter.outbox = r.before.outbox ∧
        r.handled.calls.filterMap Call.alert? = [] := by
  refine ⟨fun before x after hlog hres => ?_, fun r hr hroute => ?_⟩
  · have hledger := Alerter.ledger_history k.layout h
    obtain ⟨raise, hmem, hcloses⟩ := hledger.backing.justified before x after hlog hres
    exact ⟨raise, hmem, hcloses, unresolved_of_mem_openRaises hmem⟩
  · exact Alerter.handle_of_route_ne (Alerter.history_of_mem_rounds h hr).2 hroute

/-- After a critical value of a node its next value, a good one, is found to resolve what is open by
then. -/
theorem resolution_closes_open_raise_hub :
    ∃ H before x, (Alerter.new FamilyKind.sample.family Settings.default).history
        [⟨Sample.configuration, .agreeing⟩, ⟨Sample.measurement 8 1, .agreeing⟩,
          ⟨Sample.measurement 1 2, .agreeing⟩] = .ok H ∧
      H.log = before ++ [.found x] ∧ x.event.isResolution = true ∧
      ∃ raise ∈ openRaises x.subject before, x.event.closes raise = true := by
  let resolves (e : LogEntry FamilyKind.sample.Metric) : Bool :=
    match e with
    | .found x => x.event.isResolution
    | .reconfigured _ => false
  have hrun : ((Alerter.new FamilyKind.sample.family Settings.default).history
      [⟨Sample.configuration, .agreeing⟩, ⟨Sample.measurement 8 1, .agreeing⟩,
        ⟨Sample.measurement 1 2, .agreeing⟩]).map (fun H => H.log.getLast?.map resolves) =
        .ok (some true) := by decide +kernel
  obtain ⟨H, hH, hlast⟩ := exists_of_map_eq_ok hrun
  obtain ⟨e, he, hresolves⟩ := Option.map_eq_some_iff.1 hlast
  have hlog : H.log = H.log.dropLast ++ [e] := (List.dropLast_append_getLast? e he).symm
  cases e with
  | reconfigured p => cases hresolves
  | found x =>
      obtain ⟨raise, hmem, hcloses, -⟩ :=
        (resolution_closes_open_raise .sample Settings.default _ hH).1 _ x [] hlog hresolves
      exact ⟨H, H.log.dropLast, x, hH, hlog, hresolves, raise, hmem, hcloses⟩

end NodeAlerts
