import NodeAlerts.Proofs.Calendar
import NodeAlerts.Proofs.Renewal

/-!
# Messages that are delivered twice

A message whose acknowledgement fails is delivered again.  Its alerts are already in the outbox, so
handling it for the second time ought to bring none of them again and to change nothing.  This is so
but for what is reported each time that it is seen, and for counters, whose increase is counted once
more (`redelivery_recurs_or_recounts`).  Both do bring alerts (`redelivery_raises_again`), but never
a resolution.
-/

namespace NodeAlerts

variable {M : Type} [DecidableEq M]

/-! ## What a message brings each time -/

namespace Family

/-- A message tells that a counter of a node increased. -/
def Counts (f : Family M) (payload : List UInt8) (parentId originId : String) (m : M) : Prop :=
  ∃ report ∈ f.reports payload, report.monitoring.origin.parentId = parentId ∧
    report.monitoring.origin.originId = originId ∧
    ∃ r, (m, r) ∈ report.readings ∧ r.Accumulates

/-- One of the reports of a message has this node and time and this reading of the metric, which is
enabled with this configuration. -/
def Reads (f : Family M) (registry : Registry) (payload : List UInt8) (origin : Origin)
    (now : Instant) (m : M) (c : MetricConfig) (r : Reading) : Prop :=
  ∃ report ∈ f.reports payload, report.monitoring.origin = origin ∧
    report.monitoring.timestamp = .ok now ∧ (m, r) ∈ report.readings ∧
    ∃ config, registry.configFor? origin.parentId = some config ∧
      config.enabled? (f.metricName m) = some c

/-- A finding that a message brings each time it is processed: its event recurs whenever the reading
of its metric is classified. -/
def Recurs (f : Family M) (registry : Registry) (payload : List UInt8) (x : Finding M) : Prop :=
  ∃ c r, f.Reads registry payload x.origin x.time x.metric c r ∧ r.Recurs c x.event

/-- A finding that a message brings when it is processed again, where the store is what was
remembered before: an increase that is counted once more crosses a threshold. -/
def Exceeds (f : Family M) (registry : Registry) (store : Store M) (payload : List UInt8)
    (x : Finding M) : Prop :=
  ∃ c r t, f.Reads registry payload x.origin x.time x.metric c r ∧
    store.state? x.origin.parentId x.origin.originId x.metric = some t ∧
    r.Exceeds c x.time t x.event

/-- What becomes of the state of a metric when a message is processed again: an increase is counted
once more, at the same time. -/
def Recounts (f : Family M) (registry : Registry) (payload : List UInt8)
    (parentId originId : String) (m : M) (t t' : MetricState) : Prop :=
  ∃ origin now c r, origin.parentId = parentId ∧ origin.originId = originId ∧
    f.Reads registry payload origin now m c r ∧ r.Recounts c now t t'

end Family

/-- If conditions are not resolved each time, no resolution recurs. -/
theorem Reading.Recurs.isResolution_eq_false {r : Reading} {c : MetricConfig} {e : Event}
    (h : r.Recurs c e) (hr : r.rule ≠ .condition true) : e.isResolution = false := by
  have hcritical : e.severity = .critical → e.isResolution = false := by
    intro hseverity
    refine Bool.eq_false_iff.2 fun hresolves => ?_
    rw [Event.severity_of_isResolution hresolves] at hseverity
    cases hseverity
  cases r with
  | gauge => exact hcritical h.2
  | counter => exact hcritical h.2
  | progress => exact hcritical h.2
  | downtime => exact hcritical h.2
  | fault tracked received message =>
      rw [h.2]
      rfl
  | condition holds detail cleared =>
      rcases h with ⟨-, rfl⟩ | ⟨-, text, rfl, -⟩
      · rfl
      · exact absurd rfl hr
  | transition => exact h.elim

/-- What is counted once more raises an alert, and resolves none. -/
theorem Reading.Exceeds.isResolution_eq_false {r : Reading} {c : MetricConfig} {now : Instant}
    {t : MetricState} {e : Event} (h : r.Exceeds c now t e) : e.isResolution = false := by
  cases r with
  | counter current previous =>
      obtain ⟨-, severity, -, -, rfl⟩ := h
      rfl
  | _ => exact h.elim

namespace Family

variable {f : Family M} {registry : Registry} {payload : List UInt8}

omit [DecidableEq M] in
theorem exists_reports_of_mem {report : Report M} (h : report ∈ f.reports payload) :
    ∃ reports, f.reports? payload = some reports ∧ report ∈ reports := by
  rw [reports] at h
  cases hreports : f.reports? payload with
  | none => simp [hreports] at h
  | some reports => exact ⟨reports, rfl, by simpa [hreports] using h⟩

/-- What a report brings when it is classified again is no resolution; it recurs, or an increase is
counted once more. -/
theorem recurs_or_exceeds (layout : f.Layout) {store : Store M} {x : Finding M} {report : Report M}
    (hmem : report ∈ f.reports payload) (h : report.Brings f registry store x) :
    x.event.isResolution = false ∧
      (f.Recurs registry payload x ∨ f.Exceeds registry store payload x) := by
  obtain ⟨config, now, hconfig, htime, horigin, hnow, c, r, hc, hreading, hr⟩ := h
  rw [Report.remembered, ← horigin] at hr
  have hreads : f.Reads registry payload x.origin x.time x.metric c r :=
    ⟨report, hmem, horigin.symm, by rw [htime, hnow], hreading, config, horigin ▸ hconfig, hc⟩
  rcases hr with hrecurs | ⟨t, ht, hexceeds⟩
  · have hrule : r.rule ≠ .condition true := by
      obtain ⟨reports, hreports, hmem⟩ := exists_reports_of_mem hmem
      rw [(layout.follows hreports report hmem).rule_reading _ hreading]
      exact layout.rule_ne x.metric
    exact ⟨hrecurs.isResolution_eq_false hrule, Or.inl ⟨c, r, hreads, hrecurs⟩⟩
  · rw [← hnow] at hexceeds
    exact ⟨hexceeds.isResolution_eq_false, Or.inr ⟨c, r, t, hreads, ht, hexceeds⟩⟩

end Family

/-! ## Stores that differ in some metrics -/

/-- Two stores know the same chains and the same nodes. -/
structure Store.SameNodes (s s' : Store M) : Prop where
  /-- The same chains are known. -/
  chain : ∀ p, s'.hasChain p = s.hasChain p
  /-- The same nodes are remembered. -/
  node : ∀ p o, (s'.node? p o).isSome = (s.node? p o).isSome
  /-- Each chain has as many nodes. -/
  count : ∀ p, s'.nodeCount p = s.nodeCount p

/-- Two stores know the same chains and nodes, and remember the same about each metric unless it was
changed in a certain way. -/
structure Store.SameBut (s s' : Store M)
    (changed : String → String → M → MetricState → MetricState → Prop) : Prop
    extends s.SameNodes s' where
  /-- The same is remembered about each metric, unless it was changed. -/
  state : ∀ p o m, s'.state? p o m = s.state? p o m ∨
    ∃ t t', s.state? p o m = some t ∧ s'.state? p o m = some t' ∧ changed p o m t t'

namespace Store

variable {s : Store M}

omit [DecidableEq M] in
theorem SameNodes.trans {s' s'' : Store M} (h : s.SameNodes s') (h' : s'.SameNodes s'') :
    s.SameNodes s'' where
  chain p := (h'.chain p).trans (h.chain p)
  node p o := (h'.node p o).trans (h.node p o)
  count p := (h'.count p).trans (h.count p)

/-- An amendment of a node that is remembered adds no chain and no node. -/
theorem sameNodes_amend {x : Amendment M} (hx : s.Remembers x) : s.SameNodes (s.amend x) := by
  obtain ⟨n, hn⟩ := Option.isSome_iff_exists.1 hx
  have hnode : ∀ p o, ((s.amend x).node? p o).isSome = (s.node? p o).isSome := by
    intro p o
    rw [node?_amend]
    by_cases hp : p = x.parentId ∧ o = x.originId
    · rw [if_pos hp, hp.1, hp.2, hn]
      rfl
    · rw [if_neg hp]
  refine ⟨fun p => ?_, hnode, fun p => Table.size_congr (hnode p)⟩
  rw [hasChain_amend]
  by_cases hp : p = x.parentId
  · rw [hp, hasChain_of_node? hn, Bool.or_true]
  · simp [hp]

/-- An amendment of a node that is remembered changes only what it writes. -/
theorem state?_amend_cases {x : Amendment M} (hx : s.Remembers x) (p o : String) (m : M) :
    (s.amend x).state? p o m = s.state? p o m ∨
      ∃ w ∈ x.writes, x.parentId = p ∧ x.originId = o ∧ w.1 = m ∧
        (s.amend x).state? p o m = some w.2 := by
  obtain ⟨n, hn⟩ := Option.isSome_iff_exists.1 hx
  by_cases hp : p = x.parentId ∧ o = x.originId
  · obtain ⟨rfl, rfl⟩ := hp
    have hnode : (s.amend x).node? x.parentId x.originId = some (n.setAll x.writes) := by
      rw [node?_amend, if_pos ⟨rfl, rfl⟩, hn, Option.getD_some]
    rw [state?_of_node? hnode, state?_of_node? hn]
    rcases NodeState.get?_setAll_cases x.writes n (m := m) with hsame | ⟨w, hw, hm, hset⟩
    · exact Or.inl hsame
    · exact Or.inr ⟨w, hw, rfl, rfl, hm, hset⟩
  · refine Or.inl ?_
    rw [state?, state?, node?_amend, if_neg hp]

/-- Amendments of nodes that are remembered change only what they write. -/
theorem sameNodes_and_state?_amendAll :
    ∀ (xs : List (Amendment M)) {s : Store M}, (∀ x ∈ xs, s.Remembers x) →
      s.SameNodes (s.amendAll xs) ∧
      ∀ p o m, (s.amendAll xs).state? p o m = s.state? p o m ∨
        ∃ x ∈ xs, ∃ w ∈ x.writes, x.parentId = p ∧ x.originId = o ∧ w.1 = m ∧
          (s.amendAll xs).state? p o m = some w.2 := by
  intro xs
  induction xs with
  | nil => exact fun _ => ⟨⟨fun _ => rfl, fun _ _ => rfl, fun _ => rfl⟩, fun _ _ _ => Or.inl rfl⟩
  | cons x rest ih =>
      intro s h
      have hx : s.Remembers x := h x (List.mem_cons_self ..)
      obtain ⟨hnodes, hstate⟩ := ih (s := s.amend x) fun y hy =>
        (h y (List.mem_cons_of_mem _ hy)).amendAll [x]
      refine ⟨(sameNodes_amend hx).trans hnodes, fun p o m => ?_⟩
      rcases hstate p o m with hsame | ⟨y, hy, hwritten⟩
      · rcases state?_amend_cases hx p o m with hsame' | ⟨w, hw, hp, ho, hm, hset⟩
        · exact Or.inl (hsame.trans hsame')
        · exact Or.inr ⟨x, List.mem_cons_self .., w, hw, hp, ho, hm, hsame.trans hset⟩
      · exact Or.inr ⟨y, List.mem_cons_of_mem _ hy, hwritten⟩

end Store

/-! ## Messages that are processed twice -/

/-- What an amendment by increases writes, the message counts once more. -/
theorem Amendment.Accrues.recounts {f : Family M} {registry : Registry} {store : Store M}
    {payload : List UInt8} {x : Amendment M} {report : Report M}
    (hmem : report ∈ f.reports payload) (h : x.Accrues report f registry store) :
    ∀ w ∈ x.writes, ∃ t, store.state? x.parentId x.originId w.1 = some t ∧
      f.Recounts registry payload x.parentId x.originId w.1 t w.2 := by
  intro w hw
  obtain ⟨config, now, hconfig, htime, hwrites⟩ := h.writes
  obtain ⟨c, r, t, hc, hreading, ht, hrecounts⟩ := hwrites w hw
  rw [h.parentId, h.originId]
  exact ⟨t, ht, _, now, c, r, rfl, rfl, ⟨report, hmem, rfl, htime, hreading, config, hconfig, hc⟩,
    hrecounts⟩

omit [DecidableEq M] in
theorem Family.Recounts.counts {f : Family M} {registry : Registry} {payload : List UInt8}
    {p o : String} {m : M} {t t' : MetricState} (h : f.Recounts registry payload p o m t t') :
    f.Counts payload p o m := by
  obtain ⟨origin, now, c, r, rfl, rfl, ⟨report, hmem, rfl, -, hreading, -⟩, hrecounts⟩ := h
  exact ⟨report, hmem, rfl, rfl, r, hreading, hrecounts.accumulates⟩

namespace Processed.Renews

variable {f : Family M} {registry : Registry} {payload : List UInt8} {p p' : Processed M}

/-- Only increases that are counted once more differ. -/
theorem sameBut (h : p.Renews p' f registry (f.reports payload)) :
    p.store.SameBut p'.store (f.Recounts registry payload) := by
  obtain ⟨xs, hxs, haccrue⟩ := h.store
  obtain ⟨hnodes, hstate⟩ :=
    Store.sameNodes_and_state?_amendAll xs fun x hx => (haccrue x hx).2.1
  rw [hxs]
  refine ⟨hnodes, fun q o m => (hstate q o m).imp id ?_⟩
  rintro ⟨x, hx, w, hw, rfl, rfl, rfl, hset⟩
  obtain ⟨-, -, report, hmem, haccrues⟩ := haccrue x hx
  obtain ⟨t, ht, hrecounts⟩ := haccrues.recounts hmem w hw
  exact ⟨t, w.2, ht, hset, hrecounts⟩

/-- If no counter increased, nothing differs. -/
theorem store_eq (h : p.Renews p' f registry (f.reports payload))
    (hnone : ∀ parentId originId m, ¬ f.Counts payload parentId originId m) :
    p'.store = p.store := by
  obtain ⟨xs, hxs, haccrue⟩ := h.store
  have hempty : xs = [] := by
    refine List.eq_nil_iff_forall_not_mem.2 fun x hx => ?_
    obtain ⟨-, -, report, hmem, haccrues⟩ := haccrue x hx
    obtain ⟨w, hw⟩ := List.exists_mem_of_ne_nil _ haccrues.nonempty
    obtain ⟨t, -, hrecounts⟩ := haccrues.recounts hmem w hw
    exact hnone _ _ _ hrecounts.counts
  rw [hxs, hempty]
  rfl

end Processed.Renews

/-! ## The second delivery -/

/-- **A message that is delivered twice.**  Let an alerter have any history and handle a message
with data about a node, whether or not this is acknowledged.  Then the same message can be handled
again.

* It brings no resolution of a problem, and an alert only where it has to be reported each time (an
  error of monitoring that is still received, a condition that holds, or a critical alert that is
  repeated without an interval), or where an increase that is counted once more crosses a threshold
  that was not breached before.
* The configurations stay as they were, and so do the chains and the nodes that are remembered.  The
  state of a metric stays as it was, or an increase is counted in it once more, at the same time:
  the totals grow, and beside them only the alerts are opened whose thresholds this crosses.
* If no counter increased, nothing that is remembered is changed. -/
theorem redelivery_recurs_or_recounts (k : FamilyKind) {settings : Settings}
    {turns : List Turn} {H : History k.Metric}
    (h : (Alerter.new k.family settings).history turns = .ok H) {m : Message}
    (hroute : (⟨k.family.name⟩ : Routing).route m.routingKey = .data) {b : Broker}
    {g : Handled k.Metric} (hg : H.alerter.handle b m = .ok g) (b' : Broker) :
    ∃ g', g.alerter.handle b' m = .ok g' ∧
      (∀ x ∈ g'.findings, x.event.isResolution = false ∧
        (k.family.Recurs g.alerter.registry m.payload x ∨
          k.family.Exceeds g.alerter.registry g.alerter.store m.payload x)) ∧
      g'.alerter.registry = g.alerter.registry ∧
      g.alerter.store.SameBut g'.alerter.store
        (k.family.Recounts g.alerter.registry m.payload) ∧
      ((∀ p o metric, ¬ k.family.Counts m.payload p o metric) →
        g'.alerter.store = g.alerter.store) := by
  have hagrees : H.alerter.Agrees := Alerter.agrees_history h
  have hfamily : H.alerter.family = k.family := (Alerter.sameSetup_history h).family
  have hdata : H.alerter.routing.route m.routingKey = .data :=
    ((Alerter.sameSetup_history h).route_eq _).trans hroute
  obtain ⟨p, hp⟩ := Alerter.exists_process_of_handle hdata hg
  obtain ⟨h₁, outbox, hh₁, -, halerter⟩ := Alerter.exists_handle_of_process hdata hp b
  obtain rfl : h₁ = g := Except.ok.inj (hh₁.symm.trans hg)
  have hstore : H.alerter.store.Agrees k.family H.alerter.registry := hfamily ▸ hagrees.store
  rw [hfamily] at hp
  obtain ⟨p', hp', hrenews⟩ := Family.renews_process k.sources hagrees.registry hstore hp
  have hdata' : h₁.alerter.routing.route m.routingKey = .data := by
    rw [halerter]
    exact hdata
  have hagain : h₁.alerter.family.process h₁.alerter.registry h₁.alerter.store m.payload =
      .ok p' := by
    rw [halerter]
    exact hfamily ▸ hp'
  obtain ⟨g', outbox', hg', hfindings, halerter'⟩ :=
    Alerter.exists_handle_of_process hdata' hagain b'
  have hregistry : h₁.alerter.registry = H.alerter.registry := by rw [halerter]
  have hbefore : h₁.alerter.store = p.store := by rw [halerter]
  have hafter : g'.alerter.store = p'.store := by rw [halerter']
  rw [hregistry, hbefore]
  refine ⟨g', hg', fun x hx => ?_, by rw [halerter', hregistry], ?_⟩
  · rw [hfindings] at hx
    obtain ⟨report, hmem, hbrings⟩ := hrenews.findings x hx
    exact Family.recurs_or_exceeds k.layout hmem hbrings
  · rw [hafter]
    exact ⟨hrenews.sameBut, hrenews.store_eq⟩

/-- The broker that loses its connection before the first acknowledgement. -/
def Broker.disconnected : Broker := { Broker.agreeing with acks := [.error .notConnected] }

namespace Family

/-- A message that comes after a configuration cannot be acknowledged and is delivered again: the
first time it brings `n` alerts, the second time `again`. -/
def Redelivers (f : Family M) (configuration m : Message) (n again : Nat) : Prop :=
  ∃ H g g', (Alerter.new f Settings.default).history [⟨configuration, .agreeing⟩] = .ok H ∧
    H.alerter.handle .disconnected m = .ok g ∧ g.failure = some (.acknowledge .notConnected) ∧
    g.findings.length = n ∧ g.alerter.handle .agreeing m = .ok g' ∧ g'.findings.length = again

/-- How the first delivery fails, and how many alerts both deliveries bring. -/
def redelivered (f : Family M) (configuration m : Message) :
    Except Overrun (Option AlerterError × Nat × Nat) := do
  let H ← (Alerter.new f Settings.default).history [⟨configuration, .agreeing⟩]
  let g ← H.alerter.handle .disconnected m
  let g' ← g.alerter.handle .agreeing m
  return (g.failure, g.findings.length, g'.findings.length)

theorem redelivers_of_redelivered {f : Family M} {configuration m : Message} {n again : Nat}
    (h : f.redelivered configuration m = .ok (some (.acknowledge .notConnected), n, again)) :
    f.Redelivers configuration m n again := by
  obtain ⟨H, hH, h⟩ := exists_of_bind_eq_ok h
  obtain ⟨g, hg, h⟩ := exists_of_bind_eq_ok h
  obtain ⟨g', hg', h⟩ := exists_of_bind_eq_ok h
  obtain ⟨hfailure, hcounts⟩ := Prod.mk.inj (Except.ok.inj h)
  obtain ⟨hn, hagain⟩ := Prod.mk.inj hcounts
  exact ⟨H, g, g', hH, hg, hfailure, hn, hg', hagain⟩

end Family

/-- The sample family has no counters. -/
theorem Sample.not_counts {payload : List UInt8} {parentId originId : String} {m : Sample.Metric} :
    ¬ Sample.family.Counts payload parentId originId m := by
  rintro ⟨report, hmem, -, -, r, hreading, haccumulates⟩
  obtain ⟨reports, hreports, hmem⟩ := Family.exists_reports_of_mem hmem
  obtain ⟨d, -, rfl⟩ := Option.map_eq_some_iff.1 hreports
  rw [List.mem_singleton.1 hmem, Sample.NodeData.report, List.mem_singleton,
    Prod.mk.injEq] at hreading
  rw [hreading.2] at haccumulates
  exact haccumulates

/-- One missed block is below its threshold of two; delivered again it is counted once more. -/
theorem Cosmos.redelivers_missedBlocks : FamilyKind.cosmos.family.Redelivers
    (Cosmos.blocksWithin "60") (Cosmos.missedBlocks 1 1) 0 1 :=
  Family.redelivers_of_redelivered (by decide +kernel)

/-- A value above its critical threshold brings an alert, which stays in the outbox as the broker
cannot be told; delivered again the value brings none, and nothing that is remembered is changed.
What missed blocks bring when they are delivered again is no resolution either, and what is
remembered of them changes by one more count only. -/
theorem redelivery_recurs_or_recounts_hub :
    (∃ H g g', (Alerter.new FamilyKind.sample.family Settings.default).history
        [⟨Sample.configuration, .agreeing⟩] = .ok H ∧
      H.alerter.handle .disconnected (Sample.measurement 8 1) = .ok g ∧
      (g.findings.length = 1 ∧ g.failure = some (.acknowledge .notConnected)) ∧
      g.alerter.handle .agreeing (Sample.measurement 8 1) = .ok g' ∧
      g'.findings = [] ∧ g'.alerter.store = g.alerter.store) ∧
    ∃ H g g', (Alerter.new FamilyKind.cosmos.family Settings.default).history
        [⟨Cosmos.blocksWithin "60", .agreeing⟩] = .ok H ∧
      H.alerter.handle .disconnected (Cosmos.missedBlocks 1 1) = .ok g ∧
      (g.findings.length = 0 ∧ g.failure = some (.acknowledge .notConnected)) ∧
      g.alerter.handle .agreeing (Cosmos.missedBlocks 1 1) = .ok g' ∧
      g'.findings.length = 1 ∧
      (∀ x ∈ g'.findings, x.event.isResolution = false ∧
        (Cosmos.family.Recurs g.alerter.registry (Cosmos.missedBlocks 1 1).payload x ∨
          Cosmos.family.Exceeds g.alerter.registry g.alerter.store
            (Cosmos.missedBlocks 1 1).payload x)) ∧
      g.alerter.store.SameBut g'.alerter.store
        (Cosmos.family.Recounts g.alerter.registry (Cosmos.missedBlocks 1 1).payload) := by
  have hvalue : FamilyKind.sample.family.Redelivers Sample.configuration (Sample.measurement 8 1)
      1 0 := Family.redelivers_of_redelivered (by decide +kernel)
  constructor
  · obtain ⟨H, g, g₂, hH, hg, hfailure, hfound, hg₂, hagain⟩ := hvalue
    obtain ⟨g', hg', -, -, -, hsame⟩ :=
      redelivery_recurs_or_recounts .sample hH (by decide +kernel) hg .agreeing
    obtain rfl : g₂ = g' := Except.ok.inj (hg₂.symm.trans hg')
    exact ⟨H, g, g₂, hH, hg, ⟨hfound, hfailure⟩, hg₂, List.length_eq_zero_iff.1 hagain,
      hsame fun _ _ _ => Sample.not_counts⟩
  · obtain ⟨H, g, g₂, hH, hg, hfailure, hfound, hg₂, hagain⟩ := Cosmos.redelivers_missedBlocks
    obtain ⟨g', hg', hfindings, -, hbut, -⟩ :=
      redelivery_recurs_or_recounts .cosmos hH (by decide +kernel) hg .agreeing
    obtain rfl : g₂ = g' := Except.ok.inj (hg₂.symm.trans hg')
    exact ⟨H, g, g₂, hH, hg, ⟨hfound, hfailure⟩, hg₂, hagain, hfindings, hbut⟩

/-! ## Alerts that are brought again -/

namespace Substrate

open NodeAlerts.Json

/-- Configures one metric of the chain `hub`. -/
def configuration (metric : String) (others : List (String × Value)) : Message where
  routingKey := (⟨family.name⟩ : Routing).configKey "hub"
  payload := Value.bytes <| .ofObject <| Table.ofList [("0", .ofObject <| Table.ofList <|
    [("name", .text metric), ("parent_id", .text "hub"), ("enabled", .text "yes")] ++ others)]
  tag := 0

/-- What became of the websocket interface of the node `v` of `hub` in a round of monitoring. -/
def round (outcome : String) (seconds : Nat) (others : List (String × Value)) : Message where
  routingKey := (⟨family.name⟩ : Routing).dataKey
  payload := Value.bytes <| .ofObject <| Table.ofList [("websocket", .ofObject <| Table.ofList
    [(outcome, .ofObject <| Table.ofList <|
      ("meta_data", .ofObject <| Table.ofList
        [("node_name", .text "validator"), ("node_id", .text "v"), ("node_parent_id", .text "hub"),
          ("last_monitored", .ofCount seconds)]) :: others)])]
  tag := seconds

/-- The address of the node is not valid. -/
def unreachable (seconds : Nat) : Message :=
  round "error" seconds [("message", .text "Invalid URL"), ("code", .ofCount 5009)]

/-- The validator was slashed. -/
def slashed (seconds : Nat) : Message :=
  round "result" seconds [("data", .ofObject <| Table.ofList [("slashed", .ofObject <|
    Table.ofList [("current", .ofObject <| Table.ofList [("slashed", .bool true)])])])]

/-- The number of peers. -/
def peers (n seconds : Nat) : Message :=
  round "result" seconds [("data", .ofObject <| Table.ofList [("no_of_peers", .ofObject <|
    Table.ofList [("current", .ofCount n)])])]

end Substrate

/-- **Some alerts are brought again** when their message is delivered again: an error of monitoring,
a slashing, a problem whose critical alerts are repeated without an interval, and missed blocks that
are counted twice. -/
theorem redelivery_raises_again :
    FamilyKind.substrate.family.Redelivers
      (Substrate.configuration "websocket_invalid_url" []) (Substrate.unreachable 1) 1 1 ∧
    FamilyKind.substrate.family.Redelivers
      (Substrate.configuration "validator_was_slashed" []) (Substrate.slashed 1) 1 1 ∧
    FamilyKind.substrate.family.Redelivers
      (Substrate.configuration "no_of_peers" [("critical_enabled", .text "yes"),
        ("critical_threshold", .text "5"), ("critical_repeat_enabled", .text "yes")])
      (Substrate.peers 3 1) 1 1 ∧
    FamilyKind.cosmos.family.Redelivers
      (Cosmos.blocksWithin "60") (Cosmos.missedBlocks 1 1) 0 1 := by
  refine ⟨?_, ?_, ?_, ?_⟩
  · exact Family.redelivers_of_redelivered (by decide +kernel)
  · exact Family.redelivers_of_redelivered (by decide +kernel)
  · exact Family.redelivers_of_redelivered (by decide +kernel)
  · exact Cosmos.redelivers_missedBlocks

end NodeAlerts
