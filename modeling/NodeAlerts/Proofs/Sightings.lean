import NodeAlerts.Proofs.Course
import NodeAlerts.Proofs.Feeds
import NodeAlerts.Proofs.Sources

/-!
# What messages about a node do to one of its metrics

A metric of a node sees nothing of its messages but the readings of the sources that are classified
(`Feed.reached`), one after another: its state goes from one to the next as its rule says, and the
findings about it are the events found on this way (`MetricState.Leads`).  This is told for the
readings of a report (`Family.leads_classifyAll`), for the sources of a message
(`Store.Follows.processReports`), and for any sequence of messages about the node
(`Alerter.exists_leads_of_history`).
-/

namespace NodeAlerts

variable {M : Type} [DecidableEq M]

/-! ## Sightings and events -/

/-- The events that were found about a metric, in order. -/
def eventsAbout (m : M) (findings : List (Finding M)) : List Event :=
  (findings.filter fun x => x.metric = m).map (·.event)

theorem eventsAbout_append (m : M) (xs ys : List (Finding M)) :
    eventsAbout m (xs ++ ys) = eventsAbout m xs ++ eventsAbout m ys := by
  simp [eventsAbout]

theorem eventsAbout_map (origin : Origin) (now : Instant) (m m' : M) (events : List Event) :
    eventsAbout m (events.map (Finding.mk origin now m')) = if m' = m then events else [] := by
  by_cases hm : m' = m
  · simp [eventsAbout, List.filter_map, Function.comp_def, hm]
  · simp [eventsAbout, List.filter_map, Function.comp_def, hm]

/-- The readings of a metric, which are seen at one time. -/
def sightingsOf (m : M) (now : Instant) (readings : List (M × Reading)) : List Sighting :=
  (readings.filter fun e => e.1 = m).map fun e => ⟨now, e.2⟩

theorem sightingsOf_append (m : M) (now : Instant) (readings others : List (M × Reading)) :
    sightingsOf m now (readings ++ others) =
      sightingsOf m now readings ++ sightingsOf m now others := by
  simp [sightingsOf]

theorem sightingsOf_singleton (m m' : M) (r : Reading) (now : Instant) :
    sightingsOf m now [(m', r)] = if m' = m then [⟨now, r⟩] else [] := by
  by_cases hm : m' = m <;> simp [sightingsOf, hm]

/-- Sightings lead from one state of a metric to another, and bring some events on the way. -/
inductive MetricState.Leads (c : MetricConfig) :
    MetricState → List Sighting → List Event → MetricState → Prop where
  /-- Nothing is seen. -/
  | refl (s : MetricState) : Leads c s [] [] s
  /-- One more sighting is classified at first. -/
  | cons {s s' : MetricState} {x : Sighting} {rest : List Sighting} {events : List Event}
      {step : Step} (hstep : x.reading.classify c x.time s = .ok step)
      (hrest : Leads c step.state rest events s') :
      Leads c s (x :: rest) (step.events ++ events) s'

theorem MetricState.Leads.append {c : MetricConfig} {s s' s'' : MetricState}
    {xs ys : List Sighting} {events others : List Event} (h : s.Leads c xs events s')
    (h' : s'.Leads c ys others s'') : s.Leads c (xs ++ ys) (events ++ others) s'' := by
  induction h with
  | refl s => exact h'
  | cons hstep _ ih =>
      rw [List.cons_append, List.append_assoc]
      exact .cons hstep (ih h')

/-! ## Readings -/

namespace Family

variable {f : Family M} {config : ChainConfig} {c : MetricConfig} {origin : Origin} {now : Instant}

/-- A reading leads the state of its own metric on, and leaves that of every other one. -/
theorem leads_classifyOne (hmetrics : ∀ m, m ∈ f.metrics) {m m' : M}
    (hc : config.enabled? (f.metricName m) = some c) {node : NodeState M}
    (hn : node.Agrees f config) {s : MetricState} (hs : node.get? m = some s) {r : Reading}
    {one : Batch M} (h : f.classifyOne config origin now node m' r = .ok one) :
    ∃ s', one.node.get? m = some s' ∧
      s.Leads c (sightingsOf m now [(m', r)]) (eventsAbout m one.findings) s' := by
  have hfailure := failure_classifyOne hn (hmetrics m') h
  rw [sightingsOf_singleton]
  rcases classifyOne_cases h with
    ⟨hc', rfl⟩ | ⟨c', -, -, rfl⟩ | ⟨c', s₀, step, hc', hs', hstep, rfl⟩
  · have hne : m' ≠ m := by
      rintro rfl
      rw [hc] at hc'
      cases hc'
    rw [if_neg hne]
    exact ⟨s, hs, .refl s⟩
  · cases hfailure
  · rw [NodeState.get?_set, eventsAbout_map]
    by_cases hm : m' = m
    · subst hm
      cases hc.symm.trans hc'
      cases hs.symm.trans hs'
      rw [if_pos rfl, if_pos rfl, if_pos rfl, hs]
      refine ⟨step.state, rfl, ?_⟩
      have hleads := MetricState.Leads.cons (x := ⟨now, r⟩) hstep (.refl step.state)
      rwa [List.append_nil] at hleads
    · rw [if_neg hm, if_neg (Ne.symm hm), if_neg hm]
      exact ⟨s, hs, .refl s⟩

/-- **The readings of a report** lead the state of each metric through those that are its own. -/
theorem leads_classifyAll (hmetrics : ∀ m, m ∈ f.metrics) {m : M}
    (hc : config.enabled? (f.metricName m) = some c) {readings : List (M × Reading)}
    {node : NodeState M} (hn : node.Agrees f config) {s : MetricState}
    (hs : node.get? m = some s) {b : Batch M}
    (h : f.classifyAll config origin now readings node = .ok b) :
    ∃ s', b.node.get? m = some s' ∧ b.failure = none ∧
      s.Leads c (sightingsOf m now readings) (eventsAbout m b.findings) s' := by
  induction readings generalizing node s b with
  | nil =>
      cases h
      exact ⟨s, hs, rfl, .refl s⟩
  | cons e rest ih =>
      obtain ⟨m', r⟩ := e
      obtain ⟨one, hone, ⟨hfailure, -⟩ | ⟨others, hothers, rfl⟩⟩ := classifyAll_cons h
      · exact absurd (failure_classifyOne hn (hmetrics m') hone) hfailure
      · obtain ⟨s₁, hs₁, hleads⟩ := leads_classifyOne hmetrics hc hn hs hone
        obtain ⟨s', hs', hfailure, hleads'⟩ := ih (agrees_classifyOne hn hone) hs₁ hothers
        refine ⟨s', hs', hfailure, ?_⟩
        rw [← List.singleton_append, sightingsOf_append, eventsAbout_append]
        exact hleads.append hleads'

end Family

/-! ## Sources that are classified -/

namespace Feed

variable {registry : Registry}

/-- The sources of a message that are classified, with their times: the chain is configured, the
time is in the calendar, and no source before has ended the message. -/
def reached {M : Type} (registry : Registry) : List (Feed M) → List (Feed M × Instant)
  | [] => []
  | x :: rest =>
    match registry.configFor? x.monitoring.origin.parentId with
    | none => reached registry rest
    | some _ =>
      match x.monitoring.timestamp with
      | .error _ => []
      | .ok now => (x, now) :: if x.report.defect.isNone then reached registry rest else []

omit [DecidableEq M] in
/-- **A source is classified** if its chain is configured, its time is in the calendar, and none of
those before it ends the message. -/
theorem mem_reached_iff {x : Feed M} {now : Instant} {feeds : List (Feed M)} :
    (x, now) ∈ reached registry feeds ↔
      ∃ earlier later, feeds = earlier ++ x :: later ∧
        (∀ y ∈ earlier, ∀ e, ¬ y.Ends registry e) ∧
        (∃ config, registry.configFor? x.monitoring.origin.parentId = some config) ∧
        x.monitoring.timestamp = .ok now := by
  have hfound : (x, now) ∈ reached registry feeds ↔
      ∃ earlier y later, feeds = earlier ++ y :: later ∧
        (∀ y ∈ earlier, ∀ e, ¬ y.Ends registry e) ∧
        (y = x ∧ (∃ config, registry.configFor? x.monitoring.origin.parentId = some config) ∧
          x.monitoring.timestamp = .ok now) := by
    induction feeds with
    | nil => exact iff_of_false List.not_mem_nil (by simp)
    | cons z rest ih =>
        rw [exists_split_cons, ← ih, ← passes_report_iff, Report.Passes, monitoring_report, reached]
        by_cases hz : z = x
        · subst hz
          cases registry.configFor? z.monitoring.origin.parentId <;>
            cases z.monitoring.timestamp <;> cases z.report.defect <;>
              simp [eq_comm]
        · cases registry.configFor? z.monitoring.origin.parentId <;>
            cases z.monitoring.timestamp <;> cases z.report.defect <;>
              simp [hz, Ne.symm hz]
  rw [hfound]
  constructor
  · rintro ⟨earlier, _, later, h, hearlier, rfl, hx⟩
    exact ⟨earlier, later, h, hearlier, hx⟩
  · rintro ⟨earlier, later, h, hearlier, hx⟩
    exact ⟨earlier, x, later, h, hearlier, rfl, hx⟩

omit [DecidableEq M] in
/-- The sources that are classified stand in the order of the message. -/
theorem sublist_reached (registry : Registry) (feeds : List (Feed M)) :
    ((reached registry feeds).map Prod.fst).Sublist feeds := by
  induction feeds with
  | nil => exact .slnil
  | cons x rest ih =>
      rw [reached]
      cases registry.configFor? x.monitoring.origin.parentId with
      | none => exact ih.cons x
      | some config =>
          cases x.monitoring.timestamp with
          | error e => exact List.nil_sublist _
          | ok now =>
              cases x.report.defect with
              | none => exact ih.cons_cons x
              | some e => exact (List.nil_sublist rest).cons_cons x

/-- The sightings of a metric at the sources that are classified. -/
def sightings (registry : Registry) (m : M) (feeds : List (Feed M)) : List Sighting :=
  (reached registry feeds).flatMap fun e => sightingsOf m e.2 e.1.report.readings

/-- A report that does not read a metric twice has at most one sighting of it, and none if the
metric belongs to another source. -/
theorem length_sightingsOf_le {source : M → String} {report : Report M}
    (h : report.Keeps source) (m : M) (now : Instant) :
    (sightingsOf m now report.readings).length ≤ 1 ∧
      (source m ≠ report.source → sightingsOf m now report.readings = []) := by
  constructor
  · have hcount : (sightingsOf m now report.readings).length =
        (report.readings.map Prod.fst).count m := by
      rw [sightingsOf, List.length_map, List.count, List.countP_map, List.countP_eq_length_filter]
      rfl
    rw [hcount]
    exact List.nodup_iff_count.1 h.nodup m
  · intro hne
    simp only [sightingsOf, List.map_eq_nil_iff, List.filter_eq_nil_iff, decide_eq_true_eq]
    rintro e he rfl
    exact hne (h.source_reading e he)

/-- Reports that share no source have at most one sighting of a metric. -/
theorem length_flatMap_sightingsOf_le {source : M → String} (m : M)
    {seen : List (Feed M × Instant)} (hkeeps : ∀ e ∈ seen, e.1.report.Keeps source)
    (hnodup : (seen.map fun e => e.1.report.source).Nodup) :
    (seen.flatMap fun e => sightingsOf m e.2 e.1.report.readings).length ≤ 1 := by
  induction seen with
  | nil => exact Nat.zero_le 1
  | cons e rest ih =>
      obtain ⟨he, hrest⟩ := List.forall_mem_cons.1 hkeeps
      rw [List.map_cons, List.nodup_cons] at hnodup
      rw [List.flatMap_cons, List.length_append]
      by_cases hsource : source m = e.1.report.source
      · -- the other sources have other metrics
        have hothers : (rest.flatMap fun e => sightingsOf m e.2 e.1.report.readings) = [] := by
          rw [List.flatMap_eq_nil_iff]
          intro d hd
          refine (length_sightingsOf_le (hrest d hd) m d.2).2 fun heq => hnodup.1 ?_
          rw [← hsource, heq]
          exact List.mem_map_of_mem hd
        rw [hothers]
        exact (length_sightingsOf_le he m e.2).1
      · rw [(length_sightingsOf_le he m e.2).2 hsource, List.length_nil, Nat.zero_add]
        exact ih hrest hnodup.2

/-- Sources that share no metric show each metric at most once. -/
theorem length_sightings_le {source : M → String} (m : M) {feeds : List (Feed M)}
    (hkeeps : ∀ x ∈ feeds, x.report.Keeps source)
    (hnodup : (feeds.map fun x => x.report.source).Nodup) :
    (sightings registry m feeds).length ≤ 1 := by
  have hsublist := sublist_reached registry feeds
  have hsources := hsublist.map fun x => x.report.source
  rw [List.map_map] at hsources
  exact length_flatMap_sightingsOf_le m
    (fun e he => hkeeps _ (hsublist.subset (List.mem_map_of_mem he))) (hsources.nodup hnodup)

end Feed

namespace FamilyKind

/-- The sightings of a metric in a message. -/
def sightings (k : FamilyKind) (registry : Registry) (m : k.Metric) (payload : List UInt8) :
    List Sighting :=
  Feed.sightings registry m ((k.feeds? payload).getD [])

/-- **A message shows a metric at most once.** -/
theorem length_sightings_le (k : FamilyKind) (registry : Registry) (m : k.Metric)
    (payload : List UInt8) : (k.sightings registry m payload).length ≤ 1 := by
  rw [sightings]
  cases hfeeds : k.feeds? payload with
  | none => exact Nat.zero_le 1
  | some feeds =>
      have hreports := reports?_of_feeds? hfeeds
      have hnodup := k.sources.nodup hreports
      rw [List.map_map] at hnodup
      exact Feed.length_sightings_le m
        (fun x hx => k.sources.keeps hreports x.report (List.mem_map_of_mem hx)) hnodup

end FamilyKind

/-! ## Messages -/

/-- A message with data whose sources all name one node. -/
structure Family.IsDataOf (f : Family M) (parentId originId : String) (m : Message) : Prop where
  /-- It is data. -/
  route : (⟨f.name⟩ : Routing).route m.routingKey = .data
  /-- Its sources name the node. -/
  reports : ∀ reports, f.reports? m.payload = some reports → ∀ report ∈ reports,
    report.monitoring.origin.parentId = parentId ∧ report.monitoring.origin.originId = originId

/-- What is remembered about a node, or would be as soon as one of its sources is classified. -/
def Store.remembered (store : Store M) (f : Family M) (config : ChainConfig)
    (parentId originId : String) : NodeState M :=
  (store.node? parentId originId).getD (NodeState.new f.metrics f.metricName config)

/-- A node agrees with the configuration of its chain, and one of its metrics is in a state. -/
structure Store.Follows (store : Store M) (f : Family M) (config : ChainConfig)
    (parentId originId : String) (m : M) (s : MetricState) : Prop where
  /-- The node agrees with the configuration. -/
  agrees : (store.remembered f config parentId originId).Agrees f config
  /-- The metric is in the state. -/
  state : (store.remembered f config parentId originId).get? m = some s

namespace Store

variable {store : Store M} {f : Family M} {config : ChainConfig} {parentId originId : String}
  {m : M} {c : MetricConfig} {s : MetricState} {registry : Registry}

/-- A node of which nothing is remembered starts afresh. -/
theorem follows_of_node?_eq_none (hmetrics : ∀ m, m ∈ f.metrics)
    (hc : config.enabled? (f.metricName m) = some c) (h : store.node? parentId originId = none) :
    store.Follows f config parentId originId m (.new c) := by
  have hremembered : store.remembered f config parentId originId =
      NodeState.new f.metrics f.metricName config := by
    rw [remembered, h]
    rfl
  refine ⟨?_, ?_⟩
  · rw [hremembered]
    exact NodeState.agrees_new f config
  · rw [hremembered, NodeState.get?_new, if_pos (hmetrics m), ChainConfig.metric?_of_enabled? hc]
    rfl

/-- **A source of a message about a node** leads each of its metrics through the readings of its
report, if its time is in the calendar. -/
theorem Follows.processReport (hmetrics : ∀ m, m ∈ f.metrics)
    (hconfig : registry.configFor? parentId = some config)
    (hc : config.enabled? (f.metricName m) = some c) {x : Feed M}
    (habout : x.monitoring.origin.parentId = parentId ∧ x.monitoring.origin.originId = originId)
    (hs : store.Follows f config parentId originId m s) {one : Processed M}
    (h : f.processReport registry store x.report = .ok one) :
    (∃ e, x.monitoring.timestamp = .error e ∧ one = ⟨store, [], some e⟩) ∨
      ∃ now s', x.monitoring.timestamp = .ok now ∧ one.failure = x.report.defect ∧
        one.store.Follows f config parentId originId m s' ∧
        s.Leads c (sightingsOf m now x.report.readings) (eventsAbout m one.findings) s' := by
  obtain ⟨rfl, rfl⟩ := habout
  rcases Family.processReport_cases h with
    ⟨hnone, -⟩ | ⟨e, htime, rfl⟩ | ⟨config', now, b, hconfig', htime, hb, rfl⟩
  · rw [Feed.monitoring_report, hconfig] at hnone
    cases hnone
  · rw [Feed.monitoring_report] at htime
    exact Or.inl ⟨e, htime, rfl⟩
  · rw [Feed.monitoring_report] at hconfig' htime hb
    rw [hconfig] at hconfig'
    cases hconfig'
    obtain ⟨s', hs', hfailure, hleads⟩ :=
      Family.leads_classifyAll hmetrics hc hs.agrees hs.state hb
    have hremembered : (store.setNode x.monitoring.origin.parentId x.monitoring.origin.originId
        b.node).remembered f config x.monitoring.origin.parentId x.monitoring.origin.originId =
          b.node := by
      rw [remembered, node?_setNode, if_pos ⟨rfl, rfl⟩]
      rfl
    refine Or.inr ⟨now, s', htime, by rw [hfailure, Option.none_or], ⟨?_, ?_⟩, hleads⟩
    · rw [Feed.monitoring_report, hremembered]
      exact Family.agrees_classifyAll hs.agrees hb
    · rw [Feed.monitoring_report, hremembered]
      exact hs'

/-- **The sources of a message about a node** lead each of its metrics through their sightings. -/
theorem Follows.processReports (hmetrics : ∀ m, m ∈ f.metrics)
    (hconfig : registry.configFor? parentId = some config)
    (hc : config.enabled? (f.metricName m) = some c) {feeds : List (Feed M)}
    (habout : ∀ x ∈ feeds, x.monitoring.origin.parentId = parentId ∧
      x.monitoring.origin.originId = originId)
    (hs : store.Follows f config parentId originId m s) {q : Processed M}
    (h : f.processReports registry (feeds.map Feed.report) store = .ok q) :
    ∃ s', q.store.Follows f config parentId originId m s' ∧
      s.Leads c (Feed.sightings registry m feeds) (eventsAbout m q.findings) s' := by
  induction feeds generalizing store s q with
  | nil =>
      cases h
      exact ⟨s, hs, .refl s⟩
  | cons x rest ih =>
      obtain ⟨hx, hrest⟩ := List.forall_mem_cons.1 habout
      have hconfig' : registry.configFor? x.monitoring.origin.parentId = some config := by
        rw [hx.1, hconfig]
      rw [List.map_cons] at h
      rw [Feed.sightings, Feed.reached, hconfig']
      obtain ⟨one, hone, -⟩ := Family.processReports_cons h
      rcases hs.processReport hmetrics hconfig hc hx hone with
        ⟨e, htime, rfl⟩ | ⟨now, s₁, htime, hfailure, hs₁, hleads⟩
      · rw [Family.processReports_of_failure hone (by simp)] at h
        cases h
        simp only [htime]
        exact ⟨s, hs, .refl s⟩
      · simp only [htime, List.flatMap_cons]
        cases hdefect : x.report.defect with
        | some e =>
            rw [Family.processReports_of_failure hone (by rw [hfailure, hdefect]; simp)] at h
            cases h
            refine ⟨s₁, hs₁, ?_⟩
            simpa using hleads
        | none =>
            rw [Family.processReports_of_ok hone (hfailure.trans hdefect)] at h
            obtain ⟨others, hothers, rfl⟩ := exists_of_map_eq_ok h
            obtain ⟨s', hs', hleads'⟩ := ih hrest hs₁ hothers
            refine ⟨s', hs', ?_⟩
            rw [eventsAbout_append]
            exact hleads.append hleads'

end Store

/-! ## Histories -/

namespace Alerter

variable {k : FamilyKind} {a : Alerter k.Metric} {parentId originId : String}
  {config : ChainConfig} {m : k.Metric} {c : MetricConfig} {s : MetricState}

/-- **A message about a node** leads each of its metrics through the sightings in the message, and
changes no configuration. -/
theorem leads_handle (hfamily : a.family = k.family)
    (hconfig : a.registry.configFor? parentId = some config)
    (hc : config.enabled? (k.family.metricName m) = some c)
    (hs : a.store.Follows k.family config parentId originId m s) {t : Turn}
    (hdata : k.family.IsDataOf parentId originId t.message) {handled : Handled k.Metric}
    (hh : a.handle t.broker t.message = .ok handled) :
    handled.alerter.family = k.family ∧ handled.alerter.registry = a.registry ∧
      ∃ s', handled.alerter.store.Follows k.family config parentId originId m s' ∧
        s.Leads c (k.sightings a.registry m t.message.payload) (eventsAbout m handled.findings)
          s' := by
  have hroute : a.routing.route t.message.routingKey = .data := by
    rw [routing, hfamily]
    exact hdata.route
  obtain ⟨p, hp⟩ : ∃ p, a.family.process a.registry a.store t.message.payload = .ok p := by
    rcases handle_cases hh with ⟨-, hd⟩ | ⟨name, hname, -⟩ | ⟨hunknown, -⟩
    · obtain ⟨p, hp, -⟩ := handleData_eq_ok hd
      exact ⟨p, hp⟩
    · rw [hroute] at hname
      cases hname
    · rw [hroute] at hunknown
      cases hunknown
  obtain ⟨_, outbox, hh', hfindings, halerter⟩ := exists_handle_of_process hroute hp t.broker
  cases hh.symm.trans hh'
  rw [halerter, hfindings]
  refine ⟨hfamily, rfl, ?_⟩
  rw [hfamily] at hp
  rw [FamilyKind.sightings]
  cases hfeeds : k.feeds? t.message.payload with
  | none =>
      rw [FamilyKind.process_of_feeds?_eq_none hfeeds] at hp
      cases hp
      exact ⟨s, hs, .refl s⟩
  | some feeds =>
      rw [FamilyKind.process_of_feeds? hfeeds] at hp
      refine hs.processReports k.layout.mem_metrics hconfig hc (fun x hx => ?_) hp
      have habout := hdata.reports _ (FamilyKind.reports?_of_feeds? hfeeds) x.report
        (List.mem_map_of_mem hx)
      rwa [Feed.monitoring_report] at habout

/-- **Messages about a node** of which nothing was remembered lead each of its metrics through their
sightings, from the start. -/
theorem exists_leads_of_history (hfamily : a.family = k.family)
    (hconfig : a.registry.configFor? parentId = some config)
    (hnew : a.store.node? parentId originId = none)
    (hc : config.enabled? (k.family.metricName m) = some c) {turns : List Turn}
    (hdata : ∀ t ∈ turns, k.family.IsDataOf parentId originId t.message) {H : History k.Metric}
    (h : a.history turns = .ok H) :
    H.alerter.family = k.family ∧ H.alerter.registry = a.registry ∧
      ∃ s, H.alerter.store.Follows k.family config parentId originId m s ∧
        (MetricState.new c).Leads c
          (turns.flatMap fun t => k.sightings a.registry m t.message.payload)
          (eventsAbout m H.findings) s := by
  induction turns using List.reverseRecOn generalizing H with
  | nil =>
      cases h
      exact ⟨hfamily, rfl, _, Store.follows_of_node?_eq_none k.layout.mem_metrics hc hnew, .refl _⟩
  | append_singleton turns t ih =>
      obtain ⟨K, handled, hK, hh, rfl⟩ := history_concat_eq_ok h
      obtain ⟨hfamily', hregistry, s, hs, hleads⟩ :=
        ih (fun t ht => hdata t (List.mem_append_left _ ht)) hK
      obtain ⟨hfamily'', hregistry', s', hs', hleads'⟩ := leads_handle hfamily'
        (by rw [hregistry, hconfig]) hc hs (hdata t (by simp)) hh
      refine ⟨hfamily'', hregistry'.trans hregistry, s', hs', ?_⟩
      have hfindings : (K.add t handled).findings = K.findings ++ handled.findings := by
        simp [History.findings, History.add]
      rw [hfindings, eventsAbout_append, List.flatMap_append]
      rw [hregistry] at hleads'
      simpa using hleads.append hleads'

end Alerter

end NodeAlerts
