import NodeAlerts.Proofs.Redelivery
import NodeAlerts.Proofs.Sightings

/-!
# Conditions are followed by their edges, errors by their levels

A message tells of some metrics whether what they are about holds: a condition (jail, being outside
the active set, syncing) by the value at its source, and a tracked error by the outcome of its
source (`FamilyKind.signals`).  What comes of a sequence of such signals is told by two relations
that know nothing of messages and states.

* `Edges`: a condition gives an event when it starts and when it ends to hold.
* `Levels`: an error gives an event each time that it is received, and one when it is gone.

`signals_are_followed` says that the alerters do just this, message by message: what a message does
not tell, because a value is lacking, a source failed or a source before it ended the message, has
no part in it.
-/

namespace NodeAlerts

/-! ## What comes of signals -/

/-- The events of a condition of some severity, from whether it held at first, through whether it
holds again and again. -/
inductive Edges (severity : Severity) : Bool → List Bool → List Event → Prop where
  /-- Nothing is told. -/
  | nil (holds : Bool) : Edges severity holds [] []
  /-- The condition holds, or does not hold, as before. -/
  | same {holds : Bool} {signals : List Bool} {events : List Event}
      (h : Edges severity holds signals events) : Edges severity holds (holds :: signals) events
  /-- The condition starts to hold. -/
  | starts {signals : List Bool} {events : List Event} (detail : String)
      (h : Edges severity true signals events) :
      Edges severity false (true :: signals) (.conditionMet severity detail :: events)
  /-- The condition ends to hold. -/
  | ends {signals : List Bool} {events : List Event} (detail : String)
      (h : Edges severity false signals events) :
      Edges severity true (false :: signals) (.conditionCleared detail :: events)

/-- The events of an error, from whether it was there at first, through whether it is received again
and again. -/
inductive Levels : Bool → List Bool → List Event → Prop where
  /-- Nothing is told. -/
  | nil (holds : Bool) : Levels holds [] []
  /-- The error is received, for the first time or again. -/
  | raised {holds : Bool} {signals : List Bool} {events : List Event} (code : Int)
      (message : String) (h : Levels true signals events) :
      Levels holds (true :: signals) (.errorRaised code message :: events)
  /-- The error is gone. -/
  | resolved {signals : List Bool} {events : List Event} (h : Levels false signals events) :
      Levels true (false :: signals) (.errorResolved :: events)
  /-- The error is still not there. -/
  | absent {signals : List Bool} {events : List Event} (h : Levels false signals events) :
      Levels false (false :: signals) events

/-! ## What the rules make of signals -/

section Rules

variable {signals : List Bool} {events : List Event}

theorem isSent_classifyTransition (c : MetricConfig) (holds : Bool) (detail cleared : String)
    (s : MetricState) :
    (classifyTransition c holds detail cleared s).state.isSent c.conditionSeverity = holds := by
  rw [classifyTransition]
  cases holds <;> cases hs : s.isSent c.conditionSeverity <;> simp [hs]

/-- The rule of transitions finds the next edge. -/
theorem edges_classifyTransition (c : MetricConfig) (holds : Bool) (detail cleared : String)
    (s : MetricState) (h : Edges c.conditionSeverity holds signals events) :
    Edges c.conditionSeverity (s.isSent c.conditionSeverity) (holds :: signals)
      ((classifyTransition c holds detail cleared s).events ++ events) := by
  rw [classifyTransition]
  cases holds <;> cases s.isSent c.conditionSeverity
  · exact .same h
  · exact .ends cleared h
  · exact .starts detail h
  · exact .same h

theorem errorSent_classifyFault (tracked : Int) (received : Option Int) (message : String)
    (s : MetricState) :
    (classifyFault tracked received message s).state.errorSent =
      decide (received = some tracked) := by
  by_cases hreceived : received = some tracked
  · rw [classifyFault, if_pos hreceived, decide_eq_true hreceived]
  · rw [classifyFault_of_ne hreceived, decide_eq_false hreceived]

/-- The rule of errors finds the next level. -/
theorem levels_classifyFault (tracked : Int) (received : Option Int) (message : String)
    (s : MetricState) (h : Levels (decide (received = some tracked)) signals events) :
    Levels s.errorSent (decide (received = some tracked) :: signals)
      ((classifyFault tracked received message s).events ++ events) := by
  by_cases hreceived : received = some tracked
  · rw [classifyFault, if_pos hreceived]
    rw [decide_eq_true hreceived] at h ⊢
    exact .raised tracked message h
  · rw [classifyFault_of_ne hreceived]
    rw [decide_eq_false hreceived] at h ⊢
    cases s.errorSent with
    | true => exact .resolved h
    | false => exact .absent h

end Rules

namespace MetricState.Leads

variable {c : MetricConfig} {s s' : MetricState} {xs : List Sighting} {events : List Event}

/-- **A condition is followed by its edges.** -/
theorem edges (h : s.Leads c xs events s') (hrule : ∀ x ∈ xs, x.reading.rule = .transition) :
    Edges c.conditionSeverity (s.isSent c.conditionSeverity)
        (xs.filterMap fun x => x.reading.signal?) events ∧
      s'.isSent c.conditionSeverity =
        (xs.filterMap fun x => x.reading.signal?).getLastD (s.isSent c.conditionSeverity) := by
  induction h with
  | refl s => exact ⟨.nil _, rfl⟩
  | @cons s s' x rest events step hstep _ ih =>
      obtain ⟨hx, hothers⟩ := List.forall_mem_cons.1 hrule
      obtain ⟨hedges, hlast⟩ := ih hothers
      obtain ⟨now, reading⟩ := x
      cases reading with
      | transition holds detail cleared =>
          cases hstep
          rw [isSent_classifyTransition] at hedges hlast
          rw [List.filterMap_cons_some (by rfl), List.getLastD_cons]
          exact ⟨edges_classifyTransition c holds detail cleared s hedges, hlast⟩
      | _ => cases hx

/-- **An error is followed by its levels.** -/
theorem levels (h : s.Leads c xs events s') (hrule : ∀ x ∈ xs, x.reading.rule = .fault) :
    Levels s.errorSent (xs.filterMap fun x => x.reading.signal?) events ∧
      s'.errorSent = (xs.filterMap fun x => x.reading.signal?).getLastD s.errorSent := by
  induction h with
  | refl s => exact ⟨.nil _, rfl⟩
  | @cons s s' x rest events step hstep _ ih =>
      obtain ⟨hx, hothers⟩ := List.forall_mem_cons.1 hrule
      obtain ⟨hlevels, hlast⟩ := ih hothers
      obtain ⟨now, reading⟩ := x
      cases reading with
      | fault tracked received message =>
          cases hstep
          rw [errorSent_classifyFault] at hlevels hlast
          rw [List.filterMap_cons_some (by rfl), List.getLastD_cons]
          exact ⟨levels_classifyFault tracked received message s hlevels, hlast⟩
      | _ => cases hx

end MetricState.Leads

/-! ## What messages tell -/

namespace Feed

variable {M : Type} [DecidableEq M] {x : Feed M}

/-- What a source tells: of each error that it tracks, whether it was received, and of each of its
conditions, whether it holds. -/
def signals {M : Type} (x : Feed M) : List (M × Bool) :=
  (x.tracked.map fun e => (e.1, decide (x.outcome.received? = some e.2))) ++ x.conditions

/-- What a source tells about a metric. -/
def signalsOf (x : Feed M) (m : M) : List Bool :=
  (x.signals.filter fun e => e.1 = m).map (·.2)

omit [DecidableEq M] in
/-- A report has the checks of the tracked errors, the values, and between them at most what is said
about downtime. -/
theorem exists_readings_report (x : Feed M) :
    ∃ down, x.report.readings = x.checks ++ down ++ x.outcome.data?.getD [] ∧
      ∀ e ∈ down, e.2.signal? = none := by
  rw [report]
  cases x.outcome with
  | result monitoring values =>
      refine ⟨_, rfl, ?_⟩
      cases x.downtime? <;> simp [Reading.signal?]
  | fault f =>
      cases x.downtime? with
      | none => exact ⟨[], by simp [Outcome.data?], by simp⟩
      | some m =>
          simp only [SourceFault.report]
          cases f.wentDownAt with
          | error e => exact ⟨[], by simp [Outcome.data?], by simp⟩
          | ok t =>
              cases t with
              | none => exact ⟨[], by simp [Outcome.data?], by simp⟩
              | some t =>
                  exact ⟨[(m, .downtime (some t))], by simp [Outcome.data?],
                    by simp [Reading.signal?]⟩

omit [DecidableEq M] in
/-- **A source tells what its readings say.** -/
theorem Sound.signals_eq (h : x.Sound) :
    x.signals = x.report.readings.filterMap fun e => e.2.signal?.map (Prod.mk e.1) := by
  have hchecks : (x.checks.filterMap fun e => e.2.signal?.map (Prod.mk e.1)) =
      x.tracked.map fun e => (e.1, decide (x.outcome.received? = some e.2)) := by
    rw [checks, List.filterMap_map]
    exact congrFun List.filterMap_eq_map' _
  obtain ⟨down, hreadings, hdown⟩ := x.exists_readings_report
  have hsilent : (down.filterMap fun e => e.2.signal?.map (Prod.mk e.1)) = [] := by
    rw [List.filterMap_eq_nil_iff]
    intro e he
    rw [hdown e he]
    rfl
  rw [signals, ← hchecks, h.conditions_eq, hreadings, List.filterMap_append,
    List.filterMap_append, hsilent, List.append_nil]

/-- What a source tells about a metric is what the sightings of the metric say. -/
theorem Sound.signalsOf_eq (h : x.Sound) (m : M) (now : Instant) :
    (sightingsOf m now x.report.readings).filterMap (fun y => y.reading.signal?) =
      x.signalsOf m := by
  rw [signalsOf, h.signals_eq, sightingsOf]
  induction x.report.readings with
  | nil => rfl
  | cons e rest ih =>
      obtain ⟨m', r⟩ := e
      by_cases hm : m' = m <;> cases hr : r.signal? <;> simp_all

end Feed

namespace FamilyKind

variable {k : FamilyKind} {registry : Registry} {m : k.Metric} {payload : List UInt8}

/-- What a message tells about a metric, under the configurations of a registry. -/
def signals (k : FamilyKind) (registry : Registry) (m : k.Metric) (payload : List UInt8) :
    List Bool :=
  (Feed.reached registry ((k.feeds? payload).getD [])).flatMap fun e => e.1.signalsOf m

/-- A message tells `b` about a metric: no source before ends the message, the chain of the source
is configured and its time in the calendar, and the source tracks an error for the metric, which it
received or not, or has the metric among its conditions. -/
def Tells (k : FamilyKind) (registry : Registry) (m : k.Metric) (payload : List UInt8) (b : Bool) :
    Prop :=
  ∃ earlier x later, k.feeds? payload = some (earlier ++ x :: later) ∧
    (∀ y ∈ earlier, ∀ e, ¬ y.Ends registry e) ∧
    (∃ config, registry.configFor? x.monitoring.origin.parentId = some config) ∧
    (∃ now, x.monitoring.timestamp = .ok now) ∧
    ((∃ code, (m, code) ∈ x.tracked ∧ b = decide (x.outcome.received? = some code)) ∨
      (m, b) ∈ x.conditions)

/-- **What a message tells about a metric** is what a source of it that is classified tells. -/
theorem mem_signals_iff {b : Bool} :
    b ∈ k.signals registry m payload ↔ k.Tells registry m payload b := by
  have hsignals : ∀ x : Feed k.Metric, b ∈ x.signalsOf m ↔
      (∃ code, (m, code) ∈ x.tracked ∧ b = decide (x.outcome.received? = some code)) ∨
        (m, b) ∈ x.conditions := by
    intro x
    simp [Feed.signalsOf, Feed.signals, eq_comm]
  cases hfeeds : k.feeds? payload with
  | none => simp [signals, Tells, hfeeds, Feed.reached]
  | some feeds =>
      simp only [signals, Tells, hfeeds, Option.getD_some, List.mem_flatMap, Prod.exists,
        Feed.mem_reached_iff, hsignals]
      constructor
      · rintro ⟨x, now, ⟨earlier, later, rfl, hearlier, hconfig, htime⟩, hx⟩
        exact ⟨earlier, x, later, rfl, hearlier, hconfig, ⟨now, htime⟩, hx⟩
      · rintro ⟨earlier, x, later, h, hearlier, hconfig, ⟨now, htime⟩, hx⟩
        exact ⟨x, now, ⟨earlier, later, Option.some.inj h, hearlier, hconfig, htime⟩, hx⟩

/-- A source that is classified is one of the message. -/
theorem mem_of_mem_reached {feeds : List (Feed k.Metric)} {e : Feed k.Metric × Instant}
    (h : e ∈ Feed.reached registry feeds) : e.1 ∈ feeds := by
  obtain ⟨earlier, later, rfl, -⟩ := Feed.mem_reached_iff.1 h
  simp

/-- The sightings of a metric in a message say what the message tells. -/
theorem filterMap_sightings (registry : Registry) (m : k.Metric) (payload : List UInt8) :
    (k.sightings registry m payload).filterMap (fun y => y.reading.signal?) =
      k.signals registry m payload := by
  rw [sightings, signals, Feed.sightings, List.filterMap_flatMap]
  cases hfeeds : k.feeds? payload with
  | none => rfl
  | some feeds =>
      refine List.flatMap_congr fun e he => ?_
      exact (sound_feeds hfeeds e.1 (mem_of_mem_reached he)).signalsOf_eq m e.2

/-- **A message tells one thing about a metric**, or nothing. -/
theorem signals_eq_iff (k : FamilyKind) (registry : Registry) (m : k.Metric)
    (payload : List UInt8) :
    (∀ b, k.signals registry m payload = [b] ↔ k.Tells registry m payload b) ∧
      (k.signals registry m payload = [] ↔ ∀ b, ¬ k.Tells registry m payload b) := by
  have hlength : (k.signals registry m payload).length ≤ 1 := by
    rw [← filterMap_sightings]
    exact Nat.le_trans (List.length_filterMap_le _ _) (k.length_sightings_le registry m payload)
  simp only [← mem_signals_iff]
  cases hsignals : k.signals registry m payload with
  | nil => simp
  | cons b' rest =>
      rw [hsignals, List.length_cons] at hlength
      cases rest with
      | nil => simp [eq_comm]
      | cons _ _ => simp at hlength

/-- The sightings of a metric are classified by its rule. -/
theorem rule_sightings {y : Sighting} (h : y ∈ k.sightings registry m payload) :
    y.reading.rule = k.layout.rule m := by
  rw [sightings, Feed.sightings, List.mem_flatMap] at h
  obtain ⟨e, he, hy⟩ := h
  cases hfeeds : k.feeds? payload with
  | none =>
      rw [hfeeds] at he
      cases he
  | some feeds =>
      rw [hfeeds] at he
      rw [sightingsOf, List.mem_map] at hy
      obtain ⟨d, hd, rfl⟩ := hy
      obtain ⟨hreading, hmetric⟩ := List.mem_filter.1 hd
      have hfollows := k.layout.follows (reports?_of_feeds? hfeeds) e.1.report
        (List.mem_map_of_mem (mem_of_mem_reached he))
      rw [hfollows.rule_reading d hreading, of_decide_eq_true hmetric]

/-- What messages tell about a metric, one after another. -/
def toldBy (k : FamilyKind) (registry : Registry) (m : k.Metric) (turns : List Turn) : List Bool :=
  turns.flatMap fun t => k.signals registry m t.message.payload

end FamilyKind

/-! ## Messages about a node -/

namespace Alerter

variable {k : FamilyKind} {a : Alerter k.Metric} {parentId originId : String}
  {config : ChainConfig} {m : k.Metric} {c : MetricConfig}

/-- **What is remembered of signals is the latest one**, if nothing was remembered at first. -/
theorem exists_follows_of_history (hfamily : a.family = k.family)
    (hconfig : a.registry.configFor? parentId = some config)
    (hnew : a.store.node? parentId originId = none)
    (hc : config.enabled? (k.family.metricName m) = some c) {turns : List Turn}
    (hdata : ∀ t ∈ turns, k.family.IsDataOf parentId originId t.message) {H : History k.Metric}
    (h : a.history turns = .ok H) :
    ∃ s, H.alerter.store.Follows k.family config parentId originId m s ∧
      (k.layout.rule m = .transition →
        s.isSent c.conditionSeverity = (k.toldBy a.registry m turns).getLastD false) ∧
      (k.layout.rule m = .fault → s.errorSent = (k.toldBy a.registry m turns).getLastD false) := by
  obtain ⟨-, -, s, hs, hleads⟩ := exists_leads_of_history hfamily hconfig hnew hc hdata h
  have htold : (turns.flatMap fun t => k.sightings a.registry m t.message.payload).filterMap
      (fun y => y.reading.signal?) = k.toldBy a.registry m turns := by
    simp only [List.filterMap_flatMap, FamilyKind.filterMap_sightings, FamilyKind.toldBy]
  have hrule : ∀ y ∈ turns.flatMap fun t => k.sightings a.registry m t.message.payload,
      y.reading.rule = k.layout.rule m := by
    intro y hy
    obtain ⟨t, -, hy⟩ := List.mem_flatMap.1 hy
    exact FamilyKind.rule_sightings hy
  refine ⟨s, hs, fun htransition => ?_, fun hfault => ?_⟩
  · obtain ⟨-, hsent⟩ := hleads.edges fun y hy => (hrule y hy).trans htransition
    rw [hsent, htold]
    exact congrArg _ (Course.isSent_start c _)
  · obtain ⟨-, hsent⟩ := hleads.levels fun y hy => (hrule y hy).trans hfault
    rw [hsent, htold]
    rfl

end Alerter

/-- **Conditions are followed by their edges, and tracked errors by their levels.**  Let messages be
handled about a node of which nothing was remembered, whose chain has one configuration all the
time; the metric is enabled there.  Then for the next message about the node,

* the alerts for a condition (jail, being outside the active set, syncing) are the edges of what the
  message tells, after what the newest message before told that told anything (not holding, if
  there was none), and the newest that was told is remembered;
* the alerts for a tracked error (an invalid address, a metric that is not found) are its levels,
  after the same, and the newest that was told is remembered.

A message tells one thing about a metric, or nothing: `FamilyKind.Tells`. -/
theorem signals_are_followed (k : FamilyKind) {a : Alerter k.Metric} (hfamily : a.family = k.family)
    {parentId originId : String} {config : ChainConfig}
    (hconfig : a.registry.configFor? parentId = some config)
    (hnew : a.store.node? parentId originId = none) {turns : List Turn} {next : Turn}
    (hdata : ∀ t ∈ turns ++ [next], k.family.IsDataOf parentId originId t.message)
    {H : History k.Metric} (h : a.history turns = .ok H) {handled : Handled k.Metric}
    (hh : H.alerter.handle next.broker next.message = .ok handled) {m : k.Metric}
    {c : MetricConfig} (hc : config.enabled? (k.family.metricName m) = some c) :
    (∀ payload, (∀ b, k.signals a.registry m payload = [b] ↔ k.Tells a.registry m payload b) ∧
      (k.signals a.registry m payload = [] ↔ ∀ b, ¬ k.Tells a.registry m payload b)) ∧
    ∃ s, (handled.alerter.store.remembered k.family config parentId originId).get? m = some s ∧
      (k.layout.rule m = .transition →
        Edges c.conditionSeverity ((k.toldBy a.registry m turns).getLastD false)
            (k.signals a.registry m next.message.payload) (eventsAbout m handled.findings) ∧
          s.isSent c.conditionSeverity =
            (k.toldBy a.registry m (turns ++ [next])).getLastD false) ∧
      (k.layout.rule m = .fault →
        Levels ((k.toldBy a.registry m turns).getLastD false)
            (k.signals a.registry m next.message.payload) (eventsAbout m handled.findings) ∧
          s.errorSent = (k.toldBy a.registry m (turns ++ [next])).getLastD false) := by
  have hearlier : ∀ t ∈ turns, k.family.IsDataOf parentId originId t.message :=
    fun t ht => hdata t (List.mem_append_left _ ht)
  obtain ⟨hfamily', hregistry, -⟩ :=
    Alerter.exists_leads_of_history hfamily hconfig hnew hc hearlier h
  obtain ⟨s, hs, hcondition, herror⟩ :=
    Alerter.exists_follows_of_history hfamily hconfig hnew hc hearlier h
  obtain ⟨-, -, s', hs', hleads⟩ := Alerter.leads_handle hfamily' (by rw [hregistry, hconfig]) hc hs
    (hdata next (by simp)) hh
  rw [hregistry] at hleads
  obtain ⟨s'', hs'', hcondition', herror'⟩ := Alerter.exists_follows_of_history hfamily hconfig hnew
    hc hdata (Alerter.history_concat h hh)
  cases hs'.state.symm.trans hs''.state
  refine ⟨k.signals_eq_iff a.registry m, s', hs'.state,
    fun htransition => ⟨?_, hcondition' htransition⟩, fun hfault => ⟨?_, herror' hfault⟩⟩
  · obtain ⟨hedges, -⟩ := hleads.edges fun y hy => (FamilyKind.rule_sightings hy).trans htransition
    rwa [FamilyKind.filterMap_sightings, hcondition htransition] at hedges
  · obtain ⟨hlevels, -⟩ := hleads.levels fun y hy => (FamilyKind.rule_sightings hy).trans hfault
    rwa [FamilyKind.filterMap_sightings, herror hfault] at hlevels

/-- A message with data from one source is about the node that the source names. -/
theorem isDataOf_of_origin {M : Type} {f : Family M} {m : Message}
    (hkey : m.routingKey = (⟨f.name⟩ : Routing).dataKey) {parentId originId : String}
    (h : (f.reports? m.payload).map (·.map fun report =>
      (report.monitoring.origin.parentId, report.monitoring.origin.originId)) =
        some [(parentId, originId)]) : f.IsDataOf parentId originId m where
  route := by rw [Routing.route, if_pos hkey]
  reports := by
    intro reports hreports report hmem
    rw [hreports, Option.map_some, Option.some.injEq] at h
    have horigin : (report.monitoring.origin.parentId, report.monitoring.origin.originId) ∈
        [(parentId, originId)] := h ▸ List.mem_map_of_mem hmem
    exact Prod.mk.inj (List.mem_singleton.1 horigin)

namespace Substrate

/-- Configures an error and a condition of the nodes of `hub`. -/
def signalling : Message :=
  family.configuring [("websocket_invalid_url", []), ("node_is_syncing", [])]

/-- Whether the node `v` of `hub` is syncing. -/
def syncing (holds : Bool) (seconds : Nat) : Message :=
  family.monitoring seconds [("websocket", resultOf [("is_syncing", .bool holds, .null)])]

/-- A node that is syncing cannot be reached any more. -/
def lost : List Turn := [⟨syncing true 1, .agreeing⟩, ⟨unreachable 2, .agreeing⟩]

end Substrate

/-- A Substrate node is syncing, then its address is invalid, and then it is synced: both the error
and the condition are gone. -/
theorem signals_are_followed_syncing :
    ∃ (g handled : Handled Substrate.Metric) (H : History Substrate.Metric),
      (Alerter.new FamilyKind.substrate.family Settings.default).handle .agreeing
        Substrate.signalling = .ok g ∧
      g.alerter.history Substrate.lost = .ok H ∧
      H.alerter.handle .agreeing (Substrate.syncing false 3) = .ok handled ∧
      (handled.findings.map fun x => (Substrate.Metric.name x.metric, x.event.severity)) =
        [("websocket_invalid_url", .info), ("node_is_syncing", .info)] ∧
      Levels
        ((FamilyKind.substrate.toldBy g.alerter.registry Substrate.Metric.websocketInvalidUrl
          Substrate.lost).getLastD false)
        (FamilyKind.substrate.signals g.alerter.registry Substrate.Metric.websocketInvalidUrl
          (Substrate.syncing false 3).payload)
        (eventsAbout .websocketInvalidUrl handled.findings) ∧
      Edges .critical
        ((FamilyKind.substrate.toldBy g.alerter.registry Substrate.Metric.nodeIsSyncing
          Substrate.lost).getLastD false)
        (FamilyKind.substrate.signals g.alerter.registry Substrate.Metric.nodeIsSyncing
          (Substrate.syncing false 3).payload)
        (eventsAbout .nodeIsSyncing handled.findings) := by
  have hconfigured : ((Alerter.new FamilyKind.substrate.family Settings.default).handle .agreeing
      Substrate.signalling).map (fun g =>
        ((g.alerter.registry.configFor? "hub").any fun config =>
          (config.enabled? "websocket_invalid_url").isSome &&
            (config.enabled? "node_is_syncing").any (·.conditionSeverity = .critical),
        (g.alerter.store.node? "hub" "v").isNone)) = .ok (true, true) := by decide +kernel
  have hrun : ((Alerter.new FamilyKind.substrate.family Settings.default).handle .agreeing
      Substrate.signalling).map (fun g => (g.alerter.history Substrate.lost).map fun H =>
        (H.alerter.handle .agreeing (Substrate.syncing false 3)).map fun handled =>
          handled.findings.map fun x => (Substrate.Metric.name x.metric, x.event.severity)) =
      .ok (.ok (.ok [("websocket_invalid_url", .info), ("node_is_syncing", .info)])) := by
    decide +kernel
  have horigins : ∀ t ∈ Substrate.lost ++ [⟨Substrate.syncing false 3, .agreeing⟩],
      t.message.routingKey = (⟨FamilyKind.substrate.family.name⟩ : Routing).dataKey ∧
        (FamilyKind.substrate.family.reports? t.message.payload).map (·.map fun report =>
          (report.monitoring.origin.parentId, report.monitoring.origin.originId)) =
            some [("hub", "v")] := by decide +kernel
  obtain ⟨g, hg, hfacts⟩ := exists_of_map_eq_ok hconfigured
  obtain ⟨henabled, hnew⟩ := Prod.mk.inj hfacts
  obtain ⟨config, hconfig, henabled⟩ := (Option.any_eq_true _ _).1 henabled
  obtain ⟨herror, hcondition⟩ := Bool.and_eq_true_iff.1 henabled
  obtain ⟨error, herror⟩ := Option.isSome_iff_exists.1 herror
  obtain ⟨condition, hcondition, hcritical⟩ := (Option.any_eq_true _ _).1 hcondition
  have hseverity : condition.conditionSeverity = .critical := of_decide_eq_true hcritical
  rw [hg] at hrun
  obtain ⟨H, hH, hnext⟩ := exists_of_map_eq_ok (Except.ok.inj hrun)
  obtain ⟨handled, hhandled, hfound⟩ := exists_of_map_eq_ok hnext
  have hdata : ∀ t ∈ Substrate.lost ++ [⟨Substrate.syncing false 3, .agreeing⟩],
      FamilyKind.substrate.family.IsDataOf "hub" "v" t.message := fun t ht =>
    isDataOf_of_origin (horigins t ht).1 (horigins t ht).2
  have hfamily := (Alerter.sameSetup_handle hg).family
  obtain ⟨-, s, -, -, hlevels⟩ := signals_are_followed .substrate hfamily hconfig
    (Option.isNone_iff_eq_none.1 hnew) hdata hH hhandled
    (m := Substrate.Metric.websocketInvalidUrl) herror
  obtain ⟨-, s', -, hedges, -⟩ := signals_are_followed .substrate hfamily hconfig
    (Option.isNone_iff_eq_none.1 hnew) hdata hH hhandled
    (m := Substrate.Metric.nodeIsSyncing) hcondition
  exact ⟨g, handled, H, hg, hH, hhandled, hfound, (hlevels rfl).1, hseverity ▸ (hedges rfl).1⟩

end NodeAlerts
