import NodeAlerts.Proofs.Agreement
import NodeAlerts.Proofs.Locality
import NodeAlerts.Proofs.Sources

/-!
# Messages about different sources do not interfere

A report comes through a channel: its chain, its node and its source.  As sources share no metric,
what a report of one channel changes is nothing that a report of another channel sees, even if both
are about the same node (`Amendment.outside_of_within`, `Amendment.apart_of_within`).  So of two
messages without a common channel neither sees whether the other came before, and it does not matter
which comes first (`messages_do_not_interfere`).  What a message brings is about its own reports and
about metrics that are enabled (`Family.gives_process`).
-/

namespace NodeAlerts

variable {M : Type} [DecidableEq M]

/-! ## Channels -/

/-- The chain, the node and the source of a report. -/
def Report.channel (report : Report M) : String × String × String :=
  (report.monitoring.origin.parentId, report.monitoring.origin.originId, report.source)

/-- Two messages have no channel in common. -/
def Family.Disjoint (f : Family M) (payload payload' : List UInt8) : Prop :=
  ∀ reports reports', f.reports? payload = some reports → f.reports? payload' = some reports' →
    ∀ report ∈ reports, ∀ report' ∈ reports', report.channel ≠ report'.channel

omit [DecidableEq M] in
/-- Messages are disjoint if the lists of their channels are. -/
theorem Family.disjoint_of_channels {f : Family M} {payload payload' : List UInt8}
    {channels channels' : List (String × String × String)}
    (h : (f.reports? payload).map (·.map (·.channel)) = some channels)
    (h' : (f.reports? payload').map (·.map (·.channel)) = some channels')
    (hdisjoint : ∀ c ∈ channels, c ∉ channels') : f.Disjoint payload payload' := by
  intro reports reports' hreports hreports' report hmem report' hmem' heq
  rw [hreports, Option.map_some, Option.some.injEq] at h
  rw [hreports', Option.map_some, Option.some.injEq] at h'
  have hchannel : report.channel ∈ channels := h ▸ List.mem_map_of_mem hmem
  have hchannel' : report'.channel ∈ channels' := h' ▸ List.mem_map_of_mem hmem'
  exact hdisjoint _ hchannel (heq ▸ hchannel')

namespace Amendment

variable {f : Family M} {registry : Registry} {source : M → String} {report report' : Report M}
  {x y : Amendment M}

omit [DecidableEq M] in
/-- What one channel changes, another one does not see. -/
theorem outside_of_within (hx : x.Within report) (hreport : report.Keeps source)
    (hreport' : report'.Keeps source) (hne : report.channel ≠ report'.channel) :
    x.Outside report' := by
  intro hparent horigin w hw e he hmetric
  obtain ⟨e', he', hw'⟩ := hx.writes w hw
  have hsource : report.source = report'.source := by
    rw [← hreport.source_reading e' he', ← hreport'.source_reading e he, ← hw', hmetric]
  refine hne (Prod.ext ?_ (Prod.ext ?_ hsource))
  · exact hx.parentId.symm.trans hparent
  · exact hx.originId.symm.trans horigin

omit [DecidableEq M] in
/-- Different channels change different things. -/
theorem apart_of_within (hx : x.Within report) (hy : y.Within report')
    (hfx : x.Fits f registry) (hfy : y.Fits f registry) (hreport : report.Keeps source)
    (hreport' : report'.Keeps source) (hne : report.channel ≠ report'.channel) : x.Apart y where
  fresh := by
    intro hparent
    obtain ⟨config, hconfig, hfresh⟩ := hfx
    obtain ⟨config', hconfig', hfresh'⟩ := hfy
    rw [hparent, hconfig'] at hconfig
    rw [hfresh, hfresh', Option.some.inj hconfig]
  writes := by
    intro hparent horigin w hw w' hw' hmetric
    obtain ⟨e, he, hwe⟩ := hy.writes w' hw'
    exact outside_of_within hx hreport hreport' hne (hparent.trans hy.parentId)
      (horigin.trans hy.originId) w hw e he (hmetric.trans hwe)

end Amendment

/-! ## What a message brings -/

/-- An alert about a metric that a report reads: the alert has the chain, the node and the time of
the report, and its metric is enabled in the configuration in force for the chain. -/
structure Report.Gives (report : Report M) (f : Family M) (registry : Registry)
    (alert : Record) : Prop where
  /-- The alert has the chain of the report. -/
  parentId : alert.parentId = report.monitoring.origin.parentId
  /-- The alert has the node of the report. -/
  originId : alert.originId = report.monitoring.origin.originId
  /-- The alert has the time of the report. -/
  timestamp : report.monitoring.timestamp = .ok alert.timestamp
  /-- The report reads the metric. -/
  reading : ∃ e ∈ report.readings, alert.metric = f.metricName e.1
  /-- The metric is enabled. -/
  enabled : ∃ config c, registry.configFor? alert.parentId = some config ∧
    config.enabled? alert.metric = some c

namespace Family

variable {f : Family M} {registry : Registry}

theorem gives_processReport {store : Store M} {report : Report M} {p : Processed M}
    (h : f.processReport registry store report = .ok p) :
    ∀ x ∈ p.findings, report.Gives f registry (f.record x) := by
  rcases processReport_cases h with
    ⟨-, rfl⟩ | ⟨e, -, rfl⟩ | ⟨config, now, batch, hconfig, htime, hbatch, rfl⟩
  · simp
  · simp
  have hall : ∀ x ∈ [] ++ batch.findings, report.Gives f registry (f.record x) := by
    refine classifyAll_induction
      (P := fun _ found => ∀ x ∈ found, report.Gives f registry (f.record x)) report.readings ?_
      _ [] batch (by simp) hbatch
    intro node found m r one hmem hfound hone x hx
    rcases List.mem_append.1 hx with hx | hx
    · exact hfound x hx
    · rcases classifyOne_cases hone with ⟨-, rfl⟩ | ⟨c, -, -, rfl⟩ | ⟨c, s, step, hc, -, -, rfl⟩
      · cases hx
      · cases hx
      · obtain ⟨event, -, rfl⟩ := List.mem_map.1 hx
        exact ⟨rfl, rfl, htime, ⟨(m, r), hmem, rfl⟩, config, c, hconfig, hc⟩
  simpa using hall

/-- **Alerts are about their message.** -/
theorem gives_process {store : Store M} {payload : List UInt8} {p : Processed M}
    (h : f.process registry store payload = .ok p) :
    ∀ alert ∈ p.findings.map f.record, ∃ reports, f.reports? payload = some reports ∧
      ∃ report ∈ reports, report.Gives f registry alert := by
  have hall : ∀ x ∈ p.findings, ∃ reports, f.reports? payload = some reports ∧
      ∃ report ∈ reports, report.Gives f registry (f.record x) := by
    refine process_induction (P := fun _ found => ∀ x ∈ found, ∃ reports,
      f.reports? payload = some reports ∧ ∃ report ∈ reports,
        report.Gives f registry (f.record x)) h (by simp) ?_
    intro reports hreports store found report one hmem hfound hone x hx
    rcases List.mem_append.1 hx with hx | hx
    · exact hfound x hx
    · exact ⟨reports, hreports, report, hmem, gives_processReport hone x hx⟩
  intro alert halert
  obtain ⟨x, hx, rfl⟩ := List.mem_map.1 halert
  exact hall x hx

/-! ## Two messages -/

variable {payload payload' : List UInt8} {store : Store M}

omit [DecidableEq M] in
/-- What a message changes, a message without a common channel does not see. -/
theorem outside_of_disjoint (sources : f.Sources) (hdisjoint : f.Disjoint payload payload')
    {xs : List (Amendment M)}
    (hxs : ∀ x ∈ xs, x.Fits f registry ∧ ∃ reports, f.reports? payload = some reports ∧
      ∃ report ∈ reports, x.Within report) {reports' : List (Report M)}
    (hreports' : f.reports? payload' = some reports') :
    ∀ x ∈ xs, x.Fits f registry ∧ ∀ report' ∈ reports', x.Outside report' := by
  intro x hx
  obtain ⟨hfits, reports, hreports, report, hmem, hwithin⟩ := hxs x hx
  refine ⟨hfits, fun report' hmem' => ?_⟩
  exact Amendment.outside_of_within hwithin (sources.keeps hreports report hmem)
    (sources.keeps hreports' report' hmem')
    (hdisjoint reports reports' hreports hreports' report hmem report' hmem')

omit [DecidableEq M] in
theorem Disjoint.symm (h : f.Disjoint payload payload') : f.Disjoint payload' payload :=
  fun reports' reports hreports' hreports report' hmem' report hmem heq =>
    h reports reports' hreports hreports' report hmem report' hmem' heq.symm

/-- What a message finds, and whether it fails or cannot be processed, does not depend on a message
without a common channel before it. -/
theorem process_after (sources : f.Sources) (hdisjoint : f.Disjoint payload payload')
    {p : Processed M} (hp : f.process registry store payload = .ok p) :
    (f.process registry p.store payload').map (fun q => (q.findings, q.failure)) =
      (f.process registry store payload').map fun q => (q.findings, q.failure) := by
  obtain ⟨xs, hstore, hxs⟩ := exists_amendments_of_process hp
  rw [hstore, process_amendAll fun reports' hreports' =>
    outside_of_disjoint sources hdisjoint hxs hreports']
  cases f.process registry store payload' with
  | error e => rfl
  | ok q => rfl

/-- **Messages without a common channel can be processed in any order.** -/
theorem process_comm (sources : f.Sources) (hdisjoint : f.Disjoint payload payload')
    {p p' : Processed M} (hp : f.process registry store payload = .ok p)
    (hp' : f.process registry store payload' = .ok p') :
    ∃ s, f.process registry p.store payload' = .ok ⟨s, p'.findings, p'.failure⟩ ∧
      f.process registry p'.store payload = .ok ⟨s, p.findings, p.failure⟩ := by
  obtain ⟨xs, hstore, hxs⟩ := exists_amendments_of_process hp
  obtain ⟨ys, hstore', hys⟩ := exists_amendments_of_process hp'
  have hapart : ∀ x ∈ xs, ∀ y ∈ ys, x.Apart y := by
    intro x hx y hy
    obtain ⟨hfits, reports, hreports, report, hmem, hwithin⟩ := hxs x hx
    obtain ⟨hfits', reports', hreports', report', hmem', hwithin'⟩ := hys y hy
    exact Amendment.apart_of_within hwithin hwithin' hfits hfits'
      (sources.keeps hreports report hmem) (sources.keeps hreports' report' hmem')
      (hdisjoint reports reports' hreports hreports' report hmem report' hmem')
  have hcomm : (store.amendAll xs).amendAll ys = (store.amendAll ys).amendAll xs :=
    Store.amendAll_comm xs store hapart
  refine ⟨(store.amendAll xs).amendAll ys, ?_, ?_⟩
  · rw [hstore, process_amendAll fun reports' hreports' =>
      outside_of_disjoint sources hdisjoint hxs hreports', hp']
    simp only [Except.map, Processed.amendAll, hstore', hcomm]
  · rw [hstore', process_amendAll fun reports hreports =>
      outside_of_disjoint sources hdisjoint.symm hys hreports, hp]
    simp only [Except.map, Processed.amendAll, hstore]

end Family

/-- **Messages about different sources do not interfere.**  Let an alerter have any history, and let
a message be processed that shares no chain, node and source with another one.

* What the other message finds after it, and whether it fails or cannot be processed, is what it
  finds without it.
* If the other message can be processed too, both orders end in one state, and each message finds
  the same and fails alike in both.
* Every alert of the message has the chain, the node and the time of one of its reports, and a
  metric that is enabled in the configuration in force for the chain. -/
theorem messages_do_not_interfere (k : FamilyKind) {settings : Settings} {turns : List Turn}
    {H : History k.Metric} (h : (Alerter.new k.family settings).history turns = .ok H)
    {payload payload' : List UInt8} (hdisjoint : k.family.Disjoint payload payload')
    {p : Processed k.Metric}
    (hp : k.family.process H.alerter.registry H.alerter.store payload = .ok p) :
    ((k.family.process H.alerter.registry p.store payload').map
        (fun q => (q.findings, q.failure)) =
      (k.family.process H.alerter.registry H.alerter.store payload').map
        fun q => (q.findings, q.failure)) ∧
    (∀ p', k.family.process H.alerter.registry H.alerter.store payload' = .ok p' →
      ∃ s, k.family.process H.alerter.registry p.store payload' =
          .ok ⟨s, p'.findings, p'.failure⟩ ∧
        k.family.process H.alerter.registry p'.store payload = .ok ⟨s, p.findings, p.failure⟩) ∧
    ∀ alert ∈ p.findings.map k.family.record, ∃ reports,
      k.family.reports? payload = some reports ∧ ∃ report ∈ reports,
        report.Gives k.family H.alerter.registry alert ∧
        ∃ name config, H.alerter.registry.config? name = some config ∧
          config.parentId = alert.parentId ∧ (config.enabled? alert.metric).isSome = true := by
  refine ⟨Family.process_after k.sources hdisjoint hp,
    fun p' hp' => Family.process_comm k.sources hdisjoint hp hp', fun alert halert => ?_⟩
  obtain ⟨reports, hreports, report, hmem, hgives⟩ := Family.gives_process hp alert halert
  obtain ⟨config, c, hconfig, hc⟩ := hgives.enabled
  have hr : H.alerter.registry.Owned := (Alerter.agrees_history h).registry.owned
  obtain ⟨name, hname, hparent⟩ := (Registry.configFor?_eq_some_iff hr).1 hconfig
  exact ⟨reports, hreports, report, hmem, hgives, name, config, hname, hparent, by rw [hc]; rfl⟩

/-! ## A Cosmos node and two of its sources -/

namespace Cosmos

open NodeAlerts.Json

/-- Configures the chain `hub`: too few peers raise critical alerts, and so does jail. -/
def configuration : Message where
  routingKey := (⟨family.name⟩ : Routing).configKey "hub"
  payload := Value.bytes <| .ofObject <| Table.ofList
    [("0", .ofObject <| Table.ofList
      [("name", .text "no_of_peers"), ("parent_id", .text "hub"), ("enabled", .text "yes"),
        ("critical_enabled", .text "yes"), ("critical_threshold", .text "5")]),
    ("1", .ofObject <| Table.ofList
      [("name", .text "validator_is_jailed"), ("parent_id", .text "hub"),
        ("enabled", .text "yes")])]
  tag := 0

/-- A value that is observed for the first time. -/
def observed (value : Value) : Value :=
  .ofObject <| Table.ofList [("current", value), ("previous", .null)]

/-- Prometheus tells the number of peers. -/
def peers (n seconds : Nat) : Message :=
  observation "prometheus" seconds [("no_of_peers", observed (.ofCount n))]

/-- The REST interface tells that the validator is jailed. -/
def jailed (seconds : Nat) : Message :=
  observation "cosmos_rest" seconds [("jailed", observed (.bool true))]

end Cosmos

/-- Prometheus tells that the node `v` has too few peers, and the REST interface that its validator
is jailed: each message brings its own alert, whichever comes first. -/
theorem messages_do_not_interfere_hub :
    ∃ (H : History Cosmos.Metric) (p p' : Processed Cosmos.Metric) (s : Store Cosmos.Metric),
      (Alerter.new FamilyKind.cosmos.family Settings.default).history
        [⟨Cosmos.configuration, .agreeing⟩] = .ok H ∧
      Cosmos.family.process H.alerter.registry H.alerter.store (Cosmos.peers 3 1).payload = .ok p ∧
      Cosmos.family.process H.alerter.registry p.store (Cosmos.jailed 2).payload =
        .ok ⟨s, p'.findings, p'.failure⟩ ∧
      Cosmos.family.process H.alerter.registry p'.store (Cosmos.peers 3 1).payload =
        .ok ⟨s, p.findings, p.failure⟩ ∧
      p.findings.length = 1 ∧ p'.findings.length = 1 := by
  have hrun : ((Alerter.new FamilyKind.cosmos.family Settings.default).history
      [⟨Cosmos.configuration, .agreeing⟩]).map (fun H =>
        (((Cosmos.family.process H.alerter.registry H.alerter.store (Cosmos.peers 3 1).payload).map
            fun p => p.findings.length),
          (Cosmos.family.process H.alerter.registry H.alerter.store (Cosmos.jailed 2).payload).map
            fun p => p.findings.length)) = .ok (.ok 1, .ok 1) := by decide +kernel
  have hpeers : (FamilyKind.cosmos.family.reports? (Cosmos.peers 3 1).payload).map
      (·.map (·.channel)) = some [("hub", "v", "prometheus")] := by decide +kernel
  have hjailed : (FamilyKind.cosmos.family.reports? (Cosmos.jailed 2).payload).map
      (·.map (·.channel)) = some [("hub", "v", "cosmos_rest")] := by decide +kernel
  have hdisjoint : FamilyKind.cosmos.family.Disjoint (Cosmos.peers 3 1).payload
      (Cosmos.jailed 2).payload := Family.disjoint_of_channels hpeers hjailed (by simp)
  obtain ⟨H, hH, hfindings⟩ := exists_of_map_eq_ok hrun
  obtain ⟨hfound, hfound'⟩ := Prod.mk.inj hfindings
  obtain ⟨p, hp, hlength⟩ := exists_of_map_eq_ok hfound
  obtain ⟨p', hp', hlength'⟩ := exists_of_map_eq_ok hfound'
  obtain ⟨-, hcomm, -⟩ := messages_do_not_interfere .cosmos hH hdisjoint hp
  obtain ⟨s, hs, hs'⟩ := hcomm p' hp'
  exact ⟨H, p, p', s, hH, hp, hs, hs', hlength, hlength'⟩

end NodeAlerts
