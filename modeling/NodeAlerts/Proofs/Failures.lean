import NodeAlerts.Proofs.Feeds
import NodeAlerts.Proofs.Sources

/-!
# Messages that fail, and what they leave

A message fails if it cannot be read, or with the error of the first of its sources that ends it
(`Feed.Ends`); sources of chains without a configuration never do.  What it leaves is what the
sources before that one left, and, if the failure of the source does not tell since when the node is
down, the errors that the source tracks are resolved first (`Batch.Resolves`).  The sources behind
are not looked at.  All this is `message_fails_iff`.

That the sources before can always be processed is no matter of course: counting missed blocks can
leave the calendar.  But missed blocks are read at the last source of a message.
-/

namespace NodeAlerts

variable {M : Type} [DecidableEq M]

/-! ## Errors that are resolved -/

/-- The errors of some metrics were looked for, and found not to be there any more: those that were
open are resolved, as far as their metrics are enabled. -/
structure Batch.Resolves (b : Batch M) (f : Family M) (config : ChainConfig) (origin : Origin)
    (now : Instant) (tracked : List M) (node : NodeState M) : Prop where
  /-- No error of the metrics is open, and nothing else changes. -/
  states : ∀ m, b.node.get? m =
    if m ∈ tracked ∧ (config.enabled? (f.metricName m)).isSome then
      (node.get? m).map fun s => { s with errorSent := false }
    else node.get? m
  /-- Errors that were open are found to be resolved. -/
  findings : b.findings = (tracked.filter fun m =>
    (config.enabled? (f.metricName m)).isSome && (node.get? m).any (·.errorSent)).map fun m =>
      ⟨origin, now, m, .errorResolved⟩
  /-- Nothing fails. -/
  failure : b.failure = none

section Checks

variable {f : Family M} {config : ChainConfig} (origin : Origin) (now : Instant)

theorem resolves_classifyOne {node : NodeState M} (hn : node.Agrees f config) {m : M}
    (hm : m ∈ f.metrics) {code : Int} {received : Option Int} (h : received ≠ some code)
    (message : String) :
    ∃ b, f.classifyOne config origin now node m (.fault code received message) = .ok b ∧
      b.Resolves f config origin now [m] node := by
  rw [Family.classifyOne]
  cases hc : config.enabled? (f.metricName m) with
  | none =>
      refine ⟨_, rfl, fun m' => ?_, by simp [hc], rfl⟩
      have hnot : ¬ (m' ∈ [m] ∧ (config.enabled? (f.metricName m')).isSome = true) := by
        rintro ⟨hmem, hsome⟩
        rw [List.mem_singleton.1 hmem, hc] at hsome
        cases hsome
      rw [if_neg hnot]
  | some c =>
      obtain ⟨s, hs, -⟩ := hn.exists_state hm (ChainConfig.metric?_of_enabled? hc)
      simp only [hs, Reading.classify, classifyFault_of_ne h]
      refine ⟨_, rfl, fun m' => ?_, ?_, rfl⟩
      · by_cases hm' : m' = m
        · simp [NodeState.get?_set, hm', hs, hc]
        · simp [NodeState.get?_set, hm']
      · cases hsent : s.errorSent <;> simp [hc, hs, hsent]

/-- **Checking the errors that a source tracks resolves them** if none of them is received. -/
theorem Feed.resolves_classifyAll (hmetrics : ∀ m, m ∈ f.metrics) (received : Option Int)
    (message : String) (tracked : List (M × Int)) (hnodup : (tracked.map Prod.fst).Nodup)
    (hreceived : ∀ e ∈ tracked, received ≠ some e.2) {node : NodeState M}
    (hn : node.Agrees f config) :
    ∃ b, f.classifyAll config origin now
        (tracked.map fun e => (e.1, .fault e.2 received message)) node = .ok b ∧
      b.Resolves f config origin now (tracked.map Prod.fst) node := by
  induction tracked generalizing node with
  | nil => exact ⟨_, rfl, fun m => by simp, rfl, rfl⟩
  | cons e rest ih =>
      obtain ⟨m, code⟩ := e
      rw [List.map_cons, List.nodup_cons] at hnodup
      obtain ⟨hcode, hrest⟩ := List.forall_mem_cons.1 hreceived
      obtain ⟨one, hone, hresolves⟩ := resolves_classifyOne origin now hn
        (hmetrics m) hcode message
      obtain ⟨others, hothers, hresolves'⟩ :=
        ih hnodup.2 hrest (Family.agrees_classifyOne hn hone)
      -- the metrics behind do not see what was resolved before them
      have hget : ∀ m' ∈ rest.map Prod.fst, one.node.get? m' = node.get? m' := by
        intro m' hm'
        have hne : m' ∉ [m] := fun h => hnodup.1 (List.mem_singleton.1 h ▸ hm')
        rw [hresolves.states, if_neg fun h => hne h.1]
      refine ⟨{ others with findings := one.findings ++ others.findings }, ?_, fun m' => ?_, ?_,
        hresolves'.failure⟩
      · rw [List.map_cons, Family.classifyAll_of_ok hone hresolves.failure, hothers]
        rfl
      · rw [hresolves'.states]
        by_cases hm' : m' ∈ rest.map Prod.fst
        · simp [hget m' hm', hm']
        · simp only [hm', false_and, if_false, hresolves.states, List.map_cons, List.mem_cons,
            List.not_mem_nil, or_false]
      · have hfilter : (rest.map Prod.fst).filter (fun m =>
              (config.enabled? (f.metricName m)).isSome && (one.node.get? m).any (·.errorSent)) =
            (rest.map Prod.fst).filter fun m => (config.enabled? (f.metricName m)).isSome &&
              (node.get? m).any (·.errorSent) :=
          List.filter_congr fun m' hm' => by rw [hget m' hm']
        have hsplit : ((m, code) :: rest).map Prod.fst = [m] ++ rest.map Prod.fst := rfl
        rw [hsplit, List.filter_append, List.map_append, ← hfilter, ← hresolves.findings,
          ← hresolves'.findings]

end Checks

/-! ## Sources before the last -/

theorem Reading.rule_of_counts {r : Reading} (h : r.counts = true) : r.rule = .counter := by
  cases r with
  | counter current previous => rfl
  | _ => cases h

namespace Cosmos

/-- Nothing is counted at a source whose metrics have other rules. -/
theorem counts_eq_false {report : Report Metric} (hfollows : report.Follows Metric.rule)
    (hkeeps : report.Keeps Metric.source) (hsource : report.source ≠ "tendermint_rpc") :
    ∀ e ∈ report.readings, e.2.counts = false := by
  intro e he
  rw [Bool.eq_false_iff]
  intro hcounts
  have hrule : e.1.rule = .counter := by
    rw [← hfollows.rule_reading e he, Reading.rule_of_counts hcounts]
  have hmetric : e.1.source = "tendermint_rpc" := by
    cases hm : e.1 <;> rw [hm] at hrule <;> first | rfl | cases hrule
  exact hsource (by rw [← hkeeps.source_reading e he, hmetric])

theorem counts_feeds (d : NodeData) :
    ∀ x ∈ d.feeds.dropLast, ∀ e ∈ x.report.readings, e.2.counts = false := by
  have hsource : ∀ x ∈ d.feeds.dropLast,
      (∃ o, x = prometheusFeed o) ∨ ∃ o, x = cosmosRestFeed o := by
    obtain ⟨prometheus, rest, rpc⟩ := d
    cases prometheus <;> cases rest <;> cases rpc <;> simp [NodeData.feeds]
  intro x hx
  obtain ⟨o, rfl⟩ | ⟨o, rfl⟩ := hsource x hx
  · rw [report_prometheusFeed]
    refine counts_eq_false (follows_prometheusReport o) (keeps_prometheusReport o) ?_
    rw [source_prometheusReport]
    decide
  · rw [report_cosmosRestFeed]
    refine counts_eq_false (follows_cosmosRestReport o) (keeps_cosmosRestReport o) ?_
    have hsource : (cosmosRestReport o).source = "cosmos_rest" := by cases o <;> rfl
    rw [hsource]
    decide

end Cosmos

/-- **Nothing is counted at a source before the last** of a message. -/
theorem FamilyKind.counts_feeds {k : FamilyKind} {payload : List UInt8}
    {earlier later : List (Feed k.Metric)} {x : Feed k.Metric}
    (h : k.feeds? payload = some (earlier ++ x :: later)) :
    ∀ y ∈ earlier, ∀ e ∈ y.report.readings, e.2.counts = false := by
  have hdrop : ∀ y ∈ earlier, y ∈ (earlier ++ x :: later).dropLast := by
    intro y hy
    rw [List.dropLast_append_of_ne_nil (List.cons_ne_nil x later)]
    exact List.mem_append_left _ hy
  intro y hy
  have hy' := hdrop y hy
  cases k with
  | cosmos =>
      obtain ⟨d, -, hd⟩ := Option.map_eq_some_iff.1 h
      rw [← hd] at hy'
      exact Cosmos.counts_feeds d y hy'
  | substrate =>
      obtain ⟨⟨websocket⟩, -, hd⟩ := Option.map_eq_some_iff.1 h
      rw [← hd] at hy'
      cases websocket with
      | none => cases hy'
      | some o => cases hy'
  | sample =>
      obtain ⟨d, -, hd⟩ := Option.map_eq_some_iff.1 h
      rw [← hd] at hy'
      cases hy'

/-! ## Reports -/

/-- What a source leaves that ends its message. -/
structure Feed.Leaves (x : Feed M) (f : Family M) (registry : Registry) (store store' : Store M)
    (findings : List (Finding M)) : Prop where
  /-- Nothing, if its time is outside the calendar. -/
  untimed : Instant.ofSeconds? x.monitoring.lastMonitored = none → store' = store ∧ findings = []
  /-- Else its node, which is remembered from now on, with the tracked errors resolved. -/
  timed : ∀ config now, registry.configFor? x.monitoring.origin.parentId = some config →
    Instant.ofSeconds? x.monitoring.lastMonitored = some now →
      ∃ b : Batch M, b.Resolves f config x.monitoring.origin now (x.tracked.map Prod.fst)
          (f.nodeState config store x.monitoring.origin) ∧
        store' = store.setNode x.monitoring.origin.parentId x.monitoring.origin.originId b.node ∧
        findings = b.findings

namespace Family

variable {f : Family M} {registry : Registry}

/-- Reports that let the next one be looked at do not fail. -/
theorem failure_processReports_of_passes (hmetrics : ∀ m, m ∈ f.metrics) (hr : registry.Valid)
    {store : Store M} (hs : store.Agrees f registry) {reports : List (Report M)}
    (hpasses : ∀ report ∈ reports, report.Passes registry) {q : Processed M}
    (hq : f.processReports registry reports store = .ok q) : q.failure = none := by
  refine Option.eq_none_iff_forall_ne_some.2 fun e => ?_
  refine processReports_failure (P := fun s => s.Agrees f registry) reports ?_ store q hs hq
  intro s report one hmem hs hone
  refine ⟨hs.processReport hr hone, ?_⟩
  rw [(failure_processReport_eq_none_iff hmetrics hs hone).2 (hpasses report hmem)]
  exact nofun

/-- If they count nothing they are processed. -/
theorem exists_processReports_of_passes (hmetrics : ∀ m, m ∈ f.metrics) (hr : registry.Valid)
    {store : Store M} (hs : store.Agrees f registry) {reports : List (Report M)}
    (hpasses : ∀ report ∈ reports, report.Passes registry)
    (hcounts : ∀ report ∈ reports, ∀ e ∈ report.readings, e.2.counts = false) :
    ∃ q, f.processReports registry reports store = .ok q ∧ q.failure = none ∧
      q.store.Agrees f registry := by
  have hagrees : ∀ q, f.processReports registry reports store = .ok q →
      q.store.Agrees f registry := by
    intro q hq
    exact processReports_induction (P := fun s _ => s.Agrees f registry) reports
      (fun _ _ _ _ _ hs hone => hs.processReport hr hone) store [] q hs hq
  cases hq : f.processReports registry reports store with
  | error e =>
      obtain ⟨_, report, _, hreports, -, config, now, -, -, y, hy, hover, -⟩ :=
        (processReports_fails_iff hmetrics hr reports hs).1 ⟨e, hq⟩
      rw [hcounts report (by simp [hreports]) y hy] at hover
      cases hover
  | ok q =>
      exact ⟨q, rfl, failure_processReports_of_passes hmetrics hr hs hpasses hq, hagrees q hq⟩

end Family

namespace Feed

variable {f : Family M} {registry : Registry} {x : Feed M}

omit [DecidableEq M] in
/-- A report with a defect has no readings but those of the tracked errors. -/
theorem readings_report_of_defect {e : ProcessingError} (h : x.report.defect = some e) :
    x.report.readings = x.checks := by
  obtain ⟨fault, m, houtcome, hdowntime, hdown⟩ := defect_report_eq_some_iff.1 h
  rw [report, houtcome, hdowntime]
  simp only [SourceFault.report, hdown]

omit [DecidableEq M] in
/-- The failure of a source that ends its message in time is that the node is down. -/
theorem received?_of_defect {e : ProcessingError} (h : x.report.defect = some e) :
    x.outcome.received? = some FaultCode.nodeIsDown := by
  obtain ⟨fault, m, houtcome, -, hdown⟩ := defect_report_eq_some_iff.1 h
  rw [houtcome, Outcome.received?, (SourceFault.wentDownAt_eq_error_iff.1 hdown).1]

/-- **A source that ends its message** is processed up to there. -/
theorem exists_processReport_of_ends (hmetrics : ∀ m, m ∈ f.metrics) (hsound : x.Sound)
    {store : Store M} (hs : store.Agrees f registry) {e : ProcessingError}
    (h : x.Ends registry e) :
    ∃ store' findings, f.processReport registry store x.report = .ok ⟨store', findings, some e⟩ ∧
      x.Leaves f registry store store' findings := by
  obtain ⟨config, hconfig, htime | ⟨⟨now, htime⟩, hdefect⟩⟩ := ends_iff.1 h
  · refine ⟨store, [], ?_, fun _ => ⟨rfl, rfl⟩, fun config now _ hnow => ?_⟩
    · simp only [Family.processReport, monitoring_report, hconfig, htime]
    · rw [Monitoring.timestamp, hnow] at htime
      cases htime
  · have hreceived : ∀ e ∈ x.tracked, x.outcome.received? ≠ some e.2 := by
      intro e he heq
      rw [received?_of_defect hdefect] at heq
      exact hsound.code_ne e he (Option.some.inj heq).symm
    obtain ⟨b, hb, hresolves⟩ := resolves_classifyAll x.monitoring.origin now hmetrics
      x.outcome.received? x.outcome.message x.tracked hsound.nodup hreceived
      (hs.nodeState hconfig)
    refine ⟨store.setNode x.monitoring.origin.parentId x.monitoring.origin.originId b.node,
      b.findings, ?_, fun hnone => ?_, fun config' now' hconfig' hnow' => ?_⟩
    · simp only [Family.processReport, monitoring_report, hconfig, htime,
        readings_report_of_defect hdefect, hdefect]
      rw [checks, hb]
      simp only [bind, Except.bind, pure, Except.pure, hresolves.failure, Option.none_or]
    · rw [Monitoring.timestamp, hnone] at htime
      cases htime
    · rw [hconfig] at hconfig'
      rw [Monitoring.timestamp, hnow'] at htime
      cases hconfig'
      cases htime
      exact ⟨b, hresolves, rfl, rfl⟩

end Feed

/-! ## Messages -/

namespace FamilyKind

variable {k : FamilyKind} {registry : Registry} {store : Store k.Metric} {payload : List UInt8}

/-- A message whose sources all let the next one be looked at does not fail. -/
theorem failure_process_of_feeds {feeds : List (Feed k.Metric)} (hr : registry.Valid)
    (hs : store.Agrees k.family registry) (hfeeds : k.feeds? payload = some feeds)
    (hpasses : ¬ ∃ x ∈ feeds, ∃ e, x.Ends registry e) {p : Processed k.Metric}
    (hp : k.family.process registry store payload = .ok p) : p.failure = none := by
  rw [process_of_feeds? hfeeds] at hp
  refine Family.failure_processReports_of_passes k.layout.mem_metrics hr hs
    (fun report hreport => ?_) hp
  obtain ⟨x, hx, rfl⟩ := List.mem_map.1 hreport
  exact Feed.passes_report_iff.2 fun e he => hpasses ⟨x, hx, e, he⟩

/-- **A message is processed up to the first source that ends it**, and that one as far as it
goes. -/
theorem exists_process_of_ends {earlier later : List (Feed k.Metric)} {x : Feed k.Metric}
    {e : ProcessingError} (hr : registry.Valid) (hs : store.Agrees k.family registry)
    (hfeeds : k.feeds? payload = some (earlier ++ x :: later))
    (hearlier : ∀ y ∈ earlier, ¬ ∃ e, y.Ends registry e) (hends : x.Ends registry e) :
    ∃ q, k.family.processReports registry (earlier.map Feed.report) store = .ok q ∧
      q.failure = none ∧ ∃ store' findings,
        k.family.process registry store payload = .ok ⟨store', q.findings ++ findings, some e⟩ ∧
          x.Leaves k.family registry q.store store' findings := by
  have hpasses : ∀ report ∈ earlier.map Feed.report, report.Passes registry := by
    intro report hreport
    obtain ⟨y, hy, rfl⟩ := List.mem_map.1 hreport
    exact Feed.passes_report_iff.2 fun e he => hearlier y hy ⟨e, he⟩
  have hcounts : ∀ report ∈ earlier.map Feed.report, ∀ e ∈ report.readings,
      e.2.counts = false := by
    intro report hreport
    obtain ⟨y, hy, rfl⟩ := List.mem_map.1 hreport
    exact counts_feeds hfeeds y hy
  obtain ⟨q, hq, hfailure, hqs⟩ := Family.exists_processReports_of_passes k.layout.mem_metrics
    hr hs hpasses hcounts
  obtain ⟨store', findings, hone, hleaves⟩ := Feed.exists_processReport_of_ends
    k.layout.mem_metrics (sound_feeds hfeeds x (by simp)) hqs hends
  refine ⟨q, hq, hfailure, store', findings, ?_, hleaves⟩
  rw [process_of_feeds? hfeeds, List.map_append, List.map_cons,
    Family.processReports_append hq hfailure, Family.processReports_of_failure hone (by simp)]
  rfl

end FamilyKind

/-- **When a message fails, and what it leaves.**  After any history of a fresh alerter:

* a payload that cannot be read fails, and changes nothing;
* a payload that can be read fails with an error if and only if the first source that ends the
  message does so with this error;
* the sources before it are processed, and leave `q`, without a failure; beyond `q` the message
  leaves what the source leaves that ends it.  The sources behind it do not matter. -/
theorem message_fails_iff (k : FamilyKind) (settings : Settings) (turns : List Turn)
    {H : History k.Metric} (h : (Alerter.new k.family settings).history turns = .ok H)
    (payload : List UInt8) :
    (k.feeds? payload = none →
      k.family.process H.alerter.registry H.alerter.store payload =
        .ok ⟨H.alerter.store, [], some .malformed⟩) ∧
    ∀ feeds, k.feeds? payload = some feeds →
      (∀ e, (∃ p, k.family.process H.alerter.registry H.alerter.store payload = .ok p ∧
          p.failure = some e) ↔
        ∃ x, FirstWith (fun x => ∃ e, x.Ends H.alerter.registry e) feeds x ∧
          x.Ends H.alerter.registry e) ∧
      ∀ earlier x later e, feeds = earlier ++ x :: later →
        (∀ y ∈ earlier, ¬ ∃ e, y.Ends H.alerter.registry e) → x.Ends H.alerter.registry e →
          ∃ q, k.family.processReports H.alerter.registry (earlier.map Feed.report)
              H.alerter.store = .ok q ∧ q.failure = none ∧
            ∃ store findings,
              k.family.process H.alerter.registry H.alerter.store payload =
                .ok ⟨store, q.findings ++ findings, some e⟩ ∧
              x.Leaves k.family H.alerter.registry q.store store findings := by
  have hagrees := Alerter.agrees_history h
  have hfamily : H.alerter.family = k.family := (Alerter.sameSetup_history h).family
  have hstore := hagrees.store
  have hvalid := hagrees.registry
  rw [hfamily] at hstore
  generalize H.alerter.registry = registry at hstore hvalid ⊢
  generalize H.alerter.store = store at hstore ⊢
  refine ⟨fun hnone => FamilyKind.process_of_feeds?_eq_none hnone registry store,
    fun feeds hfeeds => ⟨fun e => ⟨?_, ?_⟩, ?_⟩⟩
  · rintro ⟨p, hp, hfailure⟩
    by_cases hsome : ∃ x ∈ feeds, ∃ e, x.Ends registry e
    · obtain ⟨x, earlier, later, rfl, hearlier, e', hends⟩ := exists_firstWith hsome
      obtain ⟨q, -, -, store', findings, hp', -⟩ :=
        FamilyKind.exists_process_of_ends hvalid hstore hfeeds hearlier hends
      cases hp.symm.trans hp'
      cases hfailure
      exact ⟨x, ⟨earlier, later, rfl, hearlier, e, hends⟩, hends⟩
    · rw [FamilyKind.failure_process_of_feeds hvalid hstore hfeeds hsome hp] at hfailure
      cases hfailure
  · rintro ⟨x, ⟨earlier, later, rfl, hearlier, -⟩, hends⟩
    obtain ⟨q, -, -, store', findings, hp, -⟩ :=
      FamilyKind.exists_process_of_ends hvalid hstore hfeeds hearlier hends
    exact ⟨_, hp, rfl⟩
  · rintro earlier x later e rfl hearlier hends
    exact FamilyKind.exists_process_of_ends hvalid hstore hfeeds hearlier hends

namespace Cosmos

open NodeAlerts.Json

/-- The node `v` of `hub` at a time in seconds. -/
def monitored (seconds : Nat) : String × Value :=
  ("meta_data", .ofObject <| Table.ofList
    [("node_name", .text "validator"), ("node_id", .text "v"), ("node_parent_id", .text "hub"),
      ("last_monitored", .ofCount seconds)])

/-- Configures the chain `hub`: an invalid address of Prometheus is reported, and so is jail. -/
def addressAndJail : Message where
  routingKey := (⟨family.name⟩ : Routing).configKey "hub"
  payload := Value.bytes <| .ofObject <| Table.ofList
    [("0", .ofObject <| Table.ofList
      [("name", .text "prometheus_invalid_url"), ("parent_id", .text "hub"),
        ("enabled", .text "yes")]),
    ("1", .ofObject <| Table.ofList
      [("name", .text "validator_is_jailed"), ("parent_id", .text "hub"),
        ("enabled", .text "yes")])]
  tag := 0

/-- Prometheus could not be monitored, for a reason without data, and the validator is jailed. -/
def unmonitored (code seconds : Nat) : Message where
  routingKey := (⟨family.name⟩ : Routing).dataKey
  payload := Value.bytes <| .ofObject <| Table.ofList
    [("prometheus", .ofObject <| Table.ofList [("error", .ofObject <| Table.ofList
      [monitored seconds, ("message", .text "Unreachable"), ("code", .ofCount code)])]),
    ("cosmos_rest", .ofObject <| Table.ofList [("result", .ofObject <| Table.ofList
      [monitored seconds, ("data", .ofObject <| Table.ofList [("jailed", .ofObject <|
        Table.ofList [("current", .bool true)])])])])]
  tag := seconds

end Cosmos

/-- The address of Prometheus is invalid at first.  Then the node is down, but not since a known
time: the invalid address is found to be resolved, and the jail that is told behind is not looked
at. -/
theorem message_fails_iff_undated :
    ∃ (H : History Cosmos.Metric) (p : Processed Cosmos.Metric),
      (Alerter.new FamilyKind.cosmos.family Settings.default).history
        [⟨Cosmos.addressAndJail, .agreeing⟩, ⟨Cosmos.unmonitored 5009 1, .agreeing⟩] = .ok H ∧
      Cosmos.family.process H.alerter.registry H.alerter.store
        (Cosmos.unmonitored 5004 2).payload = .ok p ∧
      p.findings.map (fun y => (y.metric, y.event.severity)) =
        [(.prometheusInvalidUrl, .info)] ∧
      ∃ feeds x e, Cosmos.feeds? (Cosmos.unmonitored 5004 2).payload = some feeds ∧
        FirstWith (fun x => ∃ e, x.Ends H.alerter.registry e) feeds x ∧
        x.Ends H.alerter.registry e := by
  have hrun : ((Alerter.new FamilyKind.cosmos.family Settings.default).history
      [⟨Cosmos.addressAndJail, .agreeing⟩, ⟨Cosmos.unmonitored 5009 1, .agreeing⟩]).map (fun H =>
        (Cosmos.family.process H.alerter.registry H.alerter.store
          (Cosmos.unmonitored 5004 2).payload).map fun p =>
            (p.findings.map (fun y => (y.metric, y.event.severity)), p.failure.isSome)) =
        .ok (.ok ([(.prometheusInvalidUrl, .info)], true)) := by decide +kernel
  obtain ⟨H, hH, hprocess⟩ := exists_of_map_eq_ok hrun
  obtain ⟨p, hp, hfound⟩ := exists_of_map_eq_ok hprocess
  obtain ⟨hfindings, hfailure⟩ := Prod.mk.inj hfound
  obtain ⟨e, he⟩ := Option.isSome_iff_exists.1 hfailure
  obtain ⟨hunread, hfails⟩ := message_fails_iff .cosmos Settings.default _ hH
    (Cosmos.unmonitored 5004 2).payload
  cases hfeeds : Cosmos.feeds? (Cosmos.unmonitored 5004 2).payload with
  | none =>
      -- a message that cannot be read finds nothing
      cases hp.symm.trans (hunread hfeeds)
      cases hfindings
  | some feeds =>
      obtain ⟨x, hfirst, hends⟩ := ((hfails feeds hfeeds).1 e).1 ⟨p, hp, he⟩
      exact ⟨H, p, hH, hp, hfindings, feeds, x, e, rfl, hfirst, hends⟩

end NodeAlerts
