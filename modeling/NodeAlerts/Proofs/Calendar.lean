import NodeAlerts.Proofs.Agreement
import NodeAlerts.Proofs.Routing

/-!
# Where the calendar ends

Classifying computes with dates.  The time between two dates always exists, but a counter of
occurrences subtracts its period from the time of monitoring, and the result may lie before the
calendar: configured windows may be longer than the calendar, and a node may report any time in it.
Then a message cannot be handled at all, where it ought to be given up like any other bad data.

`data_overruns_iff` says which messages these are: the ones that read a counter of an enabled metric
at a time from which one of its windows reaches behind the start of the calendar, unless they are
given up before.  Nothing else keeps a message from being handled.
-/

namespace NodeAlerts

/-! ## Periods that leave the calendar -/

/-- A period that ends at an instant starts before the calendar. -/
def Span.LeavesCalendar (period : Span) (now : Instant) : Prop :=
  now.micros - period.micros < Instant.first.micros

theorem Instant.inCalendar_of_ofSeconds? {seconds : Float} {t : Instant}
    (h : Instant.ofSeconds? seconds = some t) : t.InCalendar := by
  rw [ofSeconds?] at h
  split at h
  · simp only at h
    split at h
    · rename_i hcalendar
      cases h
      exact hcalendar
    · cases h
  · cases h

theorem Monitoring.inCalendar_timestamp {m : Monitoring} {now : Instant}
    (h : m.timestamp = .ok now) : now.InCalendar := by
  rw [timestamp] at h
  cases ht : Instant.ofSeconds? m.lastMonitored with
  | none => rw [ht] at h; cases h
  | some t =>
      rw [ht] at h
      cases h
      exact Instant.inCalendar_of_ofSeconds? ht

/-- A period that is not negative leaves the calendar at its start only. -/
theorem Instant.minus?_eq_none_iff {now : Instant} (hnow : now.InCalendar) {period : Span}
    (hperiod : Span.zero ≤ period) : now.minus? period = none ↔ period.LeavesCalendar now := by
  have hlast : now.micros - period.micros ≤ Instant.last.micros := by
    have hle := hnow.2
    have hnonneg : 0 ≤ period.micros := hperiod
    omega
  rw [minus?, Span.LeavesCalendar]
  simp only [InCalendar, hlast, and_true, ite_eq_right_iff, reduceCtorEq, imp_false, Int.not_le]

/-! ## Counters -/

theorem OccurrenceCounter.dropStale_fails_iff {c : OccurrenceCounter} {now : Instant} :
    (∃ e, c.dropStale now = .error e) ↔ now.minus? c.period = none := by
  rw [dropStale]
  cases now.minus? c.period with
  | none => exact ⟨fun _ => rfl, fun _ => ⟨_, rfl⟩⟩
  | some cutoff => cases c.entries <;> simp

theorem OccurrenceCounter.add_fails_iff {c : OccurrenceCounter} {now : Instant} {n : Nat} :
    (∃ e, c.add now n = .error e) ↔ now.minus? c.period = none := by
  rw [add, bind_fails_iff, dropStale_fails_iff]
  constructor
  · rintro (h | ⟨c', -, e, h⟩)
    · exact h
    · by_cases hn : n = 0
      · rw [if_pos hn] at h
        cases h
      · rw [if_neg hn] at h
        cases h
  · exact Or.inl

/-- Counting leaves the calendar if one of the periods does. -/
theorem countOccurrences_fails_iff {s : MetricState} {now : Instant} {n : Nat} :
    (∃ e, countOccurrences s now n = .error e) ↔
      now.minus? s.warning.occurrences.period = none ∨
        now.minus? s.critical.occurrences.period = none := by
  rw [countOccurrences, bind_fails_iff, OccurrenceCounter.add_fails_iff]
  constructor
  · rintro (h | ⟨warning, -, h⟩)
    · exact Or.inl h
    · rw [bind_fails_iff, OccurrenceCounter.add_fails_iff] at h
      rcases h with h | ⟨critical, -, e, h⟩
      · exact Or.inr h
      · cases h
  · rintro (h | h)
    · exact Or.inl h
    · cases hw : s.warning.occurrences.add now n with
      | error e => exact Or.inl (OccurrenceCounter.add_fails_iff.1 ⟨e, hw⟩)
      | ok warning =>
          refine Or.inr ⟨warning, rfl, ?_⟩
          rw [bind_fails_iff, OccurrenceCounter.add_fails_iff]
          exact Or.inl h

namespace Reading

/-- Whether a reading counts occurrences. -/
def counts : Reading → Bool
  | .counter _ _ => true
  | _ => false

/-- A reading cannot be classified if it counts over a period that leaves the calendar. -/
theorem classify_fails_iff {r : Reading} {c : MetricConfig} {now : Instant} {s : MetricState} :
    (∃ e, r.classify c now s = .error e) ↔
      r.counts = true ∧ (now.minus? s.warning.occurrences.period = none ∨
        now.minus? s.critical.occurrences.period = none) := by
  cases r with
  | counter current previous =>
      rw [classify, classifyIncrease, bind_fails_iff, countOccurrences_fails_iff]
      constructor
      · rintro (h | ⟨s', -, e, h⟩)
        · exact ⟨rfl, h⟩
        · cases h
      · exact fun h => Or.inl h.2
  | _ => simp [classify, counts]

end Reading

variable {M : Type} [DecidableEq M]

/-! ## Reports -/

omit [DecidableEq M] in
/-- A reading of an enabled metric counts over a period that leaves the calendar. -/
def Family.Overruns (f : Family M) (config : ChainConfig) (now : Instant) (m : M) (r : Reading) :
    Prop :=
  r.counts = true ∧ ∃ c, config.enabled? (f.metricName m) = some c ∧
    (c.warning.window.LeavesCalendar now ∨ c.critical.window.LeavesCalendar now)

namespace Report

/-- One of the readings of a report about a configured chain counts over a period that leaves the
calendar. -/
def Overruns (report : Report M) (f : Family M) (registry : Registry) : Prop :=
  ∃ config now, registry.configFor? report.monitoring.origin.parentId = some config ∧
    report.monitoring.timestamp = .ok now ∧ ∃ x ∈ report.readings, f.Overruns config now x.1 x.2

/-- A report is passed over, or has a time and no defect, so that the next one is looked at. -/
def Passes (report : Report M) (registry : Registry) : Prop :=
  registry.configFor? report.monitoring.origin.parentId = none ∨
    (∃ now, report.monitoring.timestamp = .ok now) ∧ report.defect = none

end Report

namespace Family

variable {f : Family M} {k : ChainConfig} {origin : Origin} {now : Instant} {registry : Registry}

theorem classifyOne_fails_iff {node : NodeState M} (hn : node.Agrees f k) (hk : k.NonNegative)
    (hnow : now.InCalendar) {m : M} (hm : m ∈ f.metrics) {r : Reading} :
    (∃ e, f.classifyOne k origin now node m r = .error e) ↔ f.Overruns k now m r := by
  rw [classifyOne, Overruns]
  cases hc : k.enabled? (f.metricName m) with
  | none => simp
  | some c =>
      have hmetric := ChainConfig.metric?_of_enabled? hc
      obtain ⟨s, hs, hlengths⟩ := hn.exists_state hm hmetric
      have hnonNegative := hk _ c hmetric
      have hfits := MetricState.fits_of_lengths_eq hlengths hnonNegative
      simp only [hs, bind_fails_iff, Reading.classify_fails_iff, hfits.warningPeriod,
        hfits.criticalPeriod, Instant.minus?_eq_none_iff hnow hnonNegative.warning,
        Instant.minus?_eq_none_iff hnow hnonNegative.critical]
      constructor
      · rintro (⟨hcounts, h⟩ | ⟨step, -, e, h⟩)
        · exact ⟨hcounts, c, rfl, h⟩
        · cases h
      · rintro ⟨hcounts, c', hc', h⟩
        cases hc'
        exact Or.inl ⟨hcounts, h⟩

/-- Readings cannot be classified if one of them cannot. -/
theorem classifyAll_fails_iff (hk : k.NonNegative) (hnow : now.InCalendar)
    (hmetrics : ∀ m, m ∈ f.metrics) (readings : List (M × Reading)) {node : NodeState M}
    (hn : node.Agrees f k) :
    (∃ e, f.classifyAll k origin now readings node = .error e) ↔
      ∃ x ∈ readings, f.Overruns k now x.1 x.2 := by
  induction readings generalizing node with
  | nil => simp [classifyAll]
  | cons x rest ih =>
      obtain ⟨m, r⟩ := x
      have hfirst : (∃ e, f.classifyOne k origin now node m r = .error e) ↔ f.Overruns k now m r :=
        classifyOne_fails_iff hn hk hnow (hmetrics m)
      rw [List.exists_mem_cons_iff]
      cases hone : f.classifyOne k origin now node m r with
      | error e =>
          rw [hone] at hfirst
          refine ⟨fun _ => Or.inl (hfirst.1 ⟨e, rfl⟩), fun _ => ⟨e, ?_⟩⟩
          rw [classifyAll, hone]
          rfl
      | ok one =>
          rw [hone] at hfirst
          have hnot : ¬ f.Overruns k now m r := by simpa using hfirst
          rw [classifyAll_of_ok hone (failure_classifyOne hn (hmetrics m) hone), map_fails_iff,
            ih (agrees_classifyOne hn hone)]
          exact ⟨Or.inr, fun h => h.resolve_left hnot⟩

/-- A report cannot be processed if one of its readings cannot be classified. -/
theorem processReport_fails_iff (hmetrics : ∀ m, m ∈ f.metrics) {store : Store M}
    (hs : store.Agrees f registry) (hr : registry.Valid) {report : Report M} :
    (∃ e, f.processReport registry store report = .error e) ↔ report.Overruns f registry := by
  simp only [processReport, Report.Overruns]
  cases hc : registry.configFor? report.monitoring.origin.parentId with
  | none => simp
  | some config =>
      cases ht : report.monitoring.timestamp with
      | error e => simp
      | ok now =>
          obtain ⟨name, hname, -⟩ := (Registry.configFor?_eq_some_iff hr.owned).1 hc
          have hreadings :
              (∃ e, f.classifyAll config report.monitoring.origin now report.readings
                (f.nodeState config store report.monitoring.origin) = .error e) ↔
              ∃ x ∈ report.readings, f.Overruns config now x.1 x.2 :=
            classifyAll_fails_iff (hr.nonNegative name config hname)
              (Monitoring.inCalendar_timestamp ht) hmetrics report.readings (hs.nodeState hc)
          rw [bind_fails_iff, hreadings]
          constructor
          · rintro (h | ⟨batch, -, e, h⟩)
            · exact ⟨config, now, rfl, rfl, h⟩
            · cases h
          · rintro ⟨config', now', hconfig, hnow, h⟩
            cases hconfig
            cases hnow
            exact Or.inl h

/-- Readings of enabled metrics find their states. -/
theorem failure_classifyAll (hmetrics : ∀ m, m ∈ f.metrics) {readings : List (M × Reading)}
    {node : NodeState M} (hn : node.Agrees f k) {b : Batch M}
    (h : f.classifyAll k origin now readings node = .ok b) : b.failure = none := by
  refine Option.eq_none_iff_forall_ne_some.2 fun e => ?_
  refine classifyAll_failure (P := fun n => n.Agrees f k) readings ?_ node b hn h
  intro node m r one _ hn hone
  refine ⟨agrees_classifyOne hn hone, ?_⟩
  rw [failure_classifyOne hn (hmetrics m) hone]
  simp

/-- A report that is processed lets the next one be looked at, or ends the message. -/
theorem failure_processReport_eq_none_iff (hmetrics : ∀ m, m ∈ f.metrics) {store : Store M}
    (hs : store.Agrees f registry) {report : Report M} {one : Processed M}
    (h : f.processReport registry store report = .ok one) :
    one.failure = none ↔ report.Passes registry := by
  simp only [processReport] at h
  rw [Report.Passes]
  cases hc : registry.configFor? report.monitoring.origin.parentId with
  | none =>
      rw [hc] at h
      cases h
      exact ⟨fun _ => Or.inl rfl, fun _ => rfl⟩
  | some config =>
      rw [hc] at h
      cases ht : report.monitoring.timestamp with
      | error e =>
          rw [ht] at h
          cases h
          simp
      | ok now =>
          rw [ht] at h
          obtain ⟨batch, hbatch, hone⟩ := exists_of_bind_eq_ok h
          cases hone
          rw [failure_classifyAll hmetrics (hs.nodeState hc) hbatch, Option.none_or]
          simp

/-- Reports cannot be processed if one of them cannot and none before ends the message. -/
theorem processReports_fails_iff (hmetrics : ∀ m, m ∈ f.metrics) (hr : registry.Valid)
    (reports : List (Report M)) {store : Store M} (hs : store.Agrees f registry) :
    (∃ e, f.processReports registry reports store = .error e) ↔
      ∃ earlier report later, reports = earlier ++ report :: later ∧
        (∀ other ∈ earlier, other.Passes registry) ∧ report.Overruns f registry := by
  induction reports generalizing store with
  | nil => simp [processReports]
  | cons report rest ih =>
      have hfirst : (∃ e, f.processReport registry store report = .error e) ↔
          report.Overruns f registry := processReport_fails_iff hmetrics hs hr
      rw [exists_split_cons]
      cases hone : f.processReport registry store report with
      | error e =>
          rw [hone] at hfirst
          refine ⟨fun _ => Or.inl (hfirst.1 ⟨e, rfl⟩), fun _ => ⟨e, ?_⟩⟩
          rw [processReports, hone]
          rfl
      | ok one =>
          rw [hone] at hfirst
          have hnot : ¬ report.Overruns f registry := by simpa using hfirst
          have hpasses := failure_processReport_eq_none_iff hmetrics hs hone
          by_cases hf : one.failure = none
          · rw [processReports_of_ok hone hf, map_fails_iff, ih (hs.processReport hr hone)]
            exact ⟨fun h => Or.inr ⟨hpasses.1 hf, h⟩, fun h => (h.resolve_left hnot).2⟩
          · rw [processReports_of_failure hone hf]
            refine iff_of_false (by simp) fun h => ?_
            exact hf (hpasses.2 (h.resolve_left hnot).1)

/-- **A message cannot be processed** if one of its reports cannot and none before ends it. -/
theorem process_fails_iff (hmetrics : ∀ m, m ∈ f.metrics) (hr : registry.Valid)
    {store : Store M} (hs : store.Agrees f registry) {payload : List UInt8} :
    (∃ e, f.process registry store payload = .error e) ↔
      ∃ earlier report later, f.reports? payload = some (earlier ++ report :: later) ∧
        (∀ other ∈ earlier, other.Passes registry) ∧ report.Overruns f registry := by
  rw [process]
  cases hreports : f.reports? payload with
  | none => simp
  | some reports =>
      simp only [processReports_fails_iff hmetrics hr reports hs, Option.some.injEq]

end Family

/-! ## Messages -/

/-- Only processing keeps a message from being handled. -/
theorem Alerter.handle_fails_iff {a : Alerter M} {b : Broker} {m : Message} :
    (∃ e, a.handle b m = .error e) ↔ m.routingKey = a.routing.dataKey ∧
      ∃ e, a.family.process a.registry a.store m.payload = .error e := by
  rw [← Routing.route_eq_data_iff]
  constructor
  · rintro ⟨e, h⟩
    cases hroute : a.routing.route m.routingKey with
    | data =>
        cases hp : a.family.process a.registry a.store m.payload with
        | error e => exact ⟨rfl, e, rfl⟩
        | ok p =>
            obtain ⟨_, _, hh, -⟩ := exists_handle_of_process hroute hp b
            rw [h] at hh
            cases hh
    | config name => rw [handle, hroute] at h; cases h
    | unknown => rw [handle, hroute] at h; cases h
  · rintro ⟨hroute, e, hp⟩
    exact ⟨e, handle_of_process_error hroute hp b⟩

/-! ## Missed blocks of a Cosmos node -/

namespace Cosmos

open NodeAlerts.Json

/-- Configures the missed blocks of the chain `hub`, with a window in seconds. -/
def blocksWithin (window : String) : Message where
  routingKey := (⟨family.name⟩ : Routing).configKey "hub"
  payload := Value.bytes <| .ofObject <| Table.ofList [("0", .ofObject <| Table.ofList
    [("name", .text "blocks_missed"), ("parent_id", .text "hub"), ("enabled", .text "yes"),
      ("warning_enabled", .text "yes"), ("warning_threshold", .text "2"),
      ("warning_time_window", .text window)])]
  tag := 0

/-- The blocks that the node `v` of `hub` missed so far. -/
def missedBlocks (blocks seconds : Nat) : Message :=
  observation "tendermint_rpc" seconds [("missed_blocks", .ofObject <| Table.ofList
    [("current", .ofCount blocks), ("previous", .ofCount 0)])]

end Cosmos

/-! ## Histories -/

/-- **Which data leaves the calendar.**  A message that follows any history of a fresh alerter
cannot be handled if and only if it is data, and one of its reports, before which no report ends the
message, reads a counter of an enabled metric at a time from which the window of one of the levels
reaches behind the start of the calendar. -/
theorem data_overruns_iff (k : FamilyKind) (settings : Settings) (turns : List Turn)
    {H : History k.Metric} (h : (Alerter.new k.family settings).history turns = .ok H) (t : Turn) :
    (∃ e, H.alerter.handle t.broker t.message = .error e) ↔
      t.message.routingKey = (⟨k.family.name⟩ : Routing).dataKey ∧
      ∃ earlier report later,
        k.family.reports? t.message.payload = some (earlier ++ report :: later) ∧
        (∀ other ∈ earlier, other.Passes H.alerter.registry) ∧
        report.Overruns k.family H.alerter.registry := by
  have hagrees := Alerter.agrees_history h
  have hfamily : H.alerter.family = k.family := (Alerter.sameSetup_history h).family
  have hstore := hagrees.store
  rw [hfamily] at hstore
  rw [Alerter.handle_fails_iff, Alerter.routing, hfamily,
    Family.process_fails_iff k.layout.mem_metrics hagrees.registry hstore]

/-- With a window of thirty million years the missed blocks of a node cannot be handled, and that is
because their report reaches behind the start of the calendar; with a window of a minute they can,
and the report does not. -/
theorem data_overruns_missed_blocks :
    ∃ H K : History Cosmos.Metric,
      (Alerter.new FamilyKind.cosmos.family Settings.default).history
        [⟨Cosmos.blocksWithin "1e15", .agreeing⟩] = .ok H ∧
      (∃ report : Report Cosmos.Metric, report.Overruns Cosmos.family H.alerter.registry) ∧
      (Alerter.new FamilyKind.cosmos.family Settings.default).history
        [⟨Cosmos.blocksWithin "60", .agreeing⟩] = .ok K ∧
      ∀ report, Cosmos.family.reports? (Cosmos.missedBlocks 5 1700000000).payload = some [report] →
        ¬ report.Overruns Cosmos.family K.alerter.registry := by
  let t : Turn := ⟨Cosmos.missedBlocks 5 1700000000, .agreeing⟩
  have hlong : ((Alerter.new FamilyKind.cosmos.family Settings.default).history
      [⟨Cosmos.blocksWithin "1e15", .agreeing⟩]).map
        (fun H => (H.alerter.handle t.broker t.message).isOk) = .ok false := by decide +kernel
  have hshort : ((Alerter.new FamilyKind.cosmos.family Settings.default).history
      [⟨Cosmos.blocksWithin "60", .agreeing⟩]).map
        (fun H => (H.alerter.handle t.broker t.message).isOk) = .ok true := by decide +kernel
  obtain ⟨H, hH, hfails⟩ := exists_of_map_eq_ok hlong
  obtain ⟨K, hK, hworks⟩ := exists_of_map_eq_ok hshort
  refine ⟨H, K, hH, ?_, hK, fun report hreport hoverruns => ?_⟩
  · have herror : ∃ e, H.alerter.handle t.broker t.message = .error e := by
      cases hh : H.alerter.handle t.broker t.message with
      | error e => exact ⟨e, rfl⟩
      | ok h => rw [hh] at hfails; cases hfails
    obtain ⟨-, _, report, _, -, -, hoverruns⟩ :=
      (data_overruns_iff .cosmos Settings.default _ hH t).1 herror
    exact ⟨report, hoverruns⟩
  · obtain ⟨e, he⟩ := (data_overruns_iff .cosmos Settings.default _ hK t).2
      ⟨rfl, [], report, [], hreport, by simp, hoverruns⟩
    rw [he] at hworks
    cases hworks

/-- **Data can leave the calendar.**  A window of thirty million years is accepted, and the missed
blocks of a node that follow it cannot be handled. -/
theorem missed_blocks_overrun :
    ((Alerter.new FamilyKind.cosmos.family Settings.default).history
        [⟨Cosmos.blocksWithin "1e15", .agreeing⟩,
          ⟨Cosmos.missedBlocks 5 1700000000, .agreeing⟩]).map (fun _ => ()) =
      .error (.periodStart ⟨1700000000000000⟩ ⟨1000000000000000000000⟩) := by
  decide +kernel

end NodeAlerts
