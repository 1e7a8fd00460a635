import NodeAlerts.Family.Cosmos
import NodeAlerts.Family.Sample
import NodeAlerts.Family.Substrate

/-!
# The families and the layout of their messages

`FamilyKind` lists the families, so that a statement about all of them is one statement.  What the
proofs know about a family is its `Family.Layout`: every metric is one of the family, every reading
of a metric is classified by the metric's own rule, and a report is never defective for the lack of
a state.  A family whose messages change needs a new layout and nothing else.
-/

namespace NodeAlerts

/-! ## Rules -/

/-- The rules that classify readings. -/
inductive Rule where
  /-- A value with thresholds. -/
  | gauge
  /-- A counter with thresholds for its increase. -/
  | counter
  /-- A value that ought to change. -/
  | progress
  /-- Downtime. -/
  | downtime
  /-- An error code. -/
  | fault
  /-- A condition that is reported each time; whether also when it does not hold. -/
  | condition (resolves : Bool)
  /-- A condition that is reported when it starts and ends to hold. -/
  | transition
  deriving Repr, DecidableEq

/-- The rule that classifies a reading. -/
def Reading.rule : Reading → Rule
  | .gauge .. => .gauge
  | .counter .. => .counter
  | .progress .. => .progress
  | .downtime .. => .downtime
  | .fault .. => .fault
  | .condition _ _ cleared => .condition cleared.isSome
  | .transition .. => .transition

/-- The readings of each metric are classified by its rule, and what is wrong with the report behind
its readings is never the lack of a state. -/
structure Report.Follows {M : Type} (report : Report M) (rule : M → Rule) : Prop where
  /-- The readings of a metric are classified by its rule. -/
  rule_reading : ∀ e ∈ report.readings, e.2.rule = rule e.1
  /-- No state is lacking. -/
  defect_ne : ∀ originId metric, report.defect ≠ some (.missingState originId metric)

/-- What is known about the messages of a family, whatever their payload. -/
structure Family.Layout {M : Type} (f : Family M) where
  /-- The rule of each metric. -/
  rule : M → Rule
  /-- Every metric is one of the family. -/
  mem_metrics : ∀ m, m ∈ f.metrics
  /-- Conditions that are reported each time are not resolved. -/
  rule_ne : ∀ m, rule m ≠ .condition true
  /-- The reports of a message follow the rules. -/
  follows : ∀ {payload reports}, f.reports? payload = some reports → ∀ report ∈ reports,
    report.Follows rule

/-! ## Times -/

theorem Monitoring.timestamp_ne (m : Monitoring) (originId metric : String) :
    m.timestamp ≠ .error (.missingState originId metric) := by
  rw [timestamp]
  cases Instant.ofSeconds? m.lastMonitored with
  | some t => simp
  | none => simp

theorem SourceFault.wentDownAt_ne (f : SourceFault) (originId metric : String) :
    f.wentDownAt ≠ .error (.missingState originId metric) := by
  rw [wentDownAt]
  by_cases hcode : f.code = FaultCode.nodeIsDown
  · rw [if_pos hcode]
    cases f.wentDownSeconds? with
    | none => simp
    | some seconds => cases hs : Instant.ofSeconds? seconds <;> simp [hs]
  · rw [if_neg hcode]
    simp

/-! ## Failures -/

section Faults

variable {M : Type}

/-- The report of a source that could not be monitored and whose failures tell about downtime: the
tracked errors, and the downtime of a node if the failure tells since when. -/
def SourceFault.report (f : SourceFault) (source : String) (tracked : List (M × Reading)) (m : M) :
    Report M :=
  match f.wentDownAt with
  | .ok none => ⟨source, f.monitoring, tracked, none⟩
  | .ok (some t) => ⟨source, f.monitoring, tracked ++ [(m, .downtime (some t))], none⟩
  | .error e => ⟨source, f.monitoring, tracked, some e⟩

variable (f : SourceFault) {source : String} {tracked : List (M × Reading)} {m : M}

theorem SourceFault.follows_report {rule : M → Rule}
    (htracked : ∀ e ∈ tracked, e.2.rule = rule e.1) (hm : rule m = .downtime) :
    (f.report source tracked m).Follows rule := by
  have hdown := f.wentDownAt_ne
  rw [report]
  split
  · exact ⟨htracked, by simp⟩
  · refine ⟨fun e he => ?_, by simp⟩
    rcases List.mem_append.1 he with he | he
    · exact htracked e he
    · rw [List.mem_singleton.1 he, hm]
      rfl
  · rename_i e he
    refine ⟨htracked, fun originId metric h => hdown originId metric ?_⟩
    rw [he, Option.some.inj h]

end Faults

/-! ## Cosmos -/

namespace Cosmos

/-- The rule of each metric. -/
def Metric.rule : Metric → Rule
  | .nodeIsDown => .downtime
  | .prometheusInvalidUrl => .fault
  | .prometheusMetricNotFound => .fault
  | .noChangeInHeight => .progress
  | .noOfPeers => .gauge
  | .mempoolSize => .gauge
  | .cosmosRestInvalidUrl => .fault
  | .validatorWasSlashed => .condition false
  | .validatorIsJailed => .transition
  | .validatorIsNotActive => .transition
  | .tendermintRpcInvalidUrl => .fault
  | .nodeIsSyncing => .transition
  | .blocksMissed => .counter

theorem follows_prometheusReport (o : Outcome PrometheusData) :
    (prometheusReport o).Follows Metric.rule := by
  cases o with
  | result m d =>
      obtain ⟨height, peers, mempool⟩ := d
      refine ⟨?_, by simp [prometheusReport]⟩
      cases height <;> cases peers <;> cases mempool <;>
        simp [prometheusReport, Reading.rule, Metric.rule]
  | fault f => exact f.follows_report (by simp [Reading.rule, Metric.rule]) rfl

theorem follows_cosmosRestReport (o : Outcome CosmosRestData) :
    (cosmosRestReport o).Follows Metric.rule := by
  cases o with
  | result m d =>
      obtain ⟨slashed, jailed, bond⟩ := d
      refine ⟨?_, by simp [cosmosRestReport]⟩
      cases slashed <;> cases jailed <;> cases bond <;>
        simp [cosmosRestReport, Reading.rule, Metric.rule]
  | fault f =>
      refine ⟨?_, by simp [cosmosRestReport]⟩
      simp [cosmosRestReport, Reading.rule, Metric.rule]

theorem follows_tendermintRpcReport (o : Outcome TendermintRpcData) :
    (tendermintRpcReport o).Follows Metric.rule := by
  cases o with
  | result m d =>
      obtain ⟨syncing, missed⟩ := d
      refine ⟨?_, by simp [tendermintRpcReport]⟩
      cases syncing <;> cases missed <;>
        simp [tendermintRpcReport, Reading.rule, Metric.rule]
  | fault f =>
      refine ⟨?_, by simp [tendermintRpcReport]⟩
      simp [tendermintRpcReport, Reading.rule, Metric.rule]

theorem follows_reports (d : NodeData) : ∀ report ∈ d.reports, report.Follows Metric.rule := by
  intro report h
  simp only [NodeData.reports, List.mem_append, Option.mem_toList, Option.map_eq_some_iff] at h
  obtain (⟨o, -, rfl⟩ | ⟨o, -, rfl⟩) | ⟨o, -, rfl⟩ := h
  · exact follows_prometheusReport o
  · exact follows_cosmosRestReport o
  · exact follows_tendermintRpcReport o

/-- The layout of Cosmos messages. -/
def layout : family.Layout where
  rule := Metric.rule
  mem_metrics := Metric.mem_all
  rule_ne m := by cases m <;> simp [Metric.rule]
  follows := by
    intro payload reports h
    obtain ⟨d, -, rfl⟩ := Option.map_eq_some_iff.1 h
    exact follows_reports d

end Cosmos

/-! ## Substrate -/

namespace Substrate

/-- The rule of each metric. -/
def Metric.rule : Metric → Rule
  | .nodeIsDown => .downtime
  | .websocketInvalidUrl => .fault
  | .noChangeInBestBlockHeight => .progress
  | .noChangeInFinalizedBlockHeight => .progress
  | .noOfPeers => .gauge
  | .nodeIsSyncing => .transition
  | .validatorWasSlashed => .condition false

theorem follows_websocketReport (o : Outcome WebsocketData) :
    (websocketReport o).Follows Metric.rule := by
  cases o with
  | result m d =>
      obtain ⟨best, finalized, peers, syncing, slashed⟩ := d
      refine ⟨?_, by simp [websocketReport]⟩
      cases best <;> cases finalized <;> cases peers <;> cases syncing <;> cases slashed <;>
        simp [websocketReport, Reading.rule, Metric.rule]
  | fault f => exact f.follows_report (by simp [Reading.rule, Metric.rule]) rfl

/-- The layout of Substrate messages. -/
def layout : family.Layout where
  rule := Metric.rule
  mem_metrics := Metric.mem_all
  rule_ne m := by cases m <;> simp [Metric.rule]
  follows := by
    intro payload reports h report hr
    obtain ⟨d, -, rfl⟩ := Option.map_eq_some_iff.1 h
    simp only [NodeData.reports, Option.mem_toList, Option.map_eq_some_iff] at hr
    obtain ⟨o, -, rfl⟩ := hr
    exact follows_websocketReport o

end Substrate

/-! ## The sample family -/

namespace Sample

/-- The rule of each metric; only `value` is ever read. -/
def Metric.rule : Metric → Rule
  | .value => .gauge
  | .counter => .counter
  | .down => .downtime
  | .error => .fault
  | .flag => .transition

/-- The layout of messages of the sample family. -/
def layout : family.Layout where
  rule := Metric.rule
  mem_metrics := Metric.mem_all
  rule_ne m := by cases m <;> simp [Metric.rule]
  follows := by
    intro payload reports h report hr
    obtain ⟨d, -, rfl⟩ := Option.map_eq_some_iff.1 h
    rw [List.mem_singleton.1 hr]
    exact ⟨by simp [NodeData.report, Reading.rule, Metric.rule], by simp [NodeData.report]⟩

end Sample

/-! ## All families -/

/-- The families. -/
inductive FamilyKind where
  /-- Cosmos chains. -/
  | cosmos
  /-- Substrate chains. -/
  | substrate
  /-- The sample family. -/
  | sample
  deriving Repr, DecidableEq

namespace FamilyKind

/-- The metrics of a family. -/
def Metric : FamilyKind → Type
  | .cosmos => Cosmos.Metric
  | .substrate => Substrate.Metric
  | .sample => Sample.Metric

instance : (k : FamilyKind) → DecidableEq k.Metric
  | .cosmos => inferInstanceAs (DecidableEq Cosmos.Metric)
  | .substrate => inferInstanceAs (DecidableEq Substrate.Metric)
  | .sample => inferInstanceAs (DecidableEq Sample.Metric)

/-- The family of a kind. -/
def family : (k : FamilyKind) → Family k.Metric
  | .cosmos => Cosmos.family
  | .substrate => Substrate.family
  | .sample => Sample.family

/-- **Every family has a layout.** -/
def layout : (k : FamilyKind) → k.family.Layout
  | .cosmos => Cosmos.layout
  | .substrate => Substrate.layout
  | .sample => Sample.layout

end FamilyKind

end NodeAlerts
