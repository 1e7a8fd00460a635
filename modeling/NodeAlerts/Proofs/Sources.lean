import NodeAlerts.Proofs.Families

/-!
# The sources of a family share no metric

Each metric of a family is read at one source, and a message has at most one report of a source, in
which no metric is read twice (`Family.Sources`).  So two reports of a message never read the same
metric of a node, and nor do two messages without a common source and node.
-/

namespace NodeAlerts

/-- A report reads metrics of its source, each at most once. -/
structure Report.Keeps {M : Type} (report : Report M) (source : M → String) : Prop where
  /-- The readings are of the report's source. -/
  source_reading : ∀ e ∈ report.readings, source e.1 = report.source
  /-- No metric is read twice. -/
  nodup : (report.readings.map Prod.fst).Nodup

/-- What is known about the sources of a family, whatever the payload of a message. -/
structure Family.Sources {M : Type} (f : Family M) where
  /-- The source of each metric. -/
  source : M → String
  /-- The reports of a message keep to their sources. -/
  keeps : ∀ {payload reports}, f.reports? payload = some reports → ∀ report ∈ reports,
    report.Keeps source
  /-- The reports of a message have different sources. -/
  nodup : ∀ {payload reports}, f.reports? payload = some reports →
    (reports.map (·.source)).Nodup

theorem SourceFault.keeps_report {M : Type} (f : SourceFault) {name : String}
    {tracked : List (M × Reading)} {m : M} {source : M → String}
    (htracked : ∀ e ∈ tracked, source e.1 = name) (hm : source m = name)
    (hnodup : (tracked.map Prod.fst ++ [m]).Nodup) : (f.report name tracked m).Keeps source := by
  have htracked' : (tracked.map Prod.fst).Nodup := (List.nodup_append.1 hnodup).1
  rw [report]
  split
  · exact ⟨htracked, htracked'⟩
  · refine ⟨fun e he => ?_, by simpa using hnodup⟩
    rcases List.mem_append.1 he with he | he
    · exact htracked e he
    · rw [List.mem_singleton.1 he]
      exact hm
  · exact ⟨htracked, htracked'⟩

/-! ## Cosmos -/

namespace Cosmos

/-- The source of each metric. -/
def Metric.source : Metric → String
  | .nodeIsDown => "prometheus"
  | .prometheusInvalidUrl => "prometheus"
  | .prometheusMetricNotFound => "prometheus"
  | .noChangeInHeight => "prometheus"
  | .noOfPeers => "prometheus"
  | .mempoolSize => "prometheus"
  | .cosmosRestInvalidUrl => "cosmos_rest"
  | .validatorWasSlashed => "cosmos_rest"
  | .validatorIsJailed => "cosmos_rest"
  | .validatorIsNotActive => "cosmos_rest"
  | .tendermintRpcInvalidUrl => "tendermint_rpc"
  | .nodeIsSyncing => "tendermint_rpc"
  | .blocksMissed => "tendermint_rpc"

theorem source_prometheusReport (o : Outcome PrometheusData) :
    (prometheusReport o).source = "prometheus" := by
  cases o with
  | result m d => rfl
  | fault f => simp only [prometheusReport]; split <;> rfl

theorem keeps_prometheusReport (o : Outcome PrometheusData) :
    (prometheusReport o).Keeps Metric.source := by
  cases o with
  | result m d =>
      obtain ⟨height, peers, mempool⟩ := d
      constructor
      · cases height <;> cases peers <;> cases mempool <;> simp [prometheusReport, Metric.source]
      · cases height <;> cases peers <;> cases mempool <;> simp [prometheusReport]
  | fault f => exact f.keeps_report (by simp [Metric.source]) rfl (by simp)

theorem keeps_cosmosRestReport (o : Outcome CosmosRestData) :
    (cosmosRestReport o).Keeps Metric.source := by
  cases o with
  | result m d =>
      obtain ⟨slashed, jailed, bond⟩ := d
      constructor
      · cases slashed <;> cases jailed <;> cases bond <;> simp [cosmosRestReport, Metric.source]
      · cases slashed <;> cases jailed <;> cases bond <;> simp [cosmosRestReport]
  | fault f => exact ⟨by simp [cosmosRestReport, Metric.source], by simp [cosmosRestReport]⟩

theorem keeps_tendermintRpcReport (o : Outcome TendermintRpcData) :
    (tendermintRpcReport o).Keeps Metric.source := by
  cases o with
  | result m d =>
      obtain ⟨syncing, missed⟩ := d
      constructor
      · cases syncing <;> cases missed <;> simp [tendermintRpcReport, Metric.source]
      · cases syncing <;> cases missed <;> simp [tendermintRpcReport]
  | fault f => exact ⟨by simp [tendermintRpcReport, Metric.source], by simp [tendermintRpcReport]⟩

theorem keeps_reports (d : NodeData) : ∀ report ∈ d.reports, report.Keeps Metric.source := by
  intro report h
  simp only [NodeData.reports, List.mem_append, Option.mem_toList, Option.map_eq_some_iff] at h
  obtain (⟨o, -, rfl⟩ | ⟨o, -, rfl⟩) | ⟨o, -, rfl⟩ := h
  · exact keeps_prometheusReport o
  · exact keeps_cosmosRestReport o
  · exact keeps_tendermintRpcReport o

theorem nodup_sources (d : NodeData) : (d.reports.map (·.source)).Nodup := by
  obtain ⟨prometheus, rest, rpc⟩ := d
  have hrest : ∀ o, (cosmosRestReport o).source = "cosmos_rest" := fun o => by cases o <;> rfl
  have hrpc : ∀ o, (tendermintRpcReport o).source = "tendermint_rpc" := fun o => by
    cases o <;> rfl
  cases prometheus <;> cases rest <;> cases rpc <;>
    simp [NodeData.reports, source_prometheusReport, hrest, hrpc]

/-- The sources of Cosmos messages. -/
def sources : family.Sources where
  source := Metric.source
  keeps := by
    intro payload reports h
    obtain ⟨d, -, rfl⟩ := Option.map_eq_some_iff.1 h
    exact keeps_reports d
  nodup := by
    intro payload reports h
    obtain ⟨d, -, rfl⟩ := Option.map_eq_some_iff.1 h
    exact nodup_sources d

end Cosmos

/-! ## Substrate -/

namespace Substrate

theorem keeps_websocketReport (o : Outcome WebsocketData) :
    (websocketReport o).Keeps fun _ => "websocket" := by
  cases o with
  | result m d =>
      obtain ⟨best, finalized, peers, syncing, slashed⟩ := d
      refine ⟨fun _ _ => rfl, ?_⟩
      cases best <;> cases finalized <;> cases peers <;> cases syncing <;> cases slashed <;>
        simp [websocketReport]
  | fault f => exact f.keeps_report (by simp) rfl (by simp)

/-- The single source of Substrate messages. -/
def sources : family.Sources where
  source _ := "websocket"
  keeps := by
    intro payload reports h report hr
    obtain ⟨d, -, rfl⟩ := Option.map_eq_some_iff.1 h
    simp only [NodeData.reports, Option.mem_toList, Option.map_eq_some_iff] at hr
    obtain ⟨o, -, rfl⟩ := hr
    exact keeps_websocketReport o
  nodup := by
    intro payload reports h
    obtain ⟨⟨websocket⟩, -, rfl⟩ := Option.map_eq_some_iff.1 h
    cases websocket <;> simp [NodeData.reports]

end Substrate

/-! ## The sample family -/

namespace Sample

/-- The single source of messages of the sample family. -/
def sources : family.Sources where
  source _ := "value"
  keeps := by
    intro payload reports h report hr
    obtain ⟨d, -, rfl⟩ := Option.map_eq_some_iff.1 h
    rw [List.mem_singleton.1 hr]
    exact ⟨by simp [NodeData.report], by simp [NodeData.report]⟩
  nodup := by
    intro payload reports h
    obtain ⟨d, -, rfl⟩ := Option.map_eq_some_iff.1 h
    simp

end Sample

/-- **The sources of every family share no metric.** -/
def FamilyKind.sources : (k : FamilyKind) → k.family.Sources
  | .cosmos => Cosmos.sources
  | .substrate => Substrate.sources
  | .sample => Sample.sources

end NodeAlerts
