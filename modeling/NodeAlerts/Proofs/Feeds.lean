import NodeAlerts.Proofs.Calendar

/-!
# The sources of a message, all alike

A message carries the outcomes of the sources at which a node is monitored.  A `Feed` is one of
them, whatever the source is: the readings of its values stand for its data, beside the errors that
it tracks, the metric of downtime if its failures tell about it, and the conditions that it shows.

Each family takes its messages apart into feeds (`FamilyKind.feeds?`), and every report is that of a
feed (`FamilyKind.reports?_eq`).  A feed that ends the message does so for its time of monitoring,
or because its failure does not tell since when the node is down (`Feed.Ends`).
-/

namespace NodeAlerts

/-- An outcome with its data changed. -/
def Outcome.map {D E : Type} (g : D → E) : Outcome D → Outcome E
  | .result monitoring data => .result monitoring (g data)
  | .fault f => .fault f

/-- The data of an outcome, if the source was monitored. -/
def Outcome.data? {D : Type} : Outcome D → Option D
  | .result _ data => some data
  | .fault _ => none

/-- The error code received with an outcome, if any. -/
def Outcome.received? {D : Type} : Outcome D → Option Int
  | .result .. => none
  | .fault f => some f.code

/-- The message for readers that came with an outcome. -/
def Outcome.message {D : Type} : Outcome D → String
  | .result .. => ""
  | .fault f => f.message

/-- Whether what a reading tells about holds: a condition that starts and ends, or a tracked
error. -/
def Reading.signal? : Reading → Option Bool
  | .transition holds _ _ => some holds
  | .fault tracked received _ => some (decide (received = some tracked))
  | _ => none

/-- What came from one source of a message. -/
structure Feed (M : Type) where
  /-- The source. -/
  source : String
  /-- The outcome; the readings of its values stand for its data. -/
  outcome : Outcome (List (M × Reading))
  /-- The metrics of the errors that the source tracks, with their codes. -/
  tracked : List (M × Int)
  /-- The metric of downtime, if the source tells about it. -/
  downtime? : Option M
  /-- The conditions that the source shows, and whether they hold. -/
  conditions : List (M × Bool)

namespace Feed

variable {M : Type} (x : Feed M)

/-- The node and the time. -/
def monitoring : Monitoring := x.outcome.monitoring

/-- The readings of the errors that the source tracks. -/
def checks : List (M × Reading) :=
  x.tracked.map fun e => (e.1, .fault e.2 x.outcome.received? x.outcome.message)

/-- What the source reports: the errors that it tracks, then downtime, then its values. -/
def report : Report M :=
  match x.outcome with
  | .result monitoring values =>
    ⟨x.source, monitoring,
      x.checks ++ (x.downtime?.map fun m => (m, .downtime none)).toList ++ values, none⟩
  | .fault f =>
    match x.downtime? with
    | some m => f.report x.source x.checks m
    | none => ⟨x.source, f.monitoring, x.checks, none⟩

/-- What is known about the sources of a message, whatever its payload. -/
structure Sound : Prop where
  /-- No metric tracks two errors. -/
  nodup : (x.tracked.map Prod.fst).Nodup
  /-- A node that is down is no error that is tracked. -/
  code_ne : ∀ e ∈ x.tracked, e.2 ≠ FaultCode.nodeIsDown
  /-- The conditions are told by the values, and nothing else is. -/
  conditions_eq : x.conditions =
    (x.outcome.data?.getD []).filterMap fun e => e.2.signal?.map (Prod.mk e.1)

end Feed

/-! ## Cosmos -/

namespace Cosmos

open NodeAlerts.Json

/-- The readings of what Prometheus tells. -/
def PrometheusData.values (data : PrometheusData) : List (Metric × Reading) :=
  (data.currentHeight.map fun o => (.noChangeInHeight, .progress o.current o.previous)).toList ++
  (data.noOfPeers.map fun o => (.noOfPeers, .gauge o.current .below false)).toList ++
  (data.mempoolSize.map fun o => (.mempoolSize, .gauge o.current .above true)).toList

/-- The readings of what the REST interface tells. -/
def CosmosRestData.values (data : CosmosRestData) : List (Metric × Reading) :=
  (data.slashed.map fun o =>
    (.validatorWasSlashed, .condition o.current.slashed o.current.detail none)).toList ++
  (data.jailed.map fun o =>
    (.validatorIsJailed,
      .transition o.current "Validator is jailed" "Validator is no longer jailed")).toList ++
  (data.bondStatus.map fun o =>
    (.validatorIsNotActive,
      .transition (o.current ≠ .bonded)
        ("Validator is not active, bond status is " ++ o.current.label)
        "Validator is active again")).toList

/-- The readings of what the RPC interface tells. -/
def TendermintRpcData.values (data : TendermintRpcData) : List (Metric × Reading) :=
  (data.isSyncing.map fun o =>
    (.nodeIsSyncing,
      .transition o.current "Node is syncing" "Node is no longer syncing")).toList ++
  (data.missedBlocks.map fun o => (.blocksMissed, .counter o.current o.previous)).toList

/-- What came from Prometheus. -/
def prometheusFeed (o : Outcome PrometheusData) : Feed Metric where
  source := "prometheus"
  outcome := o.map PrometheusData.values
  tracked := [(.prometheusInvalidUrl, FaultCode.invalidUrl),
    (.prometheusMetricNotFound, FaultCode.metricNotFound)]
  downtime? := some .nodeIsDown
  conditions := []

/-- Whether the validator is jailed, and whether it is outside the active set. -/
def CosmosRestData.conditions (data : CosmosRestData) : List (Metric × Bool) :=
  (data.jailed.map fun o => (.validatorIsJailed, o.current)).toList ++
  (data.bondStatus.map fun o => (.validatorIsNotActive, decide (o.current ≠ .bonded))).toList

/-- What came from the REST interface. -/
def cosmosRestFeed (o : Outcome CosmosRestData) : Feed Metric where
  source := "cosmos_rest"
  outcome := o.map CosmosRestData.values
  tracked := [(.cosmosRestInvalidUrl, FaultCode.invalidUrl)]
  downtime? := none
  conditions := (o.data?.map CosmosRestData.conditions).getD []

/-- Whether the node is catching up. -/
def TendermintRpcData.conditions (data : TendermintRpcData) : List (Metric × Bool) :=
  (data.isSyncing.map fun o => (.nodeIsSyncing, o.current)).toList

/-- What came from the RPC interface. -/
def tendermintRpcFeed (o : Outcome TendermintRpcData) : Feed Metric where
  source := "tendermint_rpc"
  outcome := o.map TendermintRpcData.values
  tracked := [(.tendermintRpcInvalidUrl, FaultCode.invalidUrl)]
  downtime? := none
  conditions := (o.data?.map TendermintRpcData.conditions).getD []

/-- What came from the sources of a message, in the order in which they are classified. -/
def NodeData.feeds (d : NodeData) : List (Feed Metric) :=
  (d.prometheus.map prometheusFeed).toList ++ (d.cosmosRest.map cosmosRestFeed).toList ++
    (d.tendermintRpc.map tendermintRpcFeed).toList

theorem report_prometheusFeed (o : Outcome PrometheusData) :
    (prometheusFeed o).report = prometheusReport o := by
  cases o with
  | result monitoring data =>
      simp [Feed.report, prometheusFeed, Outcome.map, prometheusReport, Feed.checks,
        Outcome.received?, Outcome.message, PrometheusData.values]
  | fault f => rfl

theorem report_cosmosRestFeed (o : Outcome CosmosRestData) :
    (cosmosRestFeed o).report = cosmosRestReport o := by
  cases o with
  | result monitoring data =>
      simp [Feed.report, cosmosRestFeed, Outcome.map, cosmosRestReport, Feed.checks,
        Outcome.received?, Outcome.message, CosmosRestData.values]
  | fault f => rfl

theorem report_tendermintRpcFeed (o : Outcome TendermintRpcData) :
    (tendermintRpcFeed o).report = tendermintRpcReport o := by
  cases o with
  | result monitoring data =>
      simp [Feed.report, tendermintRpcFeed, Outcome.map, tendermintRpcReport, Feed.checks,
        Outcome.received?, Outcome.message, TendermintRpcData.values]
  | fault f => rfl

theorem reports_eq (d : NodeData) : d.reports = d.feeds.map Feed.report := by
  obtain ⟨prometheus, rest, rpc⟩ := d
  cases prometheus <;> cases rest <;> cases rpc <;>
    simp [NodeData.reports, NodeData.feeds, report_prometheusFeed, report_cosmosRestFeed,
      report_tendermintRpcFeed]

theorem sound_prometheusFeed (o : Outcome PrometheusData) : (prometheusFeed o).Sound where
  nodup := by simp [prometheusFeed]
  code_ne := by simp [prometheusFeed, FaultCode.invalidUrl, FaultCode.metricNotFound,
    FaultCode.nodeIsDown]
  conditions_eq := by
    cases o with
    | result monitoring data =>
        obtain ⟨height, peers, mempool⟩ := data
        cases height <;> cases peers <;> cases mempool <;>
          simp [prometheusFeed, Outcome.map, Outcome.data?, PrometheusData.values, Reading.signal?]
    | fault f => rfl

theorem sound_cosmosRestFeed (o : Outcome CosmosRestData) : (cosmosRestFeed o).Sound where
  nodup := by simp [cosmosRestFeed]
  code_ne := by simp [cosmosRestFeed, FaultCode.invalidUrl, FaultCode.nodeIsDown]
  conditions_eq := by
    cases o with
    | result monitoring data =>
        obtain ⟨slashed, jailed, bond⟩ := data
        cases slashed <;> cases jailed <;> cases bond <;>
          simp [cosmosRestFeed, Outcome.map, Outcome.data?, CosmosRestData.values,
            CosmosRestData.conditions, Reading.signal?]
    | fault f => rfl

theorem sound_tendermintRpcFeed (o : Outcome TendermintRpcData) :
    (tendermintRpcFeed o).Sound where
  nodup := by simp [tendermintRpcFeed]
  code_ne := by simp [tendermintRpcFeed, FaultCode.invalidUrl, FaultCode.nodeIsDown]
  conditions_eq := by
    cases o with
    | result monitoring data =>
        obtain ⟨syncing, missed⟩ := data
        cases syncing <;> cases missed <;>
          simp [tendermintRpcFeed, Outcome.map, Outcome.data?, TendermintRpcData.values,
            TendermintRpcData.conditions, Reading.signal?]
    | fault f => rfl

theorem sound_feeds (d : NodeData) : ∀ x ∈ d.feeds, x.Sound := by
  intro x h
  simp only [NodeData.feeds, List.mem_append, Option.mem_toList, Option.map_eq_some_iff] at h
  obtain (⟨o, -, rfl⟩ | ⟨o, -, rfl⟩) | ⟨o, -, rfl⟩ := h
  · exact sound_prometheusFeed o
  · exact sound_cosmosRestFeed o
  · exact sound_tendermintRpcFeed o

/-- What came from the sources of a message, if it can be read. -/
def feeds? (payload : List UInt8) : Option (List (Feed Metric)) :=
  (readAs? NodeData.reader payload).map NodeData.feeds

theorem reports?_eq (payload : List UInt8) :
    family.reports? payload = (feeds? payload).map (List.map Feed.report) := by
  rw [feeds?, Option.map_map]
  exact congrArg (Option.map · _) (funext reports_eq)

end Cosmos

/-! ## Substrate -/

namespace Substrate

open NodeAlerts.Json

/-- The readings of what the websocket interface tells. -/
def WebsocketData.values (data : WebsocketData) : List (Metric × Reading) :=
  (data.bestHeight.map fun o =>
    (.noChangeInBestBlockHeight, .progress o.current o.previous)).toList ++
  (data.finalizedHeight.map fun o =>
    (.noChangeInFinalizedBlockHeight, .progress o.current o.previous)).toList ++
  (data.noOfPeers.map fun o => (.noOfPeers, .gauge o.current .below false)).toList ++
  (data.isSyncing.map fun o =>
    (.nodeIsSyncing,
      .transition o.current "Node is syncing" "Node is no longer syncing")).toList ++
  (data.slashed.map fun o =>
    (.validatorWasSlashed, .condition o.current.slashed o.current.detail none)).toList

/-- Whether the node is catching up. -/
def WebsocketData.conditions (data : WebsocketData) : List (Metric × Bool) :=
  (data.isSyncing.map fun o => (.nodeIsSyncing, o.current)).toList

/-- What came from the websocket interface. -/
def websocketFeed (o : Outcome WebsocketData) : Feed Metric where
  source := "websocket"
  outcome := o.map WebsocketData.values
  tracked := [(.websocketInvalidUrl, FaultCode.invalidUrl)]
  downtime? := some .nodeIsDown
  conditions := (o.data?.map WebsocketData.conditions).getD []

/-- What came from the single source of a message. -/
def NodeData.feeds (d : NodeData) : List (Feed Metric) := (d.websocket.map websocketFeed).toList

theorem report_websocketFeed (o : Outcome WebsocketData) :
    (websocketFeed o).report = websocketReport o := by
  cases o with
  | result monitoring data =>
      simp [Feed.report, websocketFeed, Outcome.map, websocketReport, Feed.checks,
        Outcome.received?, Outcome.message, WebsocketData.values]
  | fault f => rfl

theorem reports_eq (d : NodeData) : d.reports = d.feeds.map Feed.report := by
  obtain ⟨websocket⟩ := d
  cases websocket <;> simp [NodeData.reports, NodeData.feeds, report_websocketFeed]

theorem sound_websocketFeed (o : Outcome WebsocketData) : (websocketFeed o).Sound where
  nodup := by simp [websocketFeed]
  code_ne := by simp [websocketFeed, FaultCode.invalidUrl, FaultCode.nodeIsDown]
  conditions_eq := by
    cases o with
    | result monitoring data =>
        obtain ⟨best, finalized, peers, syncing, slashed⟩ := data
        cases best <;> cases finalized <;> cases peers <;> cases syncing <;> cases slashed <;>
          simp [websocketFeed, Outcome.map, Outcome.data?, WebsocketData.values,
            WebsocketData.conditions, Reading.signal?]
    | fault f => rfl

theorem sound_feeds (d : NodeData) : ∀ x ∈ d.feeds, x.Sound := by
  intro x h
  simp only [NodeData.feeds, Option.mem_toList, Option.map_eq_some_iff] at h
  obtain ⟨o, -, rfl⟩ := h
  exact sound_websocketFeed o

/-- What came from the single source of a message, if it can be read. -/
def feeds? (payload : List UInt8) : Option (List (Feed Metric)) :=
  (readAs? NodeData.reader payload).map NodeData.feeds

theorem reports?_eq (payload : List UInt8) :
    family.reports? payload = (feeds? payload).map (List.map Feed.report) := by
  rw [feeds?, Option.map_map]
  exact congrArg (Option.map · _) (funext reports_eq)

end Substrate

/-! ## The sample family -/

namespace Sample

open NodeAlerts.Json

/-- What came from the single source of a message. -/
def NodeData.feed (d : NodeData) : Feed Metric where
  source := "value"
  outcome := .result d.monitoring [(.value, .gauge d.value .above false)]
  tracked := []
  downtime? := none
  conditions := []

theorem sound_feed (d : NodeData) : d.feed.Sound where
  nodup := by simp [NodeData.feed]
  code_ne := by simp [NodeData.feed]
  conditions_eq := by simp [NodeData.feed, Outcome.data?, Reading.signal?]

/-- What came from the single source of a message, if it can be read. -/
def feeds? (payload : List UInt8) : Option (List (Feed Metric)) :=
  (readAs? NodeData.reader payload).map fun d => [d.feed]

theorem reports?_eq (payload : List UInt8) :
    family.reports? payload = (feeds? payload).map (List.map Feed.report) := by
  rw [feeds?, Option.map_map]
  rfl

end Sample

/-! ## All families -/

namespace FamilyKind

/-- What came from the sources of a message, if it can be read. -/
def feeds? : (k : FamilyKind) → List UInt8 → Option (List (Feed k.Metric))
  | .cosmos => Cosmos.feeds?
  | .substrate => Substrate.feeds?
  | .sample => Sample.feeds?

/-- **The reports of a message are those of its sources.** -/
theorem reports?_eq (k : FamilyKind) (payload : List UInt8) :
    k.family.reports? payload = (k.feeds? payload).map (List.map Feed.report) := by
  cases k with
  | cosmos => exact Cosmos.reports?_eq payload
  | substrate => exact Substrate.reports?_eq payload
  | sample => exact Sample.reports?_eq payload

variable {k : FamilyKind} {payload : List UInt8} {feeds : List (Feed k.Metric)}

theorem reports?_of_feeds? (h : k.feeds? payload = some feeds) :
    k.family.reports? payload = some (feeds.map Feed.report) := by
  rw [k.reports?_eq, h, Option.map_some]

/-- A message that can be read is processed source by source. -/
theorem process_of_feeds? (h : k.feeds? payload = some feeds) (registry : Registry)
    (store : Store k.Metric) :
    k.family.process registry store payload =
      k.family.processReports registry (feeds.map Feed.report) store := by
  rw [Family.process, reports?_of_feeds? h]

/-- A message that cannot be read changes nothing. -/
theorem process_of_feeds?_eq_none (h : k.feeds? payload = none) (registry : Registry)
    (store : Store k.Metric) :
    k.family.process registry store payload = .ok ⟨store, [], some .malformed⟩ := by
  rw [Family.process, k.reports?_eq, h, Option.map_none]

theorem sound_feeds (h : k.feeds? payload = some feeds) : ∀ x ∈ feeds, x.Sound := by
  cases k with
  | cosmos =>
      obtain ⟨d, -, rfl⟩ := Option.map_eq_some_iff.1 h
      exact Cosmos.sound_feeds d
  | substrate =>
      obtain ⟨d, -, rfl⟩ := Option.map_eq_some_iff.1 h
      exact Substrate.sound_feeds d
  | sample =>
      obtain ⟨d, -, rfl⟩ := Option.map_eq_some_iff.1 h
      intro x hx
      rw [List.mem_singleton.1 hx]
      exact Sample.sound_feed d

end FamilyKind

/-! ## Sources that end a message -/

namespace SourceFault

variable {f : SourceFault}

/-- A failure that ought to tell since when the node is down does not. -/
theorem wentDownAt_eq_error_iff {e : ProcessingError} :
    f.wentDownAt = .error e ↔ f.code = FaultCode.nodeIsDown ∧
      (f.wentDownSeconds? = none ∧ e = .missingField "went_down_at" ∨
        ∃ seconds, f.wentDownSeconds? = some seconds ∧ Instant.ofSeconds? seconds = none ∧
          e = .badTimestamp seconds) := by
  rw [wentDownAt]
  by_cases hcode : f.code = FaultCode.nodeIsDown
  · rw [if_pos hcode]
    cases hseconds : f.wentDownSeconds? with
    | none =>
        constructor
        · rintro ⟨⟩
          exact ⟨hcode, Or.inl ⟨rfl, rfl⟩⟩
        · rintro ⟨-, ⟨-, rfl⟩ | ⟨seconds, h, -⟩⟩
          · rfl
          · cases h
    | some seconds =>
        cases hdate : Instant.ofSeconds? seconds with
        | none =>
            simp only [hdate]
            constructor
            · rintro ⟨⟩
              exact ⟨hcode, Or.inr ⟨seconds, rfl, hdate, rfl⟩⟩
            · rintro ⟨-, ⟨h, -⟩ | ⟨_, ⟨⟩, -, rfl⟩⟩
              · cases h
              · rfl
        | some t =>
            simp only [hdate]
            refine iff_of_false (by simp) ?_
            rintro ⟨-, ⟨h, -⟩ | ⟨_, ⟨⟩, hnone, -⟩⟩
            · cases h
            · rw [hdate] at hnone
              cases hnone
  · rw [if_neg hcode]
    exact iff_of_false (by simp) fun h => hcode h.1

end SourceFault

namespace Feed

variable {M : Type} {x : Feed M} {registry : Registry}

/-- A source ends the message, whose chain is configured. -/
inductive Ends (x : Feed M) (registry : Registry) : ProcessingError → Prop where
  /-- Its time of monitoring is outside the calendar. -/
  | untimed {config : ChainConfig}
      (hconfig : registry.configFor? x.monitoring.origin.parentId = some config)
      (htime : Instant.ofSeconds? x.monitoring.lastMonitored = none) :
      Ends x registry (.badTimestamp x.monitoring.lastMonitored)
  /-- Its failure does not tell since when the node is down. -/
  | undated {config : ChainConfig} {now : Instant} {m : M} {f : SourceFault}
      (hconfig : registry.configFor? x.monitoring.origin.parentId = some config)
      (htime : Instant.ofSeconds? x.monitoring.lastMonitored = some now)
      (hdowntime : x.downtime? = some m) (houtcome : x.outcome = .fault f)
      (hcode : f.code = FaultCode.nodeIsDown) (hseconds : f.wentDownSeconds? = none) :
      Ends x registry (.missingField "went_down_at")
  /-- The node is down since a time outside the calendar. -/
  | misdated {config : ChainConfig} {now : Instant} {m : M} {f : SourceFault} {seconds : Float}
      (hconfig : registry.configFor? x.monitoring.origin.parentId = some config)
      (htime : Instant.ofSeconds? x.monitoring.lastMonitored = some now)
      (hdowntime : x.downtime? = some m) (houtcome : x.outcome = .fault f)
      (hcode : f.code = FaultCode.nodeIsDown) (hseconds : f.wentDownSeconds? = some seconds)
      (hdate : Instant.ofSeconds? seconds = none) : Ends x registry (.badTimestamp seconds)

@[simp] theorem monitoring_report : x.report.monitoring = x.monitoring := by
  rw [report, monitoring]
  cases x.outcome with
  | result monitoring values => rfl
  | fault f =>
      cases x.downtime? with
      | none => rfl
      | some m =>
          simp only [SourceFault.report]
          cases f.wentDownAt with
          | error e => rfl
          | ok t => cases t <;> rfl

/-- What is wrong with a report is that a failure does not tell since when the node is down. -/
theorem defect_report_eq_some_iff {e : ProcessingError} :
    x.report.defect = some e ↔
      ∃ f m, x.outcome = .fault f ∧ x.downtime? = some m ∧ f.wentDownAt = .error e := by
  rw [report]
  cases x.outcome with
  | result monitoring values => simp
  | fault f =>
      cases x.downtime? with
      | none => simp
      | some m =>
          simp only [SourceFault.report]
          cases hdown : f.wentDownAt with
          | error e' =>
              constructor
              · rintro ⟨⟩
                exact ⟨f, m, rfl, rfl, hdown⟩
              · rintro ⟨_, _, ⟨⟩, ⟨⟩, h⟩
                rw [hdown] at h
                cases h
                rfl
          | ok t =>
              have hnone : ¬ ∃ f' m', (Outcome.fault f : Outcome (List (M × Reading))) =
                  .fault f' ∧ some m = some m' ∧ f'.wentDownAt = .error e := by
                rintro ⟨_, _, ⟨⟩, ⟨⟩, h⟩
                rw [hdown] at h
                cases h
              cases t with
              | none => exact iff_of_false (by simp) hnone
              | some t => exact iff_of_false (by simp) hnone

theorem ends_iff {e : ProcessingError} :
    x.Ends registry e ↔ ∃ config,
      registry.configFor? x.monitoring.origin.parentId = some config ∧
        (x.monitoring.timestamp = .error e ∨
          (∃ now, x.monitoring.timestamp = .ok now) ∧ x.report.defect = some e) := by
  rw [Monitoring.timestamp]
  constructor
  · rintro (⟨hconfig, htime⟩ | ⟨hconfig, htime, hdowntime, houtcome, hcode, hseconds⟩ |
      ⟨hconfig, htime, hdowntime, houtcome, hcode, hseconds, hdate⟩)
    · exact ⟨_, hconfig, Or.inl (by rw [htime])⟩
    · have hdown := SourceFault.wentDownAt_eq_error_iff.2 ⟨hcode, Or.inl ⟨hseconds, rfl⟩⟩
      exact ⟨_, hconfig, Or.inr ⟨⟨_, by rw [htime]⟩,
        defect_report_eq_some_iff.2 ⟨_, _, houtcome, hdowntime, hdown⟩⟩⟩
    · have hdown := SourceFault.wentDownAt_eq_error_iff.2
        ⟨hcode, Or.inr ⟨_, hseconds, hdate, rfl⟩⟩
      exact ⟨_, hconfig, Or.inr ⟨⟨_, by rw [htime]⟩,
        defect_report_eq_some_iff.2 ⟨_, _, houtcome, hdowntime, hdown⟩⟩⟩
  · rintro ⟨config, hconfig, hends⟩
    cases htime : Instant.ofSeconds? x.monitoring.lastMonitored with
    | none =>
        rw [htime] at hends
        rcases hends with h | ⟨⟨now, h⟩, -⟩
        · cases h
          exact .untimed hconfig htime
        · cases h
    | some now =>
        rw [htime] at hends
        rcases hends with h | ⟨-, hdefect⟩
        · cases h
        · obtain ⟨f, m, houtcome, hdowntime, hdown⟩ := defect_report_eq_some_iff.1 hdefect
          obtain ⟨hcode, ⟨hseconds, rfl⟩ | ⟨seconds, hseconds, hdate, rfl⟩⟩ :=
            SourceFault.wentDownAt_eq_error_iff.1 hdown
          · exact .undated hconfig htime hdowntime houtcome hcode hseconds
          · exact .misdated hconfig htime hdowntime houtcome hcode hseconds hdate

/-- A source lets the next one be looked at if it does not end the message. -/
theorem passes_report_iff : x.report.Passes registry ↔ ∀ e, ¬ x.Ends registry e := by
  simp only [ends_iff, Report.Passes, monitoring_report]
  cases hconfig : registry.configFor? x.monitoring.origin.parentId with
  | none => simp
  | some config =>
      cases htime : x.monitoring.timestamp with
      | error e => simp
      | ok now => simp [Option.eq_none_iff_forall_ne_some]

end Feed

end NodeAlerts
