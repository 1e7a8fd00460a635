import NodeAlerts.Family.Wording
import NodeAlerts.Source.Slashing

/-!
# Substrate nodes

Nodes of Substrate chains are monitored at one source, their websocket interface.
-/

namespace NodeAlerts.Substrate

open NodeAlerts.Json

/-! ## Metrics -/

/-- The metrics of a Substrate node. -/
inductive Metric where
  /-- Whether the node is down. -/
  | nodeIsDown
  /-- Whether the address of the interface is invalid. -/
  | websocketInvalidUrl
  /-- Whether the height of the best block stays the same. -/
  | noChangeInBestBlockHeight
  /-- Whether the height of the finalized block stays the same. -/
  | noChangeInFinalizedBlockHeight
  /-- The number of peers. -/
  | noOfPeers
  /-- Whether the node is catching up. -/
  | nodeIsSyncing
  /-- Whether the validator was slashed. -/
  | validatorWasSlashed
  deriving Repr, DecidableEq, Inhabited

namespace Metric

/-- All metrics. -/
def all : List Metric :=
  [nodeIsDown, websocketInvalidUrl, noChangeInBestBlockHeight, noChangeInFinalizedBlockHeight,
    noOfPeers, nodeIsSyncing, validatorWasSlashed]

theorem mem_all (m : Metric) : m ∈ all := by cases m <;> decide

/-- The name of a metric in configurations and alerts. -/
def name : Metric → String
  | .nodeIsDown => "node_is_down"
  | .websocketInvalidUrl => "websocket_invalid_url"
  | .noChangeInBestBlockHeight => "no_change_in_best_block_height"
  | .noChangeInFinalizedBlockHeight => "no_change_in_finalized_block_height"
  | .noOfPeers => "no_of_peers"
  | .nodeIsSyncing => "node_is_syncing"
  | .validatorWasSlashed => "validator_was_slashed"

/-- The name of a metric for readers. -/
def label : Metric → String
  | .nodeIsDown => "Node"
  | .websocketInvalidUrl => "Invalid websocket URL"
  | .noChangeInBestBlockHeight => "Best block height"
  | .noChangeInFinalizedBlockHeight => "Finalized block height"
  | .noOfPeers => "Number of peers"
  | .nodeIsSyncing => "Syncing"
  | .validatorWasSlashed => "Validator"

/-- The types of alert of a metric. -/
def alertTypes : Metric → AlertTypes
  | .nodeIsDown =>
    { raised := ⟨1, "NodeWentDownAtAlert"⟩
      resolved := ⟨2, "NodeBackUpAgainAlert"⟩
      stillDown := ⟨3, "NodeStillDownAlert"⟩ }
  | .websocketInvalidUrl =>
    { raised := ⟨4, "WebsocketInvalidUrlAlert"⟩
      resolved := ⟨5, "WebsocketValidUrlAlert"⟩ }
  | .noChangeInBestBlockHeight =>
    { raised := ⟨6, "NoChangeInBestBlockHeightAlert"⟩
      resolved := ⟨7, "BestBlockHeightUpdatedAlert"⟩ }
  | .noChangeInFinalizedBlockHeight =>
    { raised := ⟨8, "NoChangeInFinalizedBlockHeightAlert"⟩
      resolved := ⟨9, "FinalizedBlockHeightUpdatedAlert"⟩ }
  | .noOfPeers =>
    { raised := ⟨10, "PeersDecreasedBelowThresholdAlert"⟩
      resolved := ⟨11, "PeersIncreasedAboveThresholdAlert"⟩ }
  | .nodeIsSyncing =>
    { raised := ⟨12, "NodeIsSyncingAlert"⟩
      resolved := ⟨13, "NodeIsNoLongerSyncingAlert"⟩ }
  | .validatorWasSlashed =>
    { raised := ⟨14, "ValidatorWasSlashedAlert"⟩
      resolved := ⟨14, "ValidatorWasSlashedAlert"⟩ }

end Metric

/-! ## Messages -/

/-- What the websocket interface tells about a node. -/
structure WebsocketData where
  /-- The height of the best block. -/
  bestHeight : Option (Observed Float)
  /-- The height of the finalized block. -/
  finalizedHeight : Option (Observed Float)
  /-- The number of peers. -/
  noOfPeers : Option (Observed Float)
  /-- Whether the node is catching up. -/
  isSyncing : Option (Observed Bool)
  /-- Whether the validator was slashed in the last round. -/
  slashed : Option (Observed Slashing)

/-- A message about a Substrate node. -/
structure NodeData where
  /-- The outcome of the websocket interface. -/
  websocket : Option (Outcome WebsocketData)

/-- Reads what the websocket interface tells. -/
def WebsocketData.reader : Reader WebsocketData := Row.read do
  let bestHeight ← Row.nullable ["best_height"] (Observed.reader Reader.float)
  let finalizedHeight ← Row.nullable ["finalized_height"] (Observed.reader Reader.float)
  let noOfPeers ← Row.nullable ["no_of_peers"] (Observed.reader Reader.float)
  let isSyncing ← Row.nullable ["is_syncing"] (Observed.reader Reader.bool)
  let slashed ← Row.nullable ["slashed"] (Observed.reader Slashing.reader)
  return { bestHeight, finalizedHeight, noOfPeers, isSyncing, slashed }

/-- Reads a message. -/
def NodeData.reader : Reader NodeData := Row.read do
  let websocket ← Row.nullable ["websocket"] (Outcome.reader WebsocketData.reader)
  return { websocket }

/-! ## Readings -/

/-- The readings of the websocket interface: a tracked error, downtime, and what it tells about the
node. -/
def websocketReport : Outcome WebsocketData → Report Metric
  | .result monitoring data =>
    { source := "websocket"
      monitoring
      readings :=
        [(.websocketInvalidUrl, .fault FaultCode.invalidUrl none ""),
          (.nodeIsDown, .downtime none)] ++
        (data.bestHeight.map fun o =>
          (.noChangeInBestBlockHeight, .progress o.current o.previous)).toList ++
        (data.finalizedHeight.map fun o =>
          (.noChangeInFinalizedBlockHeight, .progress o.current o.previous)).toList ++
        (data.noOfPeers.map fun o => (.noOfPeers, .gauge o.current .below false)).toList ++
        (data.isSyncing.map fun o =>
          (.nodeIsSyncing,
            .transition o.current "Node is syncing" "Node is no longer syncing")).toList ++
        (data.slashed.map fun o =>
          (.validatorWasSlashed, .condition o.current.slashed o.current.detail none)).toList
      defect := none }
  | .fault f =>
    let tracked : List (Metric × Reading) :=
      [(.websocketInvalidUrl, .fault FaultCode.invalidUrl (some f.code) f.message)]
    match f.wentDownAt with
    | .ok none => ⟨"websocket", f.monitoring, tracked, none⟩
    | .ok (some t) =>
      ⟨"websocket", f.monitoring, tracked ++ [(.nodeIsDown, .downtime (some t))], none⟩
    | .error e => ⟨"websocket", f.monitoring, tracked, some e⟩

/-- The reports in a message. -/
def NodeData.reports (d : NodeData) : List (Report Metric) :=
  (d.websocket.map websocketReport).toList

/-- The family of Substrate chains. -/
def family : Family Metric where
  name := "substrate"
  component := "Substrate Node Alerter"
  metrics := Metric.all
  metricName := Metric.name
  code m event := (m.alertTypes.of event).code "substrate"
  message m event origin := event.text m.label origin
  extra := Event.measures
  reports? payload := (readAs? NodeData.reader payload).map NodeData.reports

end NodeAlerts.Substrate
