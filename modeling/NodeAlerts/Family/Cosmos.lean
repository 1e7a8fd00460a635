import NodeAlerts.Family.Wording
import NodeAlerts.Source.Slashing

/-!
# Cosmos nodes

Nodes of Cosmos chains are monitored at three sources: Prometheus, the Cosmos REST interface and the
Tendermint RPC interface.  A message carries the outcomes of any of them.
-/

namespace NodeAlerts.Cosmos

open NodeAlerts.Json

/-! ## Metrics -/

/-- The metrics of a Cosmos node. -/
inductive Metric where
  /-- Whether the node is down. -/
  | nodeIsDown
  /-- Whether the address of Prometheus is invalid. -/
  | prometheusInvalidUrl
  /-- Whether a metric is missing at Prometheus. -/
  | prometheusMetricNotFound
  /-- Whether the block height stays the same. -/
  | noChangeInHeight
  /-- The number of peers. -/
  | noOfPeers
  /-- The number of waiting transactions. -/
  | mempoolSize
  /-- Whether the address of the REST interface is invalid. -/
  | cosmosRestInvalidUrl
  /-- Whether the validator was slashed. -/
  | validatorWasSlashed
  /-- Whether the validator is jailed. -/
  | validatorIsJailed
  /-- Whether the validator is outside the active set. -/
  | validatorIsNotActive
  /-- Whether the address of the RPC interface is invalid. -/
  | tendermintRpcInvalidUrl
  /-- Whether the node is catching up. -/
  | nodeIsSyncing
  /-- The blocks that the validator missed. -/
  | blocksMissed
  deriving Repr, DecidableEq, Inhabited

namespace Metric

/-- All metrics. -/
def all : List Metric :=
  [nodeIsDown, prometheusInvalidUrl, prometheusMetricNotFound, noChangeInHeight, noOfPeers,
    mempoolSize, cosmosRestInvalidUrl, validatorWasSlashed, validatorIsJailed, validatorIsNotActive,
    tendermintRpcInvalidUrl, nodeIsSyncing, blocksMissed]

theorem mem_all (m : Metric) : m ∈ all := by cases m <;> decide

/-- The name of a metric in configurations and alerts. -/
def name : Metric → String
  | .nodeIsDown => "node_is_down"
  | .prometheusInvalidUrl => "prometheus_invalid_url"
  | .prometheusMetricNotFound => "prometheus_metric_not_found"
  | .noChangeInHeight => "no_change_in_height"
  | .noOfPeers => "no_of_peers"
  | .mempoolSize => "mempool_size"
  | .cosmosRestInvalidUrl => "cosmos_rest_invalid_url"
  | .validatorWasSlashed => "validator_was_slashed"
  | .validatorIsJailed => "validator_is_jailed"
  | .validatorIsNotActive => "validator_is_not_active"
  | .tendermintRpcInvalidUrl => "tendermint_rpc_invalid_url"
  | .nodeIsSyncing => "node_is_syncing"
  | .blocksMissed => "blocks_missed"

/-- The name of a metric for readers. -/
def label : Metric → String
  | .nodeIsDown => "Node"
  | .prometheusInvalidUrl => "Invalid Prometheus URL"
  | .prometheusMetricNotFound => "Prometheus metric not found"
  | .noChangeInHeight => "Block height"
  | .noOfPeers => "Number of peers"
  | .mempoolSize => "Mempool size"
  | .cosmosRestInvalidUrl => "Invalid Cosmos REST URL"
  | .validatorWasSlashed => "Validator"
  | .validatorIsJailed => "Validator"
  | .validatorIsNotActive => "Validator"
  | .tendermintRpcInvalidUrl => "Invalid Tendermint RPC URL"
  | .nodeIsSyncing => "Syncing"
  | .blocksMissed => "blocks missed"

/-- The types of alert of a metric. -/
def alertTypes : Metric → AlertTypes
  | .nodeIsDown =>
    { raised := ⟨1, "NodeWentDownAtAlert"⟩
      resolved := ⟨2, "NodeBackUpAgainAlert"⟩
      stillDown := ⟨3, "NodeStillDownAlert"⟩ }
  | .prometheusInvalidUrl =>
    { raised := ⟨4, "PrometheusInvalidUrlAlert"⟩
      resolved := ⟨5, "PrometheusValidUrlAlert"⟩ }
  | .prometheusMetricNotFound =>
    { raised := ⟨6, "MetricNotFoundErrorAlert"⟩
      resolved := ⟨7, "MetricFoundAlert"⟩ }
  | .noChangeInHeight =>
    { raised := ⟨8, "NoChangeInHeightAlert"⟩
      resolved := ⟨9, "BlockHeightUpdatedAlert"⟩ }
  | .noOfPeers =>
    { raised := ⟨10, "PeersDecreasedBelowThresholdAlert"⟩
      resolved := ⟨11, "PeersIncreasedAboveThresholdAlert"⟩ }
  | .mempoolSize =>
    { raised := ⟨12, "MempoolSizeIncreasedAboveThresholdAlert"⟩
      resolved := ⟨13, "MempoolSizeDecreasedBelowThresholdAlert"⟩ }
  | .cosmosRestInvalidUrl =>
    { raised := ⟨14, "CosmosRestInvalidUrlAlert"⟩
      resolved := ⟨15, "CosmosRestValidUrlAlert"⟩ }
  | .validatorWasSlashed =>
    { raised := ⟨16, "ValidatorWasSlashedAlert"⟩
      resolved := ⟨16, "ValidatorWasSlashedAlert"⟩ }
  | .validatorIsJailed =>
    { raised := ⟨17, "ValidatorIsJailedAlert"⟩
      resolved := ⟨18, "ValidatorIsNoLongerJailedAlert"⟩ }
  | .validatorIsNotActive =>
    { raised := ⟨19, "ValidatorIsNotActiveAlert"⟩
      resolved := ⟨20, "ValidatorIsActiveAlert"⟩ }
  | .tendermintRpcInvalidUrl =>
    { raised := ⟨21, "TendermintRpcInvalidUrlAlert"⟩
      resolved := ⟨22, "TendermintRpcValidUrlAlert"⟩ }
  | .nodeIsSyncing =>
    { raised := ⟨23, "NodeIsSyncingAlert"⟩
      resolved := ⟨24, "NodeIsNoLongerSyncingAlert"⟩ }
  | .blocksMissed =>
    { raised := ⟨25, "BlocksMissedIncreasedAboveThresholdAlert"⟩
      resolved := ⟨26, "BlocksMissedDecreasedBelowThresholdAlert"⟩ }

end Metric

/-! ## Messages -/

/-- Whether a validator takes part in consensus. -/
inductive BondStatus where
  /-- In the active set. -/
  | bonded
  /-- Leaving the active set. -/
  | unbonding
  /-- Outside the active set. -/
  | unbonded
  deriving Repr, DecidableEq, Inhabited

namespace BondStatus

/-- The status with the given name in messages. -/
def ofName? : String → Option BondStatus
  | "bonded" => some .bonded
  | "unbonding" => some .unbonding
  | "unbonded" => some .unbonded
  | _ => none

/-- The name of a status for readers. -/
def label : BondStatus → String
  | .bonded => "Bonded"
  | .unbonding => "Unbonding"
  | .unbonded => "Unbonded"

end BondStatus

/-- What Prometheus tells about a node. -/
structure PrometheusData where
  /-- The block height. -/
  currentHeight : Option (Observed Float)
  /-- The number of peers. -/
  noOfPeers : Option (Observed Float)
  /-- The number of waiting transactions. -/
  mempoolSize : Option (Observed Float)

/-- What the REST interface tells about a validator. -/
structure CosmosRestData where
  /-- Whether it was slashed in the last round. -/
  slashed : Option (Observed Slashing)
  /-- Whether it is jailed. -/
  jailed : Option (Observed Bool)
  /-- Whether it takes part in consensus. -/
  bondStatus : Option (Observed BondStatus)

/-- What the RPC interface tells about a node. -/
structure TendermintRpcData where
  /-- Whether the node is catching up. -/
  isSyncing : Option (Observed Bool)
  /-- The blocks that the validator missed so far. -/
  missedBlocks : Option (Observed Float)

/-- A message about a Cosmos node. -/
structure NodeData where
  /-- The outcome of Prometheus. -/
  prometheus : Option (Outcome PrometheusData)
  /-- The outcome of the REST interface. -/
  cosmosRest : Option (Outcome CosmosRestData)
  /-- The outcome of the RPC interface. -/
  tendermintRpc : Option (Outcome TendermintRpcData)

/-- Reads what Prometheus tells. -/
def PrometheusData.reader : Reader PrometheusData := Row.read do
  let currentHeight ← Row.nullable ["current_height"] (Observed.reader Reader.float)
  let noOfPeers ← Row.nullable ["no_of_peers"] (Observed.reader Reader.float)
  let mempoolSize ← Row.nullable ["mempool_size"] (Observed.reader Reader.float)
  return { currentHeight, noOfPeers, mempoolSize }

/-- Reads what the REST interface tells. -/
def CosmosRestData.reader : Reader CosmosRestData := Row.read do
  let slashed ← Row.nullable ["slashed"] (Observed.reader Slashing.reader)
  let jailed ← Row.nullable ["jailed"] (Observed.reader Reader.bool)
  let bondStatus ← Row.nullable ["bond_status"] (Observed.reader (Reader.choice BondStatus.ofName?))
  return { slashed, jailed, bondStatus }

/-- Reads what the RPC interface tells. -/
def TendermintRpcData.reader : Reader TendermintRpcData := Row.read do
  let isSyncing ← Row.nullable ["is_syncing"] (Observed.reader Reader.bool)
  let missedBlocks ← Row.nullable ["missed_blocks"] (Observed.reader Reader.float)
  return { isSyncing, missedBlocks }

/-- Reads a message. -/
def NodeData.reader : Reader NodeData := Row.read do
  let prometheus ← Row.nullable ["prometheus"] (Outcome.reader PrometheusData.reader)
  let cosmosRest ← Row.nullable ["cosmos_rest"] (Outcome.reader CosmosRestData.reader)
  let tendermintRpc ← Row.nullable ["tendermint_rpc"] (Outcome.reader TendermintRpcData.reader)
  return { prometheus, cosmosRest, tendermintRpc }

/-! ## Readings -/

/-- The readings of Prometheus: two tracked errors, downtime, and the values it gives. -/
def prometheusReport : Outcome PrometheusData → Report Metric
  | .result monitoring data =>
    { source := "prometheus"
      monitoring
      readings :=
        [(.prometheusInvalidUrl, .fault FaultCode.invalidUrl none ""),
          (.prometheusMetricNotFound, .fault FaultCode.metricNotFound none ""),
          (.nodeIsDown, .downtime none)] ++
        (data.currentHeight.map fun o =>
          (.noChangeInHeight, .progress o.current o.previous)).toList ++
        (data.noOfPeers.map fun o => (.noOfPeers, .gauge o.current .below false)).toList ++
        (data.mempoolSize.map fun o => (.mempoolSize, .gauge o.current .above true)).toList
      defect := none }
  | .fault f =>
    let tracked : List (Metric × Reading) :=
      [(.prometheusInvalidUrl, .fault FaultCode.invalidUrl (some f.code) f.message),
        (.prometheusMetricNotFound, .fault FaultCode.metricNotFound (some f.code) f.message)]
    match f.wentDownAt with
    | .ok none => ⟨"prometheus", f.monitoring, tracked, none⟩
    | .ok (some t) =>
      ⟨"prometheus", f.monitoring, tracked ++ [(.nodeIsDown, .downtime (some t))], none⟩
    | .error e => ⟨"prometheus", f.monitoring, tracked, some e⟩

/-- The readings of the REST interface: a tracked error and the state of the validator. -/
def cosmosRestReport : Outcome CosmosRestData → Report Metric
  | .result monitoring data =>
    { source := "cosmos_rest"
      monitoring
      readings :=
        [(.cosmosRestInvalidUrl, .fault FaultCode.invalidUrl none "")] ++
        (data.slashed.map fun o =>
          (.validatorWasSlashed, .condition o.current.slashed o.current.detail none)).toList ++
        (data.jailed.map fun o =>
          (.validatorIsJailed,
            .transition o.current "Validator is jailed" "Validator is no longer jailed")).toList ++
        (data.bondStatus.map fun o =>
          (.validatorIsNotActive,
            .transition (o.current ≠ .bonded)
              ("Validator is not active, bond status is " ++ o.current.label)
              "Validator is active again")).toList
      defect := none }
  | .fault f =>
    ⟨"cosmos_rest", f.monitoring,
      [(.cosmosRestInvalidUrl, .fault FaultCode.invalidUrl (some f.code) f.message)], none⟩

/-- The readings of the RPC interface: a tracked error, and what it tells about the node. -/
def tendermintRpcReport : Outcome TendermintRpcData → Report Metric
  | .result monitoring data =>
    { source := "tendermint_rpc"
      monitoring
      readings :=
        [(.tendermintRpcInvalidUrl, .fault FaultCode.invalidUrl none "")] ++
        (data.isSyncing.map fun o =>
          (.nodeIsSyncing,
            .transition o.current "Node is syncing" "Node is no longer syncing")).toList ++
        (data.missedBlocks.map fun o => (.blocksMissed, .counter o.current o.previous)).toList
      defect := none }
  | .fault f =>
    ⟨"tendermint_rpc", f.monitoring,
      [(.tendermintRpcInvalidUrl, .fault FaultCode.invalidUrl (some f.code) f.message)], none⟩

/-- The reports in a message, in the order in which they are classified. -/
def NodeData.reports (d : NodeData) : List (Report Metric) :=
  (d.prometheus.map prometheusReport).toList ++ (d.cosmosRest.map cosmosRestReport).toList ++
    (d.tendermintRpc.map tendermintRpcReport).toList

/-- The family of Cosmos chains. -/
def family : Family Metric where
  name := "cosmos"
  component := "Cosmos Node Alerter"
  metrics := Metric.all
  metricName := Metric.name
  code m event := (m.alertTypes.of event).code "cosmos"
  message m event origin := event.text m.label origin
  extra := Event.measures
  reports? payload := (readAs? NodeData.reader payload).map NodeData.reports

end NodeAlerts.Cosmos
