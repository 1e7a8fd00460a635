import NodeAlerts.Config.Registry
import NodeAlerts.Family.Basic
import NodeAlerts.State.Store

/-!
# Processing a message about a node

`Family.process` classifies the reports of a message one after another.  Reports about chains
without a configuration are passed over.  The first failure ends the message; findings and states
from before it are kept.
-/

namespace NodeAlerts

/-- The outcome of classifying readings of one node. -/
structure Batch (M : Type) where
  /-- The state of the node afterwards. -/
  node : NodeState M
  /-- What was found, in order. -/
  findings : List (Finding M)
  /-- What ended the batch early, if anything did. -/
  failure : Option ProcessingError

/-- The outcome of processing a message. -/
structure Processed (M : Type) where
  /-- The states of all nodes afterwards. -/
  store : Store M
  /-- What was found, in order. -/
  findings : List (Finding M)
  /-- What ended the message early, if anything did. -/
  failure : Option ProcessingError

namespace Family

variable {M : Type} [DecidableEq M]

/-- Classifies one reading of a node, if its metric is enabled. -/
def classifyOne (f : Family M) (config : ChainConfig) (origin : Origin) (now : Instant)
    (node : NodeState M) (m : M) (r : Reading) : Except Overrun (Batch M) :=
  match config.enabled? (f.metricName m) with
  | none => .ok ⟨node, [], none⟩
  | some c =>
    match node.get? m with
    | none => .ok ⟨node, [], some (.missingState origin.originId (f.metricName m))⟩
    | some s => do
      let step ← r.classify c now s
      return ⟨node.set m step.state, step.events.map (Finding.mk origin now m), none⟩

/-- Classifies readings of a node until one fails. -/
def classifyAll (f : Family M) (config : ChainConfig) (origin : Origin) (now : Instant) :
    List (M × Reading) → NodeState M → Except Overrun (Batch M)
  | [], node => .ok ⟨node, [], none⟩
  | (m, r) :: rest, node => do
    let one ← f.classifyOne config origin now node m r
    match one.failure with
    | some _ => return one
    | none =>
      let others ← f.classifyAll config origin now rest one.node
      return { others with findings := one.findings ++ others.findings }

/-- The state of a node, as far as it was classified before. -/
def nodeState (f : Family M) (config : ChainConfig) (store : Store M) (origin : Origin) :
    NodeState M :=
  (store.node? origin.parentId origin.originId).getD (NodeState.new f.metrics f.metricName config)

/-- Classifies one report. -/
def processReport (f : Family M) (registry : Registry) (store : Store M) (report : Report M) :
    Except Overrun (Processed M) :=
  let origin := report.monitoring.origin
  match registry.configFor? origin.parentId with
  | none => .ok ⟨store, [], none⟩
  | some config =>
    match report.monitoring.timestamp with
    | .error e => .ok ⟨store, [], some e⟩
    | .ok now => do
      let batch ← f.classifyAll config origin now report.readings (f.nodeState config store origin)
      return ⟨store.setNode origin.parentId origin.originId batch.node, batch.findings,
        batch.failure.or report.defect⟩

/-- Classifies reports until one fails. -/
def processReports (f : Family M) (registry : Registry) :
    List (Report M) → Store M → Except Overrun (Processed M)
  | [], store => .ok ⟨store, [], none⟩
  | report :: rest, store => do
    let one ← f.processReport registry store report
    match one.failure with
    | some _ => return one
    | none =>
      let others ← f.processReports registry rest one.store
      return { others with findings := one.findings ++ others.findings }

/-- Processes a message about a node. -/
def process (f : Family M) (registry : Registry) (store : Store M) (payload : List UInt8) :
    Except Overrun (Processed M) :=
  match f.reports? payload with
  | none => .ok ⟨store, [], some .malformed⟩
  | some reports => f.processReports registry reports store

end Family

end NodeAlerts
