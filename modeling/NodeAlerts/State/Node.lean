import NodeAlerts.Config.Chain
import NodeAlerts.State.Metric

/-!
# What is remembered about a node

A `NodeState` holds the state of the metrics of one node that are configured for its chain, in the
order of their family.
-/

namespace NodeAlerts

universe u

/-- The states of the metrics of one node. -/
structure NodeState (M : Type u) where
  /-- The configured metrics with their states. -/
  metrics : List (M × MetricState)
  deriving Inhabited

namespace NodeState

variable {M : Type u} [DecidableEq M]

/-- The state of a node at the start: one for each of the family's metrics that is configured,
enabled or not. -/
def new (family : List M) (name : M → String) (config : ChainConfig) : NodeState M :=
  ⟨family.filterMap fun m => (config.metric? (name m)).map fun c => (m, MetricState.new c)⟩

/-- The state of a metric. -/
def get? (n : NodeState M) (m : M) : Option MetricState :=
  (n.metrics.find? fun e => e.1 = m).map (·.2)

/-- Replaces the state of a metric. -/
def set (n : NodeState M) (m : M) (s : MetricState) : NodeState M :=
  ⟨n.metrics.map fun e => if e.1 = m then (m, s) else e⟩

end NodeState

end NodeAlerts
