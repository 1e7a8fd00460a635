import NodeAlerts.Config.Metric

/-!
# The alerts configuration of a chain

A configuration document is an object of sections.  The section `DEFAULT` is passed over; the others
are read in the order of their keys, and all have to name the same chain.  Of two sections for one
metric the later counts.  A document without sections asks for the removal of the configuration.
-/

namespace NodeAlerts

open NodeAlerts.Json

/-- The alerts configuration of one chain. -/
structure ChainConfig where
  /-- The chain. -/
  parentId : String
  /-- The configuration of each metric, by its name. -/
  metrics : Table MetricConfig
  deriving Inhabited

namespace ChainConfig

/-- The configuration with these metrics; of two with one name the later counts. -/
def ofMetrics (parentId : String) (metrics : List MetricConfig) : ChainConfig :=
  ⟨parentId, Table.ofList (metrics.map fun m => (m.name, m))⟩

/-- The key of the section that is passed over. -/
def defaultSection : String := "DEFAULT"

/-- Reads one section. -/
def readSection (key : String) (value : Value) : Except ConfigError MetricConfig :=
  match value with
  | .object members => MetricConfig.ofSection key (Table.ofList members)
  | _ => .error (.notAnObject key)

/-- Reads a further section into the configuration of the sections before it. -/
def addSection (config : Option ChainConfig) (entry : String × Value) :
    Except ConfigError (Option ChainConfig) := do
  let metric ← readSection entry.1 entry.2
  match config with
  | none => return some ⟨metric.parentId, (∅ : Table MetricConfig).insert metric.name metric⟩
  | some config =>
    if config.parentId = metric.parentId then
      return some { config with metrics := config.metrics.insert metric.name metric }
    else throw (.conflictingParents config.parentId metric.parentId)

/-- Reads a document; there is no configuration in a document without sections. -/
def ofDocument (document : Object) : Except ConfigError (Option ChainConfig) :=
  (document.erase defaultSection).entries.foldlM addSection none

/-- The configuration of a metric. -/
def metric? (c : ChainConfig) (name : String) : Option MetricConfig := c.metrics.get? name

/-- The configuration of a metric that is enabled. -/
def enabled? (c : ChainConfig) (name : String) : Option MetricConfig :=
  (c.metric? name).filter (·.enabled)

end ChainConfig

end NodeAlerts
