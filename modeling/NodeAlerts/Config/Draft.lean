import NodeAlerts.Config.Chain

/-!
# Writing configuration documents

`ChainDraft.document` writes a configuration as the document that configures it: every field a text,
the sections numbered from zero, and a `DEFAULT` section beside them.  `MetricConfig.draft` is the
configuration of a metric to start from.
-/

namespace NodeAlerts

open NodeAlerts.Json NodeAlerts.Double

namespace MetricConfig

/-- The configuration from which drafts start: both levels are enabled with thresholds of zero and
without windows. -/
def draft (name parentId : String) : MetricConfig where
  name
  parentId
  enabled := true
  warning := ⟨true, 0, Span.zero⟩
  critical := ⟨true, 0, Span.zero⟩
  repeats := false
  repeatInterval := Span.zero
  severity := none

/-- A truth value as a field. -/
def flagText (b : Bool) : String := if b then "true" else "false"

/-- A length of time as a field: its seconds, from whole milliseconds. -/
def secondsText (s : Span) : String := plainText (ofInt s.millis / 1000)

/-- The section of a metric of the chain `parentId`. -/
def toSection (c : MetricConfig) (parentId : String) : Object :=
  let fields : List (String × String) :=
    [("name", c.name), ("parent_id", parentId), ("enabled", flagText c.enabled),
      ("warning_enabled", flagText c.warning.enabled),
      ("warning_threshold", plainText c.warning.threshold),
      ("critical_enabled", flagText c.critical.enabled),
      ("critical_threshold", plainText c.critical.threshold),
      ("critical_repeat_enabled", flagText c.repeats),
      ("critical_repeat", secondsText c.repeatInterval),
      ("warning_time_window", secondsText c.warning.window),
      ("critical_time_window", secondsText c.critical.window)]
  let severity := c.severity.toList.map fun s => ("severity", s.name)
  Table.ofList ((fields ++ severity).map fun f => (f.1, .text f.2))

end MetricConfig

/-- A configuration that is being put together. -/
structure ChainDraft where
  /-- The chain. -/
  parentId : String
  /-- The metrics, in the order of their sections. -/
  metrics : List MetricConfig

namespace ChainDraft

/-- The section of defaults. -/
def defaults : Value := .ofObject (Table.ofList [("enabled", .text "false")])

/-- The document of a draft. -/
def document (d : ChainDraft) : Object :=
  let sections := d.metrics.mapIdx fun i m => (toString i, Value.ofObject (m.toSection d.parentId))
  Table.ofList ((ChainConfig.defaultSection, defaults) :: sections)

end ChainDraft

end NodeAlerts
