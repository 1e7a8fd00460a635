import NodeAlerts.Config.Scalar
import NodeAlerts.Json.Value

/-!
# The configuration of a metric

One section of an alerts configuration configures one metric.  Its fields are texts, truth values or
numbers (`scalarText?`); `null`, arrays and objects count as absent.  `MetricConfig.ofSection` reads
the fields in the order of the structure and stops at the first that is missing or wrong.
-/

namespace NodeAlerts

open NodeAlerts.Json

/-- When a metric raises alerts of one severity. -/
structure Level where
  /-- Whether it does at all. -/
  enabled : Bool
  /-- The threshold. -/
  threshold : Float
  /-- How long a problem has to last, or the period in which occurrences count. -/
  window : Span
  deriving Repr, Inhabited

/-- The configuration of one metric. -/
structure MetricConfig where
  /-- The name of the metric. -/
  name : String
  /-- The chain that the configuration is for. -/
  parentId : String
  /-- Whether the metric is looked at. -/
  enabled : Bool
  /-- When warnings are raised. -/
  warning : Level
  /-- When critical alerts are raised. -/
  critical : Level
  /-- Whether a critical alert is repeated while its problem lasts. -/
  repeats : Bool
  /-- The least time between two critical alerts. -/
  repeatInterval : Span
  /-- The severity of metrics without levels. -/
  severity : Option Severity
  deriving Repr, Inhabited

/-- The level of a severity: there are levels for warnings and for critical alerts. -/
def MetricConfig.level (c : MetricConfig) : Severity → Level
  | .critical => c.critical
  | _ => c.warning

/-- A value as a configuration field: texts as they are, truth values and numbers as JSON writes
them. -/
def scalarText? : Value → Option String
  | .text s => some s
  | .bool b => some (if b then "true" else "false")
  | .number n => some n.write
  | _ => none

namespace MetricConfig

/-- The text of a field of a section. -/
def field? (fields : Object) (name : String) : Option String := do scalarText? (← fields.get? name)

/-- The text of a field that has to be there. -/
def required (sectionKey : String) (fields : Object) (name : String) : Except ConfigError String :=
  match field? fields name with
  | some text => .ok text
  | none => .error (.missingField sectionKey name)

/-- Reads a field, with a value for its absence. -/
def optional {α : Type} (fields : Object) (name : String)
    (read : String → String → Except ConfigError α) (absent : α) : Except ConfigError α :=
  match field? fields name with
  | some text => read name text
  | none => .ok absent

/-- Reads a section. -/
def ofSection (sectionKey : String) (fields : Object) : Except ConfigError MetricConfig := do
  let name ← required sectionKey fields "name"
  let parentId ← required sectionKey fields "parent_id"
  let enabled ← Scalar.readFlag "enabled" (← required sectionKey fields "enabled")
  let warningEnabled ← optional fields "warning_enabled" Scalar.readFlag false
  let warningThreshold ← optional fields "warning_threshold" Scalar.readNumber 0
  let criticalEnabled ← optional fields "critical_enabled" Scalar.readFlag false
  let criticalThreshold ← optional fields "critical_threshold" Scalar.readNumber 0
  let repeats ← optional fields "critical_repeat_enabled" Scalar.readFlag false
  let repeatInterval ← optional fields "critical_repeat" Scalar.readSeconds Span.zero
  let warningWindow ← optional fields "warning_time_window" Scalar.readSeconds Span.zero
  let criticalWindow ← optional fields "critical_time_window" Scalar.readSeconds Span.zero
  let severity ← optional fields "severity" (fun _ s => some <$> Scalar.readSeverity s) none
  return {
    name, parentId, enabled
    warning := ⟨warningEnabled, warningThreshold, warningWindow⟩
    critical := ⟨criticalEnabled, criticalThreshold, criticalWindow⟩
    repeats, repeatInterval, severity }

end MetricConfig

end NodeAlerts
