import NodeAlerts.Family.Basic

/-!
# A sample family

The smallest family: a message gives one value, which is classified against the thresholds of the
metric `value`.  Its alerts are worded by the names of their events.
-/

namespace NodeAlerts.Sample

open NodeAlerts.Json NodeAlerts.Double

/-- The metrics of the sample family. -/
inductive Metric where
  /-- A value. -/
  | value
  /-- A counter. -/
  | counter
  /-- Downtime. -/
  | down
  /-- An error of monitoring. -/
  | error
  /-- A condition. -/
  | flag
  deriving Repr, DecidableEq, Inhabited

namespace Metric

/-- All metrics. -/
def all : List Metric := [value, counter, down, error, flag]

theorem mem_all (m : Metric) : m ∈ all := by cases m <;> decide

/-- The name of a metric in configurations and alerts. -/
def name : Metric → String
  | .value => "value"
  | .counter => "counter"
  | .down => "down"
  | .error => "error"
  | .flag => "flag"

end Metric

/-- The name of an event. -/
def eventName : Event → String
  | .thresholdBreached .. => "ThresholdBreached"
  | .thresholdCleared .. => "ThresholdCleared"
  | .occurrencesBreached .. => "OccurrencesBreached"
  | .occurrencesCleared .. => "OccurrencesCleared"
  | .noChange .. => "NoChange"
  | .valueUpdated .. => "ValueUpdated"
  | .wentDown .. => "WentDown"
  | .stillDown .. => "StillDown"
  | .backUp => "BackUp"
  | .errorRaised .. => "ErrorRaised"
  | .errorResolved => "ErrorResolved"
  | .conditionMet .. => "ConditionMet"
  | .conditionCleared .. => "ConditionCleared"

/-- The message for an event: its name, and the severity, values and duration of some events. -/
def eventText (event : Event) : String :=
  let name := eventName event
  match event with
  | .thresholdBreached severity value threshold _ duration =>
    name ++ " " ++ severity.name ++ " value=" ++ plainText value ++ " threshold=" ++
      plainText threshold ++
      match duration with
      | some duration => " duration=" ++ duration.text
      | none => ""
  | .noChange severity value duration =>
    name ++ " " ++ severity.name ++ " value=" ++ plainText value ++ " duration=" ++ duration.text
  | .wentDown severity duration => name ++ " " ++ severity.name ++ " duration=" ++ duration.text
  | .stillDown severity duration => name ++ " " ++ severity.name ++ " duration=" ++ duration.text
  | _ => name

/-- A message of the sample family. -/
structure NodeData where
  /-- The node and the time. -/
  monitoring : Monitoring
  /-- The value. -/
  value : Float

/-- Reads a message: one object with the fields of `Monitoring` and the value.  All members besides
the value have to be readable. -/
def NodeData.reader : Reader NodeData
  | room + 1, .object members => do
    let members ← keyed? members
    let fields : RowM NodeData := do
      let value ← Row.required ["value"] Reader.float
      let monitoring ← Monitoring.fields
      return { monitoring, value }
    let data ← fields.run' (.members room members)
    let _ ← (members.filter fun m => m.1 ≠ "value").mapM fun m => Value.ofTree? room m.2
    return data
  | _, _ => none

/-- The single report in a message. -/
def NodeData.report (d : NodeData) : Report Metric :=
  ⟨"value", d.monitoring, [(.value, .gauge d.value .above false)], none⟩

/-- The sample family. -/
def family : Family Metric where
  name := "test"
  component := "Test Node Alerter"
  metrics := Metric.all
  metricName := Metric.name
  code m event := ⟨eventName event, "test_" ++ m.name ++ "_" ++ eventName event⟩
  message _ event _ := eventText event
  extra _ := ∅
  reports? payload := (readAs? NodeData.reader payload).map fun d => [d.report]

end NodeAlerts.Sample
