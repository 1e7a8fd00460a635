import NodeAlerts.Rule.Condition
import NodeAlerts.Rule.Downtime
import NodeAlerts.Rule.Fault
import NodeAlerts.Rule.Stuck
import NodeAlerts.Rule.Threshold

/-!
# Readings

A `Reading` is what was read of one metric at one time, together with the rule that classifies it.
`Reading.classify` applies the rule; only the counting of occurrences can leave the calendar.
-/

namespace NodeAlerts

/-- What was read of a metric, by the rule that classifies it. -/
inductive Reading where
  /-- A value with thresholds; whether its breach has to last for a window. -/
  | gauge (value : Float) (direction : Direction) (windowed : Bool)
  /-- A counter whose increase counts as occurrences. -/
  | counter (current : Float) (previous : Option Float)
  /-- A value that ought to change. -/
  | progress (current : Float) (previous : Option Float)
  /-- When the node went down; `none` if it is up. -/
  | downtime (wentDownAt : Option Instant)
  /-- The error code received from a source, if any, where `tracked` is the one to report. -/
  | fault (tracked : Int) (received : Option Int) (message : String)
  /-- A condition that is reported each time. -/
  | condition (holds : Bool) (detail : String) (cleared : Option String)
  /-- A condition that is reported when it starts and ends to hold. -/
  | transition (holds : Bool) (detail cleared : String)
  deriving Repr

namespace Reading

/-- Classifies a reading. -/
def classify (r : Reading) (c : MetricConfig) (now : Instant) (s : MetricState) :
    Except Overrun Step :=
  match r with
  | .gauge value direction windowed =>
    .ok ((Measure.value value windowed).classify c direction now s)
  | .counter current previous => classifyIncrease c now current previous s
  | .progress current previous => .ok (classifyStuck c now current previous s)
  | .downtime wentDownAt => .ok (classifyDowntime c now wentDownAt s)
  | .fault tracked received message => .ok (classifyFault tracked received message s)
  | .condition holds detail cleared => .ok (classifyCondition c holds detail cleared s)
  | .transition holds detail cleared => .ok (classifyTransition c holds detail cleared s)

end Reading

end NodeAlerts
