import NodeAlerts.Config.Metric
import NodeAlerts.Timer.Occurrences
import NodeAlerts.Timer.Repeat
import NodeAlerts.Timer.Window

/-!
# What is remembered about a metric

For each severity an `Alarm` remembers whether an alert was sent and how long the problem has been
seen; beside them stand the gate for repeated critical alerts and the flag for errors of monitoring.
A classification rule uses the parts it needs and leaves the others alone.
-/

namespace NodeAlerts

/-- What is remembered about the alerts of one severity. -/
structure Alarm where
  /-- Whether an alert was sent for a problem that is not yet resolved. -/
  sent : Bool
  /-- How long the problem has been seen. -/
  window : WindowTimer
  /-- The occurrences within the period. -/
  occurrences : OccurrenceCounter
  deriving Repr, DecidableEq, Inhabited

namespace Alarm

/-- The alarm of a level at the start. -/
def new (level : Level) : Alarm :=
  ⟨false, WindowTimer.new level.window, OccurrenceCounter.new level.window⟩

/-- Notes that the problem was seen, first at `start` if it was not seen before; rules that do not
wait for a window give no start. -/
def observe (a : Alarm) : Option Instant → Alarm
  | some start => { a with window := a.window.start start }
  | none => a

/-- Notes that an alert was sent. -/
def fire (a : Alarm) : Alarm := { a with sent := true, window := a.window.fire }

/-- Notes that the problem is not seen. -/
def rest (a : Alarm) : Alarm := { a with window := a.window.reset }

/-- Notes that the problem is resolved. -/
def clear (a : Alarm) : Alarm := { a with sent := false, window := a.window.reset }

end Alarm

/-- What is remembered about one metric of one node. -/
structure MetricState where
  /-- The warning. -/
  warning : Alarm
  /-- The critical alert. -/
  critical : Alarm
  /-- The gate for repeated critical alerts. -/
  repeatGate : RepeatGate
  /-- Whether an error of monitoring was raised and is not yet resolved. -/
  errorSent : Bool
  deriving Repr, DecidableEq, Inhabited

namespace MetricState

/-- The state of a metric at the start. -/
def new (c : MetricConfig) : MetricState :=
  ⟨Alarm.new c.warning, Alarm.new c.critical, RepeatGate.new c.repeatInterval, false⟩

/-- Whether neither a warning nor a critical alert is open. -/
def isClear (s : MetricState) : Bool := !s.warning.sent && !s.critical.sent

/-- Resolves the warning and the critical alert. -/
def clear (s : MetricState) : MetricState :=
  { s with
    warning := s.warning.clear
    critical := s.critical.clear
    repeatGate := s.repeatGate.reset }

end MetricState

end NodeAlerts
