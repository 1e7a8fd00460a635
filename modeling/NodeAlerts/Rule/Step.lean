import NodeAlerts.Alert.Event
import NodeAlerts.State.Metric

/-!
# Steps of classification

A rule turns the state of a metric into a new state and the events found on the way (`Step`).  The
two ways to raise an alert are shared by the rules: `raiseCritical`, which also repeats an alert
that is still open, and `raiseWarning`, which is silent while a critical alert is open.
-/

namespace NodeAlerts

/-- The outcome of a rule. -/
structure Step where
  /-- The state afterwards. -/
  state : MetricState
  /-- The events, in the order found. -/
  events : List Event

namespace Step

/-- No event. -/
def quiet (s : MetricState) : Step := ⟨s, []⟩

/-- One step after another. -/
def andThen (a : Step) (f : MetricState → Step) : Step :=
  let b := f a.state
  ⟨b.state, a.events ++ b.events⟩

@[simp] theorem state_quiet (s : MetricState) : (quiet s).state = s := rfl

@[simp] theorem events_quiet (s : MetricState) : (quiet s).events = [] := rfl

@[simp] theorem state_andThen (a : Step) (f : MetricState → Step) :
    (a.andThen f).state = (f a.state).state := rfl

@[simp] theorem events_andThen (a : Step) (f : MetricState → Step) :
    (a.andThen f).events = a.events ++ (f a.state).events := rfl

end Step

/-- Sees the problem of a critical alert at `now`.  With a `start` the problem counts from there,
and an alert waits until the window has passed.  The first alert is `first`; while it stays open,
`again` is sent as often as the configuration and the gate allow.  Both get the age of the
problem. -/
def raiseCritical (c : MetricConfig) (start : Option Instant) (now : Instant)
    (first again : Span → Event) (s : MetricState) : Step :=
  let alarm := s.critical.observe start
  let age := alarm.window.elapsed now
  if alarm.sent then
    if c.repeats && s.repeatGate.isOpen now then
      ⟨{ s with critical := alarm, repeatGate := s.repeatGate.pass now }, [again age]⟩
    else .quiet { s with critical := alarm }
  else if start.isNone || alarm.window.isDue now then
    ⟨{ s with critical := alarm.fire, repeatGate := s.repeatGate.pass now }, [first age]⟩
  else .quiet { s with critical := alarm }

/-- Sees the problem of a warning at `now`.  With a `start` the problem counts from there, and the
warning waits until the window has passed.  It is sent once, and not while a critical alert is
open. -/
def raiseWarning (start : Option Instant) (now : Instant) (event : Span → Event)
    (s : MetricState) : Step :=
  let alarm := s.warning.observe start
  let age := alarm.window.elapsed now
  if !alarm.sent && !s.critical.sent && (start.isNone || alarm.window.isDue now) then
    ⟨{ s with warning := alarm.fire }, [event age]⟩
  else .quiet { s with warning := alarm }

end NodeAlerts
