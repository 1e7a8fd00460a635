import NodeAlerts.Rule.Step

/-!
# Values that do not change

A value that stays the same is a problem once it has done so for the window of a level.  The first
change after an alert is reported and ends the problem.  Without an earlier value nothing is known.
-/

namespace NodeAlerts

/-- Classifies a value together with the one before it. -/
def classifyStuck (c : MetricConfig) (now : Instant) (current : Float) (previous : Option Float)
    (s : MetricState) : Step :=
  match previous with
  | none => .quiet s
  | some previous =>
    if current != previous then
      ⟨s.clear, if s.isClear then [] else [.valueUpdated current]⟩
    else
      let event (severity : Severity) (age : Span) : Event := .noChange severity current age
      (if c.critical.enabled then
        raiseCritical c (some now) now (event .critical) (event .critical) s
      else .quiet s).andThen fun s =>
      if c.warning.enabled then raiseWarning (some now) now (event .warning) s else .quiet s

end NodeAlerts
