import NodeAlerts.Rule.Step

/-!
# Downtime

A node that is down is a problem once the window of a level has passed since it went down; the time
at which it first reported to have gone down counts.  A node that is up ends the problem.
-/

namespace NodeAlerts

/-- Classifies when a node went down; `none` for a node that is up. -/
def classifyDowntime (c : MetricConfig) (now : Instant) (wentDownAt : Option Instant)
    (s : MetricState) : Step :=
  match wentDownAt with
  | none => ⟨s.clear, if s.isClear then [] else [.backUp]⟩
  | some start =>
    (if c.critical.enabled then
      raiseCritical c (some start) now (.wentDown .critical) (.stillDown .critical) s
    else .quiet s).andThen fun s =>
    if c.warning.enabled then raiseWarning (some start) now (.wentDown .warning) s else .quiet s

end NodeAlerts
