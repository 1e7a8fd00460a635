import NodeAlerts.Rule.Step

/-!
# Conditions

A condition has the severity of its metric, critical unless configured otherwise.  It is reported
each time it is seen (`classifyCondition`), or only when it starts and ends to hold
(`classifyTransition`).
-/

namespace NodeAlerts

/-- The severity of a metric without levels. -/
def MetricConfig.conditionSeverity (c : MetricConfig) : Severity := c.severity.getD .critical

/-- Reports a condition that holds, and with a text for it also one that does not. -/
def classifyCondition (c : MetricConfig) (holds : Bool) (detail : String) (cleared : Option String)
    (s : MetricState) : Step :=
  if holds then ⟨s, [.conditionMet c.conditionSeverity detail]⟩
  else
    match cleared with
    | some detail => ⟨s, [.conditionCleared detail]⟩
    | none => .quiet s

/-- Whether the alert for a condition of the given severity is open. -/
def MetricState.isSent (s : MetricState) : Severity → Bool
  | .critical => s.critical.sent
  | _ => s.warning.sent

/-- Notes whether the alert for a condition of the given severity is open. -/
def MetricState.setSent (s : MetricState) (severity : Severity) (sent : Bool) : MetricState :=
  match severity with
  | .critical => { s with critical := { s.critical with sent } }
  | _ => { s with warning := { s.warning with sent } }

/-- Reports that a condition starts or ends to hold. -/
def classifyTransition (c : MetricConfig) (holds : Bool) (detail cleared : String)
    (s : MetricState) : Step :=
  let severity := c.conditionSeverity
  if holds && !s.isSent severity then
    ⟨s.setSent severity true, [.conditionMet severity detail]⟩
  else if !holds && s.isSent severity then
    ⟨s.setSent severity false, [.conditionCleared cleared]⟩
  else .quiet s

end NodeAlerts
