/-!
# Severities
-/

namespace NodeAlerts

/-- How urgent an alert is. -/
inductive Severity where
  /-- For information, usually the end of an earlier problem. -/
  | info
  /-- Attention recommended. -/
  | warning
  /-- Action required. -/
  | critical
  /-- Monitoring itself fails. -/
  | error
  deriving Repr, DecidableEq, Inhabited

namespace Severity

/-- The name of a severity. -/
def name : Severity → String
  | .info => "INFO"
  | .warning => "WARNING"
  | .critical => "CRITICAL"
  | .error => "ERROR"

/-- The severity with the given name. -/
def ofName? (s : String) : Option Severity :=
  [info, warning, critical, error].find? fun severity => severity.name = s

theorem ofName?_name (s : Severity) : ofName? s.name = some s := by cases s <;> decide

end Severity

end NodeAlerts
