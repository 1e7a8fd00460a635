import NodeAlerts.Rule.Step

/-!
# Errors of monitoring

A metric may track one error code of its source.  The error is raised at every report of the code
and resolved at the first report without it.
-/

namespace NodeAlerts

/-- Classifies the error code received from a source, if any. -/
def classifyFault (tracked : Int) (received : Option Int) (message : String) (s : MetricState) :
    Step :=
  if received = some tracked then ⟨{ s with errorSent := true }, [.errorRaised tracked message]⟩
  else if s.errorSent then ⟨{ s with errorSent := false }, [.errorResolved]⟩
  else .quiet s

end NodeAlerts
