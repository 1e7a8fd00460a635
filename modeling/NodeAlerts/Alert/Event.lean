import NodeAlerts.Alert.Severity
import NodeAlerts.Time.Span

/-!
# Events

An `Event` is what the classification of a reading finds out.  An event either raises a problem or
resolves one (`Event.isResolution`).
-/

namespace NodeAlerts

/-- The side of a threshold on which the problem lies. -/
inductive Direction where
  /-- Values at or above the threshold are a problem. -/
  | above
  /-- Values at or below the threshold are a problem. -/
  | below
  deriving Repr, DecidableEq, Inhabited

/-- Whether a value lies on the problem side of a threshold, which belongs to that side. -/
def Direction.breaches (d : Direction) (value threshold : Float) : Bool :=
  match d with
  | .above => value ≥ threshold
  | .below => value ≤ threshold

/-- A finding about one metric of one node. -/
inductive Event where
  /-- A value breached a threshold, for so long if the metric waits for a window. -/
  | thresholdBreached (severity : Severity) (value threshold : Float) (direction : Direction)
      (duration : Option Span)
  /-- A value is back on the good side of a breached threshold. -/
  | thresholdCleared (severity : Severity) (value threshold : Float) (direction : Direction)
  /-- Too many occurrences within the period. -/
  | occurrencesBreached (severity : Severity) (occurrences : Nat) (threshold : Float)
      (period : Span)
  /-- No longer too many occurrences within the period. -/
  | occurrencesCleared (severity : Severity) (occurrences : Nat) (threshold : Float)
      (period : Span)
  /-- A value has not changed for so long. -/
  | noChange (severity : Severity) (value : Float) (duration : Span)
  /-- A value that did not change has changed. -/
  | valueUpdated (value : Float)
  /-- The node went down so long ago. -/
  | wentDown (severity : Severity) (duration : Span)
  /-- The node is still down, so long after it went down. -/
  | stillDown (severity : Severity) (duration : Span)
  /-- The node is up again. -/
  | backUp
  /-- Monitoring reported an error. -/
  | errorRaised (code : Int) (message : String)
  /-- An error is no longer reported. -/
  | errorResolved
  /-- A condition holds. -/
  | conditionMet (severity : Severity) (detail : String)
  /-- A condition no longer holds. -/
  | conditionCleared (detail : String)
  deriving Repr, Inhabited

namespace Event

/-- Whether the event resolves a problem instead of raising one. -/
def isResolution : Event → Bool
  | .thresholdCleared .. => true
  | .occurrencesCleared .. => true
  | .valueUpdated .. => true
  | .backUp => true
  | .errorResolved => true
  | .conditionCleared .. => true
  | .thresholdBreached .. => false
  | .occurrencesBreached .. => false
  | .noChange .. => false
  | .wentDown .. => false
  | .stillDown .. => false
  | .errorRaised .. => false
  | .conditionMet .. => false

/-- The severity of the alert for an event: resolutions are for information, errors of monitoring
have their own severity. -/
def severity : Event → Severity
  | .thresholdBreached s .. => s
  | .occurrencesBreached s .. => s
  | .noChange s .. => s
  | .wentDown s .. => s
  | .stillDown s .. => s
  | .conditionMet s .. => s
  | .errorRaised .. => .error
  | .thresholdCleared .. => .info
  | .occurrencesCleared .. => .info
  | .valueUpdated .. => .info
  | .backUp => .info
  | .errorResolved => .info
  | .conditionCleared .. => .info

theorem severity_of_isResolution {e : Event} (h : e.isResolution = true) : e.severity = .info := by
  cases e <;> simp_all [isResolution, severity]

end Event

end NodeAlerts
