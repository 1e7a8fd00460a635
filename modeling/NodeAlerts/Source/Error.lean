import NodeAlerts.Config.Scalar

/-!
# Failures to process a message
-/

namespace NodeAlerts

open NodeAlerts.Double

/-- Why a message could not be processed, or not to its end. -/
inductive ProcessingError where
  /-- The payload is not what it should be. -/
  | malformed
  /-- The alerts configuration is refused. -/
  | config (error : ConfigError)
  /-- The payload lacks a field. -/
  | missingField (name : String)
  /-- A point in time lies outside the calendar. -/
  | badTimestamp (seconds : Float)
  /-- Nothing is remembered about a metric that is enabled. -/
  | missingState (originId metric : String)
  deriving Repr, Inhabited

/-- The message of an error. -/
def ProcessingError.message : ProcessingError → String
  | .malformed => "Malformed payload"
  | .config error => "Invalid alerts configuration: " ++ error.message
  | .missingField name => "Missing expected field '" ++ name ++ "'"
  | .badTimestamp seconds => "Invalid monitoring timestamp: " ++ plainText seconds
  | .missingState originId metric =>
    "No alerting state for metric '" ++ metric ++ "' of '" ++ originId ++ "'"

end NodeAlerts
