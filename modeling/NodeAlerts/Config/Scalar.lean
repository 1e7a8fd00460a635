import NodeAlerts.Alert.Severity
import NodeAlerts.Double.Layout
import NodeAlerts.Double.Numeral
import NodeAlerts.Text.Blank
import NodeAlerts.Text.Case
import NodeAlerts.Time.Span

/-!
# Settings written as text

The fields of an alerts configuration are texts.  Each reader here takes the name of the field, for
its error, and the text; blanks at the ends and the case of letters do not matter.
-/

namespace NodeAlerts

open NodeAlerts.Double NodeAlerts.Text

/-- Why an alerts configuration is refused. -/
inductive ConfigError where
  /-- A section lacks a field that has to be there. -/
  | missingField (sectionKey field : String)
  /-- A section is not an object. -/
  | notAnObject (sectionKey : String)
  /-- A field is neither yes nor no. -/
  | badFlag (field value : String)
  /-- A field is not a finite number, or a negative number of seconds. -/
  | badNumber (field value : String)
  /-- A field is not the name of a severity. -/
  | badSeverity (value : String)
  /-- Two sections of one document belong to different chains. -/
  | conflictingParents (expected found : String)
  /-- The chain is configured under another name. -/
  | parentTaken (parentId chainName : String)
  deriving Repr, DecidableEq, Inhabited

/-- The message of an error. -/
def ConfigError.message : ConfigError → String
  | .missingField sectionKey field =>
    "Section '" ++ sectionKey ++ "' is missing required field '" ++ field ++ "'"
  | .notAnObject sectionKey => "Section '" ++ sectionKey ++ "' is not an object"
  | .badFlag field value => "Invalid boolean '" ++ value ++ "' for field '" ++ field ++ "'"
  | .badNumber field value => "Invalid number '" ++ value ++ "' for field '" ++ field ++ "'"
  | .badSeverity value => "Invalid severity '" ++ value ++ "'"
  | .conflictingParents expected found =>
    "Conflicting parent ids in one configuration: '" ++ expected ++ "' and '" ++ found ++ "'"
  | .parentTaken parentId chainName =>
    "Parent id '" ++ parentId ++ "' is already configured for chain '" ++ chainName ++ "'"

namespace Scalar

/-- The texts that mean yes. -/
def yesNames : List String := ["true", "yes", "y", "t", "1"]

/-- The texts that mean no. -/
def noNames : List String := ["false", "no", "n", "f", "0"]

/-- Reads yes or no. -/
def readFlag (field value : String) : Except ConfigError Bool :=
  let name := lowerAscii (trim value)
  if name ∈ yesNames then .ok true
  else if name ∈ noNames then .ok false
  else .error (.badFlag field value)

/-- Reads a finite number. -/
def readNumber (field value : String) : Except ConfigError Float :=
  match (readFloat? (trim value)).filter isFinite with
  | some x => .ok x
  | none => .error (.badNumber field value)

/-- A number of seconds to the nearest millisecond; a length of time is never negative. -/
def spanOfSeconds (seconds : Float) : Span := .ofMillis (nearest (seconds * 1000)).toNat

/-- Reads a number of seconds that is not negative. -/
def readSeconds (field value : String) : Except ConfigError Span := do
  let seconds ← readNumber field value
  if seconds < 0 then throw (.badNumber field value)
  return spanOfSeconds seconds

/-- Reads the name of a severity. -/
def readSeverity (value : String) : Except ConfigError Severity :=
  match Severity.ofName? (upperAscii (trim value)) with
  | some severity => .ok severity
  | none => .error (.badSeverity value)

end Scalar

end NodeAlerts
