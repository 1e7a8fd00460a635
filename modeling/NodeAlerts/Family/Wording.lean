import NodeAlerts.Family.Basic

/-!
# Numbered alert types

A family numbers its types of alert.  A metric has one type for events that raise a problem and one
for events that resolve it; nodes that stay down have a type of their own.
-/

namespace NodeAlerts

/-- A numbered type of alert. -/
structure AlertType where
  /-- The number. -/
  number : Nat
  /-- The name. -/
  name : String
  deriving Repr, DecidableEq

/-- The code of a numbered type in the family `family`. -/
def AlertType.code (t : AlertType) (family : String) : AlertCode :=
  ⟨t.name, family ++ "_node_alert_" ++ toString t.number⟩

/-- The types of alert of one metric. -/
structure AlertTypes where
  /-- For events that raise a problem. -/
  raised : AlertType
  /-- For events that resolve it. -/
  resolved : AlertType
  /-- For nodes that stay down. -/
  stillDown : AlertType := raised

/-- The type of the alert for an event. -/
def AlertTypes.of (t : AlertTypes) (event : Event) : AlertType :=
  if event.isResolution then t.resolved
  else
    match event with
    | .stillDown .. => t.stillDown
    | _ => t.raised

end NodeAlerts
