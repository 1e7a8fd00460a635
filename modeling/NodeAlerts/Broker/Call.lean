import NodeAlerts.Alert.Heartbeat
import NodeAlerts.Broker.Basic

/-!
# Calls to a broker

The calls that an alerter makes, with what came of them, are its trace.
-/

namespace NodeAlerts

/-- What is published. -/
inductive Outgoing where
  /-- An alert. -/
  | alert (record : Record)
  /-- A sign of life of a component. -/
  | heartbeat (component : String)

/-- The text of a published message; heartbeats carry the time at which they are sent. -/
def Outgoing.write (now : Instant) : Outgoing → String
  | .alert record => record.write
  | .heartbeat component => (Heartbeat.alive component now).write

/-- What comes of waiting for a message. -/
inductive Delivery where
  /-- A message with this tag. -/
  | message (tag : Nat)
  /-- The stream of messages ended. -/
  | ended
  /-- Waiting failed. -/
  | failed
  /-- The alerter was asked to stop. -/
  | cancelled
  deriving Repr, DecidableEq, Inhabited

/-- A call to a broker and what came of it. -/
inductive Call where
  /-- Opens a connection. -/
  | connect (reply : Reply)
  /-- Waits for a message. -/
  | next (delivery : Delivery)
  /-- Acknowledges a message. -/
  | ack (tag : Nat) (reply : Reply)
  /-- Publishes a message. -/
  | publish (exchange routingKey : String) (content : Outgoing) (reply : Reply)
  /-- Closes the connection. -/
  | disconnect (reply : Reply)

end NodeAlerts
