import NodeAlerts.Alert.Record
import NodeAlerts.Alerter.Outbox
import NodeAlerts.Broker.Basic
import NodeAlerts.Broker.Routing
import NodeAlerts.Config.Registry
import NodeAlerts.Family.Basic
import NodeAlerts.State.Store

/-!
# Alerters

An alerter serves one family of chains: it keeps the configurations in force, what is remembered
about the nodes, and the alerts that wait to be published.
-/

namespace NodeAlerts

/-- Why an alerter cannot be assembled, or cannot go on. -/
inductive AlerterError where
  /-- No family is given. -/
  | missingFamily
  /-- No broker is given. -/
  | missingBroker
  /-- No settings are given. -/
  | missingSettings
  /-- A message could not be acknowledged. -/
  | acknowledge (fault : BrokerFault)
  /-- A message could not be published. -/
  | publish (fault : BrokerFault)
  deriving Repr, DecidableEq, Inhabited

/-- The message of an error. -/
def AlerterError.message : AlerterError → String
  | .missingFamily => "Missing chain alerter for Alerter"
  | .missingBroker => "Missing message broker for Alerter"
  | .missingSettings => "Missing configuration for Alerter"
  | .acknowledge fault => "Failed to acknowledge message: " ++ fault.message
  | .publish fault => "Failed to publish: " ++ fault.message

/-- An alerter for a family with the metrics `M`. -/
structure Alerter (M : Type) where
  /-- The family. -/
  family : Family M
  /-- The exchange for alerts. -/
  alertExchange : String
  /-- The exchange for heartbeats. -/
  healthExchange : String
  /-- The configurations in force. -/
  registry : Registry
  /-- What is remembered about the nodes. -/
  store : Store M
  /-- The alerts that wait to be published. -/
  outbox : Outbox Record

namespace Alerter

variable {M : Type}

/-- An alerter at the start. -/
def new (family : Family M) (settings : Settings) : Alerter M where
  family
  alertExchange := settings.broker.alertExchange
  healthExchange := settings.broker.healthExchange
  registry := .empty
  store := .empty
  outbox := .new settings.outboxCapacity

/-- Puts an alerter and its broker together; the first part that is missing is the error. -/
def assemble (family : Option (Family M)) (broker : Option Broker) (settings : Option Settings) :
    Except AlerterError (Alerter M × Broker) :=
  match family, broker, settings with
  | none, _, _ => .error .missingFamily
  | some _, none, _ => .error .missingBroker
  | some _, some _, none => .error .missingSettings
  | some family, some broker, some settings => .ok (new family settings, broker)

/-- The routing keys of the alerter. -/
def routing (a : Alerter M) : Routing := ⟨a.family.name⟩

end Alerter

end NodeAlerts
