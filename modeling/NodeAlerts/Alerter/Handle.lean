import NodeAlerts.Alerter.Update
import NodeAlerts.Broker.Call
import NodeAlerts.Family.Process

/-!
# Handling a message

`Alerter.handle` handles one message to its end.

* Data is classified and the alerts are put into the outbox.  Then the message is acknowledged, the
  outbox is flushed, and a heartbeat tells that processing went well.
* A configuration is applied, and the message acknowledged whether it was accepted or not.
* Anything else is only acknowledged.

A failure to acknowledge ends the handling at once, and so does a failure to publish, unless the
broker only could not deliver: then an alert waits in the outbox, and a heartbeat is given up.
-/

namespace NodeAlerts

/-- What comes of handling a message. -/
structure Handled (M : Type) where
  /-- The alerter afterwards. -/
  alerter : Alerter M
  /-- The broker afterwards. -/
  broker : Broker
  /-- The calls to the broker, in order. -/
  calls : List Call
  /-- What was found, in order. -/
  findings : List (Finding M)
  /-- The alerts that a full outbox dropped, in order. -/
  dropped : List Record
  /-- What ended the handling early, if anything did. -/
  failure : Option AlerterError

/-- What comes of publishing messages one after another. -/
structure Published where
  /-- The broker afterwards. -/
  broker : Broker
  /-- The calls to the broker, in order. -/
  calls : List Call
  /-- The number of messages delivered. -/
  delivered : Nat
  /-- What ended the publishing early, if anything but a message that is not delivered did. -/
  failure : Option AlerterError

/-- The error for a reply to a published message: one that only could not be delivered is none. -/
def publishFailure : Reply → Option AlerterError
  | .ok () => none
  | .error (.notDelivered _) => none
  | .error fault => some (.publish fault)

namespace Alerter

variable {M : Type}

/-- Publishes alerts, oldest first, until one is not delivered. -/
def publishAlerts (exchange routingKey : String) : List Record → Broker → Published
  | [], broker => ⟨broker, [], 0, none⟩
  | alert :: rest, broker =>
    let (reply, broker) := broker.publish
    let call := Call.publish exchange routingKey (.alert alert) reply
    match reply with
    | .ok () =>
      let others := publishAlerts exchange routingKey rest broker
      { others with calls := call :: others.calls, delivered := others.delivered + 1 }
    | .error _ => ⟨broker, [call], 0, publishFailure reply⟩

/-- Publishes the alerts of the outbox. -/
def flush (a : Alerter M) (broker : Broker) : Published :=
  publishAlerts a.alertExchange a.routing.alertKey a.outbox.items broker

/-- Publishes a heartbeat. -/
def sendHeartbeat (a : Alerter M) (broker : Broker) : Published :=
  let (reply, broker) := broker.publish
  let content := Outgoing.heartbeat a.family.component
  ⟨broker, [.publish a.healthExchange Routing.heartbeatKey content reply], 0, publishFailure reply⟩

/-- Acknowledges a message behind which nothing is published. -/
def acknowledge (a : Alerter M) (broker : Broker) (tag : Nat) : Handled M :=
  let (reply, broker) := broker.ack
  { alerter := a
    broker
    calls := [.ack tag reply]
    findings := []
    dropped := []
    failure :=
      match reply with
      | .ok () => none
      | .error fault => some (.acknowledge fault) }

/-- Flushes the outbox and sends a heartbeat if all is `healthy`. -/
def report (a : Alerter M) (broker : Broker) (healthy : Bool) : Handled M :=
  let alerts := a.flush broker
  let a' := { a with outbox := a.outbox.drop alerts.delivered }
  let done : Handled M := ⟨a', alerts.broker, alerts.calls, [], [], alerts.failure⟩
  if alerts.failure.isNone && healthy then
    let heartbeat := a'.sendHeartbeat alerts.broker
    { done with
      broker := heartbeat.broker
      calls := alerts.calls ++ heartbeat.calls
      failure := heartbeat.failure }
  else done

/-- Publishes what is due after processing, once the message is acknowledged. -/
def settle (a : Alerter M) (broker : Broker) (tag : Nat) (healthy : Bool) : Handled M :=
  let acknowledged := a.acknowledge broker tag
  match acknowledged.failure with
  | some _ => acknowledged
  | none =>
    let reported := a.report acknowledged.broker healthy
    { reported with calls := acknowledged.calls ++ reported.calls }

variable [DecidableEq M]

/-- Handles a message with data about a node. -/
def handleData (a : Alerter M) (broker : Broker) (m : Message) : Except Overrun (Handled M) := do
  let processed ← a.family.process a.registry a.store m.payload
  let (dropped, outbox) := a.outbox.pushAll (processed.findings.map a.family.record)
  let a := { a with store := processed.store, outbox }
  let settled := a.settle broker m.tag processed.failure.isNone
  return { settled with findings := processed.findings, dropped }

/-- Handles a message. -/
def handle (a : Alerter M) (broker : Broker) (m : Message) : Except Overrun (Handled M) :=
  match a.routing.route m.routingKey with
  | .data => a.handleData broker m
  | .config chainName => .ok ((a.applyConfig chainName m.payload).acknowledge broker m.tag)
  | .unknown => .ok (a.acknowledge broker m.tag)

end Alerter

end NodeAlerts
