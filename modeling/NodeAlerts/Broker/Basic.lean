/-!
# Brokers

A broker hands out messages, which are acknowledged by their tags, and takes alerts and heartbeats.
Every call to it gets a `Reply`.
-/

namespace NodeAlerts

/-- A message that the broker hands out. -/
structure Message where
  /-- The key under which it was sent. -/
  routingKey : String
  /-- Its content. -/
  payload : List UInt8
  /-- The tag by which it is acknowledged. -/
  tag : Nat
  deriving Repr, DecidableEq, Inhabited

/-- Why a broker refuses a call. -/
inductive BrokerFault where
  /-- The transport failed. -/
  | transport
  /-- There is no open connection. -/
  | notConnected
  /-- A published message could not be delivered; it may be sent again. -/
  | notDelivered (reason : String)
  deriving Repr, DecidableEq, Inhabited

/-- The message of a fault. -/
def BrokerFault.message : BrokerFault → String
  | .transport => "RabbitMQ error"
  | .notConnected => "Not connected to the message broker"
  | .notDelivered reason => "Message could not be delivered: " ++ reason

/-- The answer of a broker to a call. -/
abbrev Reply := Except BrokerFault Unit

/-- The calls that can be made to a broker. -/
inductive Operation where
  /-- Opens a connection. -/
  | connect
  /-- Waits for a message. -/
  | next
  /-- Acknowledges a message. -/
  | ack
  /-- Publishes a message. -/
  | publish
  /-- Closes the connection. -/
  | disconnect
  deriving Repr, DecidableEq, Inhabited

/-- The reply without an open connection: closing succeeds, an address that cannot be read cannot be
connected to, and everything else needs a connection. -/
def Operation.closedReply : Operation → Reply
  | .connect => .error .transport
  | .disconnect => .ok ()
  | .next => .error .notConnected
  | .ack => .error .notConnected
  | .publish => .error .notConnected

/-! ## Scripted brokers -/

/-- The next reply of a script, and the script behind it; a script that is used up agrees. -/
def takeReply : List Reply → Reply × List Reply
  | [] => (.ok (), [])
  | r :: rs => (r, rs)

/-- An attempt to connect. -/
structure Attempt where
  /-- The reply of the broker. -/
  reply : Reply
  /-- Whether the alerter is asked to stop meanwhile. -/
  cancels : Bool

/-- A broker, given by the replies that it has in store for each kind of call; where they are used
up it agrees. -/
structure Broker where
  /-- The attempts to connect. -/
  attempts : List Attempt
  /-- The replies to acknowledgements. -/
  acks : List Reply
  /-- The replies to published messages. -/
  publishes : List Reply
  /-- The replies to closing the connection. -/
  disconnects : List Reply

namespace Broker

/-- The broker that agrees to everything. -/
def agreeing : Broker := ⟨[], [], [], []⟩

/-- Acknowledges a message. -/
def ack (b : Broker) : Reply × Broker :=
  let (reply, acks) := takeReply b.acks
  (reply, { b with acks })

/-- Publishes a message. -/
def publish (b : Broker) : Reply × Broker :=
  let (reply, publishes) := takeReply b.publishes
  (reply, { b with publishes })

/-- Closes the connection. -/
def disconnect (b : Broker) : Reply × Broker :=
  let (reply, disconnects) := takeReply b.disconnects
  (reply, { b with disconnects })

end Broker

end NodeAlerts
