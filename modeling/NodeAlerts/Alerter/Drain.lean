import NodeAlerts.Alerter.Run

/-!
# Draining a queue

An alerter can be run on a queue in memory until the queue is empty.  The broker of such a run
agrees to everything, except that it does not deliver the first few published messages.
-/

namespace NodeAlerts

namespace Broker

/-- The broker that does not deliver the first `n` published messages. -/
def rejecting (n : Nat) : Broker :=
  { agreeing with
    publishes := List.replicate n (.error (.notDelivered "rejected")) }

end Broker

/-- The messages of a queue, given by their keys and payloads; their tags count from one. -/
def enqueue (queue : List (String × List UInt8)) : List Message :=
  queue.mapIdx fun i m => ⟨m.1, m.2, i + 1⟩

/-- Runs an alerter until a queue is drained. -/
def Alerter.drain {M : Type} [DecidableEq M] (a : Alerter M) (rejected : Nat)
    (queue : List Message) : Except Overrun (Session M) :=
  a.run (.rejecting rejected) false (queue.map fun m => .message m false)

/-! ## Reading a trace -/

/-- The tag that a call acknowledged. -/
def Call.acked? : Call → Option Nat
  | .ack tag (.ok ()) => some tag
  | _ => none

/-- What a call published, with exchange and key. -/
def Call.published? : Call → Option (String × String × Outgoing)
  | .publish exchange routingKey content (.ok ()) => some (exchange, routingKey, content)
  | _ => none

/-- Whether a call was made to connect. -/
def Call.isConnect : Call → Bool
  | .connect _ => true
  | _ => false

end NodeAlerts
