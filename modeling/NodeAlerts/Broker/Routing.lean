import NodeAlerts.Settings.Basic

/-!
# Routing keys

Every family of chains has its own keys for data, configurations and alerts.  `Routing.route` tells
what a key is about: the data key is fixed, and the keys of configurations name a chain between a
fixed start and a fixed end.
-/

namespace NodeAlerts

/-- What a message is about. -/
inductive Route where
  /-- Data about a node. -/
  | data
  /-- The alerts configuration of a chain. -/
  | config (chainName : String)
  /-- Something else. -/
  | unknown
  deriving Repr, DecidableEq, Inhabited

/-- A queue is bound to an exchange by a key. -/
structure QueueBinding where
  /-- The exchange. -/
  exchange : String
  /-- The key or pattern. -/
  routingKey : String
  deriving Repr, DecidableEq, Inhabited

/-- The routing keys of a family. -/
structure Routing where
  /-- The name of the family. -/
  family : String
  deriving Repr, DecidableEq, Inhabited

namespace Routing

/-- The key of heartbeats. -/
def heartbeatKey : String := "heartbeat.worker"

/-- The queue of the family. -/
def queue (r : Routing) : String := r.family ++ "_node_alerter_queue"

/-- The key of data. -/
def dataKey (r : Routing) : String := "transformed_data.node." ++ r.family

/-- The start of the keys of configurations. -/
def configStart (r : Routing) : String := "chains." ++ r.family ++ "."

/-- The end of the keys of configurations. -/
def configEnd : String := ".alerts_config"

/-- The pattern of the keys of configurations. -/
def configPattern (r : Routing) : String := r.configStart ++ "*" ++ configEnd

/-- The key of the configuration of a chain. -/
def configKey (r : Routing) (chain : String) : String := r.configStart ++ chain ++ configEnd

/-- The key of alerts. -/
def alertKey (r : Routing) : String := "alert_router.node." ++ r.family

/-- The name of a chain of the family. -/
def chainName (r : Routing) (chain : String) : String := r.family ++ " " ++ chain

/-- What the queue is bound to. -/
def bindings (r : Routing) (s : BrokerSettings) : List QueueBinding :=
  [⟨s.alertExchange, r.dataKey⟩, ⟨s.configExchange, r.configPattern⟩]

/-- The chain in the key of a configuration: not empty and without points. -/
def chain? (r : Routing) (key : String) : Option String := do
  let rest ← r.configStart.toList.isPrefixOf? key.toList
  let chain ← configEnd.toList.isSuffixOf? rest
  if chain.isEmpty || chain.contains '.' then none else some (String.ofList chain)

/-- What a key is about. -/
def route (r : Routing) (key : String) : Route :=
  if key = r.dataKey then .data
  else
    match r.chain? key with
    | some chain => .config (r.chainName chain)
    | none => .unknown

end Routing

end NodeAlerts
