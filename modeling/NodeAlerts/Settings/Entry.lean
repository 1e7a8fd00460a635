import NodeAlerts.Double.Layout
import NodeAlerts.Double.Numeral
import NodeAlerts.Settings.Basic
import NodeAlerts.Text.Case

/-!
# Untyped settings

An `Entry` is a setting before it is known what it should be.  Sources of settings are laid over one
another (`Entry.overlay`): groups are joined, under names in lower case, and everything else is
replaced.  At the end `Entry.settings?` reads the typed settings, converting between texts, numbers
and truth values.
-/

namespace NodeAlerts

open NodeAlerts.Double NodeAlerts.Text

/-- A setting as its source gives it. -/
inductive Entry where
  /-- Nothing. -/
  | absent
  /-- A truth value. -/
  | flag (b : Bool)
  /-- A whole number. -/
  | whole (n : Int)
  /-- Another number. -/
  | real (x : Float)
  /-- A text. -/
  | text (s : String)
  /-- A list. -/
  | list (items : List Entry)
  /-- Named settings. -/
  | group (members : List (String × Entry))
  deriving Inhabited

/-- Named settings, each name once. -/
abbrev Entries := List (String × Entry)

namespace Entries

/-- Puts a setting in place of the one with its name, or behind the others. -/
def put (key : String) (new : Entry) : Entries → Entries
  | [] => [(key, new)]
  | (k, old) :: rest => if k = key then (key, new) :: rest else (k, old) :: put key new rest

end Entries

namespace Entry

/-- The members of a group. -/
def members : Entry → Entries
  | .group members => members
  | _ => []

/-- The items of a list. -/
def items : Entry → List Entry
  | .list items => items
  | _ => []

/-! ## Layers -/

mutual

/-- Lays a setting over an older one: the members of a group one by one. -/
def overlay (old : Option Entry) : Entry → Entry
  | .group [] => old.getD (.group [])
  | .group members => .group (overlayAll ((old.map Entry.members).getD []) members)
  | new => new

/-- Lays named settings over older ones. -/
def overlayAll (old : Entries) : List (String × Entry) → Entries
  | [] => old
  | (name, new) :: rest =>
    let key := lowerName name
    overlayAll (old.put key (overlay (old.lookup key) new)) rest

end

/-! ## Conversion -/

/-- The count that a text of digits stands for; a plus sign may stand in front. -/
def count? (s : String) : Option Nat :=
  if s.startsWith "-" then none else ((readInt? s).map Int.toNat).filter (· ≤ maxCount)

/-- The setting as a count.  Some words stand for one and zero, and other numbers are rounded. -/
def toCount? : Entry → Option Nat
  | .flag b => some (if b then 1 else 0)
  | .whole n => if 0 ≤ n then some n.toNat else none
  | .real x => some (roundedCount x)
  | .text s =>
    if ["true", "on", "yes"].contains (lowerAscii s) then some 1
    else if ["false", "off", "no"].contains (lowerAscii s) then some 0
    else count? s
  | _ => none
where
  /-- The count nearest to a double, a half going up. -/
  roundedCount (x : Float) : Nat :=
    match kind x with
    | .nan => 0
    | .infinite negative => if negative then 0 else maxCount
    | .finite p => min p.toInt.toNat maxCount

/-- The setting as a text. -/
def toText? : Entry → Option String
  | .flag b => some (if b then "true" else "false")
  | .whole n => some (toString n)
  | .real x => some (plainText x)
  | .text s => some s
  | _ => none

/-- A part of the setting: the member of a group by its name, or the item of a list by its place. -/
def part? (e : Entry) (position : Nat) (name : String) : Option Entry :=
  match e with
  | .group members => members.lookup name
  | .list items => items[position]?
  | _ => none

/-- Reads a part, with a value for its absence. -/
def partD {α : Type} (e : Entry) (position : Nat) (name : String) (read : Entry → Option α)
    (absent : α) : Option α :=
  match e.part? position name with
  | some part => read part
  | none => some absent

/-- The setting as the settings of a broker. -/
def brokerSettings? (e : Entry) : Option BrokerSettings := do
  let d := BrokerSettings.default
  let uri ← (← e.part? 0 "uri").toText?
  let alertExchange ← e.partD 1 "alert_exchange" toText? d.alertExchange
  let configExchange ← e.partD 2 "config_exchange" toText? d.configExchange
  let healthExchange ← e.partD 3 "health_check_exchange" toText? d.healthExchange
  return { uri, alertExchange, configExchange, healthExchange }

/-- The setting as the settings of an alerter. -/
def settings? (e : Entry) : Option Settings := do
  let d := Settings.default
  let broker ← (← e.part? 0 "rabbitmq").brokerSettings?
  let outboxCapacity ← e.partD 1 "max_queue_size" toCount? d.outboxCapacity
  let reconnectSeconds ← e.partD 2 "reconnect_interval" toCount? d.reconnectSeconds
  let shutdownSeconds ← e.partD 3 "shutdown_timeout" toCount? d.shutdownSeconds
  return { broker, outboxCapacity, reconnectSeconds, shutdownSeconds }

end Entry

end NodeAlerts
