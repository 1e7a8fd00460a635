import NodeAlerts.Alert.Record

/-!
# Heartbeats

A heartbeat tells that a component works.
-/

namespace NodeAlerts

open NodeAlerts.Json

/-- A sign of life of a component. -/
structure Heartbeat where
  /-- The component. -/
  component : String
  /-- Whether the component works. -/
  isAlive : Bool
  /-- When the sign was given. -/
  timestamp : Instant
  deriving Repr, DecidableEq, Inhabited

namespace Heartbeat

/-- The heartbeat of a component that works. -/
def alive (component : String) (now : Instant) : Heartbeat := ⟨component, true, now⟩

/-- A heartbeat on the wire. -/
def toObject (h : Heartbeat) : Object :=
  Table.ofList [("component_name", .text h.component), ("is_alive", .bool h.isAlive),
    ("timestamp", .ofInstant h.timestamp)]

/-- The text of a heartbeat on the wire. -/
def write (h : Heartbeat) : String := (Value.ofObject h.toObject).write

/-- Reads a heartbeat. -/
def reader : Reader Heartbeat := Row.read do
  let component ← Row.required ["component_name"] Reader.text
  let isAlive ← Row.required ["is_alive"] Reader.bool
  let timestamp ← Row.required ["timestamp"] Reader.instant
  return { component, isAlive, timestamp }

/-- The heartbeat written in a JSON text. -/
def read? (bytes : List UInt8) : Option Heartbeat := readAs? reader bytes

end Heartbeat

end NodeAlerts
