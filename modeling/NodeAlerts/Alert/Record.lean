import NodeAlerts.Alert.Severity
import NodeAlerts.Json.Row
import NodeAlerts.Time.Instant

/-!
# Alert records

A `Record` is an alert as it is published.  On the wire it is one JSON object: seven named members
(`Record.fieldNames`) and, beside them, the extra members that some alerts carry.
-/

namespace NodeAlerts

open NodeAlerts.Json

/-- What identifies a type of alert. -/
structure AlertCode where
  /-- The name of the type. -/
  name : String
  /-- The code of the type. -/
  code : String
  deriving Repr, DecidableEq, Inhabited

/-- A published alert. -/
structure Record where
  /-- The type of the alert. -/
  code : AlertCode
  /-- How urgent it is. -/
  severity : Severity
  /-- The message for readers. -/
  message : String
  /-- The name of the metric. -/
  metric : String
  /-- When the metric was monitored. -/
  timestamp : Instant
  /-- The chain of the node. -/
  parentId : String
  /-- The node. -/
  originId : String
  /-- Further members. -/
  extra : Object
  deriving Inhabited

/-- The members in which a point in time is written: seconds as a double. -/
def Json.Value.ofInstant (t : Instant) : Value := .ofFloat t.toSeconds

/-- Reads a point in time from its seconds. -/
def Json.Reader.instant : Reader Instant := fun room tree => do
  Instant.ofSeconds? (← Reader.float room tree)

/-- Reads a severity by its name. -/
def Json.Reader.severity : Reader Severity := Reader.choice Severity.ofName?

namespace AlertCode

/-- The type of an alert on the wire. -/
def toValue (c : AlertCode) : Value :=
  .ofObject (Table.ofList [("name", .text c.name), ("code", .text c.code)])

/-- Reads the type of an alert. -/
def reader : Reader AlertCode := Row.read do
  let name ← Row.required ["name"] Reader.text
  let code ← Row.required ["code"] Reader.text
  return { name, code }

end AlertCode

namespace Record

/-- The members that every record has. -/
def fieldNames : List String :=
  ["alert_code", "severity", "message", "metric", "timestamp", "parent_id", "origin_id"]

/-- The members that every record has, with their values. -/
def fields (r : Record) : List (String × Value) :=
  [("alert_code", r.code.toValue), ("severity", .text r.severity.name),
    ("message", .text r.message), ("metric", .text r.metric),
    ("timestamp", .ofInstant r.timestamp), ("parent_id", .text r.parentId),
    ("origin_id", .text r.originId)]

/-- A record on the wire: its named members, and its further ones beside them. -/
def toObject (r : Record) : Object :=
  r.extra.entries.foldl (fun o m => o.insert m.1 m.2) (Table.ofList r.fields)

/-- The text of a record on the wire. -/
def write (r : Record) : String := (Value.ofObject r.toObject).write

/-- Reads a record from an object.  All members besides the named ones are kept, and so have to be
readable. -/
def reader : Reader Record
  | room + 1, .object members => do
    let members ← keyed? members
    let fields : RowM Record := do
      let code ← Row.required ["alert_code"] AlertCode.reader
      let severity ← Row.required ["severity"] Reader.severity
      let message ← Row.required ["message"] Reader.text
      let metric ← Row.required ["metric"] Reader.text
      let timestamp ← Row.required ["timestamp"] Reader.instant
      let parentId ← Row.required ["parent_id"] Reader.text
      let originId ← Row.required ["origin_id"] Reader.text
      return { code, severity, message, metric, timestamp, parentId, originId, extra := ∅ }
    let record ← fields.run' (.members room members)
    let extra ← (members.filter fun m => !fieldNames.contains m.1).mapM fun m =>
      (Value.ofTree? room m.2).map fun value => (m.1, value)
    return { record with extra := Table.ofList extra }
  | _, _ => none

/-- The record written in a JSON text. -/
def read? (bytes : List UInt8) : Option Record := readAs? reader bytes

/-- The record that an object stands for. -/
def ofObject? (o : Object) : Option Record :=
  let v := Value.ofObject o
  reader v.depth v.toTree

end Record

end NodeAlerts
