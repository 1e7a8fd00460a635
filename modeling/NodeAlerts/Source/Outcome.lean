import NodeAlerts.Alert.Record
import NodeAlerts.Source.Error

/-!
# What a source reports

A source of data about a node reports either a result or a failure, each with the node and the time
of monitoring (`Outcome`).
-/

namespace NodeAlerts

open NodeAlerts.Json

/-- The node that an alert is about. -/
structure Origin where
  /-- The chain of the node. -/
  parentId : String
  /-- The node. -/
  originId : String
  /-- The name of the node for readers. -/
  originName : String
  deriving Repr, DecidableEq, Inhabited

/-- Which node was monitored, and when. -/
structure Monitoring where
  /-- The node. -/
  origin : Origin
  /-- The time, in seconds since the start of 1970. -/
  lastMonitored : Float
  deriving Repr, Inhabited

namespace Monitoring

/-- The fields that tell the node and the time; three of them have a second name. -/
def fields : RowM Monitoring := do
  let originName ← Row.required ["node_name", "monitor_name"] Reader.text
  let originId ← Row.required ["node_id", "origin_id"] Reader.text
  let parentId ← Row.required ["node_parent_id"] Reader.text
  let lastMonitored ← Row.required ["last_monitored", "time"] Reader.float
  return ⟨⟨parentId, originId, originName⟩, lastMonitored⟩

/-- Reads which node was monitored, and when. -/
def reader : Reader Monitoring := Row.read fields

/-- The time of monitoring. -/
def timestamp (m : Monitoring) : Except ProcessingError Instant :=
  match Instant.ofSeconds? m.lastMonitored with
  | some t => .ok t
  | none => .error (.badTimestamp m.lastMonitored)

end Monitoring

/-! ## Failures -/

namespace FaultCode

/-- A metric was not found at the source. -/
def metricNotFound : Int := 5003

/-- The node is down; the failure tells since when. -/
def nodeIsDown : Int := 5004

/-- The address of the source is not valid. -/
def invalidUrl : Int := 5009

end FaultCode

/-- A source could not be monitored. -/
structure SourceFault where
  /-- The node and the time. -/
  monitoring : Monitoring
  /-- The message for readers. -/
  message : String
  /-- The error code. -/
  code : Int
  /-- What else is known. -/
  data : Option Value
  deriving Inhabited

namespace SourceFault

/-- Reads a failure. -/
def reader : Reader SourceFault := Row.read do
  let monitoring ← Row.required ["meta_data"] Monitoring.reader
  let message ← Row.required ["message"] Reader.text
  let code ← Row.required ["code"] Reader.quantity
  let data ← Row.defaulted ["data"] (Reader.orNull Reader.value) none
  return { monitoring, message, code, data }

/-- The seconds at which the node went down, as far as they are given. -/
def wentDownSeconds? (f : SourceFault) : Option Float := do
  let data ← f.data
  let wentDownAt ← data.member? "went_down_at"
  let current ← wentDownAt.member? "current"
  current.toFloat?

/-- When the node went down; failures of another kind do not tell. -/
def wentDownAt (f : SourceFault) : Except ProcessingError (Option Instant) :=
  if f.code = FaultCode.nodeIsDown then
    match f.wentDownSeconds? with
    | none => .error (.missingField "went_down_at")
    | some seconds =>
      match Instant.ofSeconds? seconds with
      | some t => .ok (some t)
      | none => .error (.badTimestamp seconds)
  else .ok none

end SourceFault

/-! ## Outcomes -/

/-- What a source reports. -/
inductive Outcome (D : Type) where
  /-- The source was monitored. -/
  | result (monitoring : Monitoring) (data : D)
  /-- The source could not be monitored. -/
  | fault (fault : SourceFault)

namespace Outcome

variable {D : Type}

/-- The node and the time. -/
def monitoring : Outcome D → Monitoring
  | .result monitoring _ => monitoring
  | .fault f => f.monitoring

/-- Reads an outcome: an object with the single key `result` or `error`. -/
def reader (data : Reader D) : Reader (Outcome D) := Reader.alternative fun
  | "result" => some <| Row.read do
    let monitoring ← Row.required ["meta_data"] Monitoring.reader
    let data ← Row.required ["data"] data
    return .result monitoring data
  | "error" => some fun room tree => (SourceFault.reader room tree).map .fault
  | _ => none

end Outcome

/-- A value together with the one of the round before. -/
structure Observed (α : Type) where
  /-- The latest value. -/
  current : α
  /-- The value of the round before, if there was one. -/
  previous : Option α
  deriving Repr, Inhabited

/-- Reads an observed value. -/
def Observed.reader {α : Type} (read : Reader α) : Reader (Observed α) := Row.read do
  let current ← Row.required ["current"] read
  let previous ← Row.nullable ["previous"] read
  return { current, previous }

end NodeAlerts
