import NodeAlerts.Alert.Event
import NodeAlerts.Alert.Heartbeat
import NodeAlerts.Alert.Record
import NodeAlerts.Alert.Severity
import NodeAlerts.Alerter.Basic
import NodeAlerts.Alerter.Drain
import NodeAlerts.Alerter.Handle
import NodeAlerts.Alerter.Outbox
import NodeAlerts.Alerter.Run
import NodeAlerts.Alerter.Update
import NodeAlerts.Broker.Basic
import NodeAlerts.Broker.Call
import NodeAlerts.Broker.Routing
import NodeAlerts.Config.Chain
import NodeAlerts.Config.Draft
import NodeAlerts.Config.Metric
import NodeAlerts.Config.Registry
import NodeAlerts.Config.Scalar
import NodeAlerts.Double.Binary
import NodeAlerts.Double.Layout
import NodeAlerts.Double.Numeral
import NodeAlerts.Double.Shortest
import NodeAlerts.Family.Basic
import NodeAlerts.Family.Cosmos
import NodeAlerts.Family.Kind
import NodeAlerts.Family.Process
import NodeAlerts.Family.Sample
import NodeAlerts.Family.Substrate
import NodeAlerts.Family.Wording
import NodeAlerts.Json.Row
import NodeAlerts.Json.Scalar
import NodeAlerts.Json.Token
import NodeAlerts.Json.Tree
import NodeAlerts.Json.Value
import NodeAlerts.Main
import NodeAlerts.Proofs.Agreement
import NodeAlerts.Proofs.Arithmetic
import NodeAlerts.Proofs.Budget
import NodeAlerts.Proofs.ByteOrder
import NodeAlerts.Proofs.Calendar
import NodeAlerts.Proofs.Comparison
import NodeAlerts.Proofs.Computation
import NodeAlerts.Proofs.Conservation
import NodeAlerts.Proofs.Counting
import NodeAlerts.Proofs.Course
import NodeAlerts.Proofs.Delivery
import NodeAlerts.Proofs.Dispatch
import NodeAlerts.Proofs.Documents
import NodeAlerts.Proofs.Durations
import NodeAlerts.Proofs.Encoding
import NodeAlerts.Proofs.Episodes
import NodeAlerts.Proofs.Erasure
import NodeAlerts.Proofs.Failures
import NodeAlerts.Proofs.Families
import NodeAlerts.Proofs.Feeds
import NodeAlerts.Proofs.Fields
import NodeAlerts.Proofs.History
import NodeAlerts.Proofs.Hysteresis
import NodeAlerts.Proofs.Idempotence
import NodeAlerts.Proofs.Independence
import NodeAlerts.Proofs.Locality
import NodeAlerts.Proofs.Log
import NodeAlerts.Proofs.Occurrences
import NodeAlerts.Proofs.OpenRaise
import NodeAlerts.Proofs.Order
import NodeAlerts.Proofs.Overflow
import NodeAlerts.Proofs.Ownership
import NodeAlerts.Proofs.Persistence
import NodeAlerts.Proofs.Process
import NodeAlerts.Proofs.Protocol
import NodeAlerts.Proofs.Reconfiguration
import NodeAlerts.Proofs.Reconnection
import NodeAlerts.Proofs.Recounting
import NodeAlerts.Proofs.Redelivery
import NodeAlerts.Proofs.Registry
import NodeAlerts.Proofs.Renewal
import NodeAlerts.Proofs.Repeats
import NodeAlerts.Proofs.Resolution
import NodeAlerts.Proofs.Rounding
import NodeAlerts.Proofs.Routing
import NodeAlerts.Proofs.Rules
import NodeAlerts.Proofs.Seconds
import NodeAlerts.Proofs.Seen
import NodeAlerts.Proofs.Session
import NodeAlerts.Proofs.Settled
import NodeAlerts.Proofs.Setup
import NodeAlerts.Proofs.Sightings
import NodeAlerts.Proofs.Signals
import NodeAlerts.Proofs.SingleRaise
import NodeAlerts.Proofs.Sources
import NodeAlerts.Proofs.Store
import NodeAlerts.Proofs.Tracking
import NodeAlerts.Proofs.Update
import NodeAlerts.Proofs.Values
import NodeAlerts.Proofs.Volume
import NodeAlerts.Proofs.Windows
import NodeAlerts.Proofs.Wire
import NodeAlerts.Proofs.ZeroWindows
import NodeAlerts.Rule.Condition
import NodeAlerts.Rule.Downtime
import NodeAlerts.Rule.Fault
import NodeAlerts.Rule.Reading
import NodeAlerts.Rule.Step
import NodeAlerts.Rule.Stuck
import NodeAlerts.Rule.Threshold
import NodeAlerts.Settings.Basic
import NodeAlerts.Settings.Entry
import NodeAlerts.Settings.Load
import NodeAlerts.Settings.Path
import NodeAlerts.Source.Error
import NodeAlerts.Source.Outcome
import NodeAlerts.Source.Slashing
import NodeAlerts.State.Metric
import NodeAlerts.State.Node
import NodeAlerts.State.Store
import NodeAlerts.Table
import NodeAlerts.Text.Blank
import NodeAlerts.Text.Case
import NodeAlerts.Time.Instant
import NodeAlerts.Time.Span
import NodeAlerts.Timer.Occurrences
import NodeAlerts.Timer.Repeat
import NodeAlerts.Timer.Window
import NodeAlerts.Yaml.Block
import NodeAlerts.Yaml.Character
import NodeAlerts.Yaml.Cursor
import NodeAlerts.Yaml.Folding
import NodeAlerts.Yaml.Layout
import NodeAlerts.Yaml.Node
import NodeAlerts.Yaml.Plain
import NodeAlerts.Yaml.Property
import NodeAlerts.Yaml.Quoted
import NodeAlerts.Yaml.Scalar
import NodeAlerts.Yaml.Token
