import NodeAlerts.Alert.Event
import NodeAlerts.Rule.Reading
import NodeAlerts.Source.Outcome

/-!
# Families of chains

The nodes of a `Family` have the same metrics.  A family knows their names, how alerts about them
are worded, and how a message about a node is taken apart into the reports of its sources, each a
list of readings.  A `Finding` is an event found about a metric of a node, and `Family.record` the
alert about it.
-/

namespace NodeAlerts

open NodeAlerts.Json NodeAlerts.Double

/-- What one source reports about a node. -/
structure Report (M : Type) where
  /-- The source. -/
  source : String
  /-- The node and the time. -/
  monitoring : Monitoring
  /-- The readings, in the order in which they are classified. -/
  readings : List (M × Reading)
  /-- What is wrong with the report behind its readings. -/
  defect : Option ProcessingError

/-- A family of chains with the metrics `M`. -/
structure Family (M : Type) where
  /-- The name of the family in routing keys. -/
  name : String
  /-- The name of its component in heartbeats. -/
  component : String
  /-- All metrics. -/
  metrics : List M
  /-- The name of a metric in configurations and alerts. -/
  metricName : M → String
  /-- The type of the alert for an event. -/
  code : M → Event → AlertCode
  /-- The message of the alert for an event. -/
  message : M → Event → Origin → String
  /-- The further members of the alert for an event. -/
  extra : Event → Object
  /-- The reports in a message. -/
  reports? : List UInt8 → Option (List (Report M))

/-- An event found about a metric of a node. -/
structure Finding (M : Type) where
  /-- The node. -/
  origin : Origin
  /-- When the node was monitored. -/
  time : Instant
  /-- The metric. -/
  metric : M
  /-- The event. -/
  event : Event

/-- The alert for a finding. -/
def Family.record {M : Type} (f : Family M) (x : Finding M) : Record where
  code := f.code x.metric x.event
  severity := x.event.severity
  message := f.message x.metric x.event x.origin
  metric := f.metricName x.metric
  timestamp := x.time
  parentId := x.origin.parentId
  originId := x.origin.originId
  extra := f.extra x.event

/-! ## Wording -/

/-- The side of a threshold in words. -/
def Direction.text : Direction → String
  | .above => "increased above"
  | .below => "decreased below"

/-- The message for an event about the metric that readers know by `label`. -/
def Event.text (label : String) (event : Event) (origin : Origin) : String :=
  let node := origin.originName
  match event with
  | .thresholdBreached severity value threshold direction duration =>
    node ++ ": " ++ label ++ " " ++ direction.text ++ " " ++ severity.name ++ " threshold " ++
      plainText threshold ++ ". Current value: " ++ plainText value ++ "." ++
      match duration with
      | some duration => " Breached for " ++ duration.text ++ "."
      | none => ""
  | .thresholdCleared severity value threshold direction =>
    node ++ ": " ++ label ++ " is no longer " ++ direction.text ++ " " ++ severity.name ++
      " threshold " ++ plainText threshold ++ ". Current value: " ++ plainText value ++ "."
  | .occurrencesBreached severity occurrences threshold period =>
    node ++ ": " ++ toString occurrences ++ " " ++ label ++ " in the last " ++ period.text ++
      ", " ++ severity.name ++ " threshold " ++ plainText threshold ++ "."
  | .occurrencesCleared severity occurrences threshold period =>
    node ++ ": " ++ toString occurrences ++ " " ++ label ++ " in the last " ++ period.text ++
      ", below " ++ severity.name ++ " threshold " ++ plainText threshold ++ "."
  | .noChange severity value duration =>
    node ++ ": " ++ label ++ " has not changed for " ++ duration.text ++ " (" ++ severity.name ++
      "). Current value: " ++ plainText value ++ "."
  | .valueUpdated value =>
    node ++ ": " ++ label ++ " was updated. Current value: " ++ plainText value ++ "."
  | .wentDown severity duration =>
    node ++ " is down (" ++ severity.name ++ "), it went down " ++ duration.text ++ " ago."
  | .stillDown _ duration => node ++ " is still down, it went down " ++ duration.text ++ " ago."
  | .backUp => node ++ " is back up."
  | .errorRaised _ message => node ++ ": " ++ label ++ ". " ++ message
  | .errorResolved => node ++ ": " ++ label ++ " resolved."
  | .conditionMet _ detail => node ++ ": " ++ detail ++ "."
  | .conditionCleared detail => node ++ ": " ++ detail ++ "."

/-- The members that alerts carry beside their named ones: the value and the threshold of the
event, where it has them. -/
def Event.measures (event : Event) : Object :=
  match event with
  | .thresholdBreached _ value threshold _ _ => measured (.ofFloat value) threshold
  | .thresholdCleared _ value threshold _ => measured (.ofFloat value) threshold
  | .occurrencesBreached _ occurrences threshold _ => measured (.ofCount occurrences) threshold
  | .occurrencesCleared _ occurrences threshold _ => measured (.ofCount occurrences) threshold
  | .noChange _ value _ => Table.ofList [("value", .ofFloat value)]
  | .valueUpdated value => Table.ofList [("value", .ofFloat value)]
  | _ => ∅
where
  /-- A value and its threshold. -/
  measured (value : Value) (threshold : Float) : Object :=
    Table.ofList [("value", value), ("threshold", .ofFloat threshold)]

end NodeAlerts
