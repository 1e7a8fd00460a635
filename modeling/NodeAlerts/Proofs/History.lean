import NodeAlerts.Alerter.Drain
import NodeAlerts.Family.Cosmos
import NodeAlerts.Family.Sample
import NodeAlerts.Proofs.Computation
import NodeAlerts.Proofs.Encoding

/-!
# Histories of an alerter

A `History` is what an alerter did so far: one `Round` for each message that it handled.  The broker
of a round is arbitrary, so a history goes through any mix of replies, and it goes on after a
failure as it does after a success.

* `Alerter.history_induction`: what the start has and every handled message keeps, holds at the end
  of every history.
* `Alerter.history_of_mem_rounds`: every round starts from an alerter that has a history.
* `Alerter.handle_cases`, `Alerter.handleData_eq_ok`: everything that handling one message can do.
-/

namespace NodeAlerts

/-- A message, and the broker that answers while it is handled. -/
structure Turn where
  /-- The message. -/
  message : Message
  /-- The broker. -/
  broker : Broker

/-- A message that was handled. -/
structure Round (M : Type) where
  /-- The alerter before. -/
  before : Alerter M
  /-- The message and the broker. -/
  turn : Turn
  /-- What came of it. -/
  handled : Handled M

/-- What an alerter did so far. -/
structure History (M : Type) where
  /-- The alerter now. -/
  alerter : Alerter M
  /-- The messages that were handled, oldest first. -/
  rounds : List (Round M)

namespace History

variable {M : Type}

/-- Nothing was handled yet. -/
def start (a : Alerter M) : History M := ⟨a, []⟩

/-- One more message was handled. -/
def add (H : History M) (t : Turn) (h : Handled M) : History M :=
  ⟨h.alerter, H.rounds ++ [⟨H.alerter, t, h⟩]⟩

/-- What was found so far, in order. -/
def findings (H : History M) : List (Finding M) := H.rounds.flatMap (·.handled.findings)

/-- The calls that were made so far, in order. -/
def calls (H : History M) : List Call := H.rounds.flatMap (·.handled.calls)

variable [DecidableEq M]

/-- Handles one more message. -/
def step (H : History M) (t : Turn) : Except Overrun (History M) :=
  (H.alerter.handle t.broker t.message).map (H.add t)

end History

namespace Alerter

variable {M : Type} [DecidableEq M]

/-- Handles messages one after another. -/
def history (a : Alerter M) (turns : List Turn) : Except Overrun (History M) :=
  turns.foldlM History.step (History.start a)

/-! ## Induction over a history -/

theorem history_step_eq_ok {H K : History M} {t : Turn} (h : H.step t = .ok K) :
    ∃ handled, H.alerter.handle t.broker t.message = .ok handled ∧ K = H.add t handled := by
  obtain ⟨handled, hh, rfl⟩ := exists_of_map_eq_ok h
  exact ⟨handled, hh, rfl⟩

/-- **Induction over a history.** -/
theorem history_induction {P : History M → Prop} {a : Alerter M} {turns : List Turn}
    {H : History M} (h : a.history turns = .ok H) (hstart : P (History.start a))
    (hstep : ∀ H t handled, P H → H.alerter.handle t.broker t.message = .ok handled →
      P (H.add t handled)) : P H := by
  refine foldlM_induction (fun K t K' hK hK' => ?_) turns (History.start a) H hstart h
  obtain ⟨handled, hh, rfl⟩ := history_step_eq_ok hK'
  exact hstep K t handled hK hh

theorem history_concat {a : Alerter M} {turns : List Turn} {H : History M} {t : Turn}
    {handled : Handled M} (h : a.history turns = .ok H)
    (hh : H.alerter.handle t.broker t.message = .ok handled) :
    a.history (turns ++ [t]) = .ok (H.add t handled) := by
  have hs : H.step t = .ok (H.add t handled) := by rw [History.step, hh]; rfl
  rw [history] at h ⊢
  simp [List.foldlM_append, h, hs, bind, Except.bind, pure, Except.pure]

/-- A history with one more message is a history, and the message was handled after it. -/
theorem history_concat_eq_ok {a : Alerter M} {turns : List Turn} {t : Turn} {H : History M}
    (h : a.history (turns ++ [t]) = .ok H) :
    ∃ K handled, a.history turns = .ok K ∧
      K.alerter.handle t.broker t.message = .ok handled ∧ H = K.add t handled := by
  rw [history, List.foldlM_append] at h
  obtain ⟨K, hK, h⟩ := exists_of_bind_eq_ok h
  rw [List.foldlM_cons] at h
  obtain ⟨L, hL, h⟩ := exists_of_bind_eq_ok h
  cases h
  obtain ⟨handled, hh, rfl⟩ := history_step_eq_ok hL
  exact ⟨K, handled, hK, hh, rfl⟩

/-- Every round starts from an alerter that has a history. -/
theorem history_of_mem_rounds {a : Alerter M} {turns : List Turn} {H : History M}
    (h : a.history turns = .ok H) {r : Round M} (hr : r ∈ H.rounds) :
    (∃ earlier K, a.history earlier = .ok K ∧ K.alerter = r.before) ∧
      r.before.handle r.turn.broker r.turn.message = .ok r.handled := by
  let P (H : History M) : Prop := (∃ turns, a.history turns = .ok H) ∧ ∀ r ∈ H.rounds,
    (∃ earlier K, a.history earlier = .ok K ∧ K.alerter = r.before) ∧
      r.before.handle r.turn.broker r.turn.message = .ok r.handled
  have hP : P H := by
    refine history_induction h ⟨⟨[], rfl⟩, by simp [History.start]⟩ ?_
    rintro K t handled ⟨⟨earlier, hK⟩, hrounds⟩ hh
    refine ⟨⟨earlier ++ [t], history_concat hK hh⟩, fun r hr => ?_⟩
    rcases List.mem_append.1 hr with hold | hnew
    · exact hrounds r hold
    · rw [List.mem_singleton.1 hnew]
      exact ⟨⟨earlier, K, hK, rfl⟩, hh⟩
  exact hP.2 r hr

/-! ## Handling one message -/

/-- The alerter once the outcome of classification is stored and its alerts are in the outbox. -/
def classified (a : Alerter M) (p : Processed M) : Alerter M :=
  { a with
    store := p.store
    outbox := (a.outbox.pushAll (p.findings.map a.family.record)).2 }

omit [DecidableEq M] in
@[simp] theorem alerter_acknowledge (a : Alerter M) (b : Broker) (tag : Nat) :
    (a.acknowledge b tag).alerter = a := rfl

omit [DecidableEq M] in
@[simp] theorem findings_acknowledge (a : Alerter M) (b : Broker) (tag : Nat) :
    (a.acknowledge b tag).findings = [] := rfl

/-- Data is processed, the alerts are put into the outbox, and the rest is left to `settle`. -/
theorem handleData_eq_ok {a : Alerter M} {b : Broker} {m : Message} {h : Handled M}
    (hh : a.handleData b m = .ok h) :
    ∃ p, a.family.process a.registry a.store m.payload = .ok p ∧
      h = { (a.classified p).settle b m.tag p.failure.isNone with
        findings := p.findings
        dropped := (a.outbox.pushAll (p.findings.map a.family.record)).1 } := by
  rw [handleData] at hh
  cases hp : a.family.process a.registry a.store m.payload with
  | error e => rw [hp] at hh; cases hh
  | ok p => rw [hp] at hh; cases hh; exact ⟨p, rfl, rfl⟩

/-- A message is data, a configuration, or neither. -/
theorem handle_cases {a : Alerter M} {b : Broker} {m : Message} {h : Handled M}
    (hh : a.handle b m = .ok h) :
    (a.routing.route m.routingKey = .data ∧ a.handleData b m = .ok h) ∨
    (∃ name, a.routing.route m.routingKey = .config name ∧
      h = (a.applyConfig name m.payload).acknowledge b m.tag) ∨
    (a.routing.route m.routingKey = .unknown ∧ h = a.acknowledge b m.tag) := by
  rw [handle] at hh
  cases hr : a.routing.route m.routingKey with
  | data => rw [hr] at hh; exact Or.inl ⟨rfl, hh⟩
  | config name => rw [hr] at hh; cases hh; exact Or.inr (Or.inl ⟨name, rfl, rfl⟩)
  | unknown => rw [hr] at hh; cases hh; exact Or.inr (Or.inr ⟨rfl, rfl⟩)

end Alerter

/-! ## Messages of a family -/

namespace Family

open NodeAlerts.Json

variable {M : Type} (f : Family M)

/-- Configures metrics of the chain `hub`, each with further fields. -/
def configuring (metrics : List (String × List (String × String))) : Message where
  routingKey := (⟨f.name⟩ : Routing).configKey "hub"
  payload := Value.encode <| .ofObject <| Table.ofList <| metrics.mapIdx fun i metric =>
    (toString i, .ofObject <| Table.ofList <| ([("name", metric.1), ("parent_id", "hub"),
      ("enabled", "yes")] ++ metric.2).map fun field => (field.1, .text field.2))
  tag := 0

/-- A round of monitoring of the node `v` of `hub`: the outcome of each source, and what it tells
beside the node and the time in seconds. -/
def monitoring (seconds : Nat) (sources : List (String × String × List (String × Value))) :
    Message where
  routingKey := (⟨f.name⟩ : Routing).dataKey
  payload := Value.encode <| .ofObject <| Table.ofList <| sources.map fun source =>
    (source.1, .ofObject <| Table.ofList [(source.2.1, .ofObject <| Table.ofList <|
      ("meta_data", .ofObject <| Table.ofList
        [("node_name", .text "validator"), ("node_id", .text "v"), ("node_parent_id", .text "hub"),
          ("last_monitored", .ofCount seconds)]) :: source.2.2)])
  tag := seconds

end Family

section Outcomes

open NodeAlerts.Json

/-- What a source tells: values, with those of the round before where there are any. -/
def resultOf (values : List (String × Value × Value)) : String × List (String × Value) :=
  ("result", [("data", .ofObject <| Table.ofList <| values.map fun value =>
    (value.1, .ofObject <| Table.ofList [("current", value.2.1), ("previous", value.2.2)]))])

/-- A source could not be monitored. -/
def errorOf (code : Nat) (others : List (String × Value)) : String × List (String × Value) :=
  ("error", [("message", .text "Unreachable"), ("code", .ofCount code)] ++ others)

end Outcomes

/-! ## Messages of the sample family -/

namespace Sample

open NodeAlerts.Json

/-- Settings with room for a number of alerts. -/
def settings (capacity : Nat) : Settings := { Settings.default with outboxCapacity := capacity }

/-- Configures the chain `hub`: its values raise warnings from 3 and critical alerts from 7. -/
def configuration : Message where
  routingKey := (⟨family.name⟩ : Routing).configKey "hub"
  payload := Value.bytes <| .ofObject <| Table.ofList [("0", .ofObject <| Table.ofList
    [("name", .text "value"), ("parent_id", .text "hub"), ("enabled", .text "yes"),
      ("warning_enabled", .text "yes"), ("warning_threshold", .text "3"),
      ("critical_enabled", .text "yes"), ("critical_threshold", .text "7")])]
  tag := 0

/-- The value of a node of `hub` at a time in seconds. -/
def measurement (value seconds : Nat) : Message where
  routingKey := (⟨family.name⟩ : Routing).dataKey
  payload := Value.bytes <| .ofObject <| Table.ofList
    [("node_name", .text "validator"), ("node_id", .text "v"), ("node_parent_id", .text "hub"),
      ("last_monitored", .ofCount seconds), ("value", .ofCount value)]
  tag := seconds

end Sample

/-! ## Messages of the Cosmos family -/

namespace Cosmos

open NodeAlerts.Json

/-- A message from one source of the node `v` of `hub` that was monitored. -/
def observation (source : String) (seconds : Nat) (data : List (String × Value)) : Message where
  routingKey := (⟨family.name⟩ : Routing).dataKey
  payload := Value.bytes <| .ofObject <| Table.ofList [(source, .ofObject <| Table.ofList
    [("result", .ofObject <| Table.ofList
      [("meta_data", .ofObject <| Table.ofList
        [("node_name", .text "validator"), ("node_id", .text "v"), ("node_parent_id", .text "hub"),
          ("last_monitored", .ofCount seconds)]),
      ("data", .ofObject <| Table.ofList data)])])]
  tag := seconds

end Cosmos

end NodeAlerts
