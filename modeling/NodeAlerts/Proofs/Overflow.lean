import Mathlib.Data.List.Induction
import Mathlib.Order.Bounds.Defs
import NodeAlerts.Proofs.Budget
import NodeAlerts.Proofs.Conservation

/-!
# What a healthy broker receives

All alerts of a message are put into the outbox before the first of them is published.  So even if
every call succeeds a message can give more alerts than fit: then the oldest of them are dropped,
and only these (`Alerter.dropped_and_delivered_handle`).

With room for `FamilyKind.mostAlerts` nothing is lost, and with less room something can be: each
family has a history in which one message gives that many alerts (`FamilyKind.eventful`).  What is
found does not depend on the outbox or on the broker (`Alerter.SameMind.exists_handle`), so this
history has as many alerts under all settings.
-/

namespace NodeAlerts

variable {M : Type} [DecidableEq M]

namespace Alerter

/-! ## One message -/

/-- If every call succeeds, an empty outbox is empty again after a message. -/
theorem items_handle_of_succeeds {a : Alerter M} (ha : a.outbox.items = []) {b : Broker}
    {m : Message} {h : Handled M} (hh : a.handle b m = .ok h)
    (hc : ∀ c ∈ h.calls, c.succeeds = true) : h.alerter.outbox.items = [] := by
  rcases handle_cases hh with ⟨-, hd⟩ | ⟨name, -, rfl⟩ | ⟨-, rfl⟩
  · obtain ⟨p, -, rfl⟩ := handleData_eq_ok hd
    exact items_settle_of_succeeds hc
  · rw [alerter_acknowledge, outbox_applyConfig]
    exact ha
  · exact ha

/-- An outbox that is empty before and after a message passed its alerts on: the oldest ones, as
many as do not fit, were dropped, and the others were published, in order. -/
theorem dropped_and_delivered_handle {a : Alerter M} (ha : a.outbox.items = []) {b : Broker}
    {m : Message} {h : Handled M} (hh : a.handle b m = .ok h)
    (hempty : h.alerter.outbox.items = []) :
    h.dropped =
      (h.findings.map a.family.record).take (h.findings.length - a.outbox.capacity) ∧
    h.calls.filterMap Call.alert? =
      ((h.findings.map a.family.record).drop (h.findings.length - a.outbox.capacity)).map
        fun alert => (a.alertExchange, a.routing.alertKey, alert) := by
  have hitems := items_append_findings hh
  have hlength := length_dropped_handle hh
  rw [ha, List.length_nil, Nat.zero_add] at hlength
  -- nothing waited before and nothing waits now, so the alerts of the message are those that left
  have hsplit : h.findings.map a.family.record =
      h.dropped ++ (h.calls.filterMap Call.alert?).map (·.2.2) := by
    simpa [ha, hempty, Handled.departures, Function.comp_def] using hitems
  rw [hsplit, ← hlength, List.take_left, List.drop_left]
  exact ⟨rfl, alerts_handle hh⟩

end Alerter

/-- The turn of a message with a broker that agrees to everything. -/
def Message.agreed (m : Message) : Turn := ⟨m, .agreeing⟩

/-! ## Histories -/

/-- Every acknowledgement and every publication of a history succeeds. -/
def History.Succeeds (H : History M) : Prop :=
  ∀ r ∈ H.rounds, ∀ c ∈ r.handled.calls, c.succeeds = true

namespace Alerter

/-- If every call of a history succeeds, the outbox is empty before and after each of its
messages. -/
theorem items_history_of_succeeds {a : Alerter M} (ha : a.outbox.items = []) {turns : List Turn}
    {H : History M} (h : a.history turns = .ok H)
    (hc : H.Succeeds) :
    H.alerter.outbox.items = [] ∧
      ∀ r ∈ H.rounds, r.before.outbox.items = [] ∧ r.handled.alerter.outbox.items = [] := by
  let P (H : History M) : Prop :=
    H.Succeeds →
      H.alerter.outbox.items = [] ∧
        ∀ r ∈ H.rounds, r.before.outbox.items = [] ∧ r.handled.alerter.outbox.items = []
  have hP : P H := by
    refine history_induction h (fun _ => ⟨ha, by simp [History.start]⟩) ?_
    intro K t handled hK hh hcalls
    simp only [History.Succeeds, History.add, List.forall_mem_append,
      List.forall_mem_singleton] at hcalls ⊢
    obtain ⟨hbefore, hrounds⟩ := hK hcalls.1
    have hafter := items_handle_of_succeeds hbefore hh hcalls.2
    exact ⟨hafter, hrounds, hbefore, hafter⟩
  exact hP hc

/-- Two alerters of one family have the same configurations in force and remember the same. -/
structure SameMind (a a' : Alerter M) : Prop where
  /-- They have one family. -/
  family : a'.family = a.family
  /-- They have the same configurations in force. -/
  registry : a'.registry = a.registry
  /-- They remember the same. -/
  store : a'.store = a.store

omit [DecidableEq M] in
theorem SameMind.applyConfig {a a' : Alerter M} (h : a.SameMind a') (name : String)
    (payload : List UInt8) :
    (a.applyConfig name payload).SameMind (a'.applyConfig name payload) := by
  obtain ⟨f, x, y, r, s, o⟩ := a
  obtain ⟨f', x', y', r', s', o'⟩ := a'
  obtain ⟨rfl, rfl, rfl⟩ := h
  simp only [Alerter.applyConfig, update]
  cases Json.Value.readObject? payload with
  | none => exact ⟨rfl, rfl, rfl⟩
  | some document =>
      simp only []
      cases ChainConfig.ofDocument document with
      | error e => exact ⟨rfl, rfl, rfl⟩
      | ok parsed =>
          cases parsed with
          | none => exact ⟨rfl, rfl, rfl⟩
          | some config =>
              simp only [install]
              cases r'.install name config with
              | error e => exact ⟨rfl, rfl, rfl⟩
              | ok registry => exact ⟨rfl, rfl, rfl⟩

/-- **What is found does not depend on the outbox or on the broker.** -/
theorem SameMind.exists_handle {a a' : Alerter M} (h : a.SameMind a') {b : Broker} {m : Message}
    {g : Handled M} (hg : a.handle b m = .ok g) (b' : Broker) :
    ∃ g', a'.handle b' m = .ok g' ∧ g'.findings = g.findings ∧ g.alerter.SameMind g'.alerter := by
  have hrouting : a'.routing = a.routing := by rw [routing, h.family]; rfl
  rcases handle_cases hg with ⟨hroute, -⟩ | ⟨name, hroute, rfl⟩ | ⟨hroute, rfl⟩
  · obtain ⟨p, hp⟩ := exists_process_of_handle hroute hg
    obtain ⟨g₁, outbox, hg₁, hfindings, halerter⟩ := exists_handle_of_process hroute hp b
    obtain rfl : g₁ = g := Except.ok.inj (hg₁.symm.trans hg)
    have hp' : a'.family.process a'.registry a'.store m.payload = .ok p := by
      rw [h.family, h.registry, h.store, hp]
    rw [← hrouting] at hroute
    obtain ⟨g', outbox', hg', hfindings', halerter'⟩ := exists_handle_of_process hroute hp' b'
    refine ⟨g', hg', hfindings'.trans hfindings.symm, ?_⟩
    rw [halerter, halerter']
    exact ⟨h.family, h.registry, rfl⟩
  · rw [← hrouting] at hroute
    exact ⟨(a'.applyConfig name m.payload).acknowledge b' m.tag, by rw [handle, hroute], rfl,
      h.applyConfig name m.payload⟩
  · rw [← hrouting] at hroute
    exact ⟨a'.acknowledge b' m.tag, by rw [handle, hroute], rfl, h⟩

/-! ## Brokers that agree -/

/-- The broker that agrees to everything lets every alert be published. -/
theorem succeeds_publishAlerts (exchange routingKey : String) (items : List Record) :
    (publishAlerts exchange routingKey items .agreeing).broker = .agreeing ∧
      ∀ c ∈ (publishAlerts exchange routingKey items .agreeing).calls, c.succeeds = true := by
  induction items with
  | nil => exact ⟨rfl, nofun⟩
  | cons alert rest ih =>
      obtain ⟨hbroker, hcalls⟩ := ih
      have hpublished : Broker.agreeing.publish = (.ok (), .agreeing) := rfl
      rw [publishAlerts_cons_ok hpublished]
      exact ⟨hbroker, List.forall_mem_cons.2 ⟨rfl, hcalls⟩⟩

omit [DecidableEq M] in
theorem succeeds_report (a : Alerter M) (healthy : Bool) :
    ∀ c ∈ (a.report .agreeing healthy).calls, c.succeeds = true := by
  obtain ⟨hbroker, hflush⟩ :=
    succeeds_publishAlerts a.alertExchange a.routing.alertKey a.outbox.items
  rw [report]
  split
  · intro c hc
    rcases List.mem_append.1 hc with hc | hc
    · exact hflush c hc
    · have hagrees : (a.flush .agreeing).broker = .agreeing := hbroker
      rw [hagrees] at hc
      rw [List.mem_singleton.1 hc]
      rfl
  · exact hflush

theorem succeeds_handle {a : Alerter M} {m : Message} {g : Handled M}
    (hg : a.handle .agreeing m = .ok g) : ∀ c ∈ g.calls, c.succeeds = true := by
  rcases handle_cases hg with ⟨-, hd⟩ | ⟨name, -, rfl⟩ | ⟨-, rfl⟩
  · obtain ⟨p, -, rfl⟩ := handleData_eq_ok hd
    have hacknowledged : ((a.classified p).acknowledge .agreeing m.tag).failure = none := rfl
    simp only [settle_of_none hacknowledged]
    exact List.forall_mem_append.2 ⟨List.forall_mem_singleton.2 rfl, succeeds_report _ _⟩
  · exact List.forall_mem_singleton.2 rfl
  · exact List.forall_mem_singleton.2 rfl

/-- **A broker that agrees to everything is healthy.** -/
theorem succeeds_history {a : Alerter M} {messages : List Message} {H : History M}
    (h : a.history (messages.map Message.agreed) = .ok H) : H.Succeeds := by
  induction messages using List.reverseRecOn generalizing H with
  | nil =>
      cases h
      exact nofun
  | append_singleton earlier m ih =>
      rw [List.map_append] at h
      obtain ⟨K, handled, hK, hh, rfl⟩ := history_concat_eq_ok h
      simp only [History.Succeeds, History.add, List.forall_mem_append, List.forall_mem_singleton]
      exact ⟨ih hK, succeeds_handle hh⟩

/-- **Alerters of one mind find the same** in the same messages. -/
theorem SameMind.exists_history {a a' : Alerter M} (h : a.SameMind a') {turns : List Turn}
    {H : History M} (hH : a.history turns = .ok H) :
    ∃ H', a'.history turns = .ok H' ∧ H.alerter.SameMind H'.alerter ∧
      H'.rounds.map (·.handled.findings) = H.rounds.map (·.handled.findings) := by
  induction turns using List.reverseRecOn generalizing H with
  | nil =>
      cases hH
      exact ⟨History.start a', rfl, h, rfl⟩
  | append_singleton earlier t ih =>
      obtain ⟨K, handled, hK, hh, rfl⟩ := history_concat_eq_ok hH
      obtain ⟨K', hK', hsame, hrounds⟩ := ih hK
      obtain ⟨handled', hh', hfindings, hsame'⟩ := hsame.exists_handle hh t.broker
      refine ⟨K'.add t handled', history_concat hK' hh', hsame', ?_⟩
      simp only [History.add, List.map_append, hrounds, List.map_cons, hfindings, List.map_nil]

end Alerter

/-! ## Eventful histories -/

section Messages

open NodeAlerts.Json

/-- The two levels of a metric with their thresholds. -/
def twoLevels (warning critical : String) : List (String × String) :=
  [("warning_enabled", "yes"), ("warning_threshold", warning), ("critical_enabled", "yes"),
    ("critical_threshold", critical)]

/-- The node went down at a time in seconds. -/
def downSince (seconds : Nat) : String × List (String × Value) :=
  errorOf 5004 [("data", .ofObject <| Table.ofList [("went_down_at", .ofObject <|
    Table.ofList [("current", .ofCount seconds)])])]

/-- Everything that can go wrong with a Cosmos node goes wrong, and then the node is back, while its
validator is slashed, jailed and no longer active. -/
def Cosmos.eventful : List Message :=
  [family.configuring [("node_is_down", [("critical_enabled", "yes")]),
      ("prometheus_invalid_url", []), ("no_change_in_height", [("critical_enabled", "yes")]),
      ("no_of_peers", twoLevels "9" "5"), ("mempool_size", twoLevels "3" "7"),
      ("cosmos_rest_invalid_url", []), ("validator_was_slashed", []), ("validator_is_jailed", []),
      ("validator_is_not_active", []), ("tendermint_rpc_invalid_url", []), ("node_is_syncing", []),
      ("blocks_missed",
        [("warning_time_window", "1"), ("critical_time_window", "1")] ++ twoLevels "1" "2")],
    family.monitoring 1
      [("prometheus", resultOf [("current_height", .ofCount 1, .null),
        ("no_of_peers", .ofCount 8, .null), ("mempool_size", .ofCount 5, .null)]),
      ("tendermint_rpc", resultOf [("missed_blocks", .ofCount 1, .ofCount 0)])],
    family.monitoring 2
      [("prometheus", resultOf [("current_height", .ofCount 1, .ofCount 1),
        ("no_of_peers", .ofCount 4, .null), ("mempool_size", .ofCount 8, .null)]),
      ("tendermint_rpc", resultOf [("missed_blocks", .ofCount 2, .ofCount 1)])],
    family.monitoring 3 [("prometheus", downSince 2)],
    family.monitoring 4
      [("prometheus", errorOf 5009 []), ("cosmos_rest", errorOf 5009 []),
      ("tendermint_rpc", errorOf 5009 [])],
    family.monitoring 9
      [("prometheus", resultOf [("current_height", .ofCount 2, .ofCount 1),
        ("no_of_peers", .ofCount 10, .null), ("mempool_size", .ofCount 1, .null)]),
      ("cosmos_rest", resultOf
        [("slashed", .ofObject <| Table.ofList [("slashed", .bool true)], .null),
        ("jailed", .bool true, .null), ("bond_status", .text "unbonded", .null)]),
      ("tendermint_rpc", resultOf [("is_syncing", .bool true, .null),
        ("missed_blocks", .ofCount 2, .ofCount 2)])]]

/-- Everything that can go wrong with a Substrate node goes wrong, and then the node is back, while
it is syncing and its validator is slashed. -/
def Substrate.eventful : List Message :=
  [family.configuring [("node_is_down", [("critical_enabled", "yes")]),
      ("websocket_invalid_url", []),
      ("no_change_in_best_block_height", [("critical_enabled", "yes")]),
      ("no_change_in_finalized_block_height", [("critical_enabled", "yes")]),
      ("no_of_peers", twoLevels "9" "5"), ("node_is_syncing", []), ("validator_was_slashed", [])],
    family.monitoring 1 [("websocket", resultOf [("best_height", .ofCount 1, .null),
      ("finalized_height", .ofCount 1, .null), ("no_of_peers", .ofCount 8, .null)])],
    family.monitoring 2 [("websocket", resultOf [("best_height", .ofCount 1, .ofCount 1),
      ("finalized_height", .ofCount 1, .ofCount 1), ("no_of_peers", .ofCount 4, .null)])],
    family.monitoring 3 [("websocket", downSince 2)],
    family.monitoring 4 [("websocket", errorOf 5009 [])],
    family.monitoring 9 [("websocket", resultOf [("best_height", .ofCount 2, .ofCount 1),
      ("finalized_height", .ofCount 2, .ofCount 1), ("no_of_peers", .ofCount 10, .null),
      ("is_syncing", .bool true, .null),
      ("slashed", .ofObject <| Table.ofList [("slashed", .bool true)], .null)])]]

/-- A critical value of a node, and one that ends the critical alert and raises a warning. -/
def Sample.eventful : List Message :=
  [Sample.configuration, Sample.measurement 8 1, Sample.measurement 5 2]

end Messages

namespace FamilyKind

/-- Messages of a family of which one gives as many alerts as one message can. -/
def eventful : FamilyKind → List Message
  | .cosmos => Cosmos.eventful
  | .substrate => Substrate.eventful
  | .sample => Sample.eventful

/-- **The most alerts are reached.** -/
theorem mostAlerts_reached (k : FamilyKind) :
    ((Alerter.new k.family Settings.default).history (k.eventful.map Message.agreed)).map
      (fun H => H.rounds.any fun r => r.handled.findings.length = k.mostAlerts) = .ok true := by
  cases k <;> decide +kernel

end FamilyKind

/-- The numbers of alerts that messages of histories give whose calls all succeed. -/
def FamilyKind.reached (k : FamilyKind) (settings : Settings) : Set Nat :=
  {n | ∃ turns H, (Alerter.new k.family settings).history turns = .ok H ∧ H.Succeeds ∧
    ∃ r ∈ H.rounds, r.handled.findings.length = n}

/-- **The most alerts of one message**, whatever the settings are. -/
theorem FamilyKind.isGreatest_mostAlerts (k : FamilyKind) (settings : Settings) :
    IsGreatest (k.reached settings) k.mostAlerts := by
  constructor
  · obtain ⟨K, hK, hany⟩ := exists_of_map_eq_ok k.mostAlerts_reached
    have hmind : (Alerter.new k.family Settings.default).SameMind
        (Alerter.new k.family settings) := ⟨rfl, rfl, rfl⟩
    obtain ⟨H, hH, -, hfindings⟩ := hmind.exists_history hK
    obtain ⟨r, hr, hlength⟩ := List.any_eq_true.1 hany
    -- the round with the same number has the same findings
    have hmem : r.handled.findings ∈ H.rounds.map (·.handled.findings) := by
      rw [hfindings]
      exact List.mem_map_of_mem hr
    obtain ⟨r', hr', hsame⟩ := List.mem_map.1 hmem
    refine ⟨_, H, hH, Alerter.succeeds_history hH, r', hr', ?_⟩
    rw [hsame]
    exact of_decide_eq_true hlength
  · rintro n ⟨turns, H, hH, -, r, hr, rfl⟩
    exact Alerter.length_findings_le k.budget hH r hr

example : FamilyKind.cosmos.mostAlerts = 15 ∧ FamilyKind.substrate.mostAlerts = 8 ∧
    FamilyKind.sample.mostAlerts = 2 := ⟨rfl, rfl, rfl⟩

/-- What a healthy broker receives of a message: its alerts, in the order in which they were found,
but for the oldest of more than `capacity` ones. -/
structure Round.Received (r : Round M) (f : Family M) (exchange : String) (capacity : Nat) :
    Prop where
  /-- No alert waits. -/
  items : r.handled.alerter.outbox.items = []
  /-- The oldest alerts are dropped, as many as do not fit. -/
  dropped : r.handled.dropped =
    (r.handled.findings.map f.record).take (r.handled.findings.length - capacity)
  /-- The others are published. -/
  delivered : r.handled.calls.filterMap Call.alert? =
    ((r.handled.findings.map f.record).drop (r.handled.findings.length - capacity)).map
      fun alert => (exchange, (⟨f.name⟩ : Routing).alertKey, alert)

omit [DecidableEq M] in
/-- No alert is dropped of a message whose alerts fit. -/
theorem Round.Received.dropped_eq_nil_iff {r : Round M} {f : Family M} {exchange : String}
    {capacity : Nat} (h : r.Received f exchange capacity) :
    r.handled.dropped = [] ↔ r.handled.findings.length ≤ capacity := by
  have hlength := congrArg List.length h.dropped
  rw [List.length_take, List.length_map] at hlength
  rw [← List.length_eq_zero_iff]
  omega

/-- If every call of a history succeeds, the messages are received as they are found. -/
theorem Alerter.received_of_mem_rounds {f : Family M} {settings : Settings} {turns : List Turn}
    {H : History M} (h : (new f settings).history turns = .ok H) (hc : H.Succeeds) :
    ∀ r ∈ H.rounds,
      r.Received f settings.broker.alertExchange (max settings.outboxCapacity 1) := by
  intro r hr
  have hhandle := (history_of_mem_rounds h hr).2
  have hsetup := sameSetup_of_mem_rounds h hr
  obtain ⟨hbefore, hafter⟩ := (items_history_of_succeeds rfl h hc).2 r hr
  have hfamily : r.before.family = f := hsetup.family
  have hexchange : r.before.alertExchange = settings.broker.alertExchange := hsetup.alertExchange
  have hcapacity : r.before.outbox.capacity = max settings.outboxCapacity 1 := hsetup.capacity
  obtain ⟨hdropped, hdelivered⟩ := dropped_and_delivered_handle hbefore hhandle hafter
  rw [hfamily, hcapacity] at hdropped
  rw [hfamily, hcapacity, hexchange, routing, hfamily] at hdelivered
  exact ⟨hafter, hdropped, hdelivered⟩

/-- **A healthy broker receives the newest alerts that fit.**  If every call of a history of a fresh
alerter succeeds, each message publishes its alerts in the order in which they were found while it
is handled, and leaves the outbox empty; of more alerts than fit the oldest ones are dropped.  So
alerts are lost by exactly the messages that give more than fit.  The most that one message can give
is `k.mostAlerts`, under all settings; so no such history loses an alert if and only if that many
fit. -/
theorem healthy_broker_receives (k : FamilyKind) (settings : Settings) :
    (∀ turns H, (Alerter.new k.family settings).history turns = .ok H → H.Succeeds →
      ∀ r ∈ H.rounds,
        r.Received k.family settings.broker.alertExchange (max settings.outboxCapacity 1) ∧
        (r.handled.dropped = [] ↔ r.handled.findings.length ≤ max settings.outboxCapacity 1)) ∧
    IsGreatest (k.reached settings) k.mostAlerts ∧
    ((∀ turns H, (Alerter.new k.family settings).history turns = .ok H → H.Succeeds →
      ∀ r ∈ H.rounds, r.handled.dropped = []) ↔
        k.mostAlerts ≤ max settings.outboxCapacity 1) := by
  have hreceived : ∀ turns H, (Alerter.new k.family settings).history turns = .ok H → H.Succeeds →
      ∀ r ∈ H.rounds,
        r.Received k.family settings.broker.alertExchange (max settings.outboxCapacity 1) :=
    fun _ _ hH hc r hr => Alerter.received_of_mem_rounds hH hc r hr
  have hgreatest := k.isGreatest_mostAlerts settings
  refine ⟨fun turns H hH hc r hr => ?_, hgreatest, fun hnone => ?_,
    fun hfits turns H hH hc r hr => ?_⟩
  · have hround := hreceived turns H hH hc r hr
    exact ⟨hround, hround.dropped_eq_nil_iff⟩
  · obtain ⟨turns, H, hH, hc, r, hr, hlength⟩ := hgreatest.1
    rw [← hlength]
    exact (hreceived turns H hH hc r hr).dropped_eq_nil_iff.1 (hnone turns H hH hc r hr)
  · have hle := Alerter.length_findings_le k.budget hH r hr
    exact (hreceived turns H hH hc r hr).dropped_eq_nil_iff.2 (Nat.le_trans hle hfits)

/-- With room for two alerts all three alerts of this history are published. -/
theorem healthy_broker_receives_relieved :
    ∃ H, (Alerter.new FamilyKind.sample.family (Sample.settings 2)).history
        (Sample.eventful.map Message.agreed) = .ok H ∧
      H.Succeeds ∧ H.findings.length = 3 ∧ ∀ r ∈ H.rounds, r.handled.dropped = [] := by
  have hrun : ((Alerter.new FamilyKind.sample.family (Sample.settings 2)).history
      (Sample.eventful.map Message.agreed)).map (·.findings.length) = .ok 3 := by decide +kernel
  obtain ⟨H, hH, hlength⟩ := exists_of_map_eq_ok hrun
  have hcalls := Alerter.succeeds_history hH
  have hfits : FamilyKind.sample.mostAlerts ≤ max (Sample.settings 2).outboxCapacity 1 := by decide
  obtain ⟨-, -, hnone⟩ := healthy_broker_receives .sample (Sample.settings 2)
  exact ⟨H, hH, hcalls, hlength, hnone.2 hfits _ H hH hcalls⟩

/-- **A healthy broker can miss an alert.**  With room for one alert, the second value of this
history gives two alerts, and the first of them is dropped although every call succeeds. -/
theorem healthy_broker_misses_alert :
    ∃ H, (Alerter.new FamilyKind.sample.family (Sample.settings 1)).history
        (Sample.eventful.map Message.agreed) = .ok H ∧
      (∀ r ∈ H.rounds, ∀ c ∈ r.handled.calls, c.succeeds = true) ∧
      ∃ r ∈ H.rounds, r.handled.findings.length = 2 ∧ r.handled.dropped ≠ [] := by
  have hrun : ((Alerter.new FamilyKind.sample.family (Sample.settings 1)).history
      (Sample.eventful.map Message.agreed)).map (fun H =>
        H.rounds.any fun r => r.handled.findings.length = 2 && !r.handled.dropped.isEmpty) =
        .ok true := by decide +kernel
  obtain ⟨H, hH, hany⟩ := exists_of_map_eq_ok hrun
  obtain ⟨r, hr, hdropped⟩ := List.any_eq_true.1 hany
  exact ⟨H, hH, Alerter.succeeds_history hH, r, hr, by simpa using hdropped⟩

end NodeAlerts
