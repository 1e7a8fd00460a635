import NodeAlerts.Proofs.History

/-!
# What a flush does to the outbox

The alerts that leave the outbox in a flush are its oldest ones, and they are exactly the alerts
that the calls of the flush delivered (`Alerter.settle_eq`).  If every call succeeds none is left
(`Alerter.items_settle_of_succeeds`).
-/

namespace NodeAlerts

namespace Call

/-- The alert that a call delivered, with its exchange and key. -/
def alert? (c : Call) : Option (String × String × Record) :=
  match c.published? with
  | some (exchange, routingKey, .alert record) => some (exchange, routingKey, record)
  | _ => none

/-- Whether a call that acknowledges or publishes succeeded. -/
def succeeds : Call → Bool
  | .ack _ reply => reply.isOk
  | .publish _ _ _ reply => reply.isOk
  | _ => true

@[simp] theorem alert?_ack (tag : Nat) (reply : Reply) : (ack tag reply).alert? = none := rfl

@[simp] theorem alert?_heartbeat (exchange routingKey component : String) (reply : Reply) :
    (publish exchange routingKey (.heartbeat component) reply).alert? = none := by
  cases reply <;> rfl

@[simp] theorem alert?_alert_ok (exchange routingKey : String) (r : Record) :
    (publish exchange routingKey (.alert r) (.ok ())).alert? = some (exchange, routingKey, r) := rfl

@[simp] theorem alert?_error (exchange routingKey : String) (content : Outgoing)
    (fault : BrokerFault) : (publish exchange routingKey content (.error fault)).alert? = none :=
  rfl

end Call

namespace Alerter

variable {M : Type}

/-! ## Publishing a list of alerts -/

theorem publishAlerts_cons_ok {exchange routingKey : String} {alert : Record}
    {rest : List Record} {b b' : Broker} (h : b.publish = (.ok (), b')) :
    publishAlerts exchange routingKey (alert :: rest) b =
      { publishAlerts exchange routingKey rest b' with
        calls := .publish exchange routingKey (.alert alert) (.ok ()) ::
          (publishAlerts exchange routingKey rest b').calls
        delivered := (publishAlerts exchange routingKey rest b').delivered + 1 } := by
  rw [publishAlerts, h]

theorem publishAlerts_cons_error {exchange routingKey : String} {alert : Record}
    {rest : List Record} {b b' : Broker} {fault : BrokerFault}
    (h : b.publish = (.error fault, b')) :
    publishAlerts exchange routingKey (alert :: rest) b =
      ⟨b', [.publish exchange routingKey (.alert alert) (.error fault)], 0,
        publishFailure (.error fault)⟩ := by
  rw [publishAlerts, h]

/-- What is delivered are the oldest alerts, each by one call. -/
theorem alerts_publishAlerts (exchange routingKey : String) :
    ∀ (items : List Record) (b : Broker),
      (publishAlerts exchange routingKey items b).delivered ≤ items.length ∧
      (publishAlerts exchange routingKey items b).calls.filterMap Call.alert? =
        (items.take (publishAlerts exchange routingKey items b).delivered).map
          fun r => (exchange, routingKey, r) := by
  intro items
  induction items with
  | nil => intro b; exact ⟨Nat.le_refl 0, rfl⟩
  | cons alert rest ih =>
      intro b
      cases hb : b.publish with
      | mk reply b' =>
          cases reply with
          | ok u =>
              obtain ⟨hle, hcalls⟩ := ih b'
              rw [publishAlerts_cons_ok hb]
              refine ⟨Nat.succ_le_succ hle, ?_⟩
              simp only [List.filterMap_cons, Call.alert?_alert_ok, hcalls, List.take_succ_cons,
                List.map_cons]
          | error fault =>
              rw [publishAlerts_cons_error hb]
              exact ⟨Nat.zero_le _, rfl⟩

/-- If every call succeeds, everything is delivered. -/
theorem delivered_publishAlerts (exchange routingKey : String) :
    ∀ (items : List Record) (b : Broker),
      (∀ c ∈ (publishAlerts exchange routingKey items b).calls, c.succeeds = true) →
      (publishAlerts exchange routingKey items b).delivered = items.length := by
  intro items
  induction items with
  | nil => intro b _; rfl
  | cons alert rest ih =>
      intro b hc
      cases hb : b.publish with
      | mk reply b' =>
          cases reply with
          | ok u =>
              rw [publishAlerts_cons_ok hb] at hc ⊢
              exact congrArg (· + 1) (ih b' fun c hmem => hc c (List.mem_cons_of_mem _ hmem))
          | error fault =>
              rw [publishAlerts_cons_error hb] at hc
              have hfirst := hc _ (List.mem_singleton_self _)
              simp [Call.succeeds, Except.isOk, Except.toBool] at hfirst

/-! ## What follows an acknowledgement -/

theorem alerter_report (a : Alerter M) (b : Broker) (healthy : Bool) :
    (a.report b healthy).alerter = { a with outbox := a.outbox.drop (a.flush b).delivered } := by
  rw [report]
  split <;> rfl

theorem calls_report (a : Alerter M) (b : Broker) (healthy : Bool) :
    ∃ heartbeat, (a.report b healthy).calls = (a.flush b).calls ++ heartbeat ∧
      heartbeat.filterMap Call.alert? = [] := by
  rw [report]
  split
  · exact ⟨_, rfl, by simp [sendHeartbeat]⟩
  · exact ⟨[], (List.append_nil _).symm, rfl⟩

theorem alerts_report (a : Alerter M) (b : Broker) (healthy : Bool) :
    (a.report b healthy).calls.filterMap Call.alert? =
      (a.outbox.items.take (a.flush b).delivered).map
        fun r => (a.alertExchange, a.routing.alertKey, r) := by
  obtain ⟨heartbeat, hcalls, hnone⟩ := calls_report a b healthy
  rw [hcalls, List.filterMap_append, hnone, List.append_nil]
  exact (alerts_publishAlerts _ _ _ _).2

theorem failure_acknowledge {a : Alerter M} {b : Broker} {tag : Nat} {e : AlerterError}
    (h : (a.acknowledge b tag).failure = some e) :
    ∃ fault, e = .acknowledge fault ∧ (a.acknowledge b tag).calls = [.ack tag (.error fault)] := by
  simp only [acknowledge] at h ⊢
  cases hb : b.ack.1 with
  | ok u => rw [hb] at h; cases h
  | error fault => rw [hb] at h; cases h; exact ⟨fault, rfl, rfl⟩

theorem settle_of_some {a : Alerter M} {b : Broker} {tag : Nat} {healthy : Bool} {e : AlerterError}
    (h : (a.acknowledge b tag).failure = some e) :
    a.settle b tag healthy = a.acknowledge b tag := by
  rw [settle, h]

theorem settle_of_none {a : Alerter M} {b : Broker} {tag : Nat} {healthy : Bool}
    (h : (a.acknowledge b tag).failure = none) :
    a.settle b tag healthy =
      { a.report (a.acknowledge b tag).broker healthy with
        calls := (a.acknowledge b tag).calls ++
          (a.report (a.acknowledge b tag).broker healthy).calls } := by
  rw [settle, h]

/-- **What leaves the outbox is delivered.**  Settling a message takes the oldest alerts out of the
outbox, and its calls deliver exactly these. -/
theorem settle_eq (a : Alerter M) (b : Broker) (tag : Nat) (healthy : Bool) :
    ∃ n, n ≤ a.outbox.items.length ∧
      (a.settle b tag healthy).alerter = { a with outbox := a.outbox.drop n } ∧
      (a.settle b tag healthy).calls.filterMap Call.alert? =
        (a.outbox.items.take n).map fun r => (a.alertExchange, a.routing.alertKey, r) := by
  cases hf : (a.acknowledge b tag).failure with
  | some e =>
      rw [settle_of_some hf]
      exact ⟨0, Nat.zero_le _, rfl, rfl⟩
  | none =>
      rw [settle_of_none hf]
      refine ⟨_, (alerts_publishAlerts _ _ _ _).1, alerter_report a _ healthy, ?_⟩
      have hack : (a.acknowledge b tag).calls.filterMap Call.alert? = [] := rfl
      rw [List.filterMap_append, hack, List.nil_append]
      exact alerts_report a _ healthy

/-- Data is handled to its end if it is processed to its end, whatever the broker replies. -/
theorem exists_handle_of_process [DecidableEq M] {a : Alerter M} {m : Message} {p : Processed M}
    (hroute : a.routing.route m.routingKey = .data)
    (hp : a.family.process a.registry a.store m.payload = .ok p) (b : Broker) :
    ∃ h outbox, a.handle b m = .ok h ∧ h.findings = p.findings ∧
      h.alerter = { a with store := p.store, outbox } := by
  obtain ⟨n, -, halerter, -⟩ := settle_eq (a.classified p) b m.tag p.failure.isNone
  have hhandle : a.handle b m = .ok { (a.classified p).settle b m.tag p.failure.isNone with
      findings := p.findings
      dropped := (a.outbox.pushAll (p.findings.map a.family.record)).1 } := by
    rw [handle, hroute, handleData, hp]
    rfl
  exact ⟨_, _, hhandle, rfl, halerter⟩

theorem exists_process_of_handle [DecidableEq M] {a : Alerter M} {b : Broker} {m : Message}
    {h : Handled M} (hroute : a.routing.route m.routingKey = .data)
    (hh : a.handle b m = .ok h) :
    ∃ p, a.family.process a.registry a.store m.payload = .ok p := by
  rw [handle, hroute, handleData] at hh
  obtain ⟨p, hp, -⟩ := exists_of_bind_eq_ok hh
  exact ⟨p, hp⟩

theorem handle_of_process_error [DecidableEq M] {a : Alerter M} {m : Message} {e : Overrun}
    (hroute : a.routing.route m.routingKey = .data)
    (hp : a.family.process a.registry a.store m.payload = .error e) (b : Broker) :
    a.handle b m = .error e := by
  rw [handle, hroute, handleData, hp]
  rfl

/-- If every call succeeds, the outbox is empty afterwards. -/
theorem items_settle_of_succeeds {a : Alerter M} {b : Broker} {tag : Nat} {healthy : Bool}
    (h : ∀ c ∈ (a.settle b tag healthy).calls, c.succeeds = true) :
    (a.settle b tag healthy).alerter.outbox.items = [] := by
  cases hf : (a.acknowledge b tag).failure with
  | some e =>
      obtain ⟨fault, -, hcalls⟩ := failure_acknowledge hf
      rw [settle_of_some hf, hcalls] at h
      simpa [Call.succeeds, Except.isOk, Except.toBool] using h _ (List.mem_singleton_self _)
  | none =>
      rw [settle_of_none hf] at h ⊢
      obtain ⟨heartbeat, hcalls, -⟩ := calls_report a (a.acknowledge b tag).broker healthy
      have hflush : ∀ c ∈ (a.flush (a.acknowledge b tag).broker).calls, c.succeeds = true := by
        intro c hc
        refine h c (List.mem_append_right _ ?_)
        rw [hcalls]
        exact List.mem_append_left _ hc
      have hall : (a.flush (a.acknowledge b tag).broker).delivered = a.outbox.items.length :=
        delivered_publishAlerts _ _ _ _ hflush
      simp only [alerter_report, Outbox.items_drop, hall, List.drop_length]

end Alerter

end NodeAlerts
