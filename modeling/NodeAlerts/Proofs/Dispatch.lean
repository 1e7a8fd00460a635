import NodeAlerts.Proofs.Calendar
import NodeAlerts.Proofs.Session

/-!
# What one message does to the broker

Handling a message makes one acknowledgement and then publishes: the alerts that wait, oldest first,
until one is refused, and behind them a heartbeat.  `Handled.Serves` says what is published when,
and with which outcome the message ends, for every combination of replies.

`message_serves_broker` holds of every alerter, message and broker.  It has one exception, which is
told with it: data that cannot be processed makes no call at all, so that such a message is not
acknowledged (`missed_blocks_stay_unacknowledged`).
-/

namespace NodeAlerts

/-! ## Replies -/

/-- The reply to a published message. -/
def Call.answer? : Call → Option Reply
  | .publish _ _ _ reply => some reply
  | _ => none

namespace Broker

/-- The reply of a broker to the message that is published after `n` others. -/
def publishReply (b : Broker) (n : Nat) : Reply := (b.publishes[n]?).getD (.ok ())

/-- The broker after `n` messages were published. -/
def afterPublishing (b : Broker) (n : Nat) : Broker := { b with publishes := b.publishes.drop n }

theorem publish_eq (b : Broker) : b.publish = (b.publishReply 0, b.afterPublishing 1) := by
  rw [publish, publishReply, afterPublishing]
  cases b.publishes <;> rfl

theorem publishReply_afterPublishing (b : Broker) (n i : Nat) :
    (b.afterPublishing n).publishReply i = b.publishReply (n + i) := by
  rw [publishReply, afterPublishing, publishReply, List.getElem?_drop]

theorem afterPublishing_afterPublishing (b : Broker) (n k : Nat) :
    (b.afterPublishing n).afterPublishing k = b.afterPublishing (n + k) := by
  simp only [afterPublishing, List.drop_drop]

/-- The calls publish, and get the replies of the broker one after another. -/
def Answers (b : Broker) (calls : List Call) : Prop :=
  ∀ i c, calls[i]? = some c → c.answer? = some (b.publishReply i)

theorem answers_nil (b : Broker) : b.Answers [] := by
  intro i c h
  cases h

theorem Answers.cons {b : Broker} {c : Call} {calls : List Call}
    (hc : c.answer? = some (b.publishReply 0)) (h : (b.afterPublishing 1).Answers calls) :
    b.Answers (c :: calls) := by
  intro i d hd
  cases i with
  | zero =>
      cases hd
      exact hc
  | succ i =>
      have hreply := h i d hd
      rw [publishReply_afterPublishing, Nat.add_comm] at hreply
      exact hreply

theorem Answers.concat {b : Broker} {calls : List Call} {c : Call} (h : b.Answers calls)
    (hc : c.answer? = some (b.publishReply calls.length)) : b.Answers (calls ++ [c]) := by
  intro i d hd
  rcases Nat.lt_trichotomy i calls.length with hlt | rfl | hgt
  · rw [List.getElem?_append_left hlt] at hd
    exact h i d hd
  · rw [List.getElem?_concat_length] at hd
    cases hd
    exact hc
  · have hnone : (calls ++ [c])[i]? = none := by
      rw [List.getElem?_eq_none_iff, List.length_append, List.length_singleton]
      omega
    rw [hnone] at hd
    cases hd

end Broker

namespace Alerter

variable {M : Type}

/-! ## Flushing -/

/-- The call that publishes an alert. -/
def alertCall (a : Alerter M) (r : Record) (reply : Reply) : Call :=
  .publish a.alertExchange a.routing.alertKey (.alert r) reply

/-- The call that publishes a heartbeat. -/
def heartbeatCall (a : Alerter M) (reply : Reply) : Call :=
  .publish a.healthExchange Routing.heartbeatKey (.heartbeat a.family.component) reply

/-- The calls publish the waiting alerts, oldest first and each once, until one does not succeed:
`n` of them succeed, and these are all, or the next one is refused by the last call. -/
def Flushes (a : Alerter M) (waiting : List Record) (n : Nat) (calls : List Call) : Prop :=
  (n = waiting.length ∧ calls = waiting.map fun r => a.alertCall r (.ok ())) ∨
  ∃ r fault, waiting[n]? = some r ∧
    calls = ((waiting.take n).map fun r => a.alertCall r (.ok ())) ++ [a.alertCall r (.error fault)]

theorem Flushes.cons {a : Alerter M} {waiting : List Record} {n : Nat} {calls : List Call}
    (h : a.Flushes waiting n calls) (r : Record) :
    a.Flushes (r :: waiting) (n + 1) (a.alertCall r (.ok ()) :: calls) := by
  rcases h with ⟨rfl, rfl⟩ | ⟨r', fault, hr', rfl⟩
  · exact Or.inl ⟨rfl, rfl⟩
  · exact Or.inr ⟨r', fault, hr', rfl⟩

/-- What is left starts with the alert that was refused. -/
theorem Flushes.left {a : Alerter M} {waiting : List Record} {n : Nat} {calls : List Call}
    (h : a.Flushes waiting n calls) : waiting.drop n = [] ∨
      ∃ r fault, (waiting.drop n).head? = some r ∧
        calls.getLast? = some (a.alertCall r (.error fault)) := by
  rcases h with ⟨rfl, -⟩ | ⟨r, fault, hr, rfl⟩
  · exact Or.inl List.drop_length
  · refine Or.inr ⟨r, fault, ?_, List.getLast?_concat⟩
    rw [List.head?_drop, hr]

/-- A flush publishes what waits, with the replies of the broker. -/
theorem flushes_publishAlerts (a : Alerter M) (waiting : List Record) (b : Broker) :
    let flushed := publishAlerts a.alertExchange a.routing.alertKey waiting b
    a.Flushes waiting flushed.delivered flushed.calls ∧ b.Answers flushed.calls ∧
      flushed.broker = b.afterPublishing flushed.calls.length := by
  induction waiting generalizing b with
  | nil => exact ⟨Or.inl ⟨rfl, rfl⟩, b.answers_nil, rfl⟩
  | cons r waiting ih =>
      have hb := b.publish_eq
      cases hreply : b.publishReply 0 with
      | ok u =>
          rw [hreply] at hb
          obtain ⟨hflushes, hanswers, hbroker⟩ := ih (b.afterPublishing 1)
          rw [publishAlerts_cons_ok hb]
          refine ⟨hflushes.cons r, hanswers.cons (congrArg some hreply.symm), ?_⟩
          rw [hbroker, Broker.afterPublishing_afterPublishing, Nat.add_comm]
          rfl
      | error fault =>
          rw [hreply] at hb
          rw [publishAlerts_cons_error hb]
          exact ⟨Or.inr ⟨r, fault, rfl, rfl⟩,
            b.answers_nil.concat (congrArg some hreply.symm), rfl⟩

end Alerter

/-! ## Reporting -/

section Reporting

variable {M : Type}

/-- What is published once data is processed with the outcome `p` and acknowledged: the calls
`alerts`, of which `n` succeed, and behind them the calls `heartbeat`. -/
structure Handled.Reports (h : Handled M) (a : Alerter M) (p : Processed M) (n : Nat)
    (alerts heartbeat : List Call) : Prop where
  /-- The waiting alerts are published, oldest first, until one does not succeed. -/
  flushes : a.Flushes (a.classified p).outbox.items n alerts
  /-- One heartbeat is published if the data was processed without a failure, and every alert was
  published or could only not be delivered. -/
  alive : p.failure = none → (∀ c ∈ alerts, c.fatal? = none) →
    ∃ reply, heartbeat = [a.heartbeatCall reply]
  /-- Otherwise none is. -/
  silent : (p.failure ≠ none ∨ ∃ c ∈ alerts, c.fatal? ≠ none) → heartbeat = []
  /-- The message fails if and only if an alert or the heartbeat could not be published for another
  reason than that it could not be delivered, and with that error. -/
  failed : ∀ e, h.failure = some e ↔ ∃ c ∈ alerts ++ heartbeat, c.fatal? = some e
  /-- The alerts that were published are taken out of the outbox. -/
  left : h.alerter.outbox.items = (a.classified p).outbox.items.drop n
  /-- Nothing waits any longer, or the oldest alert that waits is the one that was refused. -/
  front : h.alerter.outbox.items = [] ∨ ∃ r fault, h.alerter.outbox.front? = some r ∧
    alerts.getLast? = some (a.alertCall r (.error fault))

namespace Alerter

theorem report_of_alive {a : Alerter M} {b : Broker} (h : (a.flush b).failure = none) :
    (a.report b true).calls =
      (a.flush b).calls ++ [a.heartbeatCall ((a.flush b).broker.publishReply 0)] := by
  simp only [report, h, sendHeartbeat, Broker.publish_eq]
  rfl

theorem report_of_silent {a : Alerter M} {b : Broker} {healthy : Bool}
    (h : ((a.flush b).failure.isNone && healthy) = false) :
    (a.report b healthy).calls = (a.flush b).calls := by
  simp only [report, h]
  rfl

/-- The calls that publish have no other errors than those that stop a run. -/
theorem failure?_of_answers {b : Broker} {calls : List Call} (h : b.Answers calls) :
    ∀ c ∈ calls, c.failure? = c.fatal? := by
  intro c hc
  obtain ⟨i, hi⟩ := List.mem_iff_getElem?.1 hc
  have hanswer := h i c hi
  cases c with
  | publish => rfl
  | _ => cases hanswer

/-- Publishing ends well if and only if no call stops the run, and badly with the error of the one
that does. -/
theorem ends_of_answers {b : Broker} {calls : List Call} {failure : Option AlerterError}
    (h : b.Answers calls) (hends : Ends Call.failure? calls failure) :
    (failure = none ↔ ∀ c ∈ calls, c.fatal? = none) ∧
      ∀ e, failure = some e ↔ ∃ c ∈ calls, c.fatal? = some e := by
  have herrors := failure?_of_answers h
  have hsome : ∀ e, failure = some e ↔ ∃ c ∈ calls, c.fatal? = some e := by
    intro e
    rw [hends.eq_some_iff]
    constructor
    · rintro ⟨c, hc, he⟩
      exact ⟨c, hc, herrors c hc ▸ he⟩
    · rintro ⟨c, hc, he⟩
      exact ⟨c, hc, (herrors c hc).trans he⟩
  refine ⟨?_, hsome⟩
  constructor
  · intro hnone c hc
    rw [hnone] at hends
    rw [← herrors c hc]
    exact hends.of_none c hc
  · intro hnone
    refine Option.eq_none_iff_forall_ne_some.2 fun e he => ?_
    obtain ⟨c, hc, hfatal⟩ := (hsome e).1 he
    rw [hnone c hc] at hfatal
    cases hfatal

/-- Reporting publishes the alerts that wait, and a heartbeat. -/
theorem reports_report (a : Alerter M) (b : Broker) (p : Processed M) :
    ∃ n alerts heartbeat,
      ((a.classified p).report b p.failure.isNone).calls = alerts ++ heartbeat ∧
      b.Answers (alerts ++ heartbeat) ∧
      ((a.classified p).report b p.failure.isNone).Reports a p n alerts heartbeat := by
  generalize ha : a.classified p = a'
  have hflush : a'.flush b =
      publishAlerts a.alertExchange a.routing.alertKey a'.outbox.items b := by
    rw [← ha]
    rfl
  obtain ⟨hflushes, hanswers, hbroker⟩ := a.flushes_publishAlerts a'.outbox.items b
  have hends := ends_publishAlerts a.alertExchange a.routing.alertKey a'.outbox.items b
  rw [← hflush] at hflushes hanswers hbroker hends
  have hnone := (ends_of_answers hanswers hends).1
  have hreported := ends_report a' b p.failure.isNone
  have hleft : (a'.report b p.failure.isNone).alerter.outbox =
      a'.outbox.drop (a'.flush b).delivered := by
    rw [alerter_report]
  have hitems : (a'.report b p.failure.isNone).alerter.outbox.items =
      (a.classified p).outbox.items.drop (a'.flush b).delivered := by
    rw [hleft, ha]
    rfl
  have hfront : (a'.report b p.failure.isNone).alerter.outbox.items = [] ∨ ∃ r fault,
      (a'.report b p.failure.isNone).alerter.outbox.front? = some r ∧
        (a'.flush b).calls.getLast? = some (a.alertCall r (.error fault)) := by
    rw [hleft]
    exact hflushes.left
  cases hhealthy : (a'.flush b).failure.isNone && p.failure.isNone with
  | true =>
      rw [Bool.and_eq_true, Option.isNone_iff_eq_none, Option.isNone_iff_eq_none] at hhealthy
      obtain ⟨hwell, hprocessed⟩ := hhealthy
      have hcalls : (a'.report b p.failure.isNone).calls =
          (a'.flush b).calls ++ [a.heartbeatCall ((a'.flush b).broker.publishReply 0)] := by
        rw [hprocessed, Option.isNone_none, report_of_alive hwell, ← ha]
        rfl
      have hreplies : b.Answers
          ((a'.flush b).calls ++ [a.heartbeatCall ((a'.flush b).broker.publishReply 0)]) := by
        refine hanswers.concat ?_
        rw [hbroker, Broker.publishReply_afterPublishing, Nat.add_zero]
        rfl
      rw [hcalls] at hreported
      refine ⟨_, _, _, hcalls, hreplies, {
        flushes := ha ▸ hflushes
        alive := fun _ _ => ⟨_, rfl⟩
        silent := ?_
        failed := (ends_of_answers hreplies hreported).2
        left := hitems
        front := hfront }⟩
      rintro (hfailed | ⟨c, hc, hfatal⟩)
      · exact absurd hprocessed hfailed
      · exact absurd (hnone.1 hwell c hc) hfatal
  | false =>
      have hcalls : (a'.report b p.failure.isNone).calls = (a'.flush b).calls ++ [] := by
        rw [report_of_silent hhealthy, List.append_nil]
      have hreplies : b.Answers ((a'.flush b).calls ++ []) := by
        rw [List.append_nil]
        exact hanswers
      rw [hcalls] at hreported
      refine ⟨_, _, _, hcalls, hreplies, {
        flushes := ha ▸ hflushes
        alive := ?_
        silent := fun _ => rfl
        failed := (ends_of_answers hreplies hreported).2
        left := hitems
        front := hfront }⟩
      intro hprocessed hwell
      rw [hnone.2 hwell, hprocessed] at hhealthy
      cases hhealthy

end Alerter

variable [DecidableEq M]

/-- What handling a message does to the broker. -/
structure Handled.Serves (h : Handled M) (a : Alerter M) (b : Broker) (m : Message) : Prop where
  /-- The message is acknowledged once, by its tag and before anything else; all other calls
  publish, and every call gets the reply of the broker. -/
  acknowledged : ∃ published, h.calls = .ack m.tag b.ack.1 :: published ∧ b.Answers published
  /-- If the message cannot be acknowledged nothing is published, and it fails with that error. -/
  refused : ∀ fault, b.ack.1 = .error fault →
    h.calls = [.ack m.tag (.error fault)] ∧ h.failure = some (.acknowledge fault)
  /-- Behind a configuration and behind anything unknown nothing is published. -/
  quiet : m.routingKey ≠ a.routing.dataKey → h.calls = [.ack m.tag b.ack.1]
  /-- Behind data that is acknowledged the alerts are published, and a heartbeat. -/
  reported : m.routingKey = a.routing.dataKey → b.ack.1 = .ok () →
    ∃ p n alerts heartbeat, a.family.process a.registry a.store m.payload = .ok p ∧
      h.calls = .ack m.tag (.ok ()) :: (alerts ++ heartbeat) ∧ h.Reports a p n alerts heartbeat

namespace Alerter

omit [DecidableEq M] in
theorem failure_acknowledge_of_ok {a : Alerter M} {b : Broker} {tag : Nat} (h : b.ack.1 = .ok ()) :
    (a.acknowledge b tag).failure = none := by
  simp only [acknowledge, h]

omit [DecidableEq M] in
theorem failure_acknowledge_of_error {a : Alerter M} {b : Broker} {tag : Nat} {fault : BrokerFault}
    (h : b.ack.1 = .error fault) : (a.acknowledge b tag).failure = some (.acknowledge fault) := by
  simp only [acknowledge, h]

/-- A message behind which nothing is published. -/
theorem serves_acknowledge {a : Alerter M} {b : Broker} {m : Message} (a' : Alerter M)
    (hkey : m.routingKey ≠ a.routing.dataKey) : (a'.acknowledge b m.tag).Serves a b m where
  acknowledged := ⟨[], rfl, b.answers_nil⟩
  refused := by
    intro fault hfault
    have hcalls : (a'.acknowledge b m.tag).calls = [.ack m.tag b.ack.1] := rfl
    rw [hcalls, hfault]
    exact ⟨rfl, failure_acknowledge_of_error hfault⟩
  quiet := fun _ => rfl
  reported := fun hdata => absurd hdata hkey

/-- A message with data that is processed. -/
theorem serves_handleData {a : Alerter M} {b : Broker} {m : Message} {h : Handled M}
    (hkey : m.routingKey = a.routing.dataKey) (hh : a.handleData b m = .ok h) :
    h.Serves a b m := by
  obtain ⟨p, hp, rfl⟩ := handleData_eq_ok hh
  cases hack : b.ack.1 with
  | error fault =>
      have hfailure : ((a.classified p).acknowledge b m.tag).failure = some (.acknowledge fault) :=
        failure_acknowledge_of_error hack
      have hcalls : ((a.classified p).settle b m.tag p.failure.isNone).calls =
          [.ack m.tag (.error fault)] := by
        rw [settle_of_some hfailure, ← hack]
        rfl
      constructor
      · exact ⟨[], hcalls.trans (by rw [hack]), b.answers_nil⟩
      · intro fault' hfault'
        rw [hack] at hfault'
        cases hfault'
        refine ⟨hcalls, ?_⟩
        show ((a.classified p).settle b m.tag p.failure.isNone).failure = _
        rw [settle_of_some hfailure, hfailure]
      · exact fun hother => absurd hkey hother
      · intro _ hok
        rw [hack] at hok
        cases hok
  | ok u =>
      have hfailure : ((a.classified p).acknowledge b m.tag).failure = none :=
        failure_acknowledge_of_ok hack
      have hsettle : (a.classified p).settle b m.tag p.failure.isNone = _ :=
        settle_of_none hfailure
      obtain ⟨n, alerts, heartbeat, hcalls, hanswers, hreports⟩ :=
        a.reports_report ((a.classified p).acknowledge b m.tag).broker p
      have hall : ((a.classified p).settle b m.tag p.failure.isNone).calls =
          .ack m.tag (.ok ()) :: (alerts ++ heartbeat) := by
        rw [hsettle, ← hcalls, ← hack]
        rfl
      constructor
      · exact ⟨_, hall.trans (by rw [hack]), hanswers⟩
      · intro fault hfault
        rw [hack] at hfault
        cases hfault
      · exact fun hother => absurd hkey hother
      · intro _ _
        refine ⟨p, n, alerts, heartbeat, hp, hall, ?_⟩
        rw [hsettle]
        exact { hreports with }

end Alerter

end Reporting

/-! ## Messages -/

/-- **What one message does to the broker.**  Every message that is handled makes the calls that it
ought to make, for every alerter and all replies of the broker; the only messages that are not
handled are data that cannot be processed. -/
theorem message_serves_broker {M : Type} [DecidableEq M] (a : Alerter M) (b : Broker)
    (m : Message) :
    (∃ h, a.handle b m = .ok h ∧ h.Serves a b m) ∨
    ∃ e, a.handle b m = .error e ∧ m.routingKey = a.routing.dataKey ∧
      a.family.process a.registry a.store m.payload = .error e := by
  by_cases hkey : m.routingKey = a.routing.dataKey
  · have hroute := Routing.route_eq_data_iff.2 hkey
    cases hp : a.family.process a.registry a.store m.payload with
    | error e => exact Or.inr ⟨e, Alerter.handle_of_process_error hroute hp b, hkey, rfl⟩
    | ok p =>
        obtain ⟨h, _, hh, -⟩ := Alerter.exists_handle_of_process hroute hp b
        refine Or.inl ⟨h, hh, Alerter.serves_handleData hkey ?_⟩
        rw [Alerter.handle, hroute] at hh
        exact hh
  · left
    cases hroute : a.routing.route m.routingKey with
    | data => exact absurd (Routing.route_eq_data_iff.1 hroute) hkey
    | config name =>
        exact ⟨_, by rw [Alerter.handle, hroute], Alerter.serves_acknowledge _ hkey⟩
    | unknown => exact ⟨_, by rw [Alerter.handle, hroute], Alerter.serves_acknowledge a hkey⟩

/-- **Some data is not acknowledged.**  After a window of thirty million years was accepted, the
missed blocks of a node make no call to the broker, whatever it would reply. -/
theorem missed_blocks_stay_unacknowledged :
    ∃ H : History Cosmos.Metric,
      (Alerter.new FamilyKind.cosmos.family Settings.default).history
        [⟨Cosmos.blocksWithin "1e15", .agreeing⟩] = .ok H ∧
      ¬ ∃ b h, H.alerter.handle b (Cosmos.missedBlocks 5 1700000000) = .ok h ∧
        ∃ reply, Call.ack (Cosmos.missedBlocks 5 1700000000).tag reply ∈ h.calls := by
  have hrun : ((Alerter.new FamilyKind.cosmos.family Settings.default).history
      [⟨Cosmos.blocksWithin "1e15", .agreeing⟩]).map (fun H =>
        (H.alerter.handle .agreeing (Cosmos.missedBlocks 5 1700000000)).isOk) = .ok false := by
    decide +kernel
  obtain ⟨H, hH, hfails⟩ := exists_of_map_eq_ok hrun
  refine ⟨H, hH, ?_⟩
  rintro ⟨b, h, hh, -⟩
  -- whether a message can be handled does not depend on the broker
  have hagrees :
      ∃ e, H.alerter.handle .agreeing (Cosmos.missedBlocks 5 1700000000) = .error e := by
    cases hagreeing : H.alerter.handle .agreeing (Cosmos.missedBlocks 5 1700000000) with
    | error e => exact ⟨e, rfl⟩
    | ok h => rw [hagreeing] at hfails; cases hfails
  obtain ⟨e, he⟩ := (Alerter.handle_fails_iff (b := b)).2 (Alerter.handle_fails_iff.1 hagrees)
  cases hh.symm.trans he

end NodeAlerts
