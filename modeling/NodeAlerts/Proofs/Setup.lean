import NodeAlerts.Proofs.Delivery
import NodeAlerts.Proofs.Update

/-!
# What no message changes

The family, the exchanges and the capacity of an alerter are set when it is assembled: no message
changes them (`Alerter.sameSetup_handle`), so all rounds of a history have those of its start
(`Alerter.sameSetup_of_mem_rounds`).
-/

namespace NodeAlerts.Alerter

variable {M : Type} [DecidableEq M]

/-- What handling a message never changes: the family, the exchanges and the capacity. -/
structure SameSetup (a a' : Alerter M) : Prop where
  /-- The family. -/
  family : a'.family = a.family
  /-- The exchange for alerts. -/
  alertExchange : a'.alertExchange = a.alertExchange
  /-- The exchange for heartbeats. -/
  healthExchange : a'.healthExchange = a.healthExchange
  /-- The capacity of the outbox. -/
  capacity : a'.outbox.capacity = a.outbox.capacity

omit [DecidableEq M] in
/-- Keys are read alike. -/
theorem SameSetup.route_eq {a a' : Alerter M} (h : a.SameSetup a') (key : String) :
    a'.routing.route key = a.routing.route key := by
  rw [routing, routing, h.family]

theorem sameSetup_handle {a : Alerter M} {b : Broker} {m : Message} {h : Handled M}
    (hh : a.handle b m = .ok h) : a.SameSetup h.alerter := by
  rcases handle_cases hh with ⟨-, hd⟩ | ⟨name, -, rfl⟩ | ⟨-, rfl⟩
  · obtain ⟨p, -, rfl⟩ := handleData_eq_ok hd
    obtain ⟨n, -, ha, -⟩ := settle_eq (a.classified p) b m.tag p.failure.isNone
    exact ⟨by rw [ha]; rfl, by rw [ha]; rfl, by rw [ha]; rfl, by
      rw [ha]
      exact Outbox.capacity_pushAll _ _⟩
  · rw [alerter_acknowledge, applyConfig_eq]
    exact ⟨rfl, rfl, rfl, rfl⟩
  · exact ⟨rfl, rfl, rfl, rfl⟩

theorem sameSetup_history {a : Alerter M} {turns : List Turn} {H : History M}
    (h : a.history turns = .ok H) : a.SameSetup H.alerter := by
  let P (H : History M) : Prop := a.SameSetup H.alerter
  have hP : P H := by
    refine history_induction h ⟨rfl, rfl, rfl, rfl⟩ fun K t handled hK hh => ?_
    have hstep := sameSetup_handle hh
    exact ⟨hstep.family.trans hK.family, hstep.alertExchange.trans hK.alertExchange,
      hstep.healthExchange.trans hK.healthExchange, hstep.capacity.trans hK.capacity⟩
  exact hP

/-- What the rounds of a history have in common with its start. -/
theorem sameSetup_of_mem_rounds {a : Alerter M} {turns : List Turn} {H : History M}
    (h : a.history turns = .ok H) {r : Round M} (hr : r ∈ H.rounds) : a.SameSetup r.before := by
  obtain ⟨⟨earlier, K, hK, hbefore⟩, -⟩ := history_of_mem_rounds h hr
  exact hbefore ▸ sameSetup_history hK

end NodeAlerts.Alerter
