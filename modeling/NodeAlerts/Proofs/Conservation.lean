import Mathlib.Data.List.Basic
import NodeAlerts.Proofs.Setup

/-!
# No alert is lost, doubled or reordered

Alerts leave the outbox in two ways: a call delivers them, or a full outbox drops them to take newer
ones.  `Handled.departures` lists the alerts that left while a message was handled, in the order in
which they left.  Over any history the alerts found are the departed ones followed by the waiting
ones (`findings_eq_departures_append_items`): the alert that leaves as number `k` is the one that
was found as number `k`, so none is skipped, and none leaves twice or early.
-/

namespace NodeAlerts

/-- How an alert left the outbox. -/
inductive Fate where
  /-- A call delivered it. -/
  | delivered
  /-- A full outbox dropped it. -/
  | dropped
  deriving Repr, DecidableEq

/-- An alert that left the outbox. -/
structure Departure where
  /-- The alert. -/
  alert : Record
  /-- How it left. -/
  fate : Fate

/-- The alerts that left the outbox while a message was handled, in order: room is made before
anything is published. -/
def Handled.departures {M : Type} (h : Handled M) : List Departure :=
  h.dropped.map (⟨·, .dropped⟩) ++ (h.calls.filterMap Call.alert?).map (⟨·.2.2, .delivered⟩)

namespace History

variable {M : Type}

/-- The alerts that left the outbox so far, in order. -/
def departures (H : History M) : List Departure := H.rounds.flatMap (·.handled.departures)

/-- The alerts that were dropped so far, in order. -/
def dropped (H : History M) : List Record := H.rounds.flatMap (·.handled.dropped)

@[simp] theorem findings_start (a : Alerter M) : (start a).findings = [] := rfl

@[simp] theorem departures_start (a : Alerter M) : (start a).departures = [] := rfl

@[simp] theorem findings_add (H : History M) (t : Turn) (h : Handled M) :
    (H.add t h).findings = H.findings ++ h.findings := by
  simp [findings, add]

@[simp] theorem departures_add (H : History M) (t : Turn) (h : Handled M) :
    (H.add t h).departures = H.departures ++ h.departures := by
  simp [departures, add]

end History

/-! ## One message -/

namespace Outbox

universe u

variable {α : Type u}

theorem length_displaced (o : Outbox α) : o.displaced.length = o.items.length + 1 - o.capacity := by
  have hle := o.length_le
  have hpos := o.capacity_pos
  unfold displaced isFull size
  split
  · rename_i h
    simp only [decide_eq_true_eq] at h
    simp only [List.length_take]
    omega
  · rename_i h
    simp only [decide_eq_true_eq] at h
    simp only [List.length_nil]
    omega

/-- Only the excess over the capacity is dropped. -/
theorem length_pushAll (o : Outbox α) (as : List α) :
    (o.pushAll as).1.length = o.items.length + as.length - o.capacity := by
  induction as generalizing o with
  | nil =>
      have hle := o.length_le
      simp only [pushAll, List.length_nil]
      omega
  | cons a as ih =>
      have hitems := congrArg List.length (displaced_append_retained o)
      have hdisp := length_displaced o
      simp only [List.length_append] at hitems
      simp only [pushAll, List.length_append, List.length_cons, ih, push,
        List.length_nil]
      omega

end Outbox

variable {M : Type} [DecidableEq M]

namespace Alerter

omit [DecidableEq M] in
theorem outbox_applyConfig (a : Alerter M) (name : String) (payload : List UInt8) :
    (a.applyConfig name payload).outbox = a.outbox := by
  rw [applyConfig_eq]

/-- **One message.**  What waited and what was found is what left and what waits now. -/
theorem items_append_findings {a : Alerter M} {b : Broker} {m : Message} {h : Handled M}
    (hh : a.handle b m = .ok h) :
    a.outbox.items ++ h.findings.map a.family.record =
      h.departures.map (·.alert) ++ h.alerter.outbox.items := by
  rcases handle_cases hh with ⟨-, hd⟩ | ⟨name, -, rfl⟩ | ⟨-, rfl⟩
  · obtain ⟨p, -, rfl⟩ := handleData_eq_ok hd
    obtain ⟨n, hn, ha, hcalls⟩ := settle_eq (a.classified p) b m.tag p.failure.isNone
    have hpush := Outbox.pushAll_items a.outbox (p.findings.map a.family.record)
    simp only [Handled.departures, hcalls, ha, List.map_append, List.map_map, Function.comp_def,
      List.map_id', List.append_assoc, Outbox.items_drop, List.take_append_drop]
    exact hpush.symm
  · simp [Handled.departures, outbox_applyConfig, acknowledge]
  · simp [Handled.departures, acknowledge]

/-- Every alert is published under the exchange and the key for alerts. -/
theorem alerts_handle {a : Alerter M} {b : Broker} {m : Message} {h : Handled M}
    (hh : a.handle b m = .ok h) :
    h.calls.filterMap Call.alert? =
      ((h.calls.filterMap Call.alert?).map (·.2.2)).map
        fun alert => (a.alertExchange, a.routing.alertKey, alert) := by
  rcases handle_cases hh with ⟨-, hd⟩ | ⟨name, -, rfl⟩ | ⟨-, rfl⟩
  · obtain ⟨p, -, rfl⟩ := handleData_eq_ok hd
    obtain ⟨n, -, -, hcalls⟩ := settle_eq (a.classified p) b m.tag p.failure.isNone
    simp only [hcalls, List.map_map]
    rfl
  · rfl
  · rfl

theorem length_dropped_handle {a : Alerter M} {b : Broker} {m : Message} {h : Handled M}
    (hh : a.handle b m = .ok h) :
    h.dropped.length = a.outbox.items.length + h.findings.length - a.outbox.capacity := by
  have hle := a.outbox.length_le
  rcases handle_cases hh with ⟨-, hd⟩ | ⟨name, -, rfl⟩ | ⟨-, rfl⟩
  · obtain ⟨p, -, rfl⟩ := handleData_eq_ok hd
    simp only [Outbox.length_pushAll, List.length_map]
  · simp only [acknowledge, List.length_nil]
    omega
  · simp only [acknowledge, List.length_nil]
    omega

end Alerter

namespace Handled

omit [DecidableEq M] in
/-- The departures by delivery are what the calls delivered. -/
theorem delivered_departures (h : Handled M) :
    (h.departures.filter (·.fate = .delivered)).map (·.alert) =
      (h.calls.filterMap Call.alert?).map (·.2.2) := by
  have hdropped : (h.dropped.map (⟨·, .dropped⟩ : Record → Departure)).filter
      (·.fate = .delivered) = [] :=
    List.filter_eq_nil_iff.2 (by simp)
  have hdelivered : ∀ l : List (String × String × Record),
      (l.map fun d => (⟨d.2.2, .delivered⟩ : Departure)).filter (·.fate = .delivered) =
        l.map fun d => ⟨d.2.2, .delivered⟩ := by
    intro l
    refine List.filter_eq_self.2 fun d hd => ?_
    obtain ⟨c, -, rfl⟩ := List.mem_map.1 hd
    rfl
  rw [departures, List.filter_append, hdropped, hdelivered, List.nil_append, List.map_map]
  rfl

omit [DecidableEq M] in
/-- The departures by dropping are what the outbox dropped. -/
theorem dropped_departures (h : Handled M) :
    (h.departures.filter (·.fate = .dropped)).map (·.alert) = h.dropped := by
  have hdropped : (h.dropped.map (⟨·, .dropped⟩ : Record → Departure)).filter
      (·.fate = .dropped) = h.dropped.map (⟨·, .dropped⟩) :=
    List.filter_eq_self.2 (by simp)
  have hdelivered : ∀ l : List (String × String × Record),
      (l.map fun d => (⟨d.2.2, .delivered⟩ : Departure)).filter (·.fate = .dropped) = [] := by
    intro l
    refine List.filter_eq_nil_iff.2 fun d hd => ?_
    obtain ⟨c, -, rfl⟩ := List.mem_map.1 hd
    simp
  rw [departures, List.filter_append, hdropped, hdelivered, List.append_nil, List.map_map]
  exact List.map_id _

end Handled

/-! ## Histories -/

namespace Alerter

/-- **The law of the outbox.**  The alerts found so far are those that left, followed by those that
wait. -/
theorem findings_eq_departures_append_items {a : Alerter M} {turns : List Turn} {H : History M}
    (h : a.history turns = .ok H) (hempty : a.outbox.items = []) :
    H.findings.map a.family.record = H.departures.map (·.alert) ++ H.alerter.outbox.items := by
  let P (H : History M) : Prop := H.alerter.family = a.family ∧
    H.findings.map a.family.record = H.departures.map (·.alert) ++ H.alerter.outbox.items
  have hP : P H := by
    refine history_induction h ⟨rfl, hempty.symm⟩ ?_
    rintro K t handled ⟨hfamily, hlaw⟩ hh
    refine ⟨(sameSetup_handle hh).family.trans hfamily, ?_⟩
    have hone := items_append_findings hh
    rw [hfamily] at hone
    calc (K.add t handled).findings.map a.family.record
        = K.departures.map (·.alert) ++
            (K.alerter.outbox.items ++ handled.findings.map a.family.record) := by
          rw [History.findings_add, List.map_append, hlaw, List.append_assoc]
      _ = K.departures.map (·.alert) ++
            (handled.departures.map (·.alert) ++ handled.alerter.outbox.items) := by rw [hone]
      _ = (K.add t handled).departures.map (·.alert) ++ (K.add t handled).alerter.outbox.items := by
          rw [History.departures_add, List.map_append, List.append_assoc]
          rfl
  exact hP.2

/-- What was delivered so far are the departures by delivery, in order, all under the exchange and
the key for alerts. -/
theorem alerts_history {a : Alerter M} {turns : List Turn} {H : History M}
    (h : a.history turns = .ok H) :
    H.calls.filterMap Call.alert? =
      (H.departures.filter (·.fate = .delivered)).map
        fun d => (a.alertExchange, a.routing.alertKey, d.alert) := by
  have hround : ∀ r ∈ H.rounds, r.handled.calls.filterMap Call.alert? =
      (r.handled.departures.filter (·.fate = .delivered)).map
        fun d => (a.alertExchange, a.routing.alertKey, d.alert) := by
    intro r hr
    have hsetup := sameSetup_of_mem_rounds h hr
    have hcalls := alerts_handle (history_of_mem_rounds h hr).2
    rw [hsetup.alertExchange, routing, hsetup.family, ← Handled.delivered_departures,
      List.map_map] at hcalls
    exact hcalls
  rw [History.calls, History.departures, List.filterMap_flatMap, List.filter_flatMap,
    List.map_flatMap]
  exact List.flatMap_congr hround

end Alerter

/-- **No alert is lost, doubled or reordered.**  Over any history of a fresh alerter the alerts
found are the departed ones followed by the waiting ones, of which there are never more than fit.
The departures by delivery are exactly the alerts that calls delivered, in the order in which they
were found; the other departures were dropped, and a message drops no more than its excess over the
capacity of the outbox. -/
theorem alerts_conserved (f : Family M) (settings : Settings) (turns : List Turn) {H : History M}
    (h : (Alerter.new f settings).history turns = .ok H) :
    H.findings.map f.record = H.departures.map (·.alert) ++ H.alerter.outbox.items ∧
    H.alerter.outbox.items.length ≤ max settings.outboxCapacity 1 ∧
    H.calls.filterMap Call.alert? =
      (H.departures.filter (·.fate = .delivered)).map
        (fun d => (settings.broker.alertExchange, (⟨f.name⟩ : Routing).alertKey, d.alert)) ∧
    ((H.calls.filterMap Call.alert?).map (·.2.2)).Sublist (H.departures.map (·.alert)) ∧
    H.dropped = (H.departures.filter (·.fate = .dropped)).map (·.alert) ∧
    ∀ r ∈ H.rounds, r.handled.dropped.length =
      r.before.outbox.items.length + r.handled.findings.length - max settings.outboxCapacity 1 := by
  have hsetup := Alerter.sameSetup_history h
  have hcalls := Alerter.alerts_history h
  refine ⟨Alerter.findings_eq_departures_append_items h rfl, ?_, hcalls, ?_, ?_, ?_⟩
  · have hcapacity : H.alerter.outbox.capacity = max settings.outboxCapacity 1 := hsetup.capacity
    rw [← hcapacity]
    exact H.alerter.outbox.length_le
  · rw [hcalls, List.map_map]
    exact List.Sublist.map (fun d : Departure => d.alert) List.filter_sublist
  · rw [History.dropped, History.departures, List.filter_flatMap, List.map_flatMap]
    exact List.flatMap_congr fun r _ => (Handled.dropped_departures r.handled).symm
  · intro r hr
    have hcapacity : r.before.outbox.capacity = max settings.outboxCapacity 1 :=
      (Alerter.sameSetup_of_mem_rounds h hr).capacity
    rw [← hcapacity]
    exact Alerter.length_dropped_handle (Alerter.history_of_mem_rounds h hr).2

/-- Three values of a node while the broker fails in every way: it does not deliver, refuses to
acknowledge, and loses its connection after one delivery. -/
def troubled : List Turn :=
  [⟨Sample.configuration, .agreeing⟩, ⟨Sample.measurement 8 1, .rejecting 1⟩,
    ⟨Sample.measurement 5 2, { Broker.agreeing with acks := [.error .notConnected] }⟩,
    ⟨Sample.measurement 1 3, { Broker.agreeing with publishes := [.ok (), .error .transport] }⟩]

/-- Of the four alerts of this history two are dropped, one is delivered, and one waits. -/
theorem alerts_conserved_troubled :
    ∃ H, (Alerter.new Sample.family (Sample.settings 2)).history troubled = .ok H ∧
      H.departures.map (·.fate) = [.dropped, .dropped, .delivered] ∧
      H.findings.map Sample.family.record =
        H.departures.map (·.alert) ++ H.alerter.outbox.items ∧
      H.alerter.outbox.items.length = 1 := by
  have hrun : ((Alerter.new Sample.family (Sample.settings 2)).history troubled).map
      (fun H => (H.departures.map (·.fate), H.alerter.outbox.items.length)) =
        .ok ([.dropped, .dropped, .delivered], 1) := by decide +kernel
  obtain ⟨H, hH, hfates⟩ := exists_of_map_eq_ok hrun
  obtain ⟨hfate, hlength⟩ := Prod.mk.inj hfates
  exact ⟨H, hH, hfate, (alerts_conserved Sample.family (Sample.settings 2) troubled hH).1, hlength⟩

end NodeAlerts
