import NodeAlerts.Proofs.Episodes
import NodeAlerts.Proofs.Hysteresis

/-!
# Repeated critical alerts

While a critical alert is open it is repeated as long as its problem is seen, if the configuration
says so, and not before an interval has passed since the last one.

* `CriticalTurn`: all that one reading can do about the critical alert of a metric.
* `critical_repeats_are_spaced`: in a course of readings with levels an open critical alert is
  repeated exactly when it is due, so that no two of them are closer than the interval; and without
  repeats an alert that stays open is sent once.

What carries the proof is that the gate remembers the time of the last critical alert while one is
open (`Course.Gated`).  The times of the readings are free.
-/

namespace NodeAlerts

/-! ## One reading -/

/-- The events of a severity. -/
def Step.eventsOf (step : Step) (severity : Severity) : List Event :=
  step.events.filter fun e => e.severity = severity

/-- The readings that are classified at two levels. -/
def Reading.Levelled : Reading → Prop
  | .gauge _ _ _ => True
  | .counter _ _ => True
  | .progress _ _ => True
  | .downtime _ => True
  | _ => False

/-- Whether a reading sees the problem that a critical alert is about: its threshold is breached, by
the value or by the occurrences counted in the state, the value has not changed, or the node is
down. -/
def Reading.sees (r : Reading) (c : MetricConfig) (s : MetricState) : Bool :=
  match r with
  | .progress current previous => previous.any fun previous => current == previous
  | .downtime wentDownAt => wentDownAt.isSome
  | _ => r.breaches c s .critical

/-- **What a reading does about the critical alert** of a metric, where `problem` says whether it
sees its problem. -/
inductive CriticalTurn (c : MetricConfig) (now : Instant) (problem : Bool) (s : MetricState)
    (step : Step) : Prop where
  /-- A first alert is sent. -/
  | opened (e : Event) (sent : s.critical.sent = false) (sees : problem = true)
      (enabled : c.critical.enabled = true) (sent' : step.state.critical.sent = true)
      (gate : step.state.repeatGate.last? = some now) (events : step.eventsOf .critical = [e])
  /-- The open alert is repeated. -/
  | repeated (e : Event) (sent : s.critical.sent = true) (sees : problem = true)
      (repeats : c.repeats = true) (isOpen : s.repeatGate.isOpen now = true)
      (sent' : step.state.critical.sent = true)
      (gate : step.state.repeatGate.last? = some now) (events : step.eventsOf .critical = [e])
  /-- All stays as it is, where no repeat is due. -/
  | kept (sent' : step.state.critical.sent = s.critical.sent)
      (gate : step.state.repeatGate = s.repeatGate) (events : step.eventsOf .critical = [])
      (quiet : s.critical.sent = true → c.critical.enabled = true → problem = true →
        (c.repeats && s.repeatGate.isOpen now) = false)
  /-- No alert is open afterwards, since the problem is not seen. -/
  | closed (sees : problem = false) (sent' : step.state.critical.sent = false)
      (events : step.eventsOf .critical = [])

/-- Counts do not matter for the critical alert and its gate. -/
theorem CriticalTurn.of_recount {c : MetricConfig} {now : Instant} {problem : Bool}
    {s : MetricState} {warning critical : OccurrenceCounter} {step : Step}
    (h : CriticalTurn c now problem (s.recount warning critical) step) :
    CriticalTurn c now problem s step := by
  cases h with
  | opened e sent sees enabled sent' gate events =>
      exact .opened e sent sees enabled sent' gate events
  | repeated e sent sees repeats isOpen sent' gate events =>
      exact .repeated e sent sees repeats isOpen sent' gate events
  | kept sent' gate events quiet => exact .kept sent' gate events quiet
  | closed sees sent' events => exact .closed sees sent' events

namespace CriticalTurn

variable {c : MetricConfig} {now : Instant} {problem : Bool} {s : MetricState} {step : Step}

/-- A turn sends one critical alert at most. -/
theorem length_events_le (h : CriticalTurn c now problem s step) :
    (step.eventsOf .critical).length ≤ 1 := by
  cases h with
  | opened e _ _ _ _ _ events => simp [events]
  | repeated e _ _ _ _ _ _ events => simp [events]
  | kept _ _ events _ => simp [events]
  | closed _ _ events => simp [events]

/-- Critical alerts are sent only where the problem is seen. -/
theorem sees_of_events (h : CriticalTurn c now problem s step)
    (hevents : step.eventsOf .critical ≠ []) : problem = true := by
  cases h with
  | opened e _ sees => exact sees
  | repeated e _ sees => exact sees
  | kept _ _ events _ => exact absurd events hevents
  | closed _ _ events => exact absurd events hevents

/-- An alert is opened by sending it. -/
theorem exists_event_of_opened (h : CriticalTurn c now problem s step)
    (hclosed : s.critical.sent = false) (hopen : step.state.critical.sent = true) :
    ∃ e, step.eventsOf .critical = [e] := by
  cases h with
  | opened e _ _ _ _ _ events => exact ⟨e, events⟩
  | repeated e _ _ _ _ _ _ events => exact ⟨e, events⟩
  | kept sent' => simp [sent', hclosed] at hopen
  | closed _ sent' => simp [sent'] at hopen

/-- Without repeats nothing is sent about an open alert. -/
theorem events_of_no_repeats (h : CriticalTurn c now problem s step) (hno : c.repeats = false)
    (hopen : s.critical.sent = true) : step.eventsOf .critical = [] := by
  cases h with
  | opened e sent => simp [hopen] at sent
  | repeated e _ _ repeats => simp [hno] at repeats
  | kept _ _ events _ => exact events
  | closed _ _ events => exact events

end CriticalTurn

section Optional

variable {e : Event} {severity : Severity}

theorem eventsOf_optional_of_eq (h : e.severity = severity) (found : Bool) :
    (if found then [e] else []).filter (fun e => e.severity = severity) =
      if found then [e] else [] := by
  cases found <;> simp [h]

theorem eventsOf_optional_of_ne (h : e.severity ≠ severity) (found : Bool) :
    (if found then [e] else []).filter (fun e => e.severity = severity) = [] := by
  cases found <;> simp [h]

end Optional

namespace Measure

variable (m : Measure) (c : MetricConfig) (d : Direction) (now : Instant) (s : MetricState)

theorem eventsOf_critical_classify : (m.classify c d now s).eventsOf .critical =
    if m.alertsCritical c d now s
    then [m.breached c d .critical ((m.classify c d now s).state.critical.window.elapsed now)]
    else [] := by
  have hcleared : ∀ severity, (m.cleared c d severity).severity ≠ .critical := by
    intro severity
    rw [severity_cleared]
    exact nofun
  have hwarning : ∀ age, (m.breached c d .warning age).severity ≠ .critical := by
    intro age
    rw [severity_breached]
    exact nofun
  rw [Step.eventsOf, events_classify, List.filter_append, List.filter_append, List.filter_append,
    eventsOf_optional_of_ne (hcleared _), eventsOf_optional_of_ne (hcleared _),
    eventsOf_optional_of_eq (severity_breached ..), eventsOf_optional_of_ne (hwarning _),
    List.append_nil]
  rfl

/-- A comparison with the thresholds. -/
theorem criticalTurn_classify :
    CriticalTurn c now (m.breaches c d .critical) s (m.classify c d now s) := by
  have hevents := m.eventsOf_critical_classify c d now s
  have hgate := m.repeatGate_classify c d now s
  have hsent' := m.sent_critical_classify c d now s
  cases halerts : m.alertsCritical c d now s with
  | true =>
      rw [halerts, if_pos rfl] at hevents hgate
      rw [halerts, Bool.true_or] at hsent'
      rw [alertsCritical, Bool.and_eq_true, Bool.and_eq_true] at halerts
      obtain ⟨⟨henabled, hbreached⟩, hdue⟩ := halerts
      cases hsent : s.critical.sent with
      | false =>
          exact .opened _ hsent hbreached henabled hsent' (by rw [hgate]; rfl) hevents
      | true =>
          rw [hsent, if_pos rfl, Bool.and_eq_true] at hdue
          exact .repeated _ hsent hbreached hdue.1 hdue.2 hsent' (by rw [hgate]; rfl) hevents
  | false =>
      rw [halerts, if_neg Bool.false_ne_true] at hevents hgate
      rw [halerts, Bool.false_or] at hsent'
      cases hclears : m.clearsCritical c d s with
      | true =>
          rw [hclears] at hsent'
          rw [clearsCritical, Bool.and_eq_true, Bool.not_eq_true'] at hclears
          exact .closed hclears.2 hsent' hevents
      | false =>
          rw [hclears] at hsent' hgate
          refine .kept hsent' hgate hevents fun hsent henabled hbreached => ?_
          rwa [alertsCritical, henabled, hbreached, hsent] at halerts

end Measure

/-- A problem that is seen at both levels. -/
theorem criticalTurn_raiseBoth (c : MetricConfig) (start now : Instant)
    {first again warning : Span → Event} (s : MetricState)
    (hfirst : ∀ age, (first age).severity = .critical)
    (hagain : ∀ age, (again age).severity = .critical)
    (hwarning : ∀ age, (warning age).severity = .warning) :
    CriticalTurn c now true s (raiseBoth c start now first again warning s) := by
  have hgate := repeatGate_raiseBoth c start now first again warning s
  have hsent' := congrArg Alarm.sent (critical_raiseBoth c start now first again warning s)
  have hevents : (raiseBoth c start now first again warning s).eventsOf .critical =
      if s.alertsCritical c start now
      then [(if s.critical.sent then again else first)
        ((raiseBoth c start now first again warning s).state.critical.window.elapsed now)]
      else [] := by
    rw [Step.eventsOf, events_raiseBoth, List.filter_append,
      eventsOf_optional_of_eq (by split <;> simp [hfirst, hagain]),
      eventsOf_optional_of_ne (by simp [hwarning]), List.append_nil]
  cases halerts : s.alertsCritical c start now with
  | true =>
      rw [halerts, if_pos rfl] at hevents hgate
      rw [MetricState.alertsCritical, Bool.and_eq_true] at halerts
      obtain ⟨henabled, hdue⟩ := halerts
      rw [if_pos henabled, Alarm.sent_see] at hsent'
      cases hsent : s.critical.sent with
      | false =>
          rw [MetricState.sendsCritical, hsent, if_neg Bool.false_ne_true] at hdue
          rw [hdue, Bool.not_false, Bool.and_true, Bool.or_true] at hsent'
          exact .opened _ hsent rfl henabled hsent' (by rw [hgate]; rfl) hevents
      | true =>
          rw [MetricState.sendsCritical, hsent, if_pos rfl, Bool.and_eq_true] at hdue
          rw [hsent, Bool.true_or] at hsent'
          exact .repeated _ hsent rfl hdue.1 hdue.2 hsent' (by rw [hgate]; rfl) hevents
  | false =>
      rw [halerts, if_neg Bool.false_ne_true] at hevents hgate
      rw [MetricState.alertsCritical, MetricState.sendsCritical] at halerts
      refine .kept ?_ hgate hevents fun hsent henabled _ => ?_
      · cases henabled : c.critical.enabled with
        | false => rw [hsent', henabled, if_neg Bool.false_ne_true]
        | true =>
            rw [hsent', henabled, if_pos rfl, Alarm.sent_see]
            rw [henabled, Bool.true_and] at halerts
            cases hsent : s.critical.sent with
            | true => rfl
            | false =>
                rw [hsent, if_neg Bool.false_ne_true] at halerts
                rw [halerts]
                rfl
      · rwa [henabled, hsent] at halerts

/-- A reading sees a problem that has to last if it tells so. -/
theorem Reading.Lasting.sees_eq {r : Reading} (hr : r.Lasting) (c : MetricConfig) (now : Instant)
    (s : MetricState) : r.sees c s = (r.notice? now).any fun notice => notice.start?.isSome := by
  cases r with
  | downtime wentDownAt => cases wentDownAt <;> rfl
  | progress current previous =>
      cases previous with
      | none => rfl
      | some previous =>
          show (current == previous) = _
          rw [notice?]
          cases current == previous <;> rfl
  | _ => cases hr

theorem Reading.Lasting.criticalTurn {r : Reading} (hr : r.Lasting) {c : MetricConfig}
    {now : Instant} {s : MetricState} {step : Step} (h : r.classify c now s = .ok step) :
    CriticalTurn c now (r.sees c step.state) s step := by
  rw [hr.sees_eq c now]
  rcases hr.classify_cases h with ⟨hnotice, rfl⟩ | ⟨resolution, hnotice, hresolution, rfl⟩ |
    ⟨start, first, again, warning, hnotice, hfirst, hagain, hwarning, rfl⟩
  · rw [hnotice]
    exact .kept rfl rfl rfl fun _ _ hsees => nomatch hsees
  · rw [hnotice]
    refine .closed rfl rfl ?_
    show List.filter _ (if s.isClear then [] else [resolution]) = []
    have hseverity := Event.severity_of_isResolution hresolution
    cases s.isClear <;> simp [hseverity]
  · rw [hnotice]
    exact criticalTurn_raiseBoth c start now s hfirst hagain hwarning

/-- **Every reading with levels takes such a turn.** -/
theorem Reading.Levelled.criticalTurn {r : Reading} (hr : r.Levelled) {c : MetricConfig}
    {now : Instant} {s : MetricState} {step : Step} (h : r.classify c now s = .ok step) :
    CriticalTurn c now (r.sees c step.state) s step := by
  have hcompared : ∀ {k : Comparison}, k.Reads r → r.sees c step.state =
      r.breaches c step.state .critical → CriticalTurn c now (r.sees c step.state) s step := by
    intro k hk hsees
    obtain ⟨m, warning, critical, -, rfl, hbreaches⟩ := hk.classify_eq h
    rw [hsees, ← hbreaches .critical]
    exact (m.criticalTurn_classify c k.direction now _).of_recount
  cases r with
  | gauge value direction windowed =>
      exact hcompared (k := .value direction windowed) ⟨rfl, rfl⟩ rfl
  | counter current previous => exact hcompared (k := .occurrences) trivial rfl
  | progress current previous =>
      exact Lasting.criticalTurn (r := .progress current previous) trivial h
  | downtime wentDownAt => exact Lasting.criticalTurn (r := .downtime wentDownAt) trivial h
  | _ => cases hr

/-! ## Courses -/

instance (b : Beat) (severity : Severity) : Decidable (b.Alerts severity) :=
  inferInstanceAs (Decidable (∃ e ∈ b.step.events, e.severity = severity))

theorem Beat.alerts_iff {b : Beat} {severity : Severity} :
    b.Alerts severity ↔ b.step.eventsOf severity ≠ [] := by
  rw [Step.eventsOf, ne_eq, List.filter_eq_nil_iff]
  simp [Alerts]

/-- When the last critical alert was sent, if one was. -/
def lastCritical? (past : List Beat) : Option Instant :=
  (past.filter fun b => b.Alerts .critical).getLast?.map Beat.time

theorem lastCritical?_concat_of_alerts {past : List Beat} {b : Beat} (h : b.Alerts .critical) :
    lastCritical? (past ++ [b]) = some b.time := by
  simp [lastCritical?, List.filter_append, h]

/-- Beats without a critical alert do not count. -/
theorem lastCritical?_append {past later : List Beat} (h : ∀ b ∈ later, ¬ b.Alerts .critical) :
    lastCritical? (past ++ later) = lastCritical? past := by
  have hnone : later.filter (fun b => b.Alerts .critical) = [] := by
    rw [List.filter_eq_nil_iff]
    intro b hb
    simpa using h b hb
  rw [lastCritical?, List.filter_append, hnone, List.append_nil, lastCritical?]

namespace Course

/-- Critical alerts are spaced by the interval between repeats. -/
structure Spaced (K : Course) (c : MetricConfig) : Prop where
  /-- A reading sends one critical alert at most. -/
  single : ∀ b ∈ K.beats, (b.step.eventsOf .critical).length ≤ 1
  /-- Where a critical alert is open and its problem is seen, it is repeated if the configuration
  says so and the interval has passed since the last one, and not otherwise. -/
  due : ∀ past b later, K.beats = past ++ b :: later → b.before.critical.sent = true →
    b.sighting.reading.sees c b.step.state = true →
    ∃ last, lastCritical? past = some last ∧
      (b.Alerts .critical ↔ c.repeats = true ∧ c.repeatInterval ≤ b.time.since last)
  /-- While a critical alert stays open, at least the interval lies between one and the next. -/
  apart : ∀ past y between b later, K.beats = past ++ (y :: between) ++ b :: later →
    y.Alerts .critical → b.Alerts .critical → (∀ b' ∈ between, ¬ b'.Alerts .critical) →
    (∀ b' ∈ y :: between, b'.step.state.critical.sent = true) →
    c.repeats = true ∧ c.repeatInterval ≤ b.time.since y.time
  /-- Without repeats an alert is sent once from when it is opened for as long as it stays open. -/
  once : c.repeats = false → ∀ past y during later, K.beats = past ++ (y :: during) ++ later →
    y.before.critical.sent = false → (∀ b ∈ y :: during, b.step.state.critical.sent = true) →
    ∃ e, (y :: during).flatMap (·.step.eventsOf .critical) = [e]

/-- The gate remembers when the last critical alert was sent, as long as one is open. -/
structure Gated (K : Course) (c : MetricConfig) : Prop where
  /-- Only an enabled level has open alerts. -/
  enabled : K.state.critical.sent = true → c.critical.enabled = true
  /-- An alert that is open was sent, and the gate knows when. -/
  gate : K.state.critical.sent = true →
    ∃ last, lastCritical? K.beats = some last ∧ K.state.repeatGate.last? = some last

variable {K : Course} {c : MetricConfig} {x : Sighting} {step : Step}

theorem gated_start (c : MetricConfig) : (Course.start c).Gated c :=
  ⟨fun hsent => (nomatch hsent), fun hsent => (nomatch hsent)⟩

/-- **The gate keeps remembering.** -/
theorem Gated.add (h : K.Gated c)
    (hturn : CriticalTurn c x.time (x.reading.sees c step.state) K.state step) :
    (K.add x step).Gated c := by
  have halerts : ∀ e, step.eventsOf .critical = [e] →
      lastCritical? (K.add x step).beats = some x.time := by
    intro e hevents
    refine lastCritical?_concat_of_alerts (b := ⟨x, K.state, step⟩) (Beat.alerts_iff.2 ?_)
    rw [hevents]
    exact List.cons_ne_nil e []
  cases hturn with
  | opened e _ _ enabled _ gate events =>
      exact ⟨fun _ => enabled, fun _ => ⟨x.time, halerts e events, gate⟩⟩
  | repeated e sent _ _ _ _ gate events =>
      exact ⟨fun _ => h.enabled sent, fun _ => ⟨x.time, halerts e events, gate⟩⟩
  | kept sent' gate events =>
      refine ⟨fun hsent => h.enabled (sent'.symm.trans hsent), fun hsent => ?_⟩
      obtain ⟨last, hlast, hgate⟩ := h.gate (sent'.symm.trans hsent)
      refine ⟨last, ?_, (congrArg RepeatGate.last? gate).trans hgate⟩
      have hquiet : ∀ b ∈ [Beat.mk x K.state step], ¬ b.Alerts .critical := by
        intro b hb
        rw [List.mem_singleton.1 hb, Beat.alerts_iff, ne_eq, not_not]
        exact events
      rw [← hlast]
      exact lastCritical?_append hquiet
  | closed _ sent' =>
      have hclosed : (K.add x step).state.critical.sent ≠ true := by
        rw [state_add, sent']
        exact Bool.false_ne_true
      exact ⟨fun hsent => absurd hsent hclosed, fun hsent => absurd hsent hclosed⟩

/-- **An open alert is repeated exactly when it is due.** -/
theorem Gated.alerts_iff (h : K.Gated c)
    (hinterval : K.state.repeatGate.interval = c.repeatInterval)
    (hturn : CriticalTurn c x.time (x.reading.sees c step.state) K.state step)
    (hsent : K.state.critical.sent = true) (hsees : x.reading.sees c step.state = true) :
    ∃ last, lastCritical? K.beats = some last ∧
      ((Beat.mk x K.state step).Alerts .critical ↔
        c.repeats = true ∧ c.repeatInterval ≤ x.time.since last) := by
  obtain ⟨last, hlast, hgate⟩ := h.gate hsent
  have hopen : K.state.repeatGate.isOpen x.time = true ↔
      c.repeatInterval ≤ x.time.since last := by
    rw [RepeatGate.isOpen, hgate, hinterval]
    exact decide_eq_true_iff
  refine ⟨last, hlast, ?_⟩
  rw [Beat.alerts_iff, ← hopen]
  cases hturn with
  | opened e sent => simp [hsent] at sent
  | repeated e _ _ repeats isOpen _ _ events => simp [events, repeats, isOpen]
  | kept _ _ events quiet =>
      have hquiet := quiet hsent (h.enabled hsent) hsees
      rw [Bool.and_eq_false_iff] at hquiet
      rcases hquiet with hquiet | hquiet <;> simp [events, hquiet]
  | closed sees => simp [hsees] at sees

end Course

section Runs

variable {c : MetricConfig} {xs : List Sighting} {K : Course}

/-- The alerts of a course are sent through the gate. -/
theorem gated_course (hlevels : ∀ x ∈ xs, x.reading.Levelled) (h : c.course xs = .ok K) :
    K.Gated c := by
  refine MetricConfig.course_induction (P := fun xs K => (∀ x ∈ xs, x.reading.Levelled) →
    K.Gated c) (fun _ => Course.gated_start c) ?_ xs h hlevels
  intro xs x K step _ ih hstep hlevels
  have hx : x.reading.Levelled := hlevels x (List.mem_append_right _ (List.mem_singleton_self x))
  exact (ih fun y hy => hlevels y (List.mem_append_left _ hy)).add (hx.criticalTurn hstep)

/-- Each beat of a course takes a turn. -/
theorem criticalTurn_of_beats (hlevels : ∀ x ∈ xs, x.reading.Levelled) (h : c.course xs = .ok K)
    {past later : List Beat} {b : Beat} (hbeats : K.beats = past ++ b :: later) :
    CriticalTurn c b.time (b.sighting.reading.sees c b.step.state) b.before b.step := by
  obtain ⟨earlier, others, rfl, -, hclassify⟩ := MetricConfig.exists_course_before h hbeats
  exact (hlevels b.sighting (by simp)).criticalTurn hclassify

/-- At each beat an open alert is repeated exactly when it is due. -/
theorem alerts_iff_of_beats (hlevels : ∀ x ∈ xs, x.reading.Levelled) (h : c.course xs = .ok K)
    {past later : List Beat} {b : Beat} (hbeats : K.beats = past ++ b :: later)
    (hsent : b.before.critical.sent = true)
    (hsees : b.sighting.reading.sees c b.step.state = true) :
    ∃ last, lastCritical? past = some last ∧
      (b.Alerts .critical ↔ c.repeats = true ∧ c.repeatInterval ≤ b.time.since last) := by
  have hturn := criticalTurn_of_beats hlevels h hbeats
  obtain ⟨earlier, others, rfl, hcourse, -⟩ := MetricConfig.exists_course_before h hbeats
  have hgated := gated_course (fun x hx => hlevels x (List.mem_append_left _ hx)) hcourse
  have hinterval : b.before.repeatGate.interval = c.repeatInterval :=
    congrArg (fun lengths => lengths.2.2) (MetricConfig.lengths_course hcourse)
  exact hgated.alerts_iff hinterval hturn hsent hsees

/-- A beat finds the state that the one before it left. -/
theorem before_eq_of_beats (h : c.course xs = .ok K) {past later : List Beat} {y b : Beat}
    (hbeats : K.beats = past ++ [y] ++ b :: later) : b.before = y.step.state := by
  obtain ⟨earlier, -, -, hcourse, -⟩ := MetricConfig.exists_course_before h hbeats
  rcases List.eq_nil_or_concat earlier with rfl | ⟨earlier, x, rfl⟩
  · have hstart := congrArg Course.beats (Except.ok.inj hcourse)
    exact absurd hstart.symm (by simp [Course.start])
  · rw [List.concat_eq_append] at hcourse
    obtain ⟨J, step, -, -, hJ⟩ := MetricConfig.course_concat_eq_ok hcourse
    have hlast : past ++ [y] = J.beats ++ [⟨x, J.state, step⟩] := congrArg Course.beats hJ
    have hstate : b.before = step.state := congrArg Course.state hJ
    obtain ⟨-, hy⟩ := List.append_inj' hlast rfl
    rw [hstate, (List.cons.inj hy).1]

/-- An alert that stays open is open at the next beat. -/
theorem sent_before (h : c.course xs = .ok K) {past during later : List Beat} {y b : Beat}
    (hbeats : K.beats = past ++ (y :: during) ++ b :: later)
    (hopen : ∀ b' ∈ y :: during, b'.step.state.critical.sent = true) :
    b.before.critical.sent = true := by
  obtain ⟨during', last, hlast⟩ := (List.eq_nil_or_concat (y :: during)).resolve_left
    (List.cons_ne_nil y during)
  rw [List.concat_eq_append] at hlast
  rw [hlast, ← List.append_assoc] at hbeats
  rw [before_eq_of_beats h hbeats]
  exact hopen last (by rw [hlast]; simp)

end Runs

/-- **Repeated critical alerts are spaced by the interval**, in a course of readings with levels
(over periods that start in the calendar, where occurrences are counted). -/
theorem critical_repeats_are_spaced (c : MetricConfig) (xs : List Sighting)
    (hlevels : ∀ x ∈ xs, x.reading.Levelled) (hcovers : ∀ x ∈ xs, c.Covers x) :
    ∃ K, c.course xs = .ok K ∧ K.Spaced c := by
  obtain ⟨K, hK⟩ := MetricConfig.exists_course hcovers
  refine ⟨K, hK, ?_⟩
  constructor
  case single =>
    intro b hb
    obtain ⟨past, later, hbeats⟩ := List.append_of_mem hb
    exact (criticalTurn_of_beats hlevels hK hbeats).length_events_le
  case due =>
    intro past b later hbeats hsent hsees
    exact alerts_iff_of_beats hlevels hK hbeats hsent hsees
  case apart =>
    intro past y between b later hbeats hy hb hbetween hopen
    have hsent : b.before.critical.sent = true := sent_before hK hbeats hopen
    have hsees : b.sighting.reading.sees c b.step.state = true :=
      (criticalTurn_of_beats hlevels hK hbeats).sees_of_events (Beat.alerts_iff.1 hb)
    obtain ⟨last, hlast, halerts⟩ := alerts_iff_of_beats hlevels hK hbeats hsent hsees
    have hy' : lastCritical? (past ++ y :: between) = some y.time := calc
      lastCritical? (past ++ y :: between) = lastCritical? (past ++ [y] ++ between) := by simp
      _ = lastCritical? (past ++ [y]) := lastCritical?_append hbetween
      _ = some y.time := lastCritical?_concat_of_alerts hy
    rw [hy'] at hlast
    cases hlast
    exact halerts.1 hb
  case once =>
    intro hno past y during later hbeats hclosed hopen
    have hy : K.beats = past ++ y :: (during ++ later) := by rw [hbeats]; simp
    obtain ⟨e, hevents⟩ := (criticalTurn_of_beats hlevels hK hy).exists_event_of_opened hclosed
      (hopen y List.mem_cons_self)
    have hduring : ∀ b ∈ during, b.step.eventsOf .critical = [] := by
      intro b hb
      obtain ⟨before, after, rfl⟩ := List.append_of_mem hb
      have hb' : K.beats = past ++ (y :: before) ++ b :: (after ++ later) := by rw [hbeats]; simp
      have hsent : b.before.critical.sent = true := by
        refine sent_before hK hb' fun b' hmem => hopen b' ?_
        rw [← List.cons_append]
        exact List.mem_append_left _ hmem
      exact (criticalTurn_of_beats hlevels hK hb').events_of_no_repeats hno hsent
    refine ⟨e, ?_⟩
    rw [List.flatMap_cons, hevents, List.flatMap_eq_nil_iff.2 hduring, List.append_nil]

/-- Critical alerts from two occurrences within a minute on, repeated after five seconds. -/
def insistentLevels : MetricConfig :=
  ⟨"counter", "chain_1", true, ⟨false, 0, ⟨0⟩⟩, ⟨true, 2, ⟨60000000⟩⟩, true, ⟨5000000⟩, none⟩

/-- A counter that rises by three, stays there until its period is over, and rises again. -/
def twoBursts : List Sighting :=
  [⟨⟨0⟩, .counter 3 (some 0)⟩, ⟨⟨3000000⟩, .counter 3 (some 3)⟩, ⟨⟨5000000⟩, .counter 3 (some 3)⟩,
    ⟨⟨61000000⟩, .counter 3 (some 3)⟩, ⟨⟨62000000⟩, .counter 6 (some 3)⟩]

/-- The alert is repeated after five seconds and not after three, and is sent anew when the counter
rises again, whatever the interval. -/
theorem critical_repeats_are_spaced_twoBursts :
    (∀ x ∈ twoBursts, x.reading.Levelled) ∧ (∀ x ∈ twoBursts, insistentLevels.Covers x) ∧
      ∃ K, insistentLevels.course twoBursts = .ok K ∧ K.Spaced insistentLevels ∧
        K.beats.map (fun b => (b.step.eventsOf .critical).length) = [1, 0, 1, 0, 1] := by
  have hlevels : ∀ x ∈ twoBursts, x.reading.Levelled := by
    simp [twoBursts, Reading.Levelled]
  have hcovers : ∀ x ∈ twoBursts, insistentLevels.Covers x := by
    intro x hx
    simp only [twoBursts, List.mem_cons, List.not_mem_nil, or_false] at hx
    rcases hx with rfl | rfl | rfl | rfl | rfl <;> exact fun _ => by decide
  obtain ⟨K, hK, hspaced⟩ := critical_repeats_are_spaced insistentLevels twoBursts hlevels hcovers
  have hrun : (insistentLevels.course twoBursts).map (fun K =>
      K.beats.map fun b => (b.step.eventsOf .critical).length) = .ok [1, 0, 1, 0, 1] := by
    decide +kernel
  rw [hK] at hrun
  exact ⟨hlevels, hcovers, K, hK, hspaced, Except.ok.inj hrun⟩

end NodeAlerts
