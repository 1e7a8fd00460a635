import NodeAlerts.Proofs.Seen
import NodeAlerts.Proofs.Windows

/-!
# Readings that are classified twice

Once a reading is classified the state of its metric has settled: classifying the same reading at
the same time once more leaves the state as it is.  What is found again are only the events that are
to be reported each time (`Reading.Recurs`): an error of monitoring, a condition that is reported
each time, and a critical alert that is repeated without an interval.  Counters that increased are
excepted here, as they count anew (`Reading.Accumulates`).  This is `Reading.classify_again`, which
is put together from one lemma for each rule.
-/

namespace NodeAlerts

/-! ## Occurrences -/

/-- The counters of both alarms. -/
def MetricState.counters (s : MetricState) : OccurrenceCounter × OccurrenceCounter :=
  (s.warning.occurrences, s.critical.occurrences)

/-- What a comparison has no use for: the counters, and the flag for errors of monitoring. -/
def MetricState.uncompared (s : MetricState) : (OccurrenceCounter × OccurrenceCounter) × Bool :=
  (s.counters, s.errorSent)

section Uncompared

variable (c : MetricConfig) (now : Instant)

@[simp] theorem Alarm.occurrences_observe (a : Alarm) (start : Option Instant) :
    (a.observe start).occurrences = a.occurrences := by
  cases start <;> rfl

theorem uncompared_raiseCritical (start : Option Instant) (first again : Span → Event)
    (s : MetricState) :
    (raiseCritical c start now first again s).state.uncompared = s.uncompared := by
  rcases raiseCritical_cases c start now s first again with
    ⟨-, -, -, h⟩ | ⟨-, -, h⟩ | ⟨-, h⟩
  · rw [h]
    simp [MetricState.uncompared, MetricState.counters]
  · rw [h]
    simp [MetricState.uncompared, MetricState.counters, Alarm.fire]
  · rw [h]
    simp [MetricState.uncompared, MetricState.counters]

theorem uncompared_raiseWarning (start : Option Instant) (event : Span → Event)
    (s : MetricState) :
    (raiseWarning start now event s).state.uncompared = s.uncompared := by
  rcases raiseWarning_cases start now s event with ⟨-, -, -, h⟩ | ⟨-, h⟩
  · rw [h]
    simp [MetricState.uncompared, MetricState.counters, Alarm.fire]
  · rw [h]
    simp [MetricState.uncompared, MetricState.counters]

namespace Measure

variable (m : Measure) (d : Direction) (s : MetricState)

/-- Comparing with the thresholds changes only what it has a use for. -/
theorem uncompared_classify : (m.classify c d now s).state.uncompared = s.uncompared := by
  have hclearCritical : ∀ s, (m.clearCritical c d now s).state.uncompared = s.uncompared := by
    intro s
    rcases m.clearCritical_cases c d now s with ⟨-, -, warning, rfl | rfl, h⟩ | ⟨-, h⟩
    · rw [h]
      rfl
    · rw [h]
      simp [MetricState.uncompared, MetricState.counters, Alarm.clear]
    · rw [h]
      rfl
  have hclearWarning : ∀ s, (m.clearWarning c d s).state.uncompared = s.uncompared := by
    intro s
    rcases m.clearWarning_cases c d s with ⟨-, -, h⟩ | ⟨-, h⟩
    · rw [h]
      rfl
    · rw [h]
      rfl
  have hcheckCritical : ∀ s, (m.checkCritical c d now s).state.uncompared = s.uncompared := by
    intro s
    rcases m.checkCritical_cases c d now s with ⟨-, h⟩ | h
    · rw [h]
      exact uncompared_raiseCritical ..
    · rw [h]
      rfl
  have hcheckWarning : ∀ s, (m.checkWarning c d now s).state.uncompared = s.uncompared := by
    intro s
    rcases m.checkWarning_cases c d now s with ⟨-, h⟩ | h
    · rw [h]
      exact uncompared_raiseWarning ..
    · rw [h]
      rfl
  simp only [classify, Step.state_andThen]
  rw [hcheckWarning, hcheckCritical, hclearWarning, hclearCritical]

/-- Comparing with the thresholds leaves the counters alone. -/
theorem counters_classify : (m.classify c d now s).state.counters = s.counters :=
  congrArg Prod.fst (m.uncompared_classify c now d s)

/-- Comparing with the thresholds leaves the flag for errors of monitoring alone. -/
theorem errorSent_classify : (m.classify c d now s).state.errorSent = s.errorSent :=
  congrArg Prod.snd (m.uncompared_classify c now d s)

end Measure

end Uncompared

namespace OccurrenceCounter

variable {k k' : OccurrenceCounter} {time : Instant}

theorem add_zero : k.add time 0 = k.dropStale time := by
  rw [add]
  cases k.dropStale time <;> rfl

/-- What is left after dropping is not stale. -/
theorem dropStale_dropStale (h : k.dropStale time = .ok k') : k'.dropStale time = .ok k' := by
  obtain ⟨period, entries, total⟩ := k
  simp only [dropStale] at h
  cases hcutoff : time.minus? period with
  | none => rw [hcutoff] at h; cases h
  | some cutoff =>
      rw [hcutoff] at h
      cases entries with
      | nil => cases h; simp [dropStale, hcutoff]
      | cons e rest =>
          by_cases hstale : e.1.micros < cutoff.micros
          · simp only [if_pos hstale] at h
            cases h
            simp [dropStale, hcutoff, reset]
          · simp only [if_neg hstale] at h
            cases h
            simp [dropStale, hcutoff, hstale]

end OccurrenceCounter

/-- Counting nothing again changes nothing. -/
theorem countOccurrences_zero_again {s s' t : MetricState} {now : Instant}
    (h : countOccurrences s now 0 = .ok s') (ht : t.counters = s'.counters) :
    countOccurrences t now 0 = .ok t := by
  obtain ⟨warning, critical, hw, hc, rfl⟩ := countOccurrences_eq_ok h
  obtain ⟨htw, htc⟩ := Prod.mk.inj ht
  rw [OccurrenceCounter.add_zero] at hw hc
  rw [countOccurrences, htw, htc, OccurrenceCounter.add_zero, OccurrenceCounter.add_zero,
    OccurrenceCounter.dropStale_dropStale hw, OccurrenceCounter.dropStale_dropStale hc]
  simp only at htw htc
  simp only [bind, Except.bind, pure, Except.pure, ← htw, ← htc]

/-! ## Readings -/

/-- A reading that counts anew each time it is classified: a counter that increased. -/
def Reading.Accumulates : Reading → Prop
  | .counter current previous => increase current previous ≠ 0
  | _ => False

/-- A critical alert is repeated without an interval. -/
structure MetricConfig.RepeatsAtOnce (c : MetricConfig) : Prop where
  /-- Critical alerts are raised. -/
  enabled : c.critical.enabled = true
  /-- They are repeated. -/
  repeats : c.repeats = true
  /-- There is no interval between them. -/
  interval : c.repeatInterval ≤ Span.zero

/-- A critical alert about a metric in this state is repeated without an interval. -/
structure MetricState.RepeatsAtOnce (s : MetricState) (c : MetricConfig) : Prop where
  /-- Critical alerts are raised. -/
  enabled : c.critical.enabled = true
  /-- They are repeated. -/
  repeats : c.repeats = true
  /-- There is no interval between them. -/
  interval : s.repeatGate.interval ≤ Span.zero

/-- A state keeps the interval that its configuration gave it. -/
theorem MetricState.RepeatsAtOnce.config {s : MetricState} {c : MetricConfig}
    (h : s.RepeatsAtOnce c) (hs : s.repeatGate.interval = c.repeatInterval) : c.RepeatsAtOnce :=
  ⟨h.enabled, h.repeats, hs ▸ h.interval⟩

/-- The events that are found again each time a reading is classified: an error of monitoring that
is still received, a condition that is reported each time, and a critical alert that is repeated
without an interval. -/
def Reading.Recurs (c : MetricConfig) (e : Event) : Reading → Prop
  | .gauge .. => c.RepeatsAtOnce ∧ e.severity = .critical
  | .counter .. => c.RepeatsAtOnce ∧ e.severity = .critical
  | .progress .. => c.RepeatsAtOnce ∧ e.severity = .critical
  | .downtime .. => c.RepeatsAtOnce ∧ e.severity = .critical
  | .fault tracked received message =>
    received = some tracked ∧ e = .errorRaised tracked message
  | .condition holds detail cleared =>
    holds = true ∧ e = .conditionMet c.conditionSeverity detail ∨
      holds = false ∧ ∃ text, cleared = some text ∧ e = .conditionCleared text
  | .transition .. => False

theorem Measure.severity_breached (m : Measure) (c : MetricConfig) (d : Direction)
    (severity : Severity) (age : Span) : (m.breached c d severity age).severity = severity := by
  cases m <;> rfl

/-- A rule settles a state: applied again it changes nothing, and it finds only certain events. -/
structure Settles (rule : MetricState → Step) (again : Event → Prop) (s : MetricState) : Prop where
  /-- Nothing is changed. -/
  state : (rule (rule s).state).state = (rule s).state
  /-- Only certain events are found. -/
  events : ∀ e ∈ (rule (rule s).state).events, again e

theorem Settles.mono {rule : MetricState → Step} {P Q : Event → Prop} {s : MetricState}
    (h : Settles rule P s) (hPQ : ∀ e, P e → Q e) : Settles rule Q s :=
  ⟨h.state, fun e he => hPQ e (h.events e he)⟩

section Rules

variable (c : MetricConfig) (s : MetricState)

theorem interval_of_lengths {s s' : MetricState} (h : s'.lengths = s.lengths) :
    s'.repeatGate.interval = s.repeatGate.interval :=
  congrArg (·.2.2) h

theorem settles_measure (now : Instant) (m : Measure) (d : Direction) :
    Settles (m.classify c d now) (fun e => s.RepeatsAtOnce c ∧ e.severity = .critical) s := by
  obtain ⟨hstate, hevents⟩ := Measure.classify_of_settled (m.settled_classify c d now s)
  refine ⟨hstate, fun e he => ?_⟩
  obtain ⟨henabled, hrepeats, hinterval, age, rfl⟩ := hevents e he
  rw [interval_of_lengths (Measure.lengths_classify ..)] at hinterval
  exact ⟨⟨henabled, hrepeats, hinterval⟩, m.severity_breached c d .critical age⟩

theorem settles_raiseBoth (start now : Instant) (first again event : Span → Event)
    (hagain : ∀ age, (again age).severity = .critical) :
    Settles (raiseBoth c start now first again event)
      (fun e => s.RepeatsAtOnce c ∧ e.severity = .critical) s := by
  obtain ⟨hstate, hevents⟩ := raiseBoth_of_seen c start now first again event
    (bothSeen_raiseBoth c start now first again event s)
  refine ⟨hstate, fun e he => ?_⟩
  obtain ⟨henabled, hrepeats, hinterval, age, rfl⟩ := hevents e he
  rw [interval_of_lengths (lengths_raiseBoth ..)] at hinterval
  exact ⟨⟨henabled, hrepeats, hinterval⟩, hagain age⟩

/-- Resolving settles: nothing is left to be resolved again. -/
theorem settles_clear (again : Event → Prop) (resolved : Event) :
    Settles (fun s => ⟨s.clear, if s.isClear then [] else [resolved]⟩) again s :=
  ⟨rfl, by simp [MetricState.clear, MetricState.isClear, Alarm.clear]⟩

theorem settles_stuck (now : Instant) (current : Float) (previous : Option Float) :
    Settles (classifyStuck c now current previous)
      (fun e => s.RepeatsAtOnce c ∧ e.severity = .critical) s := by
  cases previous with
  | none => exact ⟨rfl, by simp [classifyStuck]⟩
  | some previous =>
      cases hchanged : current != previous with
      | true =>
          have hrule : classifyStuck c now current (some previous) =
              fun s => ⟨s.clear, if s.isClear then [] else [.valueUpdated current]⟩ := by
            funext s
            simp only [classifyStuck, hchanged, if_true]
          rw [hrule]
          exact settles_clear ..
      | false =>
          have hrule : classifyStuck c now current (some previous) =
              raiseBoth c now now (.noChange .critical current) (.noChange .critical current)
                (.noChange .warning current) := by
            funext s
            simp only [classifyStuck, hchanged, Bool.false_eq_true, if_false]
            rfl
          rw [hrule]
          exact settles_raiseBoth c s now now _ _ _ fun _ => rfl

theorem settles_downtime (now : Instant) (wentDownAt : Option Instant) :
    Settles (classifyDowntime c now wentDownAt)
      (fun e => s.RepeatsAtOnce c ∧ e.severity = .critical) s := by
  cases wentDownAt with
  | none => exact settles_clear ..
  | some start => exact settles_raiseBoth c s start now _ _ _ fun _ => rfl

theorem settles_fault (tracked : Int) (received : Option Int) (message : String) :
    Settles (classifyFault tracked received message)
      (fun e => received = some tracked ∧ e = .errorRaised tracked message) s := by
  by_cases hreceived : received = some tracked
  · have hrule : classifyFault tracked received message =
        fun s => ⟨{ s with errorSent := true }, [.errorRaised tracked message]⟩ := by
      funext s
      rw [classifyFault, if_pos hreceived]
    rw [hrule]
    exact ⟨rfl, fun e he => ⟨hreceived, List.mem_singleton.1 he⟩⟩
  · have hrule : classifyFault tracked received message = fun s =>
        ⟨{ s with errorSent := false }, if s.errorSent then [.errorResolved] else []⟩ :=
      funext (classifyFault_of_ne hreceived message)
    rw [hrule]
    exact ⟨rfl, by simp⟩

theorem settles_condition (holds : Bool) (detail : String) (cleared : Option String) :
    Settles (classifyCondition c holds detail cleared)
      (fun e => holds = true ∧ e = .conditionMet c.conditionSeverity detail ∨
        holds = false ∧ ∃ text, cleared = some text ∧ e = .conditionCleared text) s := by
  cases holds with
  | true => exact ⟨rfl, by simp [classifyCondition]⟩
  | false =>
      cases cleared with
      | none => exact ⟨rfl, by simp [classifyCondition]⟩
      | some text => exact ⟨rfl, by simp [classifyCondition]⟩

theorem settles_transition (holds : Bool) (detail cleared : String) :
    Settles (classifyTransition c holds detail cleared) (fun _ => False) s := by
  have hquiet : ∀ t : MetricState, t.isSent c.conditionSeverity = holds →
      classifyTransition c holds detail cleared t = .quiet t := by
    intro t ht
    simp only [classifyTransition, ht]
    cases holds <;> rfl
  have hsent : (classifyTransition c holds detail cleared s).state.isSent c.conditionSeverity =
      holds := by
    simp only [classifyTransition]
    cases holds with
    | true => cases hs : s.isSent c.conditionSeverity <;> simp [hs]
    | false => cases hs : s.isSent c.conditionSeverity <;> simp [hs]
  constructor
  · rw [hquiet _ hsent]
    rfl
  · rw [hquiet _ hsent]
    simp

end Rules

/-- **A reading that is classified twice.**  Unless it is of a counter that increased, it can be
classified again, this changes nothing, and it finds only events that recur. -/
theorem Reading.classify_again {r : Reading} (hr : ¬ r.Accumulates) {c : MetricConfig}
    {now : Instant} {s : MetricState} {step : Step}
    (hs : s.repeatGate.interval = c.repeatInterval) (h : r.classify c now s = .ok step) :
    ∃ again, r.classify c now step.state = .ok again ∧ again.state = step.state ∧
      ∀ e ∈ again.events, r.Recurs c e := by
  have hrepeats : ∀ {t : MetricState}, t.repeatGate.interval = c.repeatInterval → ∀ e : Event,
      t.RepeatsAtOnce c ∧ e.severity = .critical → c.RepeatsAtOnce ∧ e.severity = .critical :=
    fun ht _ he => ⟨he.1.config ht, he.2⟩
  cases r with
  | gauge value direction windowed =>
      cases h
      have hsettles :=
        (settles_measure c s now (.value value windowed) direction).mono (hrepeats hs)
      exact ⟨_, rfl, hsettles.state, hsettles.events⟩
  | counter current previous =>
      -- what is counted is nothing, so that counting it again drops nothing more
      have hn : increase current previous = 0 := Decidable.not_not.1 hr
      obtain ⟨s₁, hs₁, h⟩ := exists_of_bind_eq_ok (x := countOccurrences ..) h
      cases h
      generalize hm : Measure.occurrences s₁.warning.occurrences.total
        s₁.critical.occurrences.total = m
      rw [hn] at hs₁
      have hcounters : (m.classify c .above now s₁).state.counters = s₁.counters :=
        Measure.counters_classify ..
      have hcount : countOccurrences (m.classify c .above now s₁).state now
          (increase current previous) = .ok (m.classify c .above now s₁).state := by
        rw [hn]
        exact countOccurrences_zero_again hs₁ hcounters
      obtain ⟨hw, hc⟩ := Prod.mk.inj hcounters
      have hs' : s₁.repeatGate.interval = c.repeatInterval :=
        (interval_of_lengths (lengths_countOccurrences hs₁)).trans hs
      have hsettles := (settles_measure c s₁ now m .above).mono (hrepeats hs')
      refine ⟨_, ?_, hsettles.state, hsettles.events⟩
      rw [classify, classifyIncrease, hcount]
      simp only [bind, Except.bind, pure, Except.pure, hw, hc, hm]
  | progress current previous =>
      cases h
      have hsettles := (settles_stuck c s now current previous).mono (hrepeats hs)
      exact ⟨_, rfl, hsettles.state, hsettles.events⟩
  | downtime wentDownAt =>
      cases h
      have hsettles := (settles_downtime c s now wentDownAt).mono (hrepeats hs)
      exact ⟨_, rfl, hsettles.state, hsettles.events⟩
  | fault tracked received message =>
      cases h
      have hsettles := settles_fault s tracked received message
      exact ⟨_, rfl, hsettles.state, hsettles.events⟩
  | condition holds detail cleared =>
      cases h
      have hsettles := settles_condition c s holds detail cleared
      exact ⟨_, rfl, hsettles.state, hsettles.events⟩
  | transition holds detail cleared =>
      cases h
      have hsettles := settles_transition c s holds detail cleared
      exact ⟨_, rfl, hsettles.state, hsettles.events⟩

end NodeAlerts
