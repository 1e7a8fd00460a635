import NodeAlerts.Config.Registry
import NodeAlerts.Proofs.Rules

/-!
# Windows and intervals

* `ChainConfig.nonNegative_ofDocument`: no window or interval of a configuration that was read is
  negative.
* `Reading.lengths_classify`: classifying a reading changes no window, period or interval of the
  state of its metric.
-/

namespace NodeAlerts

/-! ## Configurations that were read -/

/-- No window or interval of the configuration of a metric is negative. -/
structure MetricConfig.NonNegative (c : MetricConfig) : Prop where
  /-- The window of warnings. -/
  warning : Span.zero ≤ c.warning.window
  /-- The window of critical alerts. -/
  critical : Span.zero ≤ c.critical.window
  /-- The interval of repeats. -/
  repeats : Span.zero ≤ c.repeatInterval

/-- No window or interval of a configuration is negative. -/
def ChainConfig.NonNegative (k : ChainConfig) : Prop :=
  ∀ name c, k.metric? name = some c → c.NonNegative

theorem Scalar.zero_le_spanOfSeconds (x : Float) : Span.zero ≤ spanOfSeconds x := by
  rw [Span.le_def]
  simp only [Span.zero, spanOfSeconds, Span.ofMillis]
  omega

theorem Scalar.zero_le_of_readSeconds {field value : String} {s : Span}
    (h : readSeconds field value = .ok s) : Span.zero ≤ s := by
  rw [readSeconds] at h
  obtain ⟨x, -, h⟩ := exists_of_bind_eq_ok h
  by_cases hx : x < 0
  · rw [if_pos hx] at h
    cases h
  · rw [if_neg hx] at h
    cases h
    exact zero_le_spanOfSeconds x

namespace MetricConfig

theorem zero_le_of_optional {fields : Json.Object} {name : String} {s : Span}
    (h : optional fields name Scalar.readSeconds Span.zero = .ok s) : Span.zero ≤ s := by
  rw [optional] at h
  cases hf : field? fields name with
  | none => rw [hf] at h; cases h; exact Int.le_refl 0
  | some text => rw [hf] at h; exact Scalar.zero_le_of_readSeconds h

theorem nonNegative_ofSection {key : String} {fields : Json.Object} {c : MetricConfig}
    (h : ofSection key fields = .ok c) : c.NonNegative := by
  rw [ofSection] at h
  obtain ⟨name, -, h⟩ := exists_of_bind_eq_ok h
  obtain ⟨parentId, -, h⟩ := exists_of_bind_eq_ok h
  obtain ⟨enabledText, -, h⟩ := exists_of_bind_eq_ok h
  obtain ⟨enabled, -, h⟩ := exists_of_bind_eq_ok h
  obtain ⟨warningEnabled, -, h⟩ := exists_of_bind_eq_ok h
  obtain ⟨warningThreshold, -, h⟩ := exists_of_bind_eq_ok h
  obtain ⟨criticalEnabled, -, h⟩ := exists_of_bind_eq_ok h
  obtain ⟨criticalThreshold, -, h⟩ := exists_of_bind_eq_ok h
  obtain ⟨repeats, -, h⟩ := exists_of_bind_eq_ok h
  obtain ⟨repeatInterval, hrepeat, h⟩ := exists_of_bind_eq_ok h
  obtain ⟨warningWindow, hwarning, h⟩ := exists_of_bind_eq_ok h
  obtain ⟨criticalWindow, hcritical, h⟩ := exists_of_bind_eq_ok h
  obtain ⟨severity, -, h⟩ := exists_of_bind_eq_ok h
  cases h
  exact ⟨zero_le_of_optional hwarning, zero_le_of_optional hcritical, zero_le_of_optional hrepeat⟩

end MetricConfig

namespace ChainConfig

theorem nonNegative_readSection {key : String} {value : Json.Value} {c : MetricConfig}
    (h : readSection key value = .ok c) : c.NonNegative := by
  unfold readSection at h
  split at h
  · exact MetricConfig.nonNegative_ofSection h
  · cases h

theorem NonNegative.insert {k : ChainConfig} (hk : k.NonNegative) {c : MetricConfig}
    (hc : c.NonNegative) :
    ({ k with metrics := k.metrics.insert c.name c } : ChainConfig).NonNegative := by
  intro name c' h
  rw [metric?, Table.get?_insert] at h
  by_cases hn : name = c.name
  · rw [if_pos hn] at h
    cases h
    exact hc
  · rw [if_neg hn] at h
    exact hk name c' h

theorem nonNegative_addSection {k k' : Option ChainConfig} {entry : String × Json.Value}
    (hk : ∀ x ∈ k, x.NonNegative) (h : addSection k entry = .ok k') :
    ∀ x ∈ k', x.NonNegative := by
  rw [addSection] at h
  obtain ⟨c, hc, h⟩ := exists_of_bind_eq_ok h
  have hc := nonNegative_readSection hc
  cases k with
  | none =>
      cases h
      intro x hx
      cases hx
      exact NonNegative.insert (k := ⟨c.parentId, ∅⟩) (fun name c' h => by cases h) hc
  | some k =>
      simp only at h
      by_cases hp : k.parentId = c.parentId
      · rw [if_pos hp] at h
        cases h
        intro x hx
        cases hx
        exact (hk k rfl).insert hc
      · rw [if_neg hp] at h
        cases h

/-- **No window of a configuration that was read is negative.** -/
theorem nonNegative_ofDocument {document : Json.Object} {k : ChainConfig}
    (h : ofDocument document = .ok (some k)) : k.NonNegative :=
  foldlM_induction (P := fun k => ∀ x ∈ k, NonNegative x)
    (fun _ _ _ hk hk' => nonNegative_addSection hk hk') _ none (some k) (fun x hx => by cases hx) h
    k rfl

end ChainConfig

/-! ## States -/

/-- The window and the period of an alarm. -/
def Alarm.lengths (a : Alarm) : Span × Span := (a.window.window, a.occurrences.period)

namespace Alarm

@[simp] theorem lengths_observe (a : Alarm) (start : Option Instant) :
    (a.observe start).lengths = a.lengths := by
  cases start with
  | none => rfl
  | some t => simp [observe, lengths]

@[simp] theorem lengths_fire (a : Alarm) : a.fire.lengths = a.lengths := by
  simp [fire, lengths]

@[simp] theorem lengths_rest (a : Alarm) : a.rest.lengths = a.lengths := rfl

@[simp] theorem lengths_clear (a : Alarm) : a.clear.lengths = a.lengths := rfl

@[simp] theorem lengths_sent (a : Alarm) (sent : Bool) :
    ({ a with sent } : Alarm).lengths = a.lengths := rfl

end Alarm

/-- The windows and periods of both alarms, and the interval of the gate. -/
def MetricState.lengths (s : MetricState) : (Span × Span) × (Span × Span) × Span :=
  (s.warning.lengths, s.critical.lengths, s.repeatGate.interval)

theorem lengths_raiseCritical (c : MetricConfig) (start : Option Instant) (now : Instant)
    (first again : Span → Event) (s : MetricState) :
    (raiseCritical c start now first again s).state.lengths = s.lengths := by
  rcases raiseCritical_cases c start now s first again with
    ⟨-, -, -, h⟩ | ⟨-, -, h⟩ | ⟨-, h⟩
  · rw [h]
    simp [MetricState.lengths]
  · rw [h]
    simp [MetricState.lengths]
  · rw [h]
    simp [MetricState.lengths]

theorem lengths_raiseWarning (start : Option Instant) (now : Instant) (event : Span → Event)
    (s : MetricState) : (raiseWarning start now event s).state.lengths = s.lengths := by
  rcases raiseWarning_cases start now s event with ⟨-, -, -, h⟩ | ⟨-, h⟩
  · rw [h]
    simp [MetricState.lengths]
  · rw [h]
    simp [MetricState.lengths]

theorem lengths_raiseBoth (c : MetricConfig) (start now : Instant)
    (first again event : Span → Event) (s : MetricState) :
    (raiseBoth c start now first again event s).state.lengths = s.lengths := by
  have hcritical : (if c.critical.enabled then raiseCritical c (some start) now first again s
      else .quiet s).state.lengths = s.lengths := by
    split
    · exact lengths_raiseCritical ..
    · rfl
  rw [raiseBoth, Step.state_andThen, ← hcritical]
  split
  · exact lengths_raiseWarning ..
  · rfl

namespace Measure

variable (m : Measure) (c : MetricConfig) (d : Direction) (now : Instant)

theorem lengths_clearCritical (s : MetricState) :
    (m.clearCritical c d now s).state.lengths = s.lengths := by
  rcases m.clearCritical_cases c d now s with
    ⟨-, -, warning, rfl | rfl, h⟩ | ⟨-, h⟩
  · rw [h]
    simp [MetricState.lengths]
  · rw [h]
    simp [MetricState.lengths]
  · rw [h]
    rfl

theorem lengths_clearWarning (s : MetricState) :
    (m.clearWarning c d s).state.lengths = s.lengths := by
  rcases m.clearWarning_cases c d s with ⟨-, -, h⟩ | ⟨-, h⟩
  · rw [h]
    simp [MetricState.lengths]
  · rw [h]
    rfl

theorem lengths_checkCritical (s : MetricState) :
    (m.checkCritical c d now s).state.lengths = s.lengths := by
  rcases m.checkCritical_cases c d now s with ⟨-, h⟩ | h
  · rw [h]
    exact lengths_raiseCritical ..
  · rw [h]
    simp [MetricState.lengths]

theorem lengths_checkWarning (s : MetricState) :
    (m.checkWarning c d now s).state.lengths = s.lengths := by
  rcases m.checkWarning_cases c d now s with ⟨-, h⟩ | h
  · rw [h]
    exact lengths_raiseWarning ..
  · rw [h]
    simp [MetricState.lengths]

theorem lengths_classify (s : MetricState) :
    (m.classify c d now s).state.lengths = s.lengths := by
  simp only [classify, Step.state_andThen]
  rw [lengths_checkWarning, lengths_checkCritical, lengths_clearWarning, lengths_clearCritical]

end Measure

theorem OccurrenceCounter.period_add {c c' : OccurrenceCounter} {time : Instant} {n : Nat}
    (h : c.add time n = .ok c') : c'.period = c.period := by
  rw [add] at h
  obtain ⟨c₁, hc₁, h⟩ := exists_of_bind_eq_ok h
  have hperiod : c₁.period = c.period := by
    rw [dropStale] at hc₁
    split at hc₁
    · cases hc₁
    · split at hc₁
      · cases hc₁
        split <;> rfl
      · cases hc₁
        rfl
  by_cases hn : n = 0
  · rw [if_pos hn] at h
    cases h
    exact hperiod
  · rw [if_neg hn] at h
    cases h
    exact hperiod

theorem lengths_countOccurrences {s s' : MetricState} {now : Instant} {n : Nat}
    (h : countOccurrences s now n = .ok s') : s'.lengths = s.lengths := by
  obtain ⟨warning, critical, hw, hc, rfl⟩ := countOccurrences_eq_ok h
  simp [MetricState.lengths, Alarm.lengths, OccurrenceCounter.period_add hw,
    OccurrenceCounter.period_add hc]

theorem lengths_clear (s : MetricState) : s.clear.lengths = s.lengths := by
  simp [MetricState.clear, MetricState.lengths]

/-- **Classifying changes no window.** -/
theorem Reading.lengths_classify {r : Reading} {c : MetricConfig} {now : Instant}
    {s : MetricState} {step : Step} (h : r.classify c now s = .ok step) :
    step.state.lengths = s.lengths := by
  cases r with
  | gauge value direction windowed => cases h; exact Measure.lengths_classify ..
  | counter current previous =>
      obtain ⟨s₁, hs₁, h⟩ := exists_of_bind_eq_ok (x := countOccurrences ..) h
      cases h
      exact (Measure.lengths_classify ..).trans (lengths_countOccurrences hs₁)
  | progress current previous =>
      cases h
      rcases classifyStuck_cases c now current previous s with ⟨-, h⟩ | h | h
      · rw [h]
        rfl
      · rw [h]
        exact lengths_clear s
      · rw [h]
        exact lengths_raiseBoth ..
  | downtime wentDownAt =>
      cases h
      rcases classifyDowntime_cases c now wentDownAt s with ⟨-, h⟩ | ⟨start, -, h⟩
      · rw [h]
        exact lengths_clear s
      · rw [h]
        exact lengths_raiseBoth ..
  | fault tracked received message =>
      cases h
      simp only [classifyFault]
      split
      · rfl
      · split <;> rfl
  | condition holds detail cleared =>
      cases h
      simp only [classifyCondition]
      split
      · rfl
      · split <;> rfl
  | transition holds detail cleared =>
      cases h
      simp only [classifyTransition]
      have hset : ∀ severity sent, (s.setSent severity sent).lengths = s.lengths := by
        intro severity sent
        cases severity <;> rfl
      split
      · exact hset ..
      · split
        · exact hset ..
        · rfl

end NodeAlerts
