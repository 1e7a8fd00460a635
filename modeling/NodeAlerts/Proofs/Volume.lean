import Mathlib.Algebra.Ring.Nat
import NodeAlerts.Proofs.Families
import NodeAlerts.Proofs.Process
import NodeAlerts.Proofs.Rules

/-!
# How much readings can give

No reading gives more events than its rule allows (`Reading.length_events_le`), so no report gives
more findings than its readings allow (`Family.length_classifyAll_le`).  A threshold gives at most
one event for each severity: what clears an alert is that its threshold is not breached, and what
raises one is that it is.  The other rules give at most one event, because a warning is silent while
a critical alert is open.
-/

namespace NodeAlerts

/-- The most events that a rule finds at once: one for each level of a threshold. -/
def Rule.mostEvents : Rule → Nat
  | .gauge => 2
  | .counter => 2
  | _ => 1

/-- The most events that the rules of some readings find. -/
def mostEvents {M : Type} (readings : List (M × Reading)) : Nat :=
  (readings.map fun e => e.2.rule.mostEvents).sum

/-! ## Raising -/

section Rules

variable (c : MetricConfig) (now : Instant) (s : MetricState)

theorem length_raiseCritical_le (start : Option Instant) (first again : Span → Event) :
    (raiseCritical c start now first again s).events.length ≤ 1 := by
  rcases raiseCritical_cases c start now s first again with ⟨-, -, -, h⟩ | ⟨-, -, h⟩ | ⟨-, h⟩
  · rw [h]
    exact Nat.le_refl 1
  · rw [h]
    exact Nat.le_refl 1
  · rw [h]
    exact Nat.zero_le 1

theorem length_raiseWarning_le (start : Option Instant) (event : Span → Event) :
    (raiseWarning start now event s).events.length ≤ 1 := by
  rcases raiseWarning_cases start now s event with ⟨-, -, -, h⟩ | ⟨-, h⟩
  · rw [h]
    exact Nat.le_refl 1
  · rw [h]
    exact Nat.zero_le 1

/-- A critical alert is open after any event about it. -/
theorem critical_of_raiseCritical (start : Option Instant) (first again : Span → Event) :
    (raiseCritical c start now first again s).events = [] ∨
      (raiseCritical c start now first again s).state.critical.sent = true := by
  rcases raiseCritical_cases c start now s first again with
    ⟨hsent, -, -, h⟩ | ⟨-, -, h⟩ | ⟨-, h⟩
  · rw [h]
    exact Or.inr ((Alarm.sent_observe ..).trans hsent)
  · rw [h]
    exact Or.inr rfl
  · rw [h]
    exact Or.inl rfl

/-- A warning is silent while a critical alert is open. -/
theorem events_raiseWarning_of_critical {s : MetricState} (hc : s.critical.sent = true)
    (start : Option Instant) (event : Span → Event) :
    (raiseWarning start now event s).events = [] := by
  rcases raiseWarning_cases start now s event with ⟨-, hclear, -, -⟩ | ⟨-, h⟩
  · rw [hc] at hclear
    cases hclear
  · rw [h]
    rfl

/-- A problem that is seen gives one event at most. -/
theorem length_raiseBoth_le (start : Instant) (first again event : Span → Event) :
    (raiseBoth c start now first again event s).events.length ≤ 1 := by
  have hwarning : ∀ s : MetricState, (if c.warning.enabled then
      raiseWarning (some start) now event s else .quiet s).events.length ≤ 1 := by
    intro s
    split
    · exact length_raiseWarning_le now s (some start) event
    · exact Nat.zero_le 1
  rw [raiseBoth, Step.events_andThen, List.length_append]
  split
  · rcases critical_of_raiseCritical c now s (some start) first again with h | hsent
    · rw [h, List.length_nil, Nat.zero_add]
      exact hwarning _
    · have hsilent : (if c.warning.enabled then raiseWarning (some start) now event
          (raiseCritical c (some start) now first again s).state else
            .quiet (raiseCritical c (some start) now first again s).state).events = [] := by
        split
        · exact events_raiseWarning_of_critical now hsent (some start) event
        · rfl
      rw [hsilent]
      exact length_raiseCritical_le c now s (some start) first again
  · rw [Step.events_quiet, List.length_nil, Nat.zero_add]
    exact hwarning _

/-! ## Thresholds -/

namespace Measure

variable (m : Measure) (d : Direction)

/-- A critical alert is cleared or raised, not both. -/
theorem length_critical_le (s s' : MetricState) :
    (m.clearCritical c d now s).events.length + (m.checkCritical c d now s').events.length ≤ 1 := by
  rcases m.clearCritical_cases c d now s with ⟨-, hbelow, warning, -, hclear⟩ | ⟨-, hclear⟩
  · rcases m.checkCritical_cases c d now s' with ⟨hover, -⟩ | hcheck
    · rw [hbelow] at hover
      cases hover
    · rw [hclear, hcheck]
      exact Nat.le_refl 1
  · rcases m.checkCritical_cases c d now s' with ⟨-, hcheck⟩ | hcheck
    · rw [hclear, hcheck, Step.events_quiet, List.length_nil, Nat.zero_add]
      exact length_raiseCritical_le ..
    · rw [hclear, hcheck]
      exact Nat.zero_le 1

/-- A warning is cleared or raised, not both. -/
theorem length_warning_le (s s' : MetricState) :
    (m.clearWarning c d s).events.length + (m.checkWarning c d now s').events.length ≤ 1 := by
  rcases m.clearWarning_cases c d s with ⟨-, hbelow, hclear⟩ | ⟨-, hclear⟩
  · rcases m.checkWarning_cases c d now s' with ⟨hover, -⟩ | hcheck
    · rw [hbelow] at hover
      cases hover
    · rw [hclear, hcheck]
      exact Nat.le_refl 1
  · rcases m.checkWarning_cases c d now s' with ⟨-, hcheck⟩ | hcheck
    · rw [hclear, hcheck, Step.events_quiet, List.length_nil, Nat.zero_add]
      exact length_raiseWarning_le ..
    · rw [hclear, hcheck]
      exact Nat.zero_le 1

/-- A measure gives at most one event for each severity. -/
theorem length_classify_le : (m.classify c d now s).events.length ≤ 2 := by
  have hcritical := m.length_critical_le c now d s
    (m.clearWarning c d (m.clearCritical c d now s).state).state
  have hwarning := m.length_warning_le c now d (m.clearCritical c d now s).state
    (m.checkCritical c d now (m.clearWarning c d (m.clearCritical c d now s).state).state).state
  simp only [classify, Step.events_andThen, List.length_append]
  omega

end Measure

/-! ## Readings -/

theorem length_resolved_le (e : Event) : (if s.isClear then [] else [e]).length ≤ 1 := by
  split
  · exact Nat.zero_le 1
  · exact Nat.le_refl 1

end Rules

/-- **No reading gives more events than its rule allows.** -/
theorem Reading.length_events_le {r : Reading} {c : MetricConfig} {now : Instant}
    {s : MetricState} {step : Step} (h : r.classify c now s = .ok step) :
    step.events.length ≤ r.rule.mostEvents := by
  cases r with
  | gauge value direction windowed =>
      cases h
      exact Measure.length_classify_le ..
  | counter current previous =>
      obtain ⟨s₁, -, h⟩ := exists_of_bind_eq_ok (x := countOccurrences ..) h
      cases h
      exact Measure.length_classify_le ..
  | progress current previous =>
      cases h
      rcases classifyStuck_cases c now current previous s with ⟨-, h⟩ | h | h
      · rw [h]
        exact Nat.zero_le 1
      · rw [h]
        exact length_resolved_le ..
      · rw [h]
        exact length_raiseBoth_le ..
  | downtime wentDownAt =>
      cases h
      rcases classifyDowntime_cases c now wentDownAt s with ⟨-, h⟩ | ⟨start, -, h⟩
      · rw [h]
        exact length_resolved_le ..
      · rw [h]
        exact length_raiseBoth_le ..
  | fault tracked received message =>
      cases h
      rw [classifyFault]
      split
      · exact Nat.le_refl 1
      · split
        · exact Nat.le_refl 1
        · exact Nat.zero_le 1
  | condition holds detail cleared =>
      cases h
      simp only [classifyCondition]
      split
      · exact Nat.le_refl 1
      · split
        · exact Nat.le_refl 1
        · exact Nat.zero_le 1
  | transition holds detail cleared =>
      cases h
      simp only [classifyTransition]
      split
      · exact Nat.le_refl 1
      · split
        · exact Nat.le_refl 1
        · exact Nat.zero_le 1

/-! ## Reports -/

namespace Family

variable {M : Type} [DecidableEq M] {f : Family M} {k : ChainConfig} {origin : Origin}
  {now : Instant}

theorem length_classifyOne_le {node : NodeState M} {m : M} {r : Reading} {b : Batch M}
    (h : f.classifyOne k origin now node m r = .ok b) :
    b.findings.length ≤ r.rule.mostEvents := by
  rcases classifyOne_cases h with ⟨-, rfl⟩ | ⟨c, -, -, rfl⟩ | ⟨c, s, step, -, -, hstep, rfl⟩
  · exact Nat.zero_le _
  · exact Nat.zero_le _
  · simpa using Reading.length_events_le hstep

/-- **No report gives more findings than its readings allow.** -/
theorem length_classifyAll_le :
    ∀ (readings : List (M × Reading)) (node : NodeState M) (b : Batch M),
      f.classifyAll k origin now readings node = .ok b →
      b.findings.length ≤ mostEvents readings := by
  intro readings
  induction readings with
  | nil => intro node b h; cases h; exact Nat.le_refl 0
  | cons e rest ih =>
      obtain ⟨m, r⟩ := e
      intro node b h
      obtain ⟨one, hone, hend | ⟨others, hothers, rfl⟩⟩ := classifyAll_cons h
      · have hle := length_classifyOne_le hone
        simp only [hend.2, mostEvents, List.map_cons, List.sum_cons]
        omega
      · have hle := length_classifyOne_le hone
        have hrest := ih one.node others hothers
        simp only [mostEvents, List.map_cons, List.sum_cons, List.length_append] at hrest ⊢
        omega

end Family

end NodeAlerts
