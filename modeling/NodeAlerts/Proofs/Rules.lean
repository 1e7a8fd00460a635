import NodeAlerts.Proofs.Computation
import NodeAlerts.Rule.Reading

/-!
# What the rules can do

The rules are made of a few parts: raising a critical alert, raising a warning, clearing either, and
comparing a measure with the threshold of either.  Each part is told here once, with everything that
it can do and when (`raiseCritical_cases`, `raiseWarning_cases`, `Measure.clearCritical_cases`,
`Measure.clearWarning_cases`); what holds of a rule is derived from these cases, without a look at
how the rule computes them.
-/

namespace NodeAlerts

/-! ## Flags -/

@[simp] theorem Alarm.sent_observe (a : Alarm) (start : Option Instant) :
    (a.observe start).sent = a.sent := by
  cases start <;> rfl

@[simp] theorem MetricState.isSent_setSent (s : MetricState) (severity : Severity) (sent : Bool) :
    (s.setSent severity sent).isSent severity = sent := by
  cases severity <;> rfl

/-! ## Raising -/

section Raising

variable (c : MetricConfig) (start : Option Instant) (now : Instant) (s : MetricState)

/-- An open critical alert is repeated, a first one is sent, or the problem is only noted: because
the gate is closed, or because the window has not passed. -/
theorem raiseCritical_cases (first again : Span → Event) :
    (s.critical.sent = true ∧ c.repeats = true ∧ s.repeatGate.isOpen now = true ∧
      raiseCritical c start now first again s =
        ⟨{ s with
            critical := s.critical.observe start
            repeatGate := s.repeatGate.pass now },
          [again ((s.critical.observe start).window.elapsed now)]⟩) ∨
    (s.critical.sent = false ∧
      (start = none ∨ (s.critical.observe start).window.isDue now = true) ∧
      raiseCritical c start now first again s =
        ⟨{ s with
            critical := (s.critical.observe start).fire
            repeatGate := s.repeatGate.pass now },
          [first ((s.critical.observe start).window.elapsed now)]⟩) ∨
    ((s.critical.sent = true ∧ (c.repeats = false ∨ s.repeatGate.isOpen now = false) ∨
        s.critical.sent = false ∧ start ≠ none ∧
          (s.critical.observe start).window.isDue now = false) ∧
      raiseCritical c start now first again s =
        .quiet { s with critical := s.critical.observe start }) := by
  simp only [raiseCritical, Alarm.sent_observe]
  cases hsent : s.critical.sent with
  | true =>
      simp only [if_true]
      cases hrepeat : c.repeats && s.repeatGate.isOpen now with
      | true =>
          rw [Bool.and_eq_true] at hrepeat
          exact Or.inl ⟨trivial, hrepeat.1, hrepeat.2, rfl⟩
      | false =>
          rw [Bool.and_eq_false_iff] at hrepeat
          exact Or.inr (Or.inr ⟨Or.inl ⟨trivial, hrepeat⟩, rfl⟩)
  | false =>
      simp only [Bool.false_eq_true, if_false]
      cases hdue : start.isNone || (s.critical.observe start).window.isDue now with
      | true =>
          rw [Bool.or_eq_true, Option.isNone_iff_eq_none] at hdue
          exact Or.inr (Or.inl ⟨trivial, hdue, rfl⟩)
      | false =>
          rw [Bool.or_eq_false_iff] at hdue
          have hstart : start ≠ none := by
            rintro rfl
            cases hdue.1
          exact Or.inr (Or.inr ⟨Or.inr ⟨trivial, hstart, hdue.2⟩, rfl⟩)

/-- A warning is sent while no alert is open, or the problem is only noted. -/
theorem raiseWarning_cases (event : Span → Event) :
    (s.warning.sent = false ∧ s.critical.sent = false ∧
      (start = none ∨ (s.warning.observe start).window.isDue now = true) ∧
      raiseWarning start now event s =
        ⟨{ s with warning := (s.warning.observe start).fire },
          [event ((s.warning.observe start).window.elapsed now)]⟩) ∨
    ((s.warning.sent = true ∨ s.critical.sent = true ∨
        start ≠ none ∧ (s.warning.observe start).window.isDue now = false) ∧
      raiseWarning start now event s = .quiet { s with warning := s.warning.observe start }) := by
  simp only [raiseWarning, Alarm.sent_observe]
  cases hcond : !s.warning.sent && !s.critical.sent &&
      (start.isNone || (s.warning.observe start).window.isDue now) with
  | true =>
      simp only [Bool.and_eq_true, Bool.not_eq_true', Bool.or_eq_true,
        Option.isNone_iff_eq_none] at hcond
      exact Or.inl ⟨hcond.1.1, hcond.1.2, hcond.2, rfl⟩
  | false =>
      refine Or.inr ⟨?_, rfl⟩
      simp only [Bool.and_eq_false_iff, Bool.not_eq_false', Bool.or_eq_false_iff] at hcond
      rcases hcond with (hw | hc) | ⟨hstart, hdue⟩
      · exact Or.inl hw
      · exact Or.inr (Or.inl hc)
      · refine Or.inr (Or.inr ⟨?_, hdue⟩)
        rintro rfl
        cases hstart

end Raising

/-! ## Thresholds -/

namespace Measure

variable (m : Measure) (c : MetricConfig) (d : Direction) (now : Instant) (s : MetricState)

/-- An open critical alert whose threshold is no longer breached is cleared; the warning stays as it
is, or counts as not sent. -/
theorem clearCritical_cases :
    (s.critical.sent = true ∧ m.breaches c d .critical = false ∧
      ∃ warning : Alarm, (warning = s.warning ∨
          warning = { s.warning with sent := false }.observe (m.start now)) ∧
        m.clearCritical c d now s =
          ⟨{ s with
              warning
              critical := s.critical.clear
              repeatGate := s.repeatGate.reset }, [m.cleared c d .critical]⟩) ∨
    ((s.critical.sent = false ∨ m.breaches c d .critical = true) ∧
      m.clearCritical c d now s = .quiet s) := by
  simp only [clearCritical]
  cases hcond : s.critical.sent && !m.breaches c d .critical with
  | true =>
      rw [Bool.and_eq_true, Bool.not_eq_true'] at hcond
      refine Or.inl ⟨hcond.1, hcond.2, ?_⟩
      cases hrearm : (d = .above && c.warning.enabled && m.breaches c d .warning) with
      | true => exact ⟨_, Or.inr rfl, rfl⟩
      | false => exact ⟨_, Or.inl rfl, rfl⟩
  | false =>
      rw [Bool.and_eq_false_iff, Bool.not_eq_false'] at hcond
      exact Or.inr ⟨hcond, rfl⟩

/-- An open warning whose threshold is no longer breached is cleared. -/
theorem clearWarning_cases :
    (s.warning.sent = true ∧ m.breaches c d .warning = false ∧
      m.clearWarning c d s = ⟨{ s with warning := s.warning.clear }, [m.cleared c d .warning]⟩) ∨
    ((s.warning.sent = false ∨ m.breaches c d .warning = true) ∧
      m.clearWarning c d s = .quiet s) := by
  rw [clearWarning]
  cases hcond : s.warning.sent && !m.breaches c d .warning with
  | true =>
      rw [Bool.and_eq_true, Bool.not_eq_true'] at hcond
      exact Or.inl ⟨hcond.1, hcond.2, rfl⟩
  | false =>
      rw [Bool.and_eq_false_iff, Bool.not_eq_false'] at hcond
      exact Or.inr ⟨hcond, rfl⟩

/-- A breached threshold raises the critical alert; else its window starts anew. -/
theorem checkCritical_cases :
    (m.breaches c d .critical = true ∧
      m.checkCritical c d now s = raiseCritical c (m.start now) now (m.breached c d .critical)
        (m.breached c d .critical) s) ∨
    m.checkCritical c d now s = .quiet { s with critical := s.critical.rest } := by
  rw [checkCritical]
  cases hcond : c.critical.enabled && m.breaches c d .critical with
  | true => exact Or.inl ⟨(Bool.and_eq_true_iff.1 hcond).2, rfl⟩
  | false => exact Or.inr rfl

/-- A breached threshold raises the warning; else its window starts anew. -/
theorem checkWarning_cases :
    (m.breaches c d .warning = true ∧
      m.checkWarning c d now s = raiseWarning (m.start now) now (m.breached c d .warning) s) ∨
    m.checkWarning c d now s = .quiet { s with warning := s.warning.rest } := by
  rw [checkWarning]
  cases hcond : c.warning.enabled && m.breaches c d .warning with
  | true => exact Or.inl ⟨(Bool.and_eq_true_iff.1 hcond).2, rfl⟩
  | false => exact Or.inr rfl

end Measure

/-- Counting changes the counts of both levels, and nothing else. -/
theorem countOccurrences_eq_ok {s s' : MetricState} {now : Instant} {n : Nat}
    (h : countOccurrences s now n = .ok s') :
    ∃ warning critical, s.warning.occurrences.add now n = .ok warning ∧
      s.critical.occurrences.add now n = .ok critical ∧
      s' = { s with
        warning := { s.warning with occurrences := warning }
        critical := { s.critical with occurrences := critical } } := by
  rw [countOccurrences] at h
  obtain ⟨warning, hw, h⟩ := exists_of_bind_eq_ok h
  obtain ⟨critical, hc, h⟩ := exists_of_bind_eq_ok h
  cases h
  exact ⟨warning, critical, hw, hc, rfl⟩

/-! ## Problems with levels that are seen -/

/-- Raises a problem at both levels, first the critical alert and then the warning, each if it is
enabled.  Values that do not change and downtime are raised so. -/
def raiseBoth (c : MetricConfig) (start now : Instant) (first again event : Span → Event)
    (s : MetricState) : Step :=
  (if c.critical.enabled then raiseCritical c (some start) now first again s
    else .quiet s).andThen fun s =>
  if c.warning.enabled then raiseWarning (some start) now event s else .quiet s

theorem classifyStuck_cases (c : MetricConfig) (now : Instant) (current : Float)
    (previous : Option Float) (s : MetricState) :
    (previous = none ∧ classifyStuck c now current previous s = .quiet s) ∨
    classifyStuck c now current previous s =
      ⟨s.clear, if s.isClear then [] else [.valueUpdated current]⟩ ∨
    classifyStuck c now current previous s =
      raiseBoth c now now (.noChange .critical current) (.noChange .critical current)
        (.noChange .warning current) s := by
  cases previous with
  | none => exact Or.inl ⟨rfl, rfl⟩
  | some previous =>
      refine Or.inr ?_
      simp only [classifyStuck]
      split
      · exact Or.inl rfl
      · exact Or.inr rfl

theorem classifyDowntime_cases (c : MetricConfig) (now : Instant) (wentDownAt : Option Instant)
    (s : MetricState) :
    (wentDownAt = none ∧ classifyDowntime c now wentDownAt s =
      ⟨s.clear, if s.isClear then [] else [.backUp]⟩) ∨
    ∃ start, wentDownAt = some start ∧ classifyDowntime c now wentDownAt s =
      raiseBoth c start now (.wentDown .critical) (.stillDown .critical) (.wentDown .warning)
        s := by
  cases wentDownAt with
  | none => exact Or.inl ⟨rfl, rfl⟩
  | some start => exact Or.inr ⟨start, rfl, rfl⟩

/-- An error that is not received is resolved if it was open. -/
theorem classifyFault_of_ne {code : Int} {received : Option Int} (h : received ≠ some code)
    (message : String) (s : MetricState) :
    classifyFault code received message s =
      ⟨{ s with errorSent := false }, if s.errorSent then [.errorResolved] else []⟩ := by
  rw [classifyFault, if_neg h]
  cases hs : s.errorSent with
  | true => rfl
  | false =>
      obtain ⟨warning, critical, repeatGate, errorSent⟩ := s
      cases hs
      rfl

end NodeAlerts
