import NodeAlerts.Proofs.Rules

/-!
# Problems that were seen

For each way to raise an alert there is a predicate that says that the problem was seen at a time
(`MetricState.CriticalSeen`, `MetricState.WarningSeen`).  Raising brings it about, whatever the
state was before, and where it holds raising at the same time changes nothing: a warning is not sent
again, and a critical alert is at most repeated, and this only without an interval.

The same is derived for both levels of a problem (`raiseBoth_of_seen`), and for a measure that is
compared with the thresholds (`Measure.classify_of_settled`).
-/

namespace NodeAlerts

/-! ## Alarms -/

namespace Alarm

/-- A problem is first seen once. -/
@[simp] theorem observe_observe (a : Alarm) (start : Option Instant) :
    (a.observe start).observe start = a.observe start := by
  cases start with
  | none => rfl
  | some t =>
      obtain ⟨sent, ⟨window, phase⟩, occurrences⟩ := a
      cases phase <;> rfl

/-- Once an alert is sent its problem is known. -/
@[simp] theorem observe_fire (a : Alarm) (start : Option Instant) :
    (a.observe start).fire.observe start = (a.observe start).fire := by
  cases start with
  | none => rfl
  | some t =>
      obtain ⟨sent, ⟨window, phase⟩, occurrences⟩ := a
      cases phase <;> rfl

end Alarm

namespace RepeatGate

theorem pass_of_last? {g : RepeatGate} {now : Instant} (h : g.last? = some now) :
    g.pass now = g := by
  rw [pass, ← h]

/-- Just after it was passed, a gate is open if its interval is not positive. -/
theorem interval_le_of_isOpen {g : RepeatGate} {now : Instant} (h : g.last? = some now)
    (hopen : g.isOpen now = true) : g.interval ≤ Span.zero := by
  rw [isOpen, h] at hopen
  simpa [Instant.since, Span.zero] using hopen

end RepeatGate

/-! ## Raising -/

namespace MetricState

/-- The problem of a critical alert was seen at `now`: its start is noted, an alert that is not sent
has to wait, and the gate is closed or was passed just now. -/
structure CriticalSeen (s : MetricState) (c : MetricConfig) (start : Option Instant)
    (now : Instant) : Prop where
  /-- The start is noted. -/
  observed : s.critical.observe start = s.critical
  /-- An alert that is not sent has to wait. -/
  waiting : s.critical.sent = false → start ≠ none ∧ s.critical.window.isDue now = false
  /-- An alert that may be repeated was sent just now. -/
  gate : s.critical.sent = true → c.repeats = true → s.repeatGate.isOpen now = true →
    s.repeatGate.last? = some now

/-- The problem of a warning was seen at `now`: its start is noted, and a warning that is not sent
has to wait or is silenced by a critical alert. -/
structure WarningSeen (s : MetricState) (start : Option Instant) (now : Instant) : Prop where
  /-- The start is noted. -/
  observed : s.warning.observe start = s.warning
  /-- A warning that is not sent has to wait. -/
  waiting : s.warning.sent = false → s.critical.sent = false →
    start ≠ none ∧ s.warning.window.isDue now = false

variable {s s' : MetricState} {c : MetricConfig} {start : Option Instant} {now : Instant}

/-- Only the critical alert and its gate matter. -/
theorem CriticalSeen.congr (h : s.CriticalSeen c start now) (hcritical : s'.critical = s.critical)
    (hgate : s'.repeatGate = s.repeatGate) : s'.CriticalSeen c start now := by
  obtain ⟨hobserved, hwaiting, hopen⟩ := h
  constructor
  · rw [hcritical]
    exact hobserved
  · rw [hcritical]
    exact hwaiting
  · rw [hcritical, hgate]
    exact hopen

end MetricState

section Raising

variable (c : MetricConfig) (start : Option Instant) (now : Instant)

theorem criticalSeen_raiseCritical (first again : Span → Event) (s : MetricState) :
    (raiseCritical c start now first again s).state.CriticalSeen c start now := by
  rcases raiseCritical_cases c start now s first again with
    ⟨hsent, hrepeats, -, h⟩ | ⟨hsent, hdue, h⟩ | ⟨hquiet, h⟩
  · rw [h]
    exact ⟨by simp, by simp [hsent], fun _ _ _ => rfl⟩
  · rw [h]
    exact ⟨by simp, by simp [Alarm.fire], fun _ _ _ => rfl⟩
  · rw [h]
    refine ⟨by simp, fun hsent => ?_, fun hsent hrepeats hopen => ?_⟩
    · rcases hquiet with ⟨hsent', -⟩ | ⟨-, hstart, hdue⟩
      · simp [hsent'] at hsent
      · exact ⟨hstart, hdue⟩
    · rcases hquiet with ⟨-, hclosed⟩ | ⟨hsent', -⟩
      · rcases hclosed with hno | hclosed
        · rw [hno] at hrepeats
          cases hrepeats
        · simp [hclosed] at hopen
      · simp [hsent'] at hsent

/-- A critical alert whose problem was seen just now is at most repeated, and this only without an
interval. -/
theorem raiseCritical_of_seen (first again : Span → Event) {s : MetricState}
    (hs : s.CriticalSeen c start now) :
    (raiseCritical c start now first again s).state = s ∧
      ∀ e ∈ (raiseCritical c start now first again s).events,
        c.repeats = true ∧ s.repeatGate.interval ≤ Span.zero ∧ ∃ age, e = again age := by
  rcases raiseCritical_cases c start now s first again with
    ⟨hsent, hrepeats, hopen, h⟩ | ⟨hsent, hdue, h⟩ | ⟨-, h⟩
  · have hlast : s.repeatGate.last? = some now := hs.gate hsent hrepeats hopen
    rw [h]
    refine ⟨?_, fun e he => ⟨hrepeats, RepeatGate.interval_le_of_isOpen hlast hopen, ?_⟩⟩
    · simp only [hs.observed, RepeatGate.pass_of_last? hlast]
    · exact ⟨_, List.mem_singleton.1 he⟩
  · obtain ⟨hstart, hnot⟩ := hs.waiting hsent
    rw [hs.observed, hnot] at hdue
    rcases hdue with hnone | hdue
    · exact absurd hnone hstart
    · cases hdue
  · rw [h]
    simp [hs.observed]

theorem warningSeen_raiseWarning (event : Span → Event) (s : MetricState) :
    (raiseWarning start now event s).state.WarningSeen start now := by
  rcases raiseWarning_cases start now s event with ⟨-, -, -, h⟩ | ⟨hquiet, h⟩
  · rw [h]
    exact ⟨by simp, by simp [Alarm.fire]⟩
  · rw [h]
    refine ⟨by simp, fun hwarning hcritical => ?_⟩
    rcases hquiet with hsent | hsent | hwaits
    · simp [hsent] at hwarning
    · simp [hsent] at hcritical
    · exact hwaits

/-- A warning whose problem was seen just now is not sent again. -/
theorem raiseWarning_of_seen (event : Span → Event) {s : MetricState}
    (hs : s.WarningSeen start now) : raiseWarning start now event s = .quiet s := by
  rcases raiseWarning_cases start now s event with ⟨hwarning, hcritical, hdue, -⟩ | ⟨-, h⟩
  · obtain ⟨hstart, hnot⟩ := hs.waiting hwarning hcritical
    rw [hs.observed, hnot] at hdue
    rcases hdue with hnone | hdue
    · exact absurd hnone hstart
    · cases hdue
  · rw [h, hs.observed]

/-- A warning leaves the critical alert and its gate alone. -/
theorem critical_raiseWarning (event : Span → Event) (s : MetricState) :
    (raiseWarning start now event s).state.critical = s.critical ∧
      (raiseWarning start now event s).state.repeatGate = s.repeatGate := by
  rcases raiseWarning_cases start now s event with ⟨-, -, -, h⟩ | ⟨-, h⟩
  · rw [h]
    exact ⟨rfl, rfl⟩
  · rw [h]
    exact ⟨rfl, rfl⟩

end Raising

/-! ## Problems with levels that are seen -/

/-- Both levels of a problem were seen at `now`, as far as they are enabled. -/
structure MetricState.BothSeen (s : MetricState) (c : MetricConfig) (start now : Instant) :
    Prop where
  /-- The critical alert. -/
  critical : c.critical.enabled = true → s.CriticalSeen c (some start) now
  /-- The warning. -/
  warning : c.warning.enabled = true → s.WarningSeen (some start) now

section Both

variable (c : MetricConfig) (start now : Instant) (first again event : Span → Event)

theorem bothSeen_raiseBoth (s : MetricState) :
    (raiseBoth c start now first again event s).state.BothSeen c start now := by
  simp only [raiseBoth, Step.state_andThen]
  constructor
  · intro henabled
    rw [if_pos henabled]
    have hseen := criticalSeen_raiseCritical c (some start) now first again s
    generalize (raiseCritical c (some start) now first again s).state = s₁ at hseen ⊢
    by_cases hw : c.warning.enabled = true
    · obtain ⟨hcritical, hgate⟩ := critical_raiseWarning (some start) now event s₁
      rw [if_pos hw]
      exact hseen.congr hcritical hgate
    · rw [if_neg hw]
      exact hseen
  · intro henabled
    rw [if_pos henabled]
    exact warningSeen_raiseWarning (some start) now event _

theorem raiseBoth_of_seen {s : MetricState} (hs : s.BothSeen c start now) :
    (raiseBoth c start now first again event s).state = s ∧
      ∀ e ∈ (raiseBoth c start now first again event s).events,
        c.critical.enabled = true ∧ c.repeats = true ∧ s.repeatGate.interval ≤ Span.zero ∧
          ∃ age, e = again age := by
  have hwarning : (if c.warning.enabled then raiseWarning (some start) now event s else .quiet s) =
      .quiet s := by
    by_cases hw : c.warning.enabled = true
    · rw [if_pos hw, raiseWarning_of_seen (some start) now event (hs.warning hw)]
    · rw [if_neg hw]
  simp only [raiseBoth, Step.state_andThen, Step.events_andThen]
  by_cases hc : c.critical.enabled = true
  · obtain ⟨hstate, hevents⟩ :=
      raiseCritical_of_seen c (some start) now first again (hs.critical hc)
    rw [if_pos hc, hstate, hwarning]
    refine ⟨rfl, fun e he => ⟨hc, hevents e ?_⟩⟩
    simpa using he
  · rw [if_neg hc, Step.state_quiet, hwarning]
    exact ⟨rfl, by simp⟩

end Both

/-! ## Thresholds -/

namespace Measure

/-- A measure was compared with the thresholds at `now`: open alerts are breached, and the problems
that there are were seen. -/
structure Settled (m : Measure) (c : MetricConfig) (d : Direction) (now : Instant)
    (s : MetricState) : Prop where
  /-- The threshold of an open critical alert is breached. -/
  criticalOpen : s.critical.sent = true → m.breaches c d .critical = true
  /-- The threshold of an open warning is breached. -/
  warningOpen : s.warning.sent = true → m.breaches c d .warning = true
  /-- The problem of the critical alert was seen. -/
  criticalSeen : (c.critical.enabled && m.breaches c d .critical) = true →
    s.CriticalSeen c (m.start now) now
  /-- There is no problem of a critical alert. -/
  criticalRests : (c.critical.enabled && m.breaches c d .critical) = false →
    s.critical.rest = s.critical
  /-- The problem of the warning was seen. -/
  warningSeen : (c.warning.enabled && m.breaches c d .warning) = true →
    s.WarningSeen (m.start now) now
  /-- There is no problem of a warning. -/
  warningRests : (c.warning.enabled && m.breaches c d .warning) = false →
    s.warning.rest = s.warning

variable (m : Measure) (c : MetricConfig) (d : Direction) (now : Instant) (s : MetricState)

theorem critical_clearWarning : (m.clearWarning c d s).state.critical = s.critical := by
  rcases m.clearWarning_cases c d s with ⟨-, -, h⟩ | ⟨-, h⟩
  · rw [h]
  · rw [h]
    rfl

theorem warning_checkCritical : (m.checkCritical c d now s).state.warning = s.warning := by
  rcases m.checkCritical_cases c d now s with ⟨-, h⟩ | h
  · rw [h]
    rcases raiseCritical_cases c (m.start now) now s (m.breached c d .critical)
      (m.breached c d .critical) with ⟨-, -, -, h⟩ | ⟨-, -, h⟩ | ⟨-, h⟩
    · rw [h]
    · rw [h]
    · rw [h]
      rfl
  · rw [h]
    rfl

theorem critical_checkWarning :
    (m.checkWarning c d now s).state.critical = s.critical ∧
      (m.checkWarning c d now s).state.repeatGate = s.repeatGate := by
  rcases m.checkWarning_cases c d now s with ⟨-, h⟩ | h
  · rw [h]
    exact critical_raiseWarning ..
  · rw [h]
    exact ⟨rfl, rfl⟩

/-- After clearing, an open critical alert is breached. -/
theorem critical_open_clearCritical
    (h : (m.clearCritical c d now s).state.critical.sent = true) :
    m.breaches c d .critical = true := by
  rcases m.clearCritical_cases c d now s with ⟨-, -, warning, -, heq⟩ | ⟨hopen, heq⟩
  · rw [heq] at h
    cases h
  · rw [heq] at h
    rcases hopen with hsent | hbreached
    · rw [Step.state_quiet, hsent] at h
      cases h
    · exact hbreached

theorem warning_open_clearWarning (h : (m.clearWarning c d s).state.warning.sent = true) :
    m.breaches c d .warning = true := by
  rcases m.clearWarning_cases c d s with ⟨-, -, heq⟩ | ⟨hopen, heq⟩
  · rw [heq] at h
    cases h
  · rw [heq] at h
    rcases hopen with hsent | hbreached
    · rw [Step.state_quiet, hsent] at h
      cases h
    · exact hbreached

/-- A check opens an alert only at a breached threshold. -/
theorem critical_open_checkCritical
    (h : (m.checkCritical c d now s).state.critical.sent = true) :
    s.critical.sent = true ∨ m.breaches c d .critical = true := by
  rcases m.checkCritical_cases c d now s with ⟨hbreached, -⟩ | heq
  · exact Or.inr hbreached
  · rw [heq] at h
    exact Or.inl h

theorem warning_open_checkWarning (h : (m.checkWarning c d now s).state.warning.sent = true) :
    s.warning.sent = true ∨ m.breaches c d .warning = true := by
  rcases m.checkWarning_cases c d now s with ⟨hbreached, -⟩ | heq
  · exact Or.inr hbreached
  · rw [heq] at h
    exact Or.inl h

/-- **Comparing settles.** -/
theorem settled_classify : m.Settled c d now (m.classify c d now s).state := by
  simp only [classify, Step.state_andThen]
  generalize hs₁ : (m.clearCritical c d now s).state = s₁
  generalize hs₂ : (m.clearWarning c d s₁).state = s₂
  generalize hs₃ : (m.checkCritical c d now s₂).state = s₃
  obtain ⟨hcritical, hgate⟩ := m.critical_checkWarning c d now s₃
  constructor
  · intro hsent
    rw [hcritical, ← hs₃] at hsent
    rcases m.critical_open_checkCritical c d now s₂ hsent with hsent | hbreached
    · rw [← hs₂, critical_clearWarning, ← hs₁] at hsent
      exact m.critical_open_clearCritical c d now s hsent
    · exact hbreached
  · intro hsent
    rcases m.warning_open_checkWarning c d now s₃ hsent with hsent | hbreached
    · rw [← hs₃, warning_checkCritical, ← hs₂] at hsent
      exact m.warning_open_clearWarning c d s₁ hsent
    · exact hbreached
  · intro hproblem
    have hseen : s₃.CriticalSeen c (m.start now) now := by
      rw [← hs₃, checkCritical, if_pos hproblem]
      exact criticalSeen_raiseCritical ..
    exact hseen.congr hcritical hgate
  · intro hproblem
    have hrests : s₃.critical.rest = s₃.critical := by
      rw [← hs₃, checkCritical, hproblem]
      rfl
    rw [hcritical, hrests]
  · intro hproblem
    rw [checkWarning, if_pos hproblem]
    exact warningSeen_raiseWarning ..
  · intro hproblem
    rw [checkWarning, hproblem]
    rfl

variable {m c d now s}

/-- **Comparing again changes nothing**, and at most repeats a critical alert. -/
theorem classify_of_settled (h : m.Settled c d now s) :
    (m.classify c d now s).state = s ∧
      ∀ e ∈ (m.classify c d now s).events,
        c.critical.enabled = true ∧ c.repeats = true ∧ s.repeatGate.interval ≤ Span.zero ∧
          ∃ age, e = m.breached c d .critical age := by
  have hclearCritical : m.clearCritical c d now s = .quiet s := by
    rcases m.clearCritical_cases c d now s with ⟨hsent, hnot, -⟩ | ⟨-, heq⟩
    · rw [h.criticalOpen hsent] at hnot
      cases hnot
    · exact heq
  have hclearWarning : m.clearWarning c d s = .quiet s := by
    rcases m.clearWarning_cases c d s with ⟨hsent, hnot, -⟩ | ⟨-, heq⟩
    · rw [h.warningOpen hsent] at hnot
      cases hnot
    · exact heq
  have hcheckWarning : m.checkWarning c d now s = .quiet s := by
    rw [checkWarning]
    cases hproblem : c.warning.enabled && m.breaches c d .warning with
    | true => exact raiseWarning_of_seen _ _ _ (h.warningSeen hproblem)
    | false => simp [h.warningRests hproblem]
  simp only [classify, Step.state_andThen, Step.events_andThen, hclearCritical, hclearWarning,
    Step.state_quiet, Step.events_quiet, List.nil_append]
  rw [checkCritical]
  cases hproblem : c.critical.enabled && m.breaches c d .critical with
  | true =>
      have henabled : c.critical.enabled = true := (Bool.and_eq_true_iff.1 hproblem).1
      obtain ⟨hstate, hevents⟩ := raiseCritical_of_seen c (m.start now) now
        (m.breached c d .critical) (m.breached c d .critical) (h.criticalSeen hproblem)
      rw [if_pos rfl, hstate, hcheckWarning]
      refine ⟨rfl, fun e he => ⟨henabled, hevents e ?_⟩⟩
      simpa using he
  | false =>
      have hsame : ({ s with critical := s.critical.rest } : MetricState) = s := by
        rw [h.criticalRests hproblem]
      simp [hsame, hcheckWarning]

end Measure

end NodeAlerts
