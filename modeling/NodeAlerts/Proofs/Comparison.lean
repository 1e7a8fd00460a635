import NodeAlerts.Proofs.Seen

/-!
# One comparison with the thresholds

A comparison clears, raises and repeats in four steps, each of which looks at what the ones before
it left.  Here its outcome is told at once, in terms of the state before: what becomes of either
alarm (`Measure.critical_classify`, `Measure.warning_classify`), and which events are found
(`Measure.events_classify`).

Two facts make that possible.  A critical alert is cleared only where its threshold is not breached,
and so never in a comparison that raises one; and the warning that a cleared critical alert raises
anew is one whose threshold is breached, and so is never cleared in the same comparison.
-/

namespace NodeAlerts

/-! ## Alarms -/

namespace Alarm

/-- The alarm, where an alert may count as not sent. -/
def rearm (a : Alarm) (again : Bool) : Alarm := { a with sent := a.sent && !again }

/-- The alarm where no problem is looked for: the window starts anew, and an alert stays open only
as long as its threshold is breached. -/
def lapse (a : Alarm) (breached : Bool) : Alarm := { a with sent := a.sent && breached }.rest

/-- Whether the first alert about a problem is due. -/
def raises (a : Alarm) (start : Option Instant) (now : Instant) : Bool :=
  !a.sent && (start.isNone || (a.observe start).window.isDue now)

/-- The alarm where the problem is seen: its start is noted, and a first alert that is due is sent
if nothing silences it. -/
def see (a : Alarm) (start : Option Instant) (now : Instant) (silenced : Bool) : Alarm :=
  if a.raises start now && !silenced then (a.observe start).fire else a.observe start

@[simp] theorem sent_rearm (a : Alarm) (again : Bool) :
    (a.rearm again).sent = (a.sent && !again) := rfl

@[simp] theorem sent_lapse (a : Alarm) (breached : Bool) :
    (a.lapse breached).sent = (a.sent && breached) := rfl

@[simp] theorem startedAt?_lapse (a : Alarm) (breached : Bool) :
    (a.lapse breached).window.startedAt? = none := rfl

/-- An alarm lapses by clearing what is no longer breached. -/
theorem rest_clear (a : Alarm) (breached : Bool) :
    (if a.sent && !breached then a.clear else a).rest = a.lapse breached := by
  obtain ⟨sent, window, occurrences⟩ := a
  cases sent <;> cases breached <;> rfl

/-- An alarm that lapses unless its level is enabled opens alerts of an enabled level only. -/
theorem enabled_of_sent {level : Level} {old new seen : Alarm} {breached : Bool}
    (hnew : new = if level.enabled && breached then seen else old.lapse breached)
    (hold : old.sent = true → level.enabled = true) (hsent : new.sent = true) :
    level.enabled = true := by
  cases hproblem : level.enabled && breached with
  | true => exact (Bool.and_eq_true_iff.1 hproblem).1
  | false =>
      rw [hnew, hproblem] at hsent
      exact hold (Bool.and_eq_true_iff.1 hsent).1

/-- An alert of a level that is not enabled is not open, and one whose threshold is not breached
lapses. -/
theorem sent_lapse_of_no_problem {a : Alarm} {level : Level} {breached : Bool}
    (h : a.sent = true → level.enabled = true) (hproblem : (level.enabled && breached) = false) :
    (a.lapse breached).sent = false := by
  rw [sent_lapse, ← Bool.not_eq_true, Bool.and_eq_true]
  rintro ⟨hsent, rfl⟩
  rw [h hsent] at hproblem
  cases hproblem

variable (a : Alarm) (start : Option Instant) (now : Instant) (silenced : Bool)

theorem raises_eq_true_iff : a.raises start now = true ↔
    a.sent = false ∧ (start = none ∨ (a.observe start).window.isDue now = true) := by
  rw [raises, Bool.and_eq_true, Bool.or_eq_true, Bool.not_eq_true', Option.isNone_iff_eq_none]

theorem raises_of_sent {a : Alarm} (h : a.sent = true) : a.raises start now = false := by
  rw [raises, h]
  rfl

theorem raises_of_not_due {a : Alarm} {start : Option Instant} {now : Instant} (hs : start ≠ none)
    (hdue : (a.observe start).window.isDue now = false) : a.raises start now = false := by
  rw [← Bool.not_eq_true, raises_eq_true_iff, hdue]
  rintro ⟨-, hnone | hfalse⟩
  · exact hs hnone
  · cases hfalse

@[simp] theorem sent_see :
    (a.see start now silenced).sent = (a.sent || a.raises start now && !silenced) := by
  rw [see]
  cases h : a.raises start now && !silenced with
  | true => simp [fire]
  | false => simp

@[simp] theorem startedAt?_see :
    (a.see start now silenced).window.startedAt? = (a.observe start).window.startedAt? := by
  rw [see]
  cases h : a.raises start now && !silenced with
  | true => exact WindowTimer.startedAt?_fire _
  | false => rfl

theorem isDue_see (t : Instant) : (a.see start now silenced).window.isDue t =
    (a.observe start).window.isDue t := by
  rw [see]
  cases h : a.raises start now && !silenced with
  | true =>
      show (a.observe start).window.fire.isDue t = _
      rw [WindowTimer.isDue, WindowTimer.startedAt?_fire, WindowTimer.window_fire]
      rfl
  | false => rfl

theorem elapsed_see : (a.see start now silenced).window.elapsed now =
    (a.observe start).window.elapsed now := by
  rw [WindowTimer.elapsed, startedAt?_see]
  rfl

/-- A problem is first seen once. -/
theorem raises_observe : (a.observe start).raises start now = a.raises start now := by
  rw [raises, raises, sent_observe, observe_observe]

theorem see_observe : (a.observe start).see start now silenced = a.see start now silenced := by
  rw [see, see, raises_observe, observe_observe]

end Alarm

/-! ## Raising -/

/-- Whether a critical alert is sent where its problem is seen: one that is open is repeated if the
configuration and the gate allow, and one that is not open is sent when it is due. -/
def MetricState.sendsCritical (s : MetricState) (c : MetricConfig) (start : Option Instant)
    (now : Instant) : Bool :=
  if s.critical.sent then c.repeats && s.repeatGate.isOpen now else s.critical.raises start now

section Raising

variable (c : MetricConfig) (start : Option Instant) (now : Instant) (s : MetricState)

/-- **What raising a critical alert comes to.**  The alarm sees the problem, and where an alert is
sent the gate is passed. -/
theorem raiseCritical_eq (first again : Span → Event) :
    raiseCritical c start now first again s =
      ⟨{ s with
          critical := s.critical.see start now false
          repeatGate :=
            if s.sendsCritical c start now then s.repeatGate.pass now else s.repeatGate },
        if s.sendsCritical c start now
        then [(if s.critical.sent then again else first)
          ((s.critical.see start now false).window.elapsed now)]
        else []⟩ := by
  rw [Alarm.elapsed_see, MetricState.sendsCritical]
  rcases raiseCritical_cases c start now s first again with
    ⟨hsent, hrepeats, hopen, h⟩ | ⟨hsent, hdue, h⟩ |
      ⟨⟨hsent, hclosed⟩ | ⟨hsent, hstart, hdue⟩, h⟩
  · rw [h, Alarm.see, Alarm.raises_of_sent start now hsent, hsent, hrepeats, hopen]
    rfl
  · rw [h, Alarm.see, (s.critical.raises_eq_true_iff start now).2 ⟨hsent, hdue⟩, hsent]
    rfl
  · have hnot : (c.repeats && s.repeatGate.isOpen now) = false := Bool.and_eq_false_iff.2 hclosed
    rw [h, Alarm.see, Alarm.raises_of_sent start now hsent, hsent, hnot]
    rfl
  · rw [h, Alarm.see, Alarm.raises_of_not_due hstart hdue, hsent]
    rfl

theorem critical_raiseCritical (first again : Span → Event) :
    (raiseCritical c start now first again s).state.critical =
      s.critical.see start now false := by
  rw [raiseCritical_eq]

/-- An alert that is worded alike when it is repeated. -/
theorem events_raiseCritical (event : Span → Event) :
    (raiseCritical c start now event event s).events =
      if s.sendsCritical c start now
      then [event ((s.critical.see start now false).window.elapsed now)] else [] := by
  rw [raiseCritical_eq, ite_self]

/-- **What raising a warning comes to.**  It is sent when it is due, if no critical alert is
open. -/
theorem raiseWarning_eq (event : Span → Event) :
    raiseWarning start now event s =
      ⟨{ s with warning := s.warning.see start now s.critical.sent },
        if s.warning.raises start now && !s.critical.sent
        then [event ((s.warning.see start now s.critical.sent).window.elapsed now)] else []⟩ := by
  rw [Alarm.elapsed_see]
  rcases raiseWarning_cases start now s event with
    ⟨hwarning, hcritical, hdue, h⟩ | ⟨hwarning | hcritical | ⟨hstart, hdue⟩, h⟩
  · rw [h, Alarm.see, (s.warning.raises_eq_true_iff start now).2 ⟨hwarning, hdue⟩, hcritical]
    rfl
  · rw [h, Alarm.see, Alarm.raises_of_sent start now hwarning]
    rfl
  · rw [h, Alarm.see, hcritical, Bool.not_true, Bool.and_false]
    rfl
  · rw [h, Alarm.see, Alarm.raises_of_not_due hstart hdue]
    rfl

end Raising

/-! ## Comparing -/

namespace Measure

variable (m : Measure) (c : MetricConfig) (d : Direction) (now : Instant) (s : MetricState)

/-- Whether an open critical alert is cleared. -/
def clearsCritical : Bool := s.critical.sent && !m.breaches c d .critical

/-- Whether an open warning is cleared. -/
def clearsWarning : Bool := s.warning.sent && !m.breaches c d .warning

/-- Whether the warning is raised anew, since the critical alert is cleared and an upper warning
threshold is still breached. -/
def rearms : Bool :=
  m.clearsCritical c d s && (d = .above && c.warning.enabled && m.breaches c d .warning)

/-- The alarm of warnings that the check of warnings finds at a breached threshold. -/
def armed : Alarm := s.warning.rearm (m.rearms c d s)

/-- Whether a critical alert is sent: one that is open is repeated if the configuration and the gate
allow, and one that is not open is sent when it is due. -/
def alertsCritical : Bool :=
  c.critical.enabled && m.breaches c d .critical &&
    if s.critical.sent then c.repeats && s.repeatGate.isOpen now
    else s.critical.raises (m.start now) now

/-- Whether a warning is sent: when it is due, if no critical alert is open by then. -/
def alertsWarning : Bool :=
  c.warning.enabled && m.breaches c d .warning &&
    ((m.armed c d s).raises (m.start now) now && !(m.classify c d now s).state.critical.sent)

theorem clearCritical_eq : m.clearCritical c d now s =
    ⟨{ s with
        warning := if m.rearms c d s
          then { s.warning with sent := false }.observe (m.start now) else s.warning
        critical := if m.clearsCritical c d s then s.critical.clear else s.critical
        repeatGate := if m.clearsCritical c d s then s.repeatGate.reset else s.repeatGate },
      if m.clearsCritical c d s then [m.cleared c d .critical] else []⟩ := by
  rw [clearCritical]
  cases hclears : m.clearsCritical c d s with
  | true =>
      have hcond : (s.critical.sent && !m.breaches c d .critical) = true := hclears
      rw [if_pos hcond, rearms, hclears, Bool.true_and]
      cases (d = .above && c.warning.enabled && m.breaches c d .warning) <;> rfl
  | false =>
      have hcond : (s.critical.sent && !m.breaches c d .critical) = false := hclears
      rw [hcond, rearms, hclears]
      rfl

theorem clearWarning_eq : m.clearWarning c d s =
    ⟨{ s with warning := if m.clearsWarning c d s then s.warning.clear else s.warning },
      if m.clearsWarning c d s then [m.cleared c d .warning] else []⟩ := by
  rw [clearWarning]
  cases hclears : m.clearsWarning c d s with
  | true =>
      have hcond : (s.warning.sent && !m.breaches c d .warning) = true := hclears
      rw [if_pos hcond]
      rfl
  | false =>
      have hcond : (s.warning.sent && !m.breaches c d .warning) = false := hclears
      rw [hcond]
      rfl

/-- Whether the warning is cleared does not depend on the critical alert: a warning that is raised
anew is breached. -/
theorem clearsWarning_clearCritical :
    m.clearsWarning c d (m.clearCritical c d now s).state = m.clearsWarning c d s := by
  rw [clearCritical_eq, clearsWarning, clearsWarning]
  cases hrearms : m.rearms c d s with
  | true =>
      have hbreached : m.breaches c d .warning = true := by
        simp only [rearms, Bool.and_eq_true] at hrearms
        exact hrearms.2.2
      simp [hbreached]
  | false => rfl

/-- The state that the checks find, once open alerts are cleared. -/
def afterClearing : MetricState := (m.clearWarning c d (m.clearCritical c d now s).state).state

theorem critical_afterClearing : (m.afterClearing c d now s).critical =
    if m.clearsCritical c d s then s.critical.clear else s.critical := by
  rw [afterClearing, critical_clearWarning, clearCritical_eq]

theorem repeatGate_afterClearing : (m.afterClearing c d now s).repeatGate =
    if m.clearsCritical c d s then s.repeatGate.reset else s.repeatGate := by
  rw [afterClearing, clearWarning_eq, clearCritical_eq]

variable {m c d}

theorem clearsCritical_of_breached (h : m.breaches c d .critical = true) :
    m.clearsCritical c d s = false := by
  rw [clearsCritical, h, Bool.not_true, Bool.and_false]

theorem clearsWarning_of_breached (h : m.breaches c d .warning = true) :
    m.clearsWarning c d s = false := by
  rw [clearsWarning, h, Bool.not_true, Bool.and_false]

theorem rearms_of_no_problem (h : (c.warning.enabled && m.breaches c d .warning) = false) :
    m.rearms c d s = false := by
  rw [rearms, Bool.and_assoc (decide _), h, Bool.and_false, Bool.and_false]

/-- At a breached threshold the check of warnings finds the warning as it was, or raised anew. -/
theorem warning_afterClearing_of_breached (h : m.breaches c d .warning = true) :
    (m.afterClearing c d now s).warning = m.armed c d s ∨
      (m.afterClearing c d now s).warning = (m.armed c d s).observe (m.start now) := by
  rw [afterClearing, clearWarning_eq, clearsWarning_of_breached _ h, clearCritical_eq, armed,
    Alarm.rearm]
  cases m.rearms c d s with
  | true => exact Or.inr (by rw [Bool.not_true, Bool.and_false]; rfl)
  | false => exact Or.inl (by rw [Bool.not_false, Bool.and_true]; rfl)

theorem raises_afterClearing (h : m.breaches c d .warning = true) :
    (m.afterClearing c d now s).warning.raises (m.start now) now =
      (m.armed c d s).raises (m.start now) now := by
  rcases warning_afterClearing_of_breached now s h with h | h
  · rw [h]
  · rw [h, Alarm.raises_observe]

theorem see_afterClearing (h : m.breaches c d .warning = true) (silenced : Bool) :
    (m.afterClearing c d now s).warning.see (m.start now) now silenced =
      (m.armed c d s).see (m.start now) now silenced := by
  rcases warning_afterClearing_of_breached now s h with h | h
  · rw [h]
  · rw [h, Alarm.see_observe]

/-- Where no problem is seen the warning lapses. -/
theorem rest_afterClearing (h : (c.warning.enabled && m.breaches c d .warning) = false) :
    (m.afterClearing c d now s).warning.rest = s.warning.lapse (m.breaches c d .warning) := by
  rw [afterClearing, clearWarning_eq, clearsWarning_clearCritical, clearCritical_eq,
    rearms_of_no_problem s h]
  exact s.warning.rest_clear _

variable (m c d)

/-! ### The outcome -/

theorem state_classify_critical : (m.classify c d now s).state.critical =
    (m.checkCritical c d now (m.afterClearing c d now s)).state.critical := by
  simp only [classify, Step.state_andThen, (m.critical_checkWarning c d now _).1]
  rfl

/-- **What becomes of the critical alert.** -/
theorem critical_classify : (m.classify c d now s).state.critical =
    if c.critical.enabled && m.breaches c d .critical
    then s.critical.see (m.start now) now false
    else s.critical.lapse (m.breaches c d .critical) := by
  rw [state_classify_critical, checkCritical]
  cases hproblem : c.critical.enabled && m.breaches c d .critical with
  | true =>
      have hbreached := (Bool.and_eq_true_iff.1 hproblem).2
      rw [if_pos rfl, if_pos rfl, critical_raiseCritical, critical_afterClearing,
        clearsCritical_of_breached s hbreached]
      rfl
  | false =>
      show (m.afterClearing c d now s).critical.rest = _
      rw [critical_afterClearing]
      exact s.critical.rest_clear _

/-- **What becomes of the gate**: it is passed where a critical alert is sent, and forgets where one
is cleared. -/
theorem repeatGate_classify : (m.classify c d now s).state.repeatGate =
    if m.alertsCritical c d now s then s.repeatGate.pass now
    else if m.clearsCritical c d s then s.repeatGate.reset else s.repeatGate := by
  simp only [classify, Step.state_andThen, (m.critical_checkWarning c d now _).2]
  show (m.checkCritical c d now (m.afterClearing c d now s)).state.repeatGate = _
  rw [checkCritical, alertsCritical]
  cases hproblem : c.critical.enabled && m.breaches c d .critical with
  | true =>
      have hclears := clearsCritical_of_breached s (Bool.and_eq_true_iff.1 hproblem).2
      rw [if_pos rfl, raiseCritical_eq, MetricState.sendsCritical, critical_afterClearing,
        repeatGate_afterClearing, hclears]
      rfl
  | false => exact m.repeatGate_afterClearing c d now s

/-- The check of warnings finds the critical alert in its final state. -/
theorem classify_eq_checkWarning : ∃ s' : MetricState,
    s'.warning = (m.afterClearing c d now s).warning ∧
    s'.critical = (m.classify c d now s).state.critical ∧
    (m.classify c d now s).state = (m.checkWarning c d now s').state ∧
    (m.classify c d now s).events = (m.clearCritical c d now s).events ++
      ((m.clearWarning c d (m.clearCritical c d now s).state).events ++
        ((m.checkCritical c d now (m.afterClearing c d now s)).events ++
          (m.checkWarning c d now s').events)) :=
  ⟨(m.checkCritical c d now (m.afterClearing c d now s)).state,
    m.warning_checkCritical c d now _, (m.state_classify_critical c d now s).symm, rfl, rfl⟩

/-- **What becomes of the warning.** -/
theorem warning_classify : (m.classify c d now s).state.warning =
    if c.warning.enabled && m.breaches c d .warning
    then (m.armed c d s).see (m.start now) now (m.classify c d now s).state.critical.sent
    else s.warning.lapse (m.breaches c d .warning) := by
  obtain ⟨s', hwarning, hcritical, hstate, -⟩ := m.classify_eq_checkWarning c d now s
  rw [← hcritical, hstate, checkWarning]
  cases hproblem : c.warning.enabled && m.breaches c d .warning with
  | true =>
      have hbreached := (Bool.and_eq_true_iff.1 hproblem).2
      rw [if_pos rfl, if_pos rfl, raiseWarning_eq, hwarning, see_afterClearing now s hbreached]
  | false =>
      show s'.warning.rest = _
      rw [hwarning]
      exact rest_afterClearing now s hproblem

/-- The check of critical alerts finds an open one only at a breached threshold. -/
theorem events_checkCritical : (m.checkCritical c d now (m.afterClearing c d now s)).events =
    if m.alertsCritical c d now s
    then [m.breached c d .critical ((m.classify c d now s).state.critical.window.elapsed now)]
    else [] := by
  rw [critical_classify, alertsCritical, checkCritical]
  cases hproblem : c.critical.enabled && m.breaches c d .critical with
  | true =>
      have hclears := clearsCritical_of_breached s (Bool.and_eq_true_iff.1 hproblem).2
      rw [if_pos rfl, if_pos rfl, events_raiseCritical, MetricState.sendsCritical,
        critical_afterClearing, repeatGate_afterClearing, hclears, Bool.true_and]
      rfl
  | false => rfl

/-- **Which events are found**: open alerts are cleared, the critical one first, and then a critical
alert is sent, and else a warning. -/
theorem events_classify : (m.classify c d now s).events =
    (if m.clearsCritical c d s then [m.cleared c d .critical] else []) ++
    (if m.clearsWarning c d s then [m.cleared c d .warning] else []) ++
    (if m.alertsCritical c d now s
      then [m.breached c d .critical ((m.classify c d now s).state.critical.window.elapsed now)]
      else []) ++
    (if m.alertsWarning c d now s
      then [m.breached c d .warning ((m.classify c d now s).state.warning.window.elapsed now)]
      else []) := by
  obtain ⟨s', hwarning, hcritical, -, hevents⟩ := m.classify_eq_checkWarning c d now s
  have hlast : (m.checkWarning c d now s').events =
      if m.alertsWarning c d now s
      then [m.breached c d .warning ((m.classify c d now s).state.warning.window.elapsed now)]
      else [] := by
    rw [warning_classify, alertsWarning, checkWarning, ← hcritical]
    cases hproblem : c.warning.enabled && m.breaches c d .warning with
    | true =>
        have hbreached := (Bool.and_eq_true_iff.1 hproblem).2
        rw [if_pos rfl, if_pos rfl, raiseWarning_eq, hwarning,
          raises_afterClearing now s hbreached, see_afterClearing now s hbreached, Bool.true_and]
    | false => rfl
  rw [hevents, hlast, events_checkCritical, clearWarning_eq, clearsWarning_clearCritical,
    clearCritical_eq, List.append_assoc, List.append_assoc]

variable {c d now s}

/-- A comparison opens alerts of enabled levels only. -/
theorem enabled_of_isSent_classify (severity : Severity)
    (h : s.isSent severity = true → (c.level severity).enabled = true)
    (hsent : (m.classify c d now s).state.isSent severity = true) :
    (c.level severity).enabled = true := by
  cases severity with
  | critical => exact Alarm.enabled_of_sent (m.critical_classify c d now s) h hsent
  | _ => exact Alarm.enabled_of_sent (m.warning_classify c d now s) h hsent

end Measure

end NodeAlerts
