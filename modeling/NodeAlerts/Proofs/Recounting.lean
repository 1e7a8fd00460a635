import NodeAlerts.Proofs.Agreement
import NodeAlerts.Proofs.Counting
import NodeAlerts.Proofs.Order

/-!
# Counters that are told twice

An increase that is told again at the same time is counted again.  Nothing is stale then, so both
totals grow, and since larger counts are larger doubles (`Double.le_ofCount_mono`) a threshold that
was breached is breached still.  So nothing is cleared.  Beside a critical alert that is repeated
without an interval, all that can be found is that a total crosses a threshold which it did not
breach before (`MetricState.Exceeds`), and the state that is left differs from the one before in the
counts and in the alerts that are opened so (`MetricState.recounted`).  For a reading this is
`Reading.Accumulates.classify_again`.
-/

namespace NodeAlerts

open NodeAlerts.Double

/-! ## Counts that grow -/

namespace MetricState

/-- What was counted for both levels. -/
def measure (s : MetricState) : Measure :=
  .occurrences s.warning.occurrences.total s.critical.occurrences.total

/-- The state after counting more occurrences, where nothing is stale. -/
def plus (s : MetricState) (now : Instant) (n : Nat) : MetricState :=
  s.recount (s.warning.occurrences.put now n) (s.critical.occurrences.put now n)

/-- Whether the occurrences of an enabled level breach its threshold with `n` more, and did not
breach it before. -/
def crosses (s : MetricState) (c : MetricConfig) (now : Instant) (n : Nat) (severity : Severity) :
    Bool :=
  (c.level severity).enabled &&
    (!s.measure.breaches c .above severity && (s.plus now n).measure.breaches c .above severity)

/-- The state after counting more occurrences and comparing them with the thresholds once more: a
critical alert is open also if its threshold is crossed, and a warning if its threshold is crossed
and no critical alert is open. -/
def recounted (s : MetricState) (c : MetricConfig) (now : Instant) (n : Nat) : MetricState :=
  let critical := s.critical.sent || s.crosses c now n .critical
  let counted := s.plus now n
  { counted with
    warning :=
      { counted.warning with sent := s.warning.sent || s.crosses c now n .warning && !critical }
    critical := { counted.critical with sent := critical }
    repeatGate := if s.crosses c now n .critical then s.repeatGate.pass now else s.repeatGate }

/-- An event that is found since more occurrences cross the threshold of a level: a breach, of the
warning only if no critical alert is open. -/
def Exceeds (s : MetricState) (c : MetricConfig) (now : Instant) (n : Nat) (e : Event) : Prop :=
  ∃ severity, s.crosses c now n severity = true ∧
    (severity = .critical ∨
      severity = .warning ∧ (s.recounted c now n).critical.sent = false) ∧
    e = .occurrencesBreached severity (toCount ((s.plus now n).measure.level severity))
      (c.level severity).threshold (c.level severity).window

end MetricState

theorem OccurrenceCounter.total_le_put {k : OccurrenceCounter} (h : k.total ≤ maxCount)
    (now : Instant) (n : Nat) :
    k.total ≤ (k.put now n).total ∧ (k.put now n).total ≤ maxCount := by
  rw [put]
  split
  · exact ⟨Nat.le_refl _, h⟩
  · simp only [addCounts]
    omega

/-- Counts stop at the largest count. -/
theorem OccurrenceCounter.total_put_le {k : OccurrenceCounter} {now : Instant} {n : Nat}
    (hn : 0 < n) : (k.put now n).total ≤ maxCount := by
  rw [put_of_pos hn]
  exact Nat.min_le_right ..

/-- **A threshold that is breached is breached by more occurrences.** -/
theorem MetricState.breaches_plus {s : MetricState} {c : MetricConfig} {now : Instant} {n : Nat}
    {severity : Severity} (h : ∀ severity, (s.alarm severity).occurrences.total ≤ maxCount)
    (hbreached : s.measure.breaches c .above severity = true) :
    (s.plus now n).measure.breaches c .above severity = true := by
  have hmono : ∀ {k : OccurrenceCounter} {t : Float}, k.total ≤ maxCount →
      Direction.above.breaches (ofCount k.total) t = true →
      Direction.above.breaches (ofCount (k.put now n).total) t = true := by
    intro k t hk hbreached
    obtain ⟨hle, hmax⟩ := OccurrenceCounter.total_le_put hk now n
    exact decide_eq_true (le_ofCount_mono hle hmax (of_decide_eq_true hbreached))
  cases severity with
  | critical => exact hmono (h .critical) hbreached
  | _ => exact hmono (h .warning) hbreached

/-! ## Comparing more occurrences -/

/-- **What becomes of an alarm** where its problem may begin and does not end: one that is not open
is opened if the problem begins. -/
theorem Alarm.see_or_lapse {a : Alarm} {enabled before after silenced : Bool} (now : Instant)
    (hopen : a.sent = true → before = true) (hmono : before = true → after = true)
    (hseen : (enabled && before) = true → a.sent = true ∨ silenced = true)
    (hrests : (enabled && before) = false → a.rest = a) :
    (if enabled && after then a.see none now silenced else a.lapse after) =
      { a with sent := a.sent || (enabled && (!before && after)) && !silenced } := by
  cases before with
  | true =>
      rw [hmono rfl]
      cases enabled with
      | true =>
          -- the problem was seen before: an alert is open, or silenced
          have hquiet : (a.raises none now && !silenced) = false := by
            rcases hseen rfl with hsent | rfl
            · rw [raises_of_sent none now hsent, Bool.false_and]
            · rw [Bool.not_true, Bool.and_false]
          simp [see, hquiet, observe]
      | false =>
          have hwindow : a.window.reset = a.window := congrArg window (hrests rfl)
          simp [lapse, rest, hwindow]
  | false =>
      have hsent : a.sent = false := by
        cases h : a.sent with
        | true => exact absurd (hopen h) Bool.false_ne_true
        | false => rfl
      have hrest : a.rest = a := hrests (Bool.and_false _)
      have hidle : a.window.phase = .idle := congrArg (·.window.phase) hrest.symm
      cases hproblem : enabled && after with
      | true =>
          obtain ⟨rfl, rfl⟩ := Bool.and_eq_true_iff.1 hproblem
          have hfire : a.window.fire = a.window := by rw [WindowTimer.fire, hidle]
          have hraises : a.raises none now = true := by rw [raises, hsent]; rfl
          rw [if_pos rfl, see, hraises]
          cases silenced with
          | true => simp [observe]
          | false => simp [observe, fire, hsent, hfire]
      | false =>
          have hwindow : a.window.reset = a.window := congrArg window hrest
          simp [lapse, rest, hsent, hwindow, hproblem]

namespace MetricState

variable {t : MetricState} {c : MetricConfig} {now : Instant} {n : Nat}

/-- A threshold that is breached is not crossed. -/
theorem crosses_of_breached {severity : Severity}
    (h : t.measure.breaches c .above severity = true) :
    t.crosses c now n severity = false := by
  rw [crosses, h, Bool.not_true, Bool.false_and, Bool.and_false]

section Again

/-- A problem that was seen without a window to wait for has an open critical alert. -/
theorem sent_of_critical_problem (ht : t.measure.Settled c .above now t)
    (hproblem : (c.critical.enabled && t.measure.breaches c .above .critical) = true) :
    t.critical.sent = true := by
  cases hsent : t.critical.sent with
  | true => rfl
  | false => exact absurd rfl ((ht.criticalSeen hproblem).waiting hsent).1

@[inherit_doc sent_of_critical_problem]
theorem sent_of_warning_problem (ht : t.measure.Settled c .above now t)
    (hproblem : (c.warning.enabled && t.measure.breaches c .above .warning) = true) :
    t.warning.sent = true ∨ t.critical.sent = true := by
  cases hwarning : t.warning.sent with
  | true => exact Or.inl rfl
  | false =>
      cases hcritical : t.critical.sent with
      | true => exact Or.inr rfl
      | false => exact absurd rfl ((ht.warningSeen hproblem).waiting hwarning hcritical).1

/-- Whether an open critical alert is repeated. -/
def repeatsCritical (t : MetricState) (c : MetricConfig) (now : Instant) : Bool :=
  t.critical.sent && (c.critical.enabled && (c.repeats && t.repeatGate.isOpen now))

/-- An alert that is repeated was sent just before, and there is no interval between repeats. -/
theorem last?_of_repeatsCritical (ht : t.measure.Settled c .above now t)
    (h : t.repeatsCritical c now = true) :
    t.repeatGate.last? = some now ∧ t.RepeatsAtOnce c := by
  simp only [repeatsCritical, Bool.and_eq_true] at h
  obtain ⟨hsent, henabled, hrepeats, hopen⟩ := h
  have hproblem : (c.critical.enabled && t.measure.breaches c .above .critical) = true :=
    Bool.and_eq_true_iff.2 ⟨henabled, ht.criticalOpen hsent⟩
  have hlast := (ht.criticalSeen hproblem).gate hsent hrepeats hopen
  exact ⟨hlast, henabled, hrepeats, RepeatGate.interval_le_of_isOpen hlast hopen⟩

variable (hmax : ∀ severity, (t.alarm severity).occurrences.total ≤ maxCount)
  (ht : t.measure.Settled c .above now t)

include hmax ht

theorem not_clearsCritical_plus :
    (t.plus now n).measure.clearsCritical c .above (t.plus now n) = false := by
  cases hsent : t.critical.sent with
  | true => exact Measure.clearsCritical_of_breached _ (breaches_plus hmax (ht.criticalOpen hsent))
  | false => exact Bool.and_eq_false_iff.2 (Or.inl hsent)

theorem not_clearsWarning_plus :
    (t.plus now n).measure.clearsWarning c .above (t.plus now n) = false := by
  cases hsent : t.warning.sent with
  | true => exact Measure.clearsWarning_of_breached _ (breaches_plus hmax (ht.warningOpen hsent))
  | false => exact Bool.and_eq_false_iff.2 (Or.inl hsent)

/-- The check of warnings finds the warning as it was. -/
theorem armed_plus : (t.plus now n).measure.armed c .above (t.plus now n) =
    (t.plus now n).warning := by
  rw [Measure.armed, Measure.rearms, not_clearsCritical_plus hmax ht, Bool.false_and, Alarm.rearm,
    Bool.not_false, Bool.and_true]

/-- A critical alert is opened where its threshold is crossed. -/
theorem critical_classify_plus :
    ((t.plus now n).measure.classify c .above now (t.plus now n)).state.critical =
      (t.recounted c now n).critical := by
  have hopen : (t.plus now n).critical.sent = true →
      t.measure.breaches c .above .critical = true := ht.criticalOpen
  have hseen : (c.critical.enabled && t.measure.breaches c .above .critical) = true →
      (t.plus now n).critical.sent = true ∨ false = true := fun hproblem =>
    Or.inl (sent_of_critical_problem (t := t) ht hproblem)
  have hrests : (c.critical.enabled && t.measure.breaches c .above .critical) = false →
      (t.plus now n).critical.rest = (t.plus now n).critical := fun hno =>
    congrArg (fun a : Alarm => { a with occurrences := t.critical.occurrences.put now n })
      (ht.criticalRests hno)
  rw [Measure.critical_classify]
  refine (Alarm.see_or_lapse now hopen (breaches_plus hmax) hseen hrests).trans ?_
  rw [Bool.not_false, Bool.and_true]
  rfl

/-- A warning is opened where its threshold is crossed and no critical alert is open. -/
theorem warning_classify_plus :
    ((t.plus now n).measure.classify c .above now (t.plus now n)).state.warning =
      (t.recounted c now n).warning := by
  have hopen : (t.plus now n).warning.sent = true →
      t.measure.breaches c .above .warning = true := ht.warningOpen
  have hseen : (c.warning.enabled && t.measure.breaches c .above .warning) = true →
      (t.plus now n).warning.sent = true ∨ (t.recounted c now n).critical.sent = true :=
    fun hproblem => (sent_of_warning_problem ht hproblem).imp id fun hsent =>
      Bool.or_eq_true_iff.2 (Or.inl hsent)
  have hrests : (c.warning.enabled && t.measure.breaches c .above .warning) = false →
      (t.plus now n).warning.rest = (t.plus now n).warning := fun hno =>
    congrArg (fun a : Alarm => { a with occurrences := t.warning.occurrences.put now n })
      (ht.warningRests hno)
  rw [Measure.warning_classify, armed_plus hmax ht, critical_classify_plus hmax ht]
  exact Alarm.see_or_lapse now hopen (breaches_plus hmax) hseen hrests

/-- A critical alert is sent where its threshold is crossed; one that is open may be repeated. -/
theorem alertsCritical_plus :
    (t.plus now n).measure.alertsCritical c .above now (t.plus now n) =
      (t.crosses c now n .critical || t.repeatsCritical c now) := by
  cases hsent : t.critical.sent with
  | true =>
      have hbefore := ht.criticalOpen hsent
      have hsent' : (t.plus now n).critical.sent = true := hsent
      rw [Measure.alertsCritical, crosses_of_breached hbefore, breaches_plus hmax hbefore, hsent',
        if_pos rfl, Bool.and_true, repeatsCritical, hsent]
      rfl
  | false =>
      have hraises : (t.plus now n).critical.raises none now = true := by
        show (!t.critical.sent && true) = true
        rw [hsent]
        rfl
      have hsent' : (t.plus now n).critical.sent = false := hsent
      have hstart : (t.plus now n).measure.start now = none := rfl
      rw [Measure.alertsCritical, hsent', hstart, hraises, repeatsCritical, hsent, Bool.false_and,
        Bool.or_false]
      show (c.critical.enabled && _ && true) = (c.critical.enabled && _)
      rw [Bool.and_true]
      cases hproblem : c.critical.enabled && t.measure.breaches c .above .critical with
      | true => cases hsent.symm.trans (sent_of_critical_problem ht hproblem)
      | false =>
          cases henabled : c.critical.enabled with
          | true =>
              rw [henabled, Bool.true_and] at hproblem
              rw [hproblem, Bool.not_false, Bool.true_and, Bool.true_and]
          | false => rfl

/-- The gate is passed where the threshold of the critical alert is crossed: an alert that is
repeated was sent just before. -/
theorem repeatGate_classify_plus :
    ((t.plus now n).measure.classify c .above now (t.plus now n)).state.repeatGate =
      (t.recounted c now n).repeatGate := by
  rw [Measure.repeatGate_classify, alertsCritical_plus hmax ht, not_clearsCritical_plus hmax ht]
  show _ = if t.crosses c now n .critical then t.repeatGate.pass now else t.repeatGate
  cases hcrosses : t.crosses c now n .critical with
  | true => rfl
  | false =>
      rw [Bool.false_or]
      cases hrepeats : t.repeatsCritical c now with
      | true => exact RepeatGate.pass_of_last? (last?_of_repeatsCritical ht hrepeats).1
      | false => rfl

/-- **The state after more occurrences.** -/
theorem state_classify_plus :
    ((t.plus now n).measure.classify c .above now (t.plus now n)).state =
      t.recounted c now n := by
  have hwarning := warning_classify_plus (n := n) hmax ht
  have hcritical := critical_classify_plus (n := n) hmax ht
  have hgate := repeatGate_classify_plus (n := n) hmax ht
  have herror : ((t.plus now n).measure.classify c .above now (t.plus now n)).state.errorSent =
      (t.recounted c now n).errorSent := Measure.errorSent_classify ..
  generalize ((t.plus now n).measure.classify c .above now (t.plus now n)).state = u at *
  obtain ⟨warning, critical, repeatGate, errorSent⟩ := u
  cases hwarning
  cases hcritical
  cases hgate
  cases herror
  rfl

/-- A warning is sent where its threshold is crossed and no critical alert is open. -/
theorem crosses_of_alertsWarning_plus
    (h : (t.plus now n).measure.alertsWarning c .above now (t.plus now n) = true) :
    t.crosses c now n .warning = true ∧ (t.recounted c now n).critical.sent = false := by
  rw [Measure.alertsWarning, armed_plus hmax ht, critical_classify_plus hmax ht] at h
  simp only [Bool.and_eq_true, Bool.not_eq_true', Alarm.raises_eq_true_iff] at h
  obtain ⟨⟨henabled, hafter⟩, ⟨hsent, -⟩, hsilent⟩ := h
  refine ⟨?_, hsilent⟩
  have hcritical : t.critical.sent = false := (Bool.or_eq_false_iff.1 hsilent).1
  have hbefore : t.measure.breaches c .above .warning = false := by
    cases hbefore : t.measure.breaches c .above .warning with
    | true =>
        rcases sent_of_warning_problem ht (Bool.and_eq_true_iff.2 ⟨henabled, hbefore⟩) with h | h
        · cases hsent.symm.trans h
        · cases hcritical.symm.trans h
    | false => rfl
  have henabled' : (c.level .warning).enabled = true := henabled
  rw [crosses, henabled', hbefore, hafter]
  rfl

/-- **What more occurrences bring**: a critical alert that is repeated without an interval, or a
threshold that is crossed. -/
theorem events_classify_plus {e : Event}
    (he : e ∈ ((t.plus now n).measure.classify c .above now (t.plus now n)).events) :
    t.RepeatsAtOnce c ∧ e.severity = .critical ∨ t.Exceeds c now n e := by
  rw [Measure.events_classify, not_clearsCritical_plus hmax ht, not_clearsWarning_plus hmax ht,
    alertsCritical_plus hmax ht, if_neg Bool.false_ne_true, if_neg Bool.false_ne_true,
    List.nil_append, List.nil_append] at he
  rcases List.mem_append.1 he with he | he
  · split at he
    case isTrue halerts =>
        obtain rfl := List.mem_singleton.1 he
        rcases Bool.or_eq_true_iff.1 halerts with hcrosses | hrepeats
        · exact Or.inr ⟨.critical, hcrosses, Or.inl rfl, rfl⟩
        · exact Or.inl ⟨(last?_of_repeatsCritical ht hrepeats).2, rfl⟩
    case isFalse => cases he
  · split at he
    case isTrue halerts =>
        obtain rfl := List.mem_singleton.1 he
        obtain ⟨hcrosses, hsilent⟩ := crosses_of_alertsWarning_plus hmax ht halerts
        exact Or.inr ⟨.warning, hcrosses, Or.inr ⟨rfl, hsilent⟩, rfl⟩
    case isFalse => cases he

end Again

end MetricState

/-! ## Readings -/

/-- The state that a reading of a counter that increased leaves when it is classified again. -/
def Reading.Recounts (c : MetricConfig) (now : Instant) (s s' : MetricState) : Reading → Prop
  | .counter current previous =>
    increase current previous ≠ 0 ∧ s' = s.recounted c now (increase current previous)
  | _ => False

/-- An event that a reading of a counter that increased brings when it is classified again, since
the increase is counted once more. -/
def Reading.Exceeds (c : MetricConfig) (now : Instant) (s : MetricState) (e : Event) :
    Reading → Prop
  | .counter current previous =>
    increase current previous ≠ 0 ∧ s.Exceeds c now (increase current previous) e
  | _ => False

theorem Reading.Recounts.accumulates {r : Reading} {c : MetricConfig} {now : Instant}
    {s s' : MetricState} (h : r.Recounts c now s s') : r.Accumulates := by
  cases r with
  | counter current previous => exact h.1
  | _ => cases h

namespace OccurrenceCounter

variable {k k' : OccurrenceCounter} {now : Instant} {n : Nat}

/-- What was counted last can be counted again, and nothing is stale then. -/
theorem add_again (hperiod : Span.zero ≤ k.period) (hn : 0 < n) (h : k.add now n = .ok k') :
    k'.add now n = .ok (k'.put now n) := by
  have hcalendar : now.minus? k.period ≠ none := minus?_ne_none h
  obtain rfl : k' = (k.aged now).put now n := add_eq_of_ok h
  rw [add_eq, aged_put hperiod hn]
  rwa [period_put, period_aged]

theorem total_le_of_add (hn : 0 < n) (h : k.add now n = .ok k') : k'.total ≤ maxCount := by
  obtain rfl : k' = (k.aged now).put now n := add_eq_of_ok h
  exact total_put_le hn

end OccurrenceCounter

/-- Counting again what was counted last adds to the totals of both levels. -/
theorem countOccurrences_again {s s' t : MetricState} {c : MetricConfig} (hc : c.NonNegative)
    (hs : s.lengths = c.lengths) {now : Instant} {n : Nat} (hn : 0 < n)
    (h : countOccurrences s now n = .ok s') (ht : t.counters = s'.counters) :
    countOccurrences t now n = .ok (t.plus now n) ∧
      ∀ severity, (t.alarm severity).occurrences.total ≤ maxCount := by
  obtain ⟨warning, critical, hw, hcr, rfl⟩ := countOccurrences_eq_ok h
  obtain ⟨htw, htc⟩ := Prod.mk.inj ht
  simp only [MetricState.lengths, MetricConfig.lengths, Alarm.lengths, Prod.mk.injEq] at hs
  obtain ⟨⟨-, hwp⟩, ⟨-, hcp⟩, -⟩ := hs
  constructor
  · rw [countOccurrences, htw, htc, OccurrenceCounter.add_again (hwp ▸ hc.warning) hn hw,
      OccurrenceCounter.add_again (hcp ▸ hc.critical) hn hcr]
    simp only at htw htc
    rw [MetricState.plus, htw, htc]
    rfl
  · intro severity
    cases severity with
    | critical => exact htc ▸ OccurrenceCounter.total_le_of_add hn hcr
    | _ => exact htw ▸ OccurrenceCounter.total_le_of_add hn hw

/-- **A counter that increased is classified again**: the increase is counted once more. -/
theorem Reading.Accumulates.classify_again {r : Reading} (hr : r.Accumulates) {c : MetricConfig}
    (hc : c.NonNegative) {now : Instant} {s : MetricState} (hs : s.lengths = c.lengths)
    {step : Step} (h : r.classify c now s = .ok step) :
    ∃ again, r.classify c now step.state = .ok again ∧
      r.Recounts c now step.state again.state ∧
      ∀ e ∈ again.events, r.Recurs c e ∨ r.Exceeds c now step.state e := by
  have hinterval : step.state.repeatGate.interval = c.repeatInterval :=
    congrArg (·.2.2) ((Reading.lengths_classify h).trans hs)
  cases r with
  | counter current previous =>
      obtain ⟨s₁, hs₁, h⟩ := exists_of_bind_eq_ok h
      have hstep : step.state = (s₁.measure.classify c .above now s₁).state :=
        congrArg Step.state (Except.ok.inj h).symm
      generalize step.state = t at hinterval hstep ⊢
      have hcounters : t.counters = s₁.counters := by
        rw [hstep]
        exact Measure.counters_classify ..
      have hmeasure : t.measure = s₁.measure := by
        rw [MetricState.measure, MetricState.measure, (Prod.mk.inj hcounters).1,
          (Prod.mk.inj hcounters).2]
      have hsettled : t.measure.Settled c .above now t := by
        rw [hmeasure, hstep]
        exact Measure.settled_classify ..
      obtain ⟨hcount, hmax⟩ :=
        countOccurrences_again hc hs (Nat.pos_of_ne_zero hr) hs₁ hcounters
      have hagain : (counter current previous).classify c now t =
          .ok ((t.plus now (increase current previous)).measure.classify c .above now
            (t.plus now (increase current previous))) := by
        rw [classify, classifyIncrease, hcount]
        rfl
      refine ⟨_, hagain, ⟨hr, MetricState.state_classify_plus hmax hsettled⟩, fun e he => ?_⟩
      rcases MetricState.events_classify_plus hmax hsettled he with ⟨hrepeats, he⟩ | hexceeds
      · exact Or.inl ⟨hrepeats.config hinterval, he⟩
      · exact Or.inr ⟨hr, hexceeds⟩
  | _ => cases hr

end NodeAlerts
