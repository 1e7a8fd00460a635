import NodeAlerts.Proofs.Course

/-!
# Bookkeeping of open alerts

The flags of a metric remember which alerts are open.  Here they are held against the events that
were found: in a course of comparisons the flag of a severity is set exactly if the last event about
its threshold is a breach, only what is breached is cleared, and an open alert is sent once more
only where that is intended (`bookkeeping_is_exact`).

Without windows this is so at any times.  With them it takes times that do not run backwards: then a
warning that was due stays due, and so one that is raised anew is sent at once.
-/

namespace NodeAlerts

/-! ## Events about thresholds -/

namespace Event

/-- The severity of the threshold that an event is about, if it is about one. -/
def level? : Event → Option Severity
  | .thresholdBreached severity .. => some severity
  | .thresholdCleared severity .. => some severity
  | .occurrencesBreached severity .. => some severity
  | .occurrencesCleared severity .. => some severity
  | _ => none

/-- The event reports that the threshold of the severity is breached. -/
def Breaches (e : Event) (severity : Severity) : Prop :=
  e.level? = some severity ∧ e.isResolution = false

/-- The event reports that the threshold of the severity is no longer breached. -/
def Clears (e : Event) (severity : Severity) : Prop :=
  e.level? = some severity ∧ e.isResolution = true

variable {e : Event} {severity : Severity}

theorem Breaches.not_clears (h : e.Breaches severity) (severity' : Severity) :
    ¬ e.Clears severity' := by
  rintro ⟨-, hclears⟩
  rw [h.2] at hclears
  cases hclears

theorem Breaches.level?_ne (h : e.Breaches severity) {severity' : Severity}
    (hne : severity ≠ severity') : e.level? ≠ some severity' := by
  rw [h.1]
  exact fun hsome => hne (Option.some.inj hsome)

theorem Clears.level?_ne (h : e.Clears severity) {severity' : Severity}
    (hne : severity ≠ severity') : e.level? ≠ some severity' := by
  rw [h.1]
  exact fun hsome => hne (Option.some.inj hsome)

/-- Whether the last of the events about the threshold of a severity is a breach. -/
def raised (severity : Severity) (events : List Event) : Bool :=
  (events.filter fun e => e.level? = some severity).getLast?.any fun e => !e.isResolution

/-- Among the events is a breach of the threshold that none of the events behind it clears. -/
def Stands (severity : Severity) (events : List Event) : Prop :=
  ∃ past e later, events = past ++ e :: later ∧ e.Breaches severity ∧
    ∀ e' ∈ later, ¬ e'.Clears severity

theorem raised_concat_of_level (h : e.level? = some severity) (events : List Event) :
    raised severity (events ++ [e]) = !e.isResolution := by
  have hkept : [e].filter (fun e => e.level? = some severity) = [e] :=
    List.filter_cons_of_pos (decide_eq_true h)
  rw [raised, List.filter_append, hkept, List.getLast?_concat, Option.any_some]

theorem raised_concat_of_ne (h : e.level? ≠ some severity) (events : List Event) :
    raised severity (events ++ [e]) = raised severity events := by
  have hdropped : [e].filter (fun e => e.level? = some severity) = [] :=
    List.filter_cons_of_neg fun h' => h (of_decide_eq_true h')
  rw [raised, List.filter_append, hdropped, List.append_nil, raised]

/-- A breach that is not cleared is still the last word about its threshold, or another breach
is. -/
theorem Stands.raised {events : List Event} (h : Stands severity events) :
    raised severity events = true := by
  obtain ⟨past, e, later, rfl, he, hlater⟩ := h
  induction later using List.reverseRecOn with
  | nil => rw [raised_concat_of_level he.1, he.2, Bool.not_false]
  | append_singleton later last ih =>
      rw [show past ++ e :: (later ++ [last]) = past ++ e :: later ++ [last] by simp]
      by_cases hlevel : last.level? = some severity
      · have hnot : ¬ last.Clears severity := hlater last (by simp)
        rw [raised_concat_of_level hlevel, Bool.not_eq_true', ← Bool.not_eq_true]
        exact fun hclears => hnot ⟨hlevel, hclears⟩
      · rw [raised_concat_of_ne hlevel]
        exact ih fun e' he' => hlater e' (List.mem_append_left _ he')

/-! ### Events that may be found -/

variable (p : Bool) (events : List Event)

theorem raised_optional_of_breaches (h : e.Breaches severity) :
    raised severity (events ++ if p then [e] else []) = (p || raised severity events) := by
  cases p with
  | true => exact (raised_concat_of_level h.1 events).trans (by rw [h.2]; rfl)
  | false => exact congrArg (raised severity) (List.append_nil events)

theorem raised_optional_of_clears (h : e.Clears severity) :
    raised severity (events ++ if p then [e] else []) = (!p && raised severity events) := by
  cases p with
  | true => exact (raised_concat_of_level h.1 events).trans (by rw [h.2]; rfl)
  | false => exact congrArg (raised severity) (List.append_nil events)

theorem raised_optional_of_ne (h : e.level? ≠ some severity) :
    raised severity (events ++ if p then [e] else []) = raised severity events := by
  cases p with
  | true => exact raised_concat_of_ne h events
  | false => exact congrArg (raised severity) (List.append_nil events)

end Event

/-- An element of a list that starts with an optional one is that one or behind it. -/
theorem optional_append_eq {α : Type} {p : Bool} {x e : α} {l found after : List α}
    (h : (if p then [x] else []) ++ l = found ++ e :: after) :
    (p = true ∧ found = [] ∧ e = x) ∨
      ∃ rest, found = (if p then [x] else []) ++ rest ∧ l = rest ++ e :: after := by
  cases p with
  | false => exact Or.inr ⟨found, rfl, h⟩
  | true =>
      cases found with
      | nil => exact Or.inl ⟨rfl, rfl, (List.cons.inj h).1.symm⟩
      | cons y rest =>
          obtain ⟨rfl, hl⟩ := List.cons.inj h
          exact Or.inr ⟨rest, rfl, hl⟩

/-! ## Windows that have passed -/

namespace WindowTimer

variable {t : WindowTimer} {now : Instant}

/-- What is due stays due. -/
theorem isDue_mono (h : t.isDue now = true) {later : Instant} (hle : now.micros ≤ later.micros) :
    t.isDue later = true := by
  rw [isDue, Option.any_eq_true] at h ⊢
  obtain ⟨start, hstart, hdue⟩ := h
  have hwindow : t.window.micros ≤ now.micros - start.micros := of_decide_eq_true hdue
  refine ⟨start, hstart, decide_eq_true ?_⟩
  show t.window.micros ≤ later.micros - start.micros
  omega

/-- A timer that is due was started, and keeps its start. -/
theorem isDue_start_of_isDue (h : t.isDue now = true) (at' : Instant) :
    (t.start at').isDue now = true := by
  rw [isDue, Option.any_eq_true] at h ⊢
  obtain ⟨start, hstart, hdue⟩ := h
  refine ⟨start, by rw [startedAt?_start, hstart]; rfl, ?_⟩
  rw [window_start]
  exact hdue

end WindowTimer

/-! ## One comparison -/

namespace Measure

variable (m : Measure) (c : MetricConfig) (d : Direction) (now : Instant) (s : MetricState)

theorem breaches_breached (severity : Severity) (age : Span) :
    (m.breached c d severity age).Breaches severity := by
  cases m <;> exact ⟨rfl, rfl⟩

theorem clears_cleared (severity : Severity) : (m.cleared c d severity).Clears severity := by
  cases m <;> exact ⟨rfl, rfl⟩

/-- **The flag of critical alerts** is set by an alert and taken back by a clearing. -/
theorem sent_critical_classify : (m.classify c d now s).state.critical.sent =
    (m.alertsCritical c d now s || (!m.clearsCritical c d s && s.critical.sent)) := by
  rw [critical_classify, alertsCritical, clearsCritical]
  cases hproblem : c.critical.enabled && m.breaches c d .critical with
  | true =>
      rw [(Bool.and_eq_true_iff.1 hproblem).2, if_pos rfl, Alarm.sent_see]
      cases s.critical.sent <;> simp
  | false =>
      show (s.critical.sent && m.breaches c d .critical) = _
      cases s.critical.sent <;> simp

variable {m c d now s}

/-- A warning is raised anew where no critical alert is open any more. -/
theorem sent_critical_of_rearms (h : m.rearms c d s = true) :
    (m.classify c d now s).state.critical.sent = false := by
  have hclears : m.clearsCritical c d s = true := (Bool.and_eq_true_iff.1 h).1
  have hnot : m.breaches c d .critical = false := by
    rw [clearsCritical, Bool.and_eq_true, Bool.not_eq_true'] at hclears
    exact hclears.2
  rw [critical_classify, hnot, Bool.and_false]
  show (s.critical.sent && false) = false
  exact Bool.and_false _

/-- **The flag of warnings** is set by an alert and taken back by a clearing, if an open warning is
one that is due. -/
theorem sent_warning_classify
    (hdue : m.windowed = true → s.warning.sent = true → s.warning.window.isDue now = true) :
    (m.classify c d now s).state.warning.sent =
      (m.alertsWarning c d now s || (!m.clearsWarning c d s && s.warning.sent)) := by
  rw [warning_classify, alertsWarning]
  cases hproblem : c.warning.enabled && m.breaches c d .warning with
  | false =>
      show (s.warning.sent && m.breaches c d .warning) = _
      rw [clearsWarning]
      cases s.warning.sent <;> simp
  | true =>
      rw [clearsWarning_of_breached s (Bool.and_eq_true_iff.1 hproblem).2, if_pos rfl,
        Alarm.sent_see, armed, Alarm.sent_rearm, Bool.not_false, Bool.true_and, Bool.true_and]
      cases hrearms : m.rearms c d s with
      | false => rw [Bool.not_false, Bool.and_true, Bool.or_comm]
      | true =>
          rw [sent_critical_of_rearms hrearms, Bool.not_true, Bool.and_false, Bool.false_or,
            Bool.not_false, Bool.and_true]
          -- raised anew: it counts as not sent, and so it has to be due now
          cases hsent : s.warning.sent with
          | false => rw [Bool.or_false]
          | true =>
              rw [Bool.or_true, Alarm.raises_eq_true_iff]
              refine ⟨by rw [Alarm.sent_rearm, hsent]; rfl, ?_⟩
              cases hwindowed : m.windowed with
              | false => exact Or.inl (by rw [start, hwindowed]; rfl)
              | true =>
                  rw [start, hwindowed]
                  exact Or.inr (WindowTimer.isDue_start_of_isDue (hdue hwindowed hsent) now)

end Measure

/-- What is found is in order, at a beat with the events `now` and after `earlier` events: only what
is breached is cleared; an open critical alert is sent once more only if the configuration says so;
and an open warning only on the problem side above a threshold, where a critical alert was cleared
at the same beat. -/
structure Event.InOrder (c : MetricConfig) (d : Direction) (now earlier : List Event) (e : Event) :
    Prop where
  /-- What is cleared was breached. -/
  cleared : ∀ severity, e.Clears severity → Event.raised severity earlier = true
  /-- Critical alerts are repeated only if the configuration says so. -/
  critical : e.Breaches .critical → Event.Stands .critical earlier → c.repeats = true
  /-- Warnings are raised anew only beside a critical alert that is cleared. -/
  warning : e.Breaches .warning → Event.Stands .warning earlier →
    d = .above ∧ ∃ e' ∈ now, e'.Clears .critical

namespace Event.InOrder

variable {c : MetricConfig} {d : Direction} {now earlier : List Event} {e : Event}

theorem of_clears {severity : Severity} (h : e.Clears severity)
    (hraised : Event.raised severity earlier = true) : e.InOrder c d now earlier where
  cleared severity' h' := by
    obtain rfl : severity = severity' := Option.some.inj (h.1.symm.trans h'.1)
    exact hraised
  critical h' := absurd h (h'.not_clears _)
  warning h' := absurd h (h'.not_clears _)

theorem of_breaches_critical (h : e.Breaches .critical)
    (hrepeats : Event.raised .critical earlier = true → c.repeats = true) :
    e.InOrder c d now earlier where
  cleared severity h' := absurd h' (h.not_clears severity)
  critical _ hstands := hrepeats hstands.raised
  warning h' := absurd h'.1 (h.level?_ne (by decide))

theorem of_breaches_warning (h : e.Breaches .warning)
    (hanew : Event.raised .warning earlier = true →
      d = .above ∧ ∃ e' ∈ now, e'.Clears .critical) : e.InOrder c d now earlier where
  cleared severity h' := absurd h' (h.not_clears severity)
  critical h' := absurd h'.1 (h.level?_ne (by decide))
  warning _ hstands := hanew hstands.raised

end Event.InOrder

namespace Measure

variable {m : Measure} {c : MetricConfig} {d : Direction} {now : Instant} {s : MetricState}
  {past : List Event}

theorem repeats_of_alertsCritical (h : m.alertsCritical c d now s = true)
    (hsent : s.critical.sent = true) : c.repeats = true := by
  rw [alertsCritical, hsent, if_pos rfl, Bool.and_eq_true] at h
  exact (Bool.and_eq_true_iff.1 h.2).1

theorem rearms_of_alertsWarning (h : m.alertsWarning c d now s = true)
    (hsent : s.warning.sent = true) : m.rearms c d s = true := by
  rw [alertsWarning, Bool.and_eq_true, Bool.and_eq_true, Bool.and_eq_true,
    Alarm.raises_eq_true_iff, armed, Alarm.sent_rearm, hsent, Bool.true_and,
    Bool.not_eq_false'] at h
  exact h.2.1.1

/-- **What one comparison finds is in order**, if the flags are. -/
theorem inOrder_classify
    (hflags : ∀ severity, severity = .warning ∨ severity = .critical →
      s.isSent severity = Event.raised severity past) {found after : List Event} {e : Event}
    (h : (m.classify c d now s).events = found ++ e :: after) :
    e.InOrder c d (m.classify c d now s).events (past ++ found) := by
  have hwarning : s.warning.sent = Event.raised .warning past := hflags .warning (Or.inl rfl)
  have hcritical : s.critical.sent = Event.raised .critical past := hflags .critical (Or.inr rfl)
  have hevents := m.events_classify c d now s
  rw [List.append_assoc, List.append_assoc] at hevents
  obtain ⟨hclears, rfl, rfl⟩ | ⟨found₁, rfl, h₁⟩ := optional_append_eq (hevents.symm.trans h)
  · -- the critical alert is cleared
    refine .of_clears (m.clears_cleared ..) ?_
    rw [List.append_nil, ← hcritical]
    exact (Bool.and_eq_true_iff.1 hclears).1
  obtain ⟨hclears, rfl, rfl⟩ | ⟨found₂, rfl, h₂⟩ := optional_append_eq h₁
  · -- the warning is cleared
    refine .of_clears (m.clears_cleared ..) ?_
    rw [List.append_nil,
      Event.raised_optional_of_ne _ _ ((m.clears_cleared ..).level?_ne (by decide)), ← hwarning]
    exact (Bool.and_eq_true_iff.1 hclears).1
  rw [← List.append_assoc, ← List.append_assoc]
  obtain ⟨halerts, rfl, rfl⟩ | ⟨found₃, rfl, h₃⟩ := optional_append_eq h₂
  · -- a critical alert is sent
    refine .of_breaches_critical (m.breaches_breached ..) fun hraised => ?_
    rw [List.append_nil,
      Event.raised_optional_of_ne _ _ ((m.clears_cleared ..).level?_ne (by decide)),
      Event.raised_optional_of_clears _ _ (m.clears_cleared ..), ← hcritical] at hraised
    exact repeats_of_alertsCritical halerts (Bool.and_eq_true_iff.1 hraised).2
  rw [← List.append_assoc]
  obtain ⟨halerts, rfl, rfl⟩ | ⟨found₄, rfl, h₄⟩ :=
    optional_append_eq ((List.append_nil _).trans h₃)
  · -- a warning is sent
    refine .of_breaches_warning (m.breaches_breached ..) fun hraised => ?_
    rw [List.append_nil,
      Event.raised_optional_of_ne _ _ ((m.breaches_breached ..).level?_ne (by decide)),
      Event.raised_optional_of_clears _ _ (m.clears_cleared ..),
      Event.raised_optional_of_ne _ _ ((m.clears_cleared ..).level?_ne (by decide)),
      ← hwarning] at hraised
    have hrearms := rearms_of_alertsWarning halerts (Bool.and_eq_true_iff.1 hraised).2
    rw [rearms, Bool.and_eq_true, Bool.and_eq_true, Bool.and_eq_true, decide_eq_true_eq] at hrearms
    obtain ⟨hclears, ⟨habove, -⟩, -⟩ := hrearms
    refine ⟨habove, m.cleared c d .critical, ?_, m.clears_cleared ..⟩
    rw [hevents, hclears]
    exact List.mem_cons_self
  · exact absurd h₄ (by simp)

/-- **The flags stay in order** in a comparison. -/
theorem isSent_classify {severity : Severity}
    (hseverity : severity = .warning ∨ severity = .critical)
    (hsent : s.isSent severity = Event.raised severity past)
    (hdue : m.windowed = true → s.warning.sent = true → s.warning.window.isDue now = true) :
    (m.classify c d now s).state.isSent severity =
      Event.raised severity (past ++ (m.classify c d now s).events) := by
  rw [events_classify]
  simp only [← List.append_assoc]
  rcases hseverity with rfl | rfl
  · rw [Event.raised_optional_of_breaches _ _ (m.breaches_breached ..),
      Event.raised_optional_of_ne _ _ ((m.breaches_breached ..).level?_ne (by decide)),
      Event.raised_optional_of_clears _ _ (m.clears_cleared ..),
      Event.raised_optional_of_ne _ _ ((m.clears_cleared ..).level?_ne (by decide)), ← hsent]
    exact sent_warning_classify hdue
  · rw [Event.raised_optional_of_ne _ _ ((m.breaches_breached ..).level?_ne (by decide)),
      Event.raised_optional_of_breaches _ _ (m.breaches_breached ..),
      Event.raised_optional_of_ne _ _ ((m.clears_cleared ..).level?_ne (by decide)),
      Event.raised_optional_of_clears _ _ (m.clears_cleared ..), ← hsent]
    exact m.sent_critical_classify c d now s

end Measure

/-! ## Courses -/

namespace Course

/-- The event `e` was found at the beat `y`, after the `earlier` events of the course. -/
def Finds (K : Course) (earlier : List Event) (y : Beat) (e : Event) : Prop :=
  ∃ past later found after, K.beats = past ++ y :: later ∧
    y.step.events = found ++ e :: after ∧ earlier = past.flatMap (·.step.events) ++ found

/-- What is found with one more sighting was found before or comes of it. -/
theorem Finds.of_add {K : Course} {x : Sighting} {step : Step} {earlier : List Event} {y : Beat}
    {e : Event} (h : (K.add x step).Finds earlier y e) :
    K.Finds earlier y e ∨ y.step = step ∧
      ∃ found after, step.events = found ++ e :: after ∧ earlier = K.events ++ found := by
  obtain ⟨past, later, found, after, hbeats, hevents, rfl⟩ := h
  rcases split_beats_add hbeats with ⟨rfl, rfl, -⟩ | ⟨later, -, hbeats⟩
  · exact Or.inr ⟨rfl, found, after, hevents, rfl⟩
  · exact Or.inl ⟨past, later, found, after, hbeats, hevents, rfl⟩

/-- The alerts of a course are accounted for. -/
structure Bookkept (K : Course) (c : MetricConfig) (d : Direction) : Prop where
  /-- A flag is set exactly if the last event about its threshold is a breach. -/
  flags : ∀ severity, severity = .warning ∨ severity = .critical →
    K.state.isSent severity = Event.raised severity K.events
  /-- What was found was in order. -/
  inOrder : ∀ earlier y e, K.Finds earlier y e → e.InOrder c d y.step.events earlier

end Course

/-! ### Warnings that were due -/

theorem Measure.isDue_classify_warning {m : Measure} {c : MetricConfig} {d : Direction}
    {now t : Instant} {s : MetricState} (hwindowed : m.windowed = true)
    (henabled : s.warning.sent = true → c.warning.enabled = true)
    (hdue : s.warning.sent = true → s.warning.window.isDue t = true)
    (hle : now.micros ≤ t.micros)
    (hsent : (m.classify c d now s).state.warning.sent = true) :
    (m.classify c d now s).state.warning.window.isDue t = true := by
  rw [warning_classify] at hsent ⊢
  have hstart : m.start now = some now := if_pos hwindowed
  cases hproblem : c.warning.enabled && m.breaches c d .warning with
  | false =>
      rw [hproblem, if_neg Bool.false_ne_true, Alarm.sent_lapse, Bool.and_eq_true] at hsent
      rw [henabled hsent.1, hsent.2] at hproblem
      cases hproblem
  | true =>
      rw [hproblem, if_pos rfl, Alarm.sent_see, Bool.or_eq_true, Bool.and_eq_true,
        Alarm.raises_eq_true_iff, hstart] at hsent
      rw [if_pos rfl, Alarm.isDue_see, hstart]
      rcases hsent with hsent | ⟨⟨-, hnone | hnow⟩, -⟩
      · exact WindowTimer.isDue_start_of_isDue (hdue (Bool.and_eq_true_iff.1 hsent).1) now
      · cases hnone
      · exact WindowTimer.isDue_mono hnow hle

/-- The times of the sightings do not run backwards. -/
def Chronological (xs : List Sighting) : Prop :=
  xs.Pairwise fun x y => x.time.micros ≤ y.time.micros

theorem chronological_concat_iff {xs : List Sighting} {x : Sighting} :
    Chronological (xs ++ [x]) ↔
      Chronological xs ∧ ∀ y ∈ xs, y.time.micros ≤ x.time.micros := by
  simp [Chronological, List.pairwise_append]

namespace Comparison

variable {k : Comparison} {c : MetricConfig} {xs : List Sighting} {K : Course}

/-- With windows an open warning was due, and so it is at all later times. -/
theorem isDue_of_sent (hwindowed : k.windowed = true) (hreads : ∀ x ∈ xs, k.Reads x.reading)
    (h : c.course xs = .ok K) (hsent : K.state.warning.sent = true) {t : Instant}
    (ht : ∀ x ∈ xs, x.time.micros ≤ t.micros) : K.state.warning.window.isDue t = true := by
  refine course_induction (P := fun xs K => (∀ x ∈ xs, x.time.micros ≤ t.micros) →
    (K.state.warning.sent = true → c.warning.enabled = true) ∧
    (K.state.warning.sent = true → K.state.warning.window.isDue t = true)) ?_ ?_ hreads h ht
    |>.2 hsent
  · intro _
    exact ⟨fun h => (nomatch h), fun h => (nomatch h)⟩
  · rintro xs x K m warning critical _ _ ih hm rfl - ht
    obtain ⟨henabled, hdue⟩ := ih fun y hy => ht y (List.mem_append_left _ hy)
    refine ⟨m.enabled_of_isSent_classify .warning henabled, fun hsent => ?_⟩
    exact Measure.isDue_classify_warning (hm.trans hwindowed) henabled hdue
      (ht x (List.mem_append_right _ (List.mem_singleton_self x))) hsent

theorem bookkept_course (hreads : ∀ x ∈ xs, k.Reads x.reading)
    (htimes : k.windowed = true → Chronological xs) (h : c.course xs = .ok K) :
    K.Bookkept c k.direction := by
  refine course_induction (P := fun xs K => (∀ x ∈ xs, k.Reads x.reading) →
    (k.windowed = true → Chronological xs) → K.Bookkept c k.direction) ?_ ?_ hreads h hreads htimes
  · intro _ _
    constructor
    · intro severity _
      rw [Course.isSent_start, Course.events_start]
      rfl
    · rintro earlier y e ⟨past, later, found, after, hbeats, -⟩
      exact absurd hbeats (by simp [Course.start])
  · rintro xs x K m warning critical _ hK ih hm rfl - hreads htimes
    have hreads' : ∀ y ∈ xs, k.Reads y.reading := fun y hy => hreads y (List.mem_append_left _ hy)
    obtain ⟨hflags, hinOrder⟩ := ih hreads' fun hk => (chronological_concat_iff.1 (htimes hk)).1
    have hdue : m.windowed = true → K.state.warning.sent = true →
        K.state.warning.window.isDue x.time = true := by
      intro hwindowed hsent
      have hk : k.windowed = true := hm.symm.trans hwindowed
      exact isDue_of_sent hk hreads' hK hsent (chronological_concat_iff.1 (htimes hk)).2
    have hflags' : ∀ severity, severity = .warning ∨ severity = .critical →
        (K.state.recount warning critical).isSent severity = Event.raised severity K.events := by
      intro severity hseverity
      rw [MetricState.isSent_recount]
      exact hflags severity hseverity
    constructor
    · intro severity hseverity
      rw [Course.events_add, Course.state_add]
      exact Measure.isSent_classify hseverity (hflags' severity hseverity) hdue
    · intro earlier y e hfinds
      rcases hfinds.of_add with hfinds | ⟨hy, found, after, hevents, rfl⟩
      · exact hinOrder earlier y e hfinds
      · rw [hy]
        exact Measure.inOrder_classify hflags' hevents

end Comparison

/-- **Bookkeeping is exact.**  In a course of readings that are compared with the thresholds in one
way (over periods that start in the calendar, where occurrences are counted, and at times that do
not run backwards, where a breach has to last) the flags say which alerts are open, and what is
found is in order: nothing is cleared that is not open, and nothing open is sent once more but
repeated critical alerts and warnings beside a critical alert that is cleared. -/
theorem bookkeeping_is_exact (c : MetricConfig) (k : Comparison) (xs : List Sighting)
    (hreads : ∀ x ∈ xs, k.Reads x.reading) (hcovers : ∀ x ∈ xs, c.Covers x)
    (htimes : k.windowed = true → Chronological xs) :
    ∃ K, c.course xs = .ok K ∧ K.Bookkept c k.direction := by
  obtain ⟨K, hK⟩ := MetricConfig.exists_course hcovers
  exact ⟨K, hK, Comparison.bookkept_course hreads htimes hK⟩

/-- Warnings from 3 on that last for five seconds, and critical alerts from 7 on for ten. -/
def persistentLevels : MetricConfig :=
  ⟨"value", "chain_1", true, ⟨true, 3, ⟨5000000⟩⟩, ⟨true, 7, ⟨10000000⟩⟩, false, ⟨0⟩, none⟩

/-- A value that rises until it is critical, and falls again. -/
def riseAndFall : List Sighting :=
  [(⟨0⟩, 5), (⟨5000000⟩, 5), (⟨6000000⟩, 8), (⟨16000000⟩, 8), (⟨17000000⟩, 5),
    (⟨18000000⟩, 1)].map (Sighting.ofValue .above true)

/-- The bookkeeping of a warning, a critical alert, its clearing beside the warning anew, and the
clearing of the warning. -/
theorem bookkeeping_is_exact_riseAndFall :
    (∀ x ∈ riseAndFall, (Comparison.value .above true).Reads x.reading) ∧
      (∀ x ∈ riseAndFall, persistentLevels.Covers x) ∧ Chronological riseAndFall ∧
      ∃ K, persistentLevels.course riseAndFall = .ok K ∧ K.Bookkept persistentLevels .above ∧
        K.beats.map (fun y => y.step.events.map fun e => (e.level?, e.isResolution)) =
          [[], [(some .warning, false)], [], [(some .critical, false)],
            [(some .critical, true), (some .warning, false)], [(some .warning, true)]] := by
  have hreads : ∀ x ∈ riseAndFall, (Comparison.value .above true).Reads x.reading :=
    List.forall_mem_map.2 fun _ _ => ⟨rfl, rfl⟩
  have hcovers : ∀ x ∈ riseAndFall, persistentLevels.Covers x :=
    List.forall_mem_map.2 fun _ _ h => nomatch h
  have htimes : Chronological riseAndFall := by
    unfold Chronological
    decide
  obtain ⟨K, hK, hbookkept⟩ := bookkeeping_is_exact persistentLevels (.value .above true)
    riseAndFall hreads hcovers fun _ => htimes
  have hrun : (persistentLevels.course riseAndFall).map (fun K =>
      K.beats.map (fun y => y.step.events.map fun e => (e.level?, e.isResolution))) =
        .ok [[], [(some .warning, false)], [], [(some .critical, false)],
          [(some .critical, true), (some .warning, false)], [(some .warning, true)]] := by
    decide +kernel
  rw [hK] at hrun
  exact ⟨hreads, hcovers, htimes, K, hK, hbookkept, Except.ok.inj hrun⟩

end NodeAlerts
