import Mathlib.Data.List.DropRight
import NodeAlerts.Proofs.Course

/-!
# Problems that last

Where a breach has to last for a window, a metric is read like this: the `Course.streak` of a
severity are the beats since the reading last failed to breach its threshold.  What the timers do
step by step comes down to the streaks (`windows_fire_on_persistence`): a timer runs since the first
beat of the streak, a critical alert is open if the streak has lasted for the window at one of its
beats, alerts tell how long the streak has lasted, and a warning is sent at a beat if the streak has
lasted for the window by then, no critical alert is open behind it, and the warning was not open or
is raised anew.

The times of the beats are free: nothing here depends on their order.
-/

namespace NodeAlerts

/-! ## Alerts among the events -/

theorem Measure.severity_cleared (m : Measure) (c : MetricConfig) (d : Direction)
    (severity : Severity) : (m.cleared c d severity).severity = .info := by
  cases m <;> rfl

theorem mem_optional {α : Type} {p : Bool} {y e : α} :
    e ∈ (if p then [y] else []) ↔ p = true ∧ e = y := by
  cases p <;> simp

namespace Measure

variable {m : Measure} {c : MetricConfig} {d : Direction} {now : Instant} {s : MetricState}
  {e : Event}

theorem mem_events_iff : e ∈ (m.classify c d now s).events ↔
    m.clearsCritical c d s = true ∧ e = m.cleared c d .critical ∨
    m.clearsWarning c d s = true ∧ e = m.cleared c d .warning ∨
    m.alertsCritical c d now s = true ∧
      e = m.breached c d .critical ((m.classify c d now s).state.critical.window.elapsed now) ∨
    m.alertsWarning c d now s = true ∧
      e = m.breached c d .warning ((m.classify c d now s).state.warning.window.elapsed now) := by
  rw [events_classify, List.mem_append, List.mem_append, List.mem_append, mem_optional,
    mem_optional, mem_optional, mem_optional, or_assoc, or_assoc]

/-- The critical alerts among the events: one at most. -/
theorem mem_events_critical_iff :
    e ∈ (m.classify c d now s).events ∧ e.severity = .critical ↔
      m.alertsCritical c d now s = true ∧ e = m.breached c d .critical
        ((m.classify c d now s).state.critical.window.elapsed now) := by
  rw [mem_events_iff]
  constructor
  · rintro ⟨⟨-, rfl⟩ | ⟨-, rfl⟩ | h | ⟨-, rfl⟩, hseverity⟩
    · cases (m.severity_cleared c d .critical).symm.trans hseverity
    · cases (m.severity_cleared c d .warning).symm.trans hseverity
    · exact h
    · cases (m.severity_breached c d .warning _).symm.trans hseverity
  · rintro ⟨halerts, rfl⟩
    exact ⟨Or.inr (Or.inr (Or.inl ⟨halerts, rfl⟩)), m.severity_breached ..⟩

/-- The warnings among the events: one at most. -/
theorem mem_events_warning_iff :
    e ∈ (m.classify c d now s).events ∧ e.severity = .warning ↔
      m.alertsWarning c d now s = true ∧ e = m.breached c d .warning
        ((m.classify c d now s).state.warning.window.elapsed now) := by
  rw [mem_events_iff]
  constructor
  · rintro ⟨⟨-, rfl⟩ | ⟨-, rfl⟩ | ⟨-, rfl⟩ | h, hseverity⟩
    · cases (m.severity_cleared c d .critical).symm.trans hseverity
    · cases (m.severity_cleared c d .warning).symm.trans hseverity
    · cases (m.severity_breached c d .critical _).symm.trans hseverity
    · exact h
  · rintro ⟨halerts, rfl⟩
    exact ⟨Or.inr (Or.inr (Or.inr ⟨halerts, rfl⟩)), m.severity_breached ..⟩

end Measure

/-! ## Streaks -/

namespace Beat

/-- When the metric was read. -/
def time (b : Beat) : Instant := b.sighting.time

/-- Whether the reading breached the threshold of a severity. -/
def breaches (b : Beat) (c : MetricConfig) (severity : Severity) : Bool :=
  b.sighting.reading.breaches c b.step.state severity

/-- An alert of the severity was sent. -/
def Alerts (b : Beat) (severity : Severity) : Prop :=
  ∃ e ∈ b.step.events, e.severity = severity

end Beat

namespace Course

variable (K : Course) (c : MetricConfig) (severity : Severity)

/-- The longest block of beats at the end of the course that all breach the threshold of the
severity. -/
def streak : List Beat := K.beats.rtakeWhile fun b => b.breaches c severity

/-- When the streak started. -/
def streakStart? : Option Instant := (K.streak c severity).head?.map Beat.time

/-- Whether the streak has lasted for the window of the severity at a time. -/
def lastsAt (now : Instant) : Bool :=
  (K.streakStart? c severity).any fun start => decide ((c.level severity).window ≤ now.since start)

variable (d : Direction)

/-- The event is the breach of the threshold of the severity by the value read at the beat, for as
long as the streak has lasted by then. -/
def Reports (b : Beat) (e : Event) : Prop :=
  ∃ value start, b.sighting.reading = .gauge value d true ∧
    K.streakStart? c severity = some start ∧
    e = .thresholdBreached severity value (c.level severity).threshold d
      (some (b.time.since start))

/-- The timers follow the streaks. -/
structure Timed : Prop where
  /-- A timer is set to the window of its severity. -/
  window : ∀ severity, (K.state.alarm severity).window.window = (c.level severity).window
  /-- The timer of an enabled severity runs since the start of the streak. -/
  timer : ∀ severity, (K.state.alarm severity).window.startedAt? =
    if (c.level severity).enabled then K.streakStart? c severity else none

/-- Timers and alerts follow the streaks. -/
structure Persists : Prop extends K.Timed c where
  /-- A critical alert is open if the streak lasted for the window at one of its beats. -/
  critical_sent : K.state.critical.sent = true ↔
    c.critical.enabled = true ∧
      ∃ b ∈ K.streak c .critical, K.lastsAt c .critical b.time = true
  /-- The first critical alert of a streak is sent at the first beat at which it has lasted for the
  window. -/
  critical_first : ∀ before b after, K.streak c .critical = before ++ b :: after →
    (∀ b' ∈ before, K.lastsAt c .critical b'.time = false) →
    (b.Alerts .critical ↔ c.critical.enabled = true ∧ K.lastsAt c .critical b.time = true)
  /-- The critical alerts of a streak report how long it has lasted. -/
  critical_reports : ∀ b ∈ K.streak c .critical, ∀ e ∈ b.step.events, e.severity = .critical →
    K.Reports c .critical d b e
  /-- There are no critical alerts outside the streaks. -/
  critical_breaches : ∀ b ∈ K.beats, b.Alerts .critical → b.breaches c .critical = true
  /-- A warning is sent at the latest beat if the streak has lasted for the window, no critical
  alert is open behind it, and the warning was not open before or is raised anew. -/
  warning : ∀ earlier b, K.beats = earlier ++ [b] → (b.Alerts .warning ↔
    c.warning.enabled = true ∧ K.lastsAt c .warning b.time = true ∧
      K.state.critical.sent = false ∧
      (b.before.warning.sent = false ∨ d = .above ∧
        ∃ value, .thresholdCleared .critical value c.critical.threshold d ∈ b.step.events))
  /-- A warning at the latest beat reports how long the streak has lasted. -/
  warning_reports : ∀ earlier b, K.beats = earlier ++ [b] → ∀ e ∈ b.step.events,
    e.severity = .warning → K.Reports c .warning d b e
  /-- If the streak has lasted for the window and no critical alert is open, a warning is. -/
  warning_sent : ∀ earlier b, K.beats = earlier ++ [b] → c.warning.enabled = true →
    K.lastsAt c .warning b.time = true → K.state.critical.sent = false →
    K.state.warning.sent = true
  /-- A warning that is open was sent within the streak. -/
  warning_alerted : K.state.warning.sent = true →
    c.warning.enabled = true ∧ ∃ b ∈ K.streak c .warning, b.Alerts .warning

/-! ## One more value -/

variable (x : Instant × Float)

/-- The beat of one more value that has to last for a window. -/
def beat : Beat :=
  ⟨.ofValue d true x, K.state, (Measure.value x.2 true).classify c d x.1 K.state⟩

/-- The course with one more value that has to last for a window. -/
def next : Course := ⟨(K.beat c d x).step.state, K.beats ++ [K.beat c d x]⟩

theorem state_next : (K.next c d x).state = (K.beat c d x).step.state := rfl

theorem step_beat :
    (K.beat c d x).step = (Measure.value x.2 true).classify c d x.1 K.state := rfl

theorem breaches_beat : (K.beat c d x).breaches c severity =
    (Measure.value x.2 true).breaches c d severity := rfl

theorem step_ofValue : K.step c (.ofValue d true x) = .ok (K.next c d x) := rfl

theorem streak_next : (K.next c d x).streak c severity =
    if (K.beat c d x).breaches c severity then K.streak c severity ++ [K.beat c d x] else [] :=
  List.rtakeWhile_concat ..

variable {K c d x severity}

theorem mem_streak_next {b : Beat} : b ∈ (K.next c d x).streak c severity ↔
    (K.beat c d x).breaches c severity = true ∧
      (b ∈ K.streak c severity ∨ b = K.beat c d x) := by
  rw [streak_next]
  cases (K.beat c d x).breaches c severity <;> simp

theorem streakStart?_next (h : (K.beat c d x).breaches c severity = true) :
    (K.next c d x).streakStart? c severity = some ((K.streakStart? c severity).getD x.1) := by
  rw [streakStart?, streak_next, if_pos h, List.head?_append, streakStart?]
  cases (K.streak c severity).head? <;> rfl

theorem streakStart?_next_of_not (h : (K.beat c d x).breaches c severity = false) :
    (K.next c d x).streakStart? c severity = none := by
  rw [streakStart?, streak_next, h]
  rfl

/-- A streak keeps its start. -/
theorem streakStart?_next_of_mem (h : (K.beat c d x).breaches c severity = true) {b : Beat}
    (hb : b ∈ K.streak c severity) :
    (K.next c d x).streakStart? c severity = K.streakStart? c severity := by
  rw [streakStart?_next h, streakStart?]
  cases hstreak : K.streak c severity with
  | nil =>
      rw [hstreak] at hb
      cases hb
  | cons first rest => rfl

theorem lastsAt_next_of_mem (h : (K.beat c d x).breaches c severity = true) {b : Beat}
    (hb : b ∈ K.streak c severity) (now : Instant) :
    (K.next c d x).lastsAt c severity now = K.lastsAt c severity now := by
  rw [lastsAt, streakStart?_next_of_mem h hb, lastsAt]

/-! ### Timers -/

variable (K c d x) in
theorem critical_next : (K.next c d x).state.critical =
    if c.critical.enabled && (K.beat c d x).breaches c .critical
    then K.state.critical.see (some x.1) x.1 false
    else K.state.critical.lapse ((K.beat c d x).breaches c .critical) := by
  rw [state_next, step_beat, Measure.critical_classify, breaches_beat]
  rfl

variable (K c d x) in
theorem warning_next : (K.next c d x).state.warning =
    if c.warning.enabled && (K.beat c d x).breaches c .warning
    then ((Measure.value x.2 true).armed c d K.state).see (some x.1) x.1
      (K.next c d x).state.critical.sent
    else K.state.warning.lapse ((K.beat c d x).breaches c .warning) := by
  rw [state_next, step_beat, Measure.warning_classify, breaches_beat]
  rfl

variable (K c d x severity) in
/-- What becomes of an alarm: it sees a problem, if its level is enabled and its threshold breached,
and lapses else. -/
theorem exists_alarm_next : ∃ (a : Alarm) (silenced : Bool),
    a.window = (K.state.alarm severity).window ∧
    (K.next c d x).state.alarm severity =
      if (c.level severity).enabled && (K.beat c d x).breaches c severity
      then a.see (some x.1) x.1 silenced
      else (K.state.alarm severity).lapse ((K.beat c d x).breaches c severity) := by
  cases severity with
  | critical => exact ⟨K.state.critical, _, rfl, K.critical_next c d x⟩
  | _ => exact ⟨(Measure.value x.2 true).armed c d K.state, _, rfl, K.warning_next c d x⟩

theorem timed_start (c : MetricConfig) : (start c).Timed c where
  window severity := by cases severity <;> rfl
  timer severity := by
    rw [show (start c).streakStart? c severity = none from rfl, ite_self]
    cases severity <;> rfl

/-- The problem counts since the start of the streak. -/
theorem Timed.startedAt?_observe (h : K.Timed c) {a : Alarm}
    (ha : a.window = (K.state.alarm severity).window)
    (henabled : (c.level severity).enabled = true)
    (hbreached : (K.beat c d x).breaches c severity = true) :
    (a.observe (some x.1)).window.startedAt? = (K.next c d x).streakStart? c severity := by
  show (a.window.start x.1).startedAt? = _
  rw [WindowTimer.startedAt?_start, ha, h.timer, if_pos henabled, streakStart?_next hbreached]

/-- **The timers follow the streaks**, with one more value. -/
theorem Timed.next (h : K.Timed c) (x : Instant × Float) : (K.next c d x).Timed c where
  window severity := by
    have hlengths : (K.next c d x).state.lengths = K.state.lengths := by
      rw [state_next, step_beat, Measure.lengths_classify]
    rw [← h.window]
    cases severity with
    | critical => exact congrArg (fun lengths => lengths.2.1.1) hlengths
    | _ => exact congrArg (fun lengths => lengths.1.1) hlengths
  timer severity := by
    obtain ⟨a, silenced, ha, halarm⟩ := exists_alarm_next K c severity d x
    rw [halarm]
    cases henabled : (c.level severity).enabled with
    | false => rfl
    | true =>
        cases hbreached : (K.beat c d x).breaches c severity with
        | false =>
            rw [streakStart?_next_of_not hbreached, if_pos rfl]
            exact Alarm.startedAt?_lapse _ _
        | true =>
            rw [Bool.and_self, if_pos rfl, if_pos rfl, Alarm.startedAt?_see,
              h.startedAt?_observe ha henabled hbreached]

/-- A problem that is seen is due if the streak has lasted for the window. -/
theorem Timed.isDue_observe (h : K.Timed c) {a : Alarm}
    (ha : a.window = (K.state.alarm severity).window)
    (henabled : (c.level severity).enabled = true)
    (hbreached : (K.beat c d x).breaches c severity = true) (now : Instant) :
    (a.observe (some x.1)).window.isDue now = (K.next c d x).lastsAt c severity now := by
  have hwindow : (a.observe (some x.1)).window.window = (c.level severity).window := by
    show (a.window.start x.1).window = _
    rw [WindowTimer.window_start, ha, h.window]
  rw [WindowTimer.isDue, h.startedAt?_observe ha henabled hbreached, hwindow, lastsAt]

theorem Timed.raises_eq (h : K.Timed c) (severity : Severity) {a : Alarm}
    (ha : a.window = (K.state.alarm severity).window)
    (henabled : (c.level severity).enabled = true)
    (hbreached : (K.beat c d x).breaches c severity = true) :
    a.raises (some x.1) x.1 = (!a.sent && (K.next c d x).lastsAt c severity x.1) := by
  rw [Alarm.raises, h.isDue_observe ha henabled hbreached, Option.isNone_some, Bool.false_or]

/-- A streak that has lasted at all ends in a breach. -/
theorem breaches_of_lastsAt {now : Instant}
    (h : (K.next c d x).lastsAt c severity now = true) :
    (K.beat c d x).breaches c severity = true := by
  cases hbreached : (K.beat c d x).breaches c severity with
  | true => rfl
  | false =>
      rw [lastsAt, streakStart?_next_of_not hbreached] at h
      cases h

/-! ### Critical alerts -/

variable (x) in
/-- A critical alert is open at a breach if it was open before or is due by now. -/
theorem Persists.sent_critical_next (h : K.Persists c d) :
    (K.next c d x).state.critical.sent =
      ((c.critical.enabled && (K.beat c d x).breaches c .critical) &&
        (K.state.critical.sent || (K.next c d x).lastsAt c .critical x.1)) := by
  rw [critical_next]
  cases hproblem : c.critical.enabled && (K.beat c d x).breaches c .critical with
  | false =>
      exact Alarm.sent_lapse_of_no_problem (fun hsent => (h.critical_sent.1 hsent).1) hproblem
  | true =>
      obtain ⟨henabled, hbreached⟩ := Bool.and_eq_true_iff.1 hproblem
      have hraises : K.state.critical.raises (some x.1) x.1 = _ :=
        h.raises_eq .critical rfl henabled hbreached
      rw [if_pos rfl, Alarm.sent_see, hraises]
      cases K.state.critical.sent <;> simp

variable (x) in
theorem Persists.critical_sent_next (h : K.Persists c d) :
    (K.next c d x).state.critical.sent = true ↔ c.critical.enabled = true ∧
      ∃ b ∈ (K.next c d x).streak c .critical,
        (K.next c d x).lastsAt c .critical b.time = true := by
  rw [h.sent_critical_next, Bool.and_eq_true, Bool.and_eq_true, Bool.or_eq_true, and_assoc,
    h.critical_sent]
  refine and_congr_right fun henabled => ⟨?_, ?_⟩
  · rintro ⟨hbreached, ⟨-, b, hb, hlasts⟩ | hlasts⟩
    · exact ⟨b, mem_streak_next.2 ⟨hbreached, Or.inl hb⟩,
        (lastsAt_next_of_mem hbreached hb _).trans hlasts⟩
    · exact ⟨_, mem_streak_next.2 ⟨hbreached, Or.inr rfl⟩, hlasts⟩
  · rintro ⟨b, hb, hlasts⟩
    obtain ⟨hbreached, hb | rfl⟩ := mem_streak_next.1 hb
    · exact ⟨hbreached, Or.inl ⟨henabled, b, hb,
        (lastsAt_next_of_mem hbreached hb _).symm.trans hlasts⟩⟩
    · exact ⟨hbreached, Or.inr hlasts⟩

/-! ### Alerts -/

theorem alerts_critical_iff : (K.beat c d x).Alerts .critical ↔
    (Measure.value x.2 true).alertsCritical c d x.1 K.state = true := by
  refine ⟨fun ⟨e, he, hseverity⟩ => (Measure.mem_events_critical_iff.1 ⟨he, hseverity⟩).1,
    fun halerts => ?_⟩
  obtain ⟨he, hseverity⟩ := Measure.mem_events_critical_iff.2 ⟨halerts, rfl⟩
  exact ⟨_, he, hseverity⟩

theorem alerts_warning_iff : (K.beat c d x).Alerts .warning ↔
    (Measure.value x.2 true).alertsWarning c d x.1 K.state = true := by
  refine ⟨fun ⟨e, he, hseverity⟩ => (Measure.mem_events_warning_iff.1 ⟨he, hseverity⟩).1,
    fun halerts => ?_⟩
  obtain ⟨he, hseverity⟩ := Measure.mem_events_warning_iff.2 ⟨halerts, rfl⟩
  exact ⟨_, he, hseverity⟩

theorem mem_cleared_iff :
    (∃ value, .thresholdCleared .critical value c.critical.threshold d ∈
      (K.beat c d x).step.events) ↔
      (Measure.value x.2 true).clearsCritical c d K.state = true := by
  constructor
  · rintro ⟨value, hmem⟩
    rcases Measure.mem_events_iff.1 hmem with ⟨hclears, -⟩ | ⟨-, h⟩ | ⟨-, h⟩ | ⟨-, h⟩
    · exact hclears
    · cases h
    · cases h
    · cases h
  · exact fun hclears => ⟨x.2, Measure.mem_events_iff.2 (Or.inl ⟨hclears, rfl⟩)⟩

/-- An alert tells the age of its streak. -/
theorem Timed.reports_breached (h : (K.next c d x).Timed c) (severity : Severity)
    (henabled : (c.level severity).enabled = true)
    (hbreached : (K.beat c d x).breaches c severity = true) :
    (K.next c d x).Reports c severity d (K.beat c d x)
      ((Measure.value x.2 true).breached c d severity
        (((K.next c d x).state.alarm severity).window.elapsed x.1)) := by
  have hstart := streakStart?_next hbreached
  refine ⟨x.2, _, rfl, hstart, ?_⟩
  rw [WindowTimer.elapsed, h.timer, if_pos henabled, hstart]
  rfl

theorem Persists.critical_first_next (h : K.Persists c d) {before after : List Beat} {b : Beat}
    (hsplit : (K.next c d x).streak c .critical = before ++ b :: after)
    (hbefore : ∀ b' ∈ before, (K.next c d x).lastsAt c .critical b'.time = false) :
    b.Alerts .critical ↔
      c.critical.enabled = true ∧ (K.next c d x).lastsAt c .critical b.time = true := by
  have hmem : b ∈ (K.next c d x).streak c .critical := by
    rw [hsplit]
    exact List.mem_append_right _ List.mem_cons_self
  obtain ⟨hbreached, -⟩ := mem_streak_next.1 hmem
  rw [streak_next, if_pos hbreached] at hsplit
  rcases List.eq_nil_or_concat after with rfl | ⟨after, last, rfl⟩
  · -- the latest beat, and the streak has not lasted for the window before
    obtain ⟨rfl, hb⟩ := List.append_inj' hsplit rfl
    obtain rfl : K.beat c d x = b := (List.cons.inj hb).1
    have hclosed : K.state.critical.sent = false := by
      rw [← Bool.not_eq_true, h.critical_sent]
      rintro ⟨-, b', hb', hlasts⟩
      rw [← lastsAt_next_of_mem hbreached hb', hbefore b' hb'] at hlasts
      cases hlasts
    rw [alerts_critical_iff, Measure.alertsCritical, hclosed, Bool.and_eq_true, Bool.and_eq_true,
      and_assoc]
    refine and_congr_right fun henabled => ?_
    have hraises : K.state.critical.raises (some x.1) x.1 = _ :=
      h.raises_eq .critical rfl henabled hbreached
    rw [hclosed, Bool.not_false, Bool.true_and] at hraises
    show _ ∧ K.state.critical.raises (some x.1) x.1 = true ↔ _
    rw [hraises]
    exact and_iff_right hbreached
  · -- an earlier beat
    rw [List.concat_eq_append] at hsplit
    have hearlier : K.streak c .critical ++ [K.beat c d x] = (before ++ b :: after) ++ [last] := by
      rw [hsplit, List.append_assoc, List.cons_append]
    have hstreak := (List.append_inj' hearlier rfl).1
    have hkept : ∀ b' ∈ before ++ b :: after, ∀ now,
        (K.next c d x).lastsAt c .critical now = K.lastsAt c .critical now := by
      intro b' hb'
      exact lastsAt_next_of_mem hbreached (hstreak ▸ hb')
    rw [hkept b (List.mem_append_right _ List.mem_cons_self)]
    refine h.critical_first before b after hstreak fun b' hb' => ?_
    rw [← hkept b' (List.mem_append_left _ hb')]
    exact hbefore b' hb'

theorem Persists.critical_reports_next (h : K.Persists c d) {b : Beat}
    (hb : b ∈ (K.next c d x).streak c .critical) {e : Event} (he : e ∈ b.step.events)
    (hseverity : e.severity = .critical) : (K.next c d x).Reports c .critical d b e := by
  obtain ⟨hbreached, hb | rfl⟩ := mem_streak_next.1 hb
  · obtain ⟨value, start, hreading, hstart, he⟩ := h.critical_reports b hb e he hseverity
    exact ⟨value, start, hreading, (streakStart?_next_of_mem hbreached hb).trans hstart, he⟩
  · obtain ⟨halerts, rfl⟩ := Measure.mem_events_critical_iff.1 ⟨he, hseverity⟩
    rw [Measure.alertsCritical, Bool.and_eq_true, Bool.and_eq_true] at halerts
    exact (h.toTimed.next x).reports_breached .critical halerts.1.1 hbreached

/-! ### Warnings -/

/-- Where a warning is called for, it counts as not sent if it was not, or is raised anew. -/
theorem sent_armed_eq_false_iff (henabled : c.warning.enabled = true)
    (hbreached : (K.beat c d x).breaches c .warning = true) :
    ((Measure.value x.2 true).armed c d K.state).sent = false ↔
      K.state.warning.sent = false ∨ d = .above ∧
        ∃ value, .thresholdCleared .critical value c.critical.threshold d ∈
          (K.beat c d x).step.events := by
  have hproblem : (Measure.value x.2 true).breaches c d .warning = true := hbreached
  rw [mem_cleared_iff, Measure.armed, Alarm.sent_rearm, Bool.and_eq_false_iff,
    Bool.not_eq_false', Measure.rearms, henabled, hproblem, Bool.and_true, Bool.and_true,
    Bool.and_eq_true, decide_eq_true_eq, and_comm (a := d = .above)]

theorem Timed.raises_armed (h : K.Timed c) (henabled : c.warning.enabled = true)
    (hbreached : (K.beat c d x).breaches c .warning = true) :
    ((Measure.value x.2 true).armed c d K.state).raises (some x.1) x.1 =
      (!((Measure.value x.2 true).armed c d K.state).sent &&
        (K.next c d x).lastsAt c .warning x.1) :=
  h.raises_eq .warning (a := (Measure.value x.2 true).armed c d K.state) rfl henabled hbreached

/-- When a warning is sent. -/
theorem Timed.alerts_warning_iff (h : K.Timed c) : (K.beat c d x).Alerts .warning ↔
    c.warning.enabled = true ∧ (K.next c d x).lastsAt c .warning x.1 = true ∧
      (K.next c d x).state.critical.sent = false ∧
      (K.state.warning.sent = false ∨ d = .above ∧
        ∃ value, .thresholdCleared .critical value c.critical.threshold d ∈
          (K.beat c d x).step.events) := by
  rw [Course.alerts_warning_iff, Measure.alertsWarning, Bool.and_eq_true, Bool.and_eq_true,
    Bool.and_eq_true, Bool.not_eq_true', ← step_beat, ← state_next]
  constructor
  · rintro ⟨⟨henabled, hbreached⟩, hraises, hclosed⟩
    have hraises : Alarm.raises _ (some x.1) x.1 = true := hraises
    rw [h.raises_armed henabled hbreached, Bool.and_eq_true, Bool.not_eq_true',
      sent_armed_eq_false_iff henabled hbreached] at hraises
    exact ⟨henabled, hraises.2, hclosed, hraises.1⟩
  · rintro ⟨henabled, hlasts, hclosed, hanew⟩
    have hbreached := breaches_of_lastsAt hlasts
    refine ⟨⟨henabled, hbreached⟩, ?_, hclosed⟩
    show Alarm.raises _ (some x.1) x.1 = true
    rw [h.raises_armed henabled hbreached, Bool.and_eq_true, Bool.not_eq_true',
      sent_armed_eq_false_iff henabled hbreached]
    exact ⟨hanew, hlasts⟩

theorem Timed.warning_sent_next (h : K.Timed c) (henabled : c.warning.enabled = true)
    (hlasts : (K.next c d x).lastsAt c .warning x.1 = true)
    (hclosed : (K.next c d x).state.critical.sent = false) :
    (K.next c d x).state.warning.sent = true := by
  have hbreached := breaches_of_lastsAt hlasts
  rw [warning_next, henabled, hbreached, Bool.and_self, if_pos rfl, Alarm.sent_see, hclosed,
    h.raises_armed henabled hbreached, hlasts]
  cases ((Measure.value x.2 true).armed c d K.state).sent <;> rfl

/-- A warning that is open was sent before, in the same streak, or just now. -/
theorem Persists.warning_alerted_next (h : K.Persists c d)
    (hsent : (K.next c d x).state.warning.sent = true) :
    c.warning.enabled = true ∧
      ∃ b ∈ (K.next c d x).streak c .warning, b.Alerts .warning := by
  rw [warning_next] at hsent
  cases hproblem : c.warning.enabled && (K.beat c d x).breaches c .warning with
  | false =>
      rw [hproblem, if_neg Bool.false_ne_true, Alarm.sent_lapse_of_no_problem
        (fun hsent => (h.warning_alerted hsent).1) hproblem] at hsent
      cases hsent
  | true =>
      obtain ⟨henabled, hbreached⟩ := Bool.and_eq_true_iff.1 hproblem
      refine ⟨henabled, ?_⟩
      rw [hproblem, if_pos rfl, Alarm.sent_see, Bool.or_eq_true] at hsent
      rcases hsent with hsent | halerts
      · obtain ⟨-, b, hb, halerts⟩ := h.warning_alerted (Bool.and_eq_true_iff.1 hsent).1
        exact ⟨b, mem_streak_next.2 ⟨hbreached, Or.inl hb⟩, halerts⟩
      · refine ⟨_, mem_streak_next.2 ⟨hbreached, Or.inr rfl⟩, Course.alerts_warning_iff.2 ?_⟩
        rw [Measure.alertsWarning, Bool.and_eq_true, ← step_beat, ← state_next]
        exact ⟨hproblem, halerts⟩

theorem Timed.warning_reports_next (h : K.Timed c) {e : Event}
    (he : e ∈ (K.beat c d x).step.events) (hseverity : e.severity = .warning) :
    (K.next c d x).Reports c .warning d (K.beat c d x) e := by
  obtain ⟨halerts, rfl⟩ := Measure.mem_events_warning_iff.1 ⟨he, hseverity⟩
  rw [Measure.alertsWarning, Bool.and_eq_true, Bool.and_eq_true] at halerts
  exact (h.next x).reports_breached .warning halerts.1.1 halerts.1.2

/-! ## Runs -/

theorem persists_start (c : MetricConfig) (d : Direction) : (start c).Persists c d := by
  have hstreak : ∀ severity, (start c).streak c severity = [] := fun _ => rfl
  have hbeats : (start c).beats = [] := rfl
  have hwarning : (start c).state.warning.sent = false := rfl
  have hcritical : (start c).state.critical.sent = false := rfl
  constructor
  case toTimed => exact timed_start c
  all_goals simp [hstreak, hbeats, hwarning, hcritical]

/-- The latest beat of a course with one more value. -/
theorem eq_beat_of_beats {earlier : List Beat} {b : Beat}
    (h : (K.next c d x).beats = earlier ++ [b]) : K.beat c d x = b :=
  (List.cons.inj (List.append_inj' h rfl).2).1

/-- **Timers and alerts follow the streaks**, with one more value. -/
theorem Persists.next (h : K.Persists c d) (x : Instant × Float) :
    (K.next c d x).Persists c d where
  toTimed := h.toTimed.next x
  critical_sent := h.critical_sent_next x
  critical_first _ _ _ := h.critical_first_next
  critical_reports _ hb _ := h.critical_reports_next hb
  critical_breaches b hb halerts := by
    rcases List.mem_append.1 hb with hb | hb
    · exact h.critical_breaches b hb halerts
    · obtain rfl := List.mem_singleton.1 hb
      rw [alerts_critical_iff, Measure.alertsCritical, Bool.and_eq_true,
        Bool.and_eq_true] at halerts
      exact halerts.1.2
  warning earlier b hb := by
    obtain rfl := eq_beat_of_beats hb
    exact h.toTimed.alerts_warning_iff
  warning_reports earlier b hb e he := by
    obtain rfl := eq_beat_of_beats hb
    exact h.toTimed.warning_reports_next he
  warning_sent earlier b hb := by
    obtain rfl := eq_beat_of_beats hb
    exact h.toTimed.warning_sent_next
  warning_alerted := h.warning_alerted_next

end Course

/-- **Windows fire on persistence and report the true duration**, whatever the values are and
whenever they are read. -/
theorem windows_fire_on_persistence (c : MetricConfig) (d : Direction)
    (values : List (Instant × Float)) :
    ∃ K, c.course (values.map (Sighting.ofValue d true)) = .ok K ∧ K.Persists c d := by
  induction values using List.reverseRecOn with
  | nil => exact ⟨_, rfl, Course.persists_start c d⟩
  | append_singleton values x ih =>
      obtain ⟨K, hK, hpersists⟩ := ih
      refine ⟨K.next c d x, ?_, hpersists.next x⟩
      rw [List.map_append, List.map_singleton, MetricConfig.course_concat_of_ok hK]
      exact K.step_ofValue c d x

end NodeAlerts
