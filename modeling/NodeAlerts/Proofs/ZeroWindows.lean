import Mathlib.Data.List.Forall2
import NodeAlerts.Proofs.Hysteresis
import NodeAlerts.Proofs.Idempotence
import NodeAlerts.Proofs.Persistence

/-!
# A window of no length is no window

A metric whose breaches have to last, and whose windows have no length, is alerted about as if they
did not have to last (`zero_window_is_no_window`): two courses of the same values, one with windows
and one without, find the same events one value after another.  Only the windowed one tells how long
the breach goes on, which is since the first of the latest values that all breach the threshold
(`MetricConfig.breachedSince?`).

The timers of the two courses differ, as those of the one without windows never start.  What the
courses have in common is `MetricState.Alike`, and what carries it from one value to the next is
that a window of no length has passed as soon as its breach is seen (`MetricState.DueAtOnce`).  That
takes times that do not run backwards: a breach that seems to begin later than now has not lasted at
all.
-/

namespace NodeAlerts

/-! ## One value -/

/-- The same alerts are open, and a critical alert may be repeated at the same times. -/
structure MetricState.Alike (s t : MetricState) : Prop where
  /-- The flag of warnings. -/
  warning_sent : s.warning.sent = t.warning.sent
  /-- The flag of critical alerts. -/
  critical_sent : s.critical.sent = t.critical.sent
  /-- The gate of repeats. -/
  repeatGate : s.repeatGate = t.repeatGate

/-- An alert that is not open is due as soon as a breach is seen. -/
def MetricState.DueAtOnce (t : MetricState) (c : MetricConfig) (d : Direction)
    (x : Instant × Float) : Prop :=
  ∀ severity (a : Alarm), a.window = (t.alarm severity).window →
    (c.level severity).enabled = true → (Measure.value x.2 true).breaches c d severity = true →
    a.raises (some x.1) x.1 = !a.sent

/-- Without a window an alert that is not open is due. -/
theorem Alarm.raises_none (a : Alarm) (now : Instant) : a.raises none now = !a.sent := by
  rw [raises, Option.isNone_none, Bool.true_or, Bool.and_true]

/-- A breach does not depend on how long it lasts. -/
theorem Measure.breaches_value (value : Float) (c : MetricConfig) (d : Direction)
    (severity : Severity) : (Measure.value value false).breaches c d severity =
      (Measure.value value true).breaches c d severity := rfl

namespace MetricState.Alike

variable {s t : MetricState} {c : MetricConfig} {d : Direction} {x : Instant × Float}

theorem clearsCritical (h : s.Alike t) : (Measure.value x.2 false).clearsCritical c d s =
    (Measure.value x.2 true).clearsCritical c d t := by
  rw [Measure.clearsCritical, h.critical_sent]
  rfl

theorem clearsWarning (h : s.Alike t) : (Measure.value x.2 false).clearsWarning c d s =
    (Measure.value x.2 true).clearsWarning c d t := by
  rw [Measure.clearsWarning, h.warning_sent]
  rfl

/-- The warning is raised anew in both courses, or in neither. -/
theorem sent_armed (h : s.Alike t) : ((Measure.value x.2 false).armed c d s).sent =
    ((Measure.value x.2 true).armed c d t).sent := by
  rw [Measure.armed, Measure.armed, Alarm.sent_rearm, Alarm.sent_rearm, Measure.rearms,
    Measure.rearms, h.clearsCritical, h.warning_sent]
  rfl

/-- Where the warning is called for it is due in both courses, or in neither. -/
theorem raises_armed (h : s.Alike t) (hdue : t.DueAtOnce c d x)
    (hproblem : (c.warning.enabled && (Measure.value x.2 true).breaches c d .warning) = true) :
    ((Measure.value x.2 false).armed c d s).raises ((Measure.value x.2 false).start x.1) x.1 =
      ((Measure.value x.2 true).armed c d t).raises ((Measure.value x.2 true).start x.1) x.1 := by
  obtain ⟨henabled, hbreached⟩ := Bool.and_eq_true_iff.1 hproblem
  have hwindowed : ((Measure.value x.2 true).armed c d t).raises (some x.1) x.1 =
      !((Measure.value x.2 true).armed c d t).sent :=
    hdue .warning _ rfl henabled hbreached
  show ((Measure.value x.2 false).armed c d s).raises none x.1 = Alarm.raises _ (some x.1) x.1
  rw [Alarm.raises_none, hwindowed, h.sent_armed]

theorem alertsCritical (h : s.Alike t) (hdue : t.DueAtOnce c d x) :
    (Measure.value x.2 false).alertsCritical c d x.1 s =
      (Measure.value x.2 true).alertsCritical c d x.1 t := by
  rw [Measure.alertsCritical, Measure.alertsCritical, Measure.breaches_value]
  cases hproblem : c.critical.enabled && (Measure.value x.2 true).breaches c d .critical with
  | false => rfl
  | true =>
      obtain ⟨henabled, hbreached⟩ := Bool.and_eq_true_iff.1 hproblem
      have hraises : s.critical.raises none x.1 = t.critical.raises (some x.1) x.1 := by
        rw [Alarm.raises_none, hdue .critical t.critical rfl henabled hbreached, h.critical_sent]
      rw [h.critical_sent, h.repeatGate]
      exact congrArg (fun raises => true && if t.critical.sent = true then _ else raises) hraises

theorem sent_critical_classify (h : s.Alike t) (hdue : t.DueAtOnce c d x) :
    ((Measure.value x.2 false).classify c d x.1 s).state.critical.sent =
      ((Measure.value x.2 true).classify c d x.1 t).state.critical.sent := by
  rw [Measure.sent_critical_classify, Measure.sent_critical_classify, h.alertsCritical hdue,
    h.clearsCritical, h.critical_sent]

theorem alertsWarning (h : s.Alike t) (hdue : t.DueAtOnce c d x) :
    (Measure.value x.2 false).alertsWarning c d x.1 s =
      (Measure.value x.2 true).alertsWarning c d x.1 t := by
  rw [Measure.alertsWarning, Measure.alertsWarning, Measure.breaches_value,
    h.sent_critical_classify hdue]
  cases hproblem : c.warning.enabled && (Measure.value x.2 true).breaches c d .warning with
  | false => rfl
  | true => rw [h.raises_armed hdue hproblem]

/-- **The courses stay alike.** -/
theorem classify (h : s.Alike t) (hdue : t.DueAtOnce c d x) :
    ((Measure.value x.2 false).classify c d x.1 s).state.Alike
      ((Measure.value x.2 true).classify c d x.1 t).state where
  warning_sent := by
    rw [Measure.warning_classify, Measure.warning_classify, Measure.breaches_value,
      h.sent_critical_classify hdue]
    cases hproblem : c.warning.enabled && (Measure.value x.2 true).breaches c d .warning with
    | false =>
        show (s.warning.sent && _) = (t.warning.sent && _)
        rw [h.warning_sent]
    | true =>
        rw [if_pos rfl, if_pos rfl, Alarm.sent_see, Alarm.sent_see, h.sent_armed,
          h.raises_armed hdue hproblem]
  critical_sent := h.sent_critical_classify hdue
  repeatGate := by
    rw [Measure.repeatGate_classify, Measure.repeatGate_classify, h.alertsCritical hdue,
      h.clearsCritical, h.repeatGate]

end MetricState.Alike

/-! ## How long a breach goes on -/

namespace MetricConfig

variable (c : MetricConfig) (d : Direction) (severity : Severity)

/-- The latest values that all breach the threshold of a severity. -/
def breachStreak (values : List (Instant × Float)) : List (Instant × Float) :=
  values.rtakeWhile fun x => d.breaches x.2 (c.level severity).threshold

/-- Since when the threshold of a severity is breached without a break. -/
def breachedSince? (values : List (Instant × Float)) : Option Instant :=
  (c.breachStreak d severity values).head?.map Prod.fst

theorem breachedSince?_concat (values : List (Instant × Float)) (x : Instant × Float) :
    c.breachedSince? d severity (values ++ [x]) =
      if d.breaches x.2 (c.level severity).threshold
      then some ((c.breachedSince? d severity values).getD x.1) else none := by
  rw [breachedSince?, breachStreak, List.rtakeWhile_concat]
  split
  · rw [List.head?_append, breachedSince?, breachStreak]
    cases (values.rtakeWhile _).head? <;> rfl
  · rfl

variable {c d severity}

/-- A breach goes on since one of the values. -/
theorem mem_of_breachedSince? {values : List (Instant × Float)} {start : Instant}
    (h : c.breachedSince? d severity values = some start) : ∃ x ∈ values, x.1 = start := by
  obtain ⟨x, hx, rfl⟩ := Option.map_eq_some_iff.1 h
  exact ⟨x, (List.rtakeWhile_suffix _ _).subset (List.mem_of_head? hx), rfl⟩

end MetricConfig

/-- Two events that say the same, about a breach that goes on since some time by its severity: the
first does not tell how long that is at `now`, and the second does. -/
inductive Event.Dates (since? : Severity → Option Instant) (now : Instant) : Event → Event → Prop
  /-- The threshold is breached. -/
  | breached {severity : Severity} {value threshold : Float} {direction : Direction}
      {start : Instant} (h : since? severity = some start) :
      Dates since? now (.thresholdBreached severity value threshold direction none)
        (.thresholdBreached severity value threshold direction (some (now.since start)))
  /-- The threshold is no longer breached. -/
  | cleared {severity : Severity} {value threshold : Float} {direction : Direction} :
      Dates since? now (.thresholdCleared severity value threshold direction)
        (.thresholdCleared severity value threshold direction)

/-- Events that may be found are related if they are found together. -/
theorem forall₂_optional {R : Event → Event → Prop} {p q : Bool} {e e' : Event} (h : p = q)
    (hR : q = true → R e e') :
    List.Forall₂ R (if p then [e] else []) (if q then [e'] else []) := by
  rw [h]
  cases q with
  | false => exact .nil
  | true => exact .cons (hR rfl) .nil

namespace Course

variable {K L : Course} {c : MetricConfig} {d : Direction} {x : Instant × Float}
  {values : List (Instant × Float)}

/-- The windowed course of some values: its timers follow the streaks of these values. -/
structure Follows (L : Course) (c : MetricConfig) (d : Direction)
    (values : List (Instant × Float)) : Prop extends L.Timed c where
  /-- A streak of the course is a streak of the values. -/
  since : ∀ severity, L.streakStart? c severity = c.breachedSince? d severity values

theorem follows_start (c : MetricConfig) (d : Direction) : (start c).Follows c d [] where
  toTimed := timed_start c
  since _ := rfl

theorem Follows.next (h : L.Follows c d values) (x : Instant × Float) :
    (L.next c d x).Follows c d (values ++ [x]) where
  toTimed := h.toTimed.next x
  since severity := by
    rw [c.breachedSince?_concat, ← h.since]
    cases hbreached : (L.beat c d x).breaches c severity with
    | true =>
        rw [streakStart?_next hbreached, if_pos]
        exact hbreached
    | false =>
        rw [streakStart?_next_of_not hbreached, if_neg]
        exact fun hbreaches => Bool.noConfusion (hbreached.symm.trans hbreaches)

/-- **A window of no length has passed at once**, where time does not run backwards. -/
theorem Follows.dueAtOnce (h : L.Follows c d values) (hwarning : c.warning.window = Span.zero)
    (hcritical : c.critical.window = Span.zero) (hlatest : ∀ y ∈ values, y.1.micros ≤ x.1.micros) :
    L.state.DueAtOnce c d x := by
  intro severity a ha henabled hbreached
  have hbreached : (L.beat c d x).breaches c severity = true := hbreached
  have hstart := streakStart?_next hbreached
  have hwindow : (c.level severity).window = Span.zero := by
    cases severity <;> assumption
  have hle : ((L.streakStart? c severity).getD x.1).micros ≤ x.1.micros := by
    cases hsince : L.streakStart? c severity with
    | none => exact Int.le_refl _
    | some start =>
        rw [h.since] at hsince
        obtain ⟨y, hy, rfl⟩ := MetricConfig.mem_of_breachedSince? hsince
        exact hlatest y hy
  have hlasts : (L.next c d x).lastsAt c severity x.1 = true := by
    rw [lastsAt, hstart, hwindow, Option.any_some, decide_eq_true_iff]
    exact Int.sub_nonneg_of_le hle
  rw [h.toTimed.raises_eq severity ha henabled hbreached, hlasts, Bool.and_true]

/-- An alert dates the breach back to the start of its streak. -/
theorem Follows.dates_breached (h : (L.next c d x).Follows c d values) (severity : Severity)
    (hproblem : ((c.level severity).enabled &&
      (Measure.value x.2 true).breaches c d severity) = true) (age : Span) :
    Event.Dates (fun severity => c.breachedSince? d severity values) x.1
      ((Measure.value x.2 false).breached c d severity age)
      ((Measure.value x.2 true).breached c d severity
        (((L.next c d x).state.alarm severity).window.elapsed x.1)) := by
  obtain ⟨henabled, hbreached⟩ := Bool.and_eq_true_iff.1 hproblem
  obtain ⟨value, start, hreading, hstart, he⟩ :=
    h.toTimed.reports_breached severity henabled hbreached
  obtain rfl : x.2 = value := (Reading.gauge.inj hreading).1
  rw [h.since] at hstart
  rw [he]
  exact .breached hstart

/-- **The same events are found**, with and without windows. -/
theorem Follows.dates (h : L.Follows c d values) {s : MetricState} (halike : s.Alike L.state)
    (hdue : L.state.DueAtOnce c d x) :
    List.Forall₂ (Event.Dates (fun severity => c.breachedSince? d severity (values ++ [x])) x.1)
      ((Measure.value x.2 false).classify c d x.1 s).events (L.beat c d x).step.events := by
  have hnext := h.next x
  rw [Measure.events_classify, step_beat, Measure.events_classify]
  refine List.rel_append (List.rel_append (List.rel_append ?_ ?_) ?_) ?_
  · exact forall₂_optional halike.clearsCritical fun _ => .cleared
  · exact forall₂_optional halike.clearsWarning fun _ => .cleared
  · refine forall₂_optional (halike.alertsCritical hdue) fun halerts => ?_
    exact hnext.dates_breached .critical (Bool.and_eq_true_iff.1 halerts).1 _
  · refine forall₂_optional (halike.alertsWarning hdue) fun halerts => ?_
    exact hnext.dates_breached .warning (Bool.and_eq_true_iff.1 halerts).1 _

end Course

/-! ## Runs -/

/-- What comes of the value `x` behind other `values`, where its breach does not have to last and
where it does. -/
structure Beat.Mirrors (plain windowed : Beat) (c : MetricConfig) (d : Direction)
    (values : List (Instant × Float)) (x : Instant × Float) : Prop where
  /-- The one beat is of the value. -/
  plain_sighting : plain.sighting = .ofValue d false x
  /-- So is the other, where a breach has to last. -/
  windowed_sighting : windowed.sighting = .ofValue d true x
  /-- The same events are found, the first of them without a duration. -/
  events : List.Forall₂
    (Event.Dates (fun severity => c.breachedSince? d severity (values ++ [x])) x.1)
    plain.step.events windowed.step.events
  /-- The same is remembered, timers aside. -/
  state : plain.step.state.Alike windowed.step.state

/-- The beats of the values, one after another, where breaches do not have to last and where they
do. -/
inductive Lockstep (c : MetricConfig) (d : Direction) :
    List (Instant × Float) → List Beat → List Beat → Prop
  /-- There are no values yet. -/
  | start : Lockstep c d [] [] []
  /-- One more value. -/
  | next {values : List (Instant × Float)} {plains windoweds : List Beat} {x : Instant × Float}
      {plain windowed : Beat} (earlier : Lockstep c d values plains windoweds)
      (latest : plain.Mirrors windowed c d values x) :
      Lockstep c d (values ++ [x]) (plains ++ [plain]) (windoweds ++ [windowed])

/-- Two courses of the same values, without windows and with them, that are alike. -/
structure Course.Mirrors (plain windowed : Course) (c : MetricConfig) (d : Direction)
    (values : List (Instant × Float)) : Prop where
  /-- The timers of the one follow the values. -/
  follows : windowed.Follows c d values
  /-- The same is remembered. -/
  state : plain.state.Alike windowed.state
  /-- The same was found. -/
  beats : Lockstep c d values plain.beats windowed.beats

/-- The course with one more value that does not have to last. -/
def Course.nextPlain (K : Course) (c : MetricConfig) (d : Direction) (x : Instant × Float) :
    Course :=
  K.add (.ofValue d false x) ((Measure.value x.2 false).classify c d x.1 K.state)

/-- **The courses stay alike**, with one more value that is due at once. -/
theorem Course.Mirrors.next {plain windowed : Course} {c : MetricConfig} {d : Direction}
    {values : List (Instant × Float)} (h : plain.Mirrors windowed c d values)
    {x : Instant × Float} (hdue : windowed.state.DueAtOnce c d x) :
    (plain.nextPlain c d x).Mirrors (windowed.next c d x) c d (values ++ [x]) where
  follows := h.follows.next x
  state := h.state.classify hdue
  beats := .next h.beats
    { plain_sighting := rfl
      windowed_sighting := rfl
      events := h.follows.dates h.state hdue
      state := h.state.classify hdue }

/-- **A window of no length is no window.**  Where windows have no length and time does not run
backwards, values whose breaches have to last and values whose breaches do not are classified in
lockstep. -/
theorem zero_window_is_no_window (c : MetricConfig) (hwarning : c.warning.window = Span.zero)
    (hcritical : c.critical.window = Span.zero) (d : Direction) (values : List (Instant × Float))
    (htimes : values.Pairwise fun x y => x.1.micros ≤ y.1.micros) :
    ∃ plain windowed, c.course (values.map (Sighting.ofValue d false)) = .ok plain ∧
      c.course (values.map (Sighting.ofValue d true)) = .ok windowed ∧
      Lockstep c d values plain.beats windowed.beats := by
  suffices h : ∃ plain windowed, c.course (values.map (Sighting.ofValue d false)) = .ok plain ∧
      c.course (values.map (Sighting.ofValue d true)) = .ok windowed ∧
      plain.Mirrors windowed c d values by
    obtain ⟨plain, windowed, hplain, hwindowed, hmirrors⟩ := h
    exact ⟨plain, windowed, hplain, hwindowed, hmirrors.beats⟩
  induction values using List.reverseRecOn with
  | nil => exact ⟨_, _, rfl, rfl, Course.follows_start c d, ⟨rfl, rfl, rfl⟩, .start⟩
  | append_singleton values x ih =>
      obtain ⟨hearlier, -, hlatest⟩ := List.pairwise_append.1 htimes
      obtain ⟨plain, windowed, hplain, hwindowed, hmirrors⟩ := ih hearlier
      have hdue : windowed.state.DueAtOnce c d x :=
        hmirrors.follows.dueAtOnce hwarning hcritical fun y hy =>
          hlatest y hy x (List.mem_singleton_self x)
      refine ⟨plain.nextPlain c d x, windowed.next c d x, ?_, ?_, hmirrors.next hdue⟩
      · rw [List.map_append, List.map_singleton, MetricConfig.course_concat_of_ok hplain]
        rfl
      · rw [List.map_append, List.map_singleton, MetricConfig.course_concat_of_ok hwindowed]
        exact windowed.step_ofValue c d x

/-- A value that is critical for a minute, falls below the critical threshold, and below both. -/
def criticalForAMinute : List (Instant × Float) :=
  [(⟨0⟩, 9), (⟨60000000⟩, 9), (⟨61000000⟩, 5), (⟨62000000⟩, 2)]

/-- A critical alert, its repeat, its clearing beside a warning, and the clearing of the warning,
with windows of no length as without. -/
theorem zero_window_is_no_window_repeated :
    repeatedLevels.warning.window = Span.zero ∧ repeatedLevels.critical.window = Span.zero ∧
      (criticalForAMinute.Pairwise fun x y => x.1.micros ≤ y.1.micros) ∧
      ∃ plain windowed,
        repeatedLevels.course (criticalForAMinute.map (Sighting.ofValue .above false)) = .ok plain ∧
        repeatedLevels.course (criticalForAMinute.map (Sighting.ofValue .above true)) =
          .ok windowed ∧
        Lockstep repeatedLevels .above criticalForAMinute plain.beats windowed.beats ∧
        plain.events.map (fun e => (e.level?, e.isResolution)) =
          [(some .critical, false), (some .critical, false), (some .critical, true),
            (some .warning, false), (some .warning, true)] := by
  have htimes : criticalForAMinute.Pairwise fun x y => x.1.micros ≤ y.1.micros := by decide
  obtain ⟨plain, windowed, hplain, hwindowed, hlockstep⟩ :=
    zero_window_is_no_window repeatedLevels rfl rfl .above criticalForAMinute htimes
  have hrun : (repeatedLevels.course (criticalForAMinute.map (Sighting.ofValue .above false))).map
      (fun K => K.events.map fun e => (e.level?, e.isResolution)) =
        .ok [(some .critical, false), (some .critical, false), (some .critical, true),
          (some .warning, false), (some .warning, true)] := by
    decide +kernel
  rw [hplain] at hrun
  exact ⟨rfl, rfl, htimes, plain, windowed, hplain, hwindowed, hlockstep, Except.ok.inj hrun⟩

end NodeAlerts
