import Mathlib.Data.List.Induction
import NodeAlerts.Proofs.Calendar
import NodeAlerts.Proofs.Comparison
import NodeAlerts.Proofs.Settled

/-!
# The course of a metric

A `Course` is what came of the readings of one metric of one node under one configuration, from the
state at the start: a `Beat` for each of them, with the events found and the states around it.

* `course_induction`: induction over the readings, the newest one last; `exists_course_before`: what
  holds of the newest reading of every course holds of each reading of a course.
* `exists_course`: a course exists if no period of the configuration leaves the calendar, at the
  times at which occurrences are counted.
* `Comparison.Reads.classify_eq`: values and occurrences are compared with the thresholds in one and
  the same way, so that what holds of a comparison holds of the beats of both.
-/

namespace NodeAlerts

open NodeAlerts.Double

/-- A reading of a metric at a time. -/
structure Sighting where
  /-- When the metric was monitored. -/
  time : Instant
  /-- The reading. -/
  reading : Reading

/-- A value of a metric at a time. -/
def Sighting.ofValue (d : Direction) (windowed : Bool) (x : Instant × Float) : Sighting :=
  ⟨x.1, .gauge x.2 d windowed⟩

/-- A sighting that was classified. -/
structure Beat where
  /-- The sighting. -/
  sighting : Sighting
  /-- What was remembered before. -/
  before : MetricState
  /-- What came of it. -/
  step : Step

/-- What came of the sightings of one metric so far. -/
structure Course where
  /-- What is remembered now. -/
  state : MetricState
  /-- The sightings with what came of them, oldest first. -/
  beats : List Beat

namespace Course

/-- No sighting yet. -/
def start (c : MetricConfig) : Course := ⟨.new c, []⟩

/-- One more sighting. -/
def add (K : Course) (x : Sighting) (step : Step) : Course :=
  ⟨step.state, K.beats ++ [⟨x, K.state, step⟩]⟩

/-- Classifies one more sighting. -/
def step (c : MetricConfig) (K : Course) (x : Sighting) : Except Overrun Course :=
  (x.reading.classify c x.time K.state).map (K.add x)

/-- The events found so far, in order. -/
def events (K : Course) : List Event := K.beats.flatMap (·.step.events)

@[simp] theorem events_start (c : MetricConfig) : (start c).events = [] := rfl

@[simp] theorem state_add (K : Course) (x : Sighting) (step : Step) :
    (K.add x step).state = step.state := rfl

@[simp] theorem isSent_start (c : MetricConfig) (severity : Severity) :
    (start c).state.isSent severity = false := by
  cases severity <;> rfl

@[simp] theorem events_add (K : Course) (x : Sighting) (step : Step) :
    (K.add x step).events = K.events ++ step.events := by
  simp [events, add]

/-- A beat of a course with one more sighting is the beat of that sighting, or an earlier one. -/
theorem split_beats_add {K : Course} {x : Sighting} {step : Step} {past later : List Beat}
    {b : Beat} (h : (K.add x step).beats = past ++ b :: later) :
    (past = K.beats ∧ b = ⟨x, K.state, step⟩ ∧ later = []) ∨
      ∃ later', later = later' ++ [⟨x, K.state, step⟩] ∧ K.beats = past ++ b :: later' := by
  rcases List.eq_nil_or_concat later with rfl | ⟨later, last, rfl⟩
  · obtain ⟨rfl, hb⟩ := List.append_inj' h rfl
    exact Or.inl ⟨rfl, (List.cons.inj hb).1.symm, rfl⟩
  · rw [List.concat_eq_append] at h ⊢
    have hsplit : K.beats ++ [⟨x, K.state, step⟩] = (past ++ b :: later) ++ [last] := by
      rw [List.append_assoc, List.cons_append]
      exact h
    obtain ⟨hbeats, hlast⟩ := List.append_inj' hsplit rfl
    exact Or.inr ⟨later, by rw [hlast], hbeats⟩

end Course

namespace MetricConfig

variable {c : MetricConfig}

/-- Classifies sightings of a metric one after another. -/
def course (c : MetricConfig) (xs : List Sighting) : Except Overrun Course :=
  xs.foldlM (Course.step c) (Course.start c)

theorem course_concat_of_ok {xs : List Sighting} {K : Course} (h : c.course xs = .ok K)
    (x : Sighting) : c.course (xs ++ [x]) = K.step c x := by
  rw [course] at h ⊢
  rw [List.foldlM_append, h]
  show ([x].foldlM (Course.step c) K) = _
  rw [List.foldlM_cons]
  cases K.step c x <;> rfl

theorem course_concat_eq_ok {xs : List Sighting} {x : Sighting} {L : Course}
    (h : c.course (xs ++ [x]) = .ok L) :
    ∃ K step, c.course xs = .ok K ∧ x.reading.classify c x.time K.state = .ok step ∧
      L = K.add x step := by
  rw [course, List.foldlM_append] at h
  obtain ⟨K, hK, h⟩ := exists_of_bind_eq_ok h
  have hstep : K.step c x = .ok L := by
    rw [← course_concat_of_ok hK x, course, List.foldlM_append]
    rw [show xs.foldlM (Course.step c) (Course.start c) = .ok K from hK]
    exact h
  obtain ⟨step, hclassify, rfl⟩ := exists_of_map_eq_ok hstep
  exact ⟨K, step, hK, hclassify, rfl⟩

/-- **Induction over a course**, the newest sighting last. -/
theorem course_induction {P : List Sighting → Course → Prop} (hstart : P [] (Course.start c))
    (hadd : ∀ xs x K step, c.course xs = .ok K → P xs K →
      x.reading.classify c x.time K.state = .ok step → P (xs ++ [x]) (K.add x step))
    (xs : List Sighting) {K : Course} (h : c.course xs = .ok K) : P xs K := by
  induction xs using List.reverseRecOn generalizing K with
  | nil =>
      cases h
      exact hstart
  | append_singleton xs x ih =>
      obtain ⟨K', step, hK', hstep, rfl⟩ := course_concat_eq_ok h
      exact hadd xs x K' step hK' (ih hK') hstep

/-- **A beat of a course** comes of its sighting, after the course of the sightings before. -/
theorem exists_course_before {xs : List Sighting} {K : Course} (h : c.course xs = .ok K) :
    ∀ {past later : List Beat} {b : Beat}, K.beats = past ++ b :: later →
      ∃ earlier others, xs = earlier ++ b.sighting :: others ∧
        c.course earlier = .ok ⟨b.before, past⟩ ∧
        b.sighting.reading.classify c b.sighting.time b.before = .ok b.step := by
  refine course_induction (P := fun xs K => ∀ {past later : List Beat} {b : Beat},
    K.beats = past ++ b :: later → ∃ earlier others, xs = earlier ++ b.sighting :: others ∧
      c.course earlier = .ok ⟨b.before, past⟩ ∧
      b.sighting.reading.classify c b.sighting.time b.before = .ok b.step) ?_ ?_ xs h
  · intro past later b hbeats
    exact absurd hbeats (by simp [Course.start])
  · intro xs x K step hK ih hstep past later b hbeats
    rcases Course.split_beats_add hbeats with ⟨rfl, rfl, -⟩ | ⟨later, -, hbeats⟩
    · exact ⟨xs, [], rfl, hK, hstep⟩
    · obtain ⟨earlier, others, rfl, hcourse, hclassify⟩ := ih hbeats
      exact ⟨earlier, others ++ [x], by rw [List.append_assoc, List.cons_append], hcourse,
        hclassify⟩

/-! ## Courses that exist -/

/-- A sighting that counts occurrences does so over periods that start in the calendar. -/
def Covers (c : MetricConfig) (x : Sighting) : Prop :=
  x.reading.counts = true →
    x.time.minus? c.warning.window ≠ none ∧ x.time.minus? c.critical.window ≠ none

/-- No sighting changes a window, period or interval. -/
theorem lengths_course {xs : List Sighting} {K : Course} (h : c.course xs = .ok K) :
    K.state.lengths = (MetricState.new c).lengths := by
  refine course_induction (P := fun _ K => K.state.lengths = (MetricState.new c).lengths) rfl ?_
    xs h
  intro xs x K step _ hK hstep
  exact (Reading.lengths_classify hstep).trans hK

/-- **A course exists** if the periods over which occurrences are counted start in the calendar. -/
theorem exists_course {xs : List Sighting} (h : ∀ x ∈ xs, c.Covers x) :
    ∃ K, c.course xs = .ok K := by
  induction xs using List.reverseRecOn with
  | nil => exact ⟨_, rfl⟩
  | append_singleton xs x ih =>
      obtain ⟨K, hK⟩ := ih fun y hy => h y (List.mem_append_left _ hy)
      have hcovers : c.Covers x := h x (List.mem_append_right _ (List.mem_singleton_self x))
      have hlengths := lengths_course hK
      rw [MetricState.lengths, Alarm.lengths, Alarm.lengths] at hlengths
      simp only [MetricState.new, MetricState.lengths, Alarm.lengths, Alarm.new,
        OccurrenceCounter.new, Prod.mk.injEq] at hlengths
      rw [course_concat_of_ok hK, Course.step]
      cases hstep : x.reading.classify c x.time K.state with
      | ok step => exact ⟨_, rfl⟩
      | error e =>
          obtain ⟨hcounts, hnone⟩ := Reading.classify_fails_iff.1 ⟨e, hstep⟩
          rw [hlengths.1.2, hlengths.2.1.2] at hnone
          obtain ⟨hwarning, hcritical⟩ := hcovers hcounts
          rcases hnone with hnone | hnone
          · exact absurd hnone hwarning
          · exact absurd hnone hcritical

end MetricConfig

/-! ## Comparisons -/

/-- How a metric is compared with its thresholds. -/
inductive Comparison where
  /-- By a value; whether its breach has to last for a window. -/
  | value (direction : Direction) (windowed : Bool)
  /-- By the occurrences within a period. -/
  | occurrences

namespace Comparison

/-- The side of the thresholds on which the problem lies. -/
def direction : Comparison → Direction
  | .value d _ => d
  | .occurrences => .above

/-- Whether a breach has to last for a window. -/
def windowed : Comparison → Bool
  | .value _ windowed => windowed
  | .occurrences => false

/-- The comparison reads the metric so. -/
def Reads : Comparison → Reading → Prop
  | .value d w, .gauge _ d' w' => d' = d ∧ w' = w
  | .occurrences, .counter _ _ => True
  | _, _ => False

end Comparison

/-- The alarm of a severity: there are alarms for warnings and for critical alerts. -/
def MetricState.alarm (s : MetricState) : Severity → Alarm
  | .critical => s.critical
  | _ => s.warning

/-- Whether a reading breaches the threshold of a severity, by its value or by the occurrences that
are counted in the state. -/
def Reading.breaches (r : Reading) (c : MetricConfig) (s : MetricState) (severity : Severity) :
    Bool :=
  match r with
  | .gauge value direction _ => direction.breaches value (c.level severity).threshold
  | .counter _ _ =>
    let occurrences := (s.alarm severity).occurrences.total
    Direction.above.breaches (ofCount occurrences) (c.level severity).threshold
  | _ => false

/-- The state with other counts. -/
def MetricState.recount (s : MetricState) (warning critical : OccurrenceCounter) : MetricState :=
  { s with
    warning := { s.warning with occurrences := warning }
    critical := { s.critical with occurrences := critical } }

/-- Counts do not say whether an alert is open. -/
theorem MetricState.isSent_recount (s : MetricState) (warning critical : OccurrenceCounter)
    (severity : Severity) : (s.recount warning critical).isSent severity = s.isSent severity := by
  cases severity <;> rfl

namespace Comparison

/-- **What a comparison does with a reading.**  It compares a measure with the thresholds, after
counting occurrences at most; and the measure breaches a threshold if the reading does. -/
theorem Reads.classify_eq {k : Comparison} {r : Reading} (hr : k.Reads r) {c : MetricConfig}
    {now : Instant} {s : MetricState} {step : Step} (h : r.classify c now s = .ok step) :
    ∃ (m : Measure) (warning critical : OccurrenceCounter), m.windowed = k.windowed ∧
      step = m.classify c k.direction now (s.recount warning critical) ∧
      ∀ severity, m.breaches c k.direction severity = r.breaches c step.state severity := by
  cases r with
  | gauge value direction windowed =>
      cases k with
      | value d w =>
          obtain ⟨rfl, rfl⟩ := hr
          cases h
          exact ⟨.value value windowed, s.warning.occurrences, s.critical.occurrences, rfl, rfl,
            fun severity => rfl⟩
      | occurrences => cases hr
  | counter current previous =>
      cases k with
      | value d w => cases hr
      | occurrences =>
          obtain ⟨s', hs', h⟩ := exists_of_bind_eq_ok h
          obtain ⟨warning, critical, -, -, rfl⟩ := countOccurrences_eq_ok hs'
          have hstep := (Except.ok.inj h).symm
          have hcounters : step.state.counters = (warning, critical) := by
            rw [hstep]
            exact Measure.counters_classify ..
          obtain ⟨rfl, rfl⟩ := Prod.mk.inj hcounters
          refine ⟨_, _, _, rfl, hstep, fun severity => ?_⟩
          cases severity <;> rfl
  | _ => cases k <;> cases hr

/-- **Induction over a course of comparisons**, the newest one last. -/
theorem course_induction {k : Comparison} {c : MetricConfig} {P : List Sighting → Course → Prop}
    (hstart : P [] (Course.start c))
    (hadd : ∀ xs x K m warning critical step, c.course xs = .ok K → P xs K →
      m.windowed = k.windowed →
      step = Measure.classify m c k.direction x.time (K.state.recount warning critical) →
      (∀ severity, m.breaches c k.direction severity =
        x.reading.breaches c step.state severity) → P (xs ++ [x]) (K.add x step))
    {xs : List Sighting} (hreads : ∀ x ∈ xs, k.Reads x.reading) {K : Course}
    (h : c.course xs = .ok K) : P xs K := by
  refine MetricConfig.course_induction
    (P := fun xs K => (∀ x ∈ xs, k.Reads x.reading) → P xs K) (fun _ => hstart) ?_ xs h hreads
  intro xs x K step hK ih hstep hreads
  have hx : k.Reads x.reading := hreads x (List.mem_append_right _ (List.mem_singleton_self x))
  obtain ⟨m, warning, critical, hwindowed, hclassify, hbreaches⟩ := hx.classify_eq hstep
  exact hadd xs x K m warning critical step hK
    (ih fun y hy => hreads y (List.mem_append_left _ hy)) hwindowed hclassify hbreaches

/-- Only enabled levels have open alerts. -/
theorem enabled_of_isSent {k : Comparison} {c : MetricConfig} {xs : List Sighting}
    (hreads : ∀ x ∈ xs, k.Reads x.reading) {K : Course} (h : c.course xs = .ok K)
    (severity : Severity) : K.state.isSent severity = true → (c.level severity).enabled = true := by
  refine course_induction (P := fun _ K =>
    K.state.isSent severity = true → (c.level severity).enabled = true) ?_ ?_ hreads h
  · intro hsent
    rw [Course.isSent_start] at hsent
    cases hsent
  · rintro xs x K m warning critical _ _ ih _ rfl _ hsent
    rw [← K.state.isSent_recount warning critical] at ih
    exact m.enabled_of_isSent_classify severity ih hsent

end Comparison

end NodeAlerts
