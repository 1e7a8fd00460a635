import NodeAlerts.Proofs.Course

/-!
# Alerts that follow the latest reading

Where no breach has to last, the flags of a metric forget its past: however the readings went up and
down before, after each of them the critical alert is open exactly if the reading is critical, and
the warning says as much of its own threshold unless a critical alert stands before it
(`flags_track_latest_reading`).
-/

namespace NodeAlerts

/-- The flags of a metric and one reading of it. -/
structure MetricState.Tracks (s : MetricState) (c : MetricConfig) (r : Reading) : Prop where
  /-- A critical alert is open exactly if the reading is critical. -/
  critical : s.critical.sent = (c.critical.enabled && r.breaches c s .critical)
  /-- A warning is open only if the reading calls for one. -/
  warning_of_sent : s.warning.sent = true →
    c.warning.enabled = true ∧ r.breaches c s .warning = true
  /-- Where no critical alert is open, a warning is open exactly if the reading calls for one. -/
  warning : s.critical.sent = false →
    s.warning.sent = (c.warning.enabled && r.breaches c s .warning)

namespace Alarm

variable (a : Alarm) (now : Instant)

/-- Without a window to wait for, a problem that is seen is one that is reported. -/
theorem sent_see_none (silenced : Bool) :
    (a.see none now silenced).sent = (a.sent || !silenced) := by
  rw [sent_see, raises]
  cases a.sent <;> rfl

end Alarm

namespace Measure

variable {m : Measure} {c : MetricConfig} (d : Direction) (now : Instant) {s : MetricState}

/-- Without a window to wait for, a critical alert is open exactly if the measure is critical. -/
theorem sent_critical_classify_of_not_windowed (hm : m.windowed = false)
    (hs : s.critical.sent = true → c.critical.enabled = true) :
    (m.classify c d now s).state.critical.sent =
      (c.critical.enabled && m.breaches c d .critical) := by
  rw [critical_classify]
  cases hproblem : c.critical.enabled && m.breaches c d .critical with
  | false => exact Alarm.sent_lapse_of_no_problem hs hproblem
  | true =>
      rw [if_pos rfl, start, hm]
      exact (s.critical.sent_see_none now false).trans (Bool.or_true _)

/-- A warning is open only if the measure calls for one, and it is open if no critical alert is. -/
theorem sent_warning_classify_of_not_windowed (hm : m.windowed = false)
    (hs : s.warning.sent = true → c.warning.enabled = true) :
    (m.classify c d now s).state.warning.sent =
      ((c.warning.enabled && m.breaches c d .warning) &&
        ((m.armed c d s).sent || !(m.classify c d now s).state.critical.sent)) := by
  rw [warning_classify]
  cases hproblem : c.warning.enabled && m.breaches c d .warning with
  | false => exact Alarm.sent_lapse_of_no_problem hs hproblem
  | true =>
      rw [if_pos rfl, start, hm]
      exact (m.armed c d s).sent_see_none now _

end Measure

/-- **The flags track the latest reading**, in a course of readings that are compared with the
thresholds in one way that does not wait for a window (over periods that start in the calendar,
where occurrences are counted). -/
theorem flags_track_latest_reading (c : MetricConfig) (k : Comparison) (hk : k.windowed = false)
    (earlier : List Sighting) (latest : Sighting)
    (hreads : ∀ x ∈ earlier ++ [latest], k.Reads x.reading)
    (hcovers : ∀ x ∈ earlier ++ [latest], c.Covers x) :
    ∃ K, c.course (earlier ++ [latest]) = .ok K ∧ K.state.Tracks c latest.reading := by
  obtain ⟨L, hL⟩ := MetricConfig.exists_course hcovers
  obtain ⟨K, step, hK, hstep, rfl⟩ := MetricConfig.course_concat_eq_ok hL
  have hearlier : ∀ x ∈ earlier, k.Reads x.reading :=
    fun x hx => hreads x (List.mem_append_left _ hx)
  have hlatest : k.Reads latest.reading :=
    hreads latest (List.mem_append_right _ (List.mem_singleton_self latest))
  obtain ⟨m, warning, critical, hm, rfl, hbreaches⟩ := hlatest.classify_eq hstep
  have hcritical : (m.classify c k.direction latest.time _).state.critical.sent = _ :=
    Measure.sent_critical_classify_of_not_windowed k.direction latest.time
      (s := K.state.recount warning critical) (hm.trans hk)
      (Comparison.enabled_of_isSent hearlier hK .critical)
  have hwarning : (m.classify c k.direction latest.time _).state.warning.sent = _ :=
    Measure.sent_warning_classify_of_not_windowed k.direction latest.time
      (s := K.state.recount warning critical) (hm.trans hk)
      (Comparison.enabled_of_isSent hearlier hK .warning)
  refine ⟨_, hL, ?_, ?_, ?_⟩
  · rw [Course.state_add, ← hbreaches]
    exact hcritical
  · rw [Course.state_add, ← hbreaches, hwarning, ← Bool.and_eq_true]
    exact fun hsent => (Bool.and_eq_true_iff.1 hsent).1
  · rw [Course.state_add, ← hbreaches, hwarning]
    intro hclosed
    rw [hclosed, Bool.not_false, Bool.or_true, Bool.and_true]

/-- Warnings from 2 occurrences within five seconds on, and critical alerts from 4 within ten. -/
def burstLevels : MetricConfig :=
  ⟨"counter", "chain_1", true, ⟨true, 2, ⟨5000000⟩⟩, ⟨true, 4, ⟨10000000⟩⟩, false, ⟨0⟩, none⟩

/-- A counter that rises by three and then by two, so that the occurrences are critical. -/
def burst : List Sighting :=
  [⟨⟨0⟩, .counter 3 (some 0)⟩, ⟨⟨4000000⟩, .counter 5 (some 3)⟩]

/-- The counter nine seconds later, at rest since then. -/
def afterBurst : Sighting := ⟨⟨13000000⟩, .counter 5 (some 5)⟩

/-- When only the later of the occurrences are left within the longer period, and none within the
shorter one, both alerts are closed. -/
theorem flags_track_latest_reading_afterBurst :
    Comparison.occurrences.windowed = false ∧
      (∀ x ∈ burst ++ [afterBurst], Comparison.occurrences.Reads x.reading) ∧
      (∀ x ∈ burst ++ [afterBurst], burstLevels.Covers x) ∧
      ∃ K, burstLevels.course (burst ++ [afterBurst]) = .ok K ∧
        K.state.Tracks burstLevels afterBurst.reading ∧
        K.beats.map (fun y => (y.step.state.critical.sent, y.step.state.warning.sent)) =
          [(false, true), (true, true), (false, false)] := by
  have hreads : ∀ x ∈ burst ++ [afterBurst], Comparison.occurrences.Reads x.reading := by
    simp [burst, afterBurst, Comparison.Reads]
  have hcovers : ∀ x ∈ burst ++ [afterBurst], burstLevels.Covers x := by
    intro x hx
    simp only [burst, List.cons_append, List.nil_append, List.mem_cons, List.not_mem_nil,
      or_false] at hx
    rcases hx with rfl | rfl | rfl <;> exact fun _ => by decide
  obtain ⟨K, hK, htracks⟩ :=
    flags_track_latest_reading burstLevels .occurrences rfl burst afterBurst hreads hcovers
  have hrun : (burstLevels.course (burst ++ [afterBurst])).map (fun K =>
      K.beats.map (fun y => (y.step.state.critical.sent, y.step.state.warning.sent))) =
        .ok [(false, true), (true, true), (false, false)] := by
    decide +kernel
  rw [hK] at hrun
  exact ⟨rfl, hreads, hcovers, K, hK, htracks, Except.ok.inj hrun⟩

end NodeAlerts
